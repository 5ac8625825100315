import Mathlib.Data.List.Forall2

/-!
# Passes that stop at the first failure

A computation in steps fails as the first step that fails does. A pass over a list fails as it
does at the first element where it fails, whatever stands behind that, and has a value for
each element otherwise.
-/

namespace CaptureFlow

variable {α β ε σ : Type}

/-- All parts of a computation that succeeds succeed. -/
theorem exists_of_bind_ok {first : Except ε α} {next : α → Except ε β} {made : β}
    (h : first >>= next = .ok made) : ∃ value, first = .ok value ∧ next value = .ok made := by
  cases first with
  | error fault => cases h
  | ok value => exact ⟨value, rfl, h⟩

/-- A fold fails as its first step that fails does. -/
theorem foldlM_eq_error {step : σ → α → Except ε σ} {front : List α} {x : α} {reason : ε}
    (hfront : ∀ y ∈ front, ∀ state, ∃ next, step state y = .ok next)
    (hx : ∀ state, step state x = .error reason) (rest : List α) (state : σ) :
    (front ++ x :: rest).foldlM step state = .error reason := by
  induction front generalizing state with
  | nil =>
    rw [List.nil_append, List.foldlM_cons, hx]
    rfl
  | cons y front ih =>
    obtain ⟨next, hnext⟩ := hfront y List.mem_cons_self state
    rw [List.cons_append, List.foldlM_cons, hnext]
    exact ih (fun z hz => hfront z (List.mem_cons_of_mem _ hz)) next

/-- Unless all elements are of a kind, there is a first one that is not. -/
theorem exists_first_of_not_forall {p : α → Prop} [DecidablePred p] {xs : List α}
    (h : ¬∀ x ∈ xs, p x) :
    ∃ front x rest, xs = front ++ x :: rest ∧ (∀ y ∈ front, p y) ∧ ¬p x := by
  cases hfind : xs.find? fun x => ¬p x with
  | none =>
    rw [List.find?_eq_none] at hfind
    exact absurd (fun x hx => by simpa using hfind x hx) h
  | some x =>
    obtain ⟨hx, front, rest, hsplit, hfront⟩ := List.find?_eq_some_iff_append.mp hfind
    exact ⟨front, x, rest, hsplit, fun y hy => by simpa using hfront y hy, by simpa using hx⟩

section Maps

variable {f : α → Except ε β} {xs : List α}

/-- A map over one element and others has its value and theirs, or fails. -/
theorem mapM_cons_eq_ok_iff {x : α} {ys : List β} : (x :: xs).mapM f = .ok ys ↔
    ∃ y others, f x = .ok y ∧ xs.mapM f = .ok others ∧ ys = y :: others := by
  rw [List.mapM_cons]
  constructor
  · intro h
    obtain ⟨y, hy, h⟩ := exists_of_bind_ok h
    obtain ⟨others, hothers, h⟩ := exists_of_bind_ok h
    exact ⟨y, others, hy, hothers, (Except.ok.inj h).symm⟩
  · rintro ⟨y, others, hy, hothers, rfl⟩
    rw [hy, hothers]
    rfl

/-- It fails at the first element, or at another one. -/
theorem mapM_cons_eq_error_iff {x : α} {reason : ε} : (x :: xs).mapM f = .error reason ↔
    f x = .error reason ∨ (∃ y, f x = .ok y) ∧ xs.mapM f = .error reason := by
  rw [List.mapM_cons]
  cases f x with
  | error other => simp [bind, Except.bind]
  | ok y => cases xs.mapM f <;> simp [bind, Except.bind, pure, Except.pure]

/-- A map has the values of all elements, or fails. -/
theorem mapM_eq_ok_iff {ys : List β} :
    xs.mapM f = .ok ys ↔ List.Forall₂ (fun x y => f x = .ok y) xs ys := by
  induction xs generalizing ys with
  | nil =>
    rw [List.mapM_nil, List.forall₂_nil_left_iff]
    exact ⟨fun h => (Except.ok.inj h).symm, fun h => h ▸ rfl⟩
  | cons x xs ih =>
    rw [mapM_cons_eq_ok_iff, List.forall₂_cons_left_iff]
    simp only [ih]

/-- It succeeds just if it fails at no element. -/
theorem exists_mapM_eq_ok_iff : (∃ ys, xs.mapM f = .ok ys) ↔ ∀ x ∈ xs, ∃ y, f x = .ok y := by
  induction xs with
  | nil => exact ⟨fun _ => nofun, fun _ => ⟨[], rfl⟩⟩
  | cons x xs ih =>
    rw [List.forall_mem_cons, ← ih]
    constructor
    · rintro ⟨ys, hys⟩
      obtain ⟨y, others, hy, hothers, rfl⟩ := mapM_cons_eq_ok_iff.mp hys
      exact ⟨⟨y, hy⟩, others, hothers⟩
    · rintro ⟨⟨y, hy⟩, others, hothers⟩
      exact ⟨y :: others, mapM_cons_eq_ok_iff.mpr ⟨y, others, hy, hothers, rfl⟩⟩

/-- It fails for a reason just if that is the one at the first element where it fails. -/
theorem mapM_eq_error_iff {reason : ε} : xs.mapM f = .error reason ↔
    ∃ front x rest, xs = front ++ x :: rest ∧ (∀ y ∈ front, ∃ z, f y = .ok z) ∧
      f x = .error reason := by
  induction xs with
  | nil =>
    constructor
    · rw [List.mapM_nil]
      nofun
    · rintro ⟨front, x, rest, hsplit, -⟩
      cases front <;> cases hsplit
  | cons x xs ih =>
    rw [mapM_cons_eq_error_iff]
    constructor
    · rintro (hx | ⟨hx, hrest⟩)
      · exact ⟨[], x, xs, rfl, nofun, hx⟩
      · obtain ⟨front, other, rest, rfl, hfront, hother⟩ := ih.mp hrest
        exact ⟨x :: front, other, rest, rfl, List.forall_mem_cons.mpr ⟨hx, hfront⟩, hother⟩
    · rintro ⟨front, other, rest, hsplit, hfront, hother⟩
      cases front with
      | nil =>
        cases hsplit
        exact .inl hother
      | cons first front =>
        cases hsplit
        obtain ⟨hfirst, hfront⟩ := List.forall_mem_cons.mp hfront
        exact .inr ⟨hfirst, ih.mpr ⟨front, other, rest, rfl, hfront, hother⟩⟩

end Maps

end CaptureFlow
