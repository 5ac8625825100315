import CaptureFlow.Proofs.Table
import Mathlib.Algebra.GroupWithZero.Nat
import Mathlib.Data.List.Induction

/-!
# Gathering a batch in a table

A batch is gathered in one pass: each element that has a key is added to the value under
the name of its key, and any other element is left out. Where different keys have different
names, there stands in the end under the name of each key what the elements with this key
make by themselves, and no other name is in the table.
-/

namespace CaptureFlow

/-- How the elements of a batch are gathered. -/
structure Gathering (α π κ β : Type) where
  /-- The key of an element, if it has one. -/
  key? : α → Option π
  /-- The name of a key. -/
  name : π → κ
  /-- The value of a key without elements. -/
  fresh : π → β
  /-- The value with one more element. -/
  add : β → α → β

namespace Gathering

variable {α π κ β : Type}

/-! ## The value of a key -/

section Values

variable [DecidableEq π] (gathering : Gathering α π κ β)

/-- The value that the elements with a key make. -/
def value (key : π) (elements : List α) : β :=
  (elements.filter fun element => gathering.key? element = some key).foldl gathering.add
    (gathering.fresh key)

variable {gathering} {key : π} {elements : List α} {element : α}

/-- One more element with the key is added to its value. -/
theorem value_concat_self (h : gathering.key? element = some key) :
    gathering.value key (elements ++ [element]) =
      gathering.add (gathering.value key elements) element := by
  simp [value, h]

/-- Any other element leaves the value of the key as it is. -/
theorem value_concat_of_ne (h : gathering.key? element ≠ some key) :
    gathering.value key (elements ++ [element]) = gathering.value key elements := by
  simp [value, h]

/-- A key without elements has its first value. -/
theorem value_of_forall_ne (h : ∀ element ∈ elements, gathering.key? element ≠ some key) :
    gathering.value key elements = gathering.fresh key := by
  rw [value, List.filter_eq_nil_iff.mpr]
  · rfl
  · simpa using h

/-- An element without the key of a name changes nothing under that name. -/
theorem exists_concat_iff_of_ne {name : κ} {value : β}
    (hne : ∀ key, name = gathering.name key → gathering.key? element ≠ some key) :
    (∃ key, name = gathering.name key ∧ value = gathering.value key (elements ++ [element]) ∧
        ∃ other ∈ elements ++ [element], gathering.key? other = some key) ↔
      ∃ key, name = gathering.name key ∧ value = gathering.value key elements ∧
        ∃ other ∈ elements, gathering.key? other = some key := by
  refine exists_congr fun key => and_congr_right fun hname => ?_
  rw [value_concat_of_ne (hne key hname)]
  refine and_congr_right fun _ => ?_
  simp [hne key hname]

end Values

/-! ## The table of a batch -/

variable [Ord κ]

/-- The table with one more element. -/
def step (gathering : Gathering α π κ β) (table : Table κ β) (element : α) : Table κ β :=
  match gathering.key? element with
  | some key =>
    table.update (gathering.name key) (gathering.fresh key) (gathering.add · element)
  | none => table

/-- The table of a batch. -/
def run (gathering : Gathering α π κ β) (elements : List α) : Table κ β :=
  elements.foldl gathering.step []

/-- The table of a batch with one more element. -/
theorem run_concat (gathering : Gathering α π κ β) (elements : List α) (element : α) :
    gathering.run (elements ++ [element]) = gathering.step (gathering.run elements) element := by
  simp [run]

section Invariant

variable [DecidableEq π] [DecidableEq κ] {gathering : Gathering α π κ β} {elements : List α}
  {table : Table κ β}

variable (gathering) in
/-- What the table holds after some elements: under the name of each key that one of them
has, and under no other name, the value of that key. -/
structure Holds (seen : List α) (table : Table κ β) : Prop where
  /-- The names increase. -/
  increasing : Table.Increasing table
  /-- The table holds the values of the keys seen so far. -/
  find?_iff : ∀ name value, Table.find? table name = some value ↔
    ∃ key, name = gathering.name key ∧ value = gathering.value key seen ∧
      ∃ element ∈ seen, gathering.key? element = some key

/-- Nothing is held before the first element. -/
theorem Holds.nil : gathering.Holds [] [] where
  increasing := Table.increasing_nil
  find?_iff name value := by simp [Table.find?]

/-- The table yields the value of a key, be there elements with it or not. -/
theorem Holds.getD_find? (h : gathering.Holds elements table)
    (hname : Function.Injective gathering.name) (key : π) :
    (Table.find? table (gathering.name key)).getD (gathering.fresh key) =
      gathering.value key elements := by
  cases hfind : Table.find? table (gathering.name key) with
  | some value =>
    obtain ⟨found, hfound, hvalue, -⟩ := (h.find?_iff _ _).mp hfind
    rw [Option.getD_some, hvalue, hname hfound]
  | none =>
    rw [Option.getD_none]
    refine (value_of_forall_ne fun element helement hkey => ?_).symm
    have hsome := (h.find?_iff _ _).mpr ⟨key, rfl, rfl, element, helement, hkey⟩
    rw [hfind] at hsome
    cases hsome

/-- One more element keeps the invariant. -/
theorem Holds.step [Std.TransOrd κ] [Std.LawfulEqOrd κ] (h : gathering.Holds elements table)
    (hname : Function.Injective gathering.name) (element : α) :
    gathering.Holds (elements ++ [element]) (gathering.step table element) := by
  cases hkey : gathering.key? element with
  | none =>
    rw [Gathering.step, hkey]
    refine ⟨h.increasing, fun name value => ?_⟩
    rw [h.find?_iff, exists_concat_iff_of_ne]
    intro key _
    rw [hkey]
    nofun
  | some key =>
    rw [Gathering.step, hkey]
    refine ⟨Table.increasing_update h.increasing .., fun name value => ?_⟩
    by_cases hsame : name = gathering.name key
    · subst hsame
      rw [Table.find?_update_self h.increasing, h.getD_find? hname, ← value_concat_self hkey,
        Option.some.injEq]
      constructor
      · intro hvalue
        exact ⟨key, rfl, hvalue.symm, element, by simp, hkey⟩
      · rintro ⟨found, hfound, hvalue, -⟩
        rw [hvalue, hname hfound]
    · rw [Table.find?_update_of_ne _ hsame, h.find?_iff, exists_concat_iff_of_ne]
      intro found hfound heq
      rw [hkey] at heq
      cases heq
      exact hsame hfound

/-- The invariant holds of the table of a batch. -/
theorem holds_run [Std.TransOrd κ] [Std.LawfulEqOrd κ]
    (hname : Function.Injective gathering.name) (elements : List α) :
    gathering.Holds elements (gathering.run elements) := by
  induction elements using List.reverseRecOn with
  | nil => exact Holds.nil
  | append_singleton elements element ih =>
    rw [run_concat]
    exact ih.step hname element

/-- The entries of the table of a batch are the values of the keys in the batch. -/
theorem mem_run_iff [Std.TransOrd κ] [Std.LawfulEqOrd κ]
    (hname : Function.Injective gathering.name) {entry : κ × β} :
    entry ∈ gathering.run elements ↔
      ∃ key, entry = (gathering.name key, gathering.value key elements) ∧
        ∃ element ∈ elements, gathering.key? element = some key := by
  have hholds := holds_run hname elements
  obtain ⟨name, value⟩ := entry
  rw [hholds.increasing.mem_iff_find?, hholds.find?_iff]
  simp only [Prod.mk.injEq, and_assoc]

end Invariant

/-! ## Sums over the table -/

/-- A measure that an update raises by some amount is raised by it in the whole table. -/
theorem sum_update {measure : β → Nat} {fresh : β} {change : β → β} {amount : Nat}
    (hfresh : measure fresh = 0) (hchange : ∀ value, measure (change value) = measure value + amount)
    (table : Table κ β) (name : κ) :
    ((table.update name fresh change).map fun entry => measure entry.2).sum =
      (table.map fun entry => measure entry.2).sum + amount := by
  induction table with
  | nil => simp [Table.update, hchange, hfresh]
  | cons head rest ih =>
    rw [Table.update]
    split
    · simp only [List.map_cons, List.sum_cons, hchange, hfresh]
      omega
    · simp only [List.map_cons, List.sum_cons, hchange]
      omega
    · simp only [List.map_cons, List.sum_cons, ih]
      omega

/-- A measure that each element raises by its own amount sums up over the table to the
amounts of the elements that have a key. -/
theorem sum_run (gathering : Gathering α π κ β) {measure : β → Nat} {amount : α → Nat}
    (hfresh : ∀ key, measure (gathering.fresh key) = 0)
    (hadd : ∀ value element,
      measure (gathering.add value element) = measure value + amount element)
    (elements : List α) :
    ((gathering.run elements).map fun entry => measure entry.2).sum =
      ((elements.filter fun element => (gathering.key? element).isSome).map amount).sum := by
  induction elements using List.reverseRecOn with
  | nil => rfl
  | append_singleton elements element ih =>
    rw [run_concat, step, List.filter_append, List.map_append, List.sum_append, ← ih]
    cases hkey : gathering.key? element with
    | none => simp [hkey]
    | some key =>
      dsimp only
      rw [sum_update (hfresh key) fun value => hadd value element]
      simp [hkey]

end Gathering

end CaptureFlow
