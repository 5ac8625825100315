import CaptureFlow.Table

/-!
# Tables as partial functions

A table whose keys increase holds one value for each key. Changing the value at a
key keeps the keys increasing, answers the changed value at that key, and leaves
every other key as it was.
-/

namespace CaptureFlow.Table

variable {κ β : Type} [Ord κ]

/-- No key is less than itself. -/
theorem compare_self_ne_lt [Std.LawfulEqOrd κ] (key : κ) : compare key key ≠ .lt := by
  rw [Std.LawfulEqOrd.compare_eq_iff_eq.mpr rfl]
  decide

/-- The keys of a table increase. -/
def Increasing (table : Table κ β) : Prop :=
  table.Pairwise fun left right => compare left.1 right.1 = .lt

/-- A table without keys increases. -/
theorem increasing_nil : Increasing ([] : Table κ β) :=
  List.Pairwise.nil

/-- An updated table has the old keys and the new one. -/
theorem key_of_mem_update [Std.LawfulEqOrd κ] {table : Table κ β} {key : κ} {fresh : β}
    {change : β → β} {entry : κ × β} (h : entry ∈ table.update key fresh change) :
    entry.1 = key ∨ ∃ old ∈ table, old.1 = entry.1 := by
  induction table with
  | nil =>
    simp only [update, List.mem_singleton] at h
    exact .inl (by rw [h])
  | cons head rest ih =>
    obtain ⟨k, value⟩ := head
    rw [update] at h
    split at h
    · rcases List.mem_cons.mp h with rfl | h
      · exact .inl rfl
      · exact .inr ⟨entry, h, rfl⟩
    · rename_i hkey
      rcases List.mem_cons.mp h with rfl | h
      · exact .inl (Std.LawfulEqOrd.compare_eq_iff_eq.mp hkey).symm
      · exact .inr ⟨entry, List.mem_cons_of_mem _ h, rfl⟩
    · rcases List.mem_cons.mp h with rfl | h
      · exact .inr ⟨_, List.mem_cons_self, rfl⟩
      · rcases ih h with h | ⟨old, hold, hkey⟩
        · exact .inl h
        · exact .inr ⟨old, List.mem_cons_of_mem _ hold, hkey⟩

/-- Changing the value at a key keeps the keys increasing. -/
theorem increasing_update [Std.TransOrd κ] [Std.LawfulEqOrd κ] {table : Table κ β}
    (h : Increasing table) (key : κ) (fresh : β) (change : β → β) :
    Increasing (table.update key fresh change) := by
  induction table with
  | nil => exact List.pairwise_singleton _ _
  | cons head rest ih =>
    obtain ⟨k, value⟩ := head
    obtain ⟨hhead, hrest⟩ := List.pairwise_cons.mp h
    rw [update]
    split
    · rename_i hkey
      refine List.pairwise_cons.mpr ⟨fun entry hentry => ?_, h⟩
      rcases List.mem_cons.mp hentry with rfl | hentry
      · exact hkey
      · exact Std.TransCmp.lt_trans hkey (hhead entry hentry)
    · exact List.pairwise_cons.mpr ⟨hhead, hrest⟩
    · rename_i hkey
      refine List.pairwise_cons.mpr ⟨fun entry hentry => ?_, ih hrest⟩
      rcases key_of_mem_update hentry with hnew | ⟨old, hold, hsame⟩
      · rw [hnew]
        exact Std.OrientedCmp.lt_of_gt hkey
      · rw [← hsame]
        exact hhead old hold

/-- No key stands twice in a table whose keys increase. -/
theorem Increasing.nodup_keys [Std.LawfulEqOrd κ] {table : Table κ β} (h : Increasing table) :
    (table.map Prod.fst).Nodup := by
  rw [List.nodup_iff_pairwise_ne, List.pairwise_map]
  apply h.imp
  intro left right hlt heq
  rw [heq] at hlt
  exact compare_self_ne_lt _ hlt

variable [DecidableEq κ]

omit [Ord κ] in
/-- Looking up the key in front answers its value. -/
@[simp] theorem find?_cons_self (key : κ) (value : β) (rest : Table κ β) :
    find? ((key, value) :: rest) key = some value := by
  simp [find?]

omit [Ord κ] in
/-- Looking up another key passes over the front. -/
theorem find?_cons_of_ne {k key : κ} (h : k ≠ key) (value : β) (rest : Table κ β) :
    find? ((k, value) :: rest) key = find? rest key := by
  simp [find?, h]

/-- A key below all keys of a table is not in it. -/
theorem find?_eq_none [Std.LawfulEqOrd κ] {table : Table κ β} {key : κ}
    (h : ∀ entry ∈ table, compare key entry.1 = .lt) : find? table key = none := by
  simp only [find?, Option.map_eq_none_iff, List.find?_eq_none, decide_eq_true_eq]
  intro entry hentry heq
  have hlt := h entry hentry
  rw [heq] at hlt
  exact compare_self_ne_lt _ hlt

/-- A table whose keys increase has an entry where a look-up answers its value. -/
theorem Increasing.mem_iff_find? [Std.LawfulEqOrd κ] {table : Table κ β} (h : Increasing table)
    {key : κ} {value : β} : (key, value) ∈ table ↔ find? table key = some value := by
  induction table with
  | nil => simp [find?]
  | cons head rest ih =>
    obtain ⟨k, v⟩ := head
    obtain ⟨hhead, hrest⟩ := List.pairwise_cons.mp h
    by_cases hkey : k = key
    · subst hkey
      have hnone : ∀ value, (k, value) ∉ rest :=
        fun value hmem => compare_self_ne_lt k (hhead (k, value) hmem)
      simp [hnone value, eq_comm]
    · rw [find?_cons_of_ne hkey, ← ih hrest]
      simp [Ne.symm hkey]

/-- At the changed key stands the changed value. -/
theorem find?_update_self [Std.LawfulEqOrd κ] [Std.TransOrd κ] {table : Table κ β}
    (h : Increasing table) (key : κ) (fresh : β) (change : β → β) :
    find? (table.update key fresh change) key = some (change ((find? table key).getD fresh)) := by
  induction table with
  | nil => simp [update, find?]
  | cons head rest ih =>
    obtain ⟨k, value⟩ := head
    obtain ⟨hhead, hrest⟩ := List.pairwise_cons.mp h
    rw [update]
    split
    · rename_i hkey
      have hnone : find? ((k, value) :: rest) key = none := by
        apply find?_eq_none
        intro entry hentry
        rcases List.mem_cons.mp hentry with rfl | hentry
        · exact hkey
        · exact Std.TransCmp.lt_trans hkey (hhead entry hentry)
      rw [find?_cons_self, hnone, Option.getD_none]
    · rename_i hkey
      have hsame := Std.LawfulEqOrd.compare_eq_iff_eq.mp hkey
      subst hsame
      simp
    · rename_i hkey
      have hne : k ≠ key := by
        rintro rfl
        rw [Std.LawfulEqOrd.compare_eq_iff_eq.mpr rfl] at hkey
        cases hkey
      rw [find?_cons_of_ne hne, find?_cons_of_ne hne, ih hrest]

/-- Every other key keeps its value. -/
theorem find?_update_of_ne [Std.LawfulEqOrd κ] (table : Table κ β) {k key : κ} (h : k ≠ key)
    (fresh : β) (change : β → β) :
    find? (table.update key fresh change) k = find? table k := by
  induction table with
  | nil => simp [update, find?, Ne.symm h]
  | cons head rest ih =>
    obtain ⟨first, value⟩ := head
    rw [update]
    split
    · rw [find?_cons_of_ne (Ne.symm h)]
    · rename_i hkey
      have hsame := Std.LawfulEqOrd.compare_eq_iff_eq.mp hkey
      subst hsame
      rw [find?_cons_of_ne (Ne.symm h), find?_cons_of_ne (Ne.symm h)]
    · by_cases hfirst : first = k
      · subst hfirst
        simp
      · rw [find?_cons_of_ne hfirst, find?_cons_of_ne hfirst, ih]

end CaptureFlow.Table
