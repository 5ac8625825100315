/-!
# Tables in key order

A table is a list of keys with values whose keys increase. Flows, sequence
numbers and request targets are told in this order.
-/

namespace CaptureFlow

/-- Keys with their values, in increasing order of the keys. -/
abbrev Table (κ β : Type) := List (κ × β)

namespace Table

/-- Changes the value at a key; a new key starts from `fresh`. -/
def update {κ β : Type} [Ord κ] (key : κ) (fresh : β) (change : β → β) : Table κ β → Table κ β
  | [] => [(key, change fresh)]
  | (k, value) :: rest =>
    match compare key k with
    | .lt => (key, change fresh) :: (k, value) :: rest
    | .eq => (k, change value) :: rest
    | .gt => (k, value) :: update key fresh change rest

/-- Sets the value at a key. -/
def insert {κ β : Type} [Ord κ] (key : κ) (value : β) (table : Table κ β) : Table κ β :=
  update key value (fun _ => value) table

/-- The value at a key. -/
def find? {κ β : Type} [DecidableEq κ] (table : Table κ β) (key : κ) : Option β :=
  (List.find? (fun entry => decide (entry.1 = key)) table).map Prod.snd

end Table

end CaptureFlow
