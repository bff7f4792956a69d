namespace Bayeux

/-!
# Tables

Finite tables from keys to values.  Everything a client of a table can see goes
through `get?`; the entry set last comes first in the list of entries.
-/

structure Table (κ : Type) (α : Type) where
  entries : List (κ × α) := []
deriving Repr

namespace Table

variable {κ α : Type} [DecidableEq κ]

instance : EmptyCollection (Table κ α) := ⟨⟨[]⟩⟩

instance : Inhabited (Table κ α) := ⟨⟨[]⟩⟩

def get? (t : Table κ α) (key : κ) : Option α :=
  (t.entries.find? fun entry => entry.1 = key).map (·.2)

def getD (t : Table κ α) (key : κ) (default : α) : α :=
  (t.get? key).getD default

def contains (t : Table κ α) (key : κ) : Bool :=
  (t.get? key).isSome

def erase (t : Table κ α) (key : κ) : Table κ α :=
  { entries := t.entries.filter fun entry => entry.1 ≠ key }

def insert (t : Table κ α) (key : κ) (value : α) : Table κ α :=
  { entries := (key, value) :: (t.erase key).entries }

/-- Changes the value of a key, if it has one. -/
def modify (t : Table κ α) (key : κ) (change : α → α) : Table κ α :=
  match t.get? key with
  | some value => t.insert key (change value)
  | none => t

def keys (t : Table κ α) : List κ :=
  t.entries.map (·.1)

def size (t : Table κ α) : Nat :=
  t.entries.length

def isEmpty (t : Table κ α) : Bool :=
  t.entries.isEmpty

/-- Of several entries of one key the last one counts. -/
def ofList (list : List (κ × α)) : Table κ α :=
  list.foldl (fun t entry => t.insert entry.1 entry.2) ∅

/-! ## What `get?` sees of each operation -/

@[simp] theorem get?_empty (key : κ) : (∅ : Table κ α).get? key = none := rfl

theorem get?_erase_self (t : Table κ α) (key : κ) : (t.erase key).get? key = none := by
  simp [get?, erase, List.find?_filter]

theorem get?_erase_of_ne (t : Table κ α) {key other : κ} (distinct : other ≠ key) :
    (t.erase key).get? other = t.get? other := by
  unfold get? erase
  rw [List.find?_filter]
  congr 2
  funext entry
  by_cases same : entry.1 = other
  · simp [same, distinct]
  · simp [same]

theorem get?_insert_self (t : Table κ α) (key : κ) (value : α) :
    (t.insert key value).get? key = some value := by
  simp [get?, insert]

theorem get?_insert_of_ne (t : Table κ α) {key other : κ} (distinct : other ≠ key)
    (value : α) : (t.insert key value).get? other = t.get? other := by
  have unequal : ¬ key = other := fun same => distinct same.symm
  rw [← get?_erase_of_ne t distinct]
  simp [get?, insert, unequal]

end Table

end Bayeux
