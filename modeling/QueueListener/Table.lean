/-!
# Tables

**A table holds entries in the order in which their keys came in.** Setting a key that is present
changes its entry in place.
-/

namespace QueueListener

/-- Entries with a key, oldest key first. -/
structure Table (κ α : Type) where
  entries : List (κ × α)
  deriving DecidableEq, Repr

namespace Table

variable {κ α : Type} [DecidableEq κ]

/-- The table without entries. -/
def empty : Table κ α := ⟨[]⟩

/-- The value at a key. -/
def get? (t : Table κ α) (key : κ) : Option α := (t.entries.find? (·.1 = key)).map (·.2)

/-- Whether the key has an entry. -/
def contains (t : Table κ α) (key : κ) : Bool := (t.get? key).isSome

/-- The keys, oldest first. -/
def keys (t : Table κ α) : List κ := t.entries.map (·.1)

/-- The values, in the order of their keys. -/
def values (t : Table κ α) : List α := t.entries.map (·.2)

/-- Changes the value at a key; a key without an entry stays without one. -/
def modify (t : Table κ α) (key : κ) (f : α → α) : Table κ α :=
  ⟨t.entries.map fun entry => if entry.1 = key then (entry.1, f entry.2) else entry⟩

/-- Sets the value at a key, in place or behind all others. -/
def set (t : Table κ α) (key : κ) (value : α) : Table κ α :=
  if t.contains key then t.modify key fun _ => value else ⟨t.entries ++ [(key, value)]⟩

/-- Removes the entry of a key. -/
def erase (t : Table κ α) (key : κ) : Table κ α := ⟨t.entries.filter (·.1 ≠ key)⟩

end Table

end QueueListener
