/-!
# Maps from names

Finite maps from names, kept as association lists that ascend by name. Main statements:
`get?_insert_self` and `get?_insert_of_ne` say what an insertion does to the entries.
-/

namespace SpatialGrammar

/-- What patterns, components and cell types are called. -/
abbrev Name := String

/-- A finite map from names, its entries in ascending order of their names. -/
structure NameMap (β : Type) where
  entries : List (Name × β)
  deriving Repr

namespace NameMap

variable {β γ : Type}

/-- The map without entries. -/
def empty : NameMap β := ⟨[]⟩

instance : Inhabited (NameMap β) := ⟨empty⟩

/-- The value under a name. -/
def get? (m : NameMap β) (name : Name) : Option β :=
  (m.entries.find? fun entry => entry.1 == name).map (·.2)

/-- Whether there is a value under a name. -/
def contains (m : NameMap β) (name : Name) : Bool := m.entries.any fun entry => entry.1 == name

/-- Puts an entry in its place, taking the place of one with the same name. -/
def insertEntry (name : Name) (value : β) : List (Name × β) → List (Name × β)
  | [] => [(name, value)]
  | (other, old) :: rest =>
    if name = other then (name, value) :: rest
    else if name < other then (name, value) :: (other, old) :: rest
    else (other, old) :: insertEntry name value rest

/-- The map with a value under a name, whatever was there. -/
def insert (m : NameMap β) (name : Name) (value : β) : NameMap β :=
  ⟨insertEntry name value m.entries⟩

/-- The map of a list of entries; a later entry takes the place of an earlier one. -/
def ofList (entries : List (Name × β)) : NameMap β :=
  entries.foldl (fun m entry => m.insert entry.1 entry.2) empty

/-- The entries in ascending order of their names. -/
def toList (m : NameMap β) : List (Name × β) := m.entries

/-- The names in ascending order. -/
def names (m : NameMap β) : List Name := m.entries.map (·.1)

/-- The values in ascending order of their names. -/
def values (m : NameMap β) : List β := m.entries.map (·.2)

/-- Whether the map has no entries. -/
def isEmpty (m : NameMap β) : Bool := m.entries.isEmpty

/-- Applies a function to every value. -/
def mapValues (f : β → γ) (m : NameMap β) : NameMap γ :=
  ⟨m.entries.map fun entry => (entry.1, f entry.2)⟩

@[simp] theorem get?_empty (name : Name) : (empty : NameMap β).get? name = none := rfl

theorem find?_insertEntry_self (name : Name) (value : β) (entries : List (Name × β)) :
    (insertEntry name value entries).find? (fun entry => entry.1 == name) = some (name, value) := by
  induction entries with
  | nil => simp [insertEntry]
  | cons entry rest ih =>
    rcases entry with ⟨other, old⟩
    simp only [insertEntry]
    split
    · simp
    · split
      · simp
      · rename_i h _
        have : ¬ other = name := fun e => h e.symm
        simp [this, ih]

theorem find?_insertEntry_of_ne {name other : Name} (h : other ≠ name) (value : β)
    (entries : List (Name × β)) :
    (insertEntry name value entries).find? (fun entry => entry.1 == other)
      = entries.find? fun entry => entry.1 == other := by
  have h' : ¬ name = other := fun e => h e.symm
  induction entries with
  | nil => simp [insertEntry, h']
  | cons entry rest ih =>
    rcases entry with ⟨key, old⟩
    simp only [insertEntry]
    split
    · rename_i e; subst e; simp [h']
    · split
      · simp [h']
      · simp [List.find?_cons, ih]

@[simp] theorem get?_insert_self (m : NameMap β) (name : Name) (value : β) :
    (m.insert name value).get? name = some value := by
  simp [get?, insert, find?_insertEntry_self]

theorem get?_insert_of_ne (m : NameMap β) {name other : Name} (h : other ≠ name) (value : β) :
    (m.insert name value).get? other = m.get? other := by
  simp [get?, insert, find?_insertEntry_of_ne h]

end NameMap

end SpatialGrammar
