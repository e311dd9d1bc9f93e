/-!
# Stored macros

A host keeps macros as it likes; all that is asked of it is the text under a name (`StoredMacros`),
and the answer is the same whenever it is asked. `MacroStore` is a collection that is kept in
memory, where later insertions replace earlier ones of the same name.
-/

namespace MacroStream

/-- What a host answers for the names of macros. -/
@[ext]
structure StoredMacros where
  /-- The text of the macro called `name`. -/
  get? (name : String) : Option String

/-- A collection of macro texts, one for each name. -/
structure MacroStore where
  /-- The names with their texts; no name occurs twice. -/
  entries : List (String × String)
  deriving Repr, Inhabited

namespace MacroStore

/-- A collection without macros. -/
def empty : MacroStore := ⟨[]⟩

/-- Puts a text in place of the one of that name, or behind all others. -/
def insertEntry (name text : String) : List (String × String) → List (String × String)
  | [] => [(name, text)]
  | (n, t) :: rest =>
    if n = name then (name, text) :: rest else (n, t) :: insertEntry name text rest

/-- The collection with `text` as the macro called `name`. -/
def insert (s : MacroStore) (name text : String) : MacroStore :=
  ⟨insertEntry name text s.entries⟩

/-- The text of the macro called `name`. -/
def get? (s : MacroStore) (name : String) : Option String := s.entries.lookup name

/-- The collection as a host that keeps it answers for it. -/
def toStoredMacros (s : MacroStore) : StoredMacros := ⟨s.get?⟩

instance : Coe MacroStore StoredMacros := ⟨toStoredMacros⟩

/-- The same where there may be no collection. -/
instance : Coe (Option MacroStore) (Option StoredMacros) := ⟨Option.map toStoredMacros⟩

/-- How many macros there are. -/
def size (s : MacroStore) : Nat := s.entries.length

/-- Whether there is no macro. -/
def isEmpty (s : MacroStore) : Bool := s.entries.isEmpty

/-- The collection of the given macros, the last text of each name. -/
def ofList (entries : List (String × String)) : MacroStore :=
  entries.foldl (fun s (name, text) ↦ s.insert name text) empty

theorem lookup_insertEntry (name text other : String) (es : List (String × String)) :
    (insertEntry name text es).lookup other =
      if other = name then some text else es.lookup other := by
  induction es with
  | nil => grind [insertEntry]
  | cons e es ih => grind [insertEntry]

/-- An insertion changes what is found under its name and nothing else. -/
@[simp] theorem get?_insert (s : MacroStore) (name text other : String) :
    (s.insert name text).get? other = if other = name then some text else s.get? other :=
  lookup_insertEntry name text other s.entries

end MacroStore

end MacroStream
