/-!
# Paths

A path is its text. The operations read it as a list of components separated by `/`, in which empty
components and `.` count for nothing, except a `.` that stands first. Two spellings with the same
components are the same path (`same`), but an operation that answers a path keeps the spelling it
was given.
-/

namespace MacroStream

/-- One component of a path. -/
inductive PathPart where
  | root
  | here
  | up
  | name (cs : List Char)
  deriving DecidableEq, Repr

namespace PathPart

/-- The spelling of a component. -/
def chars : PathPart → List Char
  | root => ['/']
  | here => ['.']
  | up => ['.', '.']
  | name cs => cs

end PathPart

/-- A path, as it was spelled. -/
structure Path where
  text : String
  deriving DecidableEq, Repr, Inhabited, BEq, Hashable

namespace Path

/-- The pieces of `cs` between the separators. -/
def pieces : List Char → List (List Char)
  | [] => [[]]
  | c :: cs =>
    match pieces cs with
    | [] => [[c]]
    | p :: ps => if c = '/' then [] :: p :: ps else (c :: p) :: ps

/-- The component that a piece stands for, if it counts for one behind the first place. -/
def partOf? (piece : List Char) : Option PathPart :=
  match piece with
  | [] => none
  | ['.'] => none
  | ['.', '.'] => some .up
  | cs => some (.name cs)

/-- Whether a path starts at the root. -/
def isAbsolute (p : Path) : Bool :=
  match p.text.toList with
  | '/' :: _ => true
  | _ => false

/-- The components of a path. -/
def parts (p : Path) : List PathPart :=
  let cs := p.text.toList
  match pieces cs with
  | [] => []
  | first :: rest =>
    let later := rest.filterMap partOf?
    if p.isAbsolute then .root :: later
    else if first = ['.'] then .here :: later
    else (partOf? first).toList ++ later

/-- Whether two spellings name the same path. -/
def same (p q : Path) : Bool := p.parts == q.parts

/-- Whether the components of `dir` are the first ones of `p`. -/
def startsWith (p dir : Path) : Bool := dir.parts.isPrefixOf p.parts

/-- `q` below `p`; an absolute `q` stands for itself. -/
def join (p q : Path) : Path :=
  if q.isAbsolute then q
  else if p.text.isEmpty || p.text.toList.getLast? = some '/' then ⟨p.text ++ q.text⟩
  else ⟨p.text ++ "/" ++ q.text⟩

/-- The last component, when it is a name. -/
def fileName? (p : Path) : Option (List Char) :=
  match p.parts.getLast? with
  | some (.name cs) => some cs
  | _ => none

/-- A file name cut at its last dot: what stands before it, and what stands behind it. A name that
starts with its only dot is not cut. -/
def cutName (cs : List Char) : List Char × Option (List Char) :=
  let ext := (cs.reverse.takeWhile (· ≠ '.')).reverse
  let stem := cs.take (cs.length - ext.length - 1)
  if cs = ['.', '.'] || stem.isEmpty then (cs, none) else (stem, some ext)

/-- The file name without its extension. -/
def stem? (p : Path) : Option String :=
  p.fileName?.map fun cs ↦ String.ofList (cutName cs).1

/-- What stands behind the last dot of the file name. -/
def extension? (p : Path) : Option String :=
  p.fileName?.bind fun cs ↦ (cutName cs).2.map String.ofList

/-- The part of the spelling that holds all components but the last, for a path that has more than
the root. -/
def parent? (p : Path) : Option Path :=
  match p.parts.reverse with
  | [] => none
  | .root :: _ => none
  | last :: _ =>
    let cs := p.text.toList
    some ⟨String.ofList (dropTail last.chars cs.reverse).reverse⟩
where
  /-- Drops the last component, and what counts for nothing around it, from a reversed spelling. -/
  dropTail (last rev : List Char) : List Char :=
    dropIgnored ((dropIgnored rev).drop last.length)
  /-- Drops separators, and the dots that stand behind a separator, from a reversed spelling; a lone
  separator is the root and stays. -/
  dropIgnored : List Char → List Char
    | ['/'] => ['/']
    | '/' :: cs => dropIgnored cs
    | '.' :: '/' :: cs => dropIgnored ('/' :: cs)
    | cs => cs
  termination_by cs => cs.length

instance : ToString Path := ⟨Path.text⟩

end Path

end MacroStream
