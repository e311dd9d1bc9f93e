import MacroStream.Toml.Scalar
import MacroStream.Toml.Table

/-!
# Reading a settings file

A file is a list of lines: headers, which choose the table that the keys below them belong to, and
keys with values. Arrays may go over several lines, tables between braces may not. Values nest at
most 79 deep, and a key has fewer than 80 parts.
-/

namespace MacroStream.Toml

/-- Without a comment in front; `none` when it holds a character that comments may not hold. -/
def skipComment : List Char → Option (List Char)
  | '#' :: r =>
    match r.dropWhile isPlain with
    | [] => some []
    | rest => if (afterNewline? rest).isSome then some rest else none
  | r => some r

/-- Without blanks, comments and line ends in front. -/
def skipLines : Nat → List Char → Option (List Char)
  | 0, _ => none
  | n + 1, cs => do
    let r ← skipComment (skipSpaces cs)
    match afterNewline? r with
    | some r' => skipLines n r'
    | none => some r

/-- How deep values nest. -/
def depthLimit : Nat := 80

/-- A key of fewer than `depthLimit` parts: the parts before the last, and the last. -/
def readPath (cs : List Char) : Option ((List String × String) × List Char) := do
  let (ks, r) ← readKey (cs.length + 1) cs
  if ks.length ≥ depthLimit then none
  else do return ((ks.dropLast, ← ks.getLast?), r)

mutual

/-- One value inside `depth` others. -/
def readValue : Nat → Nat → List Char → Option (Json × List Char)
  | 0, _, _ => none
  | n + 1, depth, cs =>
    match cs with
    | '"' :: _ | '\'' :: _ => (readString cs).map fun (s, r) ↦ (.str s, r)
    | '[' :: r =>
      if depth + 1 ≥ depthLimit then none
      else readArray n (depth + 1) [] r
    | '\x7b' :: r =>
      if depth + 1 ≥ depthLimit then none
      else
        match skipSpaces r with
        | '\x7d' :: r' => some (.obj [], r')
        | r' => readInline n (depth + 1) [] r'
    | 't' :: 'r' :: 'u' :: 'e' :: r => some (.bool true, r)
    | 'f' :: 'a' :: 'l' :: 's' :: 'e' :: r => some (.bool false, r)
    | '0' :: 'x' :: r => readBased 16 (fun c ↦ (Json.hexValue? c).isSome) r
    | '0' :: 'o' :: r => readBased 8 (fun c ↦ '0' ≤ c && c ≤ '7') r
    | '0' :: 'b' :: r => readBased 2 (fun c ↦ c = '0' || c = '1') r
    | _ => if looksLikeDate cs then readDateTime cs else readNumber cs

/-- The items of an array up to its end, with those read so far in reverse. -/
def readArray : Nat → Nat → List Json → List Char → Option (Json × List Char)
  | 0, _, _, _ => none
  | n + 1, depth, acc, cs => do
    match ← skipLines (cs.length + 1) cs with
    | ']' :: r => some (.arr acc.reverse, r)
    | r => do
      let (v, r) ← readValue n depth r
      match ← skipLines (r.length + 1) r with
      | ',' :: r => readArray n depth (v :: acc) r
      | ']' :: r => some (.arr (v :: acc).reverse, r)
      | _ => none

/-- The entries of a table between braces up to its end. -/
def readInline : Nat → Nat → Entries → List Char → Option (Json × List Char)
  | 0, _, _, _ => none
  | n + 1, depth, es, cs => do
    let ((path, k), r) ← readPath cs
    let '=' :: r := r | none
    let (v, r) ← readValue n depth (skipSpaces r)
    let es ← define path k (.value v) es
    match skipSpaces r with
    | ',' :: r => readInline n depth es (skipSpaces r)
    | '\x7d' :: r => some (.obj (entriesToJson es), r)
    | _ => none

end

/-- What must follow on a line: blanks, a comment, the end of the line or of the text. -/
def readLineEnd (cs : List Char) : Option (List Char) := do
  let r ← skipComment (skipSpaces cs)
  match r with
  | [] => some []
  | r => afterNewline? r

/-- A file while it is read: its tables, and the path of the table that keys belong to. -/
structure State where
  root : Entries := []
  current : List String := []

/-- One line that is not blank. -/
def readLine (st : State) (cs : List Char) : Option (State × List Char) :=
  match cs with
  | '[' :: '[' :: r => do
    let ((path, k), r) ← readPath r
    let ']' :: ']' :: r := r | none
    let root ← alter path (openRepeated k) st.root
    return (⟨root, path ++ [k]⟩, ← readLineEnd r)
  | '[' :: r => do
    let ((path, k), r) ← readPath r
    let ']' :: r := r | none
    let root ← alter path (openTable k) st.root
    return (⟨root, path ++ [k]⟩, ← readLineEnd r)
  | r => do
    let ((path, k), r) ← readPath r
    let '=' :: r := r | none
    let (v, r) ← readValue (r.length + 1) 0 (skipSpaces r)
    let root ← alter st.current (define path k (.value v)) st.root
    return ({ st with root }, ← readLineEnd r)

/-- All lines up to the end of the text. -/
def readLines : Nat → State → List Char → Option State
  | 0, _, _ => none
  | n + 1, st, cs => do
    match ← skipLines (cs.length + 1) cs with
    | [] => some st
    | r => do
      let (st, r) ← readLine st r
      readLines n st r

/-- The object that a settings file describes; a mark for the byte order may stand in front. -/
def ofText? (s : String) : Option Json :=
  let cs := match s.toList with
    | '\uFEFF' :: r => r
    | r => r
  (readLines (cs.length + 1) {} cs).map fun st ↦ .obj (entriesToJson st.root)

end MacroStream.Toml
