import MacroStream.Calendar
import MacroStream.Script.Library.Arguments

/-!
# Functions on the process and the clock
-/

namespace MacroStream.Script.Library

open Action

/-- The answer of an operation on a file: true, or nil with a text and a number. -/
def fileAnswer (path : Option ByteArray) : Except FileFault Unit → List Value
  | .ok () => [.bool true]
  | .error e =>
    let (text, number) := e.system?.getD (e.message, 0)
    let text := match path with
      | some p => p ++ (": " ++ text).toUTF8
      | none => text.toUTF8
    [.nil, .str text, .int (Int64.ofNat number)]

/-- The letters of dates. -/
def dateLetters : List Char := "aAbBcCdDeFgGhHIjmMnprRStTuUVwWxXyYzZ%".toList

/-- The letters of dates that `E` and `O` may stand in front of. -/
def modifiedLetters : UInt8 → List Char
  | 69 => "cCxXyY".toList
  | 79 => "deHImMSuUVwWy".toList
  | _ => []

/-- Writes a date by a format. -/
def formatDate (d : Calendar.Date) : Nat → List UInt8 → ByteArray → Action ByteArray
  | 0, _, acc => return acc
  | _, [], acc => return acc
  | fuel + 1, 37 :: rest, acc =>
    let letterOf (b : UInt8) := Char.ofNat b.toNat
    match rest with
    | b :: more =>
      if dateLetters.contains (letterOf b) then
        formatDate d fuel more (acc ++ (Calendar.write d (letterOf b)).toUTF8)
      else
        match more with
        | b' :: more' =>
          if (modifiedLetters b).contains (letterOf b') then
            formatDate d fuel more' (acc ++ (Calendar.write d (letterOf b')).toUTF8)
          else refuse rest
        | [] => refuse rest
    | [] => refuse rest
  | fuel + 1, b :: rest, acc => formatDate d fuel rest (acc.push b)
where
  /-- Gives up because of a letter that is not known. -/
  refuse (rest : List UInt8) : Action ByteArray :=
    badArgumentBytes 1
      ("invalid conversion specifier '%".toUTF8 ++ ⟨rest.toArray⟩ ++ "'".toUTF8)

/-- The fields of a date in a table. -/
def dateFields (d : Calendar.Date) : List (String × Value) :=
  let int (n : Int) : Value := .int (Int64.ofInt n)
  [("year", int d.year), ("month", int d.month), ("day", int d.day), ("hour", int d.hour),
    ("min", int d.minute), ("sec", int d.second), ("yday", int (Calendar.yearday d + 1)),
    ("wday", int (Calendar.weekday d + 1)), ("isdst", .bool false)]

/-- A date as text, or as a table. -/
def date (args : Args) : Action (List Value) := do
  let format ← optBytes args 1 "%c".toUTF8
  let t ← if isAbsent args 2 then ask .time else do pure (← needInt args 2).toInt
  let bytes := match format.data.toList with
    | 33 :: rest => rest
    | all => all
  let d := Calendar.ofSeconds t
  if d.year < -2147481748 || 2147485547 < d.year then
    fail "date result cannot be represented in this installation"
  match bytes with
  | 42 :: 116 :: _ => return [.table (← modifyGet (·.newTableOf (dateFields d)))]
  | bytes => return [.str (← formatDate d (bytes.length + 1) bytes .empty)]

/-- A field of a table that describes a date. -/
def dateField (t : Value) (name : String) (default : Option Int) : Action Int := do
  let v ← getKey t (textValue name)
  match (numberOf? v).bind Num.toInt?, default with
  | some n, _ =>
    if n < -2147483648 || 4294967295 < n then fail ("field '" ++ name ++ "' is out-of-bound")
    else return n.toInt
  | none, some n =>
    if v.isNil then return n else fail ("field '" ++ name ++ "' is not an integer")
  | none, none =>
    if v.isNil then fail ("field '" ++ name ++ "' missing in date table")
    else fail ("field '" ++ name ++ "' is not an integer")

/-- The seconds of a date in a table, which is brought into order. -/
def timeOf (args : Args) : Action (List Value) := do
  let a ← needTable args 1
  let t := arg args 1
  let year ← dateField t "year" none
  let month ← dateField t "month" none
  let day ← dateField t "day" none
  let hour ← dateField t "hour" (some 12)
  let minute ← dateField t "min" (some 0)
  let second ← dateField t "sec" (some 0)
  let s := Calendar.seconds ⟨year, month, day, hour, minute, second⟩
  update fun h ↦ (dateFields (Calendar.ofSeconds s)).foldl (fun h (k, v) ↦ h.setField a k v) h
  return [.int (Int64.ofInt s)]

/-- Runs a function on the process and the clock. -/
def os (f : OsFunction) (args : Args) : Action (List Value) :=
  match f with
  | .clock => do return [.float (← ask .clock)]
  | .date => date args
  | .difftime => do
    let a ← needInt args 1
    let b ← needInt args 2
    return [.float (a - b).toFloat]
  | .execute => do
    if isAbsent args 1 then return [.bool false]
    else
      let _ ← needBytes args 1
      return [.nil, textValue "exit", .int 127]
  | .exit => do
    let code ← match arg args 1 with
      | .nil | .bool true => pure 0
      | .bool false => pure 1
      | _ => needInt args 1
    ask (.exit code)
    return []
  | .getenv => do
    match ← ask (.environment (← needBytes args 1)) with
    | some s => return [.str s]
    | none => return [.nil]
  | .remove => do
    let path ← needBytes args 1
    return fileAnswer (some path) (← ask (.removeFile path))
  | .rename => do
    let source ← needBytes args 1
    let target ← needBytes args 2
    return fileAnswer none (← ask (.renameFile source target))
  | .setlocale => do
    let name ← optBytes args 1 .empty
    let _ ← needOption args 2 (some "all")
      ["all", "collate", "ctype", "monetary", "numeric", "time"]
    if isAbsent args 1 || name.isEmpty || name == "C".toUTF8 || name == "POSIX".toUTF8 then
      return [textValue "C"]
    else return [.nil]
  | .time => do
    if isAbsent args 1 then return [.int (Int64.ofInt (← ask .time))] else timeOf args
  | .tmpname => return [textValue "/tmp/lua_000000"]

end MacroStream.Script.Library
