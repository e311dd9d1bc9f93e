import MacroStream.Diagnostic
import MacroStream.Text.Blank

/-!
# Filters for diagnostics

A filter is a list of directives such as `debug`, `macro_engine::script=trace` or
`[macro]=debug`: a threshold for everything, for the parts of the engine whose path begins with a
text, or for everything that happens inside a span. Of the directives for parts the one with the
longest text decides; one for a span can only show more.
-/

namespace MacroStream

/-- The least important level that is shown; none shows nothing. -/
abbrev Threshold := Option LogLevel

namespace Threshold

/-- Whether a threshold shows a level. -/
def shows (t : Threshold) (l : LogLevel) : Bool :=
  match t with
  | some least => least.rank ≤ l.rank
  | none => false

/-- The names of the thresholds. -/
def names : List (String × Threshold) :=
  [("off", none), ("error", some .error), ("warn", some .warn), ("info", some .info),
    ("debug", some .debug), ("trace", some .trace)]

/-- The threshold with a name or a number; the case of letters is ignored. -/
def ofText? (s : String) : Option Threshold :=
  let digits := if s.startsWith "+" then (s.drop 1).toString else s
  if !digits.isEmpty && digits.all Char.isDigit then
    (names[digits.toNat?.getD 6]?).map Prod.snd
  else if s.isEmpty then some (some .error)
  else names.lookup (s.map Char.toLower)

end Threshold

/-- Something that goes on while diagnostics are reported, with its details. -/
structure LogSpan where
  name : String
  details : List (String × String)
  deriving DecidableEq, Repr

/-- The span as it stands in front of a diagnostic. -/
def LogSpan.text (s : LogSpan) : String :=
  s.name ++ "\x7b" ++ " ".intercalate (s.details.map fun (k, v) ↦ k ++ "=" ++ v) ++ "\x7d"

/-- A rule for what is shown. -/
structure LogDirective where
  /-- The text that the path of a part of the engine has to begin with. -/
  topic : Option String := none
  /-- The name of the span that has to go on. -/
  span : Option String := none
  /-- Details that the span has to have, and what they have to be. -/
  details : List (String × Option String) := []
  threshold : Threshold := some .trace
  deriving DecidableEq, Repr

namespace LogDirective

/-- Why a directive cannot be read. -/
inductive Fault where
  | malformed
  | unknownLevel
  deriving DecidableEq, Repr

/-- The text shown for a fault. -/
def Fault.message : Fault → String
  | malformed => "invalid filter directive"
  | unknownLevel =>
    "error parsing level filter: expected one of \"off\", \"error\", \"warn\", \"info\", " ++
      "\"debug\", \"trace\", or a number 0-5"

/-- Whether a directive is about spans. -/
def isDynamic (d : LogDirective) : Bool := d.span.isSome || !d.details.isEmpty

/-- A detail that a span has to have, with or without a value. -/
def readDetail (cs : List Char) : String × Option String :=
  let (name, rest) := cs.span (· ≠ '=')
  (String.ofList name, if rest.isEmpty then none else some (String.ofList (rest.drop 1)))

/-- Reads a level behind `=`. -/
def readLevel (d : LogDirective) (cs : List Char) : Except Fault LogDirective :=
  if cs.isEmpty then .ok { d with threshold := some .trace }
  else
    match Threshold.ofText? (String.ofList cs) with
    | some threshold => .ok { d with threshold }
    | none => .error .unknownLevel

/-- Reads what stands behind a span: nothing, or a level. -/
def readBehindSpan (d : LogDirective) (cs : List Char) : Except Fault LogDirective :=
  match cs.dropWhile (· ≠ '=') with
  | [] => .ok d
  | _ :: level => readLevel d level

/-- Reads a span behind `[`. -/
def readSpan (d : LogDirective) (cs : List Char) : Except Fault LogDirective :=
  let (name, rest) := cs.span fun c ↦ c ≠ ']' && c ≠ '\x7b'
  match rest with
  | ']' :: rest => readBehindSpan { d with span := some (String.ofList name) } rest
  | _ :: rest =>
    let (detail, rest) := rest.span (· ≠ '\x7d')
    match rest, (rest.drop 1).dropWhile (· ≠ ']') with
    | _ :: _, _ :: behind =>
      if detail.isEmpty then .error .malformed
      else
        let span := if name.isEmpty then none else some (String.ofList name)
        readBehindSpan { d with span, details := [readDetail detail] } behind
    | _, _ => .error .malformed
  | [] => .error .malformed

/-- Whether a directive may begin with a character other than `[`. -/
def isNameStart (c : Char) : Bool := c.isAlphanum || c = '-' || c = ':' || c = '_'

/-- Reads a directive. A single word is a level if it can be one, and otherwise the path of a part
that is shown completely. -/
def ofText (s : String) : Except Fault LogDirective :=
  match Text.trimBy Text.isBlank s.toList with
  | [] => .error .malformed
  | '[' :: rest => readSpan {} rest
  | c :: rest =>
    if !isNameStart c then .error .malformed
    else
      let (name, behind) := (c :: rest).span fun c ↦ c ≠ '=' && c ≠ '['
      let name := String.ofList name
      match behind with
      | [] =>
        match Threshold.ofText? name with
        | some threshold => .ok { threshold }
        | none => .ok { topic := some name }
      | '=' :: level => readLevel { topic := some name } level
      | _ :: rest => readSpan { topic := some name } rest

/-- Whether a directive is about a part of the engine. -/
def covers (d : LogDirective) (path : String) : Bool :=
  match d.topic with
  | some t => t.toList.isPrefixOf path.toList
  | none => true

/-- Whether a directive is about a span. -/
def matchesSpan (d : LogDirective) (s : LogSpan) : Bool :=
  d.covers Topic.program.path && (d.span.map (· == s.name)).getD true &&
    d.details.all fun (name, value) ↦
      match s.details.lookup name with
      | some v => (value.map (· == v)).getD true
      | none => false

/-- How much a directive says about a part: the length of its text. -/
def weight (d : LogDirective) : Nat := (d.topic.map fun t ↦ t.length + 1).getD 0

end LogDirective

/-- What is shown: directives, of which later ones replace equal earlier ones. -/
structure LogFilter where
  directives : List LogDirective
  deriving DecidableEq, Repr

namespace LogFilter

/-- Reads directives between commas; the ones that cannot be read are left out, with a complaint. -/
def readDirectives : List String → List LogDirective × List String
  | [] => ([], [])
  | s :: ss =>
    let (ds, complaints) := readDirectives ss
    match LogDirective.ofText s with
    | .ok d => (d :: ds, complaints)
    | .error f => (ds, ("ignoring `" ++ s ++ "`: " ++ f.message) :: complaints)

/-- The filter for a configured level, refined by directives, and complaints about these. -/
def ofLevel (level : LogLevel) (refinement : String) : LogFilter × List String :=
  let pieces := (refinement.splitOn ",").filter fun s ↦ !s.isEmpty
  let (ds, complaints) := readDirectives pieces
  (⟨ds ++ [{ threshold := some level }]⟩, complaints)

/-- Of two directives the one that says more; of equal ones the later. -/
def stronger (found : Option LogDirective) (d : LogDirective) : Option LogDirective :=
  match found with
  | some d' => if d'.weight ≤ d.weight then some d else found
  | none => some d

/-- The threshold for a part of the engine, whatever goes on. -/
def threshold (f : LogFilter) (path : String) : Threshold :=
  let candidates := f.directives.filter fun d ↦ !d.isDynamic && d.covers path
  ((candidates.foldl stronger none).map LogDirective.threshold).getD none

/-- Whether a level is shown inside a span, whatever reports it. -/
def showsInside (f : LogFilter) (s : LogSpan) (l : LogLevel) : Bool :=
  f.directives.any fun d ↦ d.isDynamic && d.matchesSpan s && d.threshold.shows l

/-- Whether a span is shown. Spans are as important as information. -/
def showsSpan (f : LogFilter) (s : LogSpan) : Bool :=
  f.showsInside s .info || (f.threshold Topic.program.path).shows .info

/-- Whether a diagnostic is shown, inside a span if there is one. -/
def shows (f : LogFilter) (span : Option LogSpan) (d : Diagnostic) : Bool :=
  (span.any fun s ↦ f.showsInside s d.level) || (f.threshold d.topic.path).shows d.level

end LogFilter

end MacroStream
