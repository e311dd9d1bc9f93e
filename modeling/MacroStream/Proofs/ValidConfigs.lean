import MacroStream.ActiveMacro
import MacroStream.Proofs.CommandLines
import MacroStream.Proofs.Text.Replace

/-!
# Configurations that are valid

A template without a place for the macro is looked for twice: where a configuration is validated,
and where a template is filled in. The second check comes behind two exits, for macros that are not
repeated and for a count of 0, so it is not the first one said again. Still both are about one
thing, `Unfillable`, and complain in the same words: a configuration is valid exactly if every
macro can be rewritten with it.

So with a valid configuration the command parser has the last word: a macro in the command language
is refused for one of its lines or not at all. A script is never refused before it runs, whatever
the configuration says.
-/

namespace MacroStream

namespace CraftLoopConfig

open Text

/-- The template is in use, and has no place for the macro. -/
def Unfillable (c : CraftLoopConfig) : Prop :=
  c.templateEnabled = true ∧ ¬macroPlaceholder.toList <:+: c.template.toList

variable {c : CraftLoopConfig} {contents : String} {enabled : Bool} {count : Int32}
  {e : EngineError}

theorem hasPlaceholder_iff :
    c.hasPlaceholder = true ↔ macroPlaceholder.toList <:+: c.template.toList :=
  occursIn_iff

theorem fillTemplate_eq_error_iff :
    c.fillTemplate contents count = .error e ↔
      count ≠ 0 ∧ c.hasPlaceholder = false ∧ e = missingPlaceholder := by
  rw [fillTemplate]
  by_cases hcount : count = 0
  · simp [hcount]
  · cases c.hasPlaceholder <;> simp [hcount, eq_comm]

/-- A macro cannot be rewritten exactly if it is to be put into a template that has no place for
it. -/
theorem transform_eq_error_iff :
    c.transform contents enabled count = .error e ↔
      enabled = true ∧ count ≠ 0 ∧ c.Unfillable ∧ e = missingPlaceholder := by
  rw [transform, Unfillable, ← hasPlaceholder_iff, Bool.not_eq_true]
  cases enabled with
  | false => simp
  | true =>
    cases htemplate : c.templateEnabled with
    | false => simp
    | true => simp [fillTemplate_eq_error_iff]

theorem exists_transform_eq_ok_iff :
    (∃ text, c.transform contents enabled count = .ok text) ↔
      ¬(enabled = true ∧ count ≠ 0 ∧ c.Unfillable) := by
  have hfails : (∃ e, c.transform contents enabled count = .error e) ↔
      enabled = true ∧ count ≠ 0 ∧ c.Unfillable := by
    simp [transform_eq_error_iff]
  rw [← hfails]
  cases c.transform contents enabled count <;> simp

end CraftLoopConfig

namespace Config

open CraftLoopConfig

variable {config : Config} {e : EngineError}

theorem validate_eq_error_iff :
    config.validate = .error e ↔ config.craftLoop.Unfillable ∧ e = missingPlaceholder := by
  rw [validate, Unfillable, ← hasPlaceholder_iff, Bool.not_eq_true]
  cases config.craftLoop.templateEnabled <;> cases config.craftLoop.hasPlaceholder <;>
    simp [eq_comm]

theorem validate_eq_ok_iff : config.validate = .ok () ↔ ¬config.craftLoop.Unfillable := by
  have hfails : (∃ e, config.validate = .error e) ↔ config.craftLoop.Unfillable := by
    simp [validate_eq_error_iff]
  rw [← hfails]
  cases config.validate <;> simp

end Config

/-- A parser that refuses a text complains of one of its lines. -/
def CommandParser.ComplainsOfLines (p : CommandParser) : Prop :=
  ∀ text e, p.parse text = .error e → ∃ line message, e = .parse line message

theorem complainsOfLines_lineParser : lineParser.ComplainsOfLines := by
  intro text e he
  have hparse : LineParser.parse text = .error e := he
  rcases LineParser.parse_cases text with ⟨cs, hcs, -⟩ | ⟨line, bad, hbad, -⟩
  · exact nomatch hcs.symm.trans hparse
  · exact ⟨line, _, Except.error.inj (hparse.symm.trans hbad)⟩

namespace ActiveMacro

variable {m : Type → Type} [Monad m] {T : Type} {report : Diagnostic → m Unit}
  {c : CraftLoopConfig} {parser : CommandParser} {node : MacroNode} {e : EngineError}

/-- A macro is prepared, and that is reported. -/
def IsQueued (T : Type) (report : Diagnostic → m Unit) (c : CraftLoopConfig)
    (parser : CommandParser) (node : MacroNode) : Prop :=
  ∃ a : ActiveMacro T, start report c parser node = do
    report (queued node a.steps.length a.lineCount)
    return .ok a

/-- Only the steps of a macro can be refused. -/
theorem isQueued_or_refused (T : Type) (report : Diagnostic → m Unit) (c : CraftLoopConfig)
    (parser : CommandParser) (node : MacroNode) :
    IsQueued T report c parser node ∨
      ∃ e, initialSteps c parser node = .error e ∧
        start (T := T) report c parser node = pure (.error e) := by
  cases hsteps : initialSteps c parser node with
  | error e =>
    refine .inr ⟨e, rfl, ?_⟩
    rw [start, prepare, hsteps]
    rfl
  | ok steps =>
    refine .inl ⟨⟨node, steps, 0, (Text.splitLines node.contents).length, parser, none, false⟩, ?_⟩
    rw [start, prepare, hsteps]
    rfl

/-- Scripts are not refused, and macros in the command language are refused by the rewriting or by
the parser. -/
theorem initialSteps_eq_error (he : initialSteps c parser node = .error e) :
    node.language = .native ∧
      (c.transform node.contents node.craftLoop node.craftLoopCount = .error e ∨
        ∃ text, parser.parse text = .error e) := by
  rw [initialSteps, MacroNode.isScript] at he
  cases hlanguage : node.language with
  | lua =>
    rw [hlanguage] at he
    exact nomatch he
  | native =>
    rw [hlanguage] at he
    refine ⟨rfl, ?_⟩
    cases htext : c.transform node.contents node.craftLoop node.craftLoopCount with
    | error e' =>
      rw [htext] at he
      obtain rfl : e' = e := Except.error.inj he
      exact .inl rfl
    | ok text =>
      rw [htext] at he
      exact .inr ⟨text, he⟩

end ActiveMacro

open CraftLoopConfig ActiveMacro in
/-- **Valid configurations.** A configuration is valid exactly if every macro can be rewritten with
it. A rewriting fails exactly if the macro is repeated, the count is not 0, and the template is in
use and has no place for the macro; and then it fails as the validation does. So with a valid
configuration a macro is refused only if it is in the command language, for one of its lines; and a
script is never refused. -/
theorem Config.validate_eq_ok_iff_forall_transform {m : Type → Type} [Monad m] (T : Type)
    (config : Config) :
    (config.validate = .ok () ↔
      ∀ contents enabled count,
        ∃ text, config.craftLoop.transform contents enabled count = .ok text) ∧
    (∀ contents enabled count,
      if enabled = true ∧ config.craftLoop.templateEnabled = true ∧ count ≠ 0 ∧
          ¬macroPlaceholder.toList <:+: config.craftLoop.template.toList then
        ∃ message,
          config.craftLoop.transform contents enabled count = .error (.configuration message) ∧
          config.validate = .error (.configuration message)
      else ∃ text, config.craftLoop.transform contents enabled count = .ok text) ∧
    (config.validate = .ok () →
      ∀ (report : Diagnostic → m Unit) (parser : CommandParser), parser.ComplainsOfLines →
        ∀ node, IsQueued T report config.craftLoop parser node ∨
          node.language = .native ∧ ∃ line message,
            start (T := T) report config.craftLoop parser node =
              pure (.error (.parse line message))) ∧
    lineParser.ComplainsOfLines ∧
    ∀ (report : Diagnostic → m Unit) (parser : CommandParser) (node : MacroNode),
      node.language = .lua → IsQueued T report config.craftLoop parser node := by
  refine ⟨?_, fun contents enabled count ↦ ?_, fun hvalid report parser hparser node ↦ ?_,
    complainsOfLines_lineParser, fun report parser node hlua ↦ ?_⟩
  · rw [validate_eq_ok_iff]
    constructor
    · exact fun hnot contents enabled count ↦
        exists_transform_eq_ok_iff.2 fun hfails ↦ hnot hfails.2.2
    · -- A count of 1 gets past both exits.
      exact fun hall hunfillable ↦
        exists_transform_eq_ok_iff.1 (hall "" true 1) ⟨rfl, by decide, hunfillable⟩
  · split
    case isTrue hfails =>
      obtain ⟨henabled, htemplate, hcount, hplace⟩ := hfails
      have hunfillable : config.craftLoop.Unfillable := ⟨htemplate, hplace⟩
      exact ⟨_, transform_eq_error_iff.2 ⟨henabled, hcount, hunfillable, rfl⟩,
        validate_eq_error_iff.2 ⟨hunfillable, rfl⟩⟩
    case isFalse hnot =>
      exact exists_transform_eq_ok_iff.2 fun ⟨henabled, hcount, htemplate, hplace⟩ ↦
        hnot ⟨henabled, htemplate, hcount, hplace⟩
  · refine (isQueued_or_refused T report config.craftLoop parser node).imp_right ?_
    rintro ⟨e, hsteps, hstart⟩
    obtain ⟨hnative, htransform | ⟨text, hparse⟩⟩ := initialSteps_eq_error hsteps
    · exact absurd (transform_eq_error_iff.1 htransform).2.2.1 (validate_eq_ok_iff.1 hvalid)
    · obtain ⟨line, message, rfl⟩ := hparser text e hparse
      exact ⟨hnative, line, message, hstart⟩
  · refine (isQueued_or_refused T report config.craftLoop parser node).resolve_right ?_
    rintro ⟨e, hsteps, -⟩
    have hnative := (initialSteps_eq_error hsteps).1
    rw [hlua] at hnative
    exact nomatch hnative

open ActiveMacro in
/-- With a template that has a place for the macro: a line that is no command, and a script that is
no better. -/
theorem Config.validate_eq_ok_iff_forall_transform_nonsense :
    ∃ config : Config, config.craftLoop.templateEnabled = true ∧ config.validate = .ok () ∧
      (∃ line message, start (T := Unit) (fun _ ↦ (pure () : Id Unit)) config.craftLoop lineParser
        { name := "m", contents := "nonsense", craftLoop := true } =
          pure (.error (.parse line message))) ∧
      IsQueued Unit (fun _ ↦ (pure () : Id Unit)) config.craftLoop lineParser
        { name := "m", contents := "nonsense", language := .lua, craftLoop := true } := by
  let config : Config := { craftLoop := { templateEnabled := true, template := macroPlaceholder } }
  have hvalid : config.validate = .ok () := by decide
  obtain ⟨-, -, hrefused, hlines, hscripts⟩ :=
    validate_eq_ok_iff_forall_transform (m := Id) Unit config
  refine ⟨config, rfl, hvalid, ?_, hscripts _ _ _ rfl⟩
  refine ((hrefused hvalid _ lineParser hlines _).resolve_left ?_).2
  rintro ⟨a, ha⟩
  exact nomatch ha

end MacroStream
