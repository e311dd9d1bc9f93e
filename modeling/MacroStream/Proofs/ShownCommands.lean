import MacroStream.Proofs.CommandText
import MacroStream.Proofs.ScriptHistory

/-!
# Commands that a macro shows

Where the commands come from that a host gets to see, among the steps of a macro or as an answer,
and what they look like.

A command is there from the start, or it is a line that the coroutine gave (`shows_iff`). The former
come from a text that was cut into lines. The latter are taken as they are given, and a coroutine
may give a text of several lines: it then counts as one command, whose text is broken. Everything
else that makes a command a line of its own holds of both.
-/

namespace MacroStream

namespace ActiveMacro

open LineParser

variable {m : Type → Type} {T : Type} {a a' : ActiveMacro T} {ev : Event T} {evs : List (Event T)}
  {c : Command}

/-! ### What is shown, and what was given -/

/-- The command stands among the steps at some time, or is answered. -/
def Shows (a : ActiveMacro T) (evs : List (Event T)) (c : Command) : Prop :=
  c ∈ a.steps ∨ ∃ ev ∈ evs, c ∈ ev.after.steps ∨ ev.command? = some c

/-- The coroutine gave the line during the call. -/
def Event.Gave (ev : Event T) (line : String) : Prop :=
  ∃ r, .gave r ∈ ev.touches ∧ r.line? = some line

/-- The coroutine gave the line. -/
def Gave (evs : List (Event T)) (line : String) : Prop := ∃ ev ∈ evs, ev.Gave line

/-! ### What one call shows -/

theorem Step.parser_eq (h : Step a ev a') : a'.parser = a.parser := by cases h <;> rfl

theorem heard_eq_some_iff {parser : CommandParser} {r : Resumed} :
    heard parser r = some c ↔ ∃ line, r.line? = some line ∧ parser.parseLine line = some c := by
  rw [heard, Option.bind_eq_some_iff]

/-- The steps grow by the command that the coroutine gave. -/
theorem Step.mem_steps_iff (h : Step a ev a') :
    c ∈ a'.steps ↔ c ∈ a.steps ∨ ∃ line, ev.Gave line ∧ a.parser.parseLine line = some c := by
  have hnone (hev : ev.touches = [] ∨ ev.touches = [.started]) :
      ¬∃ line, ev.Gave line ∧ a.parser.parseLine line = some c := by
    rintro ⟨line, ⟨r, hr, -⟩, -⟩
    rcases hev with hev | hev <;> simp [hev] at hr
  have hgave (r : Resumed) (hr : ∀ r', .gave r' ∈ ev.touches ↔ r' = r) :
      (∃ line, ev.Gave line ∧ a.parser.parseLine line = some c) ↔ heard a.parser r = some c := by
    rw [heard_eq_some_iff]
    simp only [Event.Gave, hr, exists_eq_left]
  have hsteps (t : T) (r : Resumed) :
      c ∈ (a.afterOutput t r).steps ↔ c ∈ a.steps ∨ heard a.parser r = some c := by
    rw [afterOutput, List.mem_append, Option.mem_toList]
  cases h with
  | opened t r => rw [hgave r (by simp), hsteps]
  | resumed t t' r => rw [hgave r (by simp), hsteps]
  | stuck => rw [or_iff_left (hnone (.inr rfl))]
  | advanced | looped | refused | pointed | idle | disposed =>
    exact (or_iff_left (hnone (.inl rfl))).symm

/-- A command that is answered stands among the steps. -/
theorem Step.mem_steps_of_command? (h : Step a ev a') (hc : ev.command? = some c) :
    c ∈ a'.steps := by
  cases h with
  | pointed =>
    have hcursor : a.stepAtCursor = some c := hc
    rw [stepAtCursor] at hcursor
    split at hcursor
    · exact List.mem_of_getElem? hcursor
    · cases hcursor
  | opened t r | resumed t t' r =>
    rw [command?_step_answerTo] at hc
    simp [afterOutput, hc]
  | advanced | looped | refused | idle | stuck | disposed => cases hc

/-! ### What a history shows -/

/-- A command is shown if it was there from the start, or if the coroutine gave a line that is
one. -/
theorem Steps.shows_iff (h : Steps a evs a') :
    Shows a evs c ↔
      c ∈ a.steps ∨ ∃ line, Gave evs line ∧ a.parser.parseLine line = some c := by
  induction h with
  | nil => simp [Shows, Gave]
  | @cons a a' _ ev evs h hs ih =>
    have hshows : Shows a (ev :: evs) c ↔ c ∈ a.steps ∨ Shows a' evs c := by
      have hanswer (hc : ev.command? = some c) : c ∈ a'.steps := h.mem_steps_of_command? hc
      simp only [Shows, List.exists_mem_cons_iff, h.after_eq, or_iff_left_of_imp hanswer]
    have hgave : (∃ line, Gave (ev :: evs) line ∧ a.parser.parseLine line = some c) ↔
        (∃ line, ev.Gave line ∧ a.parser.parseLine line = some c) ∨
          ∃ line, Gave evs line ∧ a.parser.parseLine line = some c := by
      simp only [Gave, List.exists_mem_cons_iff, or_and_right, exists_or]
    rw [hshows, ih, hgave, h.mem_steps_iff, h.parser_eq, or_assoc, or_self_left]

/-! ### The steps at the start -/

/-- A macro is prepared with the steps that are known before anything runs. -/
theorem initialSteps_of_prepare {craft : CraftLoopConfig} {parser : CommandParser}
    {node : MacroNode} (h : prepare craft parser node = .ok a) :
    initialSteps craft parser node = .ok a.steps ∧ a.parser = parser ∧ a.node = node := by
  rw [prepare] at h
  cases hsteps : initialSteps craft parser node with
  | error e =>
    rw [hsteps] at h
    cases h
  | ok steps =>
    rw [hsteps] at h
    rw [← Except.ok.inj h]
    exact ⟨rfl, rfl, rfl⟩

/-- Before it has run, a macro has only steps that were parsed. -/
theorem unbroken_of_mem_initialSteps {craft : CraftLoopConfig} {node : MacroNode}
    {steps : List Command} (h : initialSteps craft lineParser node = .ok steps) (hc : c ∈ steps) :
    IsCommandText c.text ∧ IsUnbroken c.text := by
  rw [initialSteps] at h
  split at h
  · -- A script has none at all.
    obtain rfl : [] = steps := Except.ok.inj h
    cases hc
  · cases htext : craft.transform node.contents node.craftLoop node.craftLoopCount with
    | error e =>
      rw [htext] at h
      cases h
    | ok contents =>
      rw [htext] at h
      exact unbroken_of_mem_parse h hc

/-- A macro in the command language has no coroutine. -/
theorem Steps.not_gave (h : Steps a evs a') (ha : a.node.isScript = false) (line : String) :
    ¬Gave evs line := by
  have htouches : ∀ ev ∈ evs, ev.touches = [] := by
    refine h.forall_of_kept (I := fun a ↦ a.node.isScript = false) (fun h ha ↦ ?_) ha
    refine ⟨by rw [h.node_eq, ha], ?_⟩
    cases h with
    | idle h | stuck e h | opened t r h | resumed t t' r h => exact absurd h (by simp [ha])
    | advanced | looped | refused | pointed | disposed => rfl
  rintro ⟨ev, hev, r, hr, -⟩
  simp [htouches ev hev] at hr

/-! ### Commands that are lines -/

/-- **Commands and lines.** Every command that a macro shows has the text of a command, and it is a
line of the command language exactly if that text is unbroken. All commands are lines exactly if no
line that the coroutine gave is a broken command; for a macro in the command language that is always
so. -/
theorem isLine_iff_observe [Monad m] [LawfulMonad m] (report : Diagnostic → m Unit)
    (engine : ScriptEngine m T) (craft : CraftLoopConfig) (node : MacroNode) (a : ActiveMacro T)
    (ha : prepare craft lineParser node = .ok a) (cs : List Call) :
    Always (fun r ↦ r.1.map Event.call = cs ∧
        (∀ c, Shows a r.1 c → IsCommandText c.text ∧ (c.IsLine ↔ IsUnbroken c.text)) ∧
        ((∀ c, Shows a r.1 c → c.IsLine) ↔
          ∀ line, Gave r.1 line → IsCommandText (Text.trim line) → IsUnbroken (Text.trim line)) ∧
        (node.language = .native → ∀ c, Shows a r.1 c → c.IsLine))
      (observe report engine a cs) ∧
    (fun r ↦ (r.1.map Event.answer, r.2)) <$> observe report engine a cs =
      performAll report engine a cs := by
  obtain ⟨hsteps, hparser, hnode⟩ := initialSteps_of_prepare ha
  refine ⟨(observe_steps a cs).mono fun r hr ↦ ?_, answers_observe a cs⟩
  have hshows (c : Command) : Shows a r.1 c ↔ c ∈ a.steps ∨
      ∃ line, Gave r.1 line ∧ c = ⟨Text.trim line, 1⟩ ∧ IsCommandText (Text.trim line) := by
    rw [hr.1.shows_iff, hparser]
    simp only [lineParser, parseLine_eq_some_iff]
  have htext (c : Command) (hc : Shows a r.1 c) : IsCommandText c.text := by
    rcases (hshows c).1 hc with hc | ⟨line, -, rfl, hline⟩
    · exact (unbroken_of_mem_initialSteps hsteps hc).1
    · exact hline
  have hlines : (∀ c, Shows a r.1 c → c.IsLine) ↔
      ∀ line, Gave r.1 line → IsCommandText (Text.trim line) → IsUnbroken (Text.trim line) := by
    constructor
    · intro hall line hgave hline
      exact (hall ⟨Text.trim line, 1⟩ ((hshows _).2 (.inr ⟨line, hgave, rfl, hline⟩))).unbroken
    · intro hall c hc
      rw [Command.isLine_iff (htext c hc)]
      rcases (hshows c).1 hc with hc | ⟨line, hgave, rfl, hline⟩
      · exact (unbroken_of_mem_initialSteps hsteps hc).2
      · exact hall line hgave hline
  refine ⟨hr.2, fun c hc ↦ ⟨htext c hc, Command.isLine_iff (htext c hc)⟩, hlines, fun hnative ↦ ?_⟩
  -- Without a coroutine there is no line that could be broken.
  have hscript : a.node.isScript = false := by rw [hnode, MacroNode.isScript, hnative]; rfl
  exact hlines.2 fun line hgave ↦ absurd hgave (hr.1.not_gave hscript line)

/-- A script that gives two lines at once: they count as one command, which is no line. -/
theorem not_isLine_observe_prepared :
    ({ name := "m", contents := "run()", language := .lua } : MacroNode).language = .lua ∧
    prepare (T := List Resumed) {} lineParser
        { name := "m", contents := "run()", language := .lua } =
      .ok (unopened lineParser { name := "m", contents := "run()", language := .lua }) ∧
    ¬∀ c, Shows (unopened lineParser { name := "m", contents := "run()", language := .lua })
        (Id.run (observe (fun _ ↦ pure ()) (preparedEngine [.yielded [.text "/echo a\n/echo b"]])
          (unopened lineParser { name := "m", contents := "run()", language := .lua })
          [.currentStep])).1 c → c.IsLine := by
  refine ⟨rfl, rfl, fun hall ↦ ?_⟩
  have hlaw := (isLine_iff_observe (fun _ ↦ pure ())
    (preparedEngine [.yielded [.text "/echo a\n/echo b"]]) {}
    { name := "m", contents := "run()", language := .lua }
    (unopened lineParser { name := "m", contents := "run()", language := .lua }) rfl
    [.currentStep]).1
  rw [Always.id_iff] at hlaw
  have hunbroken := hlaw.2.2.1.1 hall "/echo a\n/echo b"
    ⟨_, List.mem_singleton_self _, _, List.mem_cons_of_mem _ (List.mem_singleton_self _), rfl⟩
  have hcommand : classify "/echo a\n/echo b" = .command "/echo a\n/echo b" := rfl
  obtain ⟨htrim, htext⟩ := classify_eq_command_iff.1 hcommand
  rw [htrim] at hunbroken
  have hlineEnd := (hunbroken htext '\n' (by simp)).2
  exact hlineEnd rfl

end ActiveMacro

end MacroStream
