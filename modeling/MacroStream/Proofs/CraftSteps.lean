import MacroStream.ActiveMacro
import MacroStream.Proofs.CommandLines

/-!
# The steps of a craft loop

A macro that is repeated by fixed steps is parsed to the commands of its body with the fixed steps
around them, and it is refused exactly if its body alone is refused, for the same line. The fixed
steps are written out as texts in `framing`.

The body and the fixed steps are put together as texts, trimmed, and cut into lines again. That
nothing is lost, merged or made up at the seams is a matter of `LineParser.kinds`, which does not
see blanks at the ends of a text and cuts at a `\n` whatever stands around it. What is left is to
see that each fixed step is one command, whatever numbers stand in it.
-/

namespace MacroStream

namespace CraftLoopConfig

open Text LineParser

/-! ### Texts of a single command -/

/-- All characters can stand inside a line, and the last one at its end. -/
structure IsTail (cs : List Char) : Prop where
  visible : ∀ c ∈ cs, c = ' ' ∨ isBlank c = false
  ends : ∀ c ∈ cs.getLast?, isBlank c = false

/-- A text that is a single command, with nothing to be trimmed. -/
structure IsStep (s : String) : Prop where
  tail : IsTail s.toList
  starts : ∃ c cs, s.toList = '/' :: c :: cs ∧ c ≠ '/'

theorem isTail_iff (cs : List Char) :
    (cs.all (fun c ↦ c == ' ' || !isBlank c) && cs.getLast?.all fun c ↦ !isBlank c) = true ↔
      IsTail cs := by
  constructor
  · intro h
    rw [Bool.and_eq_true, List.all_eq_true] at h
    exact ⟨fun c hc ↦ by simpa using h.1 c hc, fun c hc ↦ by simp_all⟩
  · intro h
    rw [Bool.and_eq_true, List.all_eq_true]
    refine ⟨fun c hc ↦ by simpa using h.visible c hc, ?_⟩
    cases hlast : cs.getLast? with
    | none => rfl
    | some c => simp [h.ends c hlast]

instance (cs : List Char) : Decidable (IsTail cs) := decidable_of_iff _ (isTail_iff cs)

theorem IsTail.nil : IsTail [] := ⟨by simp, by simp⟩

theorem IsTail.append {a b : List Char} (ha : IsTail a) (hb : IsTail b) : IsTail (a ++ b) := by
  refine ⟨fun c hc ↦ (List.mem_append.1 hc).elim (ha.visible c) (hb.visible c), fun c hc ↦ ?_⟩
  rw [List.getLast?_append] at hc
  cases h : b.getLast? with
  | none => exact ha.ends c (by simpa [h] using hc)
  | some d => exact hb.ends c (by simpa [h] using hc)

theorem IsTail.space_cons {cs : List Char} (h : IsTail cs) (hne : cs ≠ []) :
    IsTail (' ' :: cs) := by
  refine ⟨fun c hc ↦ (List.mem_cons.1 hc).elim .inl (h.visible c), fun c hc ↦ h.ends c ?_⟩
  rwa [List.getLast?_cons_of_ne_nil hne] at hc

theorem IsStep.append {s t : String} (hs : IsStep s) (ht : IsTail t.toList) : IsStep (s ++ t) := by
  obtain ⟨c, cs, hcs, hc⟩ := hs.starts
  refine ⟨?_, c, cs ++ t.toList, by simp [hcs], hc⟩
  rw [String.toList_append]
  exact hs.tail.append ht

theorem kinds_of_isStep {s : String} (h : IsStep s) : kinds s.toList = [.command s] := by
  have hline (c : Char) (hc : c ∈ s.toList) : c ≠ '\r' ∧ c ≠ '\n' := by
    rcases h.tail.visible c hc with rfl | hc
    · decide
    · constructor <;> rintro rfl <;> exact absurd hc (by decide)
  obtain ⟨c, cs, hcs, hc⟩ := h.starts
  have htrim : trimBy isBlank s.toList = s.toList := by
    refine trimBy_eq_self (fun d hd ↦ ?_) h.tail.ends
    rw [hcs, List.head?_cons, Option.mem_some_iff] at hd
    subst hd
    rfl
  have hkind : kindOf s.toList = .command s := by
    rw [kindOf, htrim, hcs, classifyTrimmed]
    · rw [← hcs, String.ofList_toList]
    · exact hc
  rw [kinds, linesOf_of_forall_ne hline, List.map_singleton, hkind]
  rfl

/-- Digits can stand anywhere in a line. -/
theorem not_isBlank_of_isDigit {c : Char} (h : c.isDigit = true) : isBlank c = false := by
  have hdigits : ∀ n < 58, 48 ≤ n → isBlank (Char.ofNat n) = false := by decide
  simp only [Char.isDigit, Bool.and_eq_true, decide_eq_true_eq, ge_iff_le,
    UInt32.le_iff_toNat_le] at h
  rw [← Char.ofNat_toNat c]
  exact hdigits c.toNat (Nat.lt_succ_of_le h.2) h.1

theorem isTail_repr (n : Nat) : IsTail (Nat.repr n).toList := by
  have hdigit (c : Char) (hc : c ∈ (Nat.repr n).toList) : isBlank c = false := by
    rw [Nat.toList_repr] at hc
    exact not_isBlank_of_isDigit (Nat.isDigit_of_mem_toDigits (by decide) (by decide) hc)
  exact ⟨fun c hc ↦ .inr (hdigit c hc), fun c hc ↦ hdigit c (List.mem_of_getLast? hc)⟩

theorem isTail_countText (count : Int32) : IsTail (countText count).toList := by
  rw [countText]
  cases count.toInt with
  | ofNat n => exact isTail_repr n
  | negSucc n =>
    have hminus : IsTail "-".toList := by decide
    have htext : Int.repr (.negSucc n) = "-" ++ Nat.repr (n + 1) := rfl
    rw [htext, String.toList_append]
    exact hminus.append (isTail_repr _)

theorem isTail_echoSuffix (c : CraftLoopConfig) : IsTail c.echoSuffix.toList := by
  rw [echoSuffix]
  split
  · decide
  · exact .nil

theorem isTail_waitSuffix (c : CraftLoopConfig) : IsTail c.waitSuffix.toList := by
  rw [waitSuffix]
  split
  · exact .nil
  · have hopen : IsTail " <maxwait.".toList := by decide
    have hclose : IsTail ">".toList := by decide
    rw [String.toList_append, String.toList_append]
    exact (hopen.append (isTail_repr _)).append hclose

/-! ### The fixed steps -/

theorem countText_ne_nil (count : Int32) : (countText count).toList ≠ [] := by
  rw [countText]
  cases count.toInt with
  | ofNat n =>
    have htext : Int.repr (.ofNat n) = Nat.repr n := rfl
    rw [htext, Nat.toList_repr]
    exact Nat.toDigits_ne_nil
  | negSucc n =>
    have htext : Int.repr (.negSucc n) = "-" ++ Nat.repr (n + 1) := rfl
    simp [htext]

/-- A word with a slash, a blank and a count. -/
theorem IsStep.append_count {s : String} (h : IsStep s) (count : Int32) :
    IsStep (s ++ " " ++ countText count) := by
  have htail : IsTail (" " ++ countText count).toList := by
    rw [String.toList_append]
    exact (isTail_countText count).space_cons (countText_ne_nil count)
  rw [String.append_assoc]
  exact h.append htail

theorem isStep_gateStep (c : CraftLoopConfig) (count : Int32) : IsStep (c.gateStep count) := by
  have hcraft : IsStep "/craft" := ⟨by decide, 'c', _, rfl, by decide⟩
  have hgate : IsStep "/gate" := ⟨by decide, 'g', _, rfl, by decide⟩
  rw [gateStep]
  split
  · exact (hcraft.append_count count).append (isTail_echoSuffix c)
  · exact (hgate.append_count (countBefore count)).append (isTail_echoSuffix c)

theorem isStep_loopStep (c : CraftLoopConfig) : IsStep c.loopStep := by
  have hloop : IsStep "/loop" := ⟨by decide, 'l', _, rfl, by decide⟩
  exact hloop.append (isTail_echoSuffix c)

theorem isStep_of_mem_clickSteps {c : CraftLoopConfig} {s : String} (h : s ∈ c.clickSteps) :
    IsStep s := by
  have hnote : IsStep "/waitaddon \"RecipeNote\"" :=
    ⟨by decide, 'w', _, rfl, by decide⟩
  have hclick : IsStep "/click \"RecipeNote Synthesize\"" :=
    ⟨by decide, 'c', _, rfl, by decide⟩
  have hsynthesis : IsStep "/waitaddon \"Synthesis\"" :=
    ⟨by decide, 'w', _, rfl, by decide⟩
  simp only [clickSteps, List.mem_cons, List.not_mem_nil, or_false] at h
  rcases h with rfl | rfl | rfl
  · exact hnote.append (isTail_waitSuffix c)
  · exact hclick
  · exact hsynthesis.append (isTail_waitSuffix c)

/-- The steps before and behind the body with their texts, by the place where the loop starts and by
the count. One less than the smallest count is the smallest count again. -/
def framing (c : CraftLoopConfig) (count : Int32) : List String × List String :=
  let wait := if c.maxWait = 0 then "" else " <maxwait." ++ Nat.repr c.maxWait.toNat ++ ">"
  let echo := if c.echo then " <echo>" else ""
  let clicks := ["/waitaddon \"RecipeNote\"" ++ wait, "/click \"RecipeNote Synthesize\"",
    "/waitaddon \"Synthesis\"" ++ wait]
  let craft := "/craft " ++ Int.repr count.toInt ++ echo
  let gate := "/gate " ++ Int.repr (max (count.toInt - 1) (-2 ^ 31)) ++ echo
  let loop := "/loop" ++ echo
  match c.fromRecipeNote, count.toInt with
  | true, 0 => ([], [])
  | true, 1 => (clicks, [])
  | true, -1 => (clicks, [loop])
  | true, _ => (craft :: clicks, [loop])
  | false, 0 => ([], [])
  | false, 1 => ([], [])
  | false, -1 => ([], clicks ++ [loop])
  | false, _ => ([], gate :: clicks ++ [loop])

theorem toInt_countBefore (count : Int32) :
    (countBefore count).toInt = max (count.toInt - 1) (-2 ^ 31) := by
  have hlow : -2 ^ 31 ≤ count.toInt := count.le_toInt
  have hhigh : count.toInt < 2 ^ 31 := count.toInt_lt
  rw [countBefore]
  split
  case isTrue hmin =>
    subst hmin
    decide
  case isFalse hmin =>
    have hne : count.toInt ≠ -2 ^ 31 := fun h ↦ hmin (Int32.toInt_inj.1 h)
    have hexact : (count - 1).toInt = count.toInt - 1 := by
      rw [Int32.toInt_sub]
      show (count.toInt - 1).bmod (2 ^ 32) = count.toInt - 1
      exact Int.bmod_eq_of_le (by omega) (by omega)
    rw [hexact]
    omega

theorem fixedSteps_eq_framing (c : CraftLoopConfig) (count : Int32) :
    c.fixedSteps count = c.framing count := by
  have h0 : count = 0 ↔ count.toInt = 0 := Int32.toInt_inj.symm
  have h1 : count = 1 ↔ count.toInt = 1 := Int32.toInt_inj.symm
  have hm1 : count = -1 ↔ count.toInt = -1 := Int32.toInt_inj.symm
  rw [framing]
  split <;>
    simp_all [fixedSteps, clickSteps, gateStep, loopStep, waitSuffix, echoSuffix, countText,
      toInt_countBefore]

theorem isStep_of_mem_framing (c : CraftLoopConfig) (count : Int32) {s : String}
    (h : s ∈ (c.framing count).1 ∨ s ∈ (c.framing count).2) : IsStep s := by
  have hall : s = c.gateStep count ∨ s ∈ c.clickSteps ∨ s = c.loopStep := by
    rw [← fixedSteps_eq_framing, fixedSteps] at h
    split_ifs at h <;> simp_all
    all_goals tauto
  rcases hall with rfl | hs | rfl
  · exact isStep_gateStep c count
  · exact isStep_of_mem_clickSteps hs
  · exact isStep_loopStep c

/-! ### The body between the fixed steps -/

theorem kinds_flatMap_steps {steps : List String} (h : ∀ s ∈ steps, IsStep s) :
    (steps.map String.toList).flatMap kinds = steps.map .command := by
  induction steps with
  | nil => rfl
  | cons s steps ih =>
    obtain ⟨hs, hsteps⟩ := List.forall_mem_cons.1 h
    rw [List.map_cons, List.flatMap_cons, kinds_of_isStep hs, ih hsteps]
    rfl

/-- The body says between the fixed steps what it says alone. -/
theorem kinds_surround (c : CraftLoopConfig) (contents : String) (count : Int32) :
    kinds (c.surround contents count).toList =
      (c.framing count).1.map .command ++ kinds contents.toList ++
        (c.framing count).2.map .command := by
  have hbefore := kinds_flatMap_steps fun s hs ↦ isStep_of_mem_framing c count (.inl hs)
  have hbehind := kinds_flatMap_steps fun s hs ↦ isStep_of_mem_framing c count (.inr hs)
  rw [surround, fixedSteps_eq_framing, Text.toList_trim, kinds_trimBy, String.toList_intercalate]
  have hlf : "\n".toList = ['\n'] := rfl
  rw [hlf, kinds_intercalate_lf (by simp)]
  simp [hbefore, hbehind]

theorem read_kinds_surround (c : CraftLoopConfig) (contents : String) (count : Int32) :
    read (kinds (c.surround contents count).toList) =
      (read (kinds contents.toList)).map fun texts ↦
        (c.framing count).1 ++ texts ++ (c.framing count).2 := by
  rw [kinds_surround, List.append_assoc, read_commands_append, read_append_commands]
  cases read (kinds contents.toList) with
  | error => rfl
  | ok texts => simp [Except.map]

end CraftLoopConfig

namespace ActiveMacro

open CraftLoopConfig LineParser

variable {m : Type → Type} [Monad m] {T : Type}

/-- A macro that is repeated by fixed steps has the steps that the text with these is parsed to. -/
theorem initialSteps_of_craftLoop {c : CraftLoopConfig} (hc : c.templateEnabled = false)
    {node : MacroNode} (hnative : node.language = .native) (hloop : node.craftLoop = true) :
    initialSteps c lineParser node =
      LineParser.parse (c.surround node.contents node.craftLoopCount) := by
  have hscript : node.isScript = false := by rw [MacroNode.isScript, hnative]; rfl
  have htext : c.transform node.contents node.craftLoop node.craftLoopCount =
      pure (c.surround node.contents node.craftLoopCount) := by
    rw [transform, hloop, hc]
    rfl
  rw [initialSteps, hscript, htext, if_neg Bool.false_ne_true, pure_bind, lineParser]

/-- **Fixed steps frame the body.** A macro that is repeated by fixed steps can be prepared exactly
if its body alone can be parsed. Its steps are then the commands of the body between the fixed ones;
otherwise it is refused with the message with which the body is. -/
theorem steps_eq_framing (report : Diagnostic → m Unit) (c : CraftLoopConfig)
    (hc : c.templateEnabled = false) (node : MacroNode) (hnative : node.language = .native)
    (hloop : node.craftLoop = true) :
    match LineParser.parse node.contents with
    | .ok body =>
      ∃ a : ActiveMacro T,
        start report c lineParser node = (do
          report (queued node a.steps.length a.lineCount)
          return .ok a) ∧
        a.steps.map Command.text =
          (c.framing node.craftLoopCount).1 ++ body.map Command.text ++
            (c.framing node.craftLoopCount).2
    | .error e =>
      ∃ line line' message, e = .parse line message ∧
        start (T := T) report c lineParser node = pure (.error (.parse line' message)) := by
  have hsteps := initialSteps_of_craftLoop hc hnative hloop
  have hread := read_kinds_surround c node.contents node.craftLoopCount
  rcases parse_cases node.contents with ⟨body, hbody, hread'⟩ | ⟨line, text, hbody, hread'⟩
  · rw [hbody]
    rw [hread'] at hread
    rcases parse_cases (c.surround node.contents node.craftLoopCount) with
      ⟨steps, hparse, hread''⟩ | ⟨line, text, hparse, hread''⟩
    · refine ⟨⟨node, steps, 0, (Text.splitLines node.contents).length, lineParser, none, false⟩,
        ?_, ?_⟩
      · rw [start, prepare, hsteps, hparse]
        rfl
      · exact Except.ok.inj (hread''.symm.trans hread)
    · exact nomatch hread''.symm.trans hread
  · rw [hbody]
    rw [hread'] at hread
    rcases parse_cases (c.surround node.contents node.craftLoopCount) with
      ⟨steps, hparse, hread''⟩ | ⟨line', text', hparse, hread''⟩
    · exact nomatch hread''.symm.trans hread
    · -- Both are refused for the same text; only the line that it stands in may differ.
      obtain rfl : text' = text := Except.error.inj (hread''.symm.trans hread)
      refine ⟨line, line', _, rfl, ?_⟩
      rw [start, prepare, hsteps, hparse]
      rfl

/-- A body that ends in a lone `\r`, repeated twice from the crafting log. -/
theorem steps_eq_framing_two :
    ({ name := "m", contents := "/ac Muscle Memory\r", craftLoop := true,
       craftLoopCount := 2 } : MacroNode).language = .native ∧
    ∃ a : ActiveMacro Unit,
      start (fun _ ↦ (pure () : Id Unit)) {} lineParser
        { name := "m", contents := "/ac Muscle Memory\r", craftLoop := true,
          craftLoopCount := 2 } = pure (.ok a) ∧
      a.steps.map Command.text =
        ["/craft 2", "/waitaddon \"RecipeNote\"", "/click \"RecipeNote Synthesize\"",
          "/waitaddon \"Synthesis\"", "/ac Muscle Memory", "/loop"] := by
  have h := steps_eq_framing (T := Unit) (fun _ ↦ (pure () : Id Unit)) {} rfl
    { name := "m", contents := "/ac Muscle Memory\r", craftLoop := true, craftLoopCount := 2 }
    rfl rfl
  have hparse : LineParser.parse "/ac Muscle Memory\r" = .ok [⟨"/ac Muscle Memory", 1⟩] := by rfl
  rw [hparse] at h
  obtain ⟨a, ha, hsteps⟩ := h
  exact ⟨rfl, a, ha, hsteps⟩

end ActiveMacro

end MacroStream
