import MacroStream.Proofs.Script.Templates

/-!
# Strings as expressions

The simplest expression that the function `f` may find in a string is another string. It needs
nothing from the stack and changes nothing, so evaluating it comes to its value wherever it stands.
-/

namespace MacroStream.Script

open Interpolation

variable {limit : Nat} {h : Heap} {m : Machine} {f : Frame} {below : List Frame} {a g : Nat}
  {v : ByteArray} {info : FunctionInfo}

/-- The body of a function that returns a string. -/
def answersString (info : FunctionInfo) (v : ByteArray) : FunctionBody :=
  .mk info (.mk [.return [.str v]] [])

theorem exec_return_str (c : Context) (v : ByteArray) (k : Effect → Heap → Heap × Signal)
    (h : Heap) : Action.exec c (.return [.str v]) k h = k (.return [.str v]) h := by
  rw [Action.exec, evalList_singleton, Action.eval]
  rfl

/-- Calling a function that returns a string gives the string. -/
theorem does_call_answersString {captured : Array Nat} {site : CallSite}
    (hfun : h.function? a = some (.script (answersString info v) captured))
    (hnests : ∀ line, (m.stacked f below line).nests site = false)
    (hdepth : f.depth + 1 < Machine.depthLimit)
    (hslots : f.slots + info.frameSize ≤ Machine.slotLimit) (hlimit : h.limit = limit) :
    (Action.call (.function a) [] site).Does limit (m.stacked f below) h
      fun vs h' ↦ vs = [.str v] ∧ h.Extends h' := by
  refine Machine.does_call_script hfun hnests hdepth hslots fun P line pending hP ↦ ?_
  have hbegun : h.Extends (h.withCells (Action.adjust info.params.length []).toArray) :=
    .withCells _ _
  refine Running.reaches_next (hbegun.limit_eq.trans hlimit) fun u ↦ ?_
  have hused := hbegun.trans (.used _ u)
  refine Action.does_of_eq (exec_return_str _ v · _) ?_
  refine Running.reaches_return rfl (hused.limit_eq.trans hlimit) fun u' ↦ ?_
  exact hP _ _ ⟨rfl, hused.trans (.used _ u')⟩

/-- A string is its own text. -/
theorem does_tostring {m : Nat → Machine}
    (hplain : h.metafield (.str .empty) MetaName.tostring = .nil) :
    (Library.runPrimitive (.base .tostring) [.str v]).Does limit m h
      fun vs h' ↦ vs = [.str v] ∧ h' = h := by
  refine Action.does_of_eq (fun k ↦ ?_) ⟨rfl, rfl⟩
  have hfield : h.metafield (.str v) MetaName.tostring = .nil := hplain
  show Action.toText (.str v) (fun text ↦ k [.str text]) h = _
  simp only [Action.toText, Action.bind_apply, Action.read_apply, hfield]
  rfl

/-- The text of the value is answered. -/
theorem exec_answerText {r : Running} {n : Nat} (scope : Scope) (hn : h.Holds n (.str v))
    (htostring : h.Holds (r.activation.captured.getD 8 0) (.primitive (.base .tostring)))
    (k : Effect → Heap → Heap × Signal) :
    Action.exec (r.context (("value".toUTF8, n) :: scope)) answerText k h =
      (h, .tailCall (.primitive (.base .tostring)) [.str v]
        ⟨36, some ("upvalue", "tostring".toUTF8)⟩) := by
  rw [← htostring.2, ← hn.2, answerText, Action.exec]
  simp only [Action.evalList, Action.eval]
  rfl

/-- The function that replaces a piece answers the string that it has loaded. -/
theorem Running.reaches_answerText {r : Running} {P : Turn → Prop} {b c d n : Nat}
    {captured : Array Nat} (hlimit : h.limit = limit)
    (hanswers : h.CanAnswer r.activation.captured)
    (hmethod : h.HasMethod "sub".toUTF8 (.string .sub))
    (hdepth : r.frame.depth + 1 < Machine.depthLimit)
    (hslots : r.frame.slots + Machine.librarySlots ≤ Machine.slotLimit)
    (hroom : r.frame.slots + info.frameSize ≤ Machine.slotLimit) (hn : h.Holds n (.function a))
    (hfun : h.function? a = some (.script (answersString info v) captured))
    (hP : ∀ h', h.Extends h' →
      P (Machine.deliver { r.machine with frames := r.below } h' [.str v])) :
    r.Reaches limit P (evaluationScope b c d n)
      [.block [evaluateCode, answerText] replace.block [] []] .next h := by
  refine Running.reaches_next hlimit fun u ↦ ?_
  have hused := Heap.Extends.used h u
  refine does_declare ["value".toUTF8] ?_
  rw [evalList_singleton]
  have hfunction (k : List Value → Heap → Heap × Signal) : Action.eval
      (r.context (evaluationScope b c d n)) (.scope "fn".toUTF8 1) k { h with used := u } =
        k [.function a] { h with used := u } := by
    rw [← (hused.cells hn).2, Action.eval]
    rfl
  have hargs (k : List Value → Heap → Heap × Signal) : Action.evalList
      (r.context (evaluationScope b c d n)) [] k { h with used := u } =
        k [] { h with used := u } := by
    rw [Action.evalList]
    rfl
  refine does_eval_call hfunction hargs ?_
  refine (does_call_answersString
    (f := r.frameAt (evaluationScope b c d n) [.block [answerText] replace.block [] []])
    (hused.grew.function?_eq hfun) (fun _ ↦ rfl) hdepth hroom (hused.limit_eq.trans hlimit)).mono ?_
  rintro _ h₁ ⟨rfl, hh₁⟩
  have hold : h.Extends (h₁.withCells (Action.adjust 1 [.str v]).toArray) :=
    (hused.trans hh₁).trans (.withCells _ _)
  have hvalue : (h₁.withCells (Action.adjust 1 [.str v]).toArray).Holds h₁.cells.size (.str v) :=
    Heap.holds_withCells h₁ [.str v] (i := 0) rfl
  have hanswers' := hanswers.mono hmethod hold
  have hexec (u : Nat) (k : Effect → Heap → Heap × Signal) :=
    exec_answerText (evaluationScope b c d n) ((Heap.Extends.used _ u).cells hvalue)
      ((Heap.Extends.used _ u).cells hanswers'.tostring) k
  refine Running.reaches_declare (Running.reaches_next_tailCall
    (R := fun vs h' ↦ vs = [.str v] ∧ h.Extends h') (hold.limit_eq.trans hlimit) hslots hexec
    (fun u m ↦ (does_tostring (h := { h₁.withCells _ with used := u }) hanswers'.plain).mono ?_) ?_)
  · rintro vs _ ⟨rfl, rfl⟩
    exact ⟨rfl, hold.trans (.used _ u)⟩
  · rintro _ h₂ ⟨rfl, hh₂⟩
    refine Running.reaches_return rfl (hh₂.limit_eq.trans hlimit) fun u ↦ ?_
    exact .here (hP _ (hh₂.trans (.used h₂ u)))

/-- Whether a text reads as the string `v`. -/
def readsAsString (depth : Nat) (code v : ByteArray) : Bool :=
  match Parser.parse (Token.beforeZero (chunkName code)) depth ("return ".toUTF8 ++ code) with
  | .ok (.mk info (.mk [.return [.str w]] [])) => w = v && info.frameSize ≤ 20
  | _ => false

theorem exists_of_readsAsString {depth : Nat} {code : ByteArray}
    (hreads : readsAsString depth code v = true) : ∃ info : FunctionInfo,
      Parser.parse (Token.beforeZero (chunkName code)) depth ("return ".toUTF8 ++ code) =
        .ok (answersString info v) ∧ info.frameSize ≤ 20 := by
  rw [readsAsString] at hreads
  split at hreads
  case h_1 info w hparse =>
    rw [Bool.and_eq_true, decide_eq_true_eq, decide_eq_true_eq] at hreads
    obtain ⟨rfl, hsize⟩ := hreads
    exact ⟨info, hparse, hsize⟩
  case h_2 => cases hreads

/-- A text that reads as a string is evaluated to the string. -/
theorem Evaluation.runsOn_of_readsAsString {σ : Type} {E : Evaluation σ} {code : ByteArray}
    {depth slots : Nat} (heval : ∀ s, ∃ s', E.Evaluates code s (.ok v) s' ∧
      ∀ m h, E.Shows m h s → E.Shows m h s') (hreads : readsAsString (depth + 1) code v = true)
    (hdepth : depth + 2 < Machine.depthLimit) (hslots : slots + 55 ≤ Machine.slotLimit) :
    E.RunsOn below g depth slots code := by
  obtain ⟨info, hparse, hsize⟩ := exists_of_readsAsString hreads
  intro r a b c line h s htext hshows
  obtain ⟨s', hs', hshows'⟩ := heval s
  have hframe := htext.depth_eq
  have hslots' := htext.slots_eq
  have hreaches : r.Reaches h.limit (fun t ↦ ∃ h', h.Extends h' ∧
      t = Machine.deliver { r.machine with frames := r.below } h' [.str v])
      [("code".toUTF8, c), ("block".toUTF8, b)] [.block evaluation replace.block [] []] .next h := by
    refine Running.reaches_loaded rfl htext.replaces.replaces ?_ htext.text (hframe ▸ hparse) ?_
    · show r.frame.slots + 20 ≤ _
      omega
    intro d n f cell e h₁ hh₁ hn hfun hcell hlooks hempty
    refine Running.reaches_answerText hh₁.limit_eq
      (htext.replaces.answers.mono htext.replaces.replaces.sub hh₁)
      (htext.replaces.replaces.sub.mono hh₁) ?_ ?_ ?_ hn hfun
      fun h' hh' ↦ ⟨h', hh₁.trans hh', rfl⟩
    · omega
    · show r.frame.slots + 20 ≤ _
      omega
    · omega
  refine (hreaches.2 line h.used).comesTo ?_
  rintro _ ⟨h', hh', rfl⟩
  refine .here ⟨.ok v, s', hs', r.machine, h', rfl, ?_, fun _ _ ↦
    ⟨hh'.limit_eq, htext.replaces.mono hh'⟩⟩
  exact hshows' _ _ (E.shows_mono r.machine.frames hshows hh')

end MacroStream.Script
