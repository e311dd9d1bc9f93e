import MacroStream.Proofs.Script.InterpolatedNames

/-!
# Templates and evaluations

A string with expressions in braces is a template. What the function `f` makes of it depends on how
the expressions are evaluated, and that is left open here: an `Evaluation` is a relation between
texts, states and outcomes, together with the states that a machine may be in. `Evaluation.RunsOn`
says that the function which replaces pieces keeps to it, once it has taken the braces off, and
`Evaluation.Fills` says what then becomes of a template.

An evaluation may ask the host, so what is said of turns is said whatever the host answers
(`Turn.ComesTo`).
-/

namespace MacroStream.Script

open Interpolation Pattern

/-! ### Turns with questions -/

/-- Whatever the host answers, the machine comes to a turn that satisfies `P`, or its memory is
limited and there is too little of it. -/
inductive Turn.ComesTo (limit : Nat) (P : Turn → Prop) : Turn → Prop
  | here {t : Turn} (ht : P t) : ComesTo limit P t
  | starved {t : Turn} (hlimit : limit ≠ 0) (ht : t.Starved) : ComesTo limit P t
  | step {m : Machine} {h : Heap} {s : Signal} (ht : ComesTo limit P (m.step h s)) :
    ComesTo limit P (.go m h s)
  | ask {m : Machine} {h : Heap} {r : Request} {k : r.Reply → Heap → Heap × Signal}
    (ht : ∀ reply, ComesTo limit P (m.tell (k reply h))) : ComesTo limit P (.ask m h r k)

namespace Turn

variable {limit n : Nat} {P R : Turn → Prop} {t t' : Turn}

theorem ComesTo.bind (ht : t.ComesTo limit P) (hP : ∀ t', P t' → t'.ComesTo limit R) :
    t.ComesTo limit R := by
  induction ht with
  | here ht => exact hP _ ht
  | starved hlimit ht => exact .starved hlimit ht
  | step _ ih => exact .step ih
  | ask _ ih => exact .ask ih

theorem ComesTo.of_leads (ht : Leads n t t') (ht' : t'.ComesTo limit P) : t.ComesTo limit P := by
  induction ht with
  | refl => exact ht'
  | step _ ih => exact .step (ih ht')

theorem Reaches.comesTo (ht : t.Reaches limit P) (hP : ∀ t', P t' → t'.ComesTo limit R) :
    t.ComesTo limit R := by
  obtain ⟨n, t', hleads, ht' | ⟨hlimit, hstarved⟩⟩ := ht
  · exact .of_leads hleads (hP t' ht')
  · exact .of_leads hleads (.starved hlimit hstarved)

end Turn

/-- What a call on top of the functions `below` comes to: a string is handed to the innermost of
them, or what is thrown goes past all functions above them. -/
def Turn.Gives (below : List Frame) (Q : Machine → Heap → Prop) (o : Except Thrown ByteArray)
    (t : Turn) : Prop :=
  match o with
  | .ok v => ∃ m h, t = Machine.deliver { m with frames := below } h [.str v] ∧ Q m h
  | .error e => ∃ m h above, t = .go { m with frames := above ++ below } h (.throw e) ∧
    (∀ f ∈ above, f.pending.catcher? = none) ∧ Q m h

/-! ### Templates -/

/-- A literal text, and texts of expressions in braces, each with the literal text behind it. -/
def template (literal : ByteArray) : List (ByteArray × ByteArray) → ByteArray
  | [] => literal
  | (code, next) :: parts => literal ++ inBraces code ++ template next parts

theorem append_template_cons (before literal code next : ByteArray)
    (parts : List (ByteArray × ByteArray)) :
    before ++ template literal ((code, next) :: parts) =
      before ++ literal ++ inBraces code ++ template next parts := by
  rw [template, ByteArray.append_assoc, ByteArray.append_assoc, ByteArray.append_assoc]

/-- A text without braces. -/
def NoBraces (s : ByteArray) : Prop := ∀ b ∈ s.data.toList, b ≠ 123 ∧ b ≠ 125

instance : DecidablePred NoBraces := fun s ↦ List.decidableBAll _ s.data.toList

instance : DecidablePred IsInside := fun code ↦
  inferInstanceAs (Decidable (closesAll 123 125 0 code.data.toList = true))

/-! ### Evaluations -/

/-- Texts of expressions are evaluated in some way: from a state of any kind a text comes to an
outcome and a state. -/
structure Evaluation (σ : Type) where
  Evaluates : ByteArray → σ → Except Thrown ByteArray → σ → Prop
  /-- A machine is in a state. -/
  Shows : Machine → Heap → σ → Prop
  /-- The state has nothing to do with the stack, and with new things in the heap. -/
  shows_mono : ∀ {m : Machine} {h h' : Heap} {s : σ} (frames : List Frame),
    Shows m h s → h.Extends h' → Shows { m with frames } h' s

namespace Evaluation

variable {σ : Type}

/-- What a template comes to: its expressions are evaluated one after the other, and their values
come between the literal texts. The first expression that fails is the last one. -/
inductive Fills (E : Evaluation σ) :
    ByteArray → List (ByteArray × ByteArray) → σ → Except Thrown ByteArray → σ → Prop
  | literal {literal : ByteArray} {s : σ} : E.Fills literal [] s (.ok literal) s
  | value {literal code next v text : ByteArray} {parts : List (ByteArray × ByteArray)}
    {s s' s'' : σ} (hv : E.Evaluates code s (.ok v) s') (ht : E.Fills next parts s' (.ok text) s'') :
    E.Fills literal ((code, next) :: parts) s (.ok (literal ++ v ++ text)) s''
  | later {literal code next v : ByteArray} {parts : List (ByteArray × ByteArray)} {e : Thrown}
    {s s' s'' : σ} (hv : E.Evaluates code s (.ok v) s') (ht : E.Fills next parts s' (.error e) s'') :
    E.Fills literal ((code, next) :: parts) s (.error e) s''
  | failure {literal code next : ByteArray} {parts : List (ByteArray × ByteArray)} {e : Thrown}
    {s s' : σ} (he : E.Evaluates code s (.error e) s') :
    E.Fills literal ((code, next) :: parts) s (.error e) s'

/-- Texts are evaluated by a function. The state lists the texts that were evaluated. -/
def ofFunction (eval : ByteArray → Except Thrown ByteArray) : Evaluation (List ByteArray) where
  Evaluates code done o done' := o = eval code ∧ done' = done ++ [code]
  Shows _ _ _ := True
  shows_mono _ _ _ := trivial

/-- The literal texts of a template with the values of the expressions between them. -/
def filled (eval : ByteArray → Except Thrown ByteArray) (literal : ByteArray) :
    List (ByteArray × ByteArray) → Except Thrown ByteArray
  | [] => .ok literal
  | (code, next) :: parts => do
    let v ← eval code
    let text ← filled eval next parts
    return literal ++ v ++ text

/-- The texts of a template up to the first one that fails. -/
def evaluated (eval : ByteArray → Except Thrown ByteArray) :
    List (ByteArray × ByteArray) → List ByteArray
  | [] => []
  | (code, _) :: parts =>
    match eval code with
    | .ok _ => code :: evaluated eval parts
    | .error _ => [code]

/-- With a function a template is filled in one way only. -/
theorem eq_of_fills_ofFunction {eval : ByteArray → Except Thrown ByteArray} {literal : ByteArray}
    {parts : List (ByteArray × ByteArray)} {done done' : List ByteArray}
    {o : Except Thrown ByteArray} (h : (ofFunction eval).Fills literal parts done o done') :
    o = filled eval literal parts ∧ done' = done ++ evaluated eval parts := by
  induction h with
  | literal => exact ⟨rfl, (List.append_nil _).symm⟩
  | value hv _ ih | later hv _ ih =>
    obtain ⟨hv, rfl⟩ := hv
    obtain ⟨htext, rfl⟩ := ih
    rw [filled, evaluated, ← hv, ← htext, List.append_assoc]
    exact ⟨rfl, rfl⟩
  | failure he =>
    obtain ⟨he, rfl⟩ := he
    rw [filled, evaluated, ← he]
    exact ⟨rfl, rfl⟩

end Evaluation

/-! ### Where texts are evaluated -/

/-- A function replaces pieces, and has captured `captured`. For global variables it looks into the
table `g`. -/
structure Heap.ReplacesWith (h : Heap) (a g : Nat) (captured : Array Nat) : Prop where
  script : h.function? a = some (.script replace captured)
  replaces : h.CanReplace captured g
  answers : h.CanAnswer captured

theorem Heap.ReplacesWith.mono {h h' : Heap} {a g : Nat} {captured : Array Nat}
    (hr : h.ReplacesWith a g captured) (hh : h.Extends h') : h'.ReplacesWith a g captured :=
  ⟨hh.grew.function?_eq hr.script, hr.replaces.mono hh, hr.answers.mono hr.replaces.sub hh⟩

/-- The function that replaces a piece has taken off the braces. It is on top of `gsub` and of `f`,
and `f` is on top of the functions `below`, which keep `slots` values. -/
structure Running.HasText (r : Running) (h : Heap) (below : List Frame) (a g depth slots c : Nat)
    (code : ByteArray) : Prop where
  function : r.frame.function = .function a
  replaces : h.ReplacesWith a g r.activation.captured
  below_eq : ∃ going helper, r.below = going :: helper :: below ∧
    going.function = .primitive (.string .gsub) ∧ helper.localNames = ["str".toUTF8]
  depth_eq : r.frame.depth = depth + 1
  slots_eq : r.frame.slots = slots + 35
  text : h.Holds c (.str code)

/-- A text is evaluated as `E` says, and a value leaves alone what `f` needs. -/
def Evaluation.RunsOn {σ : Type} (E : Evaluation σ) (below : List Frame) (g depth slots : Nat)
    (code : ByteArray) : Prop :=
  ∀ (r : Running) (a b c line : Nat) (h : Heap) (s : σ),
    r.HasText h below a g depth slots c code → E.Shows r.machine h s →
      ((r.machineAt [("code".toUTF8, c), ("block".toUTF8, b)]
        [.block evaluation replace.block [] []] line).perform h .next).ComesTo h.limit fun t ↦
          ∃ o s', E.Evaluates code s o s' ∧ t.Gives r.below (fun m' h' ↦ E.Shows m' h' s' ∧
            ∀ v, o = .ok v → h'.limit = h.limit ∧ h'.ReplacesWith a g r.activation.captured) o

end MacroStream.Script
