import MacroStream.Proofs.Script.Crossing
import MacroStream.Proofs.Script.ListedFunctions

/-!
# Calls of operations

A call of an operation is all or nothing: first the arguments are made ready for the host, and only
if all of them cross the operation is run, once. What it answers decides how the call ends.

That an operation is run once is said by an equation between runs, for hosts of any kind: the run
that begins with the call is the operation, followed by the run that goes on with its answer. Where
an argument is barred, the call is followed by what is thrown, and nothing stands in between.

A call may find that the stack is full. The machine says so without looking at the arguments, and it
is left out here.
-/

namespace MacroStream.Script

variable {h : Heap} {i : Nat} {op : String} {v : Value} {args : List Value}

/-! ### Errors of the host -/

namespace Heap

theorem object?_withError (h : Heap) (message : String) :
    (h.withError message).object? h.objects.size = some (.hostError message) :=
  Array.getElem?_push_size

/-- Whatever is read behind a chain of keys is what was there before. -/
theorem readPath_withError (h : Heap) (message : String) (v : Value) (ks : List Key) :
    (h.withError message).readPath v ks = h.readPath v ks := by
  induction ks generalizing v with
  | nil => rw [readPath, readPath]
  | cons k ks ih =>
    cases v with
    | table a => exact ih (h.rawGet a k)
    | _ => rfl

end Heap

/-! ### What a call does -/

namespace Machine

/-- The machine with a function on top of its stack that is not a script's. -/
def inside (m : Machine) (f : Value) (site : CallSite) (depth : Nat) : Machine :=
  { m with
    frames :=
      { function := f, activation := none, name := site.name, isTail := false, line := 0
        pending := .none, depth, slots := m.slots + librarySlots } :: m.frames }

/-- Throws a new error of the host. -/
def raise (m : Machine) (h : Heap) (message : String) : Turn :=
  m.throw (h.withError message) ⟨.userdata h.objects.size, .runtime⟩

theorem enter_of_dispatches {m : Machine} (hv : h.Dispatches v i op)
    (hroom : m.slots + librarySlots ≤ slotLimit) (args : List Value) (site : CallSite)
    (isTail : Bool) (depth : Nat) :
    m.enter h v args site isTail depth =
      .go (m.inside v site depth) (Library.invoke i op args (fun vs h ↦ (h, .answer vs)) h).1
        (Library.invoke i op args (fun vs h ↦ (h, .answer vs)) h).2 := by
  have hcallee : callee h calleeLimit v args = (v, args, .library (Library.invoke i op args)) :=
    hv.callee_eq (calleeLimit - 1) args
  rw [enter, hcallee]
  exact if_neg (Nat.not_lt.2 hroom)

end Machine

namespace Library

theorem invoke_of_error {f : ExchangeFault} (hargs : h.toJsonList args = .error f) (i : Nat)
    (op : String) (k : List Value → Heap → Heap × Signal) :
    invoke i op args k h =
      (h.withError f.message, .throw ⟨.userdata h.objects.size, .runtime⟩) := by
  rw [invoke]
  simp only [Action.bind_apply, Action.read_apply, hargs]
  rfl

end Library

/-! ### All or nothing -/

/-- **All or nothing.** If all arguments of an operation cross, it is run once, with what they are
for the host and in their order: it answers what the call returns, or the error that the call
throws. If one of them is barred, the call throws and nothing is run. It is one or the other; and an
error that is thrown has the text it was made with and changes nothing that can be read. -/
theorem run_enter_of_dispatches {μ : Type → Type} [Monad μ] (p : Platform μ)
    {capabilities : List (Capability μ)} (r : ModuleResolver) {c : Capability μ}
    (hc : capabilities[i]? = some c) (hv : h.Dispatches v i op) {m : Machine}
    (hroom : m.slots + Machine.librarySlots ≤ Machine.slotLimit) (args : List Value)
    (site : CallSite) (isTail : Bool) (depth : Nat) :
    (∀ js, List.Forall₂ h.Crosses args js → ∀ fuel,
      run (Session.respond p capabilities r) (fuel + 3) (m.enter h v args site isTail depth) = do
        match ← c.invoke op js with
        | .ok j =>
          run (Session.respond p capabilities r) fuel (m.deliver (h.ofJson j).2 [(h.ofJson j).1])
        | .error e =>
          run (Session.respond p capabilities r) fuel ((m.inside v site depth).raise h e.message)) ∧
    ((∃ w ∈ args, h.Barred w) → ∃ f : ExchangeFault, ∀ fuel,
      run (Session.respond p capabilities r) (fuel + 1) (m.enter h v args site isTail depth) =
        run (Session.respond p capabilities r) fuel ((m.inside v site depth).raise h f.message)) ∧
    ((∃ js, List.Forall₂ h.Crosses args js) ↔ ¬∃ w ∈ args, h.Barred w) ∧
    ∀ message, (h.withError message).object? h.objects.size = some (.hostError message) ∧
      ∀ w ks, (h.withError message).readPath w ks = h.readPath w ks := by
  have henter := Machine.enter_of_dispatches hv hroom args site isTail depth
  refine ⟨fun js hjs fuel ↦ ?_, fun hbarred ↦ ?_, Heap.exists_forall₂_crosses_iff,
    fun message ↦ ⟨h.object?_withError message, h.readPath_withError message⟩⟩
  · have hrespond : Session.respond p capabilities r (.invoke i op js) = c.invoke op js := by
      rw [Session.respond, hc]
    rw [henter, Library.invoke_of_ok (Heap.toJsonList_eq_ok_iff.2 hjs)]
    -- The three steps: the function asks, it is answered, and the call ends.
    simp only [run, Machine.step, hrespond]
    refine congrArg _ (funext fun reply ↦ ?_)
    cases reply <;> rfl
  · obtain ⟨f, hf⟩ := Heap.exists_toJsonList_eq_error_iff.2 hbarred
    refine ⟨f, fun fuel ↦ ?_⟩
    rw [henter, Library.invoke_of_error hf]
    rfl

/-- A capability whose operation answers its first argument. -/
def mirror : Capability Id :=
  .ofOperations "Mirror" [("First", fun js ↦
    return match js with
      | j :: _ => .ok j
      | [] => .error (.scriptRuntime "nothing to show"))]

/-- A heap with the operation, and with a table that holds itself. -/
def mirrorHeap : Heap :=
  ((({} : Heap).newFunction (.capability 0 "First")).2.newTable {}).2.rawSet 0 (.int 1) (.table 0)

/-- A call of the operation. -/
def mirrorCall (args : List Value) : Turn :=
  ({} : Machine).enter mirrorHeap (.function 0) args {} false 0

/-- The machine while the operation runs. -/
def insideMirror : Machine := ({} : Machine).inside (.function 0) {} 0

/-- Runs what the operation is used in. -/
def runMirror : Nat → Turn → Id (Machine × Heap × Ending) :=
  run (Session.respond deafPlatform [mirror] ⟨[], none⟩)

theorem barred_mirrorHeap : mirrorHeap.Barred (.table 0) := by
  have helements : (mirrorHeap.elements 0).map Value.toKey? = [some (.table 0)] := by
    decide +kernel
  obtain ⟨w, hw, hkey⟩ := List.map_eq_singleton_iff.1 helements
  have htable : w = .table 0 := by
    cases w with
    | table a => rw [Key.table.inj (Option.some.inj hkey)]
    | float x =>
      rw [Value.toKey?] at hkey
      split at hkey
      · cases hkey
      · split at hkey <;> cases hkey
    | _ => cases hkey
  refine .recursive (.single (Heap.isElement_table_iff.2 ?_))
  rw [hw, htable]
  exact List.mem_cons_self

theorem run_enter_of_dispatches_mirror :
    mirrorHeap.Dispatches (.function 0) 0 "First" ∧
    (∀ fuel, runMirror (fuel + 3) (mirrorCall [.nil, .int 7]) =
      runMirror fuel (({} : Machine).deliver mirrorHeap [.nil])) ∧
    (∀ fuel, runMirror (fuel + 3) (mirrorCall []) =
      runMirror fuel (insideMirror.raise mirrorHeap "script error: nothing to show")) ∧
    ∃ f : ExchangeFault, ∀ fuel, runMirror (fuel + 1) (mirrorCall [.nil, .table 0]) =
      runMirror fuel (insideMirror.raise mirrorHeap f.message) := by
  have hv : mirrorHeap.Dispatches (.function 0) 0 "First" := ⟨0, rfl, rfl⟩
  have hc : [mirror][0]? = some mirror := rfl
  have hroom : ({} : Machine).slots + Machine.librarySlots ≤ Machine.slotLimit := by decide
  have hcall (args : List Value) :=
    run_enter_of_dispatches deafPlatform ⟨[], none⟩ hc hv hroom args {} false 0
  refine ⟨hv, (hcall _).1 _ (.cons .nil (.cons (.int 7) .nil)), (hcall _).1 _ .nil,
    (hcall _).2.1 ⟨.table 0, ?_, barred_mirrorHeap⟩⟩
  exact List.mem_cons_of_mem _ List.mem_cons_self

end MacroStream.Script
