import Mathlib.Data.List.Chain

/-!
# Runs

A system that makes steps, each of which leaves an event behind, and the runs that it makes by
them. What is said of whole runs is said here once: it follows from what every single step keeps.

Nothing is assumed of the steps. There may be states without a step, and states with many.
-/

namespace MacroStream

variable {S E : Type} {step : S → E → S → Prop}

/-- Steps one after the other, with their events. -/
inductive Run (step : S → E → S → Prop) : S → List E → S → Prop
  | nil (s : S) : Run step s [] s
  | cons {s s' s'' : S} {e : E} {es : List E} (h : step s e s') (hs : Run step s' es s'') :
    Run step s (e :: es) s''

namespace Run

variable {I J : S → Prop} {P Q : E → Prop} {s s' : S} {es : List E}

/-- What steps keep and show as long as their events satisfy `P` is shown by all events of a run
that satisfy it. -/
theorem forall_of_kept_while (h : Run step s es s')
    (hstep : ∀ {s e s'}, step s e s' → I s → P e → I s' ∧ Q e) (hs : I s) (hP : ∀ e ∈ es, P e) :
    ∀ e ∈ es, Q e := by
  induction h with
  | nil => simp
  | cons h _ ih =>
    obtain ⟨he, hes⟩ := List.forall_mem_cons.1 hP
    obtain ⟨hs', hQ⟩ := hstep h hs he
    exact List.forall_mem_cons.2 ⟨hQ, ih hs' hes⟩

/-- What every step keeps and shows is shown by every event of a run. -/
theorem forall_of_kept (h : Run step s es s')
    (hstep : ∀ {s e s'}, step s e s' → I s → I s' ∧ Q e) (hs : I s) : ∀ e ∈ es, Q e :=
  h.forall_of_kept_while (P := fun _ ↦ True) (fun h hs _ ↦ hstep h hs) hs fun _ _ ↦ trivial

/-- If an event with `P` makes sure of what every step then keeps and shows, all later events show
it. -/
theorem pairwise_of_kept (h : Run step s es s') (hJ : ∀ {s e s'}, step s e s' → J s → J s')
    (hlead : ∀ {s e s'}, step s e s' → J s → P e → I s')
    (hstep : ∀ {s e s'}, step s e s' → I s → I s' ∧ Q e) (hs : J s) :
    es.Pairwise fun x y ↦ P x → Q y := by
  induction h with
  | nil => exact .nil
  | cons h hrun ih =>
    refine List.pairwise_cons.2 ⟨fun y hy hx ↦ ?_, ih (hJ h hs)⟩
    exact hrun.forall_of_kept hstep (hlead h hs hx) y hy

section Views

variable {X : Type} {view : S → X} {before after : E → X}

/-- The first event of a run shows the state that the run starts in. -/
theorem before_head (h : Run step s es s')
    (hbefore : ∀ {s e s'}, step s e s' → before e = view s) :
    ∀ e ∈ es.head?, before e = view s := by
  cases h with
  | nil => simp
  | cons h _ => simp [hbefore h]

/-- Each event finds what the one before it left. -/
theorem connected (h : Run step s es s') (hbefore : ∀ {s e s'}, step s e s' → before e = view s)
    (hafter : ∀ {s e s'}, step s e s' → after e = view s') :
    es.IsChain fun x y ↦ before y = after x := by
  induction h with
  | nil => exact .nil
  | cons h hrun ih =>
    refine List.isChain_cons.2 ⟨fun e he ↦ ?_, ih⟩
    rw [hafter h]
    exact hrun.before_head hbefore e he

end Views

end Run

end MacroStream
