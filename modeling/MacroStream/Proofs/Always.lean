import Mathlib.Control.Traversable.Basic
import Mathlib.Tactic.Choose

/-!
# What holds of every result

Macros run in a monad of the host's choice, so what holds of their runs has to be said without a
look into the monad. `Always P x` says that `x` is a computation whose results come with a proof of
`P`, once the proofs are forgotten.

Nothing is said of computations that give no result, such as one that throws an exception of the
host: such a monad has no result to speak of. Two statements about one computation cannot be joined
in general, so an invariant has to carry all that is wanted of a run.
-/

namespace MacroStream

variable {m : Type → Type} {α β : Type}

/-- Every result of a computation satisfies `P`. -/
def Always [Functor m] (P : α → Prop) (x : m α) : Prop :=
  ∃ y : m {a // P a}, Subtype.val <$> y = x

namespace Always

variable [Monad m] [LawfulMonad m] {P : α → Prop} {Q : β → Prop} {x : m α}

theorem pure {a : α} (h : P a) : Always P (Pure.pure a : m α) :=
  ⟨Pure.pure ⟨a, h⟩, by simp⟩

/-- Any computation is good for what holds of everything. -/
theorem of_forall (h : ∀ a, P a) (x : m α) : Always P x :=
  ⟨(fun a ↦ ⟨a, h a⟩) <$> x, by simp⟩

/-- Any computation will do where nothing is asked of its results. -/
theorem trivially (x : m α) : Always (fun _ ↦ True) x := of_forall (fun _ ↦ trivial) x

theorem bind {f : α → m β} (hx : Always P x) (hf : ∀ a, P a → Always Q (f a)) :
    Always Q (x >>= f) := by
  obtain ⟨y, rfl⟩ := hx
  -- Behind a result with its proof, the results of `f` can be had with their proofs, too.
  have hg (a : {a // P a}) : ∃ z : m {b // Q b}, Subtype.val <$> z = f a := hf a a.2
  choose g hg using hg
  refine ⟨y >>= g, ?_⟩
  simp only [map_bind, hg, bind_map_left]

theorem map {f : α → β} (hx : Always P x) (hf : ∀ a, P a → Q (f a)) : Always Q (f <$> x) := by
  rw [← bind_pure_comp]
  exact hx.bind fun a ha ↦ pure (hf a ha)

theorem mono {P' : α → Prop} (hx : Always P x) (h : ∀ a, P a → P' a) : Always P' x := by
  simpa using hx.map (f := id) h

/-- Two continuations that agree on all results are as good as each other. -/
theorem bind_eq_bind {f g : α → m β} (hx : Always P x) (h : ∀ a, P a → f a = g a) :
    x >>= f = x >>= g := by
  obtain ⟨y, rfl⟩ := hx
  rw [bind_map_left, bind_map_left]
  exact bind_congr fun a ↦ h a a.2

/-- A computation without effects has one result. -/
theorem id_iff {P : α → Prop} {x : Id α} : Always P x ↔ P (Id.run x) :=
  ⟨fun ⟨y, hy⟩ ↦ hy ▸ y.2, fun h ↦ ⟨⟨x, h⟩, rfl⟩⟩

end Always

end MacroStream
