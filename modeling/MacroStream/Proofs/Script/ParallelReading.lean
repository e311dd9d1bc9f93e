import MacroStream.Proofs.Script.ChunkReading

/-!
# Readings that go side by side

Which tokens the parser takes is decided by the tokens alone. What it makes of them, which variables
it knows of and what strings say has a part only in whether it goes on at all. So if one text is
read at two places, and if both readings succeed, then both take the same tokens: `Agree` says this
of two actions of the parser, and has a rule for each way in which actions are put together.

At the one place the text may come to its end, and the parser stops. At the other place it goes on
behind the word `end`, and there the parser stops as well, because no part of the grammar that is
open at the end of the text can take this word: it would have been missing at the first place
(`InStep.done`).

A row of tokens may also end with a fault. Then no reading gets to its end, and as long as it
succeeds it has a token in front of it (`InStep.fault`).
-/

namespace MacroStream.Script.Parser

variable {α β γ δ : Type}

/-! ### Rows of tokens -/

/-- Tokens that are the same, but for what a string says. -/
inductive SameKind : Token → Token → Prop
  | same {t : Token} (h : t ≠ .eof) : SameKind t t
  | str (s s' : ByteArray) : SameKind (.str s) (.str s')

/-- Two rows of tokens that are the same, but for what strings say. The first row is a whole text,
and the second one goes on behind it with `end`; or both of them end with a fault. -/
inductive InStep : Option (List Token) → List Token → List Token → Prop
  | token {o : Option (List Token)} {t t' : Token} {ts ts' : List Token} (h : SameKind t t')
      (hs : InStep o ts ts') : InStep o (t :: ts) (t' :: ts')
  | fault {t t' : Token} (h : SameKind t t') : InStep none [t] [t']
  | done (behind : List Token) : InStep (some behind) [.eof] (.symbol .kEnd :: behind)

theorem SameKind.ne_eof {t t' : Token} (h : SameKind t t') : t ≠ .eof := by
  cases h with
  | same h => exact h
  | str => exact Token.noConfusion

theorem InStep.ne_nil {o : Option (List Token)} {ts ts' : List Token} (h : InStep o ts ts') :
    ts ≠ [] ∧ ts' ≠ [] := by
  cases h <;> simp

/-- The tokens in front. -/
theorem InStep.front {o : Option (List Token)} {t t' : Token} {ts ts' : List Token}
    (h : InStep o (t :: ts) (t' :: ts')) :
    SameKind t t' ∨ t = .eof ∧ t' = .symbol .kEnd := by
  cases h with
  | token h => exact .inl h
  | fault h => exact .inl h
  | done => exact .inr ⟨rfl, rfl⟩

theorem InStep.length_eq {behind ts ts' : List Token} (h : InStep (some behind) ts ts') :
    ts'.length = ts.length + behind.length := by
  generalize ho : some behind = o at h
  induction h with
  | token _ _ ih =>
    rw [List.length_cons, List.length_cons, ih ho]
    omega
  | fault => exact nomatch ho
  | done =>
    obtain rfl := Option.some.inj ho
    rw [List.length_cons, List.length_singleton, Nat.add_comm]

/-- Where the first text has come to its end, the second one goes on with `end`. -/
theorem InStep.eq_of_eof {behind ts ts' : List Token}
    (h : InStep (some behind) (.eof :: ts) ts') : ts' = .symbol .kEnd :: behind := by
  cases h with
  | token hkind => exact absurd rfl hkind.ne_eof
  | done => rfl

/-- The tokens in front of the parser. -/
def State.row (st : State) : List Token := st.current.token :: st.rest.map Lexeme.token

/-- Two places at which the parser is. At the second one it is in functions of a certain number,
around which there are the functions `outer`, and in `d` levels of nesting. -/
structure Beside (o : Option (List Token)) (outer : List OpenFunction) (l d : Nat)
    (st st' : State) : Prop where
  row : InStep o st.row st'.row
  fault : st.fault.isNone = o.isSome
  fault' : st'.fault.isNone = o.isSome
  functions : ∃ fs, fs.length = l + 1 ∧ st'.functions = fs ++ outer
  depth : st'.depth = d

/-! ### Actions that take no token -/

/-- A state of the parser in which no token was taken since. -/
structure Still (st st' : State) : Prop where
  current : st'.current = st.current
  rest : st'.rest = st.rest
  fault : st'.fault = st.fault
  depth : st'.depth = st.depth
  /-- A function around others does not change. -/
  functions : ∀ fs outer, fs ≠ [] → outer.length ≤ 1 → st.functions = fs ++ outer →
    ∃ fs', fs'.length = fs.length ∧ st'.functions = fs' ++ outer

/-- An action that takes no token. -/
def Quiet (x : Parse α) : Prop := ∀ st a st', x st = .ok (a, st') → Still st st'

theorem Still.refl (st : State) : Still st st :=
  ⟨rfl, rfl, rfl, rfl, fun fs _ _ _ h ↦ ⟨fs, rfl, h⟩⟩

theorem Still.trans {st st' st'' : State} (h : Still st st') (h' : Still st' st'') :
    Still st st'' := by
  refine ⟨h'.current.trans h.current, h'.rest.trans h.rest, h'.fault.trans h.fault,
    h'.depth.trans h.depth, fun fs outer hfs houter hst ↦ ?_⟩
  obtain ⟨fs', hlength, hst'⟩ := h.functions fs outer hfs houter hst
  have hfs' : fs' ≠ [] := by
    rw [← List.length_pos_iff] at hfs ⊢
    exact hlength ▸ hfs
  obtain ⟨fs'', hlength', hst''⟩ := h'.functions fs' outer hfs' houter hst'
  exact ⟨fs'', hlength'.trans hlength, hst''⟩

theorem bind_eq_ok_iff {x : Parse α} {f : α → Parse β} {st : State} {r : β × State} :
    (x >>= f) st = .ok r ↔ ∃ a st', x st = .ok (a, st') ∧ f a st' = .ok r := by
  show Except.bind (x st) (fun r ↦ f r.1 r.2) = .ok r ↔ _
  cases x st with
  | error e => simp [Except.bind]
  | ok r =>
    constructor
    · exact fun h ↦ ⟨r.1, r.2, rfl, h⟩
    · rintro ⟨a, st', heq, h⟩
      cases heq
      exact h

theorem pure_eq_ok_iff {a : α} {st : State} {r : α × State} :
    (pure a : Parse α) st = .ok r ↔ (a, st) = r := by
  show Except.ok (a, st) = .ok r ↔ _
  simp

namespace Quiet

theorem pure (a : α) : Quiet (pure a : Parse α) := by
  intro st b st' h
  obtain ⟨-, rfl⟩ := Prod.mk.inj (pure_eq_ok_iff.1 h)
  exact .refl st

theorem throw (e : ChunkFault) : Quiet (throw e : Parse α) := by
  intro st a st' h
  exact nomatch h

theorem bind {x : Parse α} {f : α → Parse β} (hx : Quiet x) (hf : ∀ a, Quiet (f a)) :
    Quiet (x >>= f) := by
  intro st b st'' h
  obtain ⟨a, st', ha, hb⟩ := bind_eq_ok_iff.1 h
  exact (hx st a st' ha).trans (hf a st' b st'' hb)

theorem get : Quiet (get : Parse State) := by
  intro st a st' h
  obtain ⟨-, rfl⟩ := Prod.mk.inj (Except.ok.inj h)
  exact .refl st

theorem ite {c : Prop} [Decidable c] {x y : Parse α} (hx : Quiet x) (hy : Quiet y) :
    Quiet (if c then x else y) := by
  split
  · exact hx
  · exact hy

theorem failNear (message : String) : Quiet (failNear message : Parse α) :=
  get.bind fun _ ↦ .throw _

theorem failPlain (message : ByteArray) : Quiet (failPlain message : Parse α) :=
  get.bind fun _ ↦ .throw _

theorem token : Quiet token := get.bind fun _ ↦ .pure _

theorem line : Quiet line := get.bind fun _ ↦ .pure _

theorem lastLine : Quiet lastLine := get.bind fun _ ↦ .pure _

theorem function : Quiet function := get.bind fun _ ↦ .pure _

theorem settle (e : Expr) : Quiet (settle e) := lastLine.bind fun _ ↦ .pure _

theorem modifyFunction (f : OpenFunction → OpenFunction) : Quiet (modifyFunction f) := by
  intro st a st' h
  obtain ⟨-, rfl⟩ := Prod.mk.inj (Except.ok.inj h)
  dsimp only
  split
  case h_2 => exact .refl st
  case h_1 fn inner hst =>
    refine ⟨rfl, rfl, rfl, rfl, fun fs outer hfs houter hfunctions ↦ ?_⟩
    cases fs with
    | nil => exact absurd rfl hfs
    | cons fn' fs =>
      obtain ⟨rfl, rfl⟩ := List.cons.inj (hst.symm.trans hfunctions)
      exact ⟨f fn :: fs, rfl, rfl⟩

theorem modifyBlock (f : OpenBlock → OpenBlock) : Quiet (modifyBlock f) := modifyFunction _

theorem declare (vs : List Var) : Quiet (declare vs) := modifyFunction _

theorem enterBlock (isLoop : Bool) : Quiet (enterBlock isLoop) := modifyFunction _

theorem addJump (name : Name) (start : Nat) : Quiet (addJump name start) := modifyFunction _

theorem checkVars (n : Nat) : Quiet (checkVars n) :=
  function.bind fun _ ↦ .ite (.failNear _) (.pure _)

theorem failJump (j : Jump) : Quiet (failJump j : Parse α) :=
  .ite (.failPlain _) (.failPlain _)

theorem leaveBlock : Quiet leaveBlock := by
  refine function.bind fun fn ↦ ?_
  split
  · exact .pure _
  · refine (modifyFunction _).bind fun _ ↦ .ite ?_ (.pure _)
    split
    · exact .failJump _
    · exact .pure _

theorem blockEnds (withUntil : Bool) : Quiet (blockEnds withUntil) := by
  refine token.bind fun t ↦ ?_
  split <;> exact .pure _

theorem placeLabel (name : Name) (labelLine : Nat) (isLast : Bool) :
    Quiet (placeLabel name labelLine isLast) := by
  refine function.bind fun fn ↦ ?_
  split
  · exact .pure _
  · dsimp only
    split
    · exact .failPlain _
    · exact (modifyFunction _).bind fun _ ↦ .modifyBlock _

theorem readOnly? (o : Operand) : Quiet (readOnly? o) := by
  refine function.bind fun fn ↦ ?_
  split
  · exact .pure _
  · split
    · split <;> exact .pure _
    · split <;> exact .pure _
    · exact .pure _

theorem checkAssignable (o : Operand) : Quiet (checkAssignable o) := by
  refine (readOnly? o).bind fun n ↦ ?_
  split
  · exact .failPlain _
  · exact .pure _

/-- A function around all others captures nothing. -/
theorem snd_resolveIn_of_length_le (name : Name) {outer : List OpenFunction}
    (h : outer.length ≤ 1) : (resolveIn name outer).2 = outer := by
  match outer, h with
  | [], _ => rfl
  | [fn], _ =>
    rw [resolveIn]
    split
    · rfl
    · split
      · rfl
      · rfl

theorem exists_snd_resolveIn (name : Name) {fs outer : List OpenFunction} (hfs : fs ≠ [])
    (houter : outer.length ≤ 1) :
    ∃ fs', fs'.length = fs.length ∧ (resolveIn name (fs ++ outer)).2 = fs' ++ outer := by
  induction fs with
  | nil => exact absurd rfl hfs
  | cons fn fs ih =>
    have hinner : ∃ fs', fs'.length = fs.length ∧
        (resolveIn name (fs ++ outer)).2 = fs' ++ outer := by
      by_cases hnil : fs = []
      · subst hnil
        exact ⟨[], rfl, snd_resolveIn_of_length_le name houter⟩
      · exact ih hnil
    obtain ⟨fs', hlength, hfs'⟩ := hinner
    have hsame : ∃ gs, gs.length = (fn :: fs).length ∧ fn :: (fs ++ outer) = gs ++ outer :=
      ⟨fn :: fs, rfl, rfl⟩
    rw [List.cons_append, resolveIn]
    split
    · exact hsame
    · split
      · exact hsame
      · have hcons (fn' : OpenFunction) : ∃ gs, gs.length = (fn :: fs).length ∧
            fn' :: (resolveIn name (fs ++ outer)).2 = gs ++ outer :=
          ⟨fn' :: fs', congrArg Nat.succ hlength, congrArg (fn' :: ·) hfs'⟩
        generalize resolveIn name (fs ++ outer) = resolved at hcons
        split
        · exact hcons _
        · exact hcons _
        · exact hcons _

theorem resolve (name : Name) : Quiet (resolve name) := by
  intro st a st' h
  obtain ⟨st₁, st₂, hget, h⟩ := bind_eq_ok_iff.1 h
  obtain ⟨rfl, rfl⟩ := Prod.mk.inj (Except.ok.inj hget)
  obtain ⟨_, st₃, hset, h⟩ := bind_eq_ok_iff.1 h
  obtain ⟨-, rfl⟩ := Prod.mk.inj (Except.ok.inj hset)
  have hset : Still st { st with functions := (resolveIn name st.functions).2 } := by
    refine ⟨rfl, rfl, rfl, rfl, fun fs outer hfs houter hst ↦ ?_⟩
    rw [hst]
    exact exists_snd_resolveIn name hfs houter
  refine hset.trans ?_
  generalize List.find? _ _ = full at h
  cases full with
  | some fn => exact Quiet.failNear _ _ _ _ h
  | none => exact Quiet.pure _ _ _ _ h

theorem nameOperand (name : Name) : Quiet (nameOperand name) := by
  refine (resolve name).bind fun r ↦ ?_
  split
  · exact .pure _
  · refine (resolve envName).bind fun r ↦ ?_
    split
    · exact .pure _
    · exact .pure _

end Quiet

/-! ### Agreement -/

/-- Any token may be in front of the parser. -/
abbrev anywhere : Token → Prop := fun _ ↦ True

/-- Two actions of the parser go side by side. If they start at places that are beside each other,
the first one with a token that satisfies `p`, and if both succeed, then they come to places that
are beside each other, with results that satisfy `Q`. They may enter functions, or leave some. -/
def Agree (l l' : Nat) (p : Token → Prop) (x : Parse α) (y : Parse β)
    (Q : α → β → Prop := fun _ _ ↦ True) : Prop :=
  ∀ o outer d st st', outer.length ≤ 1 → Beside o outer l d st st' → p st.current.token →
    ∀ a s b s', x st = .ok (a, s) → y st' = .ok (b, s') → Q a b ∧ Beside o outer l' d s s'

/-- An action that always fails. -/
def Fails (x : Parse α) : Prop := ∀ st r, x st ≠ .ok r

theorem fails_throw (e : ChunkFault) : Fails (throw e : Parse α) :=
  fun _ _ h ↦ nomatch h

theorem fails_failNear (message : String) : Fails (failNear message : Parse α) := by
  intro st r h
  obtain ⟨_, st', -, h⟩ := bind_eq_ok_iff.1 h
  exact fails_throw _ _ _ h

theorem fails_failPlain (message : ByteArray) : Fails (failPlain message : Parse α) := by
  intro st r h
  obtain ⟨_, st', -, h⟩ := bind_eq_ok_iff.1 h
  exact fails_throw _ _ _ h

theorem Fails.bind {x : Parse α} (hx : Fails x) (f : α → Parse β) : Fails (x >>= f) := by
  intro st r h
  obtain ⟨a, st', ha, -⟩ := bind_eq_ok_iff.1 h
  exact hx st _ ha

section Still

variable {o : Option (List Token)} {outer : List OpenFunction} {l d : Nat} {st st' s s' : State}

theorem Still.row_eq (h : Still st s) : s.row = st.row := by
  rw [State.row, h.current, h.rest, State.row]

theorem Beside.still (hb : Beside o outer l d st st') (houter : outer.length ≤ 1)
    (h : Still st s) (h' : Still st' s') : Beside o outer l d s s' := by
  obtain ⟨fs, hlength, hst'⟩ := hb.functions
  have hfs : fs ≠ [] := List.ne_nil_of_length_pos (hlength ▸ Nat.succ_pos l)
  obtain ⟨fs', hlength', hs'⟩ := h'.functions fs outer hfs houter hst'
  refine ⟨?_, ?_, ?_, ⟨fs', hlength'.trans hlength, hs'⟩, h'.depth.trans hb.depth⟩
  · rw [h.row_eq, h'.row_eq]
    exact hb.row
  · rw [h.fault]
    exact hb.fault
  · rw [h'.fault]
    exact hb.fault'

theorem nested_eq_ok {x : Parse α} {a : α} (h : nested x st = .ok (a, s)) :
    ∃ s₁, x { st with depth := st.depth + 1 } = .ok (a, s₁) ∧
      s = { s₁ with depth := s₁.depth - 1 } := by
  obtain ⟨_, _, hget, h⟩ := bind_eq_ok_iff.1 h
  obtain ⟨rfl, rfl⟩ := Prod.mk.inj (Except.ok.inj hget)
  dsimp only at h
  split at h
  case isTrue => exact nomatch h
  case isFalse =>
    obtain ⟨_, _, hset, h⟩ := bind_eq_ok_iff.1 h
    obtain ⟨-, rfl⟩ := Prod.mk.inj (Except.ok.inj hset)
    obtain ⟨a', s₁, ha, h⟩ := bind_eq_ok_iff.1 h
    obtain ⟨_, _, hmodify, h⟩ := bind_eq_ok_iff.1 h
    obtain ⟨-, rfl⟩ := Prod.mk.inj (Except.ok.inj hmodify)
    obtain ⟨rfl, rfl⟩ := Prod.mk.inj (pure_eq_ok_iff.1 h)
    exact ⟨s₁, ha, rfl⟩

/-- Whether an equals sign is behind the token in front. -/
def State.equalsBehind (st : State) : Bool :=
  match st.row with
  | _ :: t :: _ => isSymbol (.char 61) t
  | _ => false

theorem Beside.equalsBehind_eq (hb : Beside o outer l d st st') (ht : st.current.token ≠ .eof) :
    st.equalsBehind = st'.equalsBehind := by
  have hrow : InStep o (st.current.token :: st.rest.map Lexeme.token) st'.row := hb.row
  rw [State.equalsBehind, State.row, State.equalsBehind]
  generalize st.current.token = t at ht hrow
  generalize st.rest.map Lexeme.token = ts at hrow
  generalize st'.row = ts' at hrow
  cases hrow with
  | token hkind hs =>
    cases hs with
    | token hkind' | fault hkind' =>
      cases hkind' with
      | same | str => rfl
    | done => rfl
  | fault => rfl
  | done => exact absurd rfl ht

end Still

theorem isSymbol_eq_true_iff {s : Symbol} {t : Token} : isSymbol s t = true ↔ t = .symbol s := by
  cases t <;> simp [isSymbol, eq_comm]

theorem accept_bind (s : Symbol) (f : Bool → Parse α) : (accept s >>= f) =
    (at' s >>= fun b ↦ if b then next >>= fun _ ↦ f true else f false) := by
  rw [accept, bind_assoc]
  refine bind_congr fun b ↦ ?_
  cases b with
  | true => exact bind_assoc _ _ _
  | false => exact pure_bind _ _

/-- What is read of a symbol that is there. -/
theorem expect_eq_next {s : Symbol} {st : State} (hs : isSymbol s st.current.token = true) :
    expect s st = next st := by
  rw [expect, accept_bind]
  show (if isSymbol s st.current.token then next >>= fun _ ↦ pure () else _ : Parse Unit) st
    = _
  rw [if_pos hs]
  exact congrFun (bind_pure next) st

namespace Agree

variable {l k m : Nat} {p : Token → Prop} {t : Token} {x : Parse α} {y : Parse β}
  {Q : α → β → Prop} {R : γ → δ → Prop} {f : α → Parse γ} {g : β → Parse δ}

theorem of_anywhere (h : Agree l m anywhere x y Q) : Agree l m p x y Q :=
  fun o outer d st st' houter hb _ ↦ h o outer d st st' houter hb trivial

theorem done_of {a : α} {b : β} (h : Q a b) : Agree l l p (pure a) (pure b) Q := by
  intro o outer d st st' houter hb hp a' s b' s' hx hy
  obtain ⟨rfl, rfl⟩ := Prod.mk.inj (pure_eq_ok_iff.1 hx)
  obtain ⟨rfl, rfl⟩ := Prod.mk.inj (pure_eq_ok_iff.1 hy)
  exact ⟨h, hb⟩

theorem done {a : α} {b : β} : Agree l l p (pure a) (pure b) := done_of trivial

theorem of_fails (hx : Fails x) : Agree l m p x y Q :=
  fun _ _ _ st _ _ _ _ a s _ _ h ↦ absurd h (hx st (a, s))

theorem of_fails_right (hy : Fails y) : Agree l m p x y Q :=
  fun _ _ _ _ st' _ _ _ _ _ b s' _ h ↦ absurd h (hy st' (b, s'))

/-! #### Sequences -/

theorem bind_of (hx : Agree l k p x y Q) (hf : ∀ a b, Q a b → Agree k m anywhere (f a) (g b) R) :
    Agree l m p (x >>= f) (y >>= g) R := by
  intro o outer d st st' houter hb hp c s e s' hx' hy'
  obtain ⟨a, st₁, ha, hc⟩ := bind_eq_ok_iff.1 hx'
  obtain ⟨b, st₁', hb', he⟩ := bind_eq_ok_iff.1 hy'
  obtain ⟨hQ, hb₁⟩ := hx o outer d st st' houter hb hp a st₁ b st₁' ha hb'
  exact hf a b hQ o outer d st₁ st₁' houter hb₁ trivial c s e s' hc he

theorem bind (hx : Agree l k p x y) (hf : ∀ a b, Agree k m anywhere (f a) (g b) R) :
    Agree l m p (x >>= f) (y >>= g) R :=
  hx.bind_of fun a b _ ↦ hf a b

/-- What the results are made into. -/
theorem map_left (hx : Agree l m p x y) (f : α → γ) : Agree l m p (x >>= fun a ↦ pure (f a)) y := by
  intro o outer d st st' houter hb hp c s b s' hx' hy'
  obtain ⟨a, st₁, ha, hc⟩ := bind_eq_ok_iff.1 hx'
  obtain ⟨-, rfl⟩ := Prod.mk.inj (pure_eq_ok_iff.1 hc)
  exact hx o outer d st st' houter hb hp a st₁ b s' ha hy'

theorem map_right (hx : Agree l m p x y) (g : β → δ) :
    Agree l m p x (y >>= fun b ↦ pure (g b)) := by
  intro o outer d st st' houter hb hp a s c s' hx' hy'
  obtain ⟨b, st₁, hb', hc⟩ := bind_eq_ok_iff.1 hy'
  obtain ⟨-, rfl⟩ := Prod.mk.inj (pure_eq_ok_iff.1 hc)
  exact hx o outer d st st' houter hb hp a s b st₁ hx' hb'

/-- The token in front stays where it is. -/
theorem quiet (hx : Quiet x) (hy : Quiet y) (hf : ∀ a b, Agree l m p (f a) (g b) R) :
    Agree l m p (x >>= f) (y >>= g) R := by
  intro o outer d st st' houter hb hp c s e s' hx' hy'
  obtain ⟨a, st₁, ha, hc⟩ := bind_eq_ok_iff.1 hx'
  obtain ⟨b, st₁', hb', he⟩ := bind_eq_ok_iff.1 hy'
  have hstill := hx st a st₁ ha
  have hb₁ := hb.still houter hstill (hy st' b st₁' hb')
  exact hf a b o outer d st₁ st₁' houter hb₁ (hstill.current ▸ hp) c s e s' hc he

theorem quiet_left {z : Parse δ} (hx : Quiet x) (hf : ∀ a, Agree l m p (f a) z R) :
    Agree l m p (x >>= f) z R := by
  intro o outer d st st' houter hb hp c s e s' hx' hz
  obtain ⟨a, st₁, ha, hc⟩ := bind_eq_ok_iff.1 hx'
  have hstill := hx st a st₁ ha
  have hb₁ := hb.still houter hstill (.refl st')
  exact hf a o outer d st₁ st' houter hb₁ (hstill.current ▸ hp) c s e s' hc hz

theorem quiet_right {z : Parse γ} (hy : Quiet y) (hg : ∀ b, Agree l m p z (g b) R) :
    Agree l m p z (y >>= g) R := by
  intro o outer d st st' houter hb hp c s e s' hz hy'
  obtain ⟨b, st₁', hb', he⟩ := bind_eq_ok_iff.1 hy'
  have hb₁ := hb.still houter (.refl st) (hy st' b st₁' hb')
  exact hg b o outer d st st₁' houter hb₁ hp c s e s' hz he

theorem of_quiet (hx : Quiet x) (hy : Quiet y) : Agree l l p x y := by
  intro o outer d st st' houter hb hp a s b s' hx' hy'
  exact ⟨trivial, hb.still houter (hx st a s hx') (hy st' b s' hy')⟩

theorem ite {c : Prop} [Decidable c] {x x' : Parse α} {y y' : Parse β} (hx : Agree l m p x y Q)
    (hx' : Agree l m p x' y' Q) : Agree l m p (if c then x else x') (if c then y else y') Q := by
  split
  · exact hx
  · exact hx'

/-- What has to be so at both places. -/
theorem ite_fails {c c' : Prop} [Decidable c] [Decidable c'] {x' : Parse α} {y' : Parse β}
    (hx : Agree l m p x y Q) (hx' : Fails x') (hy' : Fails y') :
    Agree l m p (if c then x else x') (if c' then y else y') Q := by
  split
  · split
    · exact hx
    · exact of_fails_right hy'
  · exact of_fails hx'

theorem fails_ite {c c' : Prop} [Decidable c] [Decidable c'] {x' : Parse α} {y' : Parse β}
    (hx' : Fails x') (hy' : Fails y') (hx : Agree l m p x y Q) :
    Agree l m p (if c then x' else x) (if c' then y' else y) Q := by
  split
  · exact of_fails hx'
  · split
    · exact of_fails_right hy'
    · exact hx

theorem nested (h : Agree l m p x y Q) : Agree l m p (nested x) (nested y) Q := by
  intro o outer d st st' houter hb hp a s b s' hx hy
  obtain ⟨s₁, hx₁, rfl⟩ := nested_eq_ok hx
  obtain ⟨s₁', hy₁, rfl⟩ := nested_eq_ok hy
  have hdeeper : Beside o outer l (d + 1) { st with depth := st.depth + 1 }
      { st' with depth := st'.depth + 1 } :=
    ⟨hb.row, hb.fault, hb.fault', hb.functions, congrArg Nat.succ hb.depth⟩
  obtain ⟨hQ, hs⟩ := h o outer (d + 1) _ _ houter hdeeper hp a s₁ b s₁' hx₁ hy₁
  exact ⟨hQ, hs.row, hs.fault, hs.fault', hs.functions, congrArg Nat.pred hs.depth⟩

/-! #### Functions -/

theorem openFunction (fn fn' : OpenFunction) : Agree l (l + 1) p
    (modify fun st ↦ { st with functions := fn :: st.functions })
    (modify fun st ↦ { st with functions := fn' :: st.functions }) := by
  intro o outer d st st' houter hb hp a s b s' hx hy
  obtain ⟨-, rfl⟩ := Prod.mk.inj (Except.ok.inj hx)
  obtain ⟨-, rfl⟩ := Prod.mk.inj (Except.ok.inj hy)
  obtain ⟨fs, hlength, hfs⟩ := hb.functions
  exact ⟨trivial, hb.row, hb.fault, hb.fault',
    ⟨fn' :: fs, congrArg Nat.succ hlength, congrArg (fn' :: ·) hfs⟩, hb.depth⟩

theorem closeFunction : Agree (l + 1) l p
    (modify fun st ↦ { st with functions := st.functions.drop 1 })
    (modify fun st ↦ { st with functions := st.functions.drop 1 }) := by
  intro o outer d st st' houter hb hp a s b s' hx hy
  obtain ⟨-, rfl⟩ := Prod.mk.inj (Except.ok.inj hx)
  obtain ⟨-, rfl⟩ := Prod.mk.inj (Except.ok.inj hy)
  obtain ⟨fs, hlength, hfs⟩ := hb.functions
  obtain ⟨fn, fs, rfl⟩ := List.exists_cons_of_length_eq_add_one hlength
  exact ⟨trivial, hb.row, hb.fault, hb.fault',
    ⟨fs, Nat.succ.inj hlength, congrArg (List.drop 1) hfs⟩, hb.depth⟩

/-! #### Tokens -/

/-- A look at the token in front. -/
theorem token {f : Token → Parse γ} {g : Token → Parse δ}
    (hsame : ∀ t, t ≠ .eof → Agree l m (· = t) (f t) (g t) R)
    (hstr : ∀ s s', Agree l m (· = .str s) (f (.str s)) (g (.str s')) R)
    (hend : Agree l m (· = .eof) (f .eof) (g (.symbol .kEnd)) R) :
    Agree l m p (token >>= f) (token >>= g) R := by
  intro o outer d st st' houter hb hp c s e s' hx hy
  obtain ⟨t, st₁, ht, hx⟩ := bind_eq_ok_iff.1 hx
  obtain ⟨t', st₁', ht', hy⟩ := bind_eq_ok_iff.1 hy
  obtain ⟨rfl, rfl⟩ := Prod.mk.inj (Except.ok.inj ht)
  obtain ⟨rfl, rfl⟩ := Prod.mk.inj (Except.ok.inj ht')
  have hfront := hb.row.front
  generalize ht : st.current.token = t at hx hfront
  generalize st'.current.token = t' at hy hfront
  rcases hfront with hkind | ⟨rfl, rfl⟩
  · cases hkind with
    | same hne => exact hsame t hne o outer d st st' houter hb ht c s e s' hx hy
    | str s₁ s₂ => exact hstr s₁ s₂ o outer d st st' houter hb ht c s e s' hx hy
  · exact hend o outer d st st' houter hb ht c s e s' hx hy

/-- A look at a symbol that is known to be in front. -/
theorem token_eq {f : Token → Parse γ} {g : Token → Parse δ} {s : Symbol}
    (h : Agree l m (· = .symbol s) (f (.symbol s)) (g (.symbol s)) R) :
    Agree l m (· = .symbol s) (Parser.token >>= f) (Parser.token >>= g) R := by
  intro o outer d st st' houter hb hst c e b s' hx hy
  have hst' : st'.current.token = .symbol s := by
    have hfront := hb.row.front
    rw [hst] at hfront
    generalize st'.current.token = t' at hfront
    rcases hfront with hkind | ⟨heof, -⟩
    · cases hkind
      rfl
    · exact nomatch heof
  obtain ⟨t, st₁, ht, hx⟩ := bind_eq_ok_iff.1 hx
  obtain ⟨t', st₁', ht', hy⟩ := bind_eq_ok_iff.1 hy
  obtain ⟨rfl, rfl⟩ := Prod.mk.inj (Except.ok.inj ht)
  obtain ⟨rfl, rfl⟩ := Prod.mk.inj (Except.ok.inj ht')
  rw [hst] at hx
  rw [hst'] at hy
  exact h o outer d st st' houter hb hst c e b s' hx hy

/-- The next token. -/
theorem next (ht : t ≠ .eof) : Agree l l (· = t) next next := by
  intro o outer d st st' houter hb hst a s b s' hx hy
  obtain ⟨current, rest, fault, last, functions, depth, source⟩ := st
  obtain ⟨current', rest', fault', last', functions', depth', source'⟩ := st'
  have hne : current.token ≠ .eof := by
    rw [hst]
    exact ht
  have hrow : InStep o (current.token :: rest.map Lexeme.token)
      (current'.token :: rest'.map Lexeme.token) := hb.row
  generalize hts : current.token :: rest.map Lexeme.token = ts at hrow
  generalize hts' : current'.token :: rest'.map Lexeme.token = ts' at hrow
  cases hrow with
  | @token _ t t' ts ts' hkind hs =>
    obtain ⟨-, rfl⟩ := List.cons.inj hts
    obtain ⟨-, rfl⟩ := List.cons.inj hts'
    obtain ⟨t, rest, rfl⟩ := List.exists_cons_of_ne_nil (mt List.map_eq_nil_iff.2 hs.ne_nil.1)
    obtain ⟨t', rest', rfl⟩ := List.exists_cons_of_ne_nil (mt List.map_eq_nil_iff.2 hs.ne_nil.2)
    obtain ⟨-, rfl⟩ := Prod.mk.inj (Except.ok.inj hx)
    obtain ⟨-, rfl⟩ := Prod.mk.inj (Except.ok.inj hy)
    exact ⟨trivial, hs, hb.fault, hb.fault', hb.functions, hb.depth⟩
  | fault =>
    obtain ⟨-, hrest⟩ := List.cons.inj hts
    obtain rfl := List.map_eq_nil_iff.1 hrest
    have hfault : fault.isNone = false := hb.fault
    cases fault with
    | none => exact nomatch hfault
    | some e => exact nomatch hx
  | done => exact absurd (List.cons.inj hts).1 hne

section Symbols

variable {f : Bool → Parse γ} {g : Bool → Parse δ} {s : Symbol}

/-- Whether a symbol other than `end` is in front. -/
theorem at' (hs : s ≠ .kEnd) (htrue : Agree l m (· = .symbol s) (f true) (g true) R)
    (hfalse : Agree l m anywhere (f false) (g false) R) :
    Agree l m p (at' s >>= f) (at' s >>= g) R := by
  have hassoc {γ : Type} (f : Bool → Parse γ) :
      (Parser.at' s >>= f) = (Parser.token >>= fun t ↦ f (isSymbol s t)) := rfl
  rw [hassoc, hassoc]
  refine token (fun t _ ↦ ?_) (fun _ _ ↦ hfalse.of_anywhere) ?_
  · cases ht : isSymbol s t with
    | true =>
      obtain rfl := isSymbol_eq_true_iff.1 ht
      exact htrue
    | false => exact hfalse.of_anywhere
  · have hend : isSymbol s (.symbol .kEnd) = false := by simpa [isSymbol] using hs
    rw [hend]
    exact hfalse.of_anywhere

theorem accept (hs : s ≠ .kEnd) (htrue : Agree l m anywhere (f true) (g true) R)
    (hfalse : Agree l m anywhere (f false) (g false) R) :
    Agree l m p (accept s >>= f) (accept s >>= g) R := by
  rw [accept_bind, accept_bind]
  exact at' hs ((next Token.noConfusion).bind fun _ _ ↦ htrue) hfalse

/-- Where it does not matter what the symbol is. -/
theorem at_any (hs : s ≠ .kEnd) (h : ∀ b, Agree l m anywhere (f b) (g b) R) :
    Agree l m p (Parser.at' s >>= f) (Parser.at' s >>= g) R :=
  at' hs (h true).of_anywhere (h false)

theorem accept_any (hs : s ≠ .kEnd) (h : ∀ b, Agree l m anywhere (f b) (g b) R) :
    Agree l m p (Parser.accept s >>= f) (Parser.accept s >>= g) R :=
  accept hs (h true) (h false)

theorem acceptSeparator (htrue : Agree l m anywhere (f true) (g true) R)
    (hfalse : Agree l m anywhere (f false) (g false) R) :
    Agree l m p (acceptSeparator >>= f) (acceptSeparator >>= g) R := by
  rw [Parser.acceptSeparator, bind_assoc, bind_assoc]
  exact accept nofun htrue (accept nofun htrue hfalse)

/-- A symbol that has to be there. -/
theorem required (htrue : Agree l m anywhere (f true) (g true) R) (hfalse : Fails (f false)) :
    Agree l m p (Parser.accept s >>= f) (Parser.accept s >>= g) R := by
  have hassoc {γ : Type} (f : Bool → Parse γ) : (Parser.accept s >>= f) =
      (Parser.token >>= fun t ↦
        if isSymbol s t then Parser.next >>= fun _ ↦ f true else f false) :=
    accept_bind s f
  rw [hassoc, hassoc]
  refine token (fun t _ ↦ ?_) (fun _ _ ↦ of_fails hfalse) (of_fails hfalse)
  cases ht : isSymbol s t with
  | true =>
    obtain rfl := isSymbol_eq_true_iff.1 ht
    exact (next Token.noConfusion).bind fun _ _ ↦ htrue
  | false => exact of_fails hfalse

theorem expect (s : Symbol) : Agree l l p (expect s) (expect s) :=
  required done (fails_failNear _)

theorem expectClosing (s opening : Symbol) (start start' : Nat) :
    Agree l l p (expectClosing s opening start) (expectClosing s opening start') := by
  refine required done fun st r h ↦ ?_
  obtain ⟨n, st', -, h⟩ := bind_eq_ok_iff.1 h
  split at h
  · exact fails_failNear _ _ _ h
  · exact fails_failNear _ _ _ h

theorem expectName : Agree l l p expectName expectName := by
  refine token (fun t ht ↦ ?_) (fun _ _ ↦ of_fails (fails_failNear _)) (of_fails (fails_failNear _))
  split
  · exact (next ht).bind fun _ _ ↦ done
  · exact of_fails (fails_failNear _)

/-- Both places look like the end of a block, or none of them does. -/
theorem blockEnds (withUntil : Bool) (h : ∀ b, Agree l m anywhere (f b) (g b) R) :
    Agree l m p (blockEnds withUntil >>= f) (blockEnds withUntil >>= g) R := by
  rw [Parser.blockEnds, bind_assoc, bind_assoc]
  refine token (fun t _ ↦ ?_) (fun _ _ ↦ (h false).of_anywhere) (h true).of_anywhere
  split <;> exact (h _).of_anywhere

end Symbols

/-- A look at the token behind the one in front, for an equals sign. -/
theorem equals_behind {x' : Parse α} {y' : Parse β} {z : Parse α} {z' : Parse β} (ht : t ≠ .eof)
    (hx : Agree l m (· = t) x y Q) (hx' : Agree l m (· = t) x' y' Q)
    (hz : ∀ st r, z st = .ok r → (if st.equalsBehind then x else x') st = .ok r)
    (hz' : ∀ st r, z' st = .ok r → (if st.equalsBehind then y else y') st = .ok r) :
    Agree l m (· = t) z z' Q := by
  intro o outer d st st' houter hb hp a s b s' ha hb'
  have ha := hz st _ ha
  have hb' := hz' st' _ hb'
  rw [← hb.equalsBehind_eq (hp ▸ ht)] at hb'
  split at ha
  case isTrue htrue =>
    rw [if_pos htrue] at hb'
    exact hx o outer d st st' houter hb hp a s b s' ha hb'
  case isFalse hfalse =>
    rw [if_neg hfalse] at hb'
    exact hx' o outer d st st' houter hb hp a s b s' ha hb'

/-! #### Lists of names -/

theorem readAttribute : Agree l l p readAttribute readAttribute := by
  refine accept nofun (expectName.bind fun _ _ ↦ (expect _).bind fun _ _ ↦ ?_) done
  exact of_quiet (.ite (.pure _) (.ite (.pure _) (.failPlain _)))
    (.ite (.pure _) (.ite (.pure _) (.failPlain _)))

theorem readNames (n : Nat) (acc acc' : List (Name × Attribute)) :
    Agree l l p (readNames n acc) (readNames n acc') := by
  induction n generalizing acc acc' p with
  | zero => exact done
  | succ n ih =>
    rw [Parser.readNames, Parser.readNames]
    refine quiet (.checkVars _) (.checkVars _) fun _ _ ↦ expectName.bind fun _ _ ↦
      readAttribute.bind fun _ _ ↦ ?_
    exact fails_ite ((fails_failPlain _).bind _) ((fails_failPlain _).bind _)
      (accept nofun (ih _ _) done)

theorem readParams (n : Nat) (acc acc' : List Name) :
    Agree l l p (readParams n acc) (readParams n acc') := by
  induction n generalizing acc acc' p with
  | zero => exact done
  | succ n ih =>
    rw [Parser.readParams, Parser.readParams]
    refine token (fun t ht ↦ ?_) (fun _ _ ↦ of_fails (fails_failNear _))
      (of_fails (fails_failNear _))
    split
    case h_1 =>
      exact quiet (.checkVars _) (.checkVars _) fun _ _ ↦ (next ht).bind fun _ _ ↦
        accept nofun (ih _ _) done
    case h_2 => exact (next ht).bind fun _ _ ↦ done
    case h_3 => exact of_fails (fails_failNear _)

theorem moreNames (n : Nat) (acc acc' : List Name) :
    Agree l l p (moreNames n acc) (moreNames n acc') := by
  induction n generalizing acc acc' p with
  | zero => exact done
  | succ n ih =>
    rw [Parser.moreNames, Parser.moreNames]
    exact accept nofun (expectName.bind fun _ _ ↦ quiet (.checkVars _) (.checkVars _) fun _ _ ↦
      ih _ _) done

end Agree

end MacroStream.Script.Parser
