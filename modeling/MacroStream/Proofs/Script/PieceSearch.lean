import MacroStream.Proofs.Script.BalancedPieces

/-!
# Where pieces begin

The pattern for pieces in braces matches exactly where a brace has its closing one. So a string is
known to `gsub` by the positions where pieces begin (`BeginsPiece`), and a part of it in which none
begins is kept as it is.

Braces that belong to each other are found by counting: what is between them closes in no beginning
more braces than it opens, and as many in the end.
-/

namespace MacroStream.Script

namespace Pattern

variable {opening closing : UInt8} {subject : ByteArray}

/-! ### Counting -/

/-- Bytes close all that they open, and the `depth` ones before them, by counting: no beginning of
them closes too much, and the whole closes all. -/
def IsCounted (opening closing : UInt8) (depth : Nat) (bs : List UInt8) : Prop :=
  (∀ p, p <+: bs → p.count closing ≤ depth + p.count opening) ∧
    bs.count closing = depth + bs.count opening

theorem forall_prefix_cons_iff {b : UInt8} {bs : List UInt8} {P : List UInt8 → Prop} :
    (∀ p, p <+: b :: bs → P p) ↔ P [] ∧ ∀ p, p <+: bs → P (b :: p) := by
  simp only [List.prefix_cons_iff]
  constructor
  · exact fun h ↦ ⟨h [] (.inl rfl), fun p hp ↦ h _ (.inr ⟨p, rfl, hp⟩)⟩
  · rintro ⟨hnil, hcons⟩ p (rfl | ⟨q, rfl, hq⟩)
    · exact hnil
    · exact hcons q hq

section Counting

variable {bs : List UInt8} {depth : Nat}

theorem isCounted_nil : IsCounted opening closing depth [] ↔ depth = 0 := by
  simp only [IsCounted, List.prefix_nil, List.count_nil]
  constructor
  · rintro ⟨-, hdepth⟩
    omega
  · rintro rfl
    exact ⟨fun p hp ↦ by simp [hp], rfl⟩

theorem isCounted_closing_cons (hne : opening ≠ closing) :
    IsCounted opening closing depth (closing :: bs) ↔
      depth ≠ 0 ∧ IsCounted opening closing (depth - 1) bs := by
  simp only [IsCounted, forall_prefix_cons_iff, List.count_cons_self,
    List.count_cons_of_ne (Ne.symm hne), List.count_nil]
  constructor
  · rintro ⟨⟨-, hbegin⟩, hall⟩
    -- The first byte closes something, so something is open before it.
    have hdepth : 0 < depth := by
      have hfirst := hbegin [] List.nil_prefix
      simp only [List.count_nil] at hfirst
      omega
    refine ⟨by omega, fun p hp ↦ ?_, by omega⟩
    have hle := hbegin p hp
    omega
  · rintro ⟨hdepth, hbegin, hall⟩
    refine ⟨⟨Nat.zero_le _, fun p hp ↦ ?_⟩, by omega⟩
    have hle := hbegin p hp
    omega

theorem isCounted_opening_cons (hne : opening ≠ closing) :
    IsCounted opening closing depth (opening :: bs) ↔
      IsCounted opening closing (depth + 1) bs := by
  simp only [IsCounted, forall_prefix_cons_iff, List.count_cons_self, List.count_cons_of_ne hne,
    List.count_nil]
  constructor
  · rintro ⟨⟨-, hbegin⟩, hall⟩
    refine ⟨fun p hp ↦ ?_, by omega⟩
    have hle := hbegin p hp
    omega
  · rintro ⟨hbegin, hall⟩
    refine ⟨⟨Nat.zero_le _, fun p hp ↦ ?_⟩, by omega⟩
    have hle := hbegin p hp
    omega

theorem isCounted_cons_of_ne {b : UInt8} (hclosing : b ≠ closing) (hopening : b ≠ opening) :
    IsCounted opening closing depth (b :: bs) ↔ IsCounted opening closing depth bs := by
  simp only [IsCounted, forall_prefix_cons_iff, List.count_cons_of_ne hclosing,
    List.count_cons_of_ne hopening, List.count_nil]
  constructor
  · exact fun h ↦ ⟨h.1.2, h.2⟩
  · exact fun h ↦ ⟨⟨Nat.zero_le _, h.1⟩, h.2⟩

theorem closesAll_iff_isCounted (hne : opening ≠ closing) :
    closesAll opening closing depth bs = true ↔ IsCounted opening closing depth bs := by
  induction bs generalizing depth with
  | nil => rw [isCounted_nil, closesAll, decide_eq_true_eq]
  | cons b bs ih =>
    rw [closesAll]
    split
    case isTrue hclosing =>
      rw [hclosing, isCounted_closing_cons hne, Bool.and_eq_true, decide_eq_true_eq, ih]
    case isFalse hclosing =>
      split
      case isTrue hopening => rw [hopening, isCounted_opening_cons hne, ih]
      case isFalse hopening => rw [isCounted_cons_of_ne hclosing hopening, ih]

end Counting

/-- The braces in a text belong to each other: in no beginning more of them are closing ones than
opening ones, and in the whole as many. -/
def IsBalanced (code : ByteArray) : Prop :=
  (∀ p, p <+: code.data.toList → p.count 125 ≤ p.count 123) ∧
    code.data.toList.count 125 = code.data.toList.count 123

/-- What is between braces that belong to each other, by numbers of braces. -/
theorem isInside_iff_isBalanced {code : ByteArray} : IsInside code ↔ IsBalanced code := by
  rw [IsInside, closesAll_iff_isCounted (by decide)]
  simp only [IsCounted, IsBalanced, Nat.zero_add]

/-! ### The search -/

theorem drop_eq_byteAt_cons {i : Nat} (hi : i < subject.size) :
    subject.data.toList.drop i = byteAt subject i :: subject.data.toList.drop (i + 1) := by
  have hlist : i < subject.data.toList.length := hi
  rw [List.drop_eq_getElem_cons hlist, byteAt, dif_pos hi, Array.getElem_toList]
  rfl

/-- An end that is found closes all that was opened since. -/
theorem exists_of_balancedEnd {fuel depth i e : Nat}
    (he : balancedEnd subject opening closing fuel (depth + 1) i = some e) :
    ∃ bs rest, closesAll opening closing depth bs = true ∧
      subject.data.toList.drop i = bs ++ closing :: rest := by
  induction fuel generalizing depth i with
  | zero => cases he
  | succ fuel ih =>
    rw [balancedEnd] at he
    split at he
    case isTrue => cases he
    case isFalse hi =>
      have hdrop := drop_eq_byteAt_cons (Nat.lt_of_not_le hi)
      generalize byteAt subject i = b at he hdrop
      dsimp only at he
      split at he
      case isTrue hclosing =>
        subst hclosing
        split at he
        case isTrue hdepth =>
          obtain rfl : depth = 0 := by omega
          exact ⟨[], _, rfl, hdrop⟩
        case isFalse hdepth =>
          obtain ⟨d, rfl⟩ : ∃ d, depth = d + 1 := ⟨depth - 1, by omega⟩
          obtain ⟨bs, rest, hbs, hrest⟩ := ih he
          refine ⟨b :: bs, rest, ?_, by rw [hdrop, hrest, List.cons_append]⟩
          rw [closesAll, if_pos rfl, Nat.add_sub_cancel, hbs]
          rfl
      case isFalse hclosing =>
        split at he
        case isTrue hopening =>
          obtain ⟨bs, rest, hbs, hrest⟩ := ih he
          refine ⟨b :: bs, rest, ?_, by rw [hdrop, hrest, List.cons_append]⟩
          rw [closesAll, if_neg hclosing, if_pos hopening, hbs]
        case isFalse hopening =>
          obtain ⟨bs, rest, hbs, hrest⟩ := ih he
          refine ⟨b :: bs, rest, ?_, by rw [hdrop, hrest, List.cons_append]⟩
          rw [closesAll, if_neg hclosing, if_neg hopening, hbs]

/-- A piece in braces begins at a position. -/
def BeginsPiece (s : ByteArray) (i : Nat) : Prop :=
  ∃ before code rest, s = before ++ inBraces code ++ rest ∧ before.size = i ∧ IsInside code

theorem not_beginsPiece_of_ne {i : Nat} (hi : byteAt subject i ≠ 123) :
    ¬BeginsPiece subject i := by
  rintro ⟨before, code, rest, hs, rfl, -⟩
  have hbytes : subject.data.toList =
      before.data.toList ++ 123 :: (code.data.toList ++ 125 :: rest.data.toList) := by
    simp [hs, ByteArray.data_append, toList_inBraces]
  exact hi (byteAt_of_append hbytes)

/-- The pattern matches nowhere else than where a piece begins. -/
theorem matchAt_of_not_beginsPiece {i : Nat} (hi : ¬BeginsPiece subject i) :
    matchAt subject braces i 0 = .ok none := by
  rw [matchAt_braces]
  split
  case isTrue => rfl
  case isFalse hbrace =>
    simp only [Bool.or_eq_true, decide_eq_true_eq, not_or, Nat.not_le, ne_eq, not_not] at hbrace
    obtain ⟨hlt, hbyte⟩ := hbrace
    cases hend : balancedEnd subject 123 125 (subject.size + 1) 1 (i + 1) with
    | none => rfl
    | some e =>
      obtain ⟨bs, rest, hbs, hrest⟩ := exists_of_balancedEnd hend
      refine absurd ⟨⟨(subject.data.toList.take i).toArray⟩, ⟨bs.toArray⟩, ⟨rest.toArray⟩, ?_, ?_,
        hbs⟩ hi
      · have hbytes : subject.data.toList =
            subject.data.toList.take i ++ 123 :: bs ++ 125 :: rest := by
          have hdrop := drop_eq_byteAt_cons hlt
          rw [hbyte, hrest] at hdrop
          rw [List.append_assoc, List.cons_append, ← hdrop, List.take_append_drop]
        refine ByteArray.ext (Array.toList_inj.1 ?_)
        simp only [ByteArray.data_append, Array.toList_append, toList_inBraces]
        exact hbytes.trans (by simp)
      · have hlength : (subject.data.toList.take i).length = i :=
          List.length_take_of_le (Nat.le_of_lt hlt)
        exact hlength

end Pattern

end MacroStream.Script
