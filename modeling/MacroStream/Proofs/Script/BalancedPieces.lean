import MacroStream.Proofs.Script.Evaluation
import MacroStream.Proofs.Text.Bytes

/-!
# Pieces in braces

The pattern `%b` with two bytes finds pieces that begin with the first byte and end with the second
one that belongs to it. `gsub` with that pattern and a function goes through a string from left to
right: it calls the function for such a piece, and keeps a byte that begins none.
-/

namespace MacroStream.Script

/-- The bytes of a string, one by one. -/
theorem byteAt_of_append {s : ByteArray} {before rest : List UInt8} {b : UInt8}
    (hs : s.data.toList = before ++ b :: rest) : byteAt s before.length = b := by
  have hlength : s.size = (before ++ b :: rest).length := congrArg List.length hs
  have hlt : before.length < s.size := by
    rw [hlength]
    simp
  have hget : s.data.toList[before.length]? = some b := by
    rw [hs, List.getElem?_append_right (Nat.le_refl _), Nat.sub_self]
    rfl
  rw [byteAt, dif_pos hlt]
  have hlist : s.data.toList[before.length]? = some s[before.length] := by
    rw [Array.getElem?_toList, Array.getElem?_eq_getElem hlt]
    rfl
  exact Option.some.inj (hlist.symm.trans hget)

namespace Pattern

variable {opening closing : UInt8} {subject : ByteArray}

/-- Whether bytes close all that they open, and the `depth` ones that are open before them. -/
def closesAll (opening closing : UInt8) : Nat → List UInt8 → Bool
  | depth, [] => depth = 0
  | depth, b :: bs =>
    if b = closing then depth ≠ 0 && closesAll opening closing (depth - 1) bs
    else if b = opening then closesAll opening closing (depth + 1) bs
    else closesAll opening closing depth bs

/-- The search for the end goes past bytes that close all that they open. -/
theorem balancedEnd_of_closesAll {before bs rest : List UInt8} {depth : Nat}
    (hbs : closesAll opening closing depth bs = true)
    (hs : subject.data.toList = before ++ bs ++ rest) (fuel : Nat) :
    balancedEnd subject opening closing (fuel + bs.length) (depth + 1) before.length =
      balancedEnd subject opening closing fuel 1 (before.length + bs.length) := by
  induction bs generalizing before depth with
  | nil =>
    obtain rfl : depth = 0 := by simpa [closesAll] using hbs
    rfl
  | cons b bs ih =>
    have hs' : subject.data.toList = before ++ b :: (bs ++ rest) := by simpa using hs
    have hlength : subject.size = (before ++ b :: (bs ++ rest)).length := congrArg List.length hs'
    have hlt : ¬subject.size ≤ before.length := by
      rw [hlength]
      simp
    have hnext {depth : Nat} (hbs : closesAll opening closing depth bs = true) :
        balancedEnd subject opening closing (fuel + bs.length) (depth + 1) (before.length + 1) =
          balancedEnd subject opening closing fuel 1 (before.length + (b :: bs).length) := by
      have hstep := @ih (before ++ [b]) _ hbs (by simpa using hs)
      rwa [List.length_append, List.length_singleton, Nat.add_assoc, Nat.add_comm 1] at hstep
    rw [List.length_cons, ← Nat.add_assoc, balancedEnd, if_neg hlt, byteAt_of_append hs']
    simp only [closesAll] at hbs
    split at hbs
    case isTrue hclosing =>
      rw [Bool.and_eq_true, decide_eq_true_eq] at hbs
      obtain ⟨d, rfl⟩ : ∃ d, depth = d + 1 := ⟨depth - 1, by omega⟩
      rw [if_pos hclosing, if_neg (by omega)]
      exact hnext hbs.2
    case isFalse hclosing =>
      rw [if_neg hclosing]
      split at hbs
      case isTrue hopening =>
        rw [if_pos hopening]
        exact hnext hbs
      case isFalse hopening =>
        rw [if_neg hopening]
        exact hnext hbs

/-- The pattern for pieces in braces. -/
def braces : ByteArray := "%b\x7b\x7d".toUTF8

/-- A text with braces around it. -/
def inBraces (code : ByteArray) : ByteArray := "\x7b".toUTF8 ++ code ++ "\x7d".toUTF8

/-- Whether braces around a text belong to each other. -/
def IsInside (code : ByteArray) : Prop := closesAll 123 125 0 code.data.toList = true

variable {before code rest : ByteArray}

/-- The pattern matches where an opening brace has its closing one. -/
theorem matchAt_braces (subject : ByteArray) (s : Nat) :
    matchAt subject braces s 0 =
      if subject.size ≤ s || byteAt subject s ≠ 123 then .ok none
      else .ok ((balancedEnd subject 123 125 (subject.size + 1) 1 (s + 1)).map
        fun e ↦ (e, #[])) := by
  have hsize : braces.size = 4 := by decide
  have hfuel : 4 * (subject.size + 2) * (braces.size + 2) = 24 * subject.size + 46 + 2 := by
    rw [hsize]
    omega
  obtain ⟨hzero, hone, htwo, hthree⟩ : byteAt braces 0 = 37 ∧ byteAt braces (0 + 1) = 98 ∧
    byteAt braces (0 + 2) = 123 ∧ byteAt braces (0 + 3) = 125 := by decide
  rw [matchAt, hfuel, run, if_neg (by decide)]
  simp only [hzero, hone, htwo, hthree, hsize]
  rw [if_neg (by decide)]
  split
  case isTrue => rfl
  case isFalse =>
    cases balancedEnd subject 123 125 (subject.size + 1) 1 (s + 1) with
    | none => rfl
    | some e =>
      simp only [Option.map_some]
      rw [run, if_pos (by decide)]

theorem toList_inBraces (code : ByteArray) :
    (inBraces code).data.toList = 123 :: code.data.toList ++ [125] := by
  have hopening : "\x7b".toUTF8.data.toList = [123] := by decide
  have hclosing : "\x7d".toUTF8.data.toList = [125] := by decide
  simp only [inBraces, ByteArray.data_append, Array.toList_append, hopening, hclosing,
    List.cons_append, List.nil_append]

theorem size_inBraces (code : ByteArray) : (inBraces code).size = code.size + 2 := by
  have hlist (s : ByteArray) : s.data.toList.length = s.size := rfl
  rw [← hlist, toList_inBraces, List.length_append, List.length_cons, hlist]
  rfl

/-- A piece in braces is matched as a whole. -/
theorem matchAt_inBraces (hcode : IsInside code) (hs : subject = before ++ inBraces code ++ rest) :
    matchAt subject braces before.size 0 =
      .ok (some (before.size + code.size + 2, #[])) := by
  have hbytes : subject.data.toList =
      before.data.toList ++ 123 :: (code.data.toList ++ 125 :: rest.data.toList) := by
    simp [hs, ByteArray.data_append, toList_inBraces]
  have hsize : subject.size = before.size + (code.size + 2) + rest.size := by
    rw [hs, ByteArray.size_append, ByteArray.size_append, size_inBraces]
  have hinside : subject.data.toList = before.data.toList ++ [123] ++ code.data.toList ++
      125 :: rest.data.toList := by simp [hbytes]
  have houtside : subject.data.toList = (before.data.toList ++ 123 :: code.data.toList) ++
      125 :: rest.data.toList := by simp [hbytes]
  have hlist (s : ByteArray) : s.data.toList.length = s.size := rfl
  have hfirst : byteAt subject before.size = 123 := byteAt_of_append hbytes
  have hlast : byteAt subject (before.size + 1 + code.size) = 125 := by
    have hlength : (before.data.toList ++ 123 :: code.data.toList).length =
        before.size + 1 + code.size := by
      rw [List.length_append, List.length_cons, hlist, hlist]
      omega
    rw [← hlength]
    exact byteAt_of_append houtside
  have hend : balancedEnd subject 123 125 (subject.size + 1) 1 (before.size + 1) =
      some (before.size + code.size + 2) := by
    have hskip := balancedEnd_of_closesAll hcode hinside (before.size + rest.size + 3)
    have hfuel : before.size + rest.size + 3 + code.size = subject.size + 1 := by omega
    rw [List.length_append, List.length_singleton, hlist, hlist, hfuel, Nat.zero_add] at hskip
    rw [hskip, balancedEnd, if_neg (by omega), hlast, if_pos rfl, if_pos (Nat.le_refl 1)]
    congr 1
    omega
  have hlt : ¬(decide (subject.size ≤ before.size) || decide ((123 : UInt8) ≠ 123)) = true := by
    simp
    omega
  rw [matchAt_braces, hfirst, hend, if_neg hlt]
  rfl

/-- Another byte than an opening brace begins no piece. -/
theorem matchAt_braces_of_ne {subject : ByteArray} {s : Nat} (hs : byteAt subject s ≠ 123) :
    matchAt subject braces s 0 = .ok none := by
  rw [matchAt_braces, if_pos (by simp [hs])]

end Pattern

/-! ### Going through a string -/

section Replacing

open Pattern

variable {s before code rest acc : ByteArray} {a i fuel : Nat} {limit n : Int64} {last : Option Nat}
  {h : Heap}

variable (acc a fuel h) in
/-- A function that is to replace pieces is called for a piece. If it answers a string, that is put
in the place of the piece, and the search goes on behind the piece. -/
theorem replaceFrom_inBraces (hn : ¬limit ≤ n) (hlast : ∀ e, last = some e → e ≤ before.size)
    (hcode : IsInside code) (hs : s = before ++ inBraces code ++ rest)
    (k : ByteArray × Int64 → Heap → Heap × Signal) :
    ∃ k', Library.replaceFrom s braces (.function a) false limit (fuel + 1) before.size last n acc k
        h = (h, .call (.function a) [.str (inBraces code)] {} k') ∧
      ∀ v h', k' [.str v] h' = Action.reserve v.size
        (fun _ ↦ Library.replaceFrom s braces (.function a) false limit fuel
          (before.size + code.size + 2) (some (before.size + code.size + 2)) (n + 1) (acc ++ v) k)
        h' := by
  have hmatch := matchAt_inBraces hcode hs
  have hnew : some (before.size + code.size + 2) ≠ last := by
    intro he
    have hle := hlast _ he.symm
    omega
  have hpiece : s.extract before.size (before.size + code.size + 2) = inBraces code := by
    rw [hs, Nat.add_assoc, ← size_inBraces, Text.extract_middle]
  rw [Library.replaceFrom, if_neg hn]
  have hcaptures : captureValues s #[] before.size (before.size + code.size + 2) =
      .ok [.str (inBraces code)] := by
    rw [← hpiece]
    rfl
  simp only [Bool.false_eq_true, if_false, hmatch, Library.orFail, Action.bind_apply,
    Action.pure_apply, Option.filter_some, decide_eq_true hnew, if_true, Library.replacement,
    hcaptures]
  exact ⟨_, rfl, fun v h' ↦ rfl⟩

/-- A byte is kept if the pattern does not match there. -/
theorem replaceFrom_of_none (hn : ¬limit ≤ n) (hi : i < s.size)
    (hmatch : matchAt s braces i 0 = .ok none) (k : ByteArray × Int64 → Heap → Heap × Signal) :
    Library.replaceFrom s braces (.function a) false limit (fuel + 1) i last n acc k h =
      Library.replaceFrom s braces (.function a) false limit fuel (i + 1) last n
        (acc.push (byteAt s i)) k h := by
  rw [Library.replaceFrom, if_neg hn]
  simp only [Bool.false_eq_true, if_false, hmatch, Library.orFail, Action.bind_apply,
    Action.pure_apply, Option.filter_none, if_neg (Nat.not_le.2 hi)]

/-- A byte that begins no piece is kept. -/
theorem replaceFrom_of_ne (hn : ¬limit ≤ n) (hi : i < s.size) (hb : byteAt s i ≠ 123)
    (k : ByteArray × Int64 → Heap → Heap × Signal) :
    Library.replaceFrom s braces (.function a) false limit (fuel + 1) i last n acc k h =
      Library.replaceFrom s braces (.function a) false limit fuel (i + 1) last n
        (acc.push (byteAt s i)) k h :=
  replaceFrom_of_none hn hi (matchAt_braces_of_ne hb) k

/-- A function on top of the stack goes through a string, and has come to a position. For a piece in
braces that begins there it will call a function. -/
def Turn.GoesThrough (m : Machine) (f : Frame) (below : List Frame) (s : ByteArray) (a i : Nat)
    (h : Heap) (t : Turn) : Prop :=
  ∃ (line fuel : Nat) (limit n : Int64) (last : Option Nat) (acc : ByteArray)
    (k : ByteArray × Int64 → Heap → Heap × Signal),
    ¬limit ≤ n ∧ (∀ e, last = some e → e ≤ i) ∧ s.size < fuel + i ∧
      t = (m.stacked f below line).tell
        (Library.replaceFrom s braces (.function a) false limit (fuel + 1) i last n acc k h)

section GoesThrough

variable {m : Machine} {f : Frame} {below : List Frame} {t : Turn}

theorem Turn.GoesThrough.exists_call (ht : t.GoesThrough m f below s a before.size h)
    (hcode : IsInside code) (hs : s = before ++ inBraces code ++ rest) :
    ∃ line k, t = .go (m.stacked f below line) h
      (.call (.function a) [.str (inBraces code)] {} k) := by
  obtain ⟨line, fuel, limit, n, last, acc, k, hn, hlast, -, rfl⟩ := ht
  obtain ⟨k', hcall, -⟩ := replaceFrom_inBraces acc a fuel h hn hlast hcode hs k
  exact ⟨line, k', by rw [hcall]; rfl⟩

/-- A byte that begins no piece is passed by. -/
theorem Turn.GoesThrough.next (ht : t.GoesThrough m f below s a i h) (hi : i < s.size)
    (hb : byteAt s i ≠ 123) : t.GoesThrough m f below s a (i + 1) h := by
  obtain ⟨line, fuel, limit, n, last, acc, k, hn, hlast, hfuel, rfl⟩ := ht
  obtain ⟨fuel, rfl⟩ : ∃ fuel', fuel = fuel' + 1 := ⟨fuel - 1, by omega⟩
  refine ⟨line, fuel, limit, n, last, acc.push (byteAt s i), k, hn, fun e he ↦ ?_, by omega, ?_⟩
  · exact Nat.le_succ_of_le (hlast e he)
  · rw [replaceFrom_of_ne hn hi hb]

/-- A part of the string in which no piece begins is passed by. -/
theorem Turn.GoesThrough.skip {j : Nat} (ht : t.GoesThrough m f below s a i h) (hij : i ≤ j)
    (hj : j ≤ s.size) (hb : ∀ l, i ≤ l → l < j → byteAt s l ≠ 123) :
    t.GoesThrough m f below s a j h := by
  induction hij with
  | refl => exact ht
  | step hij ih =>
    have hpassed := ih (Nat.le_of_succ_le hj) fun l hl hlt ↦ hb l hl (Nat.lt_succ_of_lt hlt)
    exact hpassed.next hj (hb _ hij (Nat.lt_succ_self _))

theorem gsub_braces (s : ByteArray) (a : Nat) (h : Heap)
    (k : List Value → Heap → Heap × Signal) :
    Library.runPrimitive (.string .gsub) [.str s, .str braces, .function a] k h =
      Library.replaceFrom s braces (.function a) false (Int64.ofNat (s.size + 1))
        (2 * s.size + 3 + 1) 0 none 0 .empty (fun r ↦ k [.str r.1, .int r.2]) h := by
  have hstring : Action.arg [.str s, .str braces, .function a] 1 = .str s := rfl
  have hpattern : Action.arg [.str s, .str braces, .function a] 2 = .str braces := rfl
  have hfunction : Action.arg [.str s, .str braces, .function a] 3 = .function a := rfl
  have hlimit (i : Int64) : Action.optInt [.str s, .str braces, .function a] 4 i = pure i := rfl
  have hanchored : (decide (byteAt braces 0 = 94) && decide (0 < braces.size)) = false := by decide
  show Library.gsub _ k h = _
  rw [Library.gsub, needBytes_of_arg hstring, needBytes_of_arg hpattern, hfunction]
  simp only [Action.bind_apply, Action.pure_apply, hlimit, hanchored]
  rfl

/-- `gsub` with the pattern for pieces goes through its string from the beginning. -/
theorem goesThrough_gsub (m : Machine) (f : Frame) (below : List Frame) (line a : Nat) (h : Heap)
    (hs : s.size + 1 < 2 ^ 63) (k : List Value → Heap → Heap × Signal) :
    ((m.stacked f below line).tell (Library.runPrimitive (.string .gsub)
      [.str s, .str braces, .function a] k h)).GoesThrough m f below s a 0 h := by
  have hlimit : ¬Int64.ofNat (s.size + 1) ≤ 0 := by
    rw [Int64.le_iff_toInt_le, Int64.toInt_ofNat_of_lt hs]
    simp
  rw [gsub_braces]
  refine ⟨line, 2 * s.size + 3, Int64.ofNat (s.size + 1), 0, none, .empty, _, hlimit, nofun, ?_,
    rfl⟩
  omega

end GoesThrough

end Replacing

end MacroStream.Script
