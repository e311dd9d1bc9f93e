import Mathlib.Data.List.Forall2

/-!
# The bytes of a text

A string literal is known by its characters, and what is computed from a text is computed from its
bytes. Between the two stand the operations of the standard library on strings and byte arrays,
which are made for running programs: here they are replaced by operations on lists.
-/

namespace MacroStream.Text

/-- The bytes of a text, character by character. -/
theorem toUTF8_eq_flatMap (s : String) :
    s.toUTF8 = ⟨⟨s.toList.flatMap String.utf8EncodeChar⟩⟩ := by
  rw [String.toUTF8_eq_toByteArray, ← String.utf8Encode_toList, List.utf8Encode]
  ext1
  exact List.data_toByteArray

/-- Going through a byte array is going through its list. -/
theorem toList_eq_data_toList (bs : ByteArray) : bs.toList = bs.data.toList := by
  have hloop (i : Nat) (acc : List UInt8) :
      ByteArray.toList.loop bs i acc = acc.reverse ++ bs.data.toList.drop i := by
    induction hn : bs.size - i generalizing i acc with
    | zero =>
      have hi : ¬i < bs.size := by omega
      have hdrop : bs.data.toList.drop i = [] := List.drop_eq_nil_of_le (Nat.le_of_not_lt hi)
      rw [ByteArray.toList.loop, if_neg hi, hdrop, List.append_nil]
    | succ n ih =>
      have hi : i < bs.size := by omega
      have hdata : i < bs.data.toList.length := hi
      have hget : bs.get! i = bs.data.toList[i] := by
        rw [Array.getElem_toList]
        exact getElem!_pos bs.data i hi
      rw [ByteArray.toList.loop, if_pos hi, ih (i + 1) _ (by omega), List.reverse_cons,
        List.append_assoc, List.singleton_append, hget, List.getElem_cons_drop]
  rw [ByteArray.toList, hloop]
  rfl

theorem toList_toUTF8 (s : String) : s.toUTF8.toList = s.toList.flatMap String.utf8EncodeChar := by
  rw [toList_eq_data_toList, toUTF8_eq_flatMap]

/-- The bytes of the first of two texts are in front of those of the second. -/
theorem toUTF8_append (s t : String) :
    (s ++ t).toUTF8 =
      ⟨⟨s.toList.flatMap String.utf8EncodeChar ++ t.toList.flatMap String.utf8EncodeChar⟩⟩ := by
  rw [toUTF8_eq_flatMap, String.toList_append, List.flatMap_append]

theorem utf8ByteSize_eq_length (s : String) :
    s.utf8ByteSize = (s.toList.flatMap String.utf8EncodeChar).length := by
  change s.toUTF8.size = _
  rw [toUTF8_eq_flatMap]
  rfl

theorem extract_middle (a b c : ByteArray) :
    (a ++ b ++ c).extract a.size (a.size + b.size) = b := by
  have hbehind := ByteArray.extract_append_size_add (a := a) (b := b ++ c) (i := 0) (j := b.size)
  rw [Nat.add_zero] at hbehind
  rw [ByteArray.append_assoc, hbehind, ByteArray.extract_append_eq_left rfl]

/-- A byte below 128 is a character by itself, and in no other character. -/
theorem toNat_eq_of_mem_utf8EncodeChar {c : Char} {b : UInt8} (hb : b ∈ String.utf8EncodeChar c)
    (h : b.toNat < 128) : c.toNat = b.toNat := by
  rw [Char.toNat]
  simp only [String.utf8EncodeChar] at hb
  split_ifs at hb
  all_goals
    simp only [List.mem_cons, List.not_mem_nil, or_false] at hb
    rcases hb with rfl | rfl | rfl | rfl
  all_goals
    simp only [UInt8.toNat_ofNat'] at h ⊢
    omega

/-- The first byte of a text is a line feed only if its first character is. -/
theorem head?_flatMap_ne_lf {cs : List Char} (h : cs.head? ≠ some '\n') :
    (cs.flatMap String.utf8EncodeChar).head? ≠ some 10 := by
  intro hhead
  rcases cs with _ | ⟨c, cs⟩
  · exact nomatch hhead
  · obtain ⟨b, bs, hbytes⟩ := List.exists_cons_of_ne_nil (String.utf8EncodeChar_ne_nil (c := c))
    rw [List.flatMap_cons, hbytes, List.cons_append, List.head?_cons, Option.some.injEq] at hhead
    have hmem : (10 : UInt8) ∈ String.utf8EncodeChar c := by
      rw [hbytes, hhead]
      exact List.mem_cons_self
    have hlf : c = '\n' := Char.toNat_inj.1 (toNat_eq_of_mem_utf8EncodeChar hmem (by decide))
    exact h (congrArg some hlf)

/-! ### The characters of literals -/

theorem toList_append_of {s t : String} {cs ds : List Char} (hs : s.toList = cs)
    (ht : t.toList = ds) : (s ++ t).toList = cs ++ ds := by
  rw [String.toList_append, hs, ht]

/-- The characters of a text that is made from lines. -/
theorem toList_intercalate_of {sep : String} {ss : List String} {css : List (List Char)}
    (h : List.Forall₂ (fun s cs ↦ s.toList = cs) ss css) :
    (sep.intercalate ss).toList = sep.toList.intercalate css := by
  have hmap : ss.map String.toList = css := by
    rwa [← List.forall₂_eq_eq_eq, List.forall₂_map_left_iff]
  rw [String.toList_intercalate, hmap]

end MacroStream.Text
