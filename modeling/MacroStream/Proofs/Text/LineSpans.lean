import MacroStream.Proofs.Text.Bytes
import MacroStream.Proofs.Text.LineEnds

/-!
# Lines among the bytes of a text

A text that is kept as its bytes is cut without being decoded: `lineSpans` goes through the bytes
once and answers where each line begins and ends. It looks at single bytes, and it can, since the
bytes of the two line ends occur in no other character. So each line lies between two characters of
the text, none of its bytes is lost, and the lines are those that the characters are cut into.
-/

namespace MacroStream.Text

/-! ### Going through the bytes -/

/-- Where the lines begin and end from `i` on, if the line at `i` began at `start`. -/
def lineSpansFrom (bytes : ByteArray) (start i : Nat) : List (Nat × Nat) :=
  if h : i < bytes.size then
    if bytes[i] = 13 then
      let next := if bytes[i + 1]? = some 10 then i + 2 else i + 1
      (start, i) :: lineSpansFrom bytes next next
    else if bytes[i] = 10 then (start, i) :: lineSpansFrom bytes (i + 1) (i + 1)
    else lineSpansFrom bytes start (i + 1)
  else [(start, bytes.size)]
termination_by bytes.size - i
decreasing_by
  · split <;> omega
  · omega
  · omega

/-- Where each line of a text begins and ends among its bytes. -/
def lineSpans (bytes : ByteArray) : List (Nat × Nat) := lineSpansFrom bytes 0 0

variable {bs line rest : List UInt8} {b : UInt8} {start i : Nat}

theorem getElem?_eq_head?_drop (bs : List UInt8) (i : Nat) :
    (ByteArray.mk ⟨bs⟩)[i]? = (bs.drop i).head? := by
  rw [List.head?_drop]
  by_cases hi : i < bs.length
  · rw [getElem?_pos (ByteArray.mk ⟨bs⟩) i hi, List.getElem?_eq_getElem hi]
    rfl
  · rw [getElem?_neg (ByteArray.mk ⟨bs⟩) i hi, List.getElem?_eq_none (Nat.le_of_not_lt hi)]

theorem drop_add_one (h : bs.drop i = b :: rest) : bs.drop (i + 1) = rest := by
  rw [← List.drop_drop, h, List.drop_one, List.tail_cons]

/-- What is done at a byte depends on this byte and the next one. -/
theorem lineSpansFrom_of_drop_eq_cons (h : bs.drop i = b :: rest) :
    lineSpansFrom ⟨⟨bs⟩⟩ start i =
      if b = 13 then
        let next := if rest.head? = some 10 then i + 2 else i + 1
        (start, i) :: lineSpansFrom ⟨⟨bs⟩⟩ next next
      else if b = 10 then (start, i) :: lineSpansFrom ⟨⟨bs⟩⟩ (i + 1) (i + 1)
      else lineSpansFrom ⟨⟨bs⟩⟩ start (i + 1) := by
  have hbyte : (ByteArray.mk ⟨bs⟩)[i]? = some b := by
    rw [getElem?_eq_head?_drop, h, List.head?_cons]
  have hrest : bs.drop (i + 1) = rest := drop_add_one h
  obtain ⟨hi, hget⟩ := getElem?_eq_some_iff.1 hbyte
  rw [lineSpansFrom, dif_pos hi, hget, getElem?_eq_head?_drop, hrest]

/-- Bytes that are no line ends belong to the line. -/
theorem lineSpansFrom_append (h : bs.drop i = line ++ rest) (hline : ∀ b ∈ line, b ≠ 13 ∧ b ≠ 10) :
    lineSpansFrom ⟨⟨bs⟩⟩ start i = lineSpansFrom ⟨⟨bs⟩⟩ start (i + line.length) := by
  induction line generalizing i with
  | nil => rfl
  | cons b line ih =>
    obtain ⟨hb, hline⟩ := List.forall_mem_cons.1 hline
    have hrest : bs.drop (i + 1) = line ++ rest := drop_add_one h
    rw [lineSpansFrom_of_drop_eq_cons h, if_neg hb.1, if_neg hb.2, ih hrest hline,
      List.length_cons, Nat.add_assoc, Nat.add_comm 1]

/-- The bytes that a line end is written with. -/
def LineEnd.bytes : LineEnd → List UInt8
  | .lf => [10]
  | .cr => [13]
  | .crlf => [13, 10]

theorem LineEnd.flatMap_chars (e : LineEnd) : e.chars.flatMap String.utf8EncodeChar = e.bytes := by
  cases e <;> rfl

/-- A line end ends the line, and the next one begins behind it. -/
theorem lineSpansFrom_lineEnd (e : LineEnd) (h : bs.drop i = e.bytes ++ rest)
    (hseam : e = .cr → rest.head? ≠ some 10) :
    lineSpansFrom ⟨⟨bs⟩⟩ start i =
      (start, i) :: lineSpansFrom ⟨⟨bs⟩⟩ (i + e.bytes.length) (i + e.bytes.length) := by
  cases e with
  | lf => exact lineSpansFrom_of_drop_eq_cons h
  | cr =>
    have hcr : bs.drop i = 13 :: rest := h
    rw [lineSpansFrom_of_drop_eq_cons hcr, if_pos rfl, if_neg (hseam rfl)]
    rfl
  | crlf => exact lineSpansFrom_of_drop_eq_cons h

/-! ### Going through a text -/

theorem utf8ByteSize_append_ofList (a : String) (cs : List Char) :
    (a ++ String.ofList cs).utf8ByteSize =
      a.utf8ByteSize + (cs.flatMap String.utf8EncodeChar).length := by
  rw [String.utf8ByteSize_append, utf8ByteSize_eq_length (String.ofList cs), String.toList_ofList]

theorem drop_utf8ByteSize (a : String) (rest : List UInt8) :
    (a.toList.flatMap String.utf8EncodeChar ++ rest).drop a.utf8ByteSize = rest := by
  rw [utf8ByteSize_eq_length, List.drop_left]

/-- A line that begins between two characters is gone through up to its end. -/
theorem lineSpansFrom_line {line : List Char} (hline : ∀ c ∈ line, c ≠ '\r' ∧ c ≠ '\n')
    (a b : String) :
    lineSpansFrom (a ++ String.ofList line ++ b).toUTF8 a.utf8ByteSize a.utf8ByteSize =
      lineSpansFrom (a ++ String.ofList line ++ b).toUTF8 a.utf8ByteSize
        (a ++ String.ofList line).utf8ByteSize := by
  have hbytes : ∀ b ∈ line.flatMap String.utf8EncodeChar, b ≠ 13 ∧ b ≠ 10 := by
    intro b hb
    obtain ⟨c, hc, hbc⟩ := List.mem_flatMap.1 hb
    constructor
    · rintro rfl
      exact (hline c hc).1 (Char.toNat_inj.1 (toNat_eq_of_mem_utf8EncodeChar hbc (by decide)))
    · rintro rfl
      exact (hline c hc).2 (Char.toNat_inj.1 (toNat_eq_of_mem_utf8EncodeChar hbc (by decide)))
  rw [String.append_assoc, toUTF8_append, String.toList_append, String.toList_ofList,
    List.flatMap_append, utf8ByteSize_append_ofList]
  exact lineSpansFrom_append (drop_utf8ByteSize a _) hbytes

/-- At a line end between two characters the line ends, and the next one begins behind it. -/
theorem lineSpansFrom_chars (e : LineEnd) {cs : List Char} (hseam : e = .cr → cs.head? ≠ some '\n')
    (a : String) (start : Nat) :
    lineSpansFrom (a ++ String.ofList e.chars ++ String.ofList cs).toUTF8 start a.utf8ByteSize =
      (start, a.utf8ByteSize) ::
        lineSpansFrom (a ++ String.ofList e.chars ++ String.ofList cs).toUTF8
          (a ++ String.ofList e.chars).utf8ByteSize (a ++ String.ofList e.chars).utf8ByteSize := by
  rw [String.append_assoc, toUTF8_append, String.toList_append, String.toList_ofList,
    String.toList_ofList, List.flatMap_append, utf8ByteSize_append_ofList, e.flatMap_chars]
  exact lineSpansFrom_lineEnd e (drop_utf8ByteSize a _) fun he ↦ head?_flatMap_ne_lf (hseam he)

/-- The last line ends where the text does. -/
theorem lineSpansFrom_utf8ByteSize (t : String) (start : Nat) :
    lineSpansFrom t.toUTF8 start t.utf8ByteSize = [(start, t.utf8ByteSize)] := by
  have hi : ¬t.utf8ByteSize < t.toUTF8.size := Nat.lt_irrefl _
  rw [lineSpansFrom, dif_neg hi]
  rfl

/-! ### Slices -/

/-- What stands between two places of a text, each between two characters. -/
structure IsSlice (t : String) (span : Nat × Nat) (line : String) : Prop where
  le : span.1 ≤ span.2
  starts : String.Pos.Raw.IsValid t ⟨span.1⟩
  stops : String.Pos.Raw.IsValid t ⟨span.2⟩
  bytes : t.toUTF8.extract span.1 span.2 = line.toUTF8

theorem isSlice_append (a line b : String) :
    IsSlice (a ++ line ++ b) (a.utf8ByteSize, (a ++ line).utf8ByteSize) line := by
  refine ⟨?_, ?_, ?_, ?_⟩
  · rw [String.utf8ByteSize_append]
    exact Nat.le_add_right ..
  · exact String.Pos.Raw.isValid_iff_exists_append.2 ⟨a, line ++ b, String.append_assoc, rfl⟩
  · exact String.Pos.Raw.isValid_iff_exists_append.2 ⟨a ++ line, b, rfl, rfl⟩
  · rw [String.utf8ByteSize_append]
    simp only [String.toUTF8_eq_toByteArray, String.toByteArray_append]
    exact extract_middle a.toByteArray line.toByteArray b.toByteArray

/-- From a place between two characters on, the lines lie among the bytes as they follow each other
in the text. -/
theorem isSlice_of_isCut {lines : List (List Char)} {ends : List LineEnd} {cs : List Char}
    (h : IsCut lines ends cs) (a : String) :
    List.Forall₂ (IsSlice (a ++ String.ofList cs))
      (lineSpansFrom (a ++ String.ofList cs).toUTF8 a.utf8ByteSize a.utf8ByteSize)
      (lines.map String.ofList) := by
  induction h generalizing a with
  | @last line hline =>
    have hslice := isSlice_append a (String.ofList line) ""
    have hgone := lineSpansFrom_line hline a ""
    rw [String.append_empty] at hslice hgone
    rw [hgone, lineSpansFrom_utf8ByteSize]
    exact .cons hslice .nil
  | @cons line e lines ends cs hline hseam _ ih =>
    have hslice := isSlice_append a (String.ofList line) (String.ofList (e.chars ++ cs))
    have hgone := lineSpansFrom_line hline a (String.ofList (e.chars ++ cs))
    have hended := lineSpansFrom_chars e hseam (a ++ String.ofList line) a.utf8ByteSize
    have hrest := ih (a ++ String.ofList line ++ String.ofList e.chars)
    have htext : a ++ String.ofList (line ++ (e.chars ++ cs)) =
        a ++ String.ofList line ++ String.ofList e.chars ++ String.ofList cs := by
      simp only [String.ofList_append, String.append_assoc]
    rw [String.ofList_append, ← String.append_assoc] at hslice hgone
    rw [htext, hgone, hended]
    exact .cons hslice hrest

/-- **Texts and their lines.** A text is cut into lines in one way: the lines that are found in it,
with one line end between each two of them. So these are all lines that it can have been put
together from, and there is at least one. Whoever goes through the bytes finds the same lines, each
between two characters. -/
theorem isCut_iff_eq_splitLines (t : String) :
    (∀ lines : List String,
      (∃ ends, IsCut (lines.map String.toList) ends t.toList) ↔ lines = splitLines t) ∧
    (∃! ends, IsCut ((splitLines t).map String.toList) ends t.toList) ∧
    splitLines t ≠ [] ∧
    List.Forall₂ (IsSlice t) (lineSpans t.toUTF8) (splitLines t) := by
  have hsplit : (splitLines t).map String.toList = linesOf t.toList := by
    rw [splitLines, List.map_map]
    simp [Function.comp_def]
  obtain ⟨ends, hcut⟩ := exists_isCut t.toList
  refine ⟨fun lines ↦ ⟨?_, ?_⟩, ⟨ends, ?_, ?_⟩, ?_, ?_⟩
  · rintro ⟨ends', hcut'⟩
    rw [splitLines, hcut'.linesOf_eq, List.map_map]
    simp [Function.comp_def]
  · rintro rfl
    exact ⟨ends, hsplit ▸ hcut⟩
  · exact hsplit ▸ hcut
  · intro ends' hcut'
    exact hcut'.ends_eq (hsplit ▸ hcut)
  · rw [splitLines]
    simpa using linesOf_ne_nil t.toList
  · have hslices := isSlice_of_isCut hcut ""
    rw [String.empty_append, String.ofList_toList] at hslices
    exact hslices

end MacroStream.Text
