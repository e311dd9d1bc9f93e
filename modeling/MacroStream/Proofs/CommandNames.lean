import Mathlib.Data.List.TakeWhile
import MacroStream.Proofs.CommandText

/-!
# Names of commands

The name of a command is its first word behind the leading slashes, and empty if there is none. Of a
text at large this says little: it may begin with many slashes, or have no word.

Of a command that was read it says what one expects. There is one slash in front, because a line
that begins with two is a comment. There is a word, because the line was trimmed and holds more than
the slash, so that its last character is neither the slash nor a blank. Line ends are of no
importance: a text that is read as one line may be broken, and then a terminator ends the name as
any other blank does.

So the text of such a command is a slash, blanks, a word, and a rest that is empty or begins with a
blank. There is only one way to take it apart like this, and the word is the name.
-/

namespace MacroStream

namespace Text

/-! ### First words -/

variable {blanks word rest cs : List Char}

/-- A word with blanks before it, and a blank or the end behind it, is the first one. -/
theorem firstWord_append (hblanks : ∀ c ∈ blanks, isBlank c = true) (hne : word ≠ [])
    (hword : ∀ c ∈ word, isBlank c = false) (hrest : ∀ c ∈ rest.head?, isBlank c = true) :
    firstWord (blanks ++ (word ++ rest)) = word := by
  have hdrop : (blanks ++ (word ++ rest)).dropWhile isBlank = word ++ rest := by
    rw [List.dropWhile_append_of_pos hblanks]
    cases word with
    | nil => exact absurd rfl hne
    | cons c word => exact List.dropWhile_cons_of_neg (by simp [hword c List.mem_cons_self])
  have hstop : rest.takeWhile (fun c ↦ !isBlank c) = [] := by
    cases rest with
    | nil => rfl
    | cons c rest => exact List.takeWhile_cons_of_neg (by simp [hrest c rfl])
  rw [firstWord, hdrop, List.takeWhile_append_of_pos fun c hc ↦ by simp [hword c hc], hstop,
    List.append_nil]

theorem not_isBlank_of_mem_firstWord {c : Char} (hc : c ∈ firstWord cs) : isBlank c = false := by
  simpa using List.all_eq_true.1 List.all_takeWhile c hc

/-- The first word has blanks before it, and a blank or the end behind it. -/
theorem exists_eq_append_firstWord (cs : List Char) :
    ∃ blanks rest, cs = blanks ++ (firstWord cs ++ rest) ∧ (∀ c ∈ blanks, isBlank c = true) ∧
      ∀ c ∈ rest.head?, isBlank c = true := by
  refine ⟨cs.takeWhile isBlank, (cs.dropWhile isBlank).dropWhile fun c ↦ !isBlank c, ?_, ?_, ?_⟩
  · rw [firstWord, List.takeWhile_append_dropWhile, List.takeWhile_append_dropWhile]
  · exact List.all_eq_true.1 List.all_takeWhile
  · intro c hc
    have hhead := List.head?_dropWhile_not (fun c ↦ !isBlank c) (cs.dropWhile isBlank)
    rw [hc] at hhead
    simpa using hhead

/-- There is a first word if there is anything but blanks. -/
theorem firstWord_ne_nil {c : Char} (hc : c ∈ cs) (hblank : isBlank c = false) :
    firstWord cs ≠ [] := by
  have hhead := List.head?_dropWhile_not isBlank cs
  cases hdrop : cs.dropWhile isBlank with
  | nil =>
    have hall := List.dropWhile_eq_nil_iff.1 hdrop c hc
    rw [hblank] at hall
    exact nomatch hall
  | cons d ds =>
    rw [hdrop] at hhead
    have hd : isBlank d = false := hhead
    rw [firstWord, hdrop, List.takeWhile_cons_of_pos (by simp [hd])]
    exact List.cons_ne_nil _ _

end Text

open Text

/-! ### Commands that were read -/

/-- A command comes from a text, which was read as a whole or as one line. -/
inductive LineParser.IsReadFrom (s : String) (c : Command) : Prop
  | text {cs : List Command} (h : lineParser.parse s = .ok cs) (hc : c ∈ cs)
  | line (h : lineParser.parseLine s = some c)

/-- The text of a command is a slash, blanks, a word, and a rest that is empty or begins with a
blank. -/
structure Command.IsCalled (c : Command) (name : String) : Prop where
  ne_empty : name ≠ ""
  not_blank : ∀ d ∈ name.toList, isBlank d = false
  text : ∃ blanks rest : String, c.text = "/" ++ blanks ++ name ++ rest ∧
    (∀ d ∈ blanks.toList, isBlank d = true) ∧ ∀ d ∈ rest.toList.head?, isBlank d = true

namespace LineParser

variable {s : String} {c : Command}

theorem IsReadFrom.isCommandText (h : IsReadFrom s c) : IsCommandText c.text := by
  cases h with
  | text h hc => exact (unbroken_of_mem_parse h hc).1
  | line h =>
    obtain ⟨rfl, hcommand⟩ := parseLine_eq_some_iff.1 h
    exact hcommand

/-- Behind the slash of a command there is no other one, and not only blanks. -/
theorem IsCommandText.exists_toList (h : IsCommandText s) :
    ∃ cs, s.toList = '/' :: cs ∧ cs.dropWhile (· == '/') = cs ∧ ∃ d ∈ cs, isBlank d = false := by
  obtain ⟨htrim, d, ds, hs, hd⟩ := isCommandText_iff.1 h
  refine ⟨d :: ds, hs, List.dropWhile_cons_of_neg (by simpa using hd), ?_⟩
  -- The last character of the text is not the slash.
  have hlast : s.toList.getLast? = some ((d :: ds).getLast (List.cons_ne_nil d ds)) := by
    rw [hs, List.getLast?_cons_cons, List.getLast?_eq_some_getLast]
  refine ⟨_, List.getLast_mem (List.cons_ne_nil d ds), ?_⟩
  rw [← htrim, toList_trim] at hlast
  exact not_of_mem_getLast?_trimBy _ hlast

end LineParser

namespace Command

open LineParser

variable {s : String} {c : Command}

/-- Of the slashes in front of a name there is one. -/
theorem toList_name {cs : List Char} (hc : c.text.toList = '/' :: cs)
    (hslash : cs.dropWhile (· == '/') = cs) : c.name.toList = firstWord cs := by
  rw [name, String.toList_ofList, hc, List.dropWhile_cons_of_pos rfl, hslash]

theorem isCalled_name (h : IsCommandText c.text) : c.IsCalled c.name := by
  obtain ⟨cs, hcs, hslash, d, hd, hblank⟩ := h.exists_toList
  have hname := toList_name hcs hslash
  obtain ⟨blanks, rest, hsplit, hblanks, hrest⟩ := exists_eq_append_firstWord cs
  refine ⟨fun hempty ↦ firstWord_ne_nil hd hblank ?_, fun d hd ↦ ?_,
    .ofList blanks, .ofList rest, ?_, ?_, ?_⟩
  · rw [← hname, hempty]
    rfl
  · rw [hname] at hd
    exact not_isBlank_of_mem_firstWord hd
  · apply String.toList_injective
    rw [hcs, hsplit, ← hname]
    simp
  · rwa [String.toList_ofList]
  · rwa [String.toList_ofList]

theorem IsCalled.eq_name {name : String} (hname : c.IsCalled name) (h : IsCommandText c.text) :
    name = c.name := by
  obtain ⟨hne, hword, blanks, rest, htext, hblanks, hrest⟩ := hname
  obtain ⟨cs, hcs, hslash, -⟩ := h.exists_toList
  have hsplit : cs = blanks.toList ++ (name.toList ++ rest.toList) := by
    rw [htext] at hcs
    simpa using hcs.symm
  have hnil : name.toList ≠ [] := fun hnil ↦ hne (String.toList_injective hnil)
  apply String.toList_injective
  rw [toList_name hcs hslash, hsplit, firstWord_append hblanks hnil hword hrest]

/-- **Names of commands.** A command that was read from a text, as a whole or as one line, has a
name, and this is the only word that its text calls it by. -/
theorem isCalled_name_of_isReadFrom (h : IsReadFrom s c) :
    c.IsCalled c.name ∧ ∀ name, c.IsCalled name → name = c.name :=
  ⟨isCalled_name h.isCommandText, fun _ hname ↦ hname.eq_name h.isCommandText⟩

/-- A line that is broken, with a slash in its name and blanks on both sides of it. -/
theorem isCalled_name_of_isReadFrom_broken :
    IsReadFrom " /\u3000/a\nb\u00a0" ⟨"/\u3000/a\nb", 1⟩ ∧
      IsCalled ⟨"/\u3000/a\nb", 1⟩ "/a" ∧
      ∀ name, IsCalled ⟨"/\u3000/a\nb", 1⟩ name → name = "/a" := by
  have hread : IsReadFrom " /\u3000/a\nb\u00a0" ⟨"/\u3000/a\nb", 1⟩ := .line rfl
  exact ⟨hread, isCalled_name_of_isReadFrom hread⟩

end Command

end MacroStream
