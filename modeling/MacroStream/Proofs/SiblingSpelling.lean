import MacroStream.Proofs.SiblingMacros

/-!
# The spelling of a macro file

Whether the store for a macro file depends on how the file is spelled. The macro itself is left out
of the store by a comparison of its path with the paths of the entries, and these are spelled below
the directory of the file. A file that is spelled by its name alone has `.` as its directory, so its
own entry is spelled `./name`, which has one component more: the comparison fails, and the macro is
in its own store. Every other spelling with a directory in front has the same store.
-/

namespace MacroStream

open CommandLine

/-- The file is spelled by its name alone. -/
def IsBare (file : Path) : Prop := file.parts.length = 1

instance (file : Path) : Decidable (IsBare file) := inferInstanceAs (Decidable (_ = _))

variable {F : Folder} {file : Path} {n : String}

/-! ### The directory of a file -/

theorem directoryOf_of_isBare {cs : List Char} (h : file.fileName? = some cs)
    (hbare : IsBare file) : directoryOf file = ⟨"."⟩ := by
  obtain ⟨dir, hdir, hparts⟩ := Path.exists_parent?_of_fileName? h
  have hnil : dir.parts = [] := by
    have hlength : file.parts.length = 1 := hbare
    rw [hparts] at hlength
    simpa using hlength
  have hempty : dir.text.isEmpty = true := by
    simpa [String.isEmpty_iff] using Path.parts_eq_nil_iff.1 hnil
  rw [directoryOf, hdir]
  exact if_pos hempty

theorem parts_of_not_isBare {cs : List Char} (h : file.fileName? = some cs)
    (hbare : ¬IsBare file) : file.parts = (directoryOf file).parts ++ [.name cs] := by
  obtain ⟨dir, hdir, hparts⟩ := Path.exists_parent?_of_fileName? h
  have hempty : ¬dir.text.isEmpty = true := fun hempty ↦ hbare <| by
    have htext : dir.text.toList = [] := by simpa [String.isEmpty_iff] using hempty
    have hnil : dir.parts = [] := Path.parts_eq_nil_iff.2 htext
    rw [IsBare, hparts, hnil]
    rfl
  have hdirectory : directoryOf file = dir := by
    rw [directoryOf, hdir]
    exact if_neg hempty
  rw [hdirectory, hparts]

/-- A file is spelled as its entry unless it is spelled by its name alone. -/
theorem spelledAsEntry_iff {own : String} (h : file.fileName? = some own.toList) :
    SpelledAsEntry file n ↔ ¬IsBare file ∧ n = own := by
  by_cases hbare : IsBare file
  · -- The entry has the components of `.` and the name, and the file has the name only.
    have hlength : file.parts.length = 1 := hbare
    have hhere : (⟨"."⟩ : Path).parts = [.here] := by decide
    rw [SpelledAsEntry, directoryOf_of_isBare h hbare, hhere]
    refine iff_of_false (fun heq ↦ ?_) fun hnot ↦ hnot.1 hbare
    rw [heq] at hlength
    cases hlength
  · rw [SpelledAsEntry, parts_of_not_isBare h hbare, and_iff_right hbare,
      List.append_cancel_left_eq, List.singleton_inj, PathPart.name.injEq, String.toList_inj,
      eq_comm]

/-! ### The store without an entry -/

namespace Folder

/-- No other regular file has the stem of this one. -/
def StemUnshared (F : Folder) (n : String) : Prop :=
  ∀ n' ∈ F.names, F.kind? n' = some .file → stemOf n' = stemOf n → n' = n

/-- The texts of all entries but one. -/
def without (F : Folder) (own n : String) : Option String := if n = own then none else F.text? n

theorem kind?_of_text? {text : String} (h : F.text? n = some text) : F.kind? n = some .file := by
  by_contra hkind
  rw [F.text?_of_kind?_ne hkind] at h
  exact nomatch h

/-- A file that is spelled by its name alone is not left out. -/
theorem loaded?_of_isBare (h : file.fileName? = some n.toList) (hbare : IsBare file) :
    F.loaded? file = F.text? := by
  funext n'
  exact loaded?_of_not_spelledAsEntry fun hentry ↦ ((spelledAsEntry_iff h).1 hentry).1 hbare

theorem loaded?_of_not_isBare (h : file.fileName? = some n.toList) (hbare : ¬IsBare file) :
    F.loaded? file = F.without n := by
  funext n'
  simp only [loaded?, without, spelledAsEntry_iff h, hbare, not_false_eq_true, true_and]

/-- Under the other stems the entry makes no difference. -/
theorem lastOf_without_iff {stem text : String} (hne : stem ≠ stemOf n) :
    F.LastOf (F.without n) stem text ↔ F.LastOf F.text? stem text := by
  refine lastOf_congr fun n' hsame ↦ if_neg fun hown ↦ hne ?_
  rw [← hsame, hown]

variable (hstem : F.StemUnshared n)

include hstem

/-- Without the entry there is nothing under its stem. -/
theorem get?_storeOf_without : (F.storeOf (F.without n)).get? (stemOf n) = none := by
  rw [storeOf, MacroStore.get?_ofList_eq_none_iff]
  intro e he hsame
  obtain ⟨n', hn', hentry⟩ := List.mem_filterMap.1 he
  obtain ⟨hkey, hgiven⟩ := keyed?_eq_some_iff.1 hentry
  rw [without] at hgiven
  split at hgiven
  case isTrue => cases hgiven
  case isFalse hne => exact hne (hstem n' hn' (kind?_of_text? hgiven) (hkey.trans hsame))

/-- With the entry there is its own text. -/
theorem get?_storeOf_text (hn : n ∈ F.names) :
    (F.storeOf F.text?).get? (stemOf n) = F.text? n := by
  refine MacroStore.get?_ofList_of_forall fun text ↦ ?_
  simp only [List.mem_filterMap, keyed?_eq_some_iff]
  constructor
  · rintro ⟨n', hn', hsame, htext⟩
    rwa [← hstem n' hn' (kind?_of_text? htext) hsame]
  · exact fun htext ↦ ⟨n, hn, rfl, htext⟩

end Folder

namespace CommandLine

/-- **The store and the spelling of the file.** For a macro whose stem no other file shares, all
spellings with a directory in front have one store, which has nothing under that stem and the text
of the last file under every other. A file that is spelled by its name alone has the same store with
its own text in it. -/
theorem siblingStore_spelling (F : Folder) {n : String} (hn : n ∈ F.names)
    (hstem : F.StemUnshared n) :
    ∃ store : MacroStore, store.get? (stemOf n) = none ∧
      (∀ stem, stem ≠ stemOf n → ∀ text,
        (store.get? stem = some text ↔ F.LastOf F.text? stem text)) ∧
      ∀ {m : Type → Type} [Monad m] [LawfulMonad m] {σ : Type} (p : Platform (StateT σ m))
        (I : σ → Prop) (file : Path), file.fileName? = some n.toList →
        p.Shows I (directoryOf file) F → ∀ s, I s →
          Always (fun r ↦ (¬IsBare file → r.1 = store) ∧
              (IsBare file → ∀ name, r.1.get? name =
                if name = stemOf n then F.text? n else store.get? name) ∧ I r.2)
            ((siblingStore p file).run s) := by
  have hothers (stem : String) (hne : stem ≠ stemOf n) (text : String) :
      (F.storeOf (F.without n)).get? stem = some text ↔ F.LastOf F.text? stem text := by
    rw [Folder.get?_storeOf_eq_some_iff, Folder.lastOf_without_iff hne]
  refine ⟨F.storeOf (F.without n), Folder.get?_storeOf_without hstem, hothers, ?_⟩
  intro m _ _ σ p I file hfile hshows s hs
  refine (siblingStore_run hshows hs).mono fun r hr ↦ ⟨fun hbare ↦ ?_, fun hbare name ↦ ?_, hr.2⟩
  · rw [hr.1, Folder.store, Folder.loaded?_of_not_isBare hfile hbare]
  · rw [hr.1, Folder.store, Folder.loaded?_of_isBare hfile hbare]
    split
    case isTrue hname => rw [hname, Folder.get?_storeOf_text hstem hn]
    case isFalse hname =>
      refine Option.ext fun text ↦ ?_
      rw [hothers name hname, Folder.get?_storeOf_eq_some_iff]

/-- A macro and a module next to it. -/
def neighbours : Folder where
  names := ["a.lua", "b.lua"]
  kind? _ := some .file
  read n := .ok (ownText n).toUTF8
  isFileName := by decide

/-- The macro is in its own store when it is called `a.lua`, and not when it is called `./a.lua` or
`/work/a.lua`. -/
theorem siblingStore_spelling_neighbours :
    "a.lua" ∈ neighbours.names ∧ neighbours.StemUnshared "a.lua" ∧
    (∀ file ∈ [⟨"a.lua"⟩, ⟨"./a.lua"⟩, ⟨"/work/a.lua"⟩], Path.fileName? file = some "a.lua".toList ∧
      neighbours.platform.Shows (fun _ ↦ True) (directoryOf file) neighbours) ∧
    ((siblingStore neighbours.platform ⟨"a.lua"⟩).run ()).run.1.get? "a" = some "1" ∧
    ((siblingStore neighbours.platform ⟨"./a.lua"⟩).run ()).run.1.get? "a" = none ∧
    ((siblingStore neighbours.platform ⟨"/work/a.lua"⟩).run ()).run.1.get? "a" = none := by
  have hstem : neighbours.StemUnshared "a.lua" := by
    intro n hn _
    revert n
    decide +kernel
  have hnames : ∀ file ∈ [⟨"a.lua"⟩, ⟨"./a.lua"⟩, ⟨"/work/a.lua"⟩],
      Path.fileName? file = some "a.lua".toList ∧
        neighbours.platform.Shows (fun _ ↦ True) (directoryOf file) neighbours := by
    intro file hfile
    refine ⟨?_, neighbours.platform_shows _⟩
    revert file
    decide +kernel
  have hstemOf : stemOf "a.lua" = "a" := by decide +kernel
  obtain ⟨store, hnone, -, hruns⟩ := siblingStore_spelling neighbours (by decide) hstem
  rw [hstemOf] at hnone
  have hrun (file : Path) (hfile : file ∈ [⟨"a.lua"⟩, ⟨"./a.lua"⟩, ⟨"/work/a.lua"⟩]) :=
    Always.id_iff.1 (hruns _ _ file (hnames file hfile).1 (hnames file hfile).2 () trivial)
  refine ⟨by decide, hstem, hnames, ?_, ?_, ?_⟩
  · have hbare := (hrun ⟨"a.lua"⟩ (by simp)).2.1 (by decide +kernel) "a"
    rw [hbare, if_pos (by decide +kernel)]
    decide +kernel
  · have hstore := (hrun ⟨"./a.lua"⟩ (by simp)).1 (by decide +kernel)
    rw [hstore, hnone]
  · have hstore := (hrun ⟨"/work/a.lua"⟩ (by simp)).1 (by decide +kernel)
    rw [hstore, hnone]

end CommandLine

end MacroStream
