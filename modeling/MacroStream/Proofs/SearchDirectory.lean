import MacroStream.Proofs.ModuleSearch
import MacroStream.Proofs.Path

/-!
# Where search directories lead

Which of the files that are tried for a module name lie below the search directory, judged by their
components. A relative name stays there, but a dot counts as a separator in the last two of the four
spellings, so a name that starts with a dot is relative in the first two and absolute in the others:
these stand for themselves, whatever the directory is.
-/

namespace MacroStream

namespace ModuleResolver

variable {dir : Path} {name : String}

/-- The name starts with a dot. -/
def LeadingDot (name : String) : Prop := name.toList.head? = some '.'

/-! ### The spellings of a name -/

theorem isAbsolute_append (h : (⟨name⟩ : Path).isAbsolute = false) {ending : String}
    (hending : (⟨ending⟩ : Path).isAbsolute = false) :
    (⟨name ++ ending⟩ : Path).isAbsolute = false := by
  cases hcs : name.toList with
  | nil => rwa [String.toList_eq_nil_iff.1 hcs, String.empty_append]
  | cons c cs =>
    rw [← h]
    refine Path.isAbsolute_congr ?_
    rw [String.toList_append, hcs]
    rfl

theorem head?_dotsAsSeparators :
    (dotsAsSeparators name).toList.head? =
      name.toList.head?.map fun c ↦ if c = '.' then '/' else c := by
  rw [dotsAsSeparators, String.toList_map, List.head?_map]

/-- With its dots as separators a relative name is absolute exactly if it starts with one. -/
theorem isAbsolute_dotsAsSeparators (h : (⟨name⟩ : Path).isAbsolute = false) :
    (⟨dotsAsSeparators name⟩ : Path).isAbsolute = true ↔ LeadingDot name := by
  have hroot : name.toList.head? ≠ some '/' := fun hhead ↦ by
    simp [Path.isAbsolute_iff.2 hhead] at h
  rw [Path.isAbsolute_iff, head?_dotsAsSeparators, LeadingDot]
  cases hhead : name.toList.head? with
  | none => simp
  | some c =>
    rw [hhead] at hroot
    by_cases hc : c = '.' <;> simp_all

theorem tried_of_not_isMacroName (hname : ¬IsMacroName name) :
    tried name (.directory dir) =
      [dir.join ⟨name⟩, dir.join ⟨name ++ ".lua"⟩, dir.join ⟨dotsAsSeparators name ++ ".lua"⟩,
        (dir.join ⟨dotsAsSeparators name⟩).join ⟨"init.lua"⟩] := by
  rw [← namesMacro_iff] at hname
  rw [tried, if_neg hname]
  rfl

/-! ### Files below the directory -/

/-- Without a dot in front all files lie below the directory. -/
theorem forall_tried_startsWith (h : (⟨name⟩ : Path).isAbsolute = false)
    (hdot : ¬LeadingDot name) : ∀ p ∈ tried name (.directory dir), p.startsWith dir = true := by
  have hlua : (⟨".lua"⟩ : Path).isAbsolute = false := by decide
  have hdots : (⟨dotsAsSeparators name⟩ : Path).isAbsolute = false := by
    simpa using mt (isAbsolute_dotsAsSeparators h).1 hdot
  by_cases hname : IsMacroName name
  · simp [tried, namesMacro_iff.2 hname]
  · rw [tried_of_not_isMacroName hname]
    have hinit : (⟨"init.lua"⟩ : Path).isAbsolute = false := by decide
    simp only [List.forall_mem_cons]
    refine ⟨?_, ?_, ?_, ?_, List.forall_mem_nil _⟩
    · exact dir.startsWith_join h
    · exact dir.startsWith_join (isAbsolute_append h hlua)
    · exact dir.startsWith_join (isAbsolute_append hdots hlua)
    · exact Path.startsWith_trans (Path.startsWith_join _ hinit) (dir.startsWith_join hdots)

/-- With a dot in front the last two files do not depend on the directory. -/
theorem tried_of_leadingDot (h : (⟨name⟩ : Path).isAbsolute = false) (hdot : LeadingDot name)
    (hname : ¬IsMacroName name) :
    tried name (.directory dir) =
      [dir.join ⟨name⟩, dir.join ⟨name ++ ".lua"⟩, ⟨dotsAsSeparators name ++ ".lua"⟩,
        (⟨dotsAsSeparators name⟩ : Path).join ⟨"init.lua"⟩] := by
  have hdots := (isAbsolute_dotsAsSeparators h).2 hdot
  have hlua : (⟨dotsAsSeparators name ++ ".lua"⟩ : Path).isAbsolute = true := by
    rw [Path.isAbsolute_iff] at hdots ⊢
    rw [String.toList_append, List.head?_append, hdots]
    rfl
  rw [tried_of_not_isMacroName hname, Path.join_of_isAbsolute hdots, Path.join_of_isAbsolute hlua]

/-- A module that a strategy for files finds is one of the files that it tries. -/
theorem origin_of_firstModule {d : FileState} {ps : List Path} {found : FoundModule}
    (h : d.firstModule ps none = .ok (some found)) : ∃ p ∈ ps, found.origin = .file p := by
  rcases d.exists_firstFile_or ps with ⟨p, hp⟩ | hnone
  · rw [FileState.firstModule_of_firstFile hp] at h
    refine ⟨p, List.mem_of_find?_eq_some (FileState.firstFile_iff.1 hp), ?_⟩
    cases hread : d.read p with
    | error fault => simp [FileState.moduleIn, hread, Except.map] at h
    | ok source =>
      simp only [FileState.moduleIn, hread, Except.map, Except.ok.injEq, Option.some.injEq] at h
      rw [← h]
  · rw [FileState.firstModule_of_forall hnone] at h
    cases h

/-- **Files below a search directory.** All files that are tried for a relative name lie below the
directory, unless the name starts with a dot: then two of them do not depend on the directory, and
it takes an accident for both to lie below it. A module that is found is in one of these files. -/
theorem forall_tried_startsWith_iff (dir : Path) (name : String)
    (h : (⟨name⟩ : Path).isAbsolute = false) :
    ((∀ p ∈ tried name (.directory dir), p.startsWith dir = true) ↔
      IsMacroName name ∨ ¬LeadingDot name ∨
        ∀ p ∈ [⟨dotsAsSeparators name ++ ".lua"⟩,
          (⟨dotsAsSeparators name⟩ : Path).join ⟨"init.lua"⟩], p.startsWith dir = true) ∧
    ∀ {m : Type → Type} [Monad m] [LawfulMonad m] {σ : Type} (fs : FileSystem (StateT σ m))
      (view : σ → FileState), fs.AnswersFrom view → ∀ (r : ModuleResolver) (s : σ),
      (search fs r name (.directory dir)).run s =
          pure ((view s).firstModule (tried name (.directory dir)) none, s) ∧
        ∀ found, (view s).firstModule (tried name (.directory dir)) none = .ok (some found) →
          ∃ p ∈ tried name (.directory dir), found.origin = .file p := by
  refine ⟨?_, fun fs view hfs r s ↦ ⟨search_run hfs s nofun, fun _ ↦ origin_of_firstModule⟩⟩
  by_cases hname : IsMacroName name
  · simp [hname, tried, namesMacro_iff.2 hname]
  · by_cases hdot : LeadingDot name
    · rw [tried_of_leadingDot h hdot hname]
      have hpath := dir.startsWith_join h
      have hending : (⟨".lua"⟩ : Path).isAbsolute = false := by decide
      have hlua := dir.startsWith_join (isAbsolute_append h hending)
      simp [hname, hdot, hpath, hlua]
    · exact iff_of_true (forall_tried_startsWith h hdot) (.inr (.inl hdot))

/-- Files of which one is outside of every relative directory. -/
def outside : FileState where
  kind? p := if p.text = "/etc/x.lua" then some .file else none
  read _ := .ok "return 1".toUTF8

/-- The name `.etc.x` is relative, leads out of `lib`, and is found there. -/
theorem forall_tried_startsWith_iff_dot : (⟨".etc.x"⟩ : Path).isAbsolute = false ∧
    (¬∀ p ∈ tried ".etc.x" (.directory ⟨"lib"⟩), p.startsWith ⟨"lib"⟩ = true) ∧
    (still outside).AnswersFrom (fun _ ↦ outside) ∧
    (search (still outside) ⟨[⟨"lib"⟩], none⟩ ".etc.x" (.directory ⟨"lib"⟩)).run () =
      pure (.ok (some ⟨"@/etc/x.lua", "return 1".toUTF8, .file ⟨"/etc/x.lua"⟩⟩), ()) := by
  obtain ⟨hiff, hfound⟩ := forall_tried_startsWith_iff ⟨"lib"⟩ ".etc.x" (by decide)
  refine ⟨by decide, fun hall ↦ ?_, still_answersFrom outside, ?_⟩
  · rcases hiff.1 hall with h | h | h
    · rw [← namesMacro_iff] at h
      exact absurd h (by decide)
    · exact h rfl
    · exact absurd (h _ (List.mem_cons_self ..)) (by decide +kernel)
  · have hfile : outside.FirstFile (tried ".etc.x" (.directory ⟨"lib"⟩)) ⟨"/etc/x.lua"⟩ := by
      rw [FileState.firstFile_iff]
      decide +kernel
    rw [(hfound (still outside) _ (still_answersFrom outside) _ ()).1,
      FileState.firstModule_of_firstFile hfile]
    rfl

end ModuleResolver

end MacroStream
