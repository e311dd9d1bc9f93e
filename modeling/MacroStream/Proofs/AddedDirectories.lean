import MacroStream.Proofs.ModuleSearch
import MacroStream.Script.Session

/-!
# Directories behind others

Search directories are asked in order, and the stored macros come after all of them. So a directory
that is added behind the others is asked only for what is in none of them: it can hide a stored
macro, but never a file. A directory that is there already makes no difference at all when it is
added once more, since whatever it has was found before.

The environment adds directories to a configuration in this way. Applying it a second time adds the
same directories again, and so changes nothing that is found.
-/

namespace MacroStream

/-- The outcome of a search comes from a file, either the module in it or the reason why it cannot
be read. -/
def FromFile (o : Outcome (Option FoundModule)) : Prop :=
  (∃ found p, o = .ok (some found) ∧ found.origin = .file p) ∨ ∃ message, o = .error (.io message)

namespace FileState

variable {d : FileState} {ps qs : List Path} {rest : Option FoundModule}

/-- Behind a first file nothing is looked at. -/
theorem firstModule_append_of_firstFile {p : Path} (hp : d.FirstFile ps p) (qs : List Path) :
    d.firstModule (ps ++ qs) rest = d.firstModule ps rest := by
  have hp' : d.FirstFile (ps ++ qs) p := by
    rw [firstFile_iff, List.find?_append, firstFile_iff.1 hp, Option.some_or]
  rw [firstModule_of_firstFile hp, firstModule_of_firstFile hp']

/-- Paths that were tried before find nothing new. -/
theorem firstModule_append_of_subset (hqs : qs ⊆ ps) :
    d.firstModule (ps ++ qs) rest = d.firstModule ps rest := by
  rcases d.exists_firstFile_or ps with ⟨p, hp⟩ | hnone
  · exact firstModule_append_of_firstFile hp qs
  · have hnone' : ∀ p ∈ ps ++ qs, d.isFile p = false := by
      intro p hp
      rcases List.mem_append.1 hp with hp | hp
      · exact hnone p hp
      · exact hnone p (hqs hp)
    rw [firstModule_of_forall hnone, firstModule_of_forall hnone']

/-- What comes from a file comes from the first one, unless it is what is taken without a file. -/
theorem exists_firstFile_of_fromFile (hrest : ¬FromFile (.ok rest))
    (h : FromFile (d.firstModule ps rest)) : ∃ p, d.FirstFile ps p := by
  rcases d.exists_firstFile_or ps with hp | hnone
  · exact hp
  · rw [firstModule_of_forall hnone] at h
    exact absurd h hrest

end FileState

namespace ModuleResolver

variable {d : FileState} {name : String} {dirs added : List Path} {store : Option StoredMacros}

/-- A stored macro is not in a file. -/
theorem not_fromFile_storedModule? (r : ModuleResolver) (name : String) :
    ¬FromFile (.ok (r.storedModule? name)) := by
  rintro (⟨found, p, hfound, horigin⟩ | ⟨message, herror⟩)
  · rw [storedModule?_eq, macroUnder] at hfound
    obtain ⟨text, -, rfl⟩ := Option.map_eq_some_iff.1 (Except.ok.inj hfound)
    cases horigin
  · cases herror

/-- The files that are tried for a name, strategy by strategy. -/
def filesTried (dirs : List Path) (name : String) : List Path :=
  (SearchStrategy.absolutePath :: dirs.map .directory).flatMap (tried name)

/-- What a resolver comes to while the files are in the state `d`. -/
def outcome (d : FileState) (r : ModuleResolver) (name : String) : Outcome (Option FoundModule) :=
  d.firstModule (filesTried r.searchPaths name) (r.storedModule? name)

theorem filesTried_append (dirs added : List Path) (name : String) :
    filesTried (dirs ++ added) name =
      filesTried dirs name ++ (added.map SearchStrategy.directory).flatMap (tried name) := by
  rw [filesTried, filesTried, List.map_append, ← List.cons_append, List.flatMap_append]

/-- Directories that are there already have their files tried already. -/
theorem flatMap_tried_subset (h : added ⊆ dirs) (name : String) :
    (added.map SearchStrategy.directory).flatMap (tried name) ⊆ filesTried dirs name := by
  intro p hp
  obtain ⟨strategy, hstrategy, hp⟩ := List.mem_flatMap.1 hp
  obtain ⟨dir, hdir, rfl⟩ := List.mem_map.1 hstrategy
  have hmem : SearchStrategy.directory dir ∈ SearchStrategy.absolutePath :: dirs.map .directory :=
    List.mem_cons_of_mem _ (List.mem_map_of_mem (h hdir))
  exact List.mem_flatMap.2 ⟨_, hmem, hp⟩

/-- What was found in a file is found in the same file with more directories behind. -/
theorem outcome_append_of_fromFile (h : FromFile (outcome d ⟨dirs, store⟩ name)) :
    outcome d ⟨dirs ++ added, store⟩ name = outcome d ⟨dirs, store⟩ name := by
  obtain ⟨p, hp⟩ := FileState.exists_firstFile_of_fromFile (not_fromFile_storedModule? _ name) h
  show d.firstModule (filesTried (dirs ++ added) name) _ = _
  rw [filesTried_append]
  exact FileState.firstModule_append_of_firstFile hp _

/-- Directories that are there already make no difference. -/
theorem outcome_append_of_subset (h : added ⊆ dirs) :
    outcome d ⟨dirs ++ added, store⟩ name = outcome d ⟨dirs, store⟩ name := by
  show d.firstModule (filesTried (dirs ++ added) name) _ = _
  rw [filesTried_append]
  exact FileState.firstModule_append_of_subset (flatMap_tried_subset h name)

/-! ### What the environment adds -/

open Script

/-- The directories that the environment names. -/
def environmentDirectories (env : String → Option String) : List Path :=
  ((env Config.pathsVariable).elim [] Config.splitPaths).map Path.mk

theorem resolver_withEnvironment (env : String → Option String) (c : Config)
    (store : Option StoredMacros) :
    Session.resolver (c.withEnvironment env).scripting store =
      ⟨(Session.resolver c.scripting store).searchPaths ++ environmentDirectories env, store⟩ := by
  show (⟨(c.scripting.extraModuleSearchPaths ++ _).map Path.mk, store⟩ : ModuleResolver) = _
  rw [List.map_append]
  rfl

/-- **Directories that are added.** What was found in a file, or failed there, stays as it is when
directories are added behind the others, and directories that are there already change nothing. So
the environment, which leaves the configured directories in front, hides no file, and applying it
twice finds the same modules as applying it once. -/
theorem resolve_append_directories {m : Type → Type} [Monad m] [LawfulMonad m] {σ : Type}
    (fs : FileSystem (StateT σ m)) (view : σ → FileState) (h : fs.AnswersFrom view)
    (store : Option StoredMacros) (name : String) (s : σ) :
    (∀ dirs added : List Path, ∃ o o',
      ((⟨dirs, store⟩ : ModuleResolver).resolve fs name).run s = pure (o, s) ∧
      ((⟨dirs ++ added, store⟩ : ModuleResolver).resolve fs name).run s = pure (o', s) ∧
      (FromFile o → o' = o) ∧ (added ⊆ dirs → o' = o)) ∧
    ∀ (env : String → Option String) (c : Config),
      c.scripting.extraModuleSearchPaths <+:
        (c.withEnvironment env).scripting.extraModuleSearchPaths ∧
      ∃ o o',
        ((Session.resolver c.scripting store).resolve fs name).run s = pure (o, s) ∧
        ((Session.resolver (c.withEnvironment env).scripting store).resolve fs name).run s =
          pure (o', s) ∧
        ((Session.resolver ((c.withEnvironment env).withEnvironment env).scripting store).resolve
          fs name).run s = pure (o', s) ∧
        (FromFile o → o' = o) := by
  have hrun (r : ModuleResolver) :
      (r.resolve fs name).run s = pure (outcome (view s) r name, s) := resolve_run h s
  constructor
  · intro dirs added
    exact ⟨_, _, hrun _, hrun _, outcome_append_of_fromFile, outcome_append_of_subset⟩
  · intro env c
    have honce := resolver_withEnvironment env c store
    have htwice := resolver_withEnvironment env (c.withEnvironment env) store
    refine ⟨List.prefix_append .., _, _, hrun _, hrun _, ?_, fun hfile ↦ ?_⟩
    · -- The second time only directories are added that the first time has put there.
      have hsubset : environmentDirectories env ⊆
          (Session.resolver (c.withEnvironment env).scripting store).searchPaths := by
        rw [honce]
        exact List.subset_append_right _ _
      rw [hrun, htwice]
      exact congrArg (pure <| Prod.mk · s) (outcome_append_of_subset hsubset)
    · rw [honce]
      exact outcome_append_of_fromFile hfile

/-- The settings with one directory for modules. -/
def libConfig : Config := { scripting := { extraModuleSearchPaths := ["lib"] } }

/-- An environment that names a new directory and the one that is configured. -/
def moreEnvironment (name : String) : Option String :=
  if name = Config.pathsVariable then some "more:lib" else none

/-- A file that cannot be read is not replaced by the one in a directory of the environment. -/
theorem resolve_append_directories_locked :
    LawfulMonad Id ∧ (still lockedUtil).AnswersFrom (fun _ ↦ lockedUtil) ∧
      ∀ c ∈ [libConfig, libConfig.withEnvironment moreEnvironment,
          (libConfig.withEnvironment moreEnvironment).withEnvironment moreEnvironment],
        ((Session.resolver c.scripting none).resolve (still lockedUtil) "util").run () =
          pure (.error (.io "Permission denied (os error 13)"), ()) := by
  refine ⟨inferInstance, still_answersFrom lockedUtil, ?_⟩
  obtain ⟨-, henv⟩ := resolve_append_directories (still lockedUtil) _ (still_answersFrom lockedUtil)
    none "util" ()
  obtain ⟨-, o, o', hconfigured, honce, htwice, hsame⟩ := henv moreEnvironment libConfig
  have hlocked : ((Session.resolver libConfig.scripting none).resolve (still lockedUtil)
      "util").run () = pure (.error (.io "Permission denied (os error 13)"), ()) := by
    have hfile : lockedUtil.FirstFile (filesTried [⟨"lib"⟩] "util") ⟨"lib/util.lua"⟩ := by
      rw [FileState.firstFile_iff]
      decide
    rw [resolve_run (still_answersFrom lockedUtil)]
    exact congrArg (fun o ↦ (pure (o, ()) : Id _)) (FileState.firstModule_of_firstFile hfile)
  obtain rfl : o = .error (.io "Permission denied (os error 13)") :=
    congrArg Prod.fst (hconfigured.symm.trans hlocked)
  obtain rfl := hsame (.inr ⟨_, rfl⟩)
  intro c hc
  simp only [List.mem_cons, List.not_mem_nil, or_false] at hc
  rcases hc with rfl | rfl | rfl
  · exact hlocked
  · exact honce
  · exact htwice

end ModuleResolver

end MacroStream
