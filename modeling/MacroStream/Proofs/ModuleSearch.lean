import MacroStream.ModuleResolver

/-!
# What module names mean

Which module a name means, said without a search: `Means` relates names to outcomes by the order of
the places where a module may be, and knows nothing of strategies. The search comes to the one
outcome that the name means.

A file system is asked more than once during a search, so something has to be said of what it
answers meanwhile: `AnswersFrom` says that its answers come from a state, which asking leaves as it
is. The state is any function from paths to what they lead to and to what reading them gives; the
two need not agree, so a file may be there that cannot be read.
-/

namespace MacroStream

/-! ### States of a file system -/

/-- What the paths of a file system lead to, and what reading them gives. -/
structure FileState where
  kind? : Path → Option FileKind
  read : Path → Except FileFault ByteArray

namespace FileState

variable (d : FileState)

/-- Whether a path leads to a regular file. -/
def isFile (p : Path) : Bool := d.kind? p == some .file

/-- `p` is the first of some paths that leads to a regular file. -/
def FirstFile (ps : List Path) (p : Path) : Prop :=
  d.isFile p = true ∧ ∃ before after, ps = before ++ p :: after ∧ ∀ q ∈ before, d.isFile q = false

variable {d}

theorem firstFile_iff {ps : List Path} {p : Path} :
    d.FirstFile ps p ↔ ps.find? d.isFile = some p := by
  simp [FirstFile, List.find?_eq_some_iff_append]

/-- The module in a file. -/
def moduleIn (d : FileState) (p : Path) : Outcome FoundModule :=
  match d.read p with
  | .ok source => .ok ⟨"@" ++ p.text, source, .file p⟩
  | .error fault => .error (.io fault.message)

/-- The module in the first of some files, or `rest` if there is no file. -/
def firstModule (d : FileState) (ps : List Path) (rest : Option FoundModule) :
    Outcome (Option FoundModule) :=
  match ps.find? d.isFile with
  | some p => (d.moduleIn p).map some
  | none => .ok rest

theorem moduleIn_eq_error_iff {p : Path} {e : EngineError} :
    d.moduleIn p = .error e ↔ ∃ fault, d.read p = .error fault ∧ e = .io fault.message := by
  cases h : d.read p <;> simp [moduleIn, h, eq_comm]

variable {ps : List Path} {rest : Option FoundModule}

theorem firstModule_of_firstFile {p : Path} (hp : d.FirstFile ps p) :
    d.firstModule ps rest = (d.moduleIn p).map some := by
  rw [firstModule, firstFile_iff.1 hp]

theorem firstModule_of_forall (h : ∀ p ∈ ps, d.isFile p = false) :
    d.firstModule ps rest = .ok rest := by
  rw [firstModule, List.find?_eq_none.2 fun p hp ↦ by simp [h p hp]]

/-- Some paths have a first file, or none of them leads to a file. -/
theorem exists_firstFile_or (d : FileState) (ps : List Path) :
    (∃ p, d.FirstFile ps p) ∨ ∀ p ∈ ps, d.isFile p = false := by
  cases hp : ps.find? d.isFile with
  | some p => exact .inl ⟨p, firstFile_iff.2 hp⟩
  | none => exact .inr fun p hmem ↦ by simpa using List.find?_eq_none.1 hp p hmem

theorem firstModule_eq_error_iff {e : EngineError} :
    d.firstModule ps rest = .error e ↔
      ∃ p fault, d.FirstFile ps p ∧ d.read p = .error fault ∧ e = .io fault.message := by
  constructor
  · intro he
    rcases d.exists_firstFile_or ps with ⟨p, hp⟩ | hnone
    · have hmodule : d.moduleIn p = .error e := by
        rw [firstModule_of_firstFile hp] at he
        cases h : d.moduleIn p <;> simp_all [Except.map]
      obtain ⟨fault, hread, he⟩ := moduleIn_eq_error_iff.1 hmodule
      exact ⟨p, fault, hp, hread, he⟩
    · rw [firstModule_of_forall hnone] at he
      exact nomatch he
  · rintro ⟨p, fault, hp, hread, rfl⟩
    rw [firstModule_of_firstFile hp, moduleIn_eq_error_iff.2 ⟨fault, hread, rfl⟩]
    rfl

theorem firstModule_eq_none_iff :
    d.firstModule ps rest = .ok none ↔ (∀ p ∈ ps, d.isFile p = false) ∧ rest = none := by
  constructor
  · intro h
    rcases d.exists_firstFile_or ps with ⟨p, hp⟩ | hnone
    · rw [firstModule_of_firstFile hp] at h
      cases hmodule : d.moduleIn p <;> simp [hmodule, Except.map] at h
    · rw [firstModule_of_forall hnone] at h
      exact ⟨hnone, Except.ok.inj h⟩
  · rintro ⟨hnone, rfl⟩
    exact firstModule_of_forall hnone

end FileState

/-- The answers of a file system come from a state, and asking leaves the state as it is. -/
structure FileSystem.AnswersFrom {m : Type → Type} [Monad m] {σ : Type}
    (fs : FileSystem (StateT σ m)) (view : σ → FileState) : Prop where
  kind?_run : ∀ p s, (fs.kind? p).run s = pure ((view s).kind? p, s)
  read_run : ∀ p s, (fs.read p).run s = pure ((view s).read p, s)

namespace ModuleResolver

/-! ### Meanings -/

/-- The name with its dots as separators. -/
def dotsAsSeparators (name : String) : String := name.map fun c ↦ if c = '.' then '/' else c

/-- The files that a name may mean: the name itself when it is a path from the root, and then four
files below each directory. -/
def places (dirs : List Path) (name : String) : List Path :=
  (if (⟨name⟩ : Path).isAbsolute then [⟨name⟩] else []) ++ dirs.flatMap fun dir ↦
    [dir.join ⟨name⟩, dir.join ⟨name ++ ".lua"⟩, dir.join ⟨dotsAsSeparators name ++ ".lua"⟩,
      (dir.join ⟨dotsAsSeparators name⟩).join ⟨"init.lua"⟩]

/-- The module that the macro stored under `key` is. -/
def macroUnder (r : ModuleResolver) (key : String) : Option FoundModule :=
  (r.store.bind fun store ↦ store.get? key).map fun text ↦
    ⟨macroChunkName key, text.toUTF8, .storedMacro key⟩

/-- The name means a stored macro only. -/
def IsMacroName (name : String) : Prop := ∃ stem, name = stem ++ ".macro"

/-- What a name means while the files are in the state `d`. -/
inductive Means (d : FileState) (r : ModuleResolver) : String → Outcome (Option FoundModule) → Prop
  /-- The files are not asked for a name with the ending of macros. -/
  | stored (stem : String) : Means d r (stem ++ ".macro") (.ok (r.macroUnder stem))
  /-- The first file is taken, whether it can be read or not. -/
  | inFile {name : String} {p : Path} (hname : ¬IsMacroName name)
    (hp : d.FirstFile (places r.searchPaths name) p) : Means d r name ((d.moduleIn p).map some)
  /-- Without a file the name is that of a stored macro. -/
  | noFile {name : String} (hname : ¬IsMacroName name)
    (h : ∀ p ∈ places r.searchPaths name, d.isFile p = false) :
    Means d r name (.ok (r.macroUnder name))

/-! ### Names of macros -/

variable {r : ModuleResolver} {name : String}

theorem namesMacro_iff : namesMacro name = true ↔ IsMacroName name := by
  rw [namesMacro, List.isSuffixOf_iff_suffix]
  constructor
  · rintro ⟨cs, hcs⟩
    refine ⟨String.ofList cs, String.toList_injective ?_⟩
    rw [String.toList_append, String.toList_ofList, ← hcs]
    rfl
  · rintro ⟨stem, rfl⟩
    exact ⟨stem.toList, (String.toList_append).symm⟩

theorem macroName_append (stem : String) : macroName (stem ++ ".macro") = stem := by
  rw [macroName, if_pos (namesMacro_iff.2 ⟨stem, rfl⟩), String.toList_append, List.length_append]
  simp [macroEnding]

theorem macroName_of_not (hname : ¬IsMacroName name) : macroName name = name := by
  rw [macroName, if_neg (mt namesMacro_iff.1 hname)]

theorem eq_of_append_ending {stem stem' : String} (h : stem ++ ".macro" = stem' ++ ".macro") :
    stem = stem' := by
  rw [← macroName_append stem, h, macroName_append]

theorem storedModule?_eq : r.storedModule? name = r.macroUnder (macroName name) := by
  obtain ⟨dirs, _ | store⟩ := r
  · rfl
  · cases h : store.get? (macroName name) <;> simp [storedModule?, macroUnder, h]

/-! ### The search -/

/-- The files that a strategy tries for a name. -/
def tried (name : String) (s : SearchStrategy) : List Path :=
  if namesMacro name then [] else filesOf name s

theorem flatMap_tried (hname : ¬IsMacroName name) :
    (SearchStrategy.absolutePath :: r.searchPaths.map .directory).flatMap (tried name) =
      places r.searchPaths name := by
  rw [← namesMacro_iff] at hname
  simp only [List.flatMap_cons, List.flatMap_map, tried, if_neg hname, filesOf, places]
  rfl

theorem flatMap_tried_of_isMacroName (hname : IsMacroName name) (strategies : List SearchStrategy) :
    strategies.flatMap (tried name) = [] := by
  rw [← namesMacro_iff] at hname
  simp [tried, hname]

section Search

variable {m : Type → Type} [Monad m] [LawfulMonad m] {σ : Type} {fs : FileSystem (StateT σ m)}
  {view : σ → FileState} (h : fs.AnswersFrom view) (s : σ)

theorem searchAll_store_run (fs : FileSystem (StateT σ m)) (s : σ) :
    (searchAll fs r name (if r.store.isSome then [.store] else [])).run s =
      pure (.ok (r.storedModule? name), s) := by
  rcases hstore : r.store with _ | store
  · simp [searchAll, storedModule?, hstore]
  · cases hmodule : r.storedModule? name <;> simp [searchAll, search, hmodule]

include h

theorem firstFile?_run (ps : List Path) :
    (firstFile? fs ps).run s = pure (ps.find? (view s).isFile, s) := by
  induction ps with
  | nil => rfl
  | cons p ps ih =>
    have hfile : (fs.isFile p).run s = pure ((view s).isFile p, s) := by
      simp [FileSystem.isFile, h.kind?_run, FileState.isFile]
    cases hp : (view s).isFile p <;> simp [firstFile?, hfile, hp, ih]

theorem fileModule_run (p : Path) :
    (fileModule fs p).run s = pure ((view s).moduleIn p, s) := by
  cases hp : (view s).read p <;> simp [fileModule, h.read_run, FileState.moduleIn, hp]

theorem firstModule?_run (ps : List Path) :
    (firstModule? fs ps).run s = pure ((view s).firstModule ps none, s) := by
  cases hp : ps.find? (view s).isFile <;>
    simp [firstModule?, firstFile?_run h, fileModule_run h, FileState.firstModule, hp]

theorem search_run {strategy : SearchStrategy} (hs : strategy ≠ .store) :
    (search fs r name strategy).run s =
      pure ((view s).firstModule (tried name strategy) none, s) := by
  cases strategy with
  | store => exact absurd rfl hs
  | absolutePath | directory dir =>
    by_cases hname : namesMacro name = true
    · simp [search, tried, hname, FileState.firstModule]
    · simp [search, tried, hname, firstModule?_run h]

/-- Strategies for files come to the first file that one of them tries. -/
theorem searchAll_run {strategies : List SearchStrategy} (hs : .store ∉ strategies)
    (rest : List SearchStrategy) :
    (searchAll fs r name (strategies ++ rest)).run s =
      match (strategies.flatMap (tried name)).find? (view s).isFile with
      | some p => pure (((view s).moduleIn p).map some, s)
      | none => (searchAll fs r name rest).run s := by
  induction strategies with
  | nil => rfl
  | cons strategy strategies ih =>
    obtain ⟨hne, hs⟩ := not_or.1 (mt List.mem_cons.2 hs)
    rw [List.cons_append, searchAll, StateT.run_bind, search_run h s (Ne.symm hne), pure_bind,
      List.flatMap_cons, List.find?_append, FileState.firstModule]
    cases hp : (tried name strategy).find? (view s).isFile with
    | none => exact ih hs
    | some p => cases hmodule : (view s).moduleIn p <;> simp [hmodule, Except.map]

theorem resolve_run :
    (r.resolve fs name).run s =
      pure ((view s).firstModule
        ((SearchStrategy.absolutePath :: r.searchPaths.map .directory).flatMap (tried name))
        (r.storedModule? name), s) := by
  rw [resolve, strategies, searchAll_run h s (by simp), searchAll_store_run fs,
    FileState.firstModule]
  split <;> rfl

end Search

/-! ### The meaning of a name -/

variable {d : FileState}

/-- What a name means, when it is no name of a macro. -/
theorem means_iff_of_not_isMacroName (hname : ¬IsMacroName name)
    {o : Outcome (Option FoundModule)} :
    r.Means d name o ↔ o = d.firstModule (places r.searchPaths name) (r.macroUnder name) := by
  constructor
  · rintro (stem | ⟨-, hp⟩ | ⟨-, hnone⟩)
    · exact absurd ⟨stem, rfl⟩ hname
    · exact (FileState.firstModule_of_firstFile hp).symm
    · exact (FileState.firstModule_of_forall hnone).symm
  · rintro rfl
    rcases d.exists_firstFile_or (places r.searchPaths name) with ⟨p, hp⟩ | hnone
    · rw [FileState.firstModule_of_firstFile hp]
      exact .inFile hname hp
    · rw [FileState.firstModule_of_forall hnone]
      exact .noFile hname hnone

theorem means_append_iff (stem : String) {o : Outcome (Option FoundModule)} :
    r.Means d (stem ++ ".macro") o ↔ o = .ok (r.macroUnder stem) := by
  constructor
  · intro h
    generalize hname : stem ++ ".macro" = name at h
    cases h with
    | stored stem' => rw [eq_of_append_ending hname]
    | inFile hnot | noFile hnot => exact absurd ⟨stem, hname.symm⟩ hnot
  · rintro rfl
    exact .stored stem

/-- **What a module name comes to.** In every state of the files the search has one outcome, which
is the one that the name means, and leaves the state as it is. It fails exactly if the first file
that the name may mean cannot be read, and finds nothing exactly if there is no such file and no
macro. -/
theorem resolve_means {m : Type → Type} [Monad m] [LawfulMonad m] {σ : Type}
    (fs : FileSystem (StateT σ m)) (view : σ → FileState) (h : fs.AnswersFrom view)
    (r : ModuleResolver) (name : String) (s : σ) :
    ∃ o, (r.resolve fs name).run s = pure (o, s) ∧
      (∀ o', r.Means (view s) name o' ↔ o' = o) ∧
      (∀ e, o = .error e ↔ ¬IsMacroName name ∧ ∃ p fault,
        (view s).FirstFile (places r.searchPaths name) p ∧ (view s).read p = .error fault ∧
          e = .io fault.message) ∧
      (o = .ok none ↔
        (∃ stem, name = stem ++ ".macro" ∧ r.macroUnder stem = none) ∨
        ¬IsMacroName name ∧ (∀ p ∈ places r.searchPaths name, (view s).isFile p = false) ∧
          r.macroUnder name = none) := by
  by_cases hname : IsMacroName name
  · obtain ⟨stem, rfl⟩ := hname
    have hname : IsMacroName (stem ++ ".macro") := ⟨stem, rfl⟩
    refine ⟨.ok (r.macroUnder stem), ?_, fun o' ↦ means_append_iff stem, ?_, ?_⟩
    · rw [resolve_run h, flatMap_tried_of_isMacroName hname, storedModule?_eq, macroName_append]
      rfl
    · simp [hname]
    · constructor
      · exact fun hnone ↦ .inl ⟨stem, rfl, Except.ok.inj hnone⟩
      · rintro (⟨stem', heq, hnone⟩ | ⟨hnot, -⟩)
        · rw [eq_of_append_ending heq, hnone]
        · exact absurd hname hnot
  · refine ⟨_, ?_, fun o' ↦ means_iff_of_not_isMacroName hname, fun e ↦ ?_, ?_⟩
    · rw [resolve_run h, flatMap_tried hname, storedModule?_eq, macroName_of_not hname]
    · rw [FileState.firstModule_eq_error_iff, and_iff_right hname]
    · rw [FileState.firstModule_eq_none_iff, and_iff_right hname, or_iff_right]
      exact fun ⟨stem, heq, _⟩ ↦ hname ⟨stem, heq⟩

/-- Files of which one is there and cannot be read. -/
def lockedUtil : FileState where
  kind? p := if p.text = "lib/util.lua" ∨ p.text = "more/util" then some .file else none
  read p := if p.text = "lib/util.lua" then .error .denied else .ok "return 1".toUTF8

/-- A file system that stands still. -/
def still (d : FileState) : FileSystem (StateT Unit Id) where
  kind? p := pure (d.kind? p)
  read p := pure (d.read p)
  list _ := pure (.error .denied)
  write _ _ _ := pure (.error .denied)
  makeDirectory _ := pure (.error .denied)
  remove _ := pure (.error .denied)
  rename _ _ := pure (.error .denied)

theorem still_answersFrom (d : FileState) : (still d).AnswersFrom fun _ ↦ d :=
  ⟨fun _ _ ↦ rfl, fun _ _ ↦ rfl⟩

/-- A file that cannot be read hides the file in the next directory and the stored macro. -/
theorem resolve_means_locked : LawfulMonad Id ∧
    (still lockedUtil).AnswersFrom (fun _ ↦ lockedUtil) ∧
    ∃ o, ((⟨[⟨"lib"⟩, ⟨"more"⟩], some (MacroStore.ofList [("util", "return 2")])⟩ :
        ModuleResolver).resolve (still lockedUtil) "util").run () = pure (o, ()) ∧
      o = .error (.io "Permission denied (os error 13)") := by
  refine ⟨inferInstance, still_answersFrom lockedUtil, ?_⟩
  obtain ⟨o, ho, -, herror, -⟩ := resolve_means (still lockedUtil) _ (still_answersFrom lockedUtil)
    ⟨[⟨"lib"⟩, ⟨"more"⟩], some (MacroStore.ofList [("util", "return 2")])⟩ "util" ()
  refine ⟨o, ho, (herror _).2 ⟨?_, ⟨"lib/util.lua"⟩, .denied, ?_, ?_, ?_⟩⟩
  · rw [← namesMacro_iff]
    decide
  · rw [FileState.firstFile_iff]
    decide
  · simp [lockedUtil]
  · decide

end ModuleResolver

end MacroStream
