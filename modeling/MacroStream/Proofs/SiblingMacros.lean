import MacroStream.CommandLine
import MacroStream.Proofs.Always
import MacroStream.Proofs.ModuleSearch
import MacroStream.Proofs.Path
import MacroStream.Proofs.StoreOrder

/-!
# The macros next to a file

Which store the program makes of the files next to a macro. The directory is a `Folder`, which is
known by its entries, and everything is said by their names: `stemOf` is the name in the store, and
`loaded?` is the text that comes into it, if any. A platform `Shows` a folder at a path if this is
what its operations answer there; it may do what it likes besides.

The order in which the entries are listed matters only to files of one stem: of these the last one
counts.

The macro itself is left out where its path is spelled as its entry is. A path that is a name alone
never is (`IsBare`), so there the text of the macro itself is among the loaded ones.
-/

namespace MacroStream

open CommandLine

/-! ### Folders -/

/-- A directory that nobody changes: its entries as they are listed, what they are, and what reading
them gives. An entry at which the listing fails is passed over by the program, so it is none of
these; and names are texts, so nothing is said of an entry whose name is not well-formed UTF-8. -/
structure Folder where
  names : List String
  kind? : String → Option FileKind
  read : String → Except FileFault ByteArray
  isFileName : ∀ n ∈ names, Path.IsFileName n

/-- The name without its extension. -/
def stemOf (name : String) : String := String.ofList (Path.cutName name.toList).1

/-- The file is spelled as the entry of that name is, when the directory of the file is listed. -/
def SpelledAsEntry (file : Path) (name : String) : Prop :=
  file.parts = (directoryOf file).parts ++ [.name name.toList]

instance (file : Path) (name : String) : Decidable (SpelledAsEntry file name) :=
  inferInstanceAs (Decidable (_ = _))

namespace Folder

variable (F : Folder)

/-- The text of a regular file, if it is text and can be read. -/
def text? (name : String) : Option String :=
  match F.kind? name, F.read name with
  | some .file, .ok bytes => Text.decode? bytes
  | _, _ => none

/-- The text that an entry adds to the store for a macro file: none if the file is spelled as the
entry is, which no bare name is. -/
def loaded? (file : Path) (name : String) : Option String :=
  if SpelledAsEntry file name then none else F.text? name

/-- The macro of an entry, if the entry gives a text. -/
def keyed? (given : String → Option String) (name : String) : Option (String × String) :=
  (given name).map fun text ↦ (stemOf name, text)

/-- The store of all entries that give a text. -/
def storeOf (given : String → Option String) : MacroStore :=
  .ofList (F.names.filterMap (keyed? given))

/-- The store for a macro file. -/
def store (file : Path) : MacroStore := F.storeOf (F.loaded? file)

/-- The same directory, listed in another order. -/
structure Reorders (F' F : Folder) : Prop where
  names_perm : F'.names.Perm F.names
  kind?_eq : F'.kind? = F.kind?
  read_eq : F'.read = F.read

/-- Files of one stem that are loaded have the same text. -/
def StemsAgree (file : Path) : Prop :=
  ∀ n ∈ F.names, ∀ n' ∈ F.names, stemOf n = stemOf n' →
    ∀ text text', F.loaded? file n = some text → F.loaded? file n' = some text' → text = text'

/-- The last entry of that stem that gives a text gives this one. -/
def LastOf (given : String → Option String) (stem text : String) : Prop :=
  ∃ before n behind, F.names = before ++ n :: behind ∧ stemOf n = stem ∧ given n = some text ∧
    ∀ n' ∈ behind, stemOf n' = stem → given n' = none

variable {F} {file : Path} {n : String}

theorem text?_of_kind?_ne (h : F.kind? n ≠ some .file) : F.text? n = none := by
  rw [text?]
  split
  case h_1 hfile _ => exact absurd hfile h
  case h_2 => rfl

theorem loaded?_of_spelledAsEntry (h : SpelledAsEntry file n) : F.loaded? file n = none := if_pos h

theorem loaded?_of_not_spelledAsEntry (h : ¬SpelledAsEntry file n) :
    F.loaded? file n = F.text? n := if_neg h

theorem loaded?_of_text?_eq_none (h : F.text? n = none) : F.loaded? file n = none := by
  rw [loaded?, h, ite_self]

end Folder

/-- The platform answers as the folder at `dir` does, from every state of the invariant, which its
reports keep, too. -/
structure Platform.Shows {m : Type → Type} [Monad m] {σ : Type} (p : Platform (StateT σ m))
    (I : σ → Prop) (dir : Path) (F : Folder) : Prop where
  list_run : ∀ s, I s → Always (fun r ↦ r.1 = .ok F.names ∧ I r.2) ((p.files.list dir).run s)
  kind?_run : ∀ n ∈ F.names, ∀ s, I s →
    Always (fun r ↦ r.1 = F.kind? n ∧ I r.2) ((p.files.kind? (dir.join ⟨n⟩)).run s)
  read_run : ∀ n ∈ F.names, ∀ s, I s →
    Always (fun r ↦ r.1 = F.read n ∧ I r.2) ((p.files.read (dir.join ⟨n⟩)).run s)
  report_run : ∀ d s, I s → Always (fun r ↦ I r.2) ((p.report d).run s)

/-! ### Spellings -/

theorem stem?_join (dir : Path) {name : String} (h : Path.IsFileName name) :
    (dir.join ⟨name⟩).stem? = some (stemOf name) := by
  rw [Path.stem?, dir.fileName?_join h]
  rfl

theorem same_join_iff {file : Path} {name : String} (h : Path.IsFileName name) :
    ((directoryOf file).join ⟨name⟩).same file = true ↔ SpelledAsEntry file name := by
  rw [Path.same, beq_iff_eq, Path.parts_join_name _ h, SpelledAsEntry, eq_comm]

/-! ### Working through the entries -/

namespace CommandLine

section Working

variable {m : Type → Type} [Monad m] [LawfulMonad m] {σ : Type} {p : Platform (StateT σ m)}
  {I : σ → Prop} {file : Path} {F : Folder} (h : p.Shows I (directoryOf file) F)

include h

section Entry

variable {n : String} (hn : n ∈ F.names) {s : σ} (hs : I s)

include hn hs

theorem isFile_run : Always (fun r ↦ r.1 = (F.kind? n == some .file) ∧ I r.2)
    ((p.files.isFile ((directoryOf file).join ⟨n⟩)).run s) := by
  rw [FileSystem.isFile, StateT.run_bind]
  refine (h.kind?_run n hn s hs).bind fun r hr ↦ .pure ?_
  exact ⟨by rw [hr.1], hr.2⟩

/-- Reading a regular file as text gives the text of the entry, or a fault if it has none. -/
theorem readText_run (hfile : F.kind? n = some .file) :
    Always (fun r ↦ r.1.toOption = F.text? n ∧ I r.2)
      ((p.files.readText ((directoryOf file).join ⟨n⟩)).run s) := by
  rw [FileSystem.readText, StateT.run_bind]
  refine (h.read_run n hn s hs).bind fun ⟨answer, s'⟩ ⟨hanswer, hs'⟩ ↦ ?_
  change answer = F.read n at hanswer
  subst hanswer
  rw [Folder.text?, hfile]
  cases hread : F.read n with
  | error e => exact .pure ⟨rfl, hs'⟩
  | ok bytes =>
    dsimp only
    cases Text.decode? bytes with
    | none => exact .pure ⟨rfl, hs'⟩
    | some text => exact .pure ⟨rfl, hs'⟩

/-- One entry adds its macro, if it gives one. -/
theorem addSibling_run (es : List (String × String)) :
    Always (fun r ↦ r.1 = .ofList (es ++ (Folder.keyed? (F.loaded? file) n).toList) ∧ I r.2)
      ((addSibling p file (.ofList es) ((directoryOf file).join ⟨n⟩)).run s) := by
  have hname := F.isFileName n hn
  rw [addSibling, StateT.run_bind, Folder.keyed?]
  refine (isFile_run h hn hs).bind fun ⟨isFile, s'⟩ ⟨hisFile, hs'⟩ ↦ ?_
  change isFile = _ at hisFile
  change I s' at hs'
  subst hisFile
  -- What is no regular file, or the macro itself, is not even read.
  by_cases hfile : F.kind? n = some .file
  · by_cases hentry : SpelledAsEntry file n
    · have hsame := (same_join_iff hname).2 hentry
      rw [Folder.loaded?_of_spelledAsEntry hentry]
      simp only [hfile, hsame]
      exact .pure ⟨by simp, hs'⟩
    · have hsame := Bool.eq_false_iff.2 (mt (same_join_iff hname).1 hentry)
      rw [Folder.loaded?_of_not_spelledAsEntry hentry]
      simp only [hfile, hsame, stem?_join _ hname]
      rw [if_pos (by simp), StateT.run_bind]
      refine (readText_run h hn hs' hfile).bind fun ⟨answer, s''⟩ ⟨htext, hs''⟩ ↦ ?_
      rw [← htext]
      cases answer with
      | ok text => exact .pure ⟨(MacroStore.ofList_concat es (stemOf n, text)).symm, hs''⟩
      | error e =>
        -- The fault is reported, which may change the state, but not what the folder shows.
        dsimp only
        rw [StateT.run_bind]
        exact (h.report_run _ _ hs'').bind fun r hr ↦ .pure ⟨by simp [Except.toOption], hr⟩
  · have htext := Folder.text?_of_kind?_ne hfile
    rw [Folder.loaded?_of_text?_eq_none htext, if_neg (by simp [hfile])]
    exact .pure ⟨by simp, hs'⟩

end Entry

/-- Entries add their macros in the order in which they are listed. -/
theorem addSiblings_run {names : List String} (hnames : ∀ n ∈ names, n ∈ F.names)
    (es : List (String × String)) {s : σ} (hs : I s) :
    Always (fun r ↦ r.1 = .ofList (es ++ names.filterMap (Folder.keyed? (F.loaded? file))) ∧ I r.2)
      ((addSiblings p file (.ofList es)
        (names.map fun n ↦ (directoryOf file).join ⟨n⟩)).run s) := by
  induction names generalizing es s with
  | nil => exact .pure ⟨by simp, hs⟩
  | cons n names ih =>
    obtain ⟨hn, hnames⟩ := List.forall_mem_cons.1 hnames
    rw [List.map_cons, addSiblings, StateT.run_bind]
    refine (addSibling_run h hn hs es).bind fun ⟨store, s'⟩ ⟨hstore, hs'⟩ ↦ ?_
    change store = _ at hstore
    subst hstore
    refine (ih hnames _ hs').mono fun r hr ↦ ⟨?_, hr.2⟩
    rw [hr.1, List.append_assoc]
    cases hentry : Folder.keyed? (F.loaded? file) n <;> simp [hentry]

/-- The store is the one of the folder. -/
theorem siblingStore_run {s : σ} (hs : I s) :
    Always (fun r ↦ r.1 = F.store file ∧ I r.2) ((siblingStore p file).run s) := by
  rw [siblingStore, StateT.run_bind]
  refine (h.list_run s hs).bind fun ⟨answer, s'⟩ ⟨hanswer, hs'⟩ ↦ ?_
  change answer = _ at hanswer
  subst hanswer
  exact addSiblings_run h (fun n hn ↦ hn) [] hs'

end Working

end CommandLine

/-! ### The order of the entries -/

namespace Folder

variable {F : Folder} {file : Path} {given given' : String → Option String} {stem text : String}

theorem keyed?_eq_some_iff {n : String} :
    keyed? given n = some (stem, text) ↔ stemOf n = stem ∧ given n = some text := by
  cases hgiven : given n <;> simp [keyed?, hgiven]

/-- In a store every stem has the text of the last entry of that stem. -/
theorem get?_storeOf_eq_some_iff :
    (F.storeOf given).get? stem = some text ↔ F.LastOf given stem text := by
  have hlast (n : String) : (∀ other, keyed? given n ≠ some (stem, other)) ↔
      (stemOf n = stem → given n = none) := by
    simp only [ne_eq, keyed?_eq_some_iff, not_and, Option.eq_none_iff_forall_ne_some]
    exact forall_comm
  rw [storeOf, MacroStore.get?_ofList_filterMap_eq_some_iff]
  simp only [keyed?_eq_some_iff, hlast, LastOf, and_assoc]

/-- Only the entries of a stem matter to it. -/
theorem lastOf_congr (h : ∀ n, stemOf n = stem → given n = given' n) :
    F.LastOf given stem text ↔ F.LastOf given' stem text := by
  refine exists_congr fun before ↦ exists_congr fun n ↦ exists_congr fun behind ↦
    and_congr_right fun _ ↦ and_congr_right fun hstem ↦ ?_
  rw [h n hstem]
  refine and_congr_right fun _ ↦ forall₂_congr fun n' _ ↦ ?_
  exact forall_congr' fun hstem' ↦ by rw [h n' hstem']

theorem stemsAgree_iff :
    F.StemsAgree file ↔ MacroStore.OneText (F.names.filterMap (keyed? (F.loaded? file))) := by
  simp only [MacroStore.OneText, List.mem_filterMap, keyed?_eq_some_iff]
  constructor
  · rintro h stem text text' ⟨n, hn, rfl, htext⟩ ⟨n', hn', hstem, htext'⟩
    exact h n hn n' hn' hstem.symm text text' htext htext'
  · intro h n hn n' hn' hstem text text' htext htext'
    exact h (stemOf n) text text' ⟨n, hn, rfl, htext⟩ ⟨n', hn', hstem.symm, htext'⟩

/-- The folder with its entries listed in another order. -/
def relist (F : Folder) (names : List String) (h : names.Perm F.names) : Folder where
  names
  kind? := F.kind?
  read := F.read
  isFileName n hn := F.isFileName n (h.mem_iff.1 hn)

theorem relist_reorders {names : List String} (h : names.Perm F.names) :
    (F.relist names h).Reorders F := ⟨h, rfl, rfl⟩

theorem Reorders.eq_relist {F' : Folder} (h : F'.Reorders F) :
    F' = F.relist F'.names h.names_perm := by
  have hkind := h.kind?_eq
  have hread := h.read_eq
  obtain ⟨names, kind?, read, hnames⟩ := F'
  dsimp only at hkind hread
  subst hkind hread
  rfl

/-- The order does not matter exactly if the stems agree. -/
theorem forall_reorders_iff :
    (∀ F' : Folder, F'.Reorders F → (F'.store file).SameTexts (F.store file)) ↔
      F.StemsAgree file := by
  rw [stemsAgree_iff, ← MacroStore.sameTexts_reordered_iff]
  constructor
  · intro h names hnames
    exact h (F.relist names hnames) (relist_reorders hnames)
  · intro h F' hF'
    rw [hF'.eq_relist]
    exact h F'.names hF'.names_perm

/-- A platform on which every directory is this folder. -/
def platform (F : Folder) : Platform (StateT Unit Id) where
  files := { ModuleResolver.still
    { kind? := fun p ↦ p.fileName?.bind fun cs ↦ F.kind? (String.ofList cs)
      read := fun p ↦ p.fileName?.elim (.error .isDirectory) fun cs ↦ F.read (String.ofList cs) }
    with list := fun _ ↦ pure (.ok F.names) }
  report _ := pure ()
  print _ := pure ()
  printForScript _ _ := pure ()
  complain _ := pure ()
  environment _ := pure none
  time := pure 0
  clock := pure 0
  exit _ := pure ()

theorem platform_shows (F : Folder) (dir : Path) : F.platform.Shows (fun _ ↦ True) dir F where
  list_run _ _ := .pure ⟨rfl, trivial⟩
  kind?_run n hn s _ := .pure ⟨by simp [Path.fileName?_join dir (F.isFileName n hn)], trivial⟩
  read_run n hn s _ := .pure ⟨by simp [Path.fileName?_join dir (F.isFileName n hn)], trivial⟩
  report_run _ _ _ := .pure trivial

end Folder

namespace CommandLine

/-- **The store and the order of the directory.** Every platform that shows the folder makes its
store, in which a stem has the text of the last of its files. It is the same store in all orders
exactly if loaded files of one stem have the same text, and then the macro runs in the same
engine. -/
theorem siblingStore_reordered_iff (F : Folder) (file : Path) :
    (∀ {m : Type → Type} [Monad m] [LawfulMonad m] {σ : Type} (p : Platform (StateT σ m))
      (I : σ → Prop), p.Shows I (directoryOf file) F → ∀ s, I s →
        Always (fun r ↦ r.1 = F.store file ∧ I r.2) ((siblingStore p file).run s)) ∧
    (∀ stem text, (F.store file).get? stem = some text ↔
      F.LastOf (F.loaded? file) stem text) ∧
    ((∀ F' : Folder, F'.Reorders F → (F'.store file).SameTexts (F.store file)) ↔
      F.StemsAgree file) ∧
    (F.StemsAgree file → ∀ F' : Folder, F'.Reorders F →
      ∀ {m : Type → Type} [Monad m] (p : Platform m) (c : ScriptingConfig) (host : ScriptHost m),
        Script.macroEngine p c { host with store := some (F'.store file) } =
          Script.macroEngine p c { host with store := some (F.store file) }) := by
  refine ⟨fun p I h s hs ↦ siblingStore_run h hs, fun stem text ↦ Folder.get?_storeOf_eq_some_iff,
    Folder.forall_reorders_iff, fun hagree F' hF' m _ p c host ↦ ?_⟩
  have hsame : (F'.store file).SameTexts (F.store file) :=
    Folder.forall_reorders_iff.2 hagree F' hF'
  rw [hsame.toStoredMacros_eq]

/-- Two files of one stem with the given texts. -/
def twins (text : String → String) : Folder where
  names := ["a.lua", "a.txt"]
  kind? _ := some .file
  read n := .ok (text n).toUTF8
  isFileName := by decide

/-- The twins in the other order. -/
def twinsBack (text : String → String) : Folder :=
  (twins text).relist ["a.txt", "a.lua"] (List.Perm.swap ..)

/-- One text for all files. -/
def oneText (_ : String) : String := "1"

/-- A text that tells the twins apart. -/
def ownText (n : String) : String := if n = "a.lua" then "1" else "2"

/-- Twins with the same text may change places. -/
theorem siblingStore_reordered_iff_twins :
    (twins oneText).platform.Shows (fun _ ↦ True) (directoryOf ⟨"main.lua"⟩) (twins oneText) ∧
    Always (fun r ↦ r.1 = (twins oneText).store ⟨"main.lua"⟩ ∧ True)
      ((siblingStore (twins oneText).platform ⟨"main.lua"⟩).run ()) ∧
    (twinsBack oneText).Reorders (twins oneText) ∧
    (twins oneText).StemsAgree ⟨"main.lua"⟩ ∧
    ((twinsBack oneText).store ⟨"main.lua"⟩).SameTexts ((twins oneText).store ⟨"main.lua"⟩) ∧
    Script.macroEngine (twins oneText).platform {}
        { ScriptHost.empty with store := some ((twinsBack oneText).store ⟨"main.lua"⟩) } =
      Script.macroEngine (twins oneText).platform {}
        { ScriptHost.empty with store := some ((twins oneText).store ⟨"main.lua"⟩) } := by
  obtain ⟨hrun, -, hiff, hengine⟩ := siblingStore_reordered_iff (twins oneText) ⟨"main.lua"⟩
  have hshows := (twins oneText).platform_shows (directoryOf ⟨"main.lua"⟩)
  have hback : (twinsBack oneText).Reorders (twins oneText) := Folder.relist_reorders _
  have hagree : (twins oneText).StemsAgree ⟨"main.lua"⟩ := by
    have htext (n : String) (hn : n ∈ (twins oneText).names) :
        (twins oneText).loaded? ⟨"main.lua"⟩ n = some "1" := by
      revert n
      decide +kernel
    intro n hn n' hn' _ text text' hloaded hloaded'
    rw [htext n hn] at hloaded
    rw [htext n' hn'] at hloaded'
    exact Option.some.inj (hloaded.symm.trans hloaded')
  exact ⟨hshows, hrun _ _ hshows () trivial, hback, hagree, hiff.2 hagree _ hback,
    hengine hagree _ hback _ _ _⟩

/-- Twins with different texts make different stores in different orders. -/
theorem siblingStore_twinsBack_ne :
    (twinsBack ownText).Reorders (twins ownText) ∧
    ((siblingStore (twins ownText).platform ⟨"main.lua"⟩).run ()).run.1.get? "a" = some "2" ∧
    ((siblingStore (twinsBack ownText).platform ⟨"main.lua"⟩).run ()).run.1.get? "a" =
      some "1" := by
  have hrun (F : Folder) :
      ((siblingStore F.platform ⟨"main.lua"⟩).run ()).run.1 = F.store ⟨"main.lua"⟩ :=
    (Always.id_iff.1 (siblingStore_run (F.platform_shows _) trivial)).1
  rw [hrun, hrun]
  exact ⟨Folder.relist_reorders _, by decide +kernel, by decide +kernel⟩

end CommandLine

end MacroStream
