import MacroStream.Config.File
import MacroStream.Proofs.Script.Preparation
import MacroStream.Proofs.Toml.Decimals
import MacroStream.Proofs.Toml.Words

/-!
# Memory limits

A limit is set in megabytes and kept in bytes. A settings file can set every limit below `2 ^ 63`
megabytes and no other, because its whole numbers are signed. The bytes are counted in a word of 64
bits, which holds them only below `2 ^ 44` megabytes. Beyond that the count starts again from 0: a
limit may come out as small as a megabyte, and where it comes out as 0 there is none.
-/

namespace MacroStream

open Json (FitsWord)

/-! ### The limits that a file can set -/

theorem Json.toNat_lt_of_word64 {v : Json} {w : UInt64} (hv : v.FitsWord)
    (h : Json.word64 v = .ok w) : w.toNat < 2 ^ 63 := by
  obtain ⟨n, hn, hw⟩ := Json.bind_eq_ok_iff.1 h
  obtain ⟨rfl, hrange⟩ := Json.eq_int_of_whole hn
  obtain rfl := Except.ok.inj hw
  have hfits := Json.fitsWord_int_iff.1 hv
  rw [Json.fitsInt64, Bool.and_eq_true, decide_eq_true_eq, decide_eq_true_eq] at hfits
  rw [Nat.toUInt64_eq, UInt64.toNat_ofNat']
  omega

theorem ScriptingConfig.memoryLimitMb_lt_of_ofJson {surplus : Json.Surplus} {v : Json}
    {c : ScriptingConfig} (hv : v.FitsWord) (h : ScriptingConfig.ofJson surplus v = .ok c) :
    c.memoryLimitMb.toNat < 2 ^ 63 := by
  refine Json.Keeps.record (I := fun c : ScriptingConfig ↦ c.memoryLimitMb.toNat < 2 ^ 63)
    Json.hereditary_fitsWord ?_ (by decide) hv h
  refine .cons_optional (fun _ _ _ _ _ hr ↦ hr) (.cons_optional (fun _ _ _ _ _ hr ↦ hr) ?_)
  exact .cons_optional (fun _ _ _ hw h _ ↦ Json.toNat_lt_of_word64 hw h) Json.keeps_nil

theorem Config.memoryLimitMb_lt_of_ofText {s : String} {config : Config}
    (h : Config.ofText s = .ok config) : config.scripting.memoryLimitMb.toNat < 2 ^ 63 := by
  rw [Config.ofText] at h
  split at h
  case h_1 => exact nomatch h
  case h_2 v hv =>
    split at h
    case h_1 c hc =>
      obtain rfl := Except.ok.inj h
      refine Json.Keeps.record (I := fun c : Config ↦ c.scripting.memoryLimitMb.toNat < 2 ^ 63)
        Json.hereditary_fitsWord ?_ (by decide) (Toml.fitsWord_of_ofText? hv) hc
      refine .cons_optional (fun _ _ _ _ _ hr ↦ hr) (.cons_optional (fun _ _ _ hv h _ ↦ ?_) ?_)
      · exact ScriptingConfig.memoryLimitMb_lt_of_ofJson hv h
      · exact .cons_optional (fun _ _ _ _ _ hr ↦ hr) Json.keeps_nil
    case h_2 => exact nomatch h

namespace Toml

/-- The text of a settings file with a memory limit and nothing else. -/
def memoryLimitText (n : Nat) : String := "[scripting]\n" ++ ("memory_limit_mb = " ++ Nat.repr n)

variable {cs ds r : List Char} {n : Nat}

theorem readLines_of_readLine {st st' : State} (fuel : Nat) (hcs : cs ≠ [])
    (hskip : skipLines (cs.length + 1) cs = some cs) (hline : readLine st cs = some (st', r)) :
    readLines (fuel + 1) st cs = readLines fuel st' r := by
  rw [readLines, hskip]
  obtain ⟨c, cs, rfl⟩ := List.exists_cons_of_ne_nil hcs
  show (readLine st (c :: cs)).bind _ = _
  rw [hline]
  rfl

theorem readLines_header (fuel : Nat) (cs : List Char) :
    readLines (fuel + 1) {} ("[scripting]\n".toList ++ cs) =
      readLines fuel ⟨[("scripting", .table .header [])], ["scripting"]⟩ cs :=
  readLines_of_readLine fuel (List.cons_ne_nil _ _) rfl rfl

/-- A line with a key and a value that goes up to the end of the text. -/
theorem readLine_of_readPath {st : State} {path : List String} {k : String} {v : Json}
    {root : Entries} (hcs : cs.head? ≠ some '[') (hpath : readPath cs = some ((path, k), '=' :: r))
    (hvalue : readValue (r.length + 1) 0 (skipSpaces r) = some (v, []))
    (hroot : alter st.current (define path k (.value v)) st.root = some root) :
    readLine st cs = some ({ st with root }, []) := by
  rw [readLine.eq_def]
  split
  case h_1 | h_2 => exact absurd rfl hcs
  case h_3 =>
    exact Option.bind_eq_some_iff.2 ⟨_, hpath, Option.bind_eq_some_iff.2
      ⟨_, hvalue, Option.bind_eq_some_iff.2 ⟨root, hroot, rfl⟩⟩⟩

theorem readLines_setting {v : Json} (fuel : Nat) (hspaces : skipSpaces ds = ds)
    (hvalue : readValue (ds.length + 2) 0 ds = some (v, [])) :
    readLines (fuel + 2) ⟨[("scripting", .table .header [])], ["scripting"]⟩
        ("memory_limit_mb = ".toList ++ ds) =
      some ⟨[("scripting", .table .header [("memory_limit_mb", .value v)])], ["scripting"]⟩ := by
  have hskip : skipSpaces (' ' :: ds) = ds := hspaces
  have hline : readLine ⟨[("scripting", .table .header [])], ["scripting"]⟩
      ("memory_limit_mb = ".toList ++ ds) =
        some (⟨[("scripting", .table .header [("memory_limit_mb", .value v)])], ["scripting"]⟩,
          []) := by
    have hfirst : some 'm' ≠ some '[' := by decide
    refine readLine_of_readPath (r := ' ' :: ds) hfirst rfl ?_ rfl
    rw [hskip]
    exact hvalue
  exact readLines_of_readLine (fuel + 1) (List.cons_ne_nil _ _) rfl hline

theorem ofText?_memoryLimitText (hn : Json.fitsInt64 n = true) :
    ofText? (memoryLimitText n) =
      some (.fields [("scripting", .fields [("memory_limit_mb", .int n)])]) := by
  have htext : (memoryLimitText n).toList =
      "[scripting]\n".toList ++ ("memory_limit_mb = ".toList ++ Nat.toDigits 10 n) := by
    rw [memoryLimitText, Nat.repr_eq_ofList_toDigits]
    simp only [String.toList_append, String.toList_ofList]
  have hvalue := readValue_toDigits hn ((Nat.toDigits 10 n).length + 1) 0
  have hspaces := skipSpaces_toDigits n
  rw [ofText?, htext]
  generalize Nat.toDigits 10 n = ds at hvalue hspaces
  have hlines := (readLines_header (ds.length + 30) ("memory_limit_mb = ".toList ++ ds)).trans
    (readLines_setting (ds.length + 28) hspaces hvalue)
  exact Option.map_eq_some_iff.2 ⟨_, hlines, rfl⟩

end Toml

theorem Config.ofText_memoryLimitText {n : Nat} (hn : n < 2 ^ 63) :
    Config.ofText (Toml.memoryLimitText n) =
      .ok { scripting := { memoryLimitMb := UInt64.ofNat n } } := by
  have hfits : Json.fitsInt64 n = true := by
    rw [Json.fitsInt64, Bool.and_eq_true, decide_eq_true_eq, decide_eq_true_eq]
    omega
  have hword : Json.word64 (.int n) = .ok (UInt64.ofNat n) := by
    rw [Json.word64, Json.whole, if_pos]
    · rfl
    · rw [Bool.and_eq_true, decide_eq_true_eq, decide_eq_true_eq]
      omega
  have hscripting : ScriptingConfig.ofJson .ignored (.fields [("memory_limit_mb", .int n)]) =
      .ok { memoryLimitMb := UInt64.ofNat n } := by
    show ((Json.word64 (.int n) >>= _) >>= _) >>= _ = _
    rw [hword]
    rfl
  have hconfig : Config.ofJson .ignored
      (.fields [("scripting", .fields [("memory_limit_mb", .int n)])]) =
        .ok { scripting := { memoryLimitMb := UInt64.ofNat n } } := by
    show ((ScriptingConfig.ofJson .ignored (.fields [("memory_limit_mb", .int n)]) >>= _) >>= _) >>=
      _ = _
    rw [hscripting]
    rfl
  simp only [Config.ofText, Toml.ofText?_memoryLimitText hfits, hconfig]

/-- A settings file can set a limit exactly if it fits a signed word. -/
theorem Config.exists_ofText_memoryLimitMb_iff {n : Nat} :
    (∃ s config, Config.ofText s = .ok config ∧ config.scripting.memoryLimitMb.toNat = n) ↔
      n < 2 ^ 63 := by
  constructor
  · rintro ⟨s, config, h, rfl⟩
    exact Config.memoryLimitMb_lt_of_ofText h
  · intro hn
    refine ⟨_, _, Config.ofText_memoryLimitText hn, ?_⟩
    show (UInt64.ofNat n).toNat = n
    rw [UInt64.toNat_ofNat', Nat.mod_eq_of_lt (Nat.lt_trans hn (by decide))]

/-! ### Limits in bytes -/

namespace Script.Interpreter

variable {m : Type → Type} [Monad m] [LawfulMonad m]

theorem toNat_memoryLimit_eq_iff {megabytes : UInt64} :
    (memoryLimit megabytes).toNat = megabytes.toNat * 2 ^ 20 ↔ megabytes.toNat < 2 ^ 44 := by
  rw [toNat_memoryLimit]
  omega

theorem toNat_memoryLimit_eq_zero_iff {megabytes : UInt64} :
    (memoryLimit megabytes).toNat = 0 ↔ 2 ^ 44 ∣ megabytes.toNat := by
  rw [toNat_memoryLimit]
  omega

theorem toNat_memoryLimit_le_iff {megabytes megabytes' : UInt64} :
    (memoryLimit megabytes).toNat ≤ (memoryLimit megabytes').toNat ↔
      megabytes.toNat % 2 ^ 44 ≤ megabytes'.toNat % 2 ^ 44 := by
  rw [toNat_memoryLimit, toNat_memoryLimit]
  omega

/-- **Limits in megabytes and in bytes.** The limits that a settings file can set are those below
`2 ^ 63` megabytes. Whatever the settings and the host are, an interpreter is made, and its limit in
bytes is the limit in megabytes modulo `2 ^ 44`, times `2 ^ 20`. So it is the limit that is set
exactly below `2 ^ 44` megabytes, it is none exactly at multiples of `2 ^ 44`, and of two limits the
larger one is that with the larger remainder. -/
theorem exists_ofConfig_limit_eq_iff (respond : Responder m) :
    (∀ n : Nat, (∃ s config, Config.ofText s = .ok config ∧
      config.scripting.memoryLimitMb.toNat = n) ↔ n < 2 ^ 63) ∧
    ∀ c : ScriptingConfig, ∃ i : Interpreter, ofConfig respond c = pure (.ok i) ∧
      i.heap.limit = c.memoryLimitMb.toNat % 2 ^ 44 * 2 ^ 20 ∧
      (i.heap.limit = c.memoryLimitMb.toNat * 2 ^ 20 ↔ c.memoryLimitMb.toNat < 2 ^ 44) ∧
      (i.heap.limit = 0 ↔ 2 ^ 44 ∣ c.memoryLimitMb.toNat) ∧
      ∀ c' : ScriptingConfig, ∃ i' : Interpreter, ofConfig respond c' = pure (.ok i') ∧
        (i.heap.limit ≤ i'.heap.limit ↔
          c.memoryLimitMb.toNat % 2 ^ 44 ≤ c'.memoryLimitMb.toNat % 2 ^ 44) := by
  refine ⟨fun n ↦ Config.exists_ofText_memoryLimitMb_iff, fun c ↦ ?_⟩
  obtain ⟨i, hi, -, hlimit⟩ := exists_ofConfig_furnished respond c
  refine ⟨i, hi, ?_, ?_, ?_, fun c' ↦ ?_⟩
  · rw [hlimit, toNat_memoryLimit]
  · rw [hlimit, toNat_memoryLimit_eq_iff]
  · rw [hlimit, toNat_memoryLimit_eq_zero_iff]
  · obtain ⟨i', hi', -, hlimit'⟩ := exists_ofConfig_furnished respond c'
    refine ⟨i', hi', ?_⟩
    rw [hlimit, hlimit', toNat_memoryLimit_le_iff]

/-- A file that sets a limit of `2 ^ 44 + 1` megabytes, and an interpreter that has one megabyte. -/
theorem exists_ofConfig_limit_eq_iff_wrapped :
    ∃ config : Config,
      Config.ofText "[scripting]\nmemory_limit_mb = 17592186044417" = .ok config ∧
      config.scripting.memoryLimitMb.toNat = 2 ^ 44 + 1 ∧
      ∃ i : Interpreter, ofConfig (fun _ ↦ none) config.scripting = some (.ok i) ∧
        i.heap.limit = 2 ^ 20 ∧ i.heap.limit ≠ config.scripting.memoryLimitMb.toNat * 2 ^ 20 := by
  have htext : Toml.memoryLimitText (2 ^ 44 + 1) =
      "[scripting]\nmemory_limit_mb = 17592186044417" := by
    decide
  have hset : (UInt64.ofNat (2 ^ 44 + 1)).toNat = 2 ^ 44 + 1 := by decide
  have hconfig := Config.ofText_memoryLimitText (n := 2 ^ 44 + 1) (by decide)
  rw [htext] at hconfig
  obtain ⟨-, hlimits⟩ := exists_ofConfig_limit_eq_iff (m := Option) fun _ ↦ none
  obtain ⟨i, hi, hlimit, hexact, -⟩ := hlimits { memoryLimitMb := UInt64.ofNat (2 ^ 44 + 1) }
  refine ⟨_, hconfig, hset, i, hi, ?_, fun heq ↦ ?_⟩
  · rw [hlimit, hset]
  · exact absurd (hexact.1 heq) (by decide)

end Script.Interpreter

end MacroStream
