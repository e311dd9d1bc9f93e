import MacroStream.Proofs.Script.PieceSearch
import MacroStream.Proofs.Script.StringExpressions

/-!
# What becomes of interpolated strings

The function `f` puts the values of expressions where the expressions stand in its string. The texts
in braces are evaluated one after the other, from left to right and each of them once, up to the
first one that fails; and what was put in is not looked at again. How a text is evaluated does not
matter for that.

`Turn.HasCome` describes `gsub` on its way through the string, by the position and by the text that
it has made of everything before. A literal text and a piece each bring it further
(`Turn.HasCome.literal`, `Turn.HasCome.comesTo_piece`), and so it fills every template by induction
on the parts (`comesTo_of_hasCome`).
-/

namespace MacroStream.Script

open Interpolation Pattern

variable {m : Machine} {h : Heap} {going helper : Frame} {below : List Frame} {a g i : Nat}
  {s before code rest acc : ByteArray} {t : Turn}

/-! ### Going through a string -/

/-- `gsub` goes through a string with a function that replaces pieces. It has come to a position, and
to the text `acc` for what is before it. -/
def Turn.HasCome (m : Machine) (going : Frame) (below : List Frame) (s : ByteArray) (a i : Nat)
    (acc : ByteArray) (h : Heap) (t : Turn) : Prop :=
  ∃ (line fuel count : Nat) (last : Option Nat),
    count ≤ i ∧ (∀ e, last = some e → e ≤ i) ∧ s.size < fuel + i ∧
      t = (m.stacked going below line).tell
        (Library.replaceFrom s braces (.function a) false (Int64.ofNat (s.size + 1)) (fuel + 1) i
          last (Int64.ofNat count) acc (fun r h ↦ (h, .answer [.str r.1, .int r.2])) h)

/-- Fewer pieces are replaced than there are bytes, so the limit is not reached. -/
theorem not_limit_le {size count : Nat} (hsize : size + 1 < 2 ^ 63) (hcount : count ≤ size) :
    ¬Int64.ofNat (size + 1) ≤ Int64.ofNat count := by
  rw [Int64.le_iff_toInt_le, Int64.toInt_ofNat_of_lt hsize, Int64.toInt_ofNat_of_lt (by omega)]
  omega

theorem append_push (s t : ByteArray) (b : UInt8) : s ++ t.push b = (s ++ t).push b := by
  refine ByteArray.ext ?_
  simp [ByteArray.data_push, ByteArray.data_append]

theorem extract_succ {i j : Nat} (hij : i ≤ j) (hj : j < s.size) :
    s.extract i (j + 1) = (s.extract i j).push (byteAt s j) := by
  refine ByteArray.ext ?_
  have hdata : j < s.data.size := hj
  have hpush : (s.data.extract i j).push s.data[j] = s.data.extract (min i j) (j + 1) :=
    Array.push_extract_getElem hdata
  rw [Nat.min_eq_left hij] at hpush
  rw [byteAt, dif_pos hj, ByteArray.data_push, ByteArray.data_extract, ByteArray.data_extract]
  exact hpush.symm

namespace Turn.HasCome

/-- A part of the string in which no piece begins is kept. -/
theorem skip {j : Nat} (hs : s.size + 1 < 2 ^ 63) (ht : t.HasCome m going below s a i acc h)
    (hij : i ≤ j) (hj : j ≤ s.size) (hnone : ∀ l, i ≤ l → l < j → ¬BeginsPiece s l) :
    t.HasCome m going below s a j (acc ++ s.extract i j) h := by
  induction hij with
  | refl =>
    have hempty : s.extract i i = .empty := by simp
    rw [hempty, ByteArray.append_empty]
    exact ht
  | @step j hij ih =>
    obtain ⟨line, fuel, count, last, hcount, hlast, hfuel, rfl⟩ := ih (Nat.le_of_succ_le hj)
      fun l hl hlt ↦ hnone l hl (Nat.lt_succ_of_lt hlt)
    obtain ⟨fuel, rfl⟩ : ∃ fuel', fuel = fuel' + 1 := ⟨fuel - 1, by omega⟩
    have hmatch := matchAt_of_not_beginsPiece (hnone j hij (Nat.lt_succ_self j))
    refine ⟨line, fuel, count, last, by omega, fun e he ↦ Nat.le_succ_of_le (hlast e he), by omega,
      ?_⟩
    rw [replaceFrom_of_none (not_limit_le hs (by omega)) hj hmatch, extract_succ hij hj,
      append_push]

/-- At the end the string is done. -/
theorem exists_answer (hs : s.size + 1 < 2 ^ 63) (ht : t.HasCome m going below s a s.size acc h) :
    ∃ line n, t = .go (m.stacked going below line) h (.answer [.str acc, .int n]) := by
  obtain ⟨line, fuel, count, last, hcount, hlast, hfuel, rfl⟩ := ht
  have hmatch : matchAt s braces s.size 0 = .ok none := by
    rw [matchAt_braces, if_pos (by simp)]
  refine ⟨line, Int64.ofNat count, ?_⟩
  rw [Library.replaceFrom, if_neg (not_limit_le hs hcount)]
  simp only [Bool.false_eq_true, if_false, hmatch, Library.orFail, Action.bind_apply,
    Action.pure_apply, Option.filter_none, Nat.le_refl, if_true]
  rfl

/-- For a piece the function is called. A string that it hands on is put in the place of the piece,
and `gsub` goes on behind the piece. -/
theorem exists_call (hs : s.size + 1 < 2 ^ 63)
    (ht : t.HasCome m going below s a before.size acc h) (hcode : IsInside code)
    (hsplit : s = before ++ inBraces code ++ rest) :
    ∃ line k, t = .go (m.stacked going below line) h
        (.call (.function a) [.str (inBraces code)] {} k) ∧
      ∀ (m' : Machine) (h' : Heap) (line limit : Nat) (v : ByteArray), h'.limit = limit →
        ((m'.stacked going below line).tell (k [.str v] h')).Reaches limit fun t ↦
          ∃ u, t.HasCome m' going below s a (before ++ inBraces code).size (acc ++ v)
            { h' with used := u } := by
  obtain ⟨line, fuel, count, last, hcount, hlast, hfuel, rfl⟩ := ht
  have hsize : s.size = before.size + (code.size + 2) + rest.size := by
    rw [hsplit, ByteArray.size_append, ByteArray.size_append, size_inBraces]
  have hend : (before ++ inBraces code).size = before.size + code.size + 2 := by
    rw [ByteArray.size_append, size_inBraces, Nat.add_assoc]
  have hcounted : Int64.ofNat count + 1 = Int64.ofNat (count + 1) :=
    (Int64.ofNat_add count 1).symm
  have hlimit := not_limit_le hs (show count ≤ s.size by omega)
  obtain ⟨k, hcall, hanswer⟩ := replaceFrom_inBraces acc a fuel h hlimit hlast hcode hsplit
    fun r h ↦ (h, .answer [.str r.1, .int r.2])
  refine ⟨line, k, by rw [hcall]; rfl, fun m' h' line' limit v hlimit' ↦ ?_⟩
  have hreserve : (Action.reserve v.size).Does limit (m'.stacked going below) h'
      fun _ h'' ↦ ∃ u, h'' = { h' with used := u } :=
    Action.does_reserve (f := pure) hlimit' fun u ↦ Action.does_pure ⟨u, rfl⟩
  rw [hanswer, hcounted, hend]
  refine hreserve _ _ ?_ line'
  rintro l _ _ ⟨u, rfl⟩
  obtain ⟨fuel, rfl⟩ : ∃ fuel', fuel = fuel' + 1 := ⟨fuel - 1, by omega⟩
  refine Turn.Reaches.here ⟨u, l, fuel, count + 1, some (before.size + code.size + 2), by omega,
    fun e he ↦ Nat.le_of_eq (Option.some.inj he).symm, by omega, rfl⟩

end Turn.HasCome

/-! ### Replacing a piece -/

/-- The function that replaces a piece takes off the braces. -/
theorem reaches_hasText {site : CallSite} {slots : Nat} {captured : Array Nat}
    (hr : h.ReplacesWith a g captured)
    (hlibrary : going.activation = none) (hgoing : going.function = .primitive (.string .gsub))
    (hhelper : helper.localNames = ["str".toUTF8])
    (hdepth : going.depth + 2 < Machine.depthLimit) (hslots : going.slots = slots + 25)
    (hroom : slots + 55 ≤ Machine.slotLimit) (line : Nat)
    (k : List Value → Heap → Heap × Signal) :
    (Turn.go (m.stacked going (helper :: below) line) h
      (.call (.function a) [.str (inBraces code)] site k)).Reaches h.limit fun t ↦
        ∃ (r : Running) (b c line l : Nat) (h' : Heap),
          t = (r.machineAt [("code".toUTF8, c), ("block".toUTF8, b)]
            [.block evaluation replace.block [] []] line).perform h' .next ∧
          r.machine = m ∧ r.below = going.waiting l (.values k) :: helper :: below ∧
          r.activation.captured = captured ∧ h.Extends h' ∧
          r.HasText h' below a g going.depth slots c code := by
  have hnests (line : Nat) : (m.stacked going (helper :: below) line).nests site = true := by
    simp [Machine.nests, Machine.stacked, hlibrary]
  have hsize : replace.info.frameSize + [Value.str (inBraces code)].length = 10 := rfl
  have hroom' : going.slots + (replace.info.frameSize + [Value.str (inBraces code)].length) ≤
      Machine.slotLimit := by omega
  obtain ⟨l, hstep⟩ := Machine.exists_step_call_script hr.script hnests (by omega) hroom' k line
  refine Turn.Reaches.step ?_
  rw [hstep]
  let r : Running := .begun m (going.waiting l (.values k) :: helper :: below) (.function a) replace
    captured [.str (inBraces code)] site.name false (going.depth + 1) (going.slots + 10)
  have hbegun : h.Extends (h.withCells #[.str (inBraces code)]) := .withCells _ _
  have hpiece : (h.withCells #[.str (inBraces code)]).Holds h.cells.size (.str (inBraces code)) :=
    Heap.holds_withCells h [.str (inBraces code)] (i := 0) rfl
  have hreaches : r.Reaches h.limit (fun t ↦ ∃ (r : Running) (b c line l : Nat) (h' : Heap),
      t = (r.machineAt [("code".toUTF8, c), ("block".toUTF8, b)]
        [.block evaluation replace.block [] []] line).perform h' .next ∧
      r.machine = m ∧ r.below = going.waiting l (.values k) :: helper :: below ∧
      r.activation.captured = captured ∧ h.Extends h' ∧
      r.HasText h' below a g going.depth slots c code) [("block".toUTF8, h.cells.size)]
      [.block replace.block.statements replace.block [] []] .next
      (h.withCells #[.str (inBraces code)]) := by
    refine Running.reaches_next rfl fun u ↦ ?_
    have hused := Heap.Extends.used (h.withCells #[.str (inBraces code)]) u
    have hslots' : r.frame.slots + Machine.librarySlots ≤ Machine.slotLimit := by
      show going.slots + 10 + 20 ≤ _
      omega
    refine (does_takeCode rfl (hr.replaces.sub.mono (hbegun.trans hused)) hslots'
      (hused.cells hpiece)).mono ?_
    rintro _ h₁ ⟨c, rfl, hh, hcode⟩
    have hold := (hbegun.trans hused).trans hh
    refine Running.reaches_declare ⟨hold.limit_eq, fun line u' ↦ ?_⟩
    have hold' := hold.trans (.used h₁ u')
    refine Turn.Reaches.here ⟨r, _, c, line, l, _, rfl, rfl, rfl, rfl, hold', rfl, hr.mono hold', ?_,
      rfl, ?_, ?_⟩
    · exact ⟨_, helper, rfl, hgoing, hhelper⟩
    · show going.slots + 10 = _
      omega
    · exact (Heap.Extends.used h₁ u').cells hcode
  exact hreaches.go _

/-! ### Filling a template -/

section Filling

variable {σ : Type} {E : Evaluation σ} {P : Turn → Prop} {limit slots : Nat}

/-- No piece begins in a literal text. -/
theorem not_beginsPiece_of_noBraces {literal : ByteArray} (hliteral : NoBraces literal)
    (hs : s = before ++ literal ++ rest) (hi : before.size ≤ i)
    (hlt : i < before.size + literal.size) : ¬BeginsPiece s i := by
  obtain ⟨j, rfl⟩ := Nat.exists_eq_add_of_le hi
  have hj : j < literal.data.toList.length := Nat.lt_of_add_lt_add_left hlt
  refine not_beginsPiece_of_ne ?_
  have hbytes : s.data.toList = (before.data.toList ++ literal.data.toList.take j) ++
      literal.data.toList[j] :: (literal.data.toList.drop (j + 1) ++ rest.data.toList) := by
    have hsplit := List.take_append_drop j literal.data.toList
    rw [List.drop_eq_getElem_cons hj] at hsplit
    rw [hs, ByteArray.data_append, ByteArray.data_append, Array.toList_append,
      Array.toList_append, List.append_assoc, List.append_assoc]
    conv_lhs => rw [← hsplit]
    rw [List.append_assoc, List.cons_append]
  have hlength : (before.data.toList ++ literal.data.toList.take j).length = before.size + j := by
    rw [List.length_append, List.length_take_of_le (Nat.le_of_lt hj)]
    rfl
  have hbyte := byteAt_of_append hbytes
  rw [hlength] at hbyte
  rw [hbyte]
  exact (hliteral _ (List.getElem_mem hj)).1

/-- `gsub` keeps a literal text. -/
theorem Turn.HasCome.literal {literal : ByteArray} (hs : s.size + 1 < 2 ^ 63)
    (ht : t.HasCome m going below s a before.size acc h) (hsplit : s = before ++ literal ++ rest)
    (hliteral : ∀ i, before.size ≤ i → i < before.size + literal.size → ¬BeginsPiece s i) :
    t.HasCome m going below s a (before ++ literal).size (acc ++ literal) h := by
  have hsize : s.size = (before ++ literal).size + rest.size := by
    rw [hsplit, ByteArray.size_append]
  have hend : (before ++ literal).size = before.size + literal.size := ByteArray.size_append
  have hskip := ht.skip hs (j := (before ++ literal).size) (by omega) (by omega)
    fun i hi hlt ↦ hliteral i hi (by omega)
  have hpiece : s.extract before.size (before ++ literal).size = literal := by
    rw [hsplit, hend, Text.extract_middle]
  rwa [hpiece] at hskip

/-- At the end of the string `gsub` hands on what it has come to. -/
theorem Turn.HasCome.comesTo_of_end (hs : s.size + 1 < 2 ^ 63)
    (ht : t.HasCome m going below s a s.size acc h)
    (hok : ∀ n, (Machine.deliver { m with frames := below } h [.str acc, .int n]).ComesTo limit P) :
    t.ComesTo limit P := by
  obtain ⟨line, n, rfl⟩ := ht.exists_answer hs
  exact .step (hok n)

/-- A piece is evaluated: either this fails, or `gsub` goes on behind the piece with its value. -/
theorem Turn.HasCome.comesTo_piece {captured : Array Nat}
    (hlibrary : going.activation = none) (hgoing : going.function = .primitive (.string .gsub))
    (hhelper : helper.localNames = ["str".toUTF8])
    (hdepth : going.depth + 2 < Machine.depthLimit) (hslots : going.slots = slots + 25)
    (hroom : slots + 55 ≤ Machine.slotLimit) (hs : s.size + 1 < 2 ^ 63)
    (hsplit : s = before ++ inBraces code ++ rest) (hcode : IsInside code)
    (hE : E.RunsOn below g going.depth slots code) {st : σ}
    (ht : t.HasCome m going (helper :: below) s a before.size acc h) (hlimit : h.limit = limit)
    (hr : h.ReplacesWith a g captured) (hshows : E.Shows m h st)
    (hgo : ∀ (t' : Turn) m' h' v st', E.Evaluates code st (.ok v) st' → h'.limit = limit →
      h'.ReplacesWith a g captured → E.Shows m' h' st' →
      t'.HasCome m' going (helper :: below) s a (before ++ inBraces code).size (acc ++ v) h' →
        t'.ComesTo limit P)
    (herror : ∀ m' h' e st' above, E.Evaluates code st (.error e) st' → E.Shows m' h' st' →
      (∀ f ∈ above, f.pending.catcher? = none) →
        P (.go { m' with frames := above ++ helper :: below } h' (.throw e))) :
    t.ComesTo limit P := by
  obtain ⟨line, k, rfl, hanswer⟩ := ht.exists_call hs hcode hsplit
  subst hlimit
  refine (reaches_hasText hr hlibrary hgoing hhelper hdepth hslots hroom line k).comesTo ?_
  rintro _ ⟨r, b, c, line', l, h₁, rfl, hmachine, hbelow, rfl, hold, htext⟩
  have hshows₁ : E.Shows r.machine h₁ st := hmachine ▸ E.shows_mono m.frames hshows hold
  have hevaluated := hE r a b c line' h₁ st htext hshows₁
  rw [hold.limit_eq] at hevaluated
  refine hevaluated.bind ?_
  rintro t' ⟨o, st₁, heval, hgives⟩
  rw [hbelow] at hgives
  cases o with
  | error e =>
    obtain ⟨m₂, h₂, above, rfl, hcatch, hshows₂, -⟩ := hgives
    have habove : ∀ f ∈ above ++ [going.waiting l (.values k)], f.pending.catcher? = none := by
      intro f hf
      rcases List.mem_append.1 hf with hf | hf
      · exact hcatch f hf
      · rw [List.mem_singleton.1 hf]
        rfl
    have hthrown := herror m₂ h₂ e st₁ _ heval hshows₂ habove
    rw [List.append_assoc] at hthrown
    exact .here hthrown
  | ok v =>
    obtain ⟨m₂, h₂, rfl, hshows₂, hkeep⟩ := hgives
    obtain ⟨hlimit₂, hr₂⟩ := hkeep v rfl
    refine (hanswer m₂ h₂ l h.limit v hlimit₂).comesTo ?_
    rintro t' ⟨u, hcome⟩
    have hused := Heap.Extends.used h₂ u
    exact hgo t' m₂ { h₂ with used := u } v st₁ heval hlimit₂ (hr₂.mono hused)
      (E.shows_mono m₂.frames hshows₂ hused) hcome

/-- From wherever `gsub` is in a template, the template is filled. -/
theorem comesTo_of_hasCome {captured : Array Nat}
    (hlibrary : going.activation = none) (hgoing : going.function = .primitive (.string .gsub))
    (hhelper : helper.localNames = ["str".toUTF8])
    (hdepth : going.depth + 2 < Machine.depthLimit) (hslots : going.slots = slots + 25)
    (hroom : slots + 55 ≤ Machine.slotLimit) (hs : s.size + 1 < 2 ^ 63)
    {parts : List (ByteArray × ByteArray)} {literal : ByteArray} {st : σ}
    (hsplit : s = before ++ template literal parts) (hliteral : NoBraces literal)
    (hparts : ∀ p ∈ parts,
      IsInside p.1 ∧ NoBraces p.2 ∧ E.RunsOn below g going.depth slots p.1)
    (ht : t.HasCome m going (helper :: below) s a before.size acc h) (hlimit : h.limit = limit)
    (hr : h.ReplacesWith a g captured) (hshows : E.Shows m h st)
    (hok : ∀ m' h' v st' n, E.Fills literal parts st (.ok v) st' → h'.limit = limit →
      E.Shows m' h' st' → (Machine.deliver { m' with frames := helper :: below } h'
        [.str (acc ++ v), .int n]).ComesTo limit P)
    (herror : ∀ m' h' e st' above, E.Fills literal parts st (.error e) st' → E.Shows m' h' st' →
      (∀ f ∈ above, f.pending.catcher? = none) →
        P (.go { m' with frames := above ++ helper :: below } h' (.throw e))) :
    t.ComesTo limit P := by
  induction parts generalizing literal before acc m h t st with
  | nil =>
    have hsplit' : s = before ++ literal ++ .empty := by
      rw [ByteArray.append_empty]
      exact hsplit
    have hend := ht.literal hs hsplit' fun i ↦ not_beginsPiece_of_noBraces hliteral hsplit'
    have hall : before ++ literal = s := hsplit.symm
    rw [hall] at hend
    exact hend.comesTo_of_end hs fun n ↦ hok m h _ st n .literal hlimit hshows
  | cons part parts ih =>
    obtain ⟨code, next⟩ := part
    obtain ⟨⟨hcode, hnext, hE⟩, hparts⟩ := List.forall_mem_cons.1 hparts
    rw [append_template_cons] at hsplit
    have hsplit' : s = before ++ literal ++ (inBraces code ++ template next parts) := by
      rw [hsplit, ByteArray.append_assoc (a := before ++ literal)]
    have hbegin := ht.literal hs hsplit' fun i ↦ not_beginsPiece_of_noBraces hliteral hsplit'
    refine hbegin.comesTo_piece hlibrary hgoing hhelper hdepth hslots hroom hs hsplit hcode hE
      hlimit hr hshows ?_ fun m' h' e st' above heval ↦ herror m' h' e st' above (.failure heval)
    intro t' m₂ h₂ v st₁ heval hlimit₂ hr₂ hshows₂ hcome
    refine ih hsplit hnext hparts hcome hlimit₂ hr₂ hshows₂ ?_ ?_
    · intro m' h' text st' n hfills hlimit' hshows'
      have hdelivered := hok m' h' _ st' n (.value heval hfills) hlimit' hshows'
      rwa [← ByteArray.append_assoc, ← ByteArray.append_assoc] at hdelivered
    · intro m' h' e st' above hfills hshows' hcatch
      exact herror m' h' e st' above (.later heval hfills) hshows' hcatch

/-! ### Interpolation -/

/-- `f` gives its string to `gsub`, which begins at the beginning. -/
theorem Running.reaches_hasCome {r : Running} {b : Nat}
    (hreplace : h.CanReplace r.activation.captured g) (hanswer : h.CanAnswer r.activation.captured)
    (hgsub : h.HasMethod "gsub".toUTF8 (.string .gsub))
    (hslots : r.frame.slots + Machine.librarySlots ≤ Machine.slotLimit)
    (hs : s.size + 1 < 2 ^ 63) (hb : h.Holds b (.str s)) :
    r.Reaches h.limit (fun t ↦ ∃ (line a : Nat) (name : Option NameInUse) (captured : Array Nat)
      (h' : Heap), h.Extends h' ∧ h'.ReplacesWith a g captured ∧
        t.HasCome r.machine (.ofPrimitive (.string .gsub) name (r.waitingForText b line))
          (r.waitingForText b line :: r.below) s a 0 .empty h') [("str".toUTF8, b)]
      [.block interpolate.block.statements interpolate.block [] []] .next h := by
  refine Running.reaches_gsub hgsub hslots hb fun line a name h' hnew hfun ↦
    ⟨line, a, name, _, h', hnew, ⟨hfun, (hreplace.captures _).mono hnew, ?_⟩, ?_⟩
  · have hanswer' := hanswer.mono hreplace.sub hnew
    exact ⟨hanswer'.error, hanswer'.tostring, hanswer'.plain⟩
  · rw [gsub_braces]
    exact ⟨0, 2 * s.size + 3, 0, none, Nat.le_refl 0, nofun, by omega, rfl⟩

/-- `f` returns the text that `gsub` hands to it. -/
theorem Running.comesTo_of_waitingForText {r : Running} {b line : Nat} {v : ByteArray} {n : Int64}
    (hlimit : h.limit = limit)
    (hP : ∀ u, P (Machine.deliver { m with frames := r.below } { h with used := u } [.str v])) :
    (Machine.deliver { m with frames := r.waitingForText b line :: r.below } h
      [.str v, .int n]).ComesTo limit P := by
  let r' : Running := { r with machine := m }
  have hreturn : r'.Reaches limit P [("str".toUTF8, b)] [.block [] interpolate.block [] []]
      (.return [.str v]) h := Running.reaches_return rfl hlimit fun u ↦ .here (hP u)
  exact (hreturn.go line).comesTo fun _ ht ↦ .here ht

/-- When `f` is called with a string, `gsub` begins to go through it. -/
theorem reaches_hasCome_of_enter {captured : Array Nat} (hf : h.InterpolatesWith a g captured)
    (hs : s.size + 1 < 2 ^ 63) (site : CallSite) (isTail : Bool) (depth : Nat)
    (hroom : m.slots + 5 ≤ Machine.slotLimit)
    (hslots : Machine.slots { m with frames := m.framesBelow isTail } + 55 ≤ Machine.slotLimit) :
    (m.enter h (.function a) [.str s] site isTail depth).Reaches h.limit fun t ↦
      ∃ (r : Running) (b line a' : Nat) (name : Option NameInUse) (captured' : Array Nat)
        (h' : Heap), r.below = m.framesBelow isTail ∧ r.frame.depth = depth ∧
        r.frame.slots = Machine.slots { m with frames := m.framesBelow isTail } + 5 ∧
        h.Extends h' ∧ h'.ReplacesWith a' g captured' ∧
        t.HasCome m (.ofPrimitive (.string .gsub) name (r.waitingForText b line))
          (r.waitingForText b line :: m.framesBelow isTail) s a' 0 .empty h' := by
  have hsize : interpolate.info.frameSize + [Value.str s].length = 5 := rfl
  rw [Machine.enter_of_script hf.script (by omega) site isTail depth]
  let r : Running := .begun m (m.framesBelow isTail) (.function a) interpolate captured [.str s]
    (if isTail then none else site.name) isTail depth
    (Machine.slots { m with frames := m.framesBelow isTail } + 5)
  have hbegun : h.Extends (h.withCells #[.str s]) := .withCells _ _
  have hstring : (h.withCells #[.str s]).Holds h.cells.size (.str s) :=
    Heap.holds_withCells h [.str s] (i := 0) rfl
  have hroom' : r.frame.slots + Machine.librarySlots ≤ Machine.slotLimit := by
    show Machine.slots { m with frames := m.framesBelow isTail } + 5 + 20 ≤ _
    omega
  have hreaches := Running.reaches_hasCome (r := r) (hf.replaces.mono hbegun)
    (hf.answers.mono hf.gsub hbegun) (hf.gsub.mono hbegun) hroom' hs hstring
  refine (hreaches.go _).bind fun t ⟨line, a', name, captured', h', hnew, hr, ht⟩ ↦ ?_
  exact .here ⟨r, _, line, a', name, captured', h', rfl, rfl, rfl, hbegun.trans hnew, hr, ht⟩

/-- **Interpolated strings.** However texts of expressions are evaluated, and whoever calls `f`:

* If the string is made of literal texts without braces and of balanced texts in braces, then the
  texts in braces are evaluated, each once and from left to right, and `f` returns the literal texts
  with the values between them; or it fails with what the first text fails with that does, and no
  later one is evaluated.
* If there is no balanced text in braces in the string, `f` returns it as it is. -/
theorem comesTo_fills (E : Evaluation σ) {captured : Array Nat} (hf : h.InterpolatesWith a g captured)
    (site : CallSite) (isTail : Bool) (depth : Nat) (st : σ)
    (hdepth : depth + 2 < Machine.depthLimit) (hroom : m.slots + 5 ≤ Machine.slotLimit)
    (hslots : Machine.slots { m with frames := m.framesBelow isTail } + 55 ≤ Machine.slotLimit)
    (hshows : E.Shows m h st) :
    (∀ (literal : ByteArray) (parts : List (ByteArray × ByteArray)), NoBraces literal →
      (∀ p ∈ parts, IsBalanced p.1 ∧ NoBraces p.2 ∧ E.RunsOn (m.framesBelow isTail) g depth
        (Machine.slots { m with frames := m.framesBelow isTail }) p.1) →
      (template literal parts).size + 1 < 2 ^ 63 →
        (m.enter h (.function a) [.str (template literal parts)] site isTail depth).ComesTo h.limit
          fun t ↦ ∃ o st', E.Fills literal parts st o st' ∧
            t.Gives (m.framesBelow isTail) (fun m' h' ↦ E.Shows m' h' st') o) ∧
    ∀ s : ByteArray, (∀ before code rest, s = before ++ inBraces code ++ rest → ¬IsBalanced code) →
      s.size + 1 < 2 ^ 63 →
      (m.enter h (.function a) [.str s] site isTail depth).ComesTo h.limit fun t ↦
        t.Gives (m.framesBelow isTail) (fun m' h' ↦ E.Shows m' h' st) (.ok s) := by
  constructor
  · intro literal parts hliteral hparts hs
    refine (reaches_hasCome_of_enter hf hs site isTail depth hroom hslots).comesTo ?_
    rintro t ⟨r, b, line, a', name, captured', h₁, hbelow, hdepth', hslots', hnew, hr, ht⟩
    have hempty : template literal parts = .empty ++ template literal parts :=
      ByteArray.empty_append.symm
    let going : Frame := .ofPrimitive (.string .gsub) name (r.waitingForText b line)
    have hgoingDepth : going.depth + 2 < Machine.depthLimit := by
      show r.frame.depth + 2 < _
      omega
    have hgoingSlots : going.slots =
        Machine.slots { m with frames := m.framesBelow isTail } + 25 := by
      show r.frame.slots + 20 = _
      omega
    rw [← hdepth'] at hparts
    have hparts' (p : ByteArray × ByteArray) (hp : p ∈ parts) :=
      And.intro (isInside_iff_isBalanced.2 (hparts p hp).1) (hparts p hp).2
    refine comesTo_of_hasCome rfl rfl rfl hgoingDepth hgoingSlots hslots hs hempty hliteral hparts'
      ht hnew.limit_eq hr (E.shows_mono m.frames hshows hnew) ?_ ?_
    · intro m' h' v st' n hfills hlimit' hshows'
      rw [ByteArray.empty_append, ← hbelow]
      refine Running.comesTo_of_waitingForText hlimit' fun u ↦ ⟨.ok v, st', hfills, ?_⟩
      exact ⟨m', _, rfl, E.shows_mono m'.frames hshows' (.used h' u)⟩
    · intro m' h' e st' above hfills hshows' hcatch
      refine ⟨.error e, st', hfills, m', h', above ++ [r.waitingForText b line], ?_, ?_, hshows'⟩
      · rw [List.append_assoc]
        rfl
      · intro f hf
        rcases List.mem_append.1 hf with hf | hf
        · exact hcatch f hf
        · rw [List.mem_singleton.1 hf]
          rfl
  · intro s hnone hs
    refine (reaches_hasCome_of_enter hf hs site isTail depth hroom hslots).comesTo ?_
    rintro t ⟨r, b, line, a', name, captured', h₁, hbelow, -, -, hnew, -, ht⟩
    have hnone' (i : Nat) : ¬BeginsPiece s i := by
      rintro ⟨before, code, rest, hsplit, -, hcode⟩
      exact hnone before code rest hsplit (isInside_iff_isBalanced.1 hcode)
    have hend := ht.skip hs (Nat.zero_le s.size) (Nat.le_refl _) fun i _ _ ↦ hnone' i
    have hall : ByteArray.empty ++ s.extract 0 s.size = s := by simp
    rw [hall] at hend
    refine hend.comesTo_of_end hs fun n ↦ ?_
    rw [← hbelow]
    refine Running.comesTo_of_waitingForText hnew.limit_eq fun u ↦ ⟨m, _, rfl, ?_⟩
    exact E.shows_mono m.frames hshows (hnew.trans (.used h₁ u))

/-- A value that has braces itself: of the two texts the first one is a string with braces in it. -/
def bracesAndLetter (code : ByteArray) : Except Thrown ByteArray :=
  .ok (if code = "'c'".toUTF8 then "c".toUTF8 else "\x7b1\x7d".toUTF8)

/-- In a new interpreter the host calls `f` with a string that has two strings in braces, one of them
with braces in it; and with a string that has a closing brace only. -/
theorem comesTo_fills_new :
    ∃ (i : Interpreter) (a : Nat) (captured : Array Nat),
      Interpreter.ofConfig (fun _ ↦ none) {} = some (.ok i) ∧
      i.heap.rawGet i.globals (textKey "f") = .function a ∧
      i.heap.InterpolatesWith a i.globals captured ∧
      ({ i.machine with frames := [Machine.hostFrame] }.enter i.heap (.function a)
        [.str "a\x7b'\x7b1\x7d'\x7d\x7b'c'\x7d".toUTF8] {} false 1).ComesTo i.heap.limit (fun t ↦
          t.Gives [Machine.hostFrame] (fun _ _ ↦ True) (.ok "a\x7b1\x7dc".toUTF8)) ∧
      ({ i.machine with frames := [Machine.hostFrame] }.enter i.heap (.function a)
        [.str "\x7da".toUTF8] {} false 1).ComesTo i.heap.limit fun t ↦
          t.Gives [Machine.hostFrame] (fun _ _ ↦ True) (.ok "\x7da".toUTF8) := by
  obtain ⟨i, a, captured, hconfig, hglobal, hf⟩ :=
    Interpreter.exists_ofConfig_interpolatesWith (fun _ ↦ none) {}
  have hdepth : 1 + 2 < Machine.depthLimit := Nat.le_of_ble_eq_true rfl
  have hroom : 0 + 5 ≤ Machine.slotLimit := Nat.le_of_ble_eq_true rfl
  have hslots : 0 + 55 ≤ Machine.slotLimit := Nat.le_of_ble_eq_true rfl
  obtain ⟨hfills, hplain⟩ := comesTo_fills (m := { i.machine with frames := [Machine.hostFrame] })
    (.ofFunction bracesAndLetter) hf {} false 1 [] hdepth hroom hslots trivial
  have hruns (code v : ByteArray) (heval : bracesAndLetter code = .ok v)
      (hreads : readsAsString 2 code v = true) : (Evaluation.ofFunction bracesAndLetter).RunsOn
        [Machine.hostFrame] i.globals 1 0 code :=
    Evaluation.runsOn_of_readsAsString (fun done ↦ ⟨_, ⟨heval.symm, rfl⟩, fun _ _ _ ↦ trivial⟩)
      hreads hdepth hslots
  have hfirst := hruns "'\x7b1\x7d'".toUTF8 "\x7b1\x7d".toUTF8 rfl (by decide +kernel)
  have hsecond := hruns "'c'".toUTF8 "c".toUTF8 rfl (by decide +kernel)
  refine ⟨i, a, captured, hconfig, hglobal, hf, ?_, ?_⟩
  · have hfilled := hfills "a".toUTF8 [("'\x7b1\x7d'".toUTF8, .empty), ("'c'".toUTF8, .empty)]
      (by decide) ?_ (by decide)
    · refine hfilled.bind ?_
      rintro t ⟨o, done, hfill, hgives⟩
      obtain ⟨rfl, -⟩ := Evaluation.eq_of_fills_ofFunction hfill
      exact .here hgives
    · intro p hp
      rcases List.mem_cons.1 hp with rfl | hp
      · exact ⟨isInside_iff_isBalanced.1 (by decide), by decide, hfirst⟩
      · rw [List.mem_singleton.1 hp]
        exact ⟨isInside_iff_isBalanced.1 (by decide), by decide, hsecond⟩
  · refine hplain _ (fun before code rest hsplit ↦ ?_) (by decide)
    -- There is no opening brace.
    have hmem : 123 ∈ "\x7da".toUTF8.data.toList := by
      rw [hsplit]
      simp [ByteArray.data_append, toList_inBraces]
    exact absurd hmem (by decide)

end Filling

end MacroStream.Script
