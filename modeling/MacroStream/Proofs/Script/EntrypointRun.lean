import MacroStream.Proofs.Script.ChunkReading
import MacroStream.Proofs.Script.Endings
import MacroStream.Proofs.Script.EntrypointTokens
import MacroStream.Proofs.Script.HostBindings

/-!
# The run of the chunk of a macro

The chunk that is made of a macro makes `yield` a global variable, declares a function, and answers
a coroutine of it. The host evaluates it as if it were an expression first, and this always fails:
behind `return`, an equals sign cannot follow a name (`exists_parse_return`). So the chunk is run,
one statement after the other, and it changes nothing but the global variable (`Heap.Follows`).

A macro can end its function early and go on in the chunk. Not much is lost if it repeats what the
chunk does, so the run is followed for any number of such pieces: `ends_piece` is one of them,
`ends_answer` is the last statement, and `ends_from` puts them together.

What the chunk reads are fields of the global variable `coroutine`, which the host may have
replaced. Here it only matters whether it did, and that nothing else than the library makes
coroutines (`Heap.Offers`).
-/

namespace MacroStream.Script

/-! ### A chunk is no expression -/

namespace Parser

variable {α β : Type} {st st' : State} {s : Name} {blocks : List OpenBlock} {k : Nat} {l : Lexeme}
  {ls : List Lexeme}

/-- The function of a chunk in which nothing has been declared. -/
def chunkFunction (blocks : List OpenBlock) : OpenFunction :=
  { isVararg := true, captures := #[(envName, .scope 0, .regular)], blocks }

section Return

variable (s) (line line' last depth : Nat) (text text' source : ByteArray) (rest : List Lexeme)
  (fault : Option SyntaxFault) (blocks : List OpenBlock)

/-- The parser in front of a name and an equals sign. -/
def inFront : State :=
  ⟨⟨.name s, line, text⟩, ⟨.symbol (.char 61), line', text'⟩ :: rest, fault, last,
    [chunkFunction blocks], depth, source⟩

/-- The parser behind the name. -/
def behind : State :=
  ⟨⟨.symbol (.char 61), line', text'⟩, rest, fault, line, [chunkFunction blocks], depth, source⟩

variable {s line line' last depth text text' source rest fault blocks}

/-- In front of an equals sign a name is all of an expression. -/
theorem readExprs_global (hs : envName ≠ s) (hdepth : depth + 1 < depthLimit) :
    readExprs (k + 7) (inFront s line line' last depth text text' source rest fault blocks) =
      .ok ([.index (.captured envName 0) (.str s) 0],
        behind line line' depth text' source rest fault blocks) := by
  let deeper : State := behind line line' (depth + 1) text' source rest fault blocks
  have hsuffixed : readSuffixed (k + 3) (deeper.at ⟨.name s, line, text⟩
      (⟨.symbol (.char 61), line', text'⟩ :: rest) last) =
        .ok (⟨.index (.captured envName 0) (.str s) 0, none⟩, deeper) :=
    readSuffixed_global (show deeper.functions = [chunkFunction blocks] from rfl)
      ⟨rfl, rfl, rfl, hs⟩ rfl
  exact readExprs_of_suffixed
    (inFront s line line' last depth text text' source rest fault blocks) deeper _ rfl hdepth
    hsuffixed rfl rfl rfl

/-- What is done with the values of a `return`. -/
def finishReturn (values : List Expr) : Parse Statement := do
  let _ ← accept (.char 59)
  let closes := ((← function).blocks.head?.map OpenBlock.closes).getD false
  match values with
  | [.call f args l] => return if closes then .return values else .tailCall (.call f args l)
  | [.method o x args a l] =>
    return if closes then .return values else .tailCall (.method o x args a l)
  | _ => return .return values

/-- What is done with a `return`, which nothing can follow. -/
def finishStatements (n : Nat) : Option Statement → Parse (List Statement)
  | some s => modifyBlock (fun b ↦ { b with count := b.count + 1 }) >>= fun _ ↦ pure [s]
  | none => readStatements n

/-- What is done with the statements of a chunk. -/
def finishChunk (source : ByteArray) (statements : List Statement) : Parse FunctionBody := do
  match ← token with
  | .eof => pure ()
  | _ => failNear "<eof> expected"
  let labels ← leaveBlock
  let fn ← function
  let info := ⟨[], true, [(envName, .scope 0)], source, 0, 0, fn.mostVars + 3⟩
  return .mk info (.mk statements labels)

/-- An assignment to a global variable cannot be read behind `return`. -/
theorem exists_parseLexemes_return (hs : envName ≠ s) (source : ByteArray) {l l' l'' : Lexeme}
    (hl : l.token = .symbol .kReturn) (hl' : l'.token = .name s)
    (hl'' : l''.token = .symbol (.char 61)) (rest : List Lexeme) (fault : Option SyntaxFault) :
    ∃ e, parseLexemes source 0 (l :: l' :: l'' :: rest) fault = .error e := by
  obtain ⟨_, n, text⟩ := l
  obtain ⟨_, n', text'⟩ := l'
  obtain ⟨_, n'', text''⟩ := l''
  obtain rfl := hl
  obtain rfl := hl'
  obtain rfl := hl''
  rw [parseLexemes]
  generalize hfuel : 16 * _ + 64 = fuel
  obtain ⟨k, rfl⟩ : ∃ k, fuel = k + 10 := ⟨fuel - 10, by omega⟩
  let block (count : Nat) : List OpenBlock := [⟨false, 0, false, [], [], count⟩]
  let start (depth : Nat) : State := ⟨⟨.symbol .kReturn, n, text⟩,
    ⟨.name s, n', text'⟩ :: ⟨.symbol (.char 61), n'', text''⟩ :: rest, fault, 1,
    [chunkFunction (block 0)], depth, source⟩
  have hreturn : readReturn (k + 8)
      (inFront s n' n'' n 1 text' text'' source rest fault (block 0)) =
      .ok (.return [.index (.captured envName 0) (.str s) n'],
        behind n' n'' 1 text'' source rest fault (block 0)) := by
    rw [readReturn]
    show (readExprs (k + 7) >>= fun es ↦ lastLine >>= fun last ↦
      finishReturn (es.map (settleAt last)) : Parse Statement) _ = _
    rw [bind_of_ok (readExprs_global hs (by decide))]
    rfl
  have hstatement : readStatement (k + 9) (start 1) =
      .ok (some (.return [.index (.captured envName 0) (.str s) n']),
        behind n' n'' 1 text'' source rest fault (block 0)) := by
    rw [readStatement]
    show (readReturn (k + 8) >>= fun r ↦ pure (some r) : Parse (Option Statement)) _ = _
    exact bind_of_ok hreturn _
  have hstatements : readStatements (k + 10) (start 0) =
      .ok ([.return [.index (.captured envName 0) (.str s) n']],
        behind n' n'' 0 text'' source rest fault (block 1)) := by
    rw [readStatements]
    show (nested (readStatement (k + 9)) >>= finishStatements (k + 9)) _ = _
    rw [bind_of_ok (nested_of_ok (start 0) (show 0 + 1 < depthLimit by decide) hstatement)]
    rfl
  refine ⟨.malformed (.near n'' "<eof> expected" (.symbol (.char 61)) text''), ?_⟩
  show Except.map Prod.fst ((readStatements (k + 10) >>= finishChunk source) (start 0)) = _
  rw [bind_of_ok hstatements]
  rfl

end Return

end Parser

/-- What a chunk starts with behind `return`. -/
def returnHead : String := "return yield ="

theorem lexFrom_returnHead (n : Nat) (bs : List UInt8) :
    ∃ l l' l'' : Lexeme, l.token = .symbol .kReturn ∧ l'.token = .name "yield".toUTF8 ∧
      l''.token = .symbol (.char 61) ∧
      Lexer.lexFrom (n + 5) 1 (returnHead.toUTF8.toList ++ 32 :: bs) =
        (l :: l' :: l'' :: (Lexer.lexFrom n 1 (32 :: bs)).1, (Lexer.lexFrom n 1 (32 :: bs)).2) := by
  rw [Text.toList_toUTF8]
  simp only [returnHead, Text.toUTF8_eq_flatMap, String.reduceToList]
  exact ⟨_, _, _, rfl, rfl, rfl, rfl⟩

theorem envName_ne_yield : Parser.envName ≠ "yield".toUTF8 := by
  decide

theorem exists_toList_return (source : String) :
    ∃ bs, ("return ".toUTF8 ++ (entrypointSource source).toUTF8).toList =
      returnHead.toUTF8.toList ++ 32 :: bs := by
  have happend (a b : ByteArray) : (a ++ b).toList = a.toList ++ b.toList := by
    simp only [Text.toList_eq_data_toList, ByteArray.data_append, Array.toList_append]
  rw [happend, toList_entrypointSource]
  generalize Lexer.indented _ _ = body
  refine ⟨"coroutine.yield\nlocal function entrypoint()\n".toUTF8.toList ++ 32 :: 32 :: body, ?_⟩
  simp only [Text.toList_toUTF8, entrypointHead, returnHead, String.reduceToList]
  rfl

/-- The chunk of a macro is no expression. -/
theorem exists_parse_return (name : ByteArray) (source : String) :
    ∃ e, Parser.parse name 0 ("return ".toUTF8 ++ (entrypointSource source).toUTF8) = .error e := by
  obtain ⟨bs, hbs⟩ := exists_toList_return source
  rw [Parser.parse, Lexer.lex, hbs]
  have hsize : 4 < ("return ".toUTF8 ++ (entrypointSource source).toUTF8).size + 1 := by
    rw [ByteArray.size_append]
    have hreturn : "return ".toUTF8.size = 7 := rfl
    omega
  obtain ⟨n, hn⟩ := Nat.exists_eq_add_of_lt hsize
  obtain ⟨l, l', l'', hl, hl', hl'', hlex⟩ := lexFrom_returnHead n bs
  rw [hn, Nat.add_comm 4 n, Nat.add_assoc, hlex]
  exact Parser.exists_parseLexemes_return envName_ne_yield name hl hl' hl'' _ _

/-! ### The statements of a chunk -/

/-- The field of a library that an expression reads. -/
def libraryField? : Expr → Option (Name × Name)
  | .index (.index (.captured _ 0) (.str library) _) (.str field) _ => some (library, field)
  | _ => none

/-- The global variable to which a statement gives the function `coroutine.yield`. -/
def yieldGlobal? : Statement → Option Name
  | .assign [.index (.captured _ 0) (.str name) _] [value] _ =>
    if libraryField? value = some ("coroutine".toUTF8, "yield".toUTF8) then some name else none
  | _ => none

/-- Whether a statement answers a coroutine of one of the `n` newest variables. -/
def answersCoroutine (n : Nat) : Statement → Bool
  | .tailCall (.call f [.scope _ i] _) =>
    i < n && libraryField? f = some ("coroutine".toUTF8, "create".toUTF8)
  | _ => false

/-- Whether statements give `coroutine.yield` to some global variables, declare a function each
time, and answer a coroutine of one of these; `n` were declared before. -/
def isEntrypointFrom (n : Nat) : List String → List Statement → Bool
  | [], [s] => answersCoroutine n s
  | name :: names, s :: .declareFunction _ _ :: rest =>
    yieldGlobal? s = some name.toUTF8 && isEntrypointFrom (n + 1) names rest
  | _, _ => false

/-- Whether a chunk is one for a macro that makes `names` global variables. -/
def isEntrypoint (names : List String) (body : FunctionBody) : Bool :=
  body.info.params = [] && body.info.frameSize + Machine.librarySlots ≤ Machine.slotLimit &&
    isEntrypointFrom 0 names body.block.statements

/-! ### Reads -/

section Reads

variable {h : Heap} {a g : Nat} {F : Thrown → Heap → Prop}

theorem metafield_of_no_metatable (ha : (h.table a).metatable = none) (name : ByteArray) :
    h.metafield (.table a) name = .nil := by
  rw [Heap.metafield, Heap.metatable?, ha]

/-- Without a metatable that says otherwise, a table is read as it is. -/
theorem indexLoop_of_metafield (ha : h.metafield (.table a) MetaName.index = .nil)
    (place : Option Place) (s : ByteArray) (n : Nat) (name : Option NameInUse)
    (k : Value → Heap → Heap × Signal) :
    Action.indexLoop place (.str s) (n + 1) (.table a) name k h = k (h.rawGet a (.str s)) h := by
  have hget : (h.table a).getValue (.str s) = h.rawGet a (.str s) := rfl
  rw [Action.indexLoop]
  simp only [Action.bind_apply, Action.read_apply, hget]
  cases h.rawGet a (.str s) with
  | nil => simp [Value.isNil, ha]
  | _ => rfl

theorem index_of_metafield (ha : h.metafield (.table a) MetaName.index = .nil)
    (place : Option Place) (name : Option NameInUse) (s : ByteArray)
    (k : Value → Heap → Heap × Signal) :
    Action.index place name (.table a) (.str s) k h = k (h.rawGet a (.str s)) h :=
  indexLoop_of_metafield ha place s 1999 name k

/-- What a chunk reads from a library is what is read from the value of the global variable. -/
theorem comes_libraryField {c : Context} {e : Expr} {library field : Name}
    {Q : Value → Heap → Prop} (hc : c.Sees h (.table g)) (hg : (h.table g).metatable = none)
    (he : libraryField? e = some (library, field))
    (hread : ∀ place name,
      (Action.index place name (h.rawGet g (.str library)) (.str field)).Comes h Q F) :
    (Action.first (Action.eval c e)).Comes h Q F := by
  fun_cases libraryField? e with
  | case1 env library' line field' line' =>
    obtain ⟨rfl, rfl⟩ : library' = library ∧ field' = field := by simpa [libraryField?] using he
    have hglobal := index_of_metafield (metafield_of_no_metatable hg MetaName.index)
    rw [Context.Sees] at hc
    refine Action.Comes.first ?_
    simp only [Action.eval, Context.lateAddress?]
    rcases hread (c.place line')
        (Expr.index (.captured env 0) (.str library') line).nameInUse with
      ⟨v, h', hv, hread⟩ | ⟨t, h', ht, hread⟩
    · refine .inl ⟨[v], h', hv, fun k ↦ ?_⟩
      simp only [Action.bind_apply, Action.first_apply, Action.read_apply, Action.pure_apply,
        List.headD_cons, hc, hglobal, hread]
    · refine .inr ⟨t, h', ht, fun k ↦ ?_⟩
      simp only [Action.bind_apply, Action.first_apply, Action.read_apply, Action.pure_apply,
        List.headD_cons, hc, hglobal, hread]
  | case2 => simp_all [libraryField?]

end Reads

/-! ### What a chunk leaves -/

namespace Heap

/-- What the chunk of a macro may change: it gives values to some global variables. -/
structure Follows (h : Heap) (ks : List Key) (h' : Heap) : Prop where
  grew : Grew [h.registry.globals] h h'
  lawful : h'.LawfulAt h.registry.globals
  metatable_eq : (h'.table h.registry.globals).metatable =
    (h.table h.registry.globals).metatable
  rawGet_eq : ∀ k ∉ ks, h'.rawGet h.registry.globals k = h.rawGet h.registry.globals k

namespace Follows

variable {h h' h'' : Heap} {k : Key} {ks : List Key}

theorem refl (hlawful : h.LawfulAt h.registry.globals) : h.Follows ks h :=
  ⟨.refl h, hlawful, rfl, fun _ _ ↦ rfl⟩

/-- Nothing has happened to tables. -/
theorem of_tables (hf : h.Follows ks h') (hg : Grew [] h' h'') : h.Follows ks h'' := by
  have hlt : h.registry.globals < h'.tables.size := hf.lawful.1
  refine ⟨hf.grew.trans hg nofun, hf.lawful.grew hg List.not_mem_nil, ?_, fun k hk ↦ ?_⟩
  · rw [hg.table_eq hlt List.not_mem_nil, hf.metatable_eq]
  · rw [rawGet_of_grew hg hlt List.not_mem_nil, hf.rawGet_eq k hk]

theorem used (hf : h.Follows ks h') (u : Nat) : h.Follows ks { h' with used := u } :=
  hf.of_tables ⟨rfl, rfl, rfl, Nat.le_refl _, fun _ _ ↦ rfl, id⟩

theorem setGlobal (hf : h.Follows ks h') (hk : k ∈ ks) (v : Value) :
    h.Follows ks (h'.rawSet h.registry.globals k v) := by
  have hset : Grew [h.registry.globals] h' (h'.rawSet h.registry.globals k v) :=
    .rawSet hf.lawful.1 List.mem_cons_self _ _
  refine ⟨hf.grew.trans hset fun _ hmem _ ↦ hmem, hf.lawful.rawSet .., ?_, fun k' hk' ↦ ?_⟩
  · rw [metatable_rawSet, hf.metatable_eq]
  · have hne : k ≠ k' := fun heq ↦ hk' (heq ▸ hk)
    rw [rawGet_rawSet hf.lawful.1 hf.lawful.2, if_neg fun hboth ↦ hne hboth.2,
      hf.rawGet_eq k' hk']

end Follows

end Heap

/-! ### What statements do -/

section Statements

variable {h : Heap} {g : Nat} {c : Context} {F : Thrown → Heap → Prop}

/-- A global variable is given the value of an expression that leaves the heap alone. -/
theorem comes_assign {value : Expr} {Q : Value → Prop} (hc : c.Sees h (.table g))
    (hg : (h.table g).metatable = none)
    (hvalue : (Action.first (Action.eval c value)).Comes h (fun v h' ↦ h' = h ∧ Q v) F)
    (env name : Name) (l line : Nat) :
    (Action.exec c (.assign [.index (.captured env 0) (.str name) l] [value] line)).Comes h
      (fun e h' ↦ e = .next ∧ ∃ v, Q v ∧ h' = h.rawSet g (.str name) v) F := by
  rw [Context.Sees] at hc
  have htarget (k : Action.Slot → Heap → Heap × Signal) :
      Action.evalTarget c [] (.index (.captured env 0) (.str name) l) k h =
        k (.entry (.value (.table g)) (.value (.str name))
          (Expr.nameInUse (.captured env 0)) l) h := by
    simp only [Action.evalTarget, Action.evalPart, Context.lateAddress?, Action.bind_apply,
      Action.first_apply, Action.eval, Action.pure_apply, Action.read_apply, hc, List.headD_cons]
  rw [Action.exec]
  refine (Action.comes_of_eq htarget (Q := fun slot h' ↦ slot = _ ∧ h' = h) ⟨rfl, rfl⟩).bind ?_
  rintro slot _ ⟨rfl, rfl⟩
  refine hvalue.bind ?_
  rintro v _ ⟨rfl, hv⟩
  refine Action.comes_of_eq (fun k ↦ ?_) ⟨rfl, v, hv, rfl⟩
  simp only [Action.store, Action.Late.get, Action.bind_apply, Action.pure_apply,
    setIndex_of_no_metatable hg]

/-- A local function is the newest variable. -/
theorem comes_declareFunction (name : Name) (body : FunctionBody) :
    (Action.exec c (.declareFunction name body)).Comes h
      (fun e h' ↦ e = .declare [(name, h.cells.size)] ∧ Heap.Grew [] h h' ∧
        h'.threads = h.threads ∧ h.cells.size < h'.cells.size ∧
        (∃ fa captured, h'.cell h.cells.size = .function fa ∧
          h'.function? fa = some (.script body captured)) ∧
        ∀ a < h.cells.size, h'.cell a = h.cell a) F := by
  let captured : Array Nat := (body.info.captures.map fun p ↦
    Context.captureAddress { c with scope := (name, h.cells.size) :: c.scope } p.2).toArray
  let made : Heap := ((h.newCell .nil).2.newFunction (.script body captured)).2
  have hexec (k : Effect → Heap → Heap × Signal) :
      Action.exec c (.declareFunction name body) k h =
        k (.declare [(name, h.cells.size)])
          (made.setCell h.cells.size (.function h.functions.size)) := by
    rw [Action.exec]
    rfl
  refine Action.comes_of_eq hexec
    ⟨rfl, ?_, rfl, ?_, ⟨h.functions.size, captured, ?_, Array.getElem?_push_size⟩, fun a ha ↦ ?_⟩
  · have hmade : Heap.Grew [] (h.newCell .nil).2 made := .newFunction _ _
    exact ⟨rfl, rfl, rfl, hmade.size_le, hmade.table_eq, hmade.function?_eq⟩
  · simp [made, Heap.setCell, Heap.newFunction, Heap.newCell]
  · simp [made, Heap.cell, Heap.setCell, Heap.newFunction, Heap.newCell]
  · have hne : h.cells.size ≠ a := Nat.ne_of_gt ha
    simp [made, Heap.cell, Heap.setCell, Heap.newFunction, Heap.newCell, hne, hne.symm, ha,
      Array.getElem?_push]

end Statements

/-! ### Answering a coroutine -/

/-- What fails when it is called with a function. -/
def Heap.Refuses (h : Heap) (v : Value) : Prop :=
  (v.isFunction = false ∧ h.metafield v MetaName.call = .nil) ∨
    ∃ i op, h.Dispatches v i op

section TailCall

variable {n : Nat} {P : List Value → Heap → Prop} {F : Thrown → Heap → Prop} {m : Machine}
  {h : Heap} {f : Frame} {a : Activation} {body : Block}

/-- The machine that runs the last statement of a chunk, a call. -/
theorem atLine_chunkMachine (p : Pending) (line : Nat) (scope : Scope) :
    ∃ l, ((chunkMachine m f a body scope []).await p).atLine line = { m with
      frames := [{ f with
        activation := some { a with scope := scope, control := [.block [] body [] []] }
        pending := p, line := l }, Machine.hostFrame] } := by
  rw [Machine.atLine]
  split
  · exact ⟨f.line, rfl⟩
  · exact ⟨line, rfl⟩

/-- A function cannot cross to the host. -/
theorem exists_throw_invoke (i : Nat) (op : String) (fa : Nat) (h : Heap) :
    ∃ t h', h'.Explains t ∧ ∀ k, Library.invoke i op [.function fa] k h = (h', .throw t) := by
  have hjson : h.toJsonList [.function fa] =
      .error (.unsupported (Exchange.typeName h (.function fa))) := by
    simp only [Heap.toJsonList, Heap.toJson, Exchange.toJson]
    rfl
  let fault := (ExchangeFault.unsupported (Exchange.typeName h (.function fa))).message
  refine ⟨⟨.userdata h.objects.size, .runtime⟩, (h.newObject (.hostError fault)).2,
    .host Array.getElem?_push_size, fun k ↦ ?_⟩
  rw [Library.invoke, Action.bind_apply, Action.read_apply, hjson]
  rfl

/-- A chunk that ends with a call of what refuses it throws. -/
theorem ends_tailCall_of_refuses {v : Value} {fa : Nat} (hv : h.Refuses v)
    (hF : ∀ t h', h'.Explains t → F t h') (scope : Scope) (site : CallSite) :
    ((chunkMachine m f a body scope []).tailCall h v [.function fa] site).Ends (n + 1) P F := by
  obtain ⟨l, hline⟩ := @atLine_chunkMachine m f a body
    (.values fun vs h ↦ (h, .effect (.return vs))) site.line scope
  have hlimit : Machine.calleeLimit = 199 + 1 := rfl
  rw [Machine.tailCall, hline, Machine.enter, hlimit]
  have hopen := Machine.open_host (m := m)
  rcases hv with ⟨hfunction, hcall⟩ | ⟨i, op, hv⟩
  · have hcallee : Machine.callee h (199 + 1) v [.function fa] = (v, [.function fa], .nothing) := by
      cases v with
      | primitive | function => cases hfunction
      | _ => simp [Machine.callee, hcall, Value.isNil]
    rw [hcallee]
    exact ends_throw (hopen.cons ⟨rfl, rfl⟩) (hF _ _ (.str _))
  · rw [hv.callee_eq]
    show Turn.Ends _ P F (ite _ _ _)
    split
    case isTrue => exact ends_throw (hopen.cons ⟨rfl, rfl⟩) (hF _ _ (.str _))
    case isFalse =>
      obtain ⟨t, h', ht, hthrow⟩ := exists_throw_invoke i op fa h
      rw [Machine.beginLibrary, hthrow]
      exact ends_throw ((hopen.cons ⟨rfl, rfl⟩).cons ⟨rfl, rfl⟩) (hF _ _ ht)

/-- A chunk that ends with the making of a coroutine answers it, if there is memory for that. -/
theorem ends_tailCall_create {fa : Nat}
    (hslots : f.slots + Machine.librarySlots ≤ Machine.slotLimit)
    (hfull : h.limit ≠ 0 → ∀ u, F noMemory { (h.newThread (.function fa)).2 with used := u })
    (hP : ∀ u, P [.thread h.threads.size] { (h.newThread (.function fa)).2 with used := u })
    (scope : Scope) (site : CallSite) :
    ((chunkMachine m f a body scope []).tailCall h (.primitive (.coroutine .create))
      [.function fa] site).Ends (n + 4) P F := by
  obtain ⟨l, hline⟩ := @atLine_chunkMachine m f a body
    (.values fun vs h ↦ (h, .effect (.return vs))) site.line scope
  have hlimit : Machine.calleeLimit = 199 + 1 := rfl
  rw [Machine.tailCall, hline, Machine.enter, hlimit, Machine.callee]
  show Turn.Ends _ P F (ite (Machine.slotLimit < f.slots + Machine.librarySlots) _ _)
  rw [if_neg (Nat.not_lt.2 hslots)]
  -- The coroutine is made, and handed to the chunk, which returns it.
  apply Turn.Ends.step
  show Turn.Ends _ P F (.go _ (h.newThread (.function fa)).2
    (.effect (.return [.thread h.threads.size])))
  apply Turn.Ends.step
  rw [Machine.step]
  refine ends_performWithin ?_ hfull fun u ↦ ?_
  · exact Machine.open_host.cons ⟨rfl, rfl⟩
  · exact Turn.ends_stop (hP u)

end TailCall

/-! ### Running a chunk -/

/-- What the chunk of a macro finds behind the global variable `coroutine`. As long as nobody
claimed that name, these are the functions of the library; and if somebody did, then nothing there
makes a coroutine. -/
structure Heap.Offers (h : Heap) (claimed : Prop) : Prop where
  yield : ∀ place name, (Action.index place name
    (h.rawGet h.registry.globals (textKey "coroutine")) (textValue "yield")).Comes h
      (fun v h' ↦ h' = h ∧ (¬claimed → v = .primitive (.coroutine .yield)))
      fun t h' ↦ claimed ∧ h'.Explains t
  create : ∀ place name, (Action.index place name
    (h.rawGet h.registry.globals (textKey "coroutine")) (textValue "create")).Comes h
      (fun v h' ↦ h' = h ∧ (claimed → h.Refuses v) ∧
        (¬claimed → v = .primitive (.coroutine .create)))
      fun t h' ↦ claimed ∧ h'.Explains t

/-- A chunk with certain statements answered a coroutine, and gave `coroutine.yield` to global
variables. The coroutine is the only new one, and has not been started; it is to run a function that
one of the statements declares. -/
structure Heap.Answers (h₀ : Heap) (claimed : Prop) (names : List String)
    (statements : List Statement) (vs : List Value) (h : Heap) : Prop where
  unclaimed : ¬claimed
  values_eq : vs = [.thread h₀.threads.size]
  fresh : ∃ fa x declared captured, h.threads = h₀.threads.push (.fresh (.function fa)) ∧
    h.function? fa = some (.script declared captured) ∧
    .declareFunction x declared ∈ statements
  follows : h₀.Follows (names.map textKey) h
  yield : ∀ name ∈ names,
    h.rawGet h₀.registry.globals (textKey name) = .primitive (.coroutine .yield)

/-- The chunk cannot be run: memory is limited, or somebody else claimed the name of coroutines. -/
def Heap.Fails (h₀ : Heap) (claimed : Prop) (t : Thrown) (h : Heap) : Prop :=
  (h₀.limit ≠ 0 ∨ claimed) ∧ h.Explains t

/-- The heap in front of a statement of a chunk: the global variables `given` have
`coroutine.yield`, and the `n` newest variables have functions that were declared. The chunk finds
its global variables at `env`. -/
structure Heap.Between (h₀ : Heap) (claimed : Prop) (names given : List String)
    (statements : List Statement) (env n : Nat) (scope : Scope) (h : Heap) : Prop where
  follows : h₀.Follows (names.map textKey) h
  threads_eq : h.threads = h₀.threads
  env_lt : env < h.cells.size
  env_eq : h.cell env = .table h₀.registry.globals
  functions : ∀ i < n, ∃ x, scope[i]? = some x ∧ x.2 < h.cells.size ∧
    ∃ fa name declared captured, h.cell x.2 = .function fa ∧
      h.function? fa = some (.script declared captured) ∧
      .declareFunction name declared ∈ statements
  yield : ¬claimed → ∀ name ∈ given,
    h.rawGet h₀.registry.globals (textKey name) = .primitive (.coroutine .yield)

section Run

variable {m : Machine} {h₀ h : Heap} {f : Frame} {a : Activation} {body : Block} {scope : Scope}
  {e : Effect} {claimed : Prop} {names given : List String} {env n k : Nat} {s : Statement}
  {all rest : List Statement} {P : List Value → Heap → Prop}

theorem Heap.fails_noMemory (hlimit : h₀.limit ≠ 0) : h₀.Fails claimed noMemory h :=
  ⟨.inl hlimit, .memory _⟩

theorem exists_of_yieldGlobal? {name : Name} (hs : yieldGlobal? s = some name) :
    ∃ env l value line, s = .assign [.index (.captured env 0) (.str name) l] [value] line ∧
      libraryField? value = some ("coroutine".toUTF8, "yield".toUTF8) := by
  fun_cases yieldGlobal? s with
  | case1 env name' l value line hvalue =>
    rw [yieldGlobal?, if_pos hvalue] at hs
    obtain rfl := Option.some.inj hs
    exact ⟨env, l, value, line, rfl, hvalue⟩
  | case2 env name' l value line hvalue =>
    rw [yieldGlobal?, if_neg hvalue] at hs
    exact nomatch hs
  | case3 => simp_all [yieldGlobal?]

theorem exists_of_answersCoroutine (hs : answersCoroutine n s = true) :
    ∃ f name i line, s = .tailCall (.call f [.scope name i] line) ∧ i < n ∧
      libraryField? f = some ("coroutine".toUTF8, "create".toUTF8) := by
  fun_cases answersCoroutine n s with
  | case1 f name i line =>
    simp only [answersCoroutine, Bool.and_eq_true, decide_eq_true_eq] at hs
    exact ⟨f, name, i, line, rfl, hs⟩
  | case2 => simp_all [answersCoroutine]

theorem exists_of_isEntrypointFrom_nil {statements : List Statement}
    (h : isEntrypointFrom n [] statements = true) :
    ∃ s, statements = [s] ∧ answersCoroutine n s = true := by
  match statements, h with
  | [s], h => exact ⟨s, rfl, h⟩

theorem exists_of_isEntrypointFrom_cons {name : String} {statements : List Statement}
    (h : isEntrypointFrom n (name :: names) statements = true) :
    ∃ s x declared rest, statements = s :: .declareFunction x declared :: rest ∧
      yieldGlobal? s = some name.toUTF8 ∧ isEntrypointFrom (n + 1) names rest = true := by
  match statements, h with
  | s :: .declareFunction x declared :: rest, h =>
    rw [isEntrypointFrom, Bool.and_eq_true, decide_eq_true_eq] at h
    exact ⟨s, x, declared, rest, rfl, h⟩

section Chunk

variable (hmetatable : (h₀.table h₀.registry.globals).metatable = none)
  (hoffers : ∀ h, h₀.Follows (names.map textKey) h → h.Offers claimed)
  (hf : f.pending = .none)

include hmetatable hoffers hf

/-- One more global variable has `coroutine.yield`, and one more function is declared. -/
theorem ends_piece {name : String} {x : Name} {declared : FunctionBody} (hname : name ∈ names)
    (hs : yieldGlobal? s = some name.toUTF8) (hdeclared : .declareFunction x declared ∈ all)
    (he : e.Plain)
    (hh : h₀.Between claimed names given all (a.captured.getD 0 0) n (e.scopeBehind scope) h)
    (hrest : ∀ e' h', e'.Plain →
      h₀.Between claimed names (name :: given) all (a.captured.getD 0 0) (n + 1)
        (e'.scopeBehind (e.scopeBehind scope)) h' →
      (setupTurn m f a body (e.scopeBehind scope) rest h' e').Ends (k + 1) P (h₀.Fails claimed)) :
    (setupTurn m f a body scope (s :: .declareFunction x declared :: rest) h e).Ends (k + 5) P
      (h₀.Fails claimed) := by
  obtain ⟨_, l, value, line, rfl, hvalue⟩ := exists_of_yieldGlobal? hs
  have hfull {h : Heap} (hh : h₀.Follows (names.map textKey) h) (hlimit : h.limit ≠ 0) :
      h₀.limit ≠ 0 := hh.grew.limit_eq ▸ hlimit
  -- The global variable.
  refine ends_setupTurn_of_comes he hf
    (fun hlimit _ ↦ Heap.fails_noMemory (hfull hh.follows hlimit)) fun u ↦ ?_
  have hh₁ := hh.follows.used u
  have hglobals : ({ h with used := u }.table h₀.registry.globals).metatable = none :=
    hh₁.metatable_eq.trans hmetatable
  have hregistry : h.registry.globals = h₀.registry.globals :=
    congrArg Registry.globals hh₁.grew.registry_eq
  let c : Context := ⟨e.scopeBehind scope, a.captured, a.varargs, a.info.source⟩
  have hsees : c.Sees { h with used := u } (.table h₀.registry.globals) := hh.env_eq
  have hyield := comes_libraryField hsees hglobals hvalue (hregistry ▸ (hoffers _ hh₁).yield)
  refine (comes_assign hsees hglobals hyield _ _ l line).mono ?_
    fun _ _ ⟨hclaimed, ht⟩ ↦ ⟨.inr hclaimed, ht⟩
  rintro _ _ ⟨rfl, v, hv, rfl⟩
  have hh₂ := hh₁.setGlobal (List.mem_map_of_mem hname) v
  have hread := Heap.rawGet_rawSet hh₁.lawful.1 hh₁.lawful.2 (textKey name) v h₀.registry.globals
  -- The function.
  refine ends_setupTurn_of_comes .next hf
    (fun hlimit _ ↦ Heap.fails_noMemory (hfull hh₂ hlimit)) fun u₂ ↦ ?_
  refine (comes_declareFunction x declared).mono ?_ fun _ _ hF ↦ hF
  rintro _ h₃ ⟨rfl, hgrew, hthreads, hlt, ⟨fa, captured, hnew, hfa⟩, hold⟩
  have hkept (k : Key) := Heap.rawGet_of_grew hgrew hh₂.lawful.1 List.not_mem_nil (k := k)
  refine hrest _ h₃ (.declare _) ⟨(hh₂.used u₂).of_tables hgrew, hthreads.trans hh.threads_eq,
    Nat.lt_trans hh.env_lt hlt, (hold _ hh.env_lt).trans hh.env_eq, fun i hi ↦ ?_,
    fun hclaimed name' hname' ↦ ?_⟩
  · cases i with
    | zero => exact ⟨_, rfl, hlt, fa, x, declared, captured, hnew, hfa, hdeclared⟩
    | succ i =>
      obtain ⟨x, hx, hcell, fa, name', declared', captured', hfa, hfunction, hmem⟩ :=
        hh.functions i (Nat.lt_of_succ_lt_succ hi)
      exact ⟨x, hx, Nat.lt_trans hcell hlt, fa, name', declared', captured',
        (hold _ hcell).trans hfa, hgrew.function?_eq hfunction, hmem⟩
  · refine (hkept (textKey name')).trans ((hread (textKey name')).trans ?_)
    split
    case isTrue => exact hv hclaimed
    case isFalse hne =>
      have hne' : name' ≠ name := fun heq ↦ hne ⟨rfl, congrArg textKey heq.symm⟩
      exact hh.yield hclaimed name' ((List.mem_cons.1 hname').resolve_left hne')

/-- The last statement answers a coroutine. -/
theorem ends_answer (hs : answersCoroutine n s = true) (he : e.Plain)
    (hslots : f.slots + Machine.librarySlots ≤ Machine.slotLimit)
    (hh : h₀.Between claimed names given all (a.captured.getD 0 0) n (e.scopeBehind scope) h)
    (hgiven : ∀ name ∈ names, name ∈ given) :
    (setupTurn m f a body scope [s] h e).Ends 8 (h₀.Answers claimed names all)
      (h₀.Fails claimed) := by
  obtain ⟨function, _, i, line, rfl, hi, hfunction⟩ := exists_of_answersCoroutine hs
  have hfull {h' : Heap} (hlimit : h.limit ≠ 0) : h₀.Fails claimed noMemory h' :=
    Heap.fails_noMemory (hh.follows.grew.limit_eq ▸ hlimit)
  refine ends_setupTurn he hf (fun hlimit _ ↦ hfull hlimit) fun u ↦ ?_
  have hh₁ := hh.follows.used u
  have hglobals : ({ h with used := u }.table h₀.registry.globals).metatable = none :=
    hh₁.metatable_eq.trans hmetatable
  have hregistry : h.registry.globals = h₀.registry.globals :=
    congrArg Registry.globals hh₁.grew.registry_eq
  let c : Context := ⟨e.scopeBehind scope, a.captured, a.varargs, a.info.source⟩
  have hsees : c.Sees { h with used := u } (.table h₀.registry.globals) := hh.env_eq
  have hcreate := comes_libraryField hsees hglobals hfunction
    (hregistry ▸ (hoffers _ hh₁).create)
  dsimp only
  rw [Action.exec, Action.bind_apply]
  refine (hcreate.mono (fun _ _ hv ↦ hv) fun _ _ ht ↦ ⟨.inr ht.1, ht.2⟩).ends
    (open_chunkMachine hf _ _) ?_
  rintro w _ ⟨rfl, hrefuses, hmakes⟩
  obtain ⟨_, hcell, -, fa, x, declared, captured, hfa, hscript, hdeclared⟩ := hh.functions i hi
  have hargument : Heap.cell { h with used := u } (c.address i) = .function fa := by
    rw [Context.address, hcell]
    exact hfa
  show Turn.Ends 6 _ _ (.go _ { h with used := u } (.tailCall w
    [Heap.cell { h with used := u } (c.address i)] _))
  rw [hargument]
  apply Turn.Ends.step
  rw [Machine.step]
  by_cases hclaimed : claimed
  · exact ends_tailCall_of_refuses (hrefuses hclaimed) (fun _ _ ht ↦ ⟨.inr hclaimed, ht⟩) _ _
  · rw [hmakes hclaimed]
    have hmade (u' : Nat) : Heap.Grew [] { h with used := u }
        { (Heap.newThread (.function fa) { h with used := u }).2 with used := u' } :=
      ⟨rfl, rfl, rfl, Nat.le_refl _, fun _ _ ↦ rfl, id⟩
    refine ends_tailCall_create hslots ?_ (fun u' ↦ ?_) _ _
    · exact fun hlimit _ ↦ hfull hlimit
    · refine ⟨hclaimed, ?_, ⟨fa, x, declared, captured, ?_, hscript, hdeclared⟩,
        hh₁.of_tables (hmade u'), fun name hname ↦ hh.yield hclaimed name (hgiven name hname)⟩
      · rw [← hh.threads_eq]
      · rw [← hh.threads_eq]
        rfl

/-- Piece by piece the chunk gets to its last statement. -/
theorem ends_from {left : List String} {statements : List Statement}
    (hfrom : isEntrypointFrom n left statements = true) (hall : ∀ s ∈ statements, s ∈ all)
    (hleft : ∀ name ∈ left, name ∈ names)
    (hgiven : ∀ name ∈ names, name ∈ given ∨ name ∈ left) (he : e.Plain)
    (hslots : f.slots + Machine.librarySlots ≤ Machine.slotLimit)
    (hh : h₀.Between claimed names given all (a.captured.getD 0 0) n (e.scopeBehind scope) h) :
    (setupTurn m f a body scope statements h e).Ends (4 * left.length + 8)
      (h₀.Answers claimed names all) (h₀.Fails claimed) := by
  induction left generalizing given n statements scope h e with
  | nil =>
    obtain ⟨s, rfl, hs⟩ := exists_of_isEntrypointFrom_nil hfrom
    exact ends_answer hmetatable hoffers hf hs he hslots hh fun name hname ↦
      (hgiven name hname).resolve_right List.not_mem_nil
  | cons name left ih =>
    obtain ⟨s, x, declared, rest, rfl, hs, hrest⟩ := exists_of_isEntrypointFrom_cons hfrom
    obtain ⟨hname, hleft⟩ := List.forall_mem_cons.1 hleft
    obtain ⟨-, hdeclared, hall⟩ : _ ∧ _ ∧ ∀ s ∈ rest, s ∈ all := by
      simpa only [List.forall_mem_cons] using hall
    refine ends_piece hmetatable hoffers hf hname hs hdeclared he hh fun e' h' he' hh' ↦ ?_
    refine ih hrest hall hleft (fun name' hname' ↦ ?_) he' hh'
    rcases hgiven name' hname' with hmem | hmem
    · exact .inl (List.mem_cons_of_mem name hmem)
    · rcases List.mem_cons.1 hmem with rfl | hmem
      · exact .inl List.mem_cons_self
      · exact .inr hmem

end Chunk

end Run

/-! ### Evaluating a chunk -/

theorem head?_ne_return (source : String) :
    ("return ".toUTF8 ++ (entrypointSource source).toUTF8).data.toList.head? ≠ some 27 := by
  obtain ⟨bs, hbs⟩ := exists_toList_return source
  rw [← Text.toList_eq_data_toList, hbs, Text.toList_toUTF8]
  simp only [returnHead, String.reduceToList]
  exact nofun

theorem head?_ne_entrypointSource (source : String) :
    (entrypointSource source).toUTF8.data.toList.head? ≠ some 27 := by
  rw [← Text.toList_eq_data_toList, toList_entrypointSource]
  generalize Lexer.indented _ _ = body
  simp only [Text.toList_toUTF8, entrypointHead, String.reduceToList]
  rintro ⟨⟩

namespace Interpreter

variable {μ : Type → Type} [Monad μ] [LawfulMonad μ] (respond : Responder μ) {i : Interpreter}
  {claimed : Prop}

/-- A call of the loaded chunk gets to its end, whatever machine it is called on. -/
theorem ends_beginCall_chunk {names : List String}
    (hlawful : i.heap.LawfulAt i.heap.registry.globals)
    (hmetatable : (i.heap.table i.heap.registry.globals).metatable = none)
    (hoffers : ∀ h, i.heap.Follows (names.map textKey) h → h.Offers claimed) {body : FunctionBody}
    (hbody : isEntrypoint names body = true) {i₁ : Interpreter} {m : Machine} {r u : Nat}
    (hi₁ : i₁ = ⟨m, { i.heap with running := r, used := u }⟩) (m' : Machine) (u' : Nat) :
    (m'.beginCall ({ i₁.workHeap with used := u' }.withChunk 0 (.table i₁.globals) body)
      (.function i₁.heap.functions.size) []).Ends (4 * names.length + 8)
        (i.heap.Answers claimed names body.block.statements) (i.heap.Fails claimed) := by
  subst hi₁
  let i₁ : Interpreter := ⟨m, { i.heap with running := r, used := u }⟩
  simp only [isEntrypoint, Bool.and_eq_true, decide_eq_true_eq] at hbody
  obtain ⟨⟨hparams, hslots⟩, hfrom⟩ := hbody
  let h := { i₁.workHeap with used := u' }.withChunk 0 (.table i₁.globals) body
  have hsize : body.info.frameSize ≤ Machine.slotLimit := by omega
  have hfunction : h.functions[i₁.heap.functions.size]? =
      some (.script body #[i₁.heap.cells.size]) := Array.getElem?_push_size
  obtain ⟨f, a, hcaptured, hpending, hf, hbegin⟩ :=
    beginCall_of_script (m := m') hfunction hparams hsize
  have haddress : a.captured.getD 0 0 = i₁.heap.cells.size := by rw [hcaptured]; rfl
  have hgrew : Heap.Grew [] i.heap { h with running := 0 } := by
    have hfunction : Heap.Grew [] i.heap
        (i.heap.newFunction (.script body #[i₁.heap.cells.size])).2 := .newFunction _ _
    exact ⟨rfl, rfl, rfl, Nat.le_refl _, fun _ _ ↦ rfl, hfunction.function?_eq⟩
  have hstart : i.heap.Between claimed names [] body.block.statements (a.captured.getD 0 0) 0 []
      { h with running := 0 } := by
    refine ⟨(Heap.Follows.refl hlawful).of_tables hgrew, rfl, ?_, ?_, by simp, by simp⟩
    · rw [haddress]
      simp [h, i₁, Heap.withChunk, Heap.newCell, Heap.newFunction, workHeap]
    · rw [haddress]
      simp [h, i₁, Heap.cell, Heap.withChunk, Heap.newCell, Heap.newFunction, workHeap]
      rfl
  rw [hbegin]
  exact ends_from hmetatable hoffers hpending hfrom (fun _ hs ↦ hs) (fun _ hname ↦ hname)
    (fun _ hname ↦ .inr hname) .next (hf ▸ hslots) hstart

/-- **The chunk of a macro.** It is no expression, so it is run, and it asks the host for nothing:
it answers a coroutine. Otherwise it cannot be loaded, under its name or at all, or memory is
limited, or nobody offers coroutines. -/
theorem exists_evaluate {names : List String} (hnames : 4 * names.length + 8 ≤ stepLimit)
    (hlawful : i.heap.LawfulAt i.heap.registry.globals)
    (hmetatable : (i.heap.table i.heap.registry.globals).metatable = none)
    (hoffers : ∀ h, i.heap.Follows (names.map textKey) h → h.Offers claimed) {name source : String}
    (hbody : ∀ body, Parser.parse name.toUTF8 0 (entrypointSource source).toUTF8 = .ok body →
      isEntrypoint names body = true) :
    ∃ r i', i.evaluate respond name (entrypointSource source).toUTF8 = pure (r, i') ∧ match r with
      | .ok vs => ∃ body,
          Parser.parse name.toUTF8 0 (entrypointSource source).toUTF8 = .ok body ∧
            i.heap.Answers claimed names body.block.statements vs i'.heap
      | .error _ => zeroByte? name.toUTF8 ≠ none ∨ i.heap.limit ≠ 0 ∨
        (∀ body, Parser.parse name.toUTF8 0 (entrypointSource source).toUTF8 ≠ .ok body) ∨
          claimed := by
  obtain ⟨e, he⟩ := exists_parse_return name.toUTF8 source
  obtain ⟨_, _, hfirst, hnothing⟩ := exists_loads respond (i := i) name (head?_ne_return source)
  rw [evaluate, hfirst, pure_bind]
  cases hnothing with
  | chunk hparse => exact nomatch he.symm.trans hparse
  | @nothing fault m r u =>
    let i₁ : Interpreter := ⟨m, { i.heap with running := r, used := u }⟩
    show ∃ r i', execute respond i₁ name (entrypointSource source).toUTF8 = pure (r, i') ∧ _
    obtain ⟨_, _, hsecond, hloads⟩ := exists_loads respond (i := i₁) name
      (head?_ne_entrypointSource source)
    rw [execute, hsecond, pure_bind]
    cases hloads with
    | nothing hwhy =>
      refine ⟨_, _, rfl, ?_⟩
      rcases hwhy with hname | hlimit | hnone
      · exact .inl hname
      · exact .inr (.inl hlimit)
      · exact .inr (.inr (.inl hnone))
    | @chunk body m' u' hparse =>
      have hends := ends_beginCall_chunk hlawful hmetatable hoffers (hbody body hparse)
        (show i₁ = _ from rfl) m' u'
      obtain ⟨result, i', hcall, hresult⟩ :=
        exists_call respond (i := ⟨m', _⟩) hends hnames fun _ _ hfails ↦ hfails.2
      refine ⟨result, i', hcall, ?_⟩
      cases result with
      | ok vs => exact ⟨body, hparse, hresult⟩
      | error fault =>
        obtain ⟨t, hlimit | hclaimed, -⟩ := hresult
        · exact .inr (.inl hlimit)
        · exact .inr (.inr (.inr hclaimed))

end Interpreter

end MacroStream.Script
