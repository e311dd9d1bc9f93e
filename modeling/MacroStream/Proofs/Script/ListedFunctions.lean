import MacroStream.Proofs.Script.Preparation

/-!
# Functions that are listed

A registry lists its functions as `Capability.Operation`, and the list is made without a look at
what becomes of the names. `ListedFunction` is an entry of the list with the position of the
capability that it was made of. A script finds it if reading this field of this global variable
gives a function that runs the operation of the capability at this position (`Heap.Finds`).

Capabilities and services take names from each other, and so does the chunk of a macro, which makes
`yield` a global variable. Whoever comes last has the name, and a listed function is found exactly
if its capability has it. From the order of precedence this follows name by name
(`dispatches_iff_of_bound`); what the chunk leaves alone is known from its run.

All this is about macros whose text stays inside the function that is made of it. A text that ends
its function early goes on in the chunk, and what stands there runs before the macro is resumed.
-/

namespace MacroStream

/-! ### The list -/

/-- An operation of the capability at a position, as it stands in the list of functions. -/
structure ListedFunction where
  position : Nat
  capability : String
  operation : String
  deriving DecidableEq, Repr

/-- What is listed. -/
def ListedFunction.text (f : ListedFunction) : String := f.capability ++ "." ++ f.operation

namespace CapabilityRegistry

variable {m : Type → Type}

/-- What the list of functions is made of, in order. -/
def listed (r : CapabilityRegistry m) : List ListedFunction :=
  r.capabilities.zipIdx.flatMap fun (c, i) ↦ c.operations.map fun op ↦ ⟨i, c.name, op⟩

theorem listFunctions_eq (r : CapabilityRegistry m) :
    r.listFunctions = r.listed.map ListedFunction.text := by
  suffices h : ∀ (cs : List (Capability m)) (n : Nat), cs.flatMap Capability.functions =
      ((cs.zipIdx n).flatMap fun (c, i) ↦ c.operations.map fun op ↦
        (⟨i, c.name, op⟩ : ListedFunction)).map ListedFunction.text from h r.capabilities 0
  intro cs n
  induction cs generalizing n with
  | nil => rfl
  | cons c cs ih =>
    rw [List.zipIdx_cons, List.flatMap_cons, List.flatMap_cons, List.map_append, ← ih, List.map_map]
    rfl

theorem mem_listed_iff {r : CapabilityRegistry m} {f : ListedFunction} :
    f ∈ r.listed ↔
      ∃ c, r.capabilities[f.position]? = some c ∧ c.name = f.capability ∧
        f.operation ∈ c.operations := by
  simp only [listed, List.mem_flatMap, List.mem_map, Prod.exists, List.mem_zipIdx_iff_getElem?]
  constructor
  · rintro ⟨c, i, hc, op, hop, rfl⟩
    exact ⟨c, hc, rfl, hop⟩
  · rintro ⟨c, hc, hname, hop⟩
    exact ⟨c, f.position, hc, f.operation, hop, by rw [hname]⟩

theorem listed_register (r : CapabilityRegistry m) (c : Capability m) :
    (r.register c).listed = r.listed ++ c.operations.map fun op ↦ ⟨r.size, c.name, op⟩ := by
  rw [listed, register, List.zipIdx_append, List.flatMap_append]
  simp [listed, size]

end CapabilityRegistry

namespace ScriptHost

variable {m : Type → Type} [Monad m]

/-- A service or a capability of the host has a name. -/
def Claims (host : ScriptHost m) (name : String) : Prop :=
  name ∈ host.services.names ∨ ∃ c ∈ host.macroCapabilities.capabilities, c.name = name

instance (host : ScriptHost m) (name : String) : Decidable (host.Claims name) :=
  inferInstanceAs (Decidable (_ ∨ _))

/-- Whatever the host lists itself comes first in the list. -/
theorem listed_prefix (host : ScriptHost m) :
    host.capabilities.listed <+: host.macroCapabilities.listed := by
  rw [macroCapabilities]
  split
  case h_1 => exact ⟨_, (CapabilityRegistry.listed_register ..).symm⟩
  case h_2 => exact List.prefix_rfl

/-- With stored macros, scripts can ask for the list. -/
theorem exists_listFunctions {host : ScriptHost m} {store : StoredMacros}
    (hstore : host.store = some store) :
    ∃ f ∈ host.macroCapabilities.listed, f.text = "Internal.ListFunctions" ∧
      ∃ own, host.macroCapabilities.capabilities[f.position]? = some own ∧
        ∀ args, own.invoke f.operation args =
          pure (.ok (.arr (host.macroCapabilities.listFunctions.map .str))) := by
  let own : Capability m := .internal store (host.capabilities.listFunctions ++
    Capability.internalOperations.map fun op ↦ Capability.internalName ++ "." ++ op)
  have hown : host.macroCapabilities = host.capabilities.register own := by
    rw [macroCapabilities, hstore]
    rfl
  have hlist : host.macroCapabilities.listFunctions = host.capabilities.listFunctions ++
      Capability.internalOperations.map fun op ↦ Capability.internalName ++ "." ++ op := by
    rw [hown, CapabilityRegistry.listFunctions, CapabilityRegistry.register, List.flatMap_append]
    simp [CapabilityRegistry.listFunctions, own, Capability.functions, Capability.internal]
  have hposition : host.macroCapabilities.capabilities[host.capabilities.size]? = some own := by
    rw [hown, CapabilityRegistry.register, CapabilityRegistry.size, List.getElem?_concat_length]
  have hoperation : "ListFunctions" ∈ Capability.internalOperations := by decide
  refine ⟨⟨host.capabilities.size, Capability.internalName, "ListFunctions"⟩,
    CapabilityRegistry.mem_listed_iff.2 ⟨own, hposition, rfl, hoperation⟩, rfl, own, hposition,
    fun args ↦ ?_⟩
  rw [hlist]
  rfl

end ScriptHost

namespace Script

/-! ### Reading fields -/

/-- What a script gets that reads a field of a value. -/
def Heap.Reads (h : Heap) (o : Value) (field : String) (v : Value) : Prop :=
  ∀ place name k, Action.index place name o (textValue field) k h = k v h

/-- Under its name a listed function is found: a field of a global variable, which runs just this
operation. -/
def Heap.Finds (h : Heap) (f : ListedFunction) : Prop :=
  ∃ group, h.Reads (.table h.registry.globals) f.capability group ∧
    ∃ v, h.Reads group f.operation v ∧ h.Dispatches v f.position f.operation

section Reads

variable {h : Heap} {a : Nat} {o v : Value} {field : String} {P : Value → Heap → Prop}
  {F : Thrown → Heap → Prop}

/-- What comes of reading a field is what is read. -/
theorem Heap.Reads.of_comes (hv : h.Reads o field v)
    (hcomes : (Action.index none none o (textValue field)).Comes h P F) : P v h := by
  have hread := hv none none fun v h ↦ (h, .answer [v])
  rcases hcomes with ⟨w, h', hP, hx⟩ | ⟨t, h', -, hx⟩
  · have heq := (hx fun v h ↦ (h, .answer [v])).symm.trans hread
    obtain ⟨rfl, hanswer⟩ := Prod.mk.inj heq
    obtain rfl : w = v := by simpa using hanswer
    exact hP
  · exact nomatch congrArg Prod.snd ((hx _).symm.trans hread)

theorem Heap.reads_table_iff (ha : (h.table a).metatable = none) :
    h.Reads (.table a) field v ↔ v = h.rawGet a (textKey field) := by
  have hmetafield := metafield_of_no_metatable ha MetaName.index
  constructor
  · intro hv
    exact hv.of_comes (F := fun _ _ ↦ False)
      (comes_index_of_table none none field hmetafield (P := fun w _ ↦ w = _) rfl)
  · rintro rfl place name k
    exact index_of_metafield hmetafield place name field.toUTF8 k

end Reads

/-! ### Behind the bindings -/

section Finds

open Binding

variable {h₀ h : Heap} {c m s i i' : Nat} {op op' : String} {v : Value}
  {service? : String → Option Json} {outline : List (String × List String)} {f : ListedFunction}

theorem Heap.Dispatches.unique (hv : h.Dispatches v i op) (hv' : h.Dispatches v i' op') :
    i = i' ∧ op = op' := by
  obtain ⟨a, rfl, ha⟩ := hv
  obtain ⟨a', heq, ha'⟩ := hv'
  obtain rfl := Value.function.inj heq
  simpa using Option.some.inj (ha.symm.trans ha')

theorem Heap.Dispatches.isObject (hv : h.Dispatches v i op) : v.isObject = true := by
  obtain ⟨a, rfl, -⟩ := hv
  rfl

theorem Heap.Inert.isObject (hv : h.Inert v) : v.isObject = false := by
  cases hv <;> rfl

/-- In what became of JSON, and behind strings, there are no functions of capabilities. -/
theorem not_dispatches_of_image {made : Heap} {j : Json} {o : Value} {field : String}
    (hl : h.Libraries c m s) (ho : Heap.Image made h j o) (hv : h.Reads o field v) :
    ¬h.Dispatches v i op := by
  intro hdispatches
  have hobject := hdispatches.isObject
  obtain ⟨-, hinert | hstring⟩ := hv.of_comes (comes_index_of_image none none field hl ho)
  · rw [hinert.isObject] at hobject
    exact nomatch hobject
  · rw [hstring, hl.strings] at hobject
    exact nomatch hobject

/-- The winner of the name of a capability has the function for an operation exactly if it is the
table of just this capability. -/
theorem dispatches_iff_of_bound {ops : List String} (hl : h.Libraries c m s)
    (hf : outline[f.position]? = some (f.capability, ops)) (hop : f.operation ∈ ops)
    (hb : Bound h₀ service? outline h (textKey f.capability) v) :
    (∃ w, h.Reads v f.operation w ∧ h.Dispatches w f.position f.operation) ↔
      service? f.capability = none ∧
        ∀ n > f.position, ∀ ops', outline[n]? ≠ some (f.capability, ops') := by
  have hclaimed : ¬IsUnclaimed service? outline (textKey f.capability) := fun hk ↦
    (hk _ rfl).2 (List.mem_map.2 ⟨_, List.mem_of_getElem? hf, rfl⟩)
  generalize hkey : textKey f.capability = k at hb hclaimed
  cases hb with
  | @service name j made v hj hmade himage =>
    have hname : f.capability = name := textKey_injective hkey
    refine iff_of_false ?_ ?_
    · rintro ⟨w, hw, hdispatches⟩
      exact not_dispatches_of_image hl himage hw hdispatches
    · rintro ⟨hnone, -⟩
      rw [hname, hj] at hnone
      exact nomatch hnone
  | @group name ops' i a hservice hi hlast hnew ha =>
    have hname : f.capability = name := textKey_injective hkey
    rw [hname] at hf ⊢
    simp only [Heap.reads_table_iff ha.metatable_eq, exists_eq_left]
    constructor
    · intro hdispatches
      obtain ⟨op, hop', heq⟩ := ha.keys _ hdispatches.ne_nil
      obtain rfl := textKey_injective heq
      obtain ⟨hposition, -⟩ := hdispatches.unique (ha.dispatches _ hop')
      rw [hposition]
      exact ⟨hservice, hlast⟩
    · rintro ⟨-, hlast'⟩
      -- Both are the last capability of the name.
      have hposition : f.position = i := by
        rcases Nat.lt_trichotomy f.position i with hlt | heq | hgt
        · exact absurd hi (hlast' i hlt ops')
        · exact heq
        · exact absurd hf (hlast f.position hgt ops)
      rw [hposition, hi] at hf
      obtain rfl : ops' = ops := by simpa using hf
      rw [hposition]
      exact ha.dispatches f.operation hop
  | kept hk | operation hk | nothing hk => exact absurd hk hclaimed

/-- A function has no fields. -/
theorem not_reads_primitive (hl : h.Libraries c m s) (p : Primitive) (field : String) :
    ¬h.Reads (.primitive p) field v := by
  intro hv
  have hindex : h.metafield (.primitive p) MetaName.index = .nil :=
    hl.metafield_eq_nil (by simp [Value.typeName]) _
  exact hv.of_comes (comes_index_of_not_table none none field hindex (by simp)
    (P := fun _ _ ↦ False))

/-- Behind the chunk of a macro, the listed functions that are found are those of capabilities whose
names nobody took: no service, no later capability, and not the chunk. -/
theorem finds_iff_of_bindings {hp : Heap} {ops names : List String} (hl : h.Libraries c m s)
    (hb : Bindings service? outline h₀ hp)
    (hmetatable : (h₀.table h₀.registry.globals).metatable = none)
    (hfollows : hp.Follows (names.map textKey) h)
    (hyield : ∀ name ∈ names,
      h.rawGet hp.registry.globals (textKey name) = .primitive (.coroutine .yield))
    (hf : outline[f.position]? = some (f.capability, ops)) (hop : f.operation ∈ ops) :
    h.Finds f ↔ f.capability ∉ names ∧ service? f.capability = none ∧
      ∀ n > f.position, ∀ ops', outline[n]? ≠ some (f.capability, ops') := by
  have hregistry : hp.registry.globals = h₀.registry.globals := by rw [hb.grew.registry_eq]
  have hregistry' : h.registry.globals = h₀.registry.globals := by
    rw [hfollows.grew.registry_eq, hregistry]
  have hgrew := hfollows.grew
  have hkept := hfollows.rawGet_eq
  have hmetatable' := hfollows.metatable_eq
  rw [hregistry] at hyield hgrew hkept hmetatable'
  rw [hb.metatable_eq, hmetatable] at hmetatable'
  simp only [Heap.Finds, hregistry', Heap.reads_table_iff hmetatable', exists_eq_left]
  by_cases hname : f.capability ∈ names
  · refine iff_of_false ?_ fun hboth ↦ hboth.1 hname
    rintro ⟨w, hw, -⟩
    rw [hyield _ hname] at hw
    exact not_reads_primitive hl _ _ hw
  · have hkey : textKey f.capability ∉ names.map textKey := by
      rwa [List.mem_map_of_injective textKey_injective]
    have hbound := (hb.bound (textKey f.capability)).grew hb.globals_lt hgrew
    rw [hkept _ hkey, dispatches_iff_of_bound hl hf hop hbound]
    exact (and_iff_right hname).symm

end Finds

/-! ### Starting a macro -/

/-- The chunk of a macro as it is read. -/
def macroChunk (name source : String) : Except ChunkFault FunctionBody :=
  Parser.parse (macroChunkName name).toUTF8 0 (entrypointSource source).toUTF8

/-- The text of a macro stays inside the function that its chunk makes of it. It does not end this
function to go on with statements of the chunk, which would run at once. -/
def StaysInside (name source : String) : Prop :=
  ∀ body, macroChunk name source = .ok body → isEntrypoint ["yield"] body = true

end Script

/-- Nobody who comes later takes the name of its capability away from a listed function: no service,
and no later capability. -/
structure ListedFunction.Prevails {m : Type → Type} [Monad m] (host : ScriptHost m)
    (f : ListedFunction) : Prop where
  not_service : f.capability ∉ host.services.names
  last : ∀ n > f.position, ∀ c, host.macroCapabilities.capabilities[n]? = some c →
    c.name ≠ f.capability

namespace Script

section Start

variable {μ : Type → Type} [Monad μ]

/-- How a list of functions is meant: what its entries are made of, and what there is to run. -/
structure ListsFunctions (p : Platform μ) (config : ScriptingConfig) (host : ScriptHost μ) :
    Prop where
  host_eq : host.capabilities.listFunctions = host.capabilities.listed.map ListedFunction.text
  host_prefix : host.capabilities.listed <+: host.macroCapabilities.listed
  macro_eq : host.macroCapabilities.listFunctions =
    host.macroCapabilities.listed.map ListedFunction.text
  /-- With stored macros, one of the functions answers the list. -/
  told : ∀ store, host.store = some store → ∃ f ∈ host.macroCapabilities.listed,
    f.text = "Internal.ListFunctions" ∧ ∀ args,
      Session.macroResponder p config host (.invoke f.position f.operation args) =
        (pure (.ok (.arr (host.macroCapabilities.listFunctions.map .str))) : μ (Outcome Json))
  /-- The host answers for a function by the operation that it was listed for. -/
  respond_eq : ∀ f ∈ host.macroCapabilities.listed, ∃ c,
    host.macroCapabilities.capabilities[f.position]? = some c ∧ c.name = f.capability ∧
      f.operation ∈ c.operations ∧ ∀ args,
        Session.macroResponder p config host (.invoke f.position f.operation args) =
          c.invoke f.operation args

/-- What the script of a macro finds before it is resumed, if its chunk makes `names` global
variables. -/
structure FindsFunctions (host : ScriptHost μ) (names : List String) (h : Heap) : Prop where
  unclaimed : ¬host.Claims "coroutine"
  finds_iff : ∀ f ∈ host.macroCapabilities.listed,
    h.Finds f ↔ f.capability ∉ names ∧ f.Prevails host
  callee_eq : ∀ {v i op}, h.Dispatches v i op → ∀ fuel args,
    Machine.callee h (fuel + 1) v args = (v, args, .library (Library.invoke i op args))

/-- The report that a macro is started. -/
def startReport (name : String) : Diagnostic :=
  ⟨.debug, .scripts, "Initializing Lua macro", [("macro_name", .quoted name)]⟩

/-- What keeps the script of a macro from being started. -/
inductive Hindrance (config : ScriptingConfig) (host : ScriptHost μ) (name source : String) : Prop
  | name (hname : Interpreter.zeroByte? (macroChunkName name).toUTF8 ≠ none)
  | memory (hlimit : config.memoryLimitMb ≠ 0)
  | chunk (hchunk : ∀ body, macroChunk name source ≠ .ok body)
  | coroutine (hclaims : host.Claims "coroutine")

theorem macroResponder_invoke (p : Platform μ) (config : ScriptingConfig) {host : ScriptHost μ}
    {i : Nat} {c : Capability μ} (hc : host.macroCapabilities.capabilities[i]? = some c)
    (op : String) (args : List Json) :
    Session.macroResponder p config host (.invoke i op args) = c.invoke op args := by
  rw [Session.macroResponder, Session.respond, hc]

theorem listsFunctions (p : Platform μ) (config : ScriptingConfig) (host : ScriptHost μ) :
    ListsFunctions p config host := by
  refine ⟨host.capabilities.listFunctions_eq, host.listed_prefix,
    host.macroCapabilities.listFunctions_eq, fun store hstore ↦ ?_, fun f hf ↦ ?_⟩
  · obtain ⟨f, hf, htext, own, hown, hanswer⟩ := ScriptHost.exists_listFunctions hstore
    exact ⟨f, hf, htext, fun args ↦
      (macroResponder_invoke p config hown f.operation args).trans (hanswer args)⟩
  · obtain ⟨c, hc, hname, hop⟩ := CapabilityRegistry.mem_listed_iff.1 hf
    exact ⟨c, hc, hname, hop, macroResponder_invoke p config hc f.operation⟩

theorem prevails_iff {host : ScriptHost μ} {f : ListedFunction} :
    f.Prevails host ↔ host.services.services.reverse.lookup f.capability = none ∧
      ∀ n > f.position, ∀ ops,
        (Binding.outline host.macroCapabilities)[n]? ≠ some (f.capability, ops) := by
  rw [HostServices.lookup_reverse_eq_none_iff]
  have hlast (n : Nat) : (∀ ops, (Binding.outline host.macroCapabilities)[n]? ≠
      some (f.capability, ops)) ↔
        ∀ c, host.macroCapabilities.capabilities[n]? = some c → c.name ≠ f.capability := by
    rw [Binding.outline, List.getElem?_map]
    cases host.macroCapabilities.capabilities[n]? <;> simp
  simp only [hlast]
  exact ⟨fun h ↦ ⟨h.not_service, h.last⟩, fun h ↦ ⟨h.1, h.2⟩⟩

theorem isUnclaimed_iff {host : ScriptHost μ} {name : String} :
    Binding.IsUnclaimed (fun n ↦ host.services.services.reverse.lookup n)
      (Binding.outline host.macroCapabilities) (textKey name) ↔ ¬host.Claims name := by
  have houtline : name ∈ (Binding.outline host.macroCapabilities).map Prod.fst ↔
      ∃ c ∈ host.macroCapabilities.capabilities, c.name = name := by
    simp [Binding.outline]
  rw [ScriptHost.Claims, not_or, ← houtline, HostServices.names,
    ← HostServices.lookup_reverse_eq_none_iff]
  constructor
  · exact fun hk ↦ hk name rfl
  · rintro hk n heq
    obtain rfl := textKey_injective heq
    exact hk

variable [LawfulMonad μ]

/-- What comes of the chunk of a macro, in an interpreter that was prepared with the heap `h₀`. It
answers a coroutine, of which a session is made; or it fails, and there is a reason. -/
inductive Starts (config : ScriptingConfig) (host : ScriptHost μ) (name source : String)
    (names : List String) (h₀ : Heap) :
    Except ScriptFault (List Value) → Interpreter → Outcome Session → Prop
  | ready {body : FunctionBody} {t : Nat} {i : Interpreter}
      (hbody : macroChunk name source = .ok body)
      (hanswers : h₀.Answers (host.Claims "coroutine") names body.block.statements [.thread t]
        i.heap)
      (hfinds : FindsFunctions host names i.heap) :
      Starts config host name source names h₀ (.ok [.thread t]) i (.ok ⟨i, t⟩)
  | hindered {fault : ScriptFault} {i : Interpreter} (h : Hindrance config host name source) :
      Starts config host name source names h₀ (.error fault) i (.error (Session.chunkFailed fault))

/-- Chunks that make `names` global variables are started without a question to the host, which is
only sent reports. -/
theorem exists_start_of_isEntrypoint (p : Platform μ) (config : ScriptingConfig)
    (host : ScriptHost μ) {name source : String} {names : List String}
    (hnames : 4 * names.length + 8 ≤ stepLimit) (hcoroutine : "coroutine" ∉ names)
    (hchunk : ∀ body, macroChunk name source = .ok body → isEntrypoint names body = true) :
    ∃ reports i r i' o,
      Session.prepare p (Session.macroResponder p config host) config host.macroCapabilities
          host.services = (do Session.reportAll p reports; pure (.ok i)) ∧
      i.evaluate (Session.macroResponder p config host) (macroChunkName name)
          (entrypointSource source).toUTF8 = pure (r, i') ∧
      Session.start p config host name source =
        (do Session.reportAll p (startReport name :: reports); pure o) ∧
      Starts config host name source names i.heap r i' o := by
  have hkeys : textKey "coroutine" ∉ names.map textKey := by
    rwa [List.mem_map_of_injective textKey_injective]
  have hclaimed : (¬Binding.IsUnclaimed (fun n ↦ host.services.services.reverse.lookup n)
      (Binding.outline host.macroCapabilities) (textKey "coroutine")) = host.Claims "coroutine" :=
    propext (isUnclaimed_iff.not.trans not_not)
  obtain ⟨reports, i, h₀, c, m, s, hprepare, hp⟩ := exists_prepare p
    (Session.macroResponder p config host) config host.macroCapabilities host.services
  have hregistry := hp.bindings.grew.registry_eq
  obtain ⟨r, i', hevaluate, hr⟩ := Interpreter.exists_evaluate
    (Session.macroResponder p config host) (i := i) hnames (hregistry ▸ hp.bindings.lawful)
    (by rw [hregistry, hp.bindings.metatable_eq, hp.furnished.metatable_eq])
    (fun _ hfollows ↦ hclaimed ▸ hp.offers hkeys hfollows) hchunk
  have hstart (o : Outcome Session) (ho : (match r with
      | .ok vs => Session.ofResults i' vs
      | .error fault => .error (Session.chunkFailed fault)) = o) :
      Session.start p config host name source =
        (do Session.reportAll p (startReport name :: reports); pure o) := by
    subst ho
    rw [Session.start]
    simp only [hprepare, bind_assoc, pure_bind, hevaluate, Session.reportAll, startReport]
    cases r <;> rfl
  cases r with
  | error fault =>
    refine ⟨reports, i, _, i', _, hprepare, hevaluate, hstart _ rfl, .hindered ?_⟩
    rcases hr with hname | hlimit | hparse | hclaims
    · exact .name hname
    · refine .memory fun hzero ↦ hlimit ?_
      rw [hp.bindings.grew.limit_eq, hp.limit_eq, hzero]
      rfl
    · exact .chunk hparse
    · exact .coroutine hclaims
  | ok vs =>
    obtain ⟨body, hbody, hanswers⟩ := hr
    obtain rfl := hanswers.values_eq
    refine ⟨reports, i, _, i', _, hprepare, hevaluate, hstart _ rfl, .ready hbody hanswers
      ⟨hanswers.unclaimed, fun f hf ↦ ?_, fun hv ↦ hv.callee_eq⟩⟩
    obtain ⟨capability, hposition, hname, hop⟩ := CapabilityRegistry.mem_listed_iff.1 hf
    have houtline : (Binding.outline host.macroCapabilities)[f.position]? =
        some (f.capability, capability.operations) := by
      rw [Binding.outline, List.getElem?_map, hposition, ← hname]
      rfl
    rw [prevails_iff]
    exact finds_iff_of_bindings (hp.libraries hanswers.follows) hp.bindings
      hp.furnished.metatable_eq hanswers.follows hanswers.yield houtline hop

theorem always_init_of_isEntrypoint (p : Platform μ) (config : ScriptingConfig)
    (host : ScriptHost μ) {name source : String} {names : List String}
    (hnames : 4 * names.length + 8 ≤ stepLimit) (hcoroutine : "coroutine" ∉ names)
    (hchunk : ∀ body, macroChunk name source = .ok body → isEntrypoint names body = true) :
    Always (fun o ↦ match o with
      | .ok b => ∃ s : Session, b = ⟨some (.ofThread s)⟩ ∧
          FindsFunctions host names s.interpreter.heap
      | .error _ => Hindrance config host name source)
      (ScriptBridge.init (macroEngine p config host) name source) := by
  obtain ⟨reports, i, r, i', o, -, -, hstart, hstarts⟩ :=
    exists_start_of_isEntrypoint p config host hnames hcoroutine hchunk
  have hinit : Always (Eq o) (Session.start p config host name source) := by
    rw [hstart]
    exact (Always.trivially _).bind fun _ _ ↦ .pure rfl
  refine hinit.bind ?_
  rintro _ rfl
  refine .pure ?_
  cases hstarts with
  | ready _ _ hfinds => exact ⟨_, rfl, hfinds⟩
  | hindered h => exact h

end Start

/-! ### Hosts that do not answer -/

/-- A platform on which nothing can be done. -/
def deafPlatform : Platform Id where
  files := {
    kind? _ := none
    read _ := .error .notFound
    list _ := .error .notFound
    write _ _ _ := .error .denied
    makeDirectory _ := .error .denied
    remove _ := .error .denied
    rename _ _ := .error .denied }
  report _ := ()
  print _ := ()
  printForScript _ _ := ()
  complain _ := ()
  environment _ := none
  time := 0
  clock := 0
  exit _ := ()

/-- A capability that answers null. -/
def muteCapability (name : String) (operations : List String) : Capability Id :=
  ⟨name, operations, fun _ _ ↦ .ok .null⟩

/-- Whether the chunk of a macro can be read, and makes `names` global variables. -/
def givesYield (names : List String) (source : String) : Bool :=
  match macroChunk "m" source with
  | .ok body => isEntrypoint names body
  | .error _ => false

theorem exists_of_givesYield {names : List String} {source : String}
    (hcheck : givesYield names source = true) :
    ∃ body, macroChunk "m" source = .ok body ∧ isEntrypoint names body = true := by
  rw [givesYield] at hcheck
  split at hcheck
  case h_1 body hbody => exact ⟨body, hbody, hcheck⟩
  case h_2 => exact nomatch hcheck

theorem not_hindrance {host : ScriptHost Id} {source : String} {body : FunctionBody}
    (hbody : macroChunk "m" source = .ok body) (hclaims : ¬host.Claims "coroutine") :
    ¬Hindrance {} host "m" source := by
  intro h
  cases h with
  | name hname => exact hname (by decide)
  | memory hlimit => exact hlimit rfl
  | chunk hchunk => exact hchunk body hbody
  | coroutine h => exact hclaims h

theorem exists_init_eq {host : ScriptHost Id} {source : String} {names : List String}
    (hnames : 4 * names.length + 8 ≤ stepLimit) (hcoroutine : "coroutine" ∉ names)
    (hcheck : givesYield names source = true) (hclaims : ¬host.Claims "coroutine") :
    ∃ s : Session, Id.run (ScriptBridge.init (macroEngine deafPlatform {} host) "m" source) =
        .ok ⟨some (.ofThread s)⟩ ∧ FindsFunctions host names s.interpreter.heap := by
  obtain ⟨body, hbody, hentrypoint⟩ := exists_of_givesYield hcheck
  have hchunk : ∀ body', macroChunk "m" source = .ok body' → isEntrypoint names body' = true := by
    intro body' hbody'
    rwa [← Except.ok.inj (hbody.symm.trans hbody')]
  have hinit := always_init_of_isEntrypoint deafPlatform {} host hnames hcoroutine hchunk
  rw [Always.id_iff] at hinit
  generalize Id.run (ScriptBridge.init (macroEngine deafPlatform {} host) "m" source) = o at hinit ⊢
  cases o with
  | error e => exact absurd hinit (not_hindrance hbody hclaims)
  | ok b =>
    obtain ⟨s, rfl, hfinds⟩ := hinit
    exact ⟨s, rfl, hfinds⟩

/-! ### Functions that are listed -/

/-- **Listed functions are found, unless their names are taken.** When the script of a macro has
been started, a listed function is found exactly if no service and no later capability has the name
of its capability, and if that is not `yield`. Where nobody claims `coroutine` and memory is not
limited, a script that can be read is started. -/
theorem finds_iff_prevails {μ : Type → Type} [Monad μ] [LawfulMonad μ] (p : Platform μ)
    (config : ScriptingConfig) (host : ScriptHost μ) {name source : String}
    (hsource : StaysInside name source) :
    ListsFunctions p config host ∧
      Always (fun o ↦ match o with
        | .ok b => ∃ s : Session, b = ⟨some (.ofThread s)⟩ ∧
            FindsFunctions host ["yield"] s.interpreter.heap
        | .error _ => Hindrance config host name source)
        (ScriptBridge.init (macroEngine p config host) name source) :=
  ⟨listsFunctions p config host,
    always_init_of_isEntrypoint p config host (by decide) (by decide) hsource⟩

/-- A host whose capabilities lose their names: to a later capability, to the chunk of a macro, and
to a service. -/
def rivalHost : ScriptHost Id where
  capabilities := ⟨[muteCapability "A" ["x"], muteCapability "A" ["y"],
    muteCapability "yield" ["z"], muteCapability "B" ["w"]]⟩
  services := .ofList [("B", .bool true)]
  store := none

/-- A host with nothing to compete for. -/
def loneHost : ScriptHost Id := ⟨⟨[muteCapability "A" ["x"]]⟩, .empty, none⟩

/-- A text that ends its function early, to put something else under the name of a capability. -/
def escapingSource : String := "end A = coroutine.yield local function b()"

theorem givesYield_empty : givesYield ["yield"] "" = true := by
  decide +kernel

theorem givesYield_escapingSource : givesYield ["yield", "A"] escapingSource = true := by
  decide +kernel

theorem staysInside_empty : StaysInside "m" "" := by
  obtain ⟨body, hbody, hcheck⟩ := exists_of_givesYield givesYield_empty
  intro body' hbody'
  rwa [← Except.ok.inj (hbody.symm.trans hbody')]

/-- Of two capabilities with one name, only the functions of the later one are found. -/
theorem finds_iff_prevails_rivalHost :
    StaysInside "m" "" ∧
      ∃ s : Session, Id.run (ScriptBridge.init (macroEngine deafPlatform {} rivalHost) "m" "") =
          .ok ⟨some (.ofThread s)⟩ ∧
        s.interpreter.heap.Finds ⟨1, "A", "y"⟩ ∧ ¬s.interpreter.heap.Finds ⟨0, "A", "x"⟩ := by
  refine ⟨staysInside_empty, ?_⟩
  obtain ⟨-, hinit⟩ := finds_iff_prevails deafPlatform {} rivalHost staysInside_empty
  rw [Always.id_iff] at hinit
  generalize Id.run (ScriptBridge.init (macroEngine deafPlatform {} rivalHost) "m" "") = o
    at hinit ⊢
  obtain ⟨body, hbody, -⟩ := exists_of_givesYield givesYield_empty
  cases o with
  | error e =>
    exact absurd hinit (not_hindrance hbody (show ¬rivalHost.Claims "coroutine" by decide))
  | ok b =>
    obtain ⟨s, rfl, -, hfinds, -⟩ := hinit
    refine ⟨s, rfl, (hfinds _ (by decide)).2 ⟨by decide, by decide, fun n hn c hc ↦ ?_⟩,
      fun hfound ↦ ?_⟩
    · have hlt : n < 4 := (List.getElem?_eq_some_iff.1 hc).1
      have hn' : 1 < n := hn
      obtain rfl | rfl : n = 2 ∨ n = 3 := by omega
      · obtain rfl := Option.some.inj hc
        decide
      · obtain rfl := Option.some.inj hc
        decide
    · exact ((hfinds _ (by decide)).1 hfound).2.last 1 Nat.one_pos _ rfl rfl

/-- Not all functions that are listed are found. Names get lost to a later capability, to the chunk
and to a service, and to a text that ends its function early. -/
theorem exists_listed_not_found :
    (∃ s : Session, Id.run (ScriptBridge.init (macroEngine deafPlatform {} rivalHost) "m" "") =
        .ok ⟨some (.ofThread s)⟩ ∧
      ∀ f ∈ [⟨0, "A", "x"⟩, ⟨2, "yield", "z"⟩, ⟨3, "B", "w"⟩],
        f ∈ rivalHost.macroCapabilities.listed ∧ ¬s.interpreter.heap.Finds f) ∧
    ∃ s : Session,
      Id.run (ScriptBridge.init (macroEngine deafPlatform {} loneHost) "m" escapingSource) =
        .ok ⟨some (.ofThread s)⟩ ∧
      ⟨0, "A", "x"⟩ ∈ loneHost.macroCapabilities.listed ∧
        ¬s.interpreter.heap.Finds ⟨0, "A", "x"⟩ := by
  constructor
  · obtain ⟨s, hs, -, hfinds, -⟩ := exists_init_eq (by decide) (by decide) givesYield_empty
      (show ¬rivalHost.Claims "coroutine" by decide)
    have hlisted : ∀ f ∈ [⟨0, "A", "x"⟩, ⟨2, "yield", "z"⟩, ⟨3, "B", "w"⟩],
        f ∈ rivalHost.macroCapabilities.listed := by decide
    refine ⟨s, hs, fun f hf ↦ ⟨hlisted f hf, fun hfound ↦ ?_⟩⟩
    obtain ⟨hyield, hservice, hlast⟩ := (hfinds f (hlisted f hf)).1 hfound
    simp only [List.mem_cons, List.not_mem_nil, or_false] at hf
    rcases hf with rfl | rfl | rfl
    · exact hlast 1 Nat.one_pos _ rfl rfl
    · exact hyield List.mem_cons_self
    · exact hservice (by decide)
  · obtain ⟨s, hs, -, hfinds, -⟩ := exists_init_eq (by decide) (by decide) givesYield_escapingSource
      (show ¬loneHost.Claims "coroutine" by decide)
    have hlisted : ⟨0, "A", "x"⟩ ∈ loneHost.macroCapabilities.listed := by decide
    exact ⟨s, hs, hlisted, fun hfound ↦ ((hfinds _ hlisted).1 hfound).1 (by decide)⟩

end Script

end MacroStream
