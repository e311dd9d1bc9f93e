import MacroStream.Proofs.Script.GlobalReads

/-!
# Interpreters that are prepared for a macro

Before the chunk of a macro runs, its interpreter has been made, the search for modules has been
installed, and capabilities and services have been bound. What is left of the libraries then is all
that the chunk depends on: the tables that it reads are none of those that anybody has written to
(`Heap.Furnished.grew`, `Prepared.libraries`).
-/

namespace MacroStream.Script

namespace Heap

variable {h h' : Heap} {c m s : Nat} {changed : List Nat}

theorem Furnished.grew (hf : h.Furnished c m s) (hg : Grew changed h h')
    (hchanged : ∀ a ∈ changed, a = h.registry.package) : h'.Furnished c m s := by
  have hnot {a : Nat} (ha : a ≠ h.registry.package) : a ∉ changed := fun hmem ↦
    ha (hchanged a hmem)
  have hglobals := hnot hf.package.2.symm
  refine ⟨hf.toLibraries.grew hg fun a ha ↦ ?_, ?_, ?_, ?_, ?_, fun a ha ↦ ?_⟩
  · obtain ⟨hlt, -, hne⟩ := hf.apart a ha
    exact ⟨hlt, hnot hne⟩
  · rw [hg.registry_eq]
    exact hf.lawful.grew hg hglobals
  · rw [hg.registry_eq, hg.table_eq hf.lawful.1 hglobals, hf.metatable_eq]
  · rw [hg.registry_eq, rawGet_of_grew hg hf.lawful.1 hglobals, hf.coroutine_eq]
  · rw [hg.registry_eq]
    exact ⟨Nat.lt_of_lt_of_le hf.package.1 hg.size_le, hf.package.2⟩
  · rw [hg.registry_eq] at ha ⊢
    obtain ⟨hlt, hne⟩ := hf.apart a ha
    exact ⟨Nat.lt_of_lt_of_le hlt hg.size_le, hne⟩

theorem grew_installSearcher (hpackage : h.registry.package < h.tables.size) :
    Grew [h.registry.package] h (Binding.installSearcher h) := by
  have hfunction : Grew [h.registry.package] h (h.newFunction .moduleSearcher).2 := .newFunction _ h
  have htable (t : Table) : Grew [h.registry.package] (h.newFunction .moduleSearcher).2
      ((h.newFunction .moduleSearcher).2.newTable t).2 := .newTable t _
  have hset (t : Table) (v : Value) : Grew [h.registry.package]
      ((h.newFunction .moduleSearcher).2.newTable t).2
      (((h.newFunction .moduleSearcher).2.newTable t).2.rawSet h.registry.package
        (textKey "searchers") v) :=
    .rawSet (Nat.lt_of_lt_of_le hpackage (htable t).size_le) List.mem_cons_self _ _
  exact (hfunction.trans (htable _) fun _ hmem _ ↦ hmem).trans (hset _ _) fun _ hmem _ ↦ hmem

theorem limit_forbid (a : Nat) (names : List String) (h : Heap) :
    (Globals.forbid a names h).limit = h.limit := by
  induction names generalizing h with
  | nil => rfl
  | cons name names ih => exact ih (h.setField a name .nil)

theorem limit_forbidIn (name : String) (names : List String) (h : Heap) :
    (Globals.forbidIn name names h).limit = h.limit := by
  rw [Globals.forbidIn]
  split
  · exact limit_forbid _ names h
  · rfl

theorem limit_sandbox (h : Heap) : (Globals.sandbox h).limit = h.limit := by
  rw [Globals.sandbox, limit_forbidIn, limit_forbidIn, limit_forbid]

end Heap

section Prepare

variable {μ : Type → Type} [Monad μ] [LawfulMonad μ]

/-- The heap `h` of an interpreter in which capabilities and services have been bound. Before that
it was `h₀`. -/
structure Prepared (config : ScriptingConfig) (r : CapabilityRegistry μ) (services : HostServices)
    (h₀ : Heap) (c m s : Nat) (h : Heap) : Prop where
  furnished : h₀.Furnished c m s
  limit_eq : h₀.limit = (Interpreter.memoryLimit config.memoryLimitMb).toNat
  bindings : Binding.Bindings (fun name ↦ services.services.reverse.lookup name)
    (Binding.outline r) h₀ h

theorem exists_ofConfig_furnished (respond : Responder μ) (config : ScriptingConfig) :
    ∃ i : Interpreter, Interpreter.ofConfig respond config = pure (.ok i) ∧
      i.heap.isFurnished = true ∧
      i.heap.limit = (Interpreter.memoryLimit config.memoryLimitMb).toNat := by
  obtain ⟨i, htables, hlimit, hconfig⟩ := Interpreter.exists_ofConfig_limited respond config
  refine ⟨_, hconfig config.sandbox, ?_⟩
  split
  · rw [htables.sandbox.isFurnished_eq, Heap.limit_sandbox]
    exact ⟨Heap.isFurnished_closedHeap, hlimit⟩
  · rw [htables.isFurnished_eq]
    exact ⟨Heap.isFurnished_openHeap, hlimit⟩

/-- Preparations never fail, and but for reports they have no effects. -/
theorem exists_prepare (p : Platform μ) (respond : Responder μ) (config : ScriptingConfig)
    (r : CapabilityRegistry μ) (services : HostServices) :
    ∃ reports i h₀ c m s, Session.prepare p respond config r services =
        (do Session.reportAll p reports; pure (.ok i)) ∧
      Prepared config r services h₀ c m s i.heap := by
  obtain ⟨⟨machine, heap⟩, hconfig, hcheck, hlimit⟩ := exists_ofConfig_furnished respond config
  obtain ⟨c, m, s, hfurnished⟩ := Heap.exists_furnished hcheck
  have hgrew := Heap.grew_installSearcher hfurnished.package.1
  have hfurnished' := hfurnished.grew hgrew fun a ha ↦ List.mem_singleton.1 ha
  have hbindings := Binding.bindings_bindServices
    (Binding.bindings_bindCapabilities hfurnished'.lawful (Binding.outline r)) services
  rw [Session.prepare, hconfig, pure_bind]
  exact ⟨_, _, _, c, m, s, rfl, hfurnished', hgrew.limit_eq.trans hlimit, hbindings⟩

namespace Prepared

variable {config : ScriptingConfig} {r : CapabilityRegistry μ} {services : HostServices}
  {h₀ h h' : Heap} {c m s : Nat} {ks : List Key}

omit [Monad μ] [LawfulMonad μ] in
theorem libraries (hp : Prepared config r services h₀ c m s h) (hfollows : h.Follows ks h') :
    h'.Libraries c m s := by
  have hregistry := hp.bindings.grew.registry_eq
  have hgrew := hfollows.grew
  rw [hregistry] at hgrew
  have hgrew' := hp.bindings.grew.trans hgrew fun _ hmem _ ↦ hmem
  refine hp.furnished.toLibraries.grew hgrew' fun a ha ↦ ?_
  obtain ⟨hlt, hne, -⟩ := hp.furnished.apart a ha
  exact ⟨hlt, fun hmem ↦ hne (List.mem_singleton.1 hmem)⟩

omit [Monad μ] [LawfulMonad μ] in
theorem offers (hp : Prepared config r services h₀ c m s h)
    (hks : textKey "coroutine" ∉ ks) (hfollows : h.Follows ks h') :
    h'.Offers (¬Binding.IsUnclaimed (fun name ↦ services.services.reverse.lookup name)
      (Binding.outline r) (textKey "coroutine")) := by
  have hregistry := hp.bindings.grew.registry_eq
  have hgrew := hfollows.grew
  have hread := hfollows.rawGet_eq (textKey "coroutine") hks
  rw [hregistry] at hgrew hread
  refine offers_of_bound (hp.libraries hfollows) hp.furnished.coroutine_eq ?_
  rw [hgrew.registry_eq, hregistry, hread]
  exact (hp.bindings.bound _).grew hp.bindings.globals_lt hgrew

end Prepared

end Prepare

end MacroStream.Script
