import InstallerGateway.Proofs.Cache.Memory
import InstallerGateway.Proofs.World.Keeping

/-!
# What is kept for an extension

All that may be found for an extension is what memory holds under it, and, over a table, the value
of its item. Asking adds nothing to that, and keeping adds the one value that is kept, whatever the
table refuses.
-/

namespace InstallerGateway.Caching

open Act

variable {isRight : String → Prop} {extension value : String} {w w' : World}

/-- Whatever is kept for an extension is a right value, in memory and, if there is a table, in the
table. -/
structure KeepsOnly (isRight : String → Prop) (extension : String) (w : World) : Prop where
  memory : ∀ kept, Dictionary.find? extension w.cache.memory = some kept → isRight kept.value
  table : w.cache.table ≠ none → ∀ item,
    w.table.items.find? (TableItem.partition extension) = some item →
      ∃ value expiresAt, item = TableItem.holding extension value expiresAt ∧ isRight value

namespace KeepsOnly

theorem mono {isRight' : String → Prop} (h : KeepsOnly isRight extension w)
    (himp : ∀ v, isRight v → isRight' v) : KeepsOnly isRight' extension w := by
  refine ⟨fun kept hk => himp _ (h.memory kept hk), fun ht item hitem => ?_⟩
  obtain ⟨value, expiresAt, rfl, hv⟩ := h.table ht item hitem
  exact ⟨value, expiresAt, rfl, himp value hv⟩

theorem of_same (h : KeepsOnly isRight extension w) (hcache : w'.cache = w.cache)
    (hitems : w'.table.items = w.table.items) : KeepsOnly isRight extension w' := by
  refine ⟨?_, ?_⟩
  · rw [hcache]
    exact h.memory
  · rw [hcache, hitems]
    exact h.table

/-- What is found in memory is right, and asking for it adds nothing. -/
theorem memory_get (h : KeepsOnly isRight extension w) :
    (∀ v ∈ (w.cache.memory.get w.clock extension).1, isRight v) ∧
      KeepsOnly isRight extension (w.withMemory (w.cache.memory.get w.clock extension).2) := by
  refine ⟨fun v hv => ?_, fun kept hk => ?_, h.table⟩
  · obtain ⟨kept, hfind, -, rfl⟩ := MemoryCache.get_eq_some_iff.mp hv
    exact h.memory kept hfind
  · exact h.memory kept (MemoryCache.find?_of_find?_get hk)

/-- What the table tells is right. -/
theorem of_tableAnswer (h : KeepsOnly isRight extension w) (ht : w.cache.table ≠ none)
    {found : Option String} (ha : tableAnswer extension w = .ok found) :
    ∀ v ∈ found, isRight v := by
  unfold tableAnswer Table.get at ha
  split at ha
  · cases ha
  · change TableItem.value? w.clock
      ((w.table.items.find? (TableItem.partition extension)).getD .null) = _ at ha
    cases hitem : w.table.items.find? (TableItem.partition extension) with
    | none =>
      rw [hitem] at ha
      cases ha
      nofun
    | some item =>
      obtain ⟨value, expiresAt, rfl, hv⟩ := h.table ht item hitem
      rw [hitem, Option.getD_some, TableItem.value?_holding] at ha
      cases ha
      intro v hmem
      split_ifs at hmem
      · exact Option.some.inj hmem ▸ hv
      · cases hmem

/-- Asking finds a right value or none, and adds nothing. -/
theorem get (h : KeepsOnly isRight extension w) : ∃ found,
    result (Caching.get extension) w = .ok found ∧ (∀ v ∈ found, isRight v) ∧
      KeepsOnly isRight extension (after (Caching.get extension) w) := by
  obtain ⟨hfound, hkept⟩ := h.memory_get
  cases ht : w.cache.table with
  | none =>
    have hp := get_inMemory ht extension
    rw [result_eq hp, after_eq hp]
    exact ⟨_, rfl, hfound, hkept.of_same rfl rfl⟩
  | some table =>
    cases ha : tableAnswer extension w with
    | ok found =>
      obtain ⟨events, -, hp⟩ := get_answered ht ha
      rw [result_eq hp, after_eq hp]
      exact ⟨found, rfl, h.of_tableAnswer (by simp [ht]) ha, h.of_same rfl rfl⟩
    | error reason =>
      obtain ⟨events, -, hp⟩ := get_unanswered ht ha
      rw [result_eq hp, after_eq hp]
      exact ⟨_, rfl, hfound, hkept.of_same rfl rfl⟩

/-- What is looked up is right, and what is kept stays right. -/
theorem lookup (h : KeepsOnly isRight extension w) : ∃ found,
    result (Caching.lookup extension) w = .ok found ∧ (∀ v ∈ found, isRight v) ∧
      KeepsOnly isRight extension (after (Caching.lookup extension) w) := by
  obtain ⟨found, hr, hfound, hkept⟩ := h.get
  have hp : perform (Caching.lookup extension) w =
      (.ok (found.filter fun v => !v.isEmpty), after (Caching.get extension) w) :=
    perform_bind_of_ok hr
  rw [result_eq hp, after_eq hp]
  exact ⟨_, rfl, fun v hv => hfound v (Option.filter_eq_some_iff.mp hv).1, hkept⟩

/-- Keeping a right value succeeds unless it overruns, and adds no other one. -/
theorem store (h : KeepsOnly isRight extension w) (hv : isRight value) (usual : Int) :
    result (Caching.store (.int usual) extension value .null) w =
        (if overruns usual w then .error .endlessDuration else .ok ()) ∧
      KeepsOnly isRight extension
        (after (Caching.store (.int usual) extension value .null) w) := by
  obtain ⟨_, _, _, hresult⟩ := store_perform usual extension value w
  refine ⟨result_eq hresult, ?_⟩
  have hmemory : KeepsOnly isRight extension
      (w.withMemory (w.cache.memory.put w.clock extension value usual)) := by
    refine ⟨fun kept hk => ?_, h.table⟩
    have hput := Dictionary.find?_put_self extension ⟨value, w.clock + usual⟩ w.cache.memory
    cases hput.symm.trans hk
    exact hv
  cases ht : w.cache.table with
  | none =>
    cases hcounts : w.cache.counts usual with
    | true =>
      have hp := store_memory ht extension value hcounts
      exact after_eq hp ▸ hmemory.of_same rfl rfl
    | false =>
      have hp := store_endless ht extension value hcounts
      exact after_eq hp ▸ h.of_same rfl rfl
  | some table =>
    cases hf : w.table.failures.put with
    | none =>
      obtain ⟨events, -, hp⟩ := put_accepted ht hf extension value usual
      refine after_eq hp ▸ ⟨h.memory, fun _ item hitem => ?_⟩
      have hput := Dictionary.find?_put_self (TableItem.partition extension)
        (TableItem.holding extension value (truncate w.clock + usual)) w.table.items
      cases hput.symm.trans hitem
      exact ⟨value, _, rfl, hv⟩
    | some reason =>
      cases hcounts : w.cache.counts usual with
      | true =>
        obtain ⟨events, -, hp⟩ := put_refused ht hf extension value hcounts
        exact after_eq hp ▸ hmemory.of_same rfl rfl
      | false =>
        obtain ⟨events, -, hp⟩ := put_endless_refused ht hf extension value hcounts
        exact after_eq hp ▸ h.of_same rfl rfl

end KeepsOnly

end InstallerGateway.Caching
