import InstallerGateway.Proofs.Manifest.Language
import InstallerGateway.Proofs.World.Keeping
import InstallerGateway.World.Resolving

/-!
# What becomes of a resolution

A resolution ends in one of six ways: the key is not one of a newest release, a value is kept for
its extension, the manifest is out of reach, the manifest tells nothing, or the manifest tells the
key, which is then kept, or cannot be kept since the usual time overruns. It fails in the third way
and in the last one, and a new value is kept in the last way but one only.
-/

namespace InstallerGateway.Resolving

open Act

variable {usual : Int} {d : KeyDescriptor} {w w' : World} {v : String} {f : Fault}

/-! ## What the manifest tells -/

/-- In the world `w` the store holds the manifest for `d`, and the manifest tells the key `v`. -/
def Tells (w : World) (d : KeyDescriptor) (v : String) : Prop :=
  ∃ key o m, manifestKey w.platforms.table d = .ok key ∧
    result (Storing.get key) w = .ok (some o) ∧ Manifest.ofBytes o.read = .ok m ∧
      m.concreteKey d = .ok v

/-- In the world `w` the manifest for `d` is out of reach, for the reason `f`: the store fails, or
no use can be made of the document. -/
def OutOfReach (w : World) (d : KeyDescriptor) (f : Fault) : Prop :=
  ∃ key, manifestKey w.platforms.table d = .ok key ∧
    (result (Storing.get key) w = .error f ∨
      ∃ o g, result (Storing.get key) w = .ok (some o) ∧ Manifest.IsUnusable o.read g ∧
        f = .document g)

theorem Tells.congr (h : w.SameSources w') (ht : Tells w d v) : Tells w' d v := by
  obtain ⟨key, o, m, hkey, ho, hm, hv⟩ := ht
  exact ⟨key, o, m, by rw [h.table, hkey], by rw [Storing.get_result_congr h, ho], hm, hv⟩

/-- What comes of what the store holds under the key of the manifest. -/
def told (d : KeyDescriptor) (key : String) (body : Option ByteArray) :
    Except Fault (Option String) :=
  match fromManifest d key body with
  | .ok concrete => .ok (some concrete)
  | .error (.refused _) => .ok none
  | .error (.unusable f) => .error (.document f)

theorem fromManifest_some (d : KeyDescriptor) (key : String) (b : ByteArray) :
    fromManifest d key (some b) =
      (Manifest.ofBytes b).bind fun m => (m.concreteKey d).mapError .refused := rfl

/-- A body tells a key if it is that of a manifest that has one for the descriptor. -/
theorem told_eq_some_iff (d : KeyDescriptor) (key : String) (body : Option ByteArray) (v : String) :
    told d key body = .ok (some v) ↔
      ∃ b m, body = some b ∧ Manifest.ofBytes b = .ok m ∧ m.concreteKey d = .ok v := by
  unfold told
  cases body with
  | none => simp [fromManifest]
  | some b =>
    rw [fromManifest_some]
    cases hm : Manifest.ofBytes b with
    | error g => cases g <;> simp [Except.bind, hm]
    | ok m => cases hv : m.concreteKey d <;> simp [Except.bind, Except.mapError, hm, hv]

/-- A body makes the resolution fail if no use can be made of it. -/
theorem told_eq_error_iff (d : KeyDescriptor) (key : String) (body : Option ByteArray) (f : Fault) :
    told d key body = .error f ↔
      ∃ b g, body = some b ∧ Manifest.IsUnusable b g ∧ f = .document g := by
  simp only [← Manifest.ofBytes_eq_unusable_iff]
  unfold told
  cases body with
  | none => simp [fromManifest]
  | some b =>
    rw [fromManifest_some]
    cases hm : Manifest.ofBytes b with
    | error g => cases g <;> simp [Except.bind, hm, eq_comm]
    | ok m => cases hv : m.concreteKey d <;> simp [Except.bind, Except.mapError, hm, hv]

/-! ## Fetching -/

theorem givenUp_perform (d : KeyDescriptor) (f : ResolutionFault) (w : World) :
    perform (givenUp d f) w = (.ok none, w.noting [.unresolved { f with key := d.key }]) := rfl

/-- The event belongs to looking for a manifest: no value is kept by it. -/
def IsSearch : Event → Prop
  | .storeGet _ | .bucketGet .. | .unresolved _ => True
  | _ => False

/-- Fetching a manifest gives what its body tells, and changes the trace alone. -/
theorem fetchFrom_spec (d : KeyDescriptor) (key : String) (w : World) :
    result (fetchFrom d key) w =
        (result (Storing.get key) w).bind (fun o => told d key (o.map (·.read))) ∧
      ∃ events, after (fetchFrom d key) w = w.noting events ∧ (∀ e ∈ events, IsSearch e) ∧
        .storeGet key ∈ events := by
  obtain ⟨events, hw, he⟩ := Storing.get_after key w
  have hs : ∀ e ∈ events ++ [Event.storeGet key], IsSearch e := by
    intro e hmem
    rcases List.mem_append.mp hmem with h | h
    · obtain ⟨bucket, inBucket, rfl⟩ := he e h
      trivial
    · rw [List.mem_singleton.mp h]
      trivial
  cases hr : result (Storing.get key) w with
  | error f =>
    have hp : perform (fetchFrom d key) w = (.error f, after (Storing.get key) w) :=
      perform_bind_of_error hr
    exact ⟨result_eq hp, _, (after_eq hp).trans hw, hs, by simp⟩
  | ok o =>
    have hp : perform (fetchFrom d key) w =
        perform (match fromManifest d key (o.map (·.read)) with
          | .ok concrete => pure (some concrete)
          | .error (.refused f) => givenUp d f
          | .error (.unusable f) => throw (.document f)) (w.noting (events ++ [.storeGet key])) :=
      hw ▸ perform_bind_of_ok hr
    simp only [Except.bind, told]
    generalize fromManifest d key (o.map (·.read)) = c at hp ⊢
    rcases c with (f | f) | c
    · dsimp only at hp
      rw [givenUp_perform, World.noting_noting] at hp
      refine ⟨result_eq hp, _, after_eq hp, ?_, by simp⟩
      intro e hmem
      rcases List.mem_cons.mp hmem with rfl | h
      · trivial
      · exact hs e h
    · exact ⟨result_eq hp, _, after_eq hp, hs, by simp⟩
    · exact ⟨result_eq hp, _, after_eq hp, hs, by simp⟩

/-- What looking for the manifest comes to, and what is noted. -/
theorem fetch_spec (d : KeyDescriptor) (w : World) :
    result (fetch d) w =
        (match manifestKey w.platforms.table d with
          | .error _ => .ok none
          | .ok key => (result (Storing.get key) w).bind fun o => told d key (o.map (·.read))) ∧
      ∃ events, after (fetch d) w = w.noting events ∧ (∀ e ∈ events, IsSearch e) ∧
        ∀ key, manifestKey w.platforms.table d = .ok key → .storeGet key ∈ events := by
  cases hk : manifestKey w.platforms.table d with
  | error f =>
    have hp : perform (fetch d) w = (.ok none, w.noting [.unresolved { f with key := d.key }]) := by
      unfold fetch
      rw [perform_bind_ok (perform_get _), hk]
      rfl
    exact ⟨result_eq hp, _, after_eq hp, by simp [IsSearch], by simp⟩
  | ok key =>
    have hp : perform (fetch d) w = perform (fetchFrom d key) w := by
      unfold fetch
      rw [perform_bind_ok (perform_get _), hk]
    obtain ⟨hr, events, hw, hs, hmem⟩ := fetchFrom_spec d key w
    refine ⟨(result_eq hp).trans hr, events, (after_eq hp).trans hw, hs, ?_⟩
    intro key' hkey'
    cases hkey'
    exact hmem

theorem fetch_sameMoment (d : KeyDescriptor) (w : World) : w.SameMoment (after (fetch d) w) := by
  obtain ⟨-, events, hw, -⟩ := fetch_spec d w
  rw [hw]
  exact w.sameMoment_noting events

/-- What is found depends on the sources of manifests alone. -/
theorem fetch_result_congr (h : w.SameSources w') (d : KeyDescriptor) :
    result (fetch d) w' = result (fetch d) w := by
  rw [(fetch_spec d w').1, (fetch_spec d w).1, h.table]
  simp only [Storing.get_result_congr h]

/-- What is fetched is what the manifest tells. -/
theorem fetch_eq_some_iff : result (fetch d) w = .ok (some v) ↔ Tells w d v := by
  unfold Tells
  rw [(fetch_spec d w).1]
  cases hk : manifestKey w.platforms.table d with
  | error f => simp
  | ok key =>
    cases hr : result (Storing.get key) w with
    | error f => simp [Except.bind, hr]
    | ok o =>
      simp only [hr, Except.bind, told_eq_some_iff, Option.map_eq_some_iff]
      constructor
      · rintro ⟨_, m, ⟨o, rfl, rfl⟩, hm, hv⟩
        exact ⟨key, o, m, rfl, hr, hm, hv⟩
      · rintro ⟨_, o', m, hkey, ho, hm, hv⟩
        cases hkey
        cases hr.symm.trans ho
        exact ⟨_, m, ⟨o', rfl, rfl⟩, hm, hv⟩

/-- Fetching fails exactly if the manifest is out of reach. -/
theorem fetch_eq_error_iff : result (fetch d) w = .error f ↔ OutOfReach w d f := by
  unfold OutOfReach
  rw [(fetch_spec d w).1]
  cases hk : manifestKey w.platforms.table d with
  | error f => simp
  | ok key =>
    cases hr : result (Storing.get key) w with
    | error f' => simp [Except.bind, hr]
    | ok o =>
      simp only [hr, Except.bind, told_eq_error_iff, Option.map_eq_some_iff]
      constructor
      · rintro ⟨_, g, ⟨o, rfl, rfl⟩, hbad, rfl⟩
        exact ⟨key, rfl, .inr ⟨o, g, hr, hbad, rfl⟩⟩
      · rintro ⟨_, hkey, ho | ⟨o', g, ho, hbad, rfl⟩⟩
        · cases hkey
          cases hr.symm.trans ho
        · cases hkey
          cases hr.symm.trans ho
          exact ⟨_, g, ⟨o', rfl, rfl⟩, hbad, rfl⟩

/-! ## The six ways -/

/-- A key that does not ask for the newest release stands for itself; nothing is asked for or
kept. -/
theorem resolve_unmarked (h : d.isLatest = false) :
    perform (resolve usual d) w = (.ok d.key, w) := by
  unfold resolve
  rw [h]
  rfl

/-- A key that is found is not asked for again. -/
theorem resolve_kept (h : d.isLatest = true)
    (hv : result (Caching.lookup d.extension) w = .ok (some v)) :
    perform (resolve usual d) w = (.ok v, after (Caching.lookup d.extension) w) := by
  unfold resolve
  rw [h]
  exact perform_bind_of_ok hv

/-- If nothing is found, the manifest is asked. -/
theorem resolve_missed (h : d.isLatest = true)
    (hn : result (Caching.lookup d.extension) w = .ok none) :
    perform (resolve usual d) w =
      perform (fetch d >>= settle usual d) (after (Caching.lookup d.extension) w) := by
  unfold resolve
  rw [h]
  exact perform_bind_of_ok hn

/-- What is found does not depend on what the lookup did. -/
theorem fetch_after_lookup (d : KeyDescriptor) (w : World) :
    result (fetch d) (after (Caching.lookup d.extension) w) = result (fetch d) w :=
  fetch_result_congr (Caching.lookup_sameMoment d.extension w).toSameSources d

/-- If fetching the manifest fails, so does the resolution. -/
theorem resolve_failed (h : d.isLatest = true)
    (hn : result (Caching.lookup d.extension) w = .ok none) (hf : result (fetch d) w = .error f) :
    perform (resolve usual d) w =
      (.error f, after (fetch d) (after (Caching.lookup d.extension) w)) := by
  rw [resolve_missed h hn]
  exact perform_bind_of_error ((fetch_after_lookup d w).trans hf)

/-- If the manifest tells no key, the key stands for itself. -/
theorem resolve_givenUp (h : d.isLatest = true)
    (hn : result (Caching.lookup d.extension) w = .ok none) (hf : result (fetch d) w = .ok none) :
    perform (resolve usual d) w =
      (.ok d.key, after (fetch d) (after (Caching.lookup d.extension) w)) := by
  rw [resolve_missed h hn]
  exact perform_bind_of_ok ((fetch_after_lookup d w).trans hf)

/-- The usual time overruns after the manifest was read exactly if it did so before. -/
theorem overruns_after_fetch (usual : Int) (d : KeyDescriptor) (w : World) :
    Caching.overruns usual (after (fetch d) (after (Caching.lookup d.extension) w)) =
      Caching.overruns usual w := by
  obtain ⟨_, memory, events, hl⟩ := Caching.lookup_perform d.extension w
  obtain ⟨-, more, hw, -⟩ := fetch_spec d (after (Caching.lookup d.extension) w)
  rw [hw, after_eq hl]
  rfl

/-- What comes of a key that the manifest tells: it is kept and answered, unless it cannot be
kept. -/
theorem resolve_told (h : d.isLatest = true)
    (hn : result (Caching.lookup d.extension) w = .ok none)
    (hf : result (fetch d) w = .ok (some v)) :
    perform (resolve usual d) w =
      (if Caching.overruns usual w then .error .endlessDuration else .ok v,
        after (Caching.store (.int usual) d.extension v .null)
          (after (fetch d) (after (Caching.lookup d.extension) w))) := by
  rw [resolve_missed h hn, perform_bind_of_ok ((fetch_after_lookup d w).trans hf)]
  obtain ⟨_, _, _, hput⟩ := Caching.store_perform usual d.extension v
    (after (fetch d) (after (Caching.lookup d.extension) w))
  rw [overruns_after_fetch] at hput
  have hstored := result_eq hput
  unfold settle
  by_cases hover : Caching.overruns usual w = true
  · rw [if_pos hover] at hstored ⊢
    exact perform_bind_of_error hstored
  · rw [if_neg hover] at hstored ⊢
    exact perform_bind_of_ok hstored

/-- If the manifest tells a key that can be kept, it is kept. -/
theorem resolve_settled (h : d.isLatest = true)
    (hn : result (Caching.lookup d.extension) w = .ok none)
    (hf : result (fetch d) w = .ok (some v)) (hlasts : Caching.overruns usual w = false) :
    perform (resolve usual d) w = (.ok v, after (Caching.store (.int usual) d.extension v .null)
      (after (fetch d) (after (Caching.lookup d.extension) w))) := by
  rw [resolve_told h hn hf, hlasts]
  rfl

/-- If the manifest tells a key that cannot be kept, the resolution fails. -/
theorem resolve_overrun (h : d.isLatest = true)
    (hn : result (Caching.lookup d.extension) w = .ok none)
    (hf : result (fetch d) w = .ok (some v)) (hover : Caching.overruns usual w = true) :
    perform (resolve usual d) w =
      (.error .endlessDuration, after (Caching.store (.int usual) d.extension v .null)
        (after (fetch d) (after (Caching.lookup d.extension) w))) := by
  rw [resolve_told h hn hf, hover]
  rfl

/-- What a resolution tells depends on the sources alone, if nothing is found. -/
theorem resolve_result_congr (h : d.isLatest = true) (hs : w.SameSources w')
    (hover : Caching.overruns usual w' = Caching.overruns usual w)
    (hn : result (Caching.lookup d.extension) w = .ok none)
    (hn' : result (Caching.lookup d.extension) w' = .ok none) :
    result (resolve usual d) w' = result (resolve usual d) w := by
  have hc := fetch_result_congr hs d
  cases hf : result (fetch d) w with
  | error f =>
    rw [result_eq (resolve_failed h hn hf), result_eq (resolve_failed h hn' (hc.trans hf))]
  | ok found =>
    cases found with
    | none =>
      rw [result_eq (resolve_givenUp h hn hf), result_eq (resolve_givenUp h hn' (hc.trans hf))]
    | some v =>
      rw [result_eq (resolve_told h hn hf), result_eq (resolve_told h hn' (hc.trans hf)), hover]

/-- The result of a resolution and the world that it leaves, way by way. -/
inductive Outcome (usual : Int) (d : KeyDescriptor) (w : World) :
    Except Fault String × World → Prop where
  | unmarked (h : d.isLatest = false) : Outcome usual d w (.ok d.key, w)
  | kept {v : String} (h : d.isLatest = true)
      (hv : result (Caching.lookup d.extension) w = .ok (some v)) :
      Outcome usual d w (.ok v, after (Caching.lookup d.extension) w)
  | failed {f : Fault} (h : d.isLatest = true)
      (hn : result (Caching.lookup d.extension) w = .ok none) (hf : result (fetch d) w = .error f) :
      Outcome usual d w (.error f, after (fetch d) (after (Caching.lookup d.extension) w))
  | givenUp (h : d.isLatest = true)
      (hn : result (Caching.lookup d.extension) w = .ok none) (hf : result (fetch d) w = .ok none) :
      Outcome usual d w (.ok d.key, after (fetch d) (after (Caching.lookup d.extension) w))
  | settled {v : String} (h : d.isLatest = true)
      (hn : result (Caching.lookup d.extension) w = .ok none)
      (hf : result (fetch d) w = .ok (some v)) (hlasts : Caching.overruns usual w = false) :
      Outcome usual d w (.ok v, after (Caching.store (.int usual) d.extension v .null)
        (after (fetch d) (after (Caching.lookup d.extension) w)))
  | overrun {v : String} (h : d.isLatest = true)
      (hn : result (Caching.lookup d.extension) w = .ok none)
      (hf : result (fetch d) w = .ok (some v)) (hover : Caching.overruns usual w = true) :
      Outcome usual d w
        (.error .endlessDuration, after (Caching.store (.int usual) d.extension v .null)
          (after (fetch d) (after (Caching.lookup d.extension) w)))

/-- A resolution has one of the six outcomes. -/
theorem resolve_outcome (usual : Int) (d : KeyDescriptor) (w : World) :
    Outcome usual d w (perform (resolve usual d) w) := by
  cases h : d.isLatest with
  | false => exact resolve_unmarked h ▸ .unmarked h
  | true =>
    obtain ⟨value, _, _, hl⟩ := Caching.lookup_perform d.extension w
    have hr : result (Caching.lookup d.extension) w = .ok value := result_eq hl
    cases value with
    | some v => exact resolve_kept h hr ▸ .kept h hr
    | none =>
      cases hf : result (fetch d) w with
      | error f => exact resolve_failed h hr hf ▸ .failed h hr hf
      | ok found =>
        cases found with
        | none => exact resolve_givenUp h hr hf ▸ .givenUp h hr hf
        | some v =>
          cases hover : Caching.overruns usual w with
          | false => exact resolve_settled h hr hf hover ▸ .settled h hr hf hover
          | true => exact resolve_overrun h hr hf hover ▸ .overrun h hr hf hover

/-- A resolution leaves the sources of manifests and the clock as they are. -/
theorem resolve_sameMoment (usual : Int) (d : KeyDescriptor) (w : World) :
    w.SameMoment (after (resolve usual d) w) := by
  have hlookup := Caching.lookup_sameMoment d.extension w
  have hfetch := hlookup.trans (fetch_sameMoment d _)
  have ho := resolve_outcome usual d w
  generalize hp : perform (resolve usual d) w = p at ho
  rw [after_eq hp]
  cases ho with
  | unmarked _ => exact w.sameMoment_noting []
  | kept _ _ => exact hlookup
  | failed _ _ _ => exact hfetch
  | givenUp _ _ _ => exact hfetch
  | settled _ _ _ _ => exact hfetch.trans (Caching.store_sameMoment usual d.extension _ _)
  | overrun _ _ _ _ => exact hfetch.trans (Caching.store_sameMoment usual d.extension _ _)

/-- A resolution changes nothing but the resolved keys that are kept. -/
theorem resolve_keeps {γ : Type} {part : World → γ} (hp : IsBesideStores part) (usual : Int)
    (d : KeyDescriptor) : Keeps part (resolve usual d) := by
  have hfetch (w : World) : part (after (fetch d) w) = part w := by
    obtain ⟨-, events, hw, -⟩ := fetch_spec d w
    rw [hw, hp.noting]
  have hstore (v : String) (w : World) :
      part (after (Caching.store (.int usual) d.extension v .null) w) = part w := by
    obtain ⟨memory, table, events, hstore⟩ := Caching.store_perform usual d.extension v w
    rw [after_eq hstore, hp.noting, hp.memory, hp.table]
  intro w
  obtain ⟨value, memory, events, hl⟩ := Caching.lookup_perform d.extension w
  have hlookup : part (after (Caching.lookup d.extension) w) = part w := by
    rw [after_eq hl, hp.noting, hp.memory]
  have ho := resolve_outcome usual d w
  generalize hr : perform (resolve usual d) w = p at ho
  rw [after_eq hr]
  cases ho with
  | unmarked _ => rfl
  | kept _ _ => exact hlookup
  | failed _ _ _ => exact (hfetch _).trans hlookup
  | givenUp _ _ _ => exact (hfetch _).trans hlookup
  | settled _ _ _ _ => exact (hstore _ _).trans ((hfetch _).trans hlookup)
  | overrun _ _ _ _ => exact (hstore _ _).trans ((hfetch _).trans hlookup)

end InstallerGateway.Resolving
