import InstallerGateway.Proofs.Gateway.PublicKeys
import InstallerGateway.Proofs.Gateway.Reading
import InstallerGateway.Proofs.Gateway.StoreEffects
import InstallerGateway.Proofs.Resolving.Provenance

/-!
# What anonymous readers get

With the allow list that holds if no other is set, everybody may read keys in `desktop/`. A key of a
newest release may be answered with another one that is kept for its extension, though. The keys in
memory lie in `desktop/` too, or they were disclosed by a publisher who has read a newest release
elsewhere; these are the only objects outside of `desktop/` that others can get, and they can only
get them before their time is over.
-/

namespace InstallerGateway.Gateway

open Act

variable {g : Gateway} {r : Request} {w w₀ : World} {d : KeyDescriptor} {key k extension : String}

/-! ## Manifests that name plain files -/

/-- No manifest in the store names a file in another directory. -/
def PlainManifests (w : World) : Prop :=
  ∀ d key o m, Resolving.manifestKey w.platforms.table d = .ok key →
    result (Storing.get key) w = .ok (some o) → Manifest.ofBytes o.read = .ok m →
      ∀ e ∈ m.files, '/' ∉ e.url.toList

/-- The key that a plain manifest tells lies in the directory of the key that it is told for. -/
theorem PlainManifests.directory (hp : PlainManifests w) (ht : Resolving.Tells w d k) :
    (KeyDescriptor.parse k).directory = d.directory := by
  obtain ⟨key, o, m, hkey, ho, hm, hk⟩ := ht
  obtain ⟨e, he, rfl⟩ := Manifest.concreteKey_eq_join hk
  exact KeyDescriptor.parse_join_directory (hp d key o m hkey ho hm e he)

/-! ## Keys that publishers disclose -/

/-- In the world `w` a publisher reads a newest release in the directory of `k` by the request `r`,
and its manifest tells the key `k`, which is kept for the extension. -/
structure Discloses (g : Gateway) (r : Request) (w : World) (extension k : String) : Prop where
  isPublisher : g.isPublisher r = true
  isRead : Access.isRead r.method = true
  /-- The manifest is that of a key of a newest release with this extension, in the same
  directory. -/
  tells : ∃ key, Route.ofRequest r.method r.path = .object key ∧
    (KeyDescriptor.parse key).isLatest = true ∧ (KeyDescriptor.parse key).extension = extension ∧
    (KeyDescriptor.parse key).directory = (KeyDescriptor.parse k).directory ∧
    Resolving.Tells w (KeyDescriptor.parse key) k

/-- A request of the run has disclosed the value, and its time is over the usual time after that. -/
def DisclosedBefore (g : Gateway) (w₀ : World) (steps : List Step) (extension : String)
    (kept : Kept) : Prop :=
  ∃ earlier r later, steps = earlier ++ .request r :: later ∧
    Discloses g r (g.run w₀.emptied earlier) extension kept.value ∧
    kept.expiresAt = (g.run w₀.emptied earlier).clock + g.settings.latestCacheTtl

/-- Who reads an object from the store is a publisher, or reads a key in `desktop/`. -/
theorem directory_of_authorizes (hallow : g.allowList = Access.publicPatterns)
    (hstatic : g.settings.staticPrefix = "static/") (hread : Access.isRead r.method = true)
    (hauth : g.authorizes r key = true) (hs : key.startsWith g.settings.staticPrefix = false) :
    g.isPublisher r = true ∨ (KeyDescriptor.parse key).directory = "desktop" := by
  cases hpub : g.isPublisher r with
  | true => exact .inl rfl
  | false =>
    right
    have hpublic : Access.isPublic Access.publicPatterns key = true := by
      unfold authorizes Access.isAuthorized at hauth
      rw [hpub, hread, hallow] at hauth
      split at hauth
      · cases hauth
      · simpa using hauth
    rcases Access.directory_of_isPublic hpublic with hprefix | hdir
    · have hstarts : key.startsWith g.settings.staticPrefix = true := by
        rw [hstatic]
        exact String.startsWith_string_iff.mpr hprefix
      cases hs.symm.trans hstarts
    · exact hdir

/-! ## What is kept -/

/-- The value lies in `desktop/`, or the step is a request that has disclosed it. -/
def Step.Opens (g : Gateway) (w : World) (s : Step) (extension : String) (kept : Kept) : Prop :=
  (KeyDescriptor.parse kept.value).directory = "desktop" ∨
    ∃ r, s = .request r ∧ Discloses g r w extension kept.value ∧
      kept.expiresAt = w.clock + g.settings.latestCacheTtl

/-- A value in memory after a step was there before, or lies in `desktop/`, or the step has
disclosed it: what is kept lies in the directory of the key that was authorized. -/
theorem Step.perform_addsOnly (hallow : g.allowList = Access.publicPatterns)
    (hstatic : g.settings.staticPrefix = "static/") (hplain : PlainManifests w)
    (htable : w.cache.table = none) (s : Step) :
    Caching.AddsOnly (s.Opens g w) w (s.perform g w) := by
  cases s with
  | wait seconds => exact Caching.addsOnly_of_cache_eq htable rfl
  | refresh =>
    exact Caching.addsOnly_of_cache_eq htable
      (Refreshing.refresh_keeps isLasting_cache (fun _ _ => rfl) w)
  | request r =>
    obtain ⟨response, fields, w', events, hcourse, -, hw⟩ := answer_course g r w
    have hcache : (Step.perform g (.request r) w).cache = w'.cache := by
      show (g.answer r w).2.cache = w'.cache
      rw [hw]
      rfl
    cases hcourse with
    | error windows _ => exact Caching.addsOnly_of_cache_eq htable hcache
    | health windows _ => exact Caching.addsOnly_of_cache_eq htable hcache
    | @served key windows hroute _ =>
      have hserved : (timed (g.serveObject r key) (w.withWindows windows)).2.cache =
          (after (g.serveObject r key) (w.withWindows windows)).cache := by
        rw [timed_snd]
      rw [hserved] at hcache
      rcases serveObject_cache g r key (w.withWindows windows) with hsame |
        ⟨hread, hauth, hs, hresolve⟩
      · exact Caching.addsOnly_of_cache_eq htable (hcache.trans hsame)
      · have hstep := Resolving.Step.perform_addsOnly g.settings.latestCacheTtl
          (w := w.withWindows windows) htable (.call (.resolve (KeyDescriptor.parse key)))
        rw [Resolving.Step.perform_resolve] at hstep
        unfold Caching.AddsOnly
        rw [hcache, hresolve]
        refine ⟨hstep.1, fun extension kept hk => ?_⟩
        rcases hstep.2 extension kept hk with hold | ⟨d, hd, he, hreads, hexp⟩
        · exact .inl hold
        · cases hd
          have ht : Resolving.Tells w (KeyDescriptor.parse key) kept.value :=
            hreads.tells.congr (w.sameMoment_withWindows windows).toSameSources.symm
          have hdir := hplain.directory ht
          rcases directory_of_authorizes hallow hstatic hread hauth hs with hpub | hdesktop
          · exact .inr (.inr ⟨r, rfl, ⟨hpub, hread, key, hroute, hreads.isLatest, he, hdir.symm,
              ht⟩, hexp⟩)
          · exact .inr (.inl (hdir.trans hdesktop))

/-- Throughout a run, the values in memory lie in `desktop/` or were disclosed by publishers. -/
theorem run_memory (hallow : g.allowList = Access.publicPatterns)
    (hstatic : g.settings.staticPrefix = "static/") (w₀ : World) (steps : List Step)
    (hplain : ∀ earlier, earlier <+: steps → PlainManifests (g.run w₀.emptied earlier)) :
    (g.run w₀.emptied steps).cache.table = none ∧ ∀ extension kept,
      Dictionary.find? extension (g.run w₀.emptied steps).cache.memory = some kept →
        (KeyDescriptor.parse kept.value).directory = "desktop" ∨
        DisclosedBefore g w₀ steps extension kept := by
  induction steps using List.reverseRecOn with
  | nil => exact ⟨rfl, nofun⟩
  | append_singleton steps s ih =>
    obtain ⟨htable, hmemory⟩ :=
      ih fun earlier h => hplain earlier (h.trans (List.prefix_append _ _))
    rw [run_snoc]
    obtain ⟨htable', hstep⟩ := Step.perform_addsOnly hallow hstatic
      (hplain steps (List.prefix_append _ _)) htable s
    refine ⟨htable', fun extension kept hk => ?_⟩
    rcases hstep extension kept hk with hold | hdesktop | ⟨r, rfl, hdisc, hexp⟩
    · rcases hmemory extension kept hold with hdesktop | ⟨earlier, r, later, rfl, hdisc, hexp⟩
      · exact .inl hdesktop
      · exact .inr ⟨earlier, r, later ++ [s], by simp, hdisc, hexp⟩
    · exact .inl hdesktop
    · exact .inr ⟨steps, r, [], rfl, hdisc, hexp⟩

/-! ## What is read -/

/-- A key in `desktop/` is resolved to one that lies there too, or to one that was disclosed for its
extension by a publisher, less than the usual time ago, since it is still found. -/
theorem directory_of_resolve (hallow : g.allowList = Access.publicPatterns)
    (hstatic : g.settings.staticPrefix = "static/") (w₀ : World) (steps : List Step)
    (hplain : ∀ earlier, earlier <+: steps → PlainManifests (g.run w₀.emptied earlier))
    (hd : (KeyDescriptor.parse key).directory = "desktop") (windows : Windows)
    (hr : result (Resolving.resolve g.settings.latestCacheTtl (KeyDescriptor.parse key))
      ((g.run w₀.emptied steps).withWindows windows) = .ok k) :
    (KeyDescriptor.parse k).directory = "desktop" ∨
      (KeyDescriptor.parse key).isLatest = true ∧
        ∃ earlier r later, steps = earlier ++ .request r :: later ∧
          Discloses g r (g.run w₀.emptied earlier) (KeyDescriptor.parse key).extension k ∧
          (g.run w₀.emptied steps).clock - (g.run w₀.emptied earlier).clock <
            g.settings.latestCacheTtl := by
  obtain ⟨htable, hmemory⟩ := run_memory hallow hstatic w₀ steps hplain
  have hl := result_eq (Caching.lookup_memory
    (w := (g.run w₀.emptied steps).withWindows windows) htable (KeyDescriptor.parse key).extension)
  have ho := Resolving.resolve_outcome g.settings.latestCacheTtl (KeyDescriptor.parse key)
    ((g.run w₀.emptied steps).withWindows windows)
  unfold result at hr
  generalize perform _ _ = p at ho hr
  cases ho with
  | unmarked _ =>
    cases hr
    exact .inl hd
  | failed _ _ _ => cases hr
  | givenUp _ _ _ =>
    cases hr
    exact .inl hd
  | overrun _ _ _ _ => cases hr
  | settled _ _ hf _ =>
    cases hr
    have ht := (Resolving.fetch_eq_some_iff.mp hf).congr
      (World.sameMoment_withWindows windows (g.run w₀.emptied steps)).toSameSources.symm
    exact .inl (((hplain steps (List.prefix_refl _)).directory ht).trans hd)
  | kept hlatest hv =>
    cases hr
    have hk := Except.ok.inj (hl.symm.trans hv)
    obtain ⟨kept, hfind, hlive, rfl⟩ :=
      MemoryCache.get_eq_some_iff.mp (Option.filter_eq_some_iff.mp hk).1
    rcases hmemory _ kept hfind with hdesktop | ⟨earlier, r, later, hsteps, hdisc, hexp⟩
    · exact .inl hdesktop
    · refine .inr ⟨hlatest, earlier, r, later, hsteps, hdisc, ?_⟩
      rw [hexp] at hlive
      have hlive' : (g.run w₀.emptied steps).clock < _ := hlive
      linarith

/-- A request to read an object without the secret is answered with an error, with the health of the
gateway or with what another host answers, or it gets an object that lies in `desktop/`. The one
exception is a key of a newest release for whose extension a publisher has disclosed the object less
than the usual time ago. -/
theorem anonymous_get_confined
    (hallow : Settings.defaultAllowList.mapM Pattern.parse = .ok g.allowList)
    (hstatic : g.settings.staticPrefix = Settings.default.staticPrefix) (w₀ : World)
    (steps : List Step)
    (hplain : ∀ earlier, earlier <+: steps → PlainManifests (g.run w₀.emptied earlier))
    (r : Request) (hget : r.method = "GET") (hanonymous : g.isPublisher r = false) :
    let w := g.run w₀.emptied steps
    let response := (g.answer r w).1
    response.IsError ∨
      (Route.ofRequest r.method r.path = .health ∧
        response.chunks = (health w.statistics).chunks) ∨
      ∃ key, Route.ofRequest r.method r.path = .object key ∧ (g.PassesOn w key response ∨
        ∃ k o, result (Storing.get k) w = .ok (some o) ∧ response.status = 200 ∧
          response.source = none ∧ response.chunks = o.chunks ∧
          ((KeyDescriptor.parse k).directory = "desktop" ∨
            (KeyDescriptor.parse key).isLatest = true ∧
              ∃ earlier r' later, steps = earlier ++ .request r' :: later ∧
                Discloses g r' (g.run w₀.emptied earlier) (KeyDescriptor.parse key).extension k ∧
                w.clock - (g.run w₀.emptied earlier).clock < g.settings.latestCacheTtl)) := by
  intro w response
  have hpatterns : g.allowList = Access.publicPatterns :=
    (Except.ok.inj (Access.parse_defaultAllowList.symm.trans hallow)).symm
  obtain ⟨response', fields, w', events, hcourse, hresponse, -⟩ := answer_course g r w
  have hr : response = response'.withFields fields := hresponse
  rw [hr]
  cases hcourse with
  | error windows hm => exact .inl (hm.withFields fields)
  | health windows hh =>
    have hhealth : healthAnswer r.method w.statistics = health w.statistics := by
      rw [hget]
      rfl
    rw [hhealth]
    exact .inr (.inl ⟨hh, rfl⟩)
  | @served key windows hroute _ =>
    rw [timed_fst]
    cases ha : result (g.serveObject r key) (w.withWindows windows) with
    | error f => exact .inl ((Response.isError_page (by decide) _).withFields fields)
    | ok a =>
      rcases serveObject_get hget ha with
        hm | hm | ⟨hauth, hs, k, o, hk, ho, hstatus, hchunks, hsource⟩
      · exact .inl (hm.withFields fields)
      · exact .inr (.inr ⟨key, hroute, .inl ⟨hm.isStatic, hm.source, hm.chunks⟩⟩)
      · have hread : Access.isRead r.method = true := by
          rw [hget]
          rfl
        rcases directory_of_authorizes hpatterns hstatic hread hauth hs with hpub | hdesktop
        · cases hanonymous.symm.trans hpub
        · rw [Storing.get_result_congr (w.sameMoment_withWindows windows).toSameSources] at ho
          exact .inr (.inr ⟨key, hroute, .inr ⟨k, o, ho, hstatus, hsource, hchunks,
            directory_of_resolve hpatterns hstatic w₀ steps hplain hdesktop windows hk⟩⟩)

/-- A world in which some objects are in memory and packages of Linux have a manifest. -/
def worldWith (objects : Dictionary (ByteArray × Option String)) : World :=
  { World.start 0 with
    storage := ⟨objects, none, ""⟩
    platforms := ⟨.ofSuffixes [("deb", "-linux")], none, false⟩ }

/-- Every object in memory that is a manifest names plain files. -/
def arePlain (objects : Dictionary (ByteArray × Option String)) : Bool :=
  objects.all fun o => (Manifest.ofBytes (StoredObject.ofMemory o.1 o.2.1 o.2.2).read).toOption.elim
    true fun m => m.files.all fun e => !e.url.toList.contains '/'

/-- The store is in memory and in order, and its manifests name plain files. -/
structure KeepsPlain (w : World) : Prop where
  outage : w.outage = none
  bucket : w.storage.bucket = none
  isPlain : arePlain w.storage.memory = true

theorem KeepsPlain.plainManifests (h : KeepsPlain w) : PlainManifests w := by
  intro d key o m _ ho hm e he
  rw [Storing.get_result, h.outage, h.bucket] at ho
  obtain ⟨kept, hkept, rfl⟩ := Option.map_eq_some_iff.mp (Except.ok.inj ho)
  have hplain := List.all_eq_true.mp h.isPlain (key, kept) (Dictionary.mem_of_find? hkept)
  rw [hm] at hplain
  simpa using List.all_eq_true.mp hplain e he

theorem KeepsPlain.of_same {w' : World} (h : KeepsPlain w) (houtage : w'.outage = w.outage)
    (hstorage : w'.storage = w.storage) : KeepsPlain w' :=
  ⟨houtage.trans h.outage, hstorage ▸ h.bucket, hstorage ▸ h.isPlain⟩

/-- Nothing is published by reading, by waiting and by reading the table of platforms again. -/
theorem KeepsPlain.run (h : KeepsPlain w) {steps : List Step}
    (hread : ∀ r, .request r ∈ steps → Access.isWrite r.method = false) :
    KeepsPlain (g.run w steps) := by
  induction steps using List.reverseRecOn with
  | nil => exact h
  | append_singleton steps s ih =>
    have hrest := ih fun r hr => hread r (List.mem_append_left _ hr)
    rw [run_snoc]
    cases s with
    | request r =>
      have hreads : Access.isWrite r.method = false := hread r (by simp)
      refine hrest.of_same (answer_outage g r _) ?_
      rcases answer_effect g r hrest.bucket with ⟨key, -, -, heffect⟩ | ⟨hsame, -⟩
      · exact heffect.of_other fun hwrite => by simp [hreads] at hwrite
      · exact hsame
    | wait seconds => exact hrest.of_same rfl rfl
    | refresh =>
      exact hrest.of_same
        (Refreshing.refresh_keeps isBesideObjects_outage.toIsLasting (fun _ _ => rfl) _)
        (Refreshing.refresh_keeps isLasting_storage (fun _ _ => rfl) _)

theorem eq_nil_of_request_wait {r r' : Request} {seconds : NNRat} {earlier later : List Step}
    (h : [.request r, .wait seconds] = earlier ++ .request r' :: later) : earlier = [] := by
  cases earlier with
  | nil => rfl
  | cons s rest =>
    have htail : [Step.wait seconds] = rest ++ .request r' :: later := congrArg List.tail h
    have hmem : .request r' ∈ [Step.wait seconds] := by
      rw [htail]
      simp
    simp at hmem

/-- A publisher reads a newest release in another directory, and a reader without the secret asks
for the newest release in `desktop/` as soon as the time of the disclosed key is over. The manifest
in `desktop/` is read again, and the reader gets the object that lies there. -/
theorem anonymous_get_after_disclosure :
    let manifest := "version: 1.2.3\nfiles:\n  - url: app-1.2.3_x64.deb\n".toUTF8
    let w₀ := worldWith [
      ("desktop/latest-linux.yml", manifest, none),
      ("desktop/app-1.2.3_x64.deb", "public".toUTF8, none),
      ("private/latest-linux.yml", manifest, none),
      ("private/app-1.2.3_x64.deb", "private".toUTF8, none)]
    let publisher := getOf "/private/app-latest_x64.deb" [(Access.credentialHeader, "sekrit")]
    let steps := [.request publisher, .wait 300]
    let w := secretGateway.run w₀.emptied steps
    let reader := getOf "/desktop/app-latest_x64.deb" []
    let response := (secretGateway.answer reader w).1
    secretGateway.isPublisher publisher = true ∧ secretGateway.isPublisher reader = false ∧
      (∀ earlier, earlier <+: steps → PlainManifests (secretGateway.run w₀.emptied earlier)) ∧
      response.status = 200 ∧ response.chunks = ["public".toUTF8] ∧
      ∃ k o, result (Storing.get k) w = .ok (some o) ∧ response.chunks = o.chunks ∧
        (KeyDescriptor.parse k).directory = "desktop" := by
  intro manifest w₀ publisher steps w reader response
  have hplain : ∀ earlier, earlier <+: steps →
      PlainManifests (secretGateway.run w₀.emptied earlier) := by
    intro earlier hprefix
    have hstart : KeepsPlain w₀.emptied := ⟨rfl, rfl, by decide +kernel⟩
    refine (hstart.run fun r hr => ?_).plainManifests
    have hr : r = publisher := by simpa [steps] using hprefix.subset hr
    rw [hr]
    decide
  obtain ⟨hstatus, hchunks⟩ : response.status = 200 ∧ response.chunks = ["public".toUTF8] := by
    decide +kernel
  refine ⟨by decide, by decide, hplain, hstatus, hchunks, ?_⟩
  have hroute : Route.ofRequest reader.method reader.path =
      .object "desktop/app-latest_x64.deb" := by decide
  have hover : ¬ (secretGateway.run w₀.emptied steps).clock -
      (secretGateway.run w₀.emptied []).clock < secretGateway.settings.latestCacheTtl := by
    decide +kernel
  rcases anonymous_get_confined Access.parse_defaultAllowList rfl w₀ steps hplain reader rfl
    (by decide) with herror | ⟨hhealth, -⟩ | ⟨key, hkey, hpassed | ⟨k, o, ho, -, -, hobject, hk⟩⟩
  · have hge : 400 ≤ response.status := herror.status
    omega
  · cases hroute.symm.trans hhealth
  · cases hroute.symm.trans hkey
    have hstatic : "desktop/app-latest_x64.deb".startsWith
        secretGateway.settings.staticPrefix = false := by decide +kernel
    cases hstatic.symm.trans hpassed.isStatic
  · refine ⟨k, o, ho, hobject, ?_⟩
    refine hk.resolve_right ?_
    rintro ⟨-, earlier, r', later, hsteps, -, hsince⟩
    rw [eq_nil_of_request_wait hsteps] at hsince
    exact absurd hsince hover

/-- With the same manifest in two directories, a reader without the secret gets the object in the
other one after a publisher has read the newest release there. -/
theorem anonymous_get_of_other_directory :
    let manifest := "version: 1.2.3\nfiles:\n  - url: app-1.2.3_x64.deb\n".toUTF8
    let w := worldWith [
      ("desktop/latest-linux.yml", manifest, none),
      ("desktop/app-1.2.3_x64.deb", "public".toUTF8, none),
      ("private/latest-linux.yml", manifest, none),
      ("private/app-1.2.3_x64.deb", "private".toUTF8, none)]
    let publisher := getOf "/private/app-latest_x64.deb" [(Access.credentialHeader, "sekrit")]
    let reader := getOf "/desktop/app-latest_x64.deb" []
    (Manifest.ofBytes manifest).toOption.map (fun m => m.files.map (·.url)) =
        some ["app-1.2.3_x64.deb"] ∧
      secretGateway.isPublisher publisher = true ∧ secretGateway.isPublisher reader = false ∧
      (secretGateway.answer reader
        (secretGateway.run w.emptied [.request publisher])).1.chunks = ["private".toUTF8] := by
  decide +kernel

end InstallerGateway.Gateway
