import InstallerGateway.Gateway.Objects
import InstallerGateway.Proofs.Gateway.Course
import InstallerGateway.Proofs.Resolving.Outcome

/-!
# Serving an object

Resolved keys are asked for and kept only while an object is read, by a request that is authorized
to read it and that is not passed on to another host. Unless it is answered with an error, such a
request gets the bytes of the object that its key stands for.
-/

namespace InstallerGateway.Gateway

open Act

variable {g : Gateway} {r : Request} {key : String} {w : World} {a : Answer}

/-! ## What is left alone -/

section Keeping

variable {γ : Type} {part : World → γ}

theorem sendable_keeps (fields : Headers) : Keeps part (sendable fields) := by
  unfold sendable
  split
  · exact keeps_throw _
  · exact keeps_pure _

theorem passOn_keeps (hp : IsLasting part) (g : Gateway) (key : String) :
    Keeps part (g.passOn key) := by
  have request (url : String) : Keeps part (g.request url) := by
    refine keeps_bind (keeps_note hp.noting _) fun _ => keeps_bind keeps_get fun w => ?_
    exact keeps_bind (keeps_modify (hp.advance _)) fun _ => keeps_pure _
  refine keeps_bind (request _) fun answer => ?_
  rcases answer with (_ | _) | a
  · exact keeps_pure _
  · exact keeps_throw _
  · exact keeps_bind (sendable_keeps _) fun _ => keeps_pure _

theorem reportDownload_keeps (hp : IsLasting part) (g : Gateway) (r : Request) (name : String) :
    Keeps part (g.reportDownload r name) := by
  unfold reportDownload
  split
  · exact keeps_pure _
  · exact keeps_report hp.noting _

theorem cacheFields_keeps (g : Gateway) : Keeps part g.cacheFields := by
  refine keeps_bind keeps_get fun w => ?_
  split
  · exact keeps_pure _
  · exact keeps_throw _

/-- Sending an object changes nothing that lasts. -/
theorem sendObject_keeps (hp : IsLasting part) (g : Gateway) (r : Request) (d : KeyDescriptor)
    (o : StoredObject) : Keeps part (g.sendObject r d o) := by
  have hsend : Keeps part (do
      let fields ← sendable (objectFields d o)
      let more ← g.cacheFields
      return Answer.full ⟨200, fields ++ more, o.chunks, !o.isStream, none⟩) :=
    keeps_bind (sendable_keeps _) fun _ => keeps_bind (cacheFields_keeps g) fun _ => keeps_pure _
  unfold sendObject
  dsimp only
  split
  · exact keeps_bind (reportDownload_keeps hp g r _) fun _ => hsend
  · exact hsend

theorem forbid_keeps (hp : IsLasting part) (g : Gateway) (r : Request) (key : String) :
    Keeps part (g.forbid r key) :=
  keeps_bind (keeps_report hp.noting _) fun _ => keeps_pure _

theorem keep_keeps (hp : IsBesideObjects part) (r : Request) (key : String) :
    Keeps part (keep r key) := by
  unfold keep
  split
  · exact keeps_bind (Storing.announce_keeps hp.toIsLasting key _) fun _ => keeps_pure _
  · exact keeps_bind (Storing.put_keeps hp key _ _) fun _ =>
      keeps_bind (keeps_report hp.noting _) fun _ => keeps_pure _

theorem remove_keeps (hp : IsBesideObjects part) (key : String) : Keeps part (remove key) :=
  keeps_bind (Storing.delete_keeps hp key) fun _ =>
    keeps_bind (keeps_report hp.noting _) fun _ => keeps_pure _

end Keeping

/-! ## Reading -/

theorem sendable_eq {fields sent : Headers} (h : result (sendable fields) w = .ok sent) :
    sent = fields := by
  unfold sendable at h
  split at h
  · cases h
  · cases h
    rfl

theorem cacheFields_result {more : Headers} (h : result g.cacheFields w = .ok more) :
    CacheControl.fields w.clock g.settings.cacheMaxAge = .ok more := by
  obtain ⟨now, hnow, h⟩ := result_bind_eq_ok h
  cases hnow
  cases hfields : CacheControl.fields w.clock g.settings.cacheMaxAge with
  | error f =>
    simp only [hfields] at h
    cases h
  | ok fields =>
    simp only [hfields] at h
    cases h
    rfl

/-- The response passes on what the other host answers about a key that belongs to it. -/
structure PassesOn (g : Gateway) (w : World) (key : String) (response : Response) : Prop where
  isStatic : key.startsWith g.settings.staticPrefix = true
  source : response.source = some (g.remoteUrl key)
  chunks : ∃ b, (w.hosts.request (g.remoteUrl key)).answer = .ok b ∧ response.chunks = b.chunks

/-- What is passed on is an error, or the answer of the other host. -/
theorem passOn_result (hs : key.startsWith g.settings.staticPrefix = true)
    (h : result (g.passOn key) w = .ok a) :
    a.response.IsError ∨ g.PassesOn w key a.response := by
  obtain ⟨answer, hanswer, h⟩ := result_bind_eq_ok h
  have hrequest : (w.hosts.request (g.remoteUrl key)).answer = answer := Except.ok.inj hanswer
  rcases answer with (_ | _) | b
  · cases h
    exact .inl (Response.isError_ofMessage (by decide) _)
  · cases h
  · obtain ⟨fields, -, h⟩ := result_bind_eq_ok h
    cases h
    exact .inr ⟨hs, rfl, b, hrequest, rfl⟩

/-- An object is sent with the header fields that describe it, and those that tell for how long it
may be kept. -/
theorem sendObject_response {d : KeyDescriptor} {o : StoredObject}
    (h : result (g.sendObject r d o) w = .ok a) : ∃ now more,
      CacheControl.fields now g.settings.cacheMaxAge = .ok more ∧
        a.response = ⟨200, objectFields d o ++ more, o.chunks, !o.isStream, none⟩ := by
  have hsend {w : World} (h : result (do
      let fields ← sendable (objectFields d o)
      let more ← g.cacheFields
      return Answer.full ⟨200, fields ++ more, o.chunks, !o.isStream, none⟩) w = .ok a) :
      ∃ now more, CacheControl.fields now g.settings.cacheMaxAge = .ok more ∧
        a.response = ⟨200, objectFields d o ++ more, o.chunks, !o.isStream, none⟩ := by
    obtain ⟨fields, hfields, h⟩ := result_bind_eq_ok h
    obtain ⟨more, hmore, h⟩ := result_bind_eq_ok h
    cases h
    rw [sendable_eq hfields]
    exact ⟨_, more, cacheFields_result hmore, rfl⟩
  unfold sendObject at h
  dsimp only at h
  split at h
  · obtain ⟨_, -, h⟩ := result_bind_eq_ok h
    exact hsend h
  · exact hsend h

/-- An object is sent with its own pieces. -/
theorem sendObject_result {d : KeyDescriptor} {o : StoredObject}
    (h : result (g.sendObject r d o) w = .ok a) :
    a.response.status = 200 ∧ a.response.chunks = o.chunks ∧ a.response.source = none := by
  obtain ⟨now, more, -, hresponse⟩ := sendObject_response h
  rw [hresponse]
  exact ⟨rfl, rfl, rfl⟩

/-- Reading an object leaves what is kept as resolving its key leaves it. -/
theorem read_cache (h : key.startsWith g.settings.staticPrefix = false) :
    (after (g.read r key) w).cache = (after
      (Resolving.resolve g.settings.latestCacheTtl (KeyDescriptor.parse key)) w).cache := by
  unfold read
  rw [if_neg (by simp [h])]
  refine part_after_bind (fun resolved => ?_) w
  refine keeps_bind (Storing.get_keeps isLasting_cache resolved) fun found => ?_
  cases found with
  | none => exact keeps_pure _
  | some o => exact sendObject_keeps isLasting_cache g r _ o

/-- What is read is the object whose key is resolved, or an error says why there is none. -/
theorem read_response (hs : key.startsWith g.settings.staticPrefix = false)
    (h : result (g.read r key) w = .ok a) :
    a.response.IsError ∨ ∃ k o now more,
      result (Resolving.resolve g.settings.latestCacheTtl (KeyDescriptor.parse key)) w = .ok k ∧
      result (Storing.get k) w = .ok (some o) ∧
      CacheControl.fields now g.settings.cacheMaxAge = .ok more ∧
      a.response = ⟨200, objectFields (KeyDescriptor.parse k) o ++ more, o.chunks, !o.isStream,
        none⟩ := by
  unfold read at h
  rw [if_neg (by simp [hs])] at h
  obtain ⟨k, hk, h⟩ := result_bind_eq_ok h
  obtain ⟨found, hfound, h⟩ := result_bind_eq_ok h
  cases found with
  | none =>
    cases h
    exact .inl (Response.isError_ofMessage (by decide) _)
  | some o =>
    have hsame := Resolving.resolve_sameMoment g.settings.latestCacheTtl (KeyDescriptor.parse key) w
    rw [Storing.get_result_congr hsame.toSameSources] at hfound
    obtain ⟨now, more, hmore, hresponse⟩ := sendObject_response h
    exact .inr ⟨k, o, now, more, hk, hfound, hmore, hresponse⟩

/-- A request to read is answered with an error, or with the object under the key that its key is
resolved to. -/
theorem read_result (hs : key.startsWith g.settings.staticPrefix = false)
    (h : result (g.read r key) w = .ok a) :
    a.response.IsError ∨ ∃ k o,
      result (Resolving.resolve g.settings.latestCacheTtl (KeyDescriptor.parse key)) w = .ok k ∧
      result (Storing.get k) w = .ok (some o) ∧ a.response.status = 200 ∧
      a.response.chunks = o.chunks ∧ a.response.source = none := by
  rcases read_response hs h with herror | ⟨k, o, now, more, hk, ho, -, hresponse⟩
  · exact .inl herror
  · rw [hresponse]
    exact .inr ⟨k, o, hk, ho, rfl, rfl, rfl⟩

/-! ## All methods -/

/-- Serving a request changes what is kept only by resolving the key that it is authorized to
read. -/
theorem serveObject_cache (g : Gateway) (r : Request) (key : String) (w : World) :
    (after (g.serveObject r key) w).cache = w.cache ∨
      (Access.isRead r.method = true ∧ g.authorizes r key = true ∧
        key.startsWith g.settings.staticPrefix = false ∧
        (after (g.serveObject r key) w).cache = (after
          (Resolving.resolve g.settings.latestCacheTtl (KeyDescriptor.parse key)) w).cache) := by
  unfold serveObject
  split
  · exact .inl rfl
  · split
    · exact .inl (forbid_keeps isLasting_cache g r key w)
    · split
      · exact .inl (keep_keeps isBesideObjects_cache r key w)
      · split
        · exact .inl (remove_keeps isBesideObjects_cache key w)
        · rename_i hserved hauth hput hdelete
          cases hs : key.startsWith g.settings.staticPrefix with
          | true =>
            unfold read
            rw [if_pos hs]
            exact .inl (passOn_keeps isLasting_cache g key w)
          | false =>
            refine .inr ⟨?_, by simpa using hauth, rfl, read_cache hs⟩
            simpa [Access.isWrite, hput, hdelete] using hserved

/-- A request to read an object is answered with an error, or by another host, or it is authorized
and gets the object whose key is resolved. -/
theorem serveObject_get (hget : r.method = "GET") (h : result (g.serveObject r key) w = .ok a) :
    a.response.IsError ∨ g.PassesOn w key a.response ∨
      g.authorizes r key = true ∧ key.startsWith g.settings.staticPrefix = false ∧ ∃ k o,
        result (Resolving.resolve g.settings.latestCacheTtl (KeyDescriptor.parse key)) w = .ok k ∧
        result (Storing.get k) w = .ok (some o) ∧ a.response.status = 200 ∧
        a.response.chunks = o.chunks ∧ a.response.source = none := by
  unfold serveObject at h
  rw [if_neg (by simp [hget, Access.isRead])] at h
  split at h
  · obtain ⟨_, -, h⟩ := result_bind_eq_ok h
    cases h
    exact .inl (Response.isError_ofMessage (by decide) _)
  · rename_i hauth
    rw [if_neg (by simp [hget]), if_neg (by simp [hget])] at h
    cases hs : key.startsWith g.settings.staticPrefix with
    | true =>
      unfold read at h
      rw [if_pos hs] at h
      rcases passOn_result hs h with hm | hm
      · exact .inl hm
      · exact .inr (.inl hm)
    | false =>
      rcases read_result hs h with hm | hm
      · exact .inl hm
      · exact .inr (.inr ⟨by simpa using hauth, rfl, hm⟩)

end InstallerGateway.Gateway
