import InstallerGateway.Proofs.Gateway.Alike
import InstallerGateway.Proofs.Http.Comparing

/-!
# What has no influence

A gateway that does not trust what others report about clients does nothing else for requests whose
forwarding fields are different, and no gateway tells wrong credentials from each other: responses,
rulings, records and all that is kept are the same.
-/

namespace InstallerGateway.Gateway

variable {g : Gateway} {r r' : Request}

/-! ## Single requests -/

theorem clientAddress_of_not_trusts (h : g.trustsForwarding = false) (r : Request) :
    g.clientAddress r = r.remote.getD "" := by
  unfold clientAddress
  rw [h]
  rfl

theorem isPublisher_congr (h : Access.presented r'.headers = Access.presented r.headers) :
    g.isPublisher r' = g.isPublisher r := by
  unfold isPublisher Access.hasCredential
  rw [h]

/-- Requests that differ in some header fields are alike if the gateway reads the same about the
client. -/
theorem alike_of_sameBeside {names : List String} (h : r.SameBeside names r')
    (hnames : ∀ name ∈ ["Transfer-Encoding", "Content-Length", "Content-Type"],
      Headers.isAmong names name = false)
    (hpublisher : g.isPublisher r' = g.isPublisher r)
    (hpresented : (Access.presented r'.headers).isEmpty = (Access.presented r.headers).isEmpty)
    (haddress : g.clientAddress r' = g.clientAddress r) : g.Alike r r' where
  method := h.method
  path := h.path
  body := h.body
  length := h.contentLength? (hnames _ (by simp)) (hnames _ (by simp))
  type := h.contentType? (hnames _ (by simp))
  publisher := hpublisher
  presented := hpresented
  address := haddress

theorem get?_getOf {names : List String} {path name value other : String}
    (hname : Headers.isAmong names (Headers.hyphenated name) = true)
    (hother : Headers.isAmong names other = false) :
    (getOf path [(name, value)]).headers.get? other = none := by
  refine if_neg fun hsame => ?_
  rw [Headers.isAmong_congr hsame, hother] at hname
  cases hname

/-! ## Forwarding -/

/-- The header fields that tell for which client a request is forwarded. -/
def forwardingNames : List String := ["CF-Connecting-IP", "X-Forwarded-For"]

/-- The requests agree in everything but their forwarding fields. -/
structure SameBesideForwarding (r r' : Request) : Prop where
  rest : r.SameBeside forwardingNames r'
  remote : r'.remote = r.remote

/-- Without trust in the forwarding fields, requests that differ in them alone are alike. -/
theorem SameBesideForwarding.alike (h : SameBesideForwarding r r')
    (htrusts : g.trustsForwarding = false) : g.Alike r r' := by
  have hpresented : Access.presented r'.headers = Access.presented r.headers := by
    unfold Access.presented
    rw [h.rest.field Access.credentialHeader (by decide)]
  have haddress : g.clientAddress r' = g.clientAddress r := by
    rw [clientAddress_of_not_trusts htrusts, clientAddress_of_not_trusts htrusts, h.remote]
  exact alike_of_sameBeside h.rest (by decide) (isPublisher_congr hpresented)
    (by rw [hpresented]) haddress

/-- A gateway that does not trust forwarding fields: if the requests of two runs differ in these
alone, one after the other, all responses and rulings are the same, and so is the world that is
left, with its store, its cache and its records. -/
theorem run_congr_of_forwarding (htrusts : g.trustsForwarding = false) {steps steps' : List Step}
    (h : List.Forall₂ (Step.Like SameBesideForwarding) steps steps') (w : World) :
    g.outcomes w steps' = g.outcomes w steps ∧ g.run w steps' = g.run w steps :=
  run_congr_of_alike (fun _ _ hsame => hsame.alike htrusts) h w

/-- Who claims another address for each request is one client all the same. -/
theorem run_of_rotated_forwarding :
    let steps := [.request (getOf "/health" []), .wait 1, .request (getOf "/health" [])]
    let steps' := [.request (getOf "/health" [("CF-Connecting-IP", "203.0.113.1")]), .wait 1,
      .request (getOf "/health" [("X-Forwarded-For", "198.51.100.2")])]
    let w := World.start 0
    (limitedGateway.outcomes w steps').map (Option.map (·.1.status)) =
        [some 200, none, some 429] ∧
      limitedGateway.outcomes w steps' = limitedGateway.outcomes w steps ∧
      limitedGateway.run w steps' = limitedGateway.run w steps := by
  intro steps steps' w
  have hsame (name value : String)
      (hname : Headers.isAmong forwardingNames (Headers.hyphenated name) = true) :
      SameBesideForwarding (getOf "/health" []) (getOf "/health" [(name, value)]) :=
    ⟨⟨rfl, rfl, rfl, fun _ hother => get?_getOf hname hother⟩, rfl⟩
  refine ⟨by decide +kernel, run_congr_of_forwarding rfl ?_ w⟩
  exact .cons (.request (hsame _ _ (by decide))) (.cons (.wait 1)
    (.cons (.request (hsame _ _ (by decide))) .nil))

/-! ## Wrong credentials -/

/-- The credential is presented, and is not the secret. -/
def IsWrong (g : Gateway) (credential : String) : Prop :=
  credential ≠ "" ∧ credential ≠ g.settings.releasesAuthKey

instance (g : Gateway) (credential : String) : Decidable (g.IsWrong credential) :=
  inferInstanceAs (Decidable (_ ∧ _))

/-- The requests agree in everything, except that both of them may present wrong credentials. -/
structure SameBesideWrong (g : Gateway) (r r' : Request) : Prop where
  rest : r.SameBeside [Access.credentialHeader] r'
  remote : r'.remote = r.remote
  credential : Access.presented r'.headers = Access.presented r.headers ∨
    g.IsWrong (Access.presented r.headers) ∧ g.IsWrong (Access.presented r'.headers)

theorem isPublisher_of_isWrong (h : g.IsWrong (Access.presented r.headers)) :
    g.isPublisher r = false := by
  unfold isPublisher Access.hasCredential
  rw [Bool.and_eq_false_iff]
  exact .inr (beq_eq_false_iff_ne.mpr h.2)

theorem isEmpty_of_isWrong {credential : String} (h : g.IsWrong credential) :
    credential.isEmpty = false :=
  Bool.eq_false_of_not_eq_true fun hempty => h.1 (String.isEmpty_iff.mp hempty)

/-- Requests that differ in wrong credentials alone are alike. -/
theorem SameBesideWrong.alike (h : g.SameBesideWrong r r') : g.Alike r r' := by
  have hforwarded : forwardedFor r' = forwardedFor r := by
    unfold forwardedFor
    rw [h.rest.field "X-Forwarded-For" (by decide)]
  have haddress : g.clientAddress r' = g.clientAddress r := by
    unfold clientAddress
    rw [hforwarded, h.rest.field "CF-Connecting-IP" (by decide), h.remote]
  rcases h.credential with hsame | ⟨hwrong, hwrong'⟩
  · exact alike_of_sameBeside h.rest (by decide) (isPublisher_congr hsame) (by rw [hsame]) haddress
  · have hpublisher : g.isPublisher r' = g.isPublisher r := by
      rw [isPublisher_of_isWrong hwrong, isPublisher_of_isWrong hwrong']
    have hpresented : (Access.presented r'.headers).isEmpty =
        (Access.presented r.headers).isEmpty := by
      rw [isEmpty_of_isWrong hwrong, isEmpty_of_isWrong hwrong']
    exact alike_of_sameBeside h.rest (by decide) hpublisher hpresented haddress

/-- Any gateway: if the requests of two runs differ in wrong credentials alone, one after the other,
all responses and rulings are the same, and so is the world that is left, with its store, its cache
and its records. -/
theorem run_congr_of_wrong {steps steps' : List Step}
    (h : List.Forall₂ (Step.Like g.SameBesideWrong) steps steps') (w : World) :
    g.outcomes w steps' = g.outcomes w steps ∧ g.run w steps' = g.run w steps :=
  run_congr_of_alike (fun _ _ hsame => hsame.alike) h w

/-- All of the secret but its end is as wrong as anything else. -/
theorem run_of_wrong_credentials :
    let attempt (credential : String) :=
      getOf "/private/app.zip" [(Access.credentialHeader, credential)]
    let steps := [.request (attempt "x"), .wait 1, .request (attempt "guess")]
    let steps' := [.request (attempt "sekri"), .wait 1, .request (attempt "SEKRIT")]
    let w := World.start 0
    (limitedGateway.outcomes w steps').map (Option.map (·.1.status)) =
        [some 403, none, some 429] ∧
      limitedGateway.outcomes w steps' = limitedGateway.outcomes w steps ∧
      limitedGateway.run w steps' = limitedGateway.run w steps := by
  intro attempt steps steps' w
  have hsame (credential credential' : String) (hwrong : limitedGateway.IsWrong credential)
      (hwrong' : limitedGateway.IsWrong credential') :
      limitedGateway.SameBesideWrong (attempt credential) (attempt credential') := by
    have hname : sameName (Headers.hyphenated Access.credentialHeader) Access.credentialHeader =
        true := by decide
    have hpresented (c : String) : Access.presented (attempt c).headers = c := by
      show (if sameName (Headers.hyphenated Access.credentialHeader) Access.credentialHeader = true
        then some c else none).getD "" = c
      rw [if_pos hname]
      rfl
    refine ⟨⟨rfl, rfl, rfl, fun other hother => ?_⟩, rfl, .inr ?_⟩
    · rw [get?_getOf (by decide) hother, get?_getOf (by decide) hother]
    · rw [hpresented, hpresented]
      exact ⟨hwrong, hwrong'⟩
  refine ⟨by decide +kernel, run_congr_of_wrong ?_ w⟩
  exact .cons (.request (hsame _ _ (by decide) (by decide))) (.cons (.wait 1)
    (.cons (.request (hsame _ _ (by decide) (by decide))) .nil))

end InstallerGateway.Gateway
