import InstallerGateway.Proofs.Gateway.Rulings
import Mathlib.Data.List.Forall2

/-!
# Requests that are alike

A gateway reads its requests through a few things: the method, the path, the body with its length
and type, whether a credential is presented and whether it is right, and the address of the client.
Requests that agree in these are ruled on and answered alike, and the same world is left, with the
same records; so two runs of such requests stay in lockstep.
-/

namespace InstallerGateway.Gateway

open Act

variable {g : Gateway} {r r' : Request} {w : World}

/-- The two requests agree in everything that the gateway reads. -/
structure Alike (g : Gateway) (r r' : Request) : Prop where
  method : r'.method = r.method
  path : r'.path = r.path
  body : r'.body = r.body
  length : r'.contentLength? = r.contentLength?
  type : r'.contentType? = r.contentType?
  publisher : g.isPublisher r' = g.isPublisher r
  presented : (Access.presented r'.headers).isEmpty = (Access.presented r.headers).isEmpty
  address : g.clientAddress r' = g.clientAddress r

namespace Alike

/-! ## Single requests -/

theorem authorizes (h : g.Alike r r') (key : String) :
    g.authorizes r' key = g.authorizes r key := by
  unfold Gateway.authorizes
  rw [h.method, h.publisher]

/-- Requests that are alike are refused alike. -/
theorem refusal? (h : g.Alike r r') (route : Route) : g.refusal? r' route = g.refusal? r route := by
  have hlarge : g.isTooLarge r' = g.isTooLarge r := by
    unfold isTooLarge
    rw [h.length]
  have hfault : keyFault? r' route = keyFault? r route := by
    unfold keyFault?
    rw [h.method]
  unfold Gateway.refusal?
  rw [hlarge, hfault]

theorem keep (h : g.Alike r r') (key : String) : keep r' key = keep r key := by
  have hreceived : r'.received? = r.received? := by
    unfold Request.received?
    rw [h.length, h.body]
  have htype : uploadType r' key = uploadType r key := by
    unfold uploadType
    rw [h.type]
  unfold Gateway.keep
  rw [hreceived, htype]

theorem read (h : g.Alike r r') (key : String) : g.read r' key = g.read r key := by
  have hsend (d : KeyDescriptor) (o : StoredObject) :
      g.sendObject r' d o = g.sendObject r d o := by
    unfold sendObject reportDownload
    rw [h.address]
  unfold Gateway.read
  simp only [hsend]

theorem serveObject (h : g.Alike r r') (key : String) :
    g.serveObject r' key = g.serveObject r key := by
  have hforbid : g.forbid r' key = g.forbid r key := by
    unfold forbid
    rw [h.method, h.address]
  unfold Gateway.serveObject
  rw [h.method, h.authorizes, hforbid, h.keep, h.read]

theorem judge (h : g.Alike r r') (view : View) : g.judge r' view = g.judge r view := by
  have hcounted : g.countedAddress r' = g.countedAddress r := by
    unfold countedAddress
    rw [h.address]
  unfold Gateway.judge
  rw [h.publisher, hcounted]

theorem ruling? (h : g.Alike r r') (w : World) : g.ruling? r' w = g.ruling? r w := by
  have hreached : g.reached? r' = g.reached? r := by
    unfold reached?
    simp only [h.method, h.path, h.refusal?]
  unfold Gateway.ruling?
  rw [hreached]
  simp only [h.judge]

/-- Requests that are alike are dispatched alike. -/
theorem dispatch (h : g.Alike r r') (route : Route) : g.dispatch r' route = g.dispatch r route := by
  have hlimited (view : View) (served : StateM World Response) :
      g.limited r' view served = g.limited r view served := by
    unfold limited
    rw [h.judge]
  unfold Gateway.dispatch
  rw [h.refusal?]
  simp only [hlimited, h.serveObject, h.method]

/-- Requests that are alike are served alike. -/
theorem serve (h : g.Alike r r') : g.serve r' = g.serve r := by
  have hreport (status : Nat) (start : Instant) :
      g.reportRequest r' status start = g.reportRequest r status start := by
    unfold reportRequest requestFields
    rw [h.method, h.path, h.address, h.presented]
  unfold Gateway.serve
  rw [h.method, h.path]
  simp only [h.dispatch, hreport]

theorem answer (h : g.Alike r r') : g.answer r' = g.answer r := by
  unfold Gateway.answer
  rw [h.serve]

end Alike

/-! ## Runs -/

/-- What is seen of steps one after the other. -/
def observed {σ ω : Type} (observe : σ → World → ω) (perform : σ → World → World) :
    World → List σ → List ω
  | _, [] => []
  | w, s :: rest => observe s w :: observed observe perform (perform s w) rest

/-- If the steps of two runs do the same, one after the other, the same is seen of the runs, and the
same world is left. -/
theorem lockstep {σ ω : Type} {observe : σ → World → ω} {perform : σ → World → World}
    {rel : σ → σ → Prop}
    (hrel : ∀ s s', rel s s' → ∀ w, observe s' w = observe s w ∧ perform s' w = perform s w)
    {steps steps' : List σ} (h : List.Forall₂ rel steps steps') (w : World) :
    observed observe perform w steps' = observed observe perform w steps ∧
      steps'.foldl (fun w s => perform s w) w = steps.foldl (fun w s => perform s w) w := by
  induction h generalizing w with
  | nil => exact ⟨rfl, rfl⟩
  | @cons s s' _ _ hstep _ ih =>
    obtain ⟨hobserve, hperform⟩ := hrel s s' hstep w
    obtain ⟨hseen, hleft⟩ := ih (perform s w)
    unfold observed
    rw [List.foldl_cons, List.foldl_cons, hobserve, hperform, hseen]
    exact ⟨rfl, hleft⟩

/-- Two steps are the same, or requests that stand in a relation. -/
inductive Step.Like (rel : Request → Request → Prop) : Step → Step → Prop where
  | request {r r' : Request} (h : rel r r') : Like rel (.request r) (.request r')
  | wait (seconds : NNRat) : Like rel (.wait seconds) (.wait seconds)
  | refresh : Like rel .refresh .refresh

/-- The response to a request, and what the limits say about it. -/
def Step.outcome (g : Gateway) : Step → World → Option (Response × Option (Except Fault Verdict))
  | .request r, w => some ((g.answer r w).1, g.ruling? r w)
  | .wait _, _ | .refresh, _ => none

/-- What comes of the steps of a run. -/
def outcomes (g : Gateway) (w : World) (steps : List Step) :
    List (Option (Response × Option (Except Fault Verdict))) :=
  observed (Step.outcome g) (Step.perform g) w steps

/-- Requests that are alike, one after the other, have the same outcomes in a run, and leave the
same world. -/
theorem run_congr_of_alike {rel : Request → Request → Prop}
    (hrel : ∀ r r', rel r r' → g.Alike r r') {steps steps' : List Step}
    (h : List.Forall₂ (Step.Like rel) steps steps') (w : World) :
    g.outcomes w steps' = g.outcomes w steps ∧ g.run w steps' = g.run w steps := by
  refine lockstep ?_ h w
  intro s s' hlike w
  cases hlike with
  | @request r r' hsame =>
    have halike := hrel r r' hsame
    unfold Step.outcome Step.perform
    dsimp only
    rw [halike.answer, halike.ruling?]
    exact ⟨rfl, rfl⟩
  | wait seconds => exact ⟨rfl, rfl⟩
  | refresh => exact ⟨rfl, rfl⟩

end InstallerGateway.Gateway
