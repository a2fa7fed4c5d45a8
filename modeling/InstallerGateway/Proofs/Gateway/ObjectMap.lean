import InstallerGateway.Proofs.Gateway.Admission
import Mathlib.Logic.Function.Basic

/-!
# The gateway as a map

For publishers, and for keys that stand for one object each, the gateway is a map from keys to
bytes: `PUT` binds a key, `DELETE` unbinds it, and `GET` tells what it is bound to. Other requests,
the passing of time and new tables of platforms have no effect on that.
-/

namespace InstallerGateway.Gateway

open Act

variable {g : Gateway} {r : Request} {w w₀ : World} {key : String}

/-! ## Operations -/

/-- What is held under each key. -/
abbrev ObjectMap := String → Option ByteArray

/-- An operation on a map. -/
inductive Operation where
  | put (body : ByteArray)
  | get
  | delete

namespace Operation

/-- What the map holds after an operation on one of its keys. -/
def perform (key : String) : Operation → ObjectMap → ObjectMap
  | .put body, m => Function.update m key (some body)
  | .get, m => m
  | .delete, m => Function.update m key none

/-- The response tells how the operation went: whether it succeeded, and what was held if that is
asked for. -/
def Answers (held : Option ByteArray) (response : Response) : Operation → Prop
  | .put _ | .delete => response.status = 200
  | .get =>
    match held with
    | some body => response.status = 200 ∧ response.sentBody "GET" = body
    | none => response.status = 404

/-- The operation that the method of a request stands for; a body that is not complete is none. -/
def ofRequest? (r : Request) : Option Operation :=
  if r.method = "PUT" then r.received?.map .put
  else if r.method = "GET" then some .get
  else if r.method = "DELETE" then some .delete
  else none

end Operation

/-- The request is one of a publisher, for a plain key, with a body that is not too long. -/
structure Addresses (g : Gateway) (r : Request) (key : String) : Prop where
  route : Route.ofRequest r.method r.path = .object key
  isPlain : g.IsPlain key
  access : g.PresentsSecret r
  length : ∀ n ∈ r.contentLength?, (n : Int) ≤ g.maxContentLength

instance (g : Gateway) (key : String) : Decidable (g.IsPlain key) :=
  decidable_of_iff
    (Key.isValid key = true ∧ (KeyDescriptor.parse key).isLatest = false ∧
      key.startsWith g.settings.staticPrefix = false)
    ⟨fun h => ⟨h.1, h.2.1, h.2.2⟩, fun h => ⟨h.isValid, h.isUnmarked, h.isLocal⟩⟩

instance (g : Gateway) (r : Request) : Decidable (g.PresentsSecret r) :=
  inferInstanceAs (Decidable (_ ∧ _))

instance (g : Gateway) (r : Request) (key : String) : Decidable (g.Addresses r key) :=
  decidable_of_iff
    (Route.ofRequest r.method r.path = .object key ∧ g.IsPlain key ∧ g.PresentsSecret r ∧
      ∀ n ∈ r.contentLength?, (n : Int) ≤ g.maxContentLength)
    ⟨fun h => ⟨h.1, h.2.1, h.2.2.1, h.2.2.2⟩, fun h => ⟨h.route, h.isPlain, h.access, h.length⟩⟩

/-- The operation that a request asks for, and its key. -/
def operation? (g : Gateway) (r : Request) : Option (String × Operation) :=
  match Route.ofRequest r.method r.path with
  | .object key =>
    if g.Addresses r key then (Operation.ofRequest? r).map fun op => (key, op) else none
  | _ => none

/-- A request is an operation on a key if it addresses the key with one of the methods. -/
theorem operation?_eq_some_iff {op : Operation} : g.operation? r = some (key, op) ↔
    g.Addresses r key ∧ Operation.ofRequest? r = some op := by
  unfold operation?
  constructor
  · intro h
    split at h
    · split_ifs at h with haddress
      obtain ⟨op', hop, heq⟩ := Option.map_eq_some_iff.mp h
      cases heq
      exact ⟨haddress, hop⟩
    · cases h
  · rintro ⟨haddress, hop⟩
    rw [haddress.route]
    dsimp only
    rw [if_pos haddress, hop]
    rfl

/-- What a step does to the map. -/
def Step.bind (g : Gateway) (m : ObjectMap) : Step → ObjectMap
  | .request r =>
    match g.operation? r with
    | some (key, op) => op.perform key m
    | none => m
  | .wait _ | .refresh => m

/-- The map after the steps of a run that begins with the empty one. -/
def bindings (g : Gateway) (steps : List Step) : ObjectMap :=
  steps.foldl (Step.bind g) fun _ => none

theorem bindings_snoc (g : Gateway) (steps : List Step) (s : Step) :
    g.bindings (steps ++ [s]) = s.bind g (g.bindings steps) := by
  simp [bindings]

theorem Step.bind_of_none (h : g.operation? r = none) (m : ObjectMap) :
    (Step.request r).bind g m = m := by
  simp only [Step.bind, h]

theorem Step.bind_of_some {op : Operation} (h : g.operation? r = some (key, op)) (m : ObjectMap) :
    (Step.request r).bind g m = op.perform key m := by
  simp only [Step.bind, h]

/-- A request has no effect on the binding of another key than its own. -/
theorem Step.bind_of_ne (hroute : Route.ofRequest r.method r.path = .object key) {other : String}
    (hne : other ≠ key) (m : ObjectMap) : (Step.request r).bind g m other = m other := by
  cases hop : g.operation? r with
  | none => rw [bind_of_none hop]
  | some p =>
    obtain ⟨own, op⟩ := p
    have hown := (operation?_eq_some_iff.mp hop).1.route
    cases hroute.symm.trans hown
    rw [bind_of_some hop]
    cases op with
    | put body => exact Function.update_of_ne hne _ _
    | get => rfl
    | delete => exact Function.update_of_ne hne _ _

/-! ## Single requests -/

/-- A request that addresses a key is admitted, if its limits can be read. -/
theorem Addresses.admits (h : g.Addresses r key) (hlimits : g.limits? ≠ none) {op : Operation}
    (hop : Operation.ofRequest? r = some op) (w : World) : g.Admits r w key := by
  have hserved : Access.isWrite r.method = true ∨ Access.isRead r.method = true := by
    unfold Operation.ofRequest? at hop
    split_ifs at hop with hput hget hdelete
    · exact .inl (by simp [Access.isWrite, hput])
    · exact .inr (by simp [Access.isRead, hget])
    · exact .inl (by simp [Access.isWrite, hdelete])
  refine ⟨h.route, h.isPlain.isValid, h.length,
    isWithinLimits_of_presentsSecret hlimits h.access _ w, ?_⟩
  rcases hserved with hwrite | hread
  · exact .inl ⟨hwrite, h.access⟩
  · exact .inr ⟨hread, .inl h.access⟩

/-- A request that changes an object under a plain key with success is an operation. -/
theorem addresses_of_ok (hroute : Route.ofRequest r.method r.path = .object key)
    (hkey : g.IsPlain key) (hwrite : Access.isWrite r.method = true)
    (h : (g.answer r w).1.status = 200) : g.Addresses r key := by
  have hadmits := admits_of_ok hroute h
  refine ⟨hroute, hkey, ?_, hadmits.length⟩
  rcases hadmits.access with ⟨-, hsecret⟩ | ⟨hread, -⟩
  · exact hsecret
  · rw [not_isRead_of_isWrite hwrite] at hread
    cases hread

/-! ## Runs -/

/-- The objects in memory are those of the map, as far as plain keys are concerned, and all of them
can be sent. -/
structure Holds (g : Gateway) (m : ObjectMap) (w : World) : Prop where
  bucket : w.storage.bucket = none
  outage : w.outage = none
  objects : ∀ key, g.IsPlain key → (w.storage.memory.find? key).map (·.1) = m key
  lines : ∀ key, ∀ o ∈ w.storage.memory.find? key, ∀ t ∈ o.2, IsLine t

namespace Holds

variable {m : ObjectMap}

/-- Whether the store holds what the map does depends on the store alone. -/
theorem of_same {w' : World} (h : g.Holds m w) (hstorage : w'.storage = w.storage)
    (houtage : w'.outage = w.outage) : g.Holds m w' := by
  refine ⟨?_, houtage.trans h.outage, ?_, ?_⟩
  · rw [hstorage]
    exact h.bucket
  · rw [hstorage]
    exact h.objects
  · rw [hstorage]
    exact h.lines

/-- A request that leaves the store as it was asks for no operation, or only for what is held. -/
theorem bind_of_unchanged (h : g.Holds m w) (hlimits : g.limits? ≠ none)
    (hfail : Access.isWrite r.method = true → (g.answer r w).1.status ≠ 200) :
    (Step.request r).bind g m = m := by
  cases hop : g.operation? r with
  | none => exact Step.bind_of_none hop m
  | some p =>
    obtain ⟨key, op⟩ := p
    obtain ⟨haddress, hmethod⟩ := operation?_eq_some_iff.mp hop
    have hadmits := haddress.admits hlimits hmethod w
    rw [Step.bind_of_some hop]
    unfold Operation.ofRequest? at hmethod
    split_ifs at hmethod with hput hget hdelete
    · obtain ⟨body, hbody, rfl⟩ := Option.map_eq_some_iff.mp hmethod
      have hstatus := hadmits.put_status h.bucket hput hbody
      exact absurd hstatus (hfail (by simp [Access.isWrite, hput]))
    · cases hmethod
      rfl
    · have hstatus := hadmits.delete_status h.bucket hdelete
      exact absurd hstatus (hfail (by simp [Access.isWrite, hdelete]))

/-- A request that changes the object under one key is an operation if the key is plain. -/
theorem bind_of_changed (h : g.Holds m w) {w' : World} {op : Operation}
    (hroute : Route.ofRequest r.method r.path = .object key)
    (hop : Operation.ofRequest? r = some op) (haddress : g.IsPlain key → g.Addresses r key)
    {status : Nat} (heffect : StoreEffect r key w.storage status w'.storage)
    (houtage : w'.outage = w.outage)
    (hown : (w'.storage.memory.find? key).map (·.1) = op.perform key m key)
    (hlines : ∀ f ∈ r.headers, IsLine f.2) : g.Holds ((Step.request r).bind g m) w' := by
  have hbucket := heffect.bucket.trans h.bucket
  refine ⟨hbucket, houtage.trans h.outage, fun other hplain => ?_, heffect.lines hlines h.lines⟩
  by_cases hne : other = key
  · subst hne
    have hoperation := operation?_eq_some_iff.mpr ⟨haddress hplain, hop⟩
    rw [Step.bind_of_some hoperation]
    exact hown
  · rw [heffect.find?_of_ne (Ne.symm hne), Step.bind_of_ne hroute hne]
    exact h.objects other hplain

/-- A store that holds what the map does still does so after a request. -/
theorem request (h : g.Holds m w) (hlimits : g.limits? ≠ none)
    (hlines : ∀ f ∈ r.headers, IsLine f.2) :
    g.Holds ((Step.request r).bind g m) (g.answer r w).2 := by
  have houtage := answer_outage g r w
  rcases answer_effect g r h.bucket with ⟨key, hroute, -, heffect⟩ | ⟨hstorage, hfail⟩
  · have addresses (hwrite : Access.isWrite r.method = true) (hok : (g.answer r w).1.status = 200)
        (hkey : g.IsPlain key) : g.Addresses r key := addresses_of_ok hroute hkey hwrite hok
    have heffect' := heffect
    generalize hstorage : (g.answer r w).2.storage = storage at heffect
    generalize hstatus : (g.answer r w).1.status = status at heffect addresses
    cases heffect with
    | @kept body hput hbody =>
      have hop : Operation.ofRequest? r = some (.put body) := by
        simp [Operation.ofRequest?, hput, hbody]
      have hwrite : Access.isWrite r.method = true := by simp [Access.isWrite, hput]
      refine h.bind_of_changed hroute hop (addresses hwrite rfl) heffect' houtage ?_ hlines
      rw [hstorage, Dictionary.find?_put_self]
      exact (Function.update_self key (some body) m).symm
    | removed hdelete =>
      have hop : Operation.ofRequest? r = some .delete := by
        simp [Operation.ofRequest?, hdelete]
      have hwrite : Access.isWrite r.method = true := by simp [Access.isWrite, hdelete]
      refine h.bind_of_changed hroute hop (addresses hwrite rfl) heffect' houtage ?_ hlines
      rw [hstorage, Dictionary.find?_remove_self]
      exact (Function.update_self key none m).symm
    | unchanged hfail =>
      rw [← hstatus] at hfail
      rw [h.bind_of_unchanged hlimits hfail]
      exact h.of_same hstorage houtage
  · rw [h.bind_of_unchanged hlimits hfail]
    exact h.of_same hstorage houtage

/-- A store that holds what the map does still does so after a step. -/
theorem step (h : g.Holds m w) (hlimits : g.limits? ≠ none) {s : Step}
    (hlines : ∀ r, s = .request r → ∀ f ∈ r.headers, IsLine f.2) :
    g.Holds (s.bind g m) (s.perform g w) := by
  cases s with
  | request r => exact h.request hlimits (hlines r rfl)
  | wait seconds => exact h.of_same rfl rfl
  | refresh =>
    have hstorage := Refreshing.refresh_keeps isLasting_storage (fun _ _ => rfl) w
    have houtage := Refreshing.refresh_keeps isBesideObjects_outage.toIsLasting (fun _ _ => rfl) w
    exact h.of_same hstorage houtage

end Holds

/-- The store holds after any run what the map of the run does. -/
theorem run_holds (g : Gateway) (w₀ : World) (steps : List Step) (hlimits : g.limits? ≠ none)
    (houtage : w₀.outage = none)
    (hlines : ∀ r, .request r ∈ steps → ∀ f ∈ r.headers, IsLine f.2) :
    g.Holds (g.bindings steps) (g.run (w₀.holding []) steps) := by
  induction steps using List.reverseRecOn with
  | nil => exact ⟨rfl, houtage, fun _ _ => rfl, nofun⟩
  | append_singleton steps s ih =>
    rw [run_snoc, bindings_snoc]
    have hbefore := ih fun r hr => hlines r (List.mem_append_left _ hr)
    exact hbefore.step hlimits fun r hs => hlines r (by simp [hs])

/-- Any run that begins with an empty store, of a gateway whose limits can be read: a publisher who
puts, gets or deletes the object under a plain key is answered as the map says that comes of the
operations so far. What else has happened, between them or before, makes no difference. -/
theorem answer_refines_map (g : Gateway) (w₀ : World) (steps : List Step) (r : Request)
    (key : String) (op : Operation) (hlimits : g.limits? ≠ none) (houtage : w₀.outage = none)
    (hlines : ∀ r, .request r ∈ steps → ∀ f ∈ r.headers, IsLine f.2)
    (hdate : (CacheControl.fields (g.run (w₀.holding []) steps).clock
      g.settings.cacheMaxAge).isOk = true)
    (hop : g.operation? r = some (key, op)) :
    op.Answers (g.bindings steps key) (g.answer r (g.run (w₀.holding []) steps)).1 := by
  have hholds := run_holds g w₀ steps hlimits houtage hlines
  generalize g.run (w₀.holding []) steps = w at hdate hholds
  obtain ⟨haddress, hmethod⟩ := operation?_eq_some_iff.mp hop
  have hadmits := haddress.admits hlimits hmethod w
  obtain ⟨more, hmore⟩ := exists_eq_ok_of_isOk hdate
  unfold Operation.ofRequest? at hmethod
  split_ifs at hmethod with hput hget hdelete
  · obtain ⟨body, hbody, rfl⟩ := Option.map_eq_some_iff.mp hmethod
    exact hadmits.put_status hholds.bucket hput hbody
  · cases hmethod
    obtain ⟨fields, hanswer⟩ := hadmits.get_answer hget haddress.isPlain hholds.bucket
      hholds.outage (hholds.lines key) hmore
    rw [hanswer, ← hholds.objects key haddress.isPlain]
    cases w.storage.memory.find? key with
    | none => exact rfl
    | some o =>
      refine ⟨rfl, ?_⟩
      show [o.1].foldl (· ++ ·) ByteArray.empty = o.1
      simp
  · cases hmethod
    exact hadmits.delete_status hholds.bucket hdelete

/-- What was put is found, whatever a reader without the secret has tried since. -/
theorem get_of_put :
    let put := publisherOf "PUT" "/desktop/app.zip" ⟨#[80, 75, 0]⟩
    let get := publisherOf "GET" "/desktop/app.zip" ByteArray.empty
    let steps := [.request put, .request (getOf "/desktop/app-latest.zip" []), .wait 1]
    let w := secretGateway.run ((World.start 0).holding []) steps
    secretGateway.bindings steps "desktop/app.zip" = some ⟨#[80, 75, 0]⟩ ∧
      Operation.get.Answers (secretGateway.bindings steps "desktop/app.zip")
        (secretGateway.answer get w).1 := by
  intro put get steps w
  have hget : secretGateway.operation? get = some ("desktop/app.zip", .get) :=
    operation?_eq_some_iff.mpr ⟨by decide +kernel, rfl⟩
  refine ⟨by decide +kernel, answer_refines_map secretGateway (World.start 0) steps get
    "desktop/app.zip" .get nofun rfl ?_ (by decide +kernel) hget⟩
  intro r hr
  simp only [steps, List.mem_cons, Step.request.injEq, List.not_mem_nil, or_false] at hr
  rcases hr with rfl | rfl | hr
  · decide +kernel
  · decide +kernel
  · cases hr

/-- If the text of the rate limit cannot be read, publishers are answered with a failure too, and
nothing is kept. -/
theorem put_under_unreadable_limit :
    let g := { secretGateway with rateLimit := some "nonsense" }
    let put := publisherOf "PUT" "/desktop/app.zip" ⟨#[80, 75, 0]⟩
    let w := (World.start 0).holding []
    g.Addresses put "desktop/app.zip" ∧ put.received?.isSome = true ∧
      (CacheControl.fields w.clock g.settings.cacheMaxAge).isOk = true ∧
      (g.answer put w).1.status = 500 ∧ (g.answer put w).2.storage.memory.length = 0 := by
  decide +kernel

end InstallerGateway.Gateway
