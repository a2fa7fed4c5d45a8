import InstallerGateway.Proofs.Cache.Layers

/-!
# Replaced values

Over a table, a value is replaced for good by the next one that goes to the same layer. One that
goes to the other layer hides it only as long as requests lead there. So a value that was replaced
is found again exactly if every later one of its token has gone to the other layer and its time is
not over.
-/

namespace InstallerGateway.Caching

open Act

/-- The layer to which the value has gone still has it: memory if the table refused it. -/
def Put.isLive (now : Instant) (p : Put) : Bool :=
  if p.isRefused then p.isInMemory now else p.isInTable now

namespace Log

variable {l : Log} {token value : String} {refusal : Option String}

/-- What was put under a token, the last value first. -/
def under (token : String) (l : Log) : List Put := l.puts.filter (·.token = token)

theorem last?_eq_find?_under (token : String) (isRefused : Bool) (l : Log) :
    l.last? token isRefused = (l.under token).find? (·.isRefused = isRefused) := by
  unfold last? under
  rw [List.find?_filter]
  simp

/-- What is found is the last value that went to the layer which is asked, while that has it. -/
theorem found?_eq_some_iff_last? : l.found? token refusal = some value ↔
    ∃ p, l.last? token refusal.isSome = some p ∧ p.isLive l.now = true ∧ p.value = value := by
  have houtcome {p : Put} (h : l.last? token refusal.isSome = some p) :
      p.isRefused = refusal.isSome := by
    have hp := List.find?_some h
    simp only [decide_eq_true_eq] at hp
    exact hp.2
  have hfound : l.found? token refusal =
      ((l.last? token refusal.isSome).filter (·.isLive l.now)).map (·.value) := by
    cases hl : l.last? token refusal.isSome with
    | none => cases refusal <;> simp_all [found?]
    | some p =>
      have hp := houtcome hl
      cases refusal <;> simp_all [found?, Put.isLive, Option.filter]
  rw [hfound]
  simp [Option.filter_eq_some_iff, and_assoc]

/-- What is found is live, and all that was put later under the token was treated the other way. -/
theorem found?_eq_some_iff : l.found? token refusal = some value ↔
    ∃ later p earlier, l.under token = later ++ p :: earlier ∧
      (∀ q ∈ later, q.isRefused ≠ refusal.isSome) ∧ p.isRefused = refusal.isSome ∧
      p.isLive l.now = true ∧ p.value = value := by
  rw [found?_eq_some_iff_last?]
  simp only [last?_eq_find?_under, List.find?_eq_some_iff_append, decide_eq_true_eq,
    Bool.not_eq_true', decide_eq_false_iff_not]
  constructor
  · rintro ⟨p, ⟨hp, later, earlier, hunder, hlater⟩, hlive, rfl⟩
    exact ⟨later, p, earlier, hunder, hlater, hp, hlive, rfl⟩
  · rintro ⟨later, p, earlier, hunder, hlater, hp, hlive, rfl⟩
    exact ⟨p, ⟨hp, later, earlier, hunder, hlater⟩, hlive, rfl⟩

end Log

/-- What is found over a table, after any run, among all that was put under the token: the last
value that the table treated as it treats this request, by accepting or refusing it, as long as its
time is not over. Every later value was treated the other way, so if the very last one was treated
like this request, no other value is found. -/
theorem get_finds_last_alike (name token : String) (w₀ : World) (steps : List Step)
    (refusal : Option String) :
    let l := log w₀.clock steps
    ∃ found, result (get token) ((run (w₀.overTable name) steps).refusing ⟨refusal, none⟩) =
        .ok found ∧
      (∀ value, found = some value ↔ ∃ later p earlier, l.under token = later ++ p :: earlier ∧
        (∀ q ∈ later, q.isRefused ≠ refusal.isSome) ∧ p.isRefused = refusal.isSome ∧
        p.isLive l.now = true ∧ p.value = value) ∧
      ((∀ p ∈ (l.under token).head?, p.isRefused = refusal.isSome) →
        ∀ value ∈ found, ∃ p ∈ (l.under token).head?, p.value = value) := by
  intro l
  refine ⟨l.found? token refusal, (layers_run name w₀ steps).result_get token refusal,
    fun value => Log.found?_eq_some_iff, fun hlast value hvalue => ?_⟩
  obtain ⟨later, p, earlier, hunder, hlater, -, -, hv⟩ := Log.found?_eq_some_iff.mp hvalue
  rw [hunder] at hlast ⊢
  cases later with
  | nil => exact ⟨p, rfl, hv⟩
  | cons q later =>
    have hq : q.isRefused = refusal.isSome := hlast q rfl
    exact absurd hq (hlater q (by simp))

/-- A value is put, the next one is refused by the table, and the first one is found again. -/
theorem get_replaced :
    let steps := [.put "deb" "old" 300 none, .put "deb" "new" 300 (some "throttled")]
    let w := run ((World.start 0).overTable "resolved") steps
    result (get "deb") (w.refusing ⟨none, none⟩) = .ok (some "old") ∧
      ((log 0 steps).under "deb").head?.map (·.value) = some "new" := by
  decide +kernel

end InstallerGateway.Caching
