import InstallerGateway.Proofs.Cache.Memory
import InstallerGateway.Proofs.Settings.Checking
import InstallerGateway.Proofs.Settings.ZeroText
import InstallerGateway.Proofs.World.Keeping
import InstallerGateway.World.Basic

/-!
# For how long resolved keys are kept

Null, an empty text and zero mean the usual time. A zero that is written otherwise than by one digit
is taken as it stands, and a key that is kept for no time is over when it is kept.
-/

namespace InstallerGateway

/-! ## Keys that are kept for no time -/

namespace Caching

open Act

variable {w : World} {value : String}

/-- A key that a memory or an accepting table fails to keep overruns in memory. -/
theorem overruns_of_store_fails
    (htable : w.cache.table ≠ none → w.table.failures = ⟨none, none⟩) {usual : Int}
    {extension : String} {f : Fault}
    (h : result (store (.int usual) extension value .null) w = .error f) :
    f = .endlessDuration ∧ w.cache.table = none ∧ w.cache.counts usual = false := by
  obtain ⟨_, _, _, hp⟩ := store_perform usual extension value w
  rw [result_eq hp] at h
  by_cases hover : overruns usual w = true
  · rw [if_pos hover] at h
    obtain ⟨hplace, hcounts⟩ := Bool.and_eq_true_iff.mp hover
    refine ⟨(Except.error.inj h).symm, ?_, by simpa using hcounts⟩
    by_contra hmode
    rw [htable hmode] at hplace
    simp [hmode] at hplace
  · rw [if_neg hover] at h
    cases h

/-- A key that was stored just now is found if its time is positive. -/
theorem get_of_store (htable : w.cache.table ≠ none → w.table.failures = ⟨none, none⟩)
    {usual : Int} {extension : String}
    (h : result (store (.int usual) extension value .null) w = .ok ()) :
    result (get extension) (after (store (.int usual) extension value .null) w) =
      .ok (if 0 < usual then some value else none) := by
  cases hmode : w.cache.table with
  | none =>
    have hcounts : w.cache.counts usual = true := by
      by_contra hendless
      have hfails := store_endless hmode extension value (by simpa using hendless)
      cases h.symm.trans (result_eq hfails)
    obtain ⟨memory, hmemory⟩ : ∃ memory,
        memory = w.cache.memory.put w.clock extension value usual := ⟨_, rfl⟩
    have hget :=
      get_inMemory (w := (w.withMemory memory).noting [.cachePut extension]) hmode extension
    have hkept : Dictionary.find? extension memory = some ⟨value, w.clock + usual⟩ :=
      hmemory ▸ Dictionary.find?_put_self _ _ _
    have hlive : w.clock < w.clock + usual ↔ 0 < usual := by simp
    rw [after_eq (store_memory hmode extension value hcounts), ← hmemory, result_eq hget]
    refine congrArg _ ?_
    show (MemoryCache.get w.clock extension memory).1 = _
    by_cases h : 0 < usual
    · rw [MemoryCache.get_of_kept hkept (hlive.mpr h), if_pos h]
    · rw [MemoryCache.get_of_over hkept (not_lt.mp fun hl => h (hlive.mp hl)), if_neg h]
  | some table =>
    have hanswers := htable (hmode ▸ Option.some_ne_none table)
    obtain ⟨events, -, hput⟩ := put_accepted hmode (by rw [hanswers]) extension value usual
    have hstore : perform (store (.int usual) extension value .null) w = _ := hput
    have hanswer : tableAnswer extension (after (store (.int usual) extension value .null) w) =
        .ok (if truncate w.clock < truncate w.clock + usual then some value else none) := by
      rw [after_eq hstore]
      unfold tableAnswer Table.get World.withItem
      simp only [World.noting_table, World.noting_clock, hanswers, Dictionary.find?_put_self]
      exact TableItem.value?_holding _ _ _ _
    have hmode' : (after (store (.int usual) extension value .null) w).cache.table =
        some table := by
      rw [after_eq hstore]
      exact hmode
    obtain ⟨events', -, hget⟩ := get_answered hmode' hanswer
    rw [result_eq hget]
    simp

/-- A key that was kept just now is found, unless it was kept for no time; and if it could not be
kept, the time for which to keep it in memory is out of range. -/
theorem lookup_of_store (hvalue : value ≠ "")
    (htable : w.cache.table ≠ none → w.table.failures = ⟨none, none⟩) (usual : Int)
    (extension : String) :
    let stored := store (.int usual) extension value .null
    (result stored w = .ok () → result (lookup extension) (after stored w) =
      .ok (if 0 < usual then some value else none)) ∧
    ∀ f, result stored w = .error f → f = .endlessDuration ∧ w.cache.table = none ∧
      w.cache.inDoubles = true ∧
        Binary64.twoPow 1024 - Binary64.twoPow 970 ≤ |(usual : Rat)| := by
  intro stored
  refine ⟨fun hkept => ?_, fun f hfails => ?_⟩
  · unfold lookup
    rw [result_bind_of_ok (get_of_store htable hkept)]
    split_ifs
    · show Except.ok ((some value).filter _) = _
      rw [Option.filter_some_pos (by simpa using hvalue)]
    · rfl
  · obtain ⟨hfault, hmode, hcounts⟩ := overruns_of_store_fails htable hfails
    exact ⟨hfault, hmode, counts_eq_false_iff.mp hcounts⟩

end Caching

/-! ## What means the usual time -/

namespace Settings

variable {settings : Settings} {given : List (Datum × Datum)} {env : Dictionary String} {d : Datum}

/-- The value means the usual time: it is null, an empty text, a zero among numbers, or one digit
zero as a text. -/
def IsUsualTime (d : Datum) : Prop :=
  d = .null ∨ d = .text "" ∨ d.number? = some 0 ∨ d = .text "0"

theorem sameKey_null_iff : d.sameKey .null = true ↔ d = .null := by
  unfold Datum.sameKey
  cases d with
  | float x =>
    simp only [Datum.number?]
    cases x.toRat? <;> simp
  | _ => simp [Datum.number?]

theorem sameKey_text_iff {text : String} : d.sameKey (.text text) = true ↔ d = .text text := by
  unfold Datum.sameKey
  cases d with
  | float x =>
    simp only [Datum.number?]
    cases x.toRat? <;> simp
  | _ => simp [Datum.number?]

theorem sameKey_zero_iff : d.sameKey (.int 0) = true ↔ d.number? = some 0 := by
  unfold Datum.sameKey
  have hzero : (Datum.int 0).number? = some 0 := rfl
  rw [hzero]
  cases d.number? <;> simp

theorem asCacheTtl_of_isUsualTime (h : IsUsualTime d) : asCacheTtl d = .ok defaultCacheTtl := by
  unfold asCacheTtl
  refine if_pos ?_
  simpa [sameKey_null_iff, sameKey_text_iff, sameKey_zero_iff, IsUsualTime, or_assoc] using h

theorem asCacheTtl_of_not_isUsualTime (h : ¬ IsUsualTime d) : asCacheTtl d = asInt d := by
  unfold asCacheTtl
  refine if_neg ?_
  simpa [sameKey_null_iff, sameKey_text_iff, sameKey_zero_iff, IsUsualTime, or_assoc] using h

/-- A double that is read as zero is zero. -/
theorem eq_zero_of_intOfFloat {x : Binary64} (h : intOfFloat x = .ok 0) : x.toRat? = some 0 := by
  unfold intOfFloat at h
  cases hx : x.toRat? with
  | none =>
    rw [hx] at h
    cases h
  | some r =>
    rw [hx] at h
    dsimp only at h
    split_ifs at h
    exact congrArg some (Rat.num_eq_zero.mp (Except.ok.inj h))

theorem intOfText_eq_zero_iff {text : String} :
    intOfText text = .ok 0 ↔ intOfText? text = some 0 := by
  unfold intOfText
  cases intOfText? text with
  | none => simp
  | some n =>
    by_cases hshort : (Numeral.text? n).isSome = true
    · simp [hshort]
    · have hzero : n ≠ 0 := by
        rintro rfl
        exact hshort (by decide)
      simp [hshort, hzero]

/-- A value that means another time stands for zero exactly if it is a text that writes zero. -/
theorem asInt_eq_zero_iff (h : ¬ IsUsualTime d) :
    asInt d = .ok 0 ↔ ∃ text, d = .text text ∧ IsZeroText text := by
  have hnumber : d.number? ≠ some 0 := fun hzero => h (.inr (.inr (.inl hzero)))
  cases d with
  | bool b => cases b <;> simp_all [asInt, Datum.number?]
  | int n => simpa [asInt, Datum.number?] using hnumber
  | float x =>
    have hread : asInt (.float x) ≠ .ok 0 := fun hx => hnumber (eq_zero_of_intOfFloat hx)
    simpa using hread
  | text s =>
    have hread : asInt (.text s) = .ok 0 ↔ intOfText? s = some 0 := intOfText_eq_zero_iff
    rw [hread, intOfText?_eq_zero_iff]
    simp
  | _ => simp [asInt]

/-- The time is zero exactly if it is a text that writes zero otherwise than by one digit. -/
theorem asCacheTtl_eq_zero_iff :
    asCacheTtl d = .ok 0 ↔ ∃ text, d = .text text ∧ IsZeroText text ∧ text ≠ "0" := by
  by_cases h : IsUsualTime d
  · rw [asCacheTtl_of_isUsualTime h]
    refine iff_of_false (by decide) ?_
    rintro ⟨text, rfl, hzero, hne⟩
    rcases h with h | h | h | h
    · cases h
    · cases h
      exact absurd (intOfText?_eq_zero_iff.mpr hzero) (by decide)
    · cases h
    · cases h
      exact hne rfl
  · rw [asCacheTtl_of_not_isUsualTime h, asInt_eq_zero_iff h]
    refine exists_congr fun text => and_congr_right fun hd => (and_iff_left ?_).symm
    rintro rfl
    exact h (.inr (.inr (.inr hd)))

/-! ## The time that is set -/

/-- The time for which resolved keys are kept, whatever is given by name and by the environment, is
zero exactly if it is set to a text that writes zero otherwise than by one digit. It is the usual
time if it is not set, or set to null, an empty text, the text of one digit zero, or a zero of
another kind. A key that was kept just now, in memory or in a table that answers, is not found if
the time is zero or less, and found otherwise. A key cannot be kept only if it is to be kept in
memory, the clock tells doubles, and the time is out of their range. -/
theorem cacheTtl_of_load (h : load given env = .ok settings) :
    (settings.latestCacheTtl = 0 ↔ ∃ text,
      source? ⟨given, env⟩ "latest_cache_ttl" = some (.text text) ∧ IsZeroText text ∧ text ≠ "0") ∧
    ((∀ d, source? ⟨given, env⟩ "latest_cache_ttl" = some d → IsUsualTime d) →
      settings.latestCacheTtl = 300) ∧
    ∀ w : World, (w.cache.table ≠ none → w.table.failures = ⟨none, none⟩) →
      ∀ extension key, key ≠ "" →
        let stored := Caching.store (.int settings.latestCacheTtl) extension key .null
        (Act.result stored w = .ok () →
          Act.result (Caching.lookup extension) (Act.after stored w) =
            .ok (if 0 < settings.latestCacheTtl then some key else none)) ∧
        ∀ f, Act.result stored w = .error f → f = .endlessDuration ∧ w.cache.table = none ∧
          w.cache.inDoubles = true ∧ Binary64.twoPow 1024 - Binary64.twoPow 970 ≤
            |(settings.latestCacheTtl : Rat)| := by
  have hfound (w : World) (htable : w.cache.table ≠ none → w.table.failures = ⟨none, none⟩)
      (extension key : String) (hkey : key ≠ "") :=
    Caching.lookup_of_store hkey htable settings.latestCacheTtl extension
  rcases said_eq_ok_iff.mp (isSaid_of_load h).latestCacheTtl with
    ⟨hsource, httl⟩ | ⟨d, hsource, hread⟩
  · refine ⟨?_, fun _ => httl.symm, hfound⟩
    rw [← httl, hsource]
    exact iff_of_false (by decide) (by simp)
  · refine ⟨?_, fun husual => ?_, hfound⟩
    · have hzero : settings.latestCacheTtl = 0 ↔ asCacheTtl d = .ok 0 := by
        rw [hread]
        simp
      rw [hzero, asCacheTtl_eq_zero_iff, hsource]
      simp
    · rw [asCacheTtl_of_isUsualTime (husual d hsource)] at hread
      exact (Except.ok.inj hread).symm

/-- A zero with all that may be written around it, and one of another kind. -/
theorem cacheTtl_of_zeros :
    (∃ settings, load [] [("Latest_Cache_TTL", " -0_0.00\n")] = .ok settings ∧
      IsZeroText " -0_0.00\n" ∧ settings.latestCacheTtl = 0 ∧
      Act.result (Caching.lookup "deb") (Act.after
        (Caching.store (.int settings.latestCacheTtl) "deb" "desktop/app_1.deb" .null)
        (World.start 0)) = .ok none) ∧
    ∃ settings, load [(.text "latest_cache_ttl", .bool false)] [] = .ok settings ∧
      IsUsualTime (.bool false) ∧ settings.latestCacheTtl = 300 := by
  constructor
  · have hload : (load [] [("Latest_Cache_TTL", " -0_0.00\n")]).isOk = true := by rfl
    obtain ⟨settings, hsettings⟩ := exists_eq_ok_of_isOk hload
    have hzero : IsZeroText " -0_0.00\n" := intOfText?_eq_zero_iff.mp (by decide)
    obtain ⟨hzero_iff, -, hfound⟩ := cacheTtl_of_load hsettings
    have httl : settings.latestCacheTtl = 0 := hzero_iff.mpr ⟨_, rfl, hzero, by decide⟩
    have hstored : Act.result (Caching.store (.int settings.latestCacheTtl) "deb"
        "desktop/app_1.deb" .null) (World.start 0) = .ok () := by
      rw [httl]
      decide +kernel
    have hover := (hfound (World.start 0) (fun h => absurd rfl h) "deb" "desktop/app_1.deb"
      (by decide)).1 hstored
    rw [if_neg (by rw [httl]; decide)] at hover
    exact ⟨settings, hsettings, hzero, httl, hover⟩
  · have hload : (load [(.text "latest_cache_ttl", .bool false)] []).isOk = true := by rfl
    obtain ⟨settings, hsettings⟩ := exists_eq_ok_of_isOk hload
    have husual : IsUsualTime (.bool false) := .inr (.inr (.inl rfl))
    obtain ⟨-, hdefault, -⟩ := cacheTtl_of_load hsettings
    exact ⟨settings, hsettings, husual, hdefault fun d hd => Option.some.inj hd ▸ husual⟩

/-- A variable of the environment that is accepted as an integer, and is zero. -/
theorem cacheTtl_of_two_zeros : ¬ ∀ given env settings, load given env = .ok settings →
    settings.latestCacheTtl ≠ 0 := by
  intro hnever
  have hzero : (load [] [("LATEST_CACHE_TTL", "00")]).map latestCacheTtl = .ok 0 := by rfl
  cases hload : load [] [("LATEST_CACHE_TTL", "00")] with
  | error f =>
    rw [hload] at hzero
    cases hzero
  | ok settings =>
    rw [hload] at hzero
    exact hnever _ _ settings hload (Except.ok.inj hzero)

end Settings

end InstallerGateway
