import InstallerGateway.Gateway.Client
import InstallerGateway.Proofs.Json.Recognizing
import InstallerGateway.Proofs.Settings.Checking
import InstallerGateway.Proofs.Settings.Variables
import InstallerGateway.Settings.Secrets
import Mathlib

/-!
# What becomes of the secret

A secret that cannot be fetched, or in which there is no key, is reported. A key that no variable of
the environment can hold is not, nor is a secret with an integer of too many digits, and loading
fails on both. A secret that is no JSON is the key, but one that happens to be JSON and no object is
lost.
-/

namespace InstallerGateway.Secrets

variable {env : Dictionary String} {fetch : Reply} {arn text : String} {key : Datum} {f : Fault}
  {entries : List (Datum × Datum)} {place : Nat}

/-! ## What is asked and told -/

/-- The environment says where the secret is kept. -/
def AsksFor (env : Dictionary String) (arn : String) : Prop :=
  env.find? arnVariable = some arn ∧ arn ≠ ""

/-- The answer holds a text as the secret, and it is not empty. -/
def Tells (fetch : Reply) (text : String) : Prop :=
  ∃ entries, fetch = .answer entries ∧
    Datum.field? "SecretString" entries = some (.text text) ∧ text ≠ ""

/-- The secret is refused, or else absent, null or a text. -/
def Reply.IsRegular : Reply → Prop
  | .answer entries => Datum.field? "SecretString" entries = none ∨
      Datum.field? "SecretString" entries = some .null ∨
      ∃ text, Datum.field? "SecretString" entries = some (.text text)
  | .refused _ => True
  | .broken _ => False

theorem load_of_not_asked (h : ∀ arn, ¬ AsksFor env arn) : load env fetch = .ok ⟨[], env, []⟩ := by
  unfold load
  split
  · rfl
  · rfl
  · rename_i arn hne hfind
    exact absurd ⟨hfind, hne⟩ (h arn)

/-- If a text is told, the key in it decides. -/
theorem load_of_told (hasks : AsksFor env arn) (htold : Tells fetch text) : load env fetch =
    (keyOf text).bind fun key =>
      if key.isTruthy then (setKey env key).map fun env => ⟨[arn], env, []⟩
      else .ok ⟨[arn], env, [⟨false, "Secret " ++ arn ++ " has no RELEASES_AUTH_KEY"⟩]⟩ := by
  obtain ⟨hfind, hne⟩ := hasks
  obtain ⟨entries, rfl, hsecret, htext⟩ := htold
  have htruthy : (Datum.text text).isTruthy = true := by simpa [Datum.isTruthy] using htext
  unfold load
  rw [hfind]
  split
  · contradiction
  · simp_all
  · rename_i harn
    cases harn
    dsimp only
    rw [hsecret, Option.getD_some, htruthy]
    rfl

/-- If no text is told, loading changes nothing. An empty text is none: it counts as false, like a
secret that is absent. -/
theorem load_of_untold (hasks : AsksFor env arn) (hregular : fetch.IsRegular)
    (h : ∀ text, ¬ Tells fetch text) : ∃ reports, load env fetch = .ok ⟨[arn], env, reports⟩ := by
  obtain ⟨hfind, hne⟩ := hasks
  unfold load
  rw [hfind]
  split
  · contradiction
  · simp_all
  · rename_i harn
    cases harn
    cases fetch with
    | broken message => exact hregular.elim
    | refused reason => exact ⟨_, rfl⟩
    | answer entries =>
      have hfalse : ((Datum.field? "SecretString" entries).getD .null).isTruthy = false := by
        rcases hregular with hnone | hnull | ⟨text, htext⟩
        · rw [hnone]
          rfl
        · rw [hnull]
          rfl
        · have hempty : text = "" := by
            by_contra hne
            exact h text ⟨entries, rfl, htext, hne⟩
          rw [htext, hempty]
          rfl
      dsimp only
      exact ⟨_, if_pos (by rw [hfalse]; rfl)⟩

/-! ## The key in a secret -/

theorem keyOf_object (h : Json.parse text = .ok (.map place entries)) :
    keyOf text = .ok ((Datum.field? keyVariable entries).getD .null) := by
  unfold keyOf
  rw [h]

theorem keyOf_plain (h : Json.parse text = .error .malformed) :
    keyOf text = .ok (.text (strip text)) := by
  unfold keyOf
  rw [h]

theorem keyOf_tooLong (h : Json.parse text = .error .tooLong) : keyOf text = .error .tooLong := by
  unfold keyOf
  rw [h]

/-- JSON that is no object has no key in it. -/
theorem keyOf_other {d : Datum} (h : Json.parse text = .ok d)
    (hobject : ∀ place entries, d ≠ .map place entries) : keyOf text = .ok .null := by
  unfold keyOf
  rw [h]
  split
  · rename_i hmap
    cases hmap
    exact absurd rfl (hobject _ _)
  · rfl
  · contradiction
  · contradiction

/-- Where the key in a secret comes from: a JSON object names it, another JSON value has none, and a
text that is no JSON is the key. -/
inductive HoldsKey (text : String) : Datum → Prop where
  | named {place : Nat} {entries : List (Datum × Datum)} :
      Json.parse text = .ok (.map place entries) →
      HoldsKey text ((Datum.field? keyVariable entries).getD .null)
  | missing : HoldsKey text .null
  | plain : Json.parse text = .error .malformed → HoldsKey text (.text (strip text))

/-- The key in a text is unknown only if an integer in it has too many digits. -/
theorem keyOf_cases (text : String) :
    Json.parse text = .error .tooLong ∨ ∃ key, keyOf text = .ok key ∧ HoldsKey text key := by
  cases hparse : Json.parse text with
  | error e =>
    cases e with
    | malformed => exact .inr ⟨_, keyOf_plain hparse, .plain hparse⟩
    | tooLong => exact .inl rfl
  | ok d =>
    by_cases hobject : ∃ place entries, d = .map place entries
    · obtain ⟨place, entries, rfl⟩ := hobject
      exact .inr ⟨_, keyOf_object hparse, .named hparse⟩
    · exact .inr ⟨_, keyOf_other hparse fun place entries hd => hobject ⟨place, entries, hd⟩,
        .missing⟩

theorem setKey_of_set {before : String} (h : env.find? keyVariable = some before) :
    setKey env key = .ok env := by
  unfold setKey
  rw [h]

theorem setKey_text (h : env.find? keyVariable = none) (s : String) : setKey env (.text s) =
    if '\x00' ∈ s.toList then .error .embeddedNull else .ok (env.put keyVariable s) := by
  unfold setKey
  rw [h]
  simp

theorem setKey_of_no_text (h : env.find? keyVariable = none) (hkey : ∀ s, key ≠ .text s) :
    setKey env key = .error .noText := by
  unfold setKey
  rw [h]
  cases key with
  | text s => exact absurd rfl (hkey s)
  | _ => rfl

/-- What a variable is set to is a text without a null character. -/
theorem setKey_eq_ok (h : env.find? keyVariable = none) {after : Dictionary String}
    (hset : setKey env key = .ok after) :
    ∃ s, key = .text s ∧ '\x00' ∉ s.toList ∧ after = env.put keyVariable s := by
  by_cases hkey : ∃ s, key = .text s
  · obtain ⟨s, rfl⟩ := hkey
    rw [setKey_text h] at hset
    split_ifs at hset with hnull
    cases hset
    exact ⟨s, rfl, hnull, rfl⟩
  · rw [setKey_of_no_text h fun s hs => hkey ⟨s, hs⟩] at hset
    cases hset

/-- The secret holds a key that no variable can hold: one that is named in a JSON object and counts
as true, but is no text, or a text with a character of code zero. -/
inductive HoldsUnfit (text : String) : Fault → Prop where
  | noText {place : Nat} {entries : List (Datum × Datum)} {key : Datum} :
      Json.parse text = .ok (.map place entries) →
      Datum.field? keyVariable entries = some key → key.isTruthy = true →
      (∀ s, key ≠ .text s) → HoldsUnfit text .noText
  | named {place : Nat} {entries : List (Datum × Datum)} {s : String} :
      Json.parse text = .ok (.map place entries) →
      Datum.field? keyVariable entries = some (.text s) →
      '\x00' ∈ s.toList → HoldsUnfit text .embeddedNull
  | plain : Json.parse text = .error .malformed → '\x00' ∈ text.toList →
      HoldsUnfit text .embeddedNull

/-- Loading stops at a secret: it has an integer of too many digits, or it holds a key that no
variable can hold, and there is none yet. -/
def StopsAt (env : Dictionary String) (text : String) (f : Fault) : Prop :=
  Json.parse text = .error .tooLong ∧ f = .tooLong ∨
    env.find? keyVariable = none ∧ HoldsUnfit text f

theorem isTruthy_text_of_mem {c : Char} {s : String} (h : c ∈ s.toList) :
    (Datum.text s).isTruthy = true := by
  have hne : s ≠ "" := by
    rintro rfl
    exact absurd h List.not_mem_nil
  simpa [Datum.isTruthy] using hne

theorem field?_of_isTruthy (h : ((Datum.field? keyVariable entries).getD .null).isTruthy = true) :
    Datum.field? keyVariable entries = some ((Datum.field? keyVariable entries).getD .null) := by
  cases hfield : Datum.field? keyVariable entries with
  | none =>
    rw [hfield] at h
    cases h
  | some key => rfl

/-- If setting the variable fails, the key in the text is unfit for it. -/
theorem holdsUnfit_of_setKey (hkey : HoldsKey text key) (htruthy : key.isTruthy = true)
    (hset : env.find? keyVariable = none) (h : setKey env key = .error f) : HoldsUnfit text f := by
  cases hkey with
  | missing => cases htruthy
  | plain hparse =>
    rw [setKey_text hset] at h
    split_ifs at h with hnull
    cases h
    exact .plain hparse ((mem_strip_iff (by decide)).mp hnull)
  | @named place entries hparse =>
    have hfield := field?_of_isTruthy htruthy
    generalize (Datum.field? keyVariable entries).getD .null = key at *
    by_cases htext : ∃ s, key = .text s
    · obtain ⟨s, rfl⟩ := htext
      rw [setKey_text hset] at h
      split_ifs at h with hnull
      cases h
      exact .named hparse hfield hnull
    · have hno : ∀ s, key ≠ .text s := fun s hs => htext ⟨s, hs⟩
      rw [setKey_of_no_text hset hno] at h
      cases h
      exact .noText hparse hfield htruthy hno

/-- If the key in a text is unfit for the variable, setting it fails. -/
theorem HoldsUnfit.exists_key (h : HoldsUnfit text f) (hset : env.find? keyVariable = none) :
    ∃ key, keyOf text = .ok key ∧ key.isTruthy = true ∧ setKey env key = .error f := by
  cases h with
  | noText hparse hfield htruthy hkey =>
    have hkeyOf := keyOf_object hparse
    rw [hfield, Option.getD_some] at hkeyOf
    exact ⟨_, hkeyOf, htruthy, setKey_of_no_text hset hkey⟩
  | named hparse hfield hnull =>
    have hkeyOf := keyOf_object hparse
    rw [hfield, Option.getD_some] at hkeyOf
    exact ⟨_, hkeyOf, isTruthy_text_of_mem hnull, by rw [setKey_text hset, if_pos hnull]⟩
  | plain hparse hnull =>
    have hstripped := (mem_strip_iff (by decide)).mpr hnull
    exact ⟨_, keyOf_plain hparse, isTruthy_text_of_mem hstripped, by
      rw [setKey_text hset, if_pos hstripped]⟩

/-! ## When loading stops -/

/-- What loading does: it changes nothing, it meets an integer of too many digits, or it tries to
set a key that was not set. -/
inductive LoadCase (env : Dictionary String) (fetch : Reply) : Prop where
  | unchanged {asked : List String} {reports : List Report} :
      load env fetch = .ok ⟨asked, env, reports⟩ → LoadCase env fetch
  | tooLong {arn text : String} : AsksFor env arn → Tells fetch text →
      Json.parse text = .error .tooLong → load env fetch = .error .tooLong → LoadCase env fetch
  | setting {arn text : String} {key : Datum} : AsksFor env arn → Tells fetch text →
      env.find? keyVariable = none → HoldsKey text key → key.isTruthy = true →
      load env fetch = (setKey env key).map (fun env => ⟨[arn], env, []⟩) → LoadCase env fetch

theorem loadCase (env : Dictionary String) (hregular : fetch.IsRegular) : LoadCase env fetch := by
  by_cases hasks : ∃ arn, AsksFor env arn
  · obtain ⟨arn, hasks⟩ := hasks
    by_cases htold : ∃ text, Tells fetch text
    · obtain ⟨text, htold⟩ := htold
      have hload := load_of_told hasks htold
      rcases keyOf_cases text with hparse | ⟨key, hkeyOf, hkey⟩
      · rw [keyOf_tooLong hparse] at hload
        exact .tooLong hasks htold hparse hload
      · rw [hkeyOf] at hload
        dsimp only [Except.bind] at hload
        split_ifs at hload with htruthy
        · cases hset : env.find? keyVariable with
          | some before =>
            rw [setKey_of_set hset] at hload
            exact .unchanged hload
          | none => exact .setting hasks htold hset hkey htruthy hload
        · exact .unchanged hload
    · obtain ⟨reports, hload⟩ := load_of_untold hasks hregular fun text ht => htold ⟨text, ht⟩
      exact .unchanged hload
  · exact .unchanged (load_of_not_asked fun arn ha => hasks ⟨arn, ha⟩)

/-- Loading fails exactly where it meets an integer of too many digits or a key that is unfit. -/
theorem load_eq_error_iff (hregular : fetch.IsRegular) : load env fetch = .error f ↔
    ∃ arn text, AsksFor env arn ∧ Tells fetch text ∧ StopsAt env text f := by
  constructor
  · intro h
    cases loadCase env hregular with
    | unchanged hload =>
      rw [hload] at h
      cases h
    | tooLong hasks htold hparse hload =>
      rw [hload] at h
      cases h
      exact ⟨_, _, hasks, htold, .inl ⟨hparse, rfl⟩⟩
    | setting hasks htold hset hkey htruthy hload =>
      have herror := map_eq_error_iff.mp (hload.symm.trans h)
      exact ⟨_, _, hasks, htold, .inr ⟨hset, holdsUnfit_of_setKey hkey htruthy hset herror⟩⟩
  · rintro ⟨arn, text, hasks, htold, ⟨hparse, rfl⟩ | ⟨hset, hunfit⟩⟩
    · rw [load_of_told hasks htold, keyOf_tooLong hparse]
      rfl
    · obtain ⟨key, hkeyOf, htruthy, herror⟩ := hunfit.exists_key hset
      rw [load_of_told hasks htold, hkeyOf]
      dsimp only [Except.bind]
      rw [if_pos htruthy, herror]
      rfl

/-- Loading changes at most the variable for the key, which it sets to a text that is not empty. -/
theorem env_of_load (hregular : fetch.IsRegular) {o : Outcome} (h : load env fetch = .ok o) :
    o.env = env ∨ env.find? keyVariable = none ∧ ∃ s, s ≠ "" ∧ o.env = env.put keyVariable s := by
  cases loadCase env hregular with
  | unchanged hload =>
    rw [hload] at h
    cases h
    exact .inl rfl
  | tooLong hasks htold hparse hload =>
    rw [hload] at h
    cases h
  | setting hasks htold hset hkey htruthy hload =>
    obtain ⟨after, hafter, henv⟩ := map_eq_ok_iff.mp (hload.symm.trans h)
    obtain ⟨s, rfl, -, rfl⟩ := setKey_eq_ok hset hafter
    refine .inr ⟨hset, s, ?_, by rw [← henv]⟩
    simpa [Datum.isTruthy] using htruthy

/-- Loading stops exactly if a secret is asked for and told that has an integer of too many digits,
or there is no key yet and the one in the secret is such that no variable can hold it. Otherwise no
variable changes but the one for the key, this one only if it was not set, and only to a text that
is not empty. -/
theorem load_stops_exactly (hregular : fetch.IsRegular) :
    (∀ f, load env fetch = .error f ↔
      ∃ arn text, AsksFor env arn ∧ Tells fetch text ∧ StopsAt env text f) ∧
    ∀ o, load env fetch = .ok o →
      (∀ name, name ≠ keyVariable → o.env.find? name = env.find? name) ∧
      (env.find? keyVariable ≠ none → o.env = env) ∧
      ∀ key, env.find? keyVariable = none → o.env.find? keyVariable = some key → key ≠ "" := by
  refine ⟨fun f => load_eq_error_iff hregular, fun o h => ?_⟩
  rcases env_of_load hregular h with henv | ⟨hset, s, hne, henv⟩
  · rw [henv]
    exact ⟨fun _ _ => rfl, fun _ => rfl, fun key hset hkey => absurd (hset.symm.trans hkey) nofun⟩
  · rw [henv]
    refine ⟨fun name hname => Dictionary.find?_put_of_ne hname.symm s env,
      fun hother => absurd hset hother, fun key _ hkey => ?_⟩
    rw [Dictionary.find?_put_self] at hkey
    exact Option.some.inj hkey ▸ hne

/-- An answer that tells a text. -/
def Reply.telling (text : String) : Reply := .answer [(.text "SecretString", .text text)]

theorem isRegular_telling (text : String) : (Reply.telling text).IsRegular :=
  .inr (.inr ⟨text, rfl⟩)

theorem tells_telling (text : String) (h : text ≠ "") : Tells (.telling text) text :=
  ⟨_, rfl, rfl, h⟩

theorem asksFor_singleton (arn : String) (h : arn ≠ "") : AsksFor [(arnVariable, arn)] arn :=
  ⟨rfl, h⟩

theorem parse_numericKey : Json.parse "\x7b\"RELEASES_AUTH_KEY\": 5\x7d" =
    .ok (.map 0 [(.text "RELEASES_AUTH_KEY", .int 5)]) := by
  cbv

/-- A key that is a number, and one that is a text. -/
theorem load_of_named_keys :
    load [(arnVariable, "arn:secret")] (.telling "\x7b\"RELEASES_AUTH_KEY\": 5\x7d") =
      .error .noText ∧
    ∃ o, load [(arnVariable, "arn:secret")] (.telling "\x7b\"RELEASES_AUTH_KEY\": \"key\"\x7d") =
        .ok o ∧
      o.env.find? keyVariable = some "key" ∧ o.env.find? arnVariable = some "arn:secret" := by
  have hasks : AsksFor [(arnVariable, "arn:secret")] "arn:secret" := asksFor_singleton _ (by decide)
  constructor
  · refine ((load_stops_exactly (isRegular_telling _)).1 _).mpr ⟨"arn:secret", _, hasks,
      tells_telling _ (by decide), .inr ⟨rfl, ?_⟩⟩
    exact .noText parse_numericKey rfl rfl nofun
  · have hparse : Json.parse "\x7b\"RELEASES_AUTH_KEY\": \"key\"\x7d" =
        .ok (.map 0 [(.text "RELEASES_AUTH_KEY", .text "key")]) := by cbv
    have hkey : keyOf "\x7b\"RELEASES_AUTH_KEY\": \"key\"\x7d" = .ok (.text "key") :=
      keyOf_object hparse
    have hload := load_of_told hasks
      (tells_telling "\x7b\"RELEASES_AUTH_KEY\": \"key\"\x7d" (by decide))
    rw [hkey] at hload
    refine ⟨_, hload, rfl, ?_⟩
    exact ((load_stops_exactly (isRegular_telling _)).2 _ hload).1 arnVariable (by decide)

/-- A key that is a number, on which loading stops. -/
theorem load_stops_on_number :
    ¬ ∀ env fetch, fetch.IsRegular → ∃ o, load env fetch = .ok o := by
  intro hnever
  obtain ⟨o, ho⟩ := hnever [(arnVariable, "arn:secret")]
    (.telling "\x7b\"RELEASES_AUTH_KEY\": 5\x7d") (isRegular_telling _)
  have hstops := (load_eq_error_iff (isRegular_telling _)).mpr ⟨_, _,
    asksFor_singleton "arn:secret" (by decide),
    tells_telling "\x7b\"RELEASES_AUTH_KEY\": 5\x7d" (by decide),
    .inr ⟨rfl, .noText parse_numericKey rfl rfl nofun⟩⟩
  rw [hstops] at ho
  cases ho

/-! ## Secrets that are the key -/

/-- A secret that is no JSON becomes the key. -/
theorem load_of_plain (hasks : AsksFor env arn) (hset : env.find? keyVariable = none)
    (htold : Tells fetch text) (hparse : Json.parse text = .error .malformed)
    (hblank : strip text ≠ "") (hnull : '\x00' ∉ text.toList) :
    load env fetch = .ok ⟨[arn], env.put keyVariable (strip text), []⟩ := by
  have htruthy : (Datum.text (strip text)).isTruthy = true := by
    simpa [Datum.isTruthy] using hblank
  have hstripped : '\x00' ∉ (strip text).toList := fun h =>
    hnull ((mem_strip_iff (by decide)).mp h)
  rw [load_of_told hasks htold, keyOf_plain hparse]
  dsimp only [Except.bind]
  rw [if_pos htruthy, setKey_text hset, if_neg hstripped]
  rfl

/-- A text that has been read as JSON is not looked at again. -/
theorem load_of_no_object {d : Datum} (hasks : AsksFor env arn) (htold : Tells fetch text)
    (hparse : Json.parse text = .ok d) (hobject : ∀ place entries, d ≠ .map place entries) :
    load env fetch =
      .ok ⟨[arn], env, [⟨false, "Secret " ++ arn ++ " has no RELEASES_AUTH_KEY"⟩]⟩ := by
  rw [load_of_told hasks htold, keyOf_other hparse hobject]
  rfl

/-- Setting the variable for the key changes that setting alone. -/
theorem settings_load_put (hset : env.find? keyVariable = none) (key : String) :
    Settings.load [] (env.put keyVariable key) =
      (Settings.load [] env).map (Settings.withAuthKey key) := by
  rw [Dictionary.put_of_absent hset]
  exact Settings.load_append rfl (by decide)

theorem hasCredential_iff {secret : String} (h : secret ≠ "") (headers : Headers) :
    Access.hasCredential headers secret = true ↔ Access.presented headers = secret := by
  simp [Access.hasCredential, h]

/-- Without a variable for the key there is none. -/
theorem releasesAuthKey_of_unset {settings : Settings} (h : Settings.load [] env = .ok settings)
    (hset : Settings.fromEnv? env "releases_auth_key" = none) : settings.releasesAuthKey = "" := by
  rcases Settings.said_eq_ok_iff.mp (Settings.isSaid_of_load h).releasesAuthKey with
    ⟨-, hdefault⟩ | ⟨d, hsource, -⟩
  · exact hdefault.symm
  · have hnone : Settings.source? ⟨[], env⟩ "releases_auth_key" = none := by
      show (Settings.fromEnv? env "releases_auth_key").map _ = none
      rw [hset]
      rfl
    exact absurd (hnone.symm.trans hsource) nofun

/-- Let a secret be asked for and told that is no JSON object, and let there be no key yet. If the
text is no JSON, it becomes the key, without what is blank at its ends: no other setting changes,
and exactly the requests that present it are let through. If it is JSON, it is lost with a warning,
and no request is let through unless a variable of the same name in other letters holds a key; and
if it has an integer of too many digits, loading stops. Numerals of integers are lost or stop
loading, by their length; a text that begins with no JSON value does neither. -/
theorem load_of_plain_text (hasks : AsksFor env arn) (hset : env.find? keyVariable = none)
    (htold : Tells fetch text)
    (hobject : ∀ place entries, Json.parse text ≠ .ok (.map place entries))
    (hblank : strip text ≠ "") (hnull : '\x00' ∉ text.toList) :
    (Json.parse text = .error .malformed → ∃ o, load env fetch = .ok o ∧ o.reports = [] ∧
      o.env = env.put keyVariable (strip text) ∧ o.env.find? keyVariable = some (strip text) ∧
      Settings.load [] o.env = (Settings.load [] env).map (Settings.withAuthKey (strip text)) ∧
      ∀ settings, Settings.load [] o.env = .ok settings → ∀ headers,
        Access.hasCredential headers settings.releasesAuthKey = true ↔
          Access.presented headers = strip text) ∧
    ((Json.parse text).isOk = true → ∃ o, load env fetch = .ok o ∧
      o.reports = [⟨false, "Secret " ++ arn ++ " has no RELEASES_AUTH_KEY"⟩] ∧ o.env = env ∧
      ∀ settings, Settings.load [] o.env = .ok settings →
        Settings.fromEnv? env "releases_auth_key" = none →
        ∀ headers, Access.hasCredential headers settings.releasesAuthKey = false) ∧
    (Json.parse text = .error .tooLong → load env fetch = .error .tooLong) ∧
    (∀ n, Json.IsNumeral text n →
      Json.parse text =
        if Numeral.maxDigits < (Nat.toDigits 10 n.natAbs).length then .error .tooLong
        else .ok (.int n)) ∧
    ((∀ c, (Json.skipSpace text.toList).head? = some c → ¬ Json.BeginsValue c) →
      Json.parse text = .error .malformed) := by
  refine ⟨fun hparse => ?_, fun hparse => ?_, fun hparse => ?_, fun n hnumeral => hnumeral.parse,
    Json.parse_of_not_beginsValue⟩
  · have hsettings := settings_load_put hset (strip text)
    refine ⟨_, load_of_plain hasks hset htold hparse hblank hnull, rfl, rfl,
      Dictionary.find?_put_self _ _ _, hsettings, ?_⟩
    intro settings h headers
    obtain ⟨before, -, rfl⟩ := map_eq_ok_iff.mp (hsettings.symm.trans h)
    exact hasCredential_iff hblank headers
  · obtain ⟨d, hd⟩ := exists_eq_ok_of_isOk hparse
    have hother : ∀ place entries, d ≠ .map place entries := by
      rintro place entries rfl
      exact hobject place entries hd
    refine ⟨_, load_of_no_object hasks htold hd hother, rfl, rfl, ?_⟩
    intro settings h hunset headers
    rw [releasesAuthKey_of_unset h hunset]
    rfl
  · exact (load_of_told hasks htold).trans (by rw [keyOf_tooLong hparse]; rfl)

/-- A secret that is no JSON, and a numeral, with a line break after them. -/
theorem load_of_plain_keys :
    (∃ o settings, load [(arnVariable, "arn:secret")] (.telling "plain-key\n") = .ok o ∧
      o.env.find? keyVariable = some "plain-key" ∧ Settings.load [] o.env = .ok settings ∧
      Access.hasCredential [("X-Custom-Auth-Key", "plain-key")] settings.releasesAuthKey = true) ∧
    ∃ o, load [(arnVariable, "arn:secret")] (.telling "-12\n") = .ok o ∧
      o.env.find? keyVariable = none := by
  have hasks : AsksFor [(arnVariable, "arn:secret")] "arn:secret" := asksFor_singleton _ (by decide)
  constructor
  · have hbegins : ∀ c, (Json.skipSpace "plain-key\n".toList).head? = some c →
        ¬ Json.BeginsValue c := by
      intro c hc
      cases hc
      decide
    have hparse : Json.parse "plain-key\n" = .error .malformed :=
      Json.parse_of_not_beginsValue hbegins
    have hstrip : strip "plain-key\n" = "plain-key" := by decide
    obtain ⟨hkept, -⟩ := load_of_plain_text hasks rfl (tells_telling "plain-key\n" (by decide))
      (by simp [hparse]) (by decide) (by decide)
    obtain ⟨o, hload, -, -, hkey, hsettings, hcredential⟩ := hkept hparse
    have hbefore : (Settings.load [] [(arnVariable, "arn:secret")]).isOk = true := by rfl
    obtain ⟨before, hbefore⟩ := exists_eq_ok_of_isOk hbefore
    rw [hbefore] at hsettings
    exact ⟨o, _, hload, hstrip ▸ hkey, hsettings, (hcredential _ hsettings _).mpr (by decide)⟩
  · have hparse : Json.parse "-12\n" = .ok (.int (-12)) := by cbv
    obtain ⟨-, hlost, -⟩ := load_of_plain_text hasks rfl
      (tells_telling "-12\n" (by decide)) (by simp [hparse]) (by decide) (by decide)
    obtain ⟨o, hload, -, henv, -⟩ := hlost (by rw [hparse]; rfl)
    exact ⟨o, hload, by rw [henv]; rfl⟩

/-- A key of digits, which is lost. -/
theorem load_loses_digits : ¬ ∀ env fetch arn text, AsksFor env arn →
    env.find? keyVariable = none → Tells fetch text →
    (∀ place entries, Json.parse text ≠ .ok (.map place entries)) → strip text ≠ "" →
    '\x00' ∉ text.toList →
    ∃ o, load env fetch = .ok o ∧ o.env.find? keyVariable = some (strip text) := by
  intro hall
  have hasks : AsksFor [(arnVariable, "arn:secret")] "arn:secret" := asksFor_singleton _ (by decide)
  have htold : Tells (.telling "123") "123" := tells_telling _ (by decide)
  have hparse : Json.parse "123" = .ok (.int 123) := by cbv
  have hobject : ∀ place entries, Json.parse "123" ≠ .ok (.map place entries) := by simp [hparse]
  obtain ⟨o, hload, hkey⟩ := hall _ _ _ _ hasks rfl htold hobject (by decide) (by decide)
  rw [load_of_no_object hasks htold hparse (by simp)] at hload
  cases hload
  cases hkey

end InstallerGateway.Secrets
