import InstallerGateway.Proofs.Result
import InstallerGateway.Settings.Load

/-!
# Settings that are accepted

Checking a setting adds at most issues to those before, so there are none at the end only if there
was none on the way. Settings that are loaded are therefore what their sources say, one by one.
-/

namespace InstallerGateway.Settings

variable {α β : Type} {s : Sources} {settings : Settings} {manifests allowList : Option Datum}

/-! ## Issues that are added -/

/-- The value that a check comes to. -/
def Check.value (c : Check α) : α := (c.run []).1

/-- The issues that a check finds. -/
def Check.issues (c : Check α) : List Issue := (c.run []).2

/-- The check adds the issues that it finds to those before, on which nothing depends. -/
def Check.OnlyAdds (c : Check α) : Prop :=
  ∀ before, c.run before = (Check.value c, before ++ Check.issues c)

open Check

theorem run_bind (c : Check α) (f : α → Check β) (before : List Issue) :
    (c >>= f).run before = (f (c.run before).1).run (c.run before).2 := rfl

theorem run_pure (a : α) (before : List Issue) : (pure a : Check α).run before = (a, before) := rfl

theorem onlyAdds_pure (a : α) : OnlyAdds (pure a) :=
  fun before => Prod.ext rfl (List.append_nil before).symm

theorem onlyAdds_bind {c : Check α} {f : α → Check β} (hc : OnlyAdds c) (hf : ∀ a, OnlyAdds (f a)) :
    OnlyAdds (c >>= f) := by
  have hrun (before : List Issue) : (c >>= f).run before =
      (value (f (value c)), before ++ issues c ++ issues (f (value c))) := by
    rw [run_bind, hc before, hf]
  intro before
  unfold value issues
  rw [hrun, hrun, List.nil_append, List.append_assoc]

theorem onlyAdds_accept (place : String) (other : α) (r : Except Rejection α) :
    OnlyAdds (accept place other r) := by
  cases r with
  | ok a => exact onlyAdds_pure a
  | error e => exact fun _ => rfl

theorem onlyAdds_check (s : Sources) (setting : String) (other : α)
    (read : Datum → Except Rejection α) : OnlyAdds (check s setting other read) := by
  unfold check
  cases source? s setting with
  | none => exact onlyAdds_pure other
  | some d => exact onlyAdds_accept setting other (read d)

theorem onlyAdds_checkItems (setting : String) (index : Nat) (items : List Datum) :
    OnlyAdds (checkItems setting index items) := by
  induction items generalizing index with
  | nil => exact onlyAdds_pure []
  | cons d rest ih =>
    exact onlyAdds_bind (onlyAdds_accept _ _ _) fun _ =>
      onlyAdds_bind (ih (index + 1)) fun _ => onlyAdds_pure _

theorem onlyAdds_checkList (setting : String) (other : List String) (given : Option Datum) :
    OnlyAdds (checkList setting other given) := by
  unfold checkList
  split
  · exact onlyAdds_pure other
  · exact onlyAdds_checkItems setting 0 _
  · exact onlyAdds_accept setting other _

theorem onlyAdds_mapM {f : α → Check β} (hf : ∀ a, OnlyAdds (f a)) (as : List α) :
    OnlyAdds (as.mapM f) := by
  induction as with
  | nil => exact onlyAdds_pure []
  | cons a as ih =>
    rw [List.mapM_cons]
    exact onlyAdds_bind (hf a) fun _ => onlyAdds_bind ih fun _ => onlyAdds_pure _

theorem onlyAdds_checkMapping (setting : String) (other : List (String × String))
    (given : Option Datum) : OnlyAdds (checkMapping setting other given) := by
  unfold checkMapping
  split
  · exact onlyAdds_pure other
  · exact onlyAdds_mapM (fun _ => onlyAdds_bind (onlyAdds_accept _ _ _) fun _ => onlyAdds_pure _) _
  · exact onlyAdds_accept setting other _

/-! ## What the sources say -/

/-- What the sources say about a setting; without a source it has the other value. -/
def said (s : Sources) (setting : String) (other : α) (read : Datum → Except Rejection α) :
    Except Rejection α :=
  (source? s setting).elim (.ok other) read

/-- A setting is what its source says, or what it is by default if it has none. -/
theorem said_eq_ok_iff {setting : String} {other a : α} {read : Datum → Except Rejection α} :
    said s setting other read = .ok a ↔ (source? s setting = none ∧ other = a) ∨
      ∃ d, source? s setting = some d ∧ read d = .ok a := by
  unfold said
  cases source? s setting <;> simp

/-- A check finds no issue exactly if its value is what the sources say. -/
theorem issues_check_eq_nil_iff (s : Sources) (setting : String) (other : α)
    (read : Datum → Except Rejection α) : issues (check s setting other read) = [] ↔
      said s setting other read = .ok (value (check s setting other read)) := by
  unfold check said
  cases source? s setting with
  | none => exact iff_of_true rfl rfl
  | some d =>
    dsimp only [Option.elim_some]
    cases read d with
    | ok a => exact iff_of_true rfl rfl
    | error e => exact iff_of_false (List.cons_ne_nil _ _) nofun

/-- Every setting, lists and mappings apart, is what the sources say about it. -/
structure IsSaid (s : Sources) (settings : Settings) : Prop where
  env : said s "env" default.env asText = .ok settings.env
  logLevel : said s "log_level" default.logLevel asText = .ok settings.logLevel
  releasesAuthKey : said s "releases_auth_key" default.releasesAuthKey asText =
    .ok settings.releasesAuthKey
  releasesSecretArn : said s "releases_secret_arn" default.releasesSecretArn asOptionalText =
    .ok settings.releasesSecretArn
  useS3 : said s "use_s3" default.useS3 asBool = .ok settings.useS3
  s3BucketName : said s "s3_bucket_name" default.s3BucketName asOptionalText =
    .ok settings.s3BucketName
  s3Region : said s "s3_region" default.s3Region asText = .ok settings.s3Region
  s3Prefix : said s "s3_prefix" default.s3Prefix asBareText = .ok settings.s3Prefix
  useDynamodb : said s "use_dynamodb" default.useDynamodb asBool = .ok settings.useDynamodb
  dynamodbTableName : said s "dynamodb_table_name" default.dynamodbTableName asText =
    .ok settings.dynamodbTableName
  awsRegion : said s "aws_region" default.awsRegion asText = .ok settings.awsRegion
  latestCacheTtl : said s "latest_cache_ttl" default.latestCacheTtl asCacheTtl =
    .ok settings.latestCacheTtl
  platformTableKey : said s "platform_table_key" default.platformTableKey asOptionalText =
    .ok settings.platformTableKey
  platformTableRefreshSeconds : said s "platform_table_refresh_seconds"
    default.platformTableRefreshSeconds asFloat = .ok settings.platformTableRefreshSeconds
  staticPrefix : said s "static_prefix" default.staticPrefix asText = .ok settings.staticPrefix
  staticHost : said s "upstream_static_host" default.staticHost asHost = .ok settings.staticHost
  staticTimeoutS : said s "upstream_timeout_s" default.staticTimeoutS asFloat =
    .ok settings.staticTimeoutS
  cacheMaxAge : said s "cache_max_age" default.cacheMaxAge asInt = .ok settings.cacheMaxAge
  rateLimitDefault : said s "rate_limit_default" default.rateLimitDefault asText =
    .ok settings.rateLimitDefault
  trustProxyHeaders : said s "trust_proxy_headers" default.trustProxyHeaders asBool =
    .ok settings.trustProxyHeaders
  maxContentLength : said s "max_content_length" default.maxContentLength asInt =
    .ok settings.maxContentLength

/-- If no issue is found, every setting is what its source says. -/
theorem isSaid_of_checkAll (h : (checkAll s manifests allowList).run [] = (settings, [])) :
    IsSaid s settings := by
  simp only [checkAll, run_bind, run_pure, onlyAdds_check _ _ _ _ _, onlyAdds_checkList _ _ _ _,
    onlyAdds_checkMapping _ _ _ _] at h
  obtain ⟨hall, hnone⟩ := Prod.mk.inj h
  simp only [List.append_eq_nil_iff, issues_check_eq_nil_iff, and_assoc] at hnone
  obtain ⟨-, env, logLevel, authKey, arn, useS3, bucket, region, keyStart, useTable, table,
    tableRegion, ttl, -, source, refresh, -, staticStart, host, timeout, maxAge, limit, trusts,
    length⟩ := hnone
  rw [← hall]
  exact ⟨env, logLevel, authKey, arn, useS3, bucket, region, keyStart, useTable, table, tableRegion,
    ttl, source, refresh, staticStart, host, timeout, maxAge, limit, trusts, length⟩

/-- Settings that are loaded are what the given values and the environment say. -/
theorem isSaid_of_load {given : List (Datum × Datum)} {env : Dictionary String}
    (h : load given env = .ok settings) : IsSaid ⟨given, env⟩ settings := by
  unfold load at h
  obtain ⟨manifests, -, h⟩ := bind_eq_ok h
  obtain ⟨allowList, -, h⟩ := bind_eq_ok h
  obtain ⟨c, hc⟩ : ∃ c, c = checkAll ⟨given, env⟩
    (collected given "platform_manifests" manifests) (collected given "allow_list" allowList) :=
    ⟨_, rfl⟩
  have hload : (if (issues c).isEmpty then .ok (value c) else .error (.invalid (issues c))) =
      (.ok settings : Except Fault Settings) := by
    rw [hc]
    exact h
  split at hload
  · rename_i hnone
    cases hload
    have hrun : c.run [] = (value c, []) := Prod.ext rfl (List.isEmpty_iff.mp hnone)
    rw [hc] at hrun ⊢
    exact isSaid_of_checkAll hrun
  · cases hload

end InstallerGateway.Settings
