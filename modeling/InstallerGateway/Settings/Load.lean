import InstallerGateway.Json.Reader
import InstallerGateway.Settings.Basic
import InstallerGateway.Settings.Coercion
import InstallerGateway.Store.Dictionary
import InstallerGateway.Text.Character

/-!
# Loading settings

Settings are given by name, or else by environment variables, whose names may be written in any case
and whose lists and mappings are JSON. All values that are not accepted are reported together.
-/

namespace InstallerGateway.Settings

/-- A value that is not accepted, and where it stands. -/
structure Issue where
  /-- The name of the setting, and inside lists and mappings that of the item. -/
  place : String
  /-- Why it is not accepted. -/
  rejection : Rejection
  deriving DecidableEq

/-- Why there are no settings. -/
inductive Fault where
  /-- An environment variable for this setting is no JSON. -/
  | unreadable (setting : String)
  /-- Some values are not accepted. -/
  | invalid (issues : List Issue)
  deriving DecidableEq

/-- All rejections in one line. -/
def issuesText (issues : List Issue) : String :=
  String.intercalate ";" (issues.map fun i => i.place ++ ":" ++ i.rejection.name)

/-- The value of an environment variable. -/
def fromEnv? (env : Dictionary String) (setting : String) : Option String :=
  (env.reverse.find? fun e => lower e.1 = setting).map (·.2)

/-- The value of an environment variable that is JSON; null is nothing. -/
def fromJson? (env : Dictionary String) (setting : String) : Except Fault (Option Datum) :=
  match fromEnv? env setting with
  | none => .ok none
  | some text =>
    match Json.parse? text with
    | none => .error (.unreadable setting)
    | some .null => .ok none
    | some d => .ok (some d)

/-- The entries of one mapping put into those of another. -/
def merged (given other : Datum) : Datum :=
  match given, other with
  | .map place new, .map _ old => .map place (new.foldl (fun es e => Datum.assign e.1 e.2 es) old)
  | _, _ => given

/-- The issues so far, while settings are checked one after the other. -/
abbrev Check := StateM (List Issue)

/-- Where settings come from. -/
structure Sources where
  /-- The settings that are given by name. -/
  given : List (Datum × Datum)
  /-- The environment. -/
  env : Dictionary String

/-- A value that is accepted, or else an issue. -/
def accept {α : Type} (place : String) (other : α) (r : Except Rejection α) : Check α := do
  match r with
  | .ok a => return a
  | .error e =>
    modify (· ++ [⟨place, e⟩])
    return other

/-- The value of a setting: the given one, or else the environment variable. -/
def source? (s : Sources) (setting : String) : Option Datum :=
  match Datum.field? setting s.given with
  | some d => some d
  | none => (fromEnv? s.env setting).map .text

/-- A setting, read by `read`. -/
def check {α : Type} (s : Sources) (setting : String) (other : α)
    (read : Datum → Except Rejection α) : Check α :=
  match source? s setting with
  | none => return other
  | some d => accept setting other (read d)

/-- The texts of a list, whose first item has the number `index`. -/
def checkItems (setting : String) (index : Nat) : List Datum → Check (List String)
  | [] => return []
  | d :: rest => do
    let s ← accept (setting ++ "." ++ toString index) "" (asText d)
    return s :: (← checkItems setting (index + 1) rest)

/-- A setting that is a list of texts. -/
def checkList (setting : String) (other : List String) (value : Option Datum) :
    Check (List String) :=
  match value with
  | none => return other
  | some (.list _ items) => checkItems setting 0 items
  | some _ => accept setting other (.error .listType)

/-- The name of an entry in the place of an issue. -/
def entryName (key : Datum) : String :=
  match key with
  | .text s => s
  | _ => ""

/-- A setting that is a mapping of texts. -/
def checkMapping (setting : String) (other : List (String × String)) (value : Option Datum) :
    Check (List (String × String)) :=
  match value with
  | none => return other
  | some (.map _ entries) =>
    entries.mapM fun (k, v) => do
      let s ← accept (setting ++ "." ++ entryName k) "" (asText v)
      return (entryName k, s)
  | some _ => accept setting other (.error .dictType)

/-- A setting for which null, an empty text, and a zero other than in a text of more characters mean
the usual value. -/
def asCacheTtl (d : Datum) : Except Rejection Int :=
  if d.sameKey .null || d.sameKey (.text "") || d.sameKey (.int 0) || d.sameKey (.text "0") then
    .ok defaultCacheTtl
  else asInt d

/-- A text without slashes at its ends. -/
def asBareText (d : Datum) : Except Rejection String :=
  (asText d).map fun s => String.ofList (stripBy (· == '/') s.toList)

/-- A text without slashes at its end. -/
def asHost (d : Datum) : Except Rejection String :=
  (asText d).map fun s => String.ofList (stripEndBy (· == '/') s.toList)

/-- The settings, as far as they are accepted; lists and mappings are already read. -/
def checkAll (s : Sources) (manifests allowList : Option Datum) : Check Settings := do
  let d := default
  let env ← check s "env" d.env asText
  let logLevel ← check s "log_level" d.logLevel asText
  let releasesAuthKey ← check s "releases_auth_key" d.releasesAuthKey asText
  let releasesSecretArn ← check s "releases_secret_arn" d.releasesSecretArn asOptionalText
  let useS3 ← check s "use_s3" d.useS3 asBool
  let s3BucketName ← check s "s3_bucket_name" d.s3BucketName asOptionalText
  let s3Region ← check s "s3_region" d.s3Region asText
  let s3Prefix ← check s "s3_prefix" d.s3Prefix asBareText
  let useDynamodb ← check s "use_dynamodb" d.useDynamodb asBool
  let dynamodbTableName ← check s "dynamodb_table_name" d.dynamodbTableName asText
  let awsRegion ← check s "aws_region" d.awsRegion asText
  let latestCacheTtl ← check s "latest_cache_ttl" d.latestCacheTtl asCacheTtl
  let platformManifests ← checkMapping "platform_manifests" d.platformManifests manifests
  let platformTableKey ← check s "platform_table_key" d.platformTableKey asOptionalText
  let platformTableRefreshSeconds ←
    check s "platform_table_refresh_seconds" d.platformTableRefreshSeconds asFloat
  let allowList ← checkList "allow_list" d.allowList allowList
  let staticPrefix ← check s "static_prefix" d.staticPrefix asText
  let staticHost ← check s "upstream_static_host" d.staticHost asHost
  let staticTimeoutS ← check s "upstream_timeout_s" d.staticTimeoutS asFloat
  let cacheMaxAge ← check s "cache_max_age" d.cacheMaxAge asInt
  let rateLimitDefault ← check s "rate_limit_default" d.rateLimitDefault asText
  let trustProxyHeaders ← check s "trust_proxy_headers" d.trustProxyHeaders asBool
  let maxContentLength ← check s "max_content_length" d.maxContentLength asInt
  return {
    env, logLevel, releasesAuthKey, releasesSecretArn, useS3, s3BucketName, s3Region, s3Prefix,
    useDynamodb, dynamodbTableName, awsRegion, latestCacheTtl, platformManifests, platformTableKey,
    platformTableRefreshSeconds, allowList, staticPrefix, staticHost, staticTimeoutS,
    cacheMaxAge, rateLimitDefault, trustProxyHeaders, maxContentLength }

/-- The value of a setting that is a list or mapping. A given mapping is put into the one of the
environment. -/
def collected (given : List (Datum × Datum)) (setting : String) (fromEnv : Option Datum) :
    Option Datum :=
  match Datum.field? setting given, fromEnv with
  | some d, some e => some (merged d e)
  | some d, none => some d
  | none, e => e

/-- The settings that are given by name and by the environment. -/
def load (given : List (Datum × Datum)) (env : Dictionary String) : Except Fault Settings := do
  let manifests ← fromJson? env "platform_manifests"
  let allowList ← fromJson? env "allow_list"
  let manifests := collected given "platform_manifests" manifests
  let allowList := collected given "allow_list" allowList
  let (settings, issues) := (checkAll ⟨given, env⟩ manifests allowList).run []
  if issues.isEmpty then return settings else throw (.invalid issues)

end InstallerGateway.Settings
