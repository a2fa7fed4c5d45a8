import InstallerGateway.Number.Binary64

/-!
# Settings

What can be set about the gateway, and the values that hold if nothing is.
-/

namespace InstallerGateway

/-- The settings of a gateway. -/
structure Settings where
  /-- The name of the environment. -/
  env : String
  /-- From which level on events are logged. -/
  logLevel : String
  /-- The secret of publishers; if it is empty nobody can prove to be one. -/
  releasesAuthKey : String
  /-- Where the secret is kept. -/
  releasesSecretArn : Option String
  /-- Objects are kept in a bucket. -/
  useS3 : Bool
  /-- The bucket. -/
  s3BucketName : Option String
  /-- The region of the bucket. -/
  s3Region : String
  /-- What all keys in the bucket begin with. -/
  s3Prefix : String
  /-- Resolved keys are kept in a table. -/
  useDynamodb : Bool
  /-- The table. -/
  dynamodbTableName : String
  /-- The region of the table. -/
  awsRegion : String
  /-- For how many seconds resolved keys are kept. -/
  latestCacheTtl : Int
  /-- The suffixes of manifest names by extension. -/
  platformManifests : List (String × String)
  /-- Where in the store the suffixes are to be found. -/
  platformTableKey : Option String
  /-- Seconds between two readings of the suffixes. -/
  platformTableRefreshSeconds : Binary64
  /-- Patterns of the keys that everybody may read. -/
  allowList : List String
  /-- What the keys begin with that are served from another host. -/
  staticPrefix : String
  /-- The other host. -/
  staticHost : String
  /-- For how many seconds that host is waited for. -/
  staticTimeoutS : Binary64
  /-- For how many seconds answers may be kept. -/
  cacheMaxAge : Int
  /-- How often a client may ask. -/
  rateLimitDefault : String
  /-- What forwarding header fields say about the client is believed. -/
  trustProxyHeaders : Bool
  /-- The greatest length of a request body. -/
  maxContentLength : Int

namespace Settings

/-- The patterns of the keys that everybody may read: all that lies under `static/`, and the
manifests and installers in `desktop/`. -/
def defaultAllowList : List String :=
  ["^static/", "^desktop/[^/]+\\.yml$",
    "^desktop/[^/]+[-_][^/]+\\.(?:dmg|zip|exe|deb)(?:\\.blockmap)?$"]

/-- For how many seconds resolved keys are kept if nothing else is set. -/
def defaultCacheTtl : Int := 300

/-- The settings that hold if nothing is set. -/
def default : Settings where
  env := "dev"
  logLevel := "INFO"
  releasesAuthKey := ""
  releasesSecretArn := none
  useS3 := false
  s3BucketName := none
  s3Region := "us-east-2"
  s3Prefix := ""
  useDynamodb := false
  dynamodbTableName := "LatestCacheTable"
  awsRegion := "us-east-2"
  latestCacheTtl := defaultCacheTtl
  platformManifests := [("dmg", "-mac"), ("exe", ""), ("deb", "-linux")]
  platformTableKey := none
  platformTableRefreshSeconds := .ofInt 60
  allowList := defaultAllowList
  staticPrefix := "static/"
  staticHost := "https://static.example.com"
  staticTimeoutS := .ofInt 15
  cacheMaxAge := 300
  rateLimitDefault := "1000 per minute"
  trustProxyHeaders := false
  maxContentLength := 2147483648

end Settings

end InstallerGateway
