import InstallerGateway.Audit.Message
import InstallerGateway.Audit.Record
import InstallerGateway.Bytes.Base64
import InstallerGateway.Bytes.Digest
import InstallerGateway.Bytes.Unicode
import InstallerGateway.Cache.Basic
import InstallerGateway.Datum.Basic
import InstallerGateway.Datum.Literal
import InstallerGateway.Gateway.Basic
import InstallerGateway.Gateway.Client
import InstallerGateway.Gateway.FunctionUrl
import InstallerGateway.Gateway.Invocation
import InstallerGateway.Gateway.Limiting
import InstallerGateway.Gateway.Objects
import InstallerGateway.Gateway.Route
import InstallerGateway.Gateway.Serving
import InstallerGateway.Gateway.Startup
import InstallerGateway.Gateway.Statistics
import InstallerGateway.Http.Request
import InstallerGateway.Http.Response
import InstallerGateway.Json.Reader
import InstallerGateway.Json.Writer
import InstallerGateway.Key.Basic
import InstallerGateway.Key.InstallerName
import InstallerGateway.Limit.Rate
import InstallerGateway.Limit.Window
import InstallerGateway.Manifest.Basic
import InstallerGateway.Manifest.Choice
import InstallerGateway.Manifest.Reader
import InstallerGateway.Media.ContentType
import InstallerGateway.Media.Table
import InstallerGateway.Number.Binary64
import InstallerGateway.Number.Numeral
import InstallerGateway.Number.Shortest
import InstallerGateway.Pattern.Basic
import InstallerGateway.Pattern.Match
import InstallerGateway.Pattern.Reader
import InstallerGateway.Platform.Table
import InstallerGateway.Proofs.Audit.Lines
import InstallerGateway.Proofs.Audit.Reporting
import InstallerGateway.Proofs.Bytes.Base64
import InstallerGateway.Proofs.Cache.Contents
import InstallerGateway.Proofs.Cache.Expiry
import InstallerGateway.Proofs.Cache.Layers
import InstallerGateway.Proofs.Cache.Log
import InstallerGateway.Proofs.Cache.Memory
import InstallerGateway.Proofs.Cache.Replacing
import InstallerGateway.Proofs.Cache.Standby
import InstallerGateway.Proofs.Cache.Table
import InstallerGateway.Proofs.Datum.Display
import InstallerGateway.Proofs.Gateway.Accounts
import InstallerGateway.Proofs.Gateway.Addressing
import InstallerGateway.Proofs.Gateway.Admission
import InstallerGateway.Proofs.Gateway.Alike
import InstallerGateway.Proofs.Gateway.Bookkeeping
import InstallerGateway.Proofs.Gateway.Confinement
import InstallerGateway.Proofs.Gateway.Course
import InstallerGateway.Proofs.Gateway.Events
import InstallerGateway.Proofs.Gateway.Forwarding
import InstallerGateway.Proofs.Gateway.Held
import InstallerGateway.Proofs.Gateway.Influence
import InstallerGateway.Proofs.Gateway.Mediation
import InstallerGateway.Proofs.Gateway.ObjectMap
import InstallerGateway.Proofs.Gateway.PassingOn
import InstallerGateway.Proofs.Gateway.PublicKeys
import InstallerGateway.Proofs.Gateway.Quantiles
import InstallerGateway.Proofs.Gateway.Rationing
import InstallerGateway.Proofs.Gateway.Reading
import InstallerGateway.Proofs.Gateway.Refusing
import InstallerGateway.Proofs.Gateway.Rulings
import InstallerGateway.Proofs.Gateway.Run
import InstallerGateway.Proofs.Gateway.Sending
import InstallerGateway.Proofs.Gateway.ServedTypes
import InstallerGateway.Proofs.Gateway.StoreEffects
import InstallerGateway.Proofs.Gateway.Uploads
import InstallerGateway.Proofs.Http.Comparing
import InstallerGateway.Proofs.Http.Request
import InstallerGateway.Proofs.Http.Url
import InstallerGateway.Proofs.Http.Values
import InstallerGateway.Proofs.Json.Recognizing
import InstallerGateway.Proofs.Json.RoundTrip
import InstallerGateway.Proofs.Json.Strings
import InstallerGateway.Proofs.Json.Writing
import InstallerGateway.Proofs.Key.Directory
import InstallerGateway.Proofs.Key.InstallerName
import InstallerGateway.Proofs.Key.NamePatterns
import InstallerGateway.Proofs.Key.Validity
import InstallerGateway.Proofs.Limit.Counting
import InstallerGateway.Proofs.Manifest.Choosing
import InstallerGateway.Proofs.Manifest.Files
import InstallerGateway.Proofs.Manifest.Language
import InstallerGateway.Proofs.Media.Served
import InstallerGateway.Proofs.Number.Numeral
import InstallerGateway.Proofs.Number.Rounding
import InstallerGateway.Proofs.Number.Scientific
import InstallerGateway.Proofs.Number.Shortest
import InstallerGateway.Proofs.Pattern.Finding
import InstallerGateway.Proofs.Pattern.Greedy
import InstallerGateway.Proofs.Pattern.Literal
import InstallerGateway.Proofs.Pattern.Meaning
import InstallerGateway.Proofs.Platform.Reloading
import InstallerGateway.Proofs.Resolving.Failure
import InstallerGateway.Proofs.Resolving.Outcome
import InstallerGateway.Proofs.Resolving.Overlap
import InstallerGateway.Proofs.Resolving.Provenance
import InstallerGateway.Proofs.Resolving.Run
import InstallerGateway.Proofs.Resolving.Transparency
import InstallerGateway.Proofs.Result
import InstallerGateway.Proofs.Settings.CacheTime
import InstallerGateway.Proofs.Settings.Checking
import InstallerGateway.Proofs.Settings.Secrets
import InstallerGateway.Proofs.Settings.ZeroText
import InstallerGateway.Proofs.Store.Delivering
import InstallerGateway.Proofs.Store.Mirroring
import InstallerGateway.Proofs.Text.Replace
import InstallerGateway.Proofs.Text.Split
import InstallerGateway.Proofs.Text.Strip
import InstallerGateway.Proofs.World.Acting
import InstallerGateway.Proofs.World.Keeping
import InstallerGateway.Proofs.World.Noting
import InstallerGateway.Settings.Basic
import InstallerGateway.Settings.Coercion
import InstallerGateway.Settings.Load
import InstallerGateway.Settings.Secrets
import InstallerGateway.Store.Bucket
import InstallerGateway.Store.Delivery
import InstallerGateway.Store.Dictionary
import InstallerGateway.Store.Object
import InstallerGateway.Text.Character
import InstallerGateway.Text.Quoted
import InstallerGateway.Text.Split
import InstallerGateway.Text.Word
import InstallerGateway.Time.Calendar
import InstallerGateway.Time.Clock
import InstallerGateway.World.Basic
import InstallerGateway.World.Caching
import InstallerGateway.World.Refreshing
import InstallerGateway.World.Resolving
import InstallerGateway.World.Storing
import InstallerGateway.Yaml.Composer
import InstallerGateway.Yaml.Document
import InstallerGateway.Yaml.Lexer
import InstallerGateway.Yaml.Scalar
import InstallerGateway.Yaml.Source
import InstallerGateway.Yaml.Token
