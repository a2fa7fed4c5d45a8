import InstallerGateway.Gateway.Serving
import InstallerGateway.Proofs.Gateway.PublicKeys
import InstallerGateway.Proofs.Platform.Reloading
import Mathlib.Data.NNRat.Defs

/-!
# Runs of a gateway

Requests come in, time passes, and the table of platforms is read again, in any order.
-/

namespace InstallerGateway.Gateway

open Act

/-- A step in the life of a gateway. -/
inductive Step where
  | request (r : Request)
  | wait (seconds : NNRat)
  | refresh

/-- The world after a step. -/
def Step.perform (g : Gateway) : Step → World → World
  | .request r, w => (g.answer r w).2
  | .wait seconds, w => w.advance seconds
  | .refresh, w => after Refreshing.refresh w

/-- The world after the steps of a run. -/
def run (g : Gateway) (w : World) (steps : List Step) : World :=
  steps.foldl (fun w s => s.perform g w) w

theorem run_snoc (g : Gateway) (w : World) (steps : List Step) (s : Step) :
    g.run w (steps ++ [s]) = s.perform g (g.run w steps) := by
  simp [run]

/-! ## Requests in examples -/

/-- A gateway with a secret, and otherwise with the settings that hold if nothing is set. -/
def secretGateway : Gateway where
  settings := { Settings.default with releasesAuthKey := "sekrit" }
  allowList := Access.publicPatterns
  maxContentLength := Settings.default.maxContentLength
  trustsForwarding := false
  rateLimit := none

/-- That gateway, with a limit of one request per minute. -/
def limitedGateway : Gateway := { secretGateway with rateLimit := some "1 per minute" }

/-- A request to get what stands at a path, with these fields. -/
def getOf (path : String) (fields : Headers) : Request :=
  .ofSent "GET" path fields ByteArray.empty none

/-- A request that bears the secret of that gateway. -/
def publisherOf (method path : String) (body : ByteArray) : Request :=
  .ofSent method path
    [(Access.credentialHeader, "sekrit"), ("Content-Length", toString body.size)] body none

end InstallerGateway.Gateway
