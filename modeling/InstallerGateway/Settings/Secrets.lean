import InstallerGateway.Datum.Literal
import InstallerGateway.Json.Reader
import InstallerGateway.Store.Dictionary
import InstallerGateway.Text.Character

/-!
# The secret of publishers

If the environment says where the secret is kept, it is fetched from there and added to the
environment, from which the settings read it. A secret is a JSON object with the key, or the key
itself. That it cannot be fetched is reported and no more, but a secret that cannot be read, or a
key that the environment cannot hold, is a fault.
-/

namespace InstallerGateway.Secrets

/-- What becomes of the attempt to fetch a secret. -/
inductive Reply where
  /-- An answer. -/
  | answer (entries : List (Datum × Datum))
  /-- The secret is refused, or cannot be reached, for a reason. -/
  | refused (reason : String)
  /-- Anything else goes wrong. -/
  | broken (message : String)

/-- Why loading the secret fails. -/
inductive Fault where
  /-- The secret, or the key in it, is no text. -/
  | noText
  /-- The key holds a character that no environment variable can hold. -/
  | embeddedNull
  /-- The secret is JSON so far as an integer of too many digits. -/
  | tooLong
  /-- What went wrong while it was fetched. -/
  | broken (message : String)
  deriving DecidableEq

/-- What is reported on loading a secret. -/
structure Report where
  /-- Whether it is an error; otherwise it is a warning. -/
  isError : Bool
  /-- The message. -/
  message : String
  deriving DecidableEq

/-- What loading the secret does. -/
structure Outcome where
  /-- The secrets that are asked for. -/
  asked : List String
  /-- The environment afterwards. -/
  env : Dictionary String
  /-- What is reported. -/
  reports : List Report

/-- The variable that says where the secret is kept. -/
def arnVariable : String := "RELEASES_SECRET_ARN"

/-- The variable that holds the key, and its name in the secret. -/
def keyVariable : String := "RELEASES_AUTH_KEY"

/-- The key in the text of a secret: a JSON object has it under its name, another JSON value has
none, and a text that is no JSON is the key. -/
def keyOf (secret : String) : Except Fault Datum :=
  match Json.parse secret with
  | .ok (.map _ entries) => .ok ((Datum.field? keyVariable entries).getD .null)
  | .ok _ => .ok .null
  | .error .malformed => .ok (.text (strip secret))
  | .error .tooLong => .error .tooLong

/-- The environment with the key, unless it has one. -/
def setKey (env : Dictionary String) (key : Datum) : Except Fault (Dictionary String) :=
  match env.find? keyVariable with
  | some _ => .ok env
  | none =>
    match key with
    | .text s =>
      if s.toList.contains '\x00' then .error .embeddedNull else .ok (env.put keyVariable s)
    | _ => .error .noText

/-- The secret is fetched, if the environment says where it is kept; `fetch` is what becomes of
that. -/
def load (env : Dictionary String) (fetch : Reply) : Except Fault Outcome :=
  match env.find? arnVariable with
  | none | some "" => .ok ⟨[], env, []⟩
  | some arn =>
    let warning (rest : String) : Except Fault Outcome :=
      .ok ⟨[arn], env, [⟨false, "Secret " ++ arn ++ rest⟩]⟩
    match fetch with
    | .broken message => .error (.broken message)
    | .refused reason =>
      .ok ⟨[arn], env, [⟨true, "Failed to fetch secret " ++ arn ++ ": " ++ reason⟩]⟩
    | .answer entries =>
      let secret := (Datum.field? "SecretString" entries).getD .null
      if !secret.isTruthy then warning " has no SecretString; skipping"
      else
        match secret with
        | .text s => do
          let key ← keyOf s
          if key.isTruthy then (setKey env key).map fun env => ⟨[arn], env, []⟩
          else warning " has no RELEASES_AUTH_KEY"
        | _ => .error .noText

end InstallerGateway.Secrets
