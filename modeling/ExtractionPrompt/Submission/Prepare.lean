import ExtractionPrompt.Config.Decode
import ExtractionPrompt.Key.Collision
import ExtractionPrompt.Submission.Check
import ExtractionPrompt.Submission.Derivation

/-!
A submission: a config is read, its missing keys are derived, and it is checked.  Only the result is
compiled or stored.
-/

namespace ExtractionPrompt

/-- What can go wrong while a request is served. -/
inductive Failure where
  | notFound (detail : String)
  | invalid (detail : String)
  | config (error : ConfigError)
  | database (detail : String)
  | internal (detail : String)

def Failure.message : Failure → String
  | notFound detail => "Not found: " ++ detail
  | invalid detail => "Validation error: " ++ detail
  | config error => "Config error: " ++ error.message
  | database detail => "Database error: " ++ detail
  | internal detail => "Internal server error: " ++ detail

def Config.collisions (c : Config) : List Collision := Collision.find c.keys

def prepare (v : Json) : Except Failure Config :=
  match Config.ofJson v with
  | .error error => .error (.config error)
  | .ok c =>
    if c.deriveKeys.passes then .ok c.deriveKeys
      else .error (.invalid (summaryOf c.deriveKeys.issues))

end ExtractionPrompt
