import ExtractionPrompt.Text.Numeral

/-!
The settings of the server, from its environment.  The database has to be named; the other variables
have defaults.  The first fault is reported, in the order database, port, number of connections.
How variables come into the environment, from a file for example, is left out.
-/

namespace ExtractionPrompt

structure Environment where
  databaseUrl : Option String
  port : Option String
  logFilter : Option String
  maxConnections : Option String

structure Settings where
  databaseUrl : String
  port : UInt16
  logFilter : String
  maxConnections : UInt32
  deriving DecidableEq, Repr

inductive CountFault where
  | empty
  | invalidDigit
  | tooLarge
  deriving DecidableEq, Repr

def CountFault.message : CountFault → String
  | empty => "cannot parse integer from empty string"
  | invalidDigit => "invalid digit found in string"
  | tooLarge => "number too large to fit in target type"

/-- Reads digits on top of the value so far, up to the first that is none or makes the value too
large. -/
def countDigits (limit value : Nat) : List Char → Except CountFault Nat
  | [] => .ok value
  | c :: rest =>
    if !c.isDigit then .error .invalidDigit
    else if limit ≤ value * 10 + Text.digitValue c then .error .tooLarge
    else countDigits limit (value * 10 + Text.digitValue c) rest

/-- A count below the limit: decimal digits, perhaps after one plus sign. -/
def parseCount (limit : Nat) (s : String) : Except CountFault Nat :=
  match s.toList with
  | [] => .error .empty
  | ['+'] => .error .invalidDigit
  | '+' :: digits => countDigits limit 0 digits
  | digits => countDigits limit 0 digits

inductive SettingsError where
  | noDatabase
  | port (fault : CountFault)
  | maxConnections (fault : CountFault)
  deriving DecidableEq, Repr

def SettingsError.message : SettingsError → String
  | noDatabase =>
    "Required environment variable 'DATABASE_URL' is not set: environment variable not found"
  | port fault => "PORT must be a valid port number: " ++ fault.message
  | maxConnections fault => "DB_MAX_CONNECTIONS must be a positive integer: " ++ fault.message

def Settings.ofEnvironment (env : Environment) : Except SettingsError Settings :=
  match env.databaseUrl with
  | none => .error .noDatabase
  | some databaseUrl =>
    match parseCount (Nat.pow 2 16) (env.port.getD "8080") with
    | .error fault => .error (.port fault)
    | .ok port =>
      match parseCount (Nat.pow 2 32) (env.maxConnections.getD "10") with
      | .error fault => .error (.maxConnections fault)
      | .ok maxConnections =>
        .ok ⟨databaseUrl, UInt16.ofNat port, env.logFilter.getD "info", UInt32.ofNat maxConnections⟩

end ExtractionPrompt
