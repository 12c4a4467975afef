import BrowserLab.Script.Token
import BrowserLab.Style

/-!
# What can go wrong

The causes of failure of everything but the command line, and how each is told.
-/

namespace BrowserLab

/-- Why a configuration is not accepted. -/
inductive ConfigCause where
  | emptySpread
  | badEndpoint (endpoint : String)
  deriving DecidableEq, Repr, Inhabited

def ConfigCause.message : ConfigCause → String
  | .emptySpread => "recorder.duration_spread_ms must be greater than zero"
  | .badEndpoint endpoint => "mentor.endpoint must be an http(s) URL, got " ++ endpoint

/-- Why a list of scenarios is no catalog. -/
inductive CatalogCause where
  | noScenarios
  | duplicate (id : String)
  deriving DecidableEq, Repr, Inhabited

def CatalogCause.message : CatalogCause → String
  | .noScenarios => "catalog has no scenarios"
  | .duplicate id => "duplicate scenario id: " ++ id

/-- What has gone wrong. -/
inductive LabError where
  | compile (e : Script.SyntaxError)
  | execution (message : String)
  | serviceUnavailable (message : String)
  | scenarioNotFound (id : String)
  | unsupportedStyle (scenario : String) (style : Style)
  | invalidConfig (cause : ConfigCause)
  | catalog (cause : CatalogCause)
  /-- A file cannot be read or written. -/
  | io
  /-- A text is not the JSON document that is expected. -/
  | json
  /-- A text is not the YAML document that is expected. -/
  | yaml
  /-- A text is not the TOML document that is expected. -/
  | toml
  deriving Repr, Inhabited

namespace LabError

/-- The error for a reader; of a document that cannot be read, only what kind of document it is. -/
def message : LabError → String
  | .compile e =>
    "Compile error at line " ++ toString e.place.line ++ ", column " ++ toString e.place.column ++
      ": " ++ e.message
  | .execution message => "Execution Error: " ++ message
  | .serviceUnavailable message => "Service unavailable: " ++ message
  | .scenarioNotFound id => "Scenario not found: " ++ id
  | .unsupportedStyle scenario style =>
    "Scenario " ++ scenario ++ " does not support the " ++ style.title ++ " API style"
  | .invalidConfig cause => "Invalid configuration: " ++ cause.message
  | .catalog cause => "Catalog error: " ++ cause.message
  | .io => "IO error"
  | .json => "Serialization error"
  | .yaml => "YAML error"
  | .toml => "TOML parse error"

/-- Is it the fault of a learner's code? -/
def isLearnerFault : LabError → Bool
  | .compile _ => true
  | .execution _ => true
  | _ => false

end LabError

end BrowserLab
