import BrowserLab.Document
import BrowserLab.Error
import BrowserLab.Script.Machine
import BrowserLab.Text.Search
import BrowserLab.Trace.Recorder

/-!
# Configuration

Where progress is kept, how fast the page responds, how the recorder works and whom to ask for
advice.  Everything has a default.
-/

namespace BrowserLab

/-- Whom to ask for advice; nobody, if there is no address. -/
structure MentorConfig where
  endpoint : Option String := none
  timeoutSeconds : Nat := 30
  deriving DecidableEq, Repr, Inhabited

/-- The configuration of the lab. -/
structure Config where
  storePath : String
  seed : Option Nat := none
  latency : Latency := {}
  recorder : Recorder.Config := {}
  mentor : MentorConfig := {}
  deriving DecidableEq, Repr, Inhabited

/-- A file in a directory. -/
def joinPath (directory file : String) : String :=
  if directory.isEmpty then file
  else if Text.endsWith directory "/" then directory ++ file
  else directory ++ "/" ++ file

open Document

namespace Latency

def toJson (l : Latency) : Json :=
  .obj [("navigate_ms", .ofNat l.navigate), ("interaction_ms", .ofNat l.interaction),
    ("drag_ms", .ofNat l.drag), ("upload_ms", .ofNat l.upload), ("warmup_ms", .ofNat l.warmup)]

def ofDocument? {δ : Type} [Document δ] (d : δ) : Option Latency := do
  let fields ← record? ["navigate_ms", "interaction_ms", "drag_ms", "upload_ms", "warmup_ms"] d
  let standard : Latency := {}
  let word : δ → Option Nat := natural? wordBound
  let navigate ← withDefault fields "navigate_ms" standard.navigate word
  let interaction ← withDefault fields "interaction_ms" standard.interaction word
  let drag ← withDefault fields "drag_ms" standard.drag word
  let upload ← withDefault fields "upload_ms" standard.upload word
  let warmup ← withDefault fields "warmup_ms" standard.warmup word
  return { navigate, interaction, drag, upload, warmup }

end Latency

namespace Recorder.Config

def toJson (c : Recorder.Config) : Json :=
  .obj [("min_duration_ms", .ofNat c.minimum), ("duration_spread_ms", .ofNat c.spread)]

def ofDocument? {δ : Type} [Document δ] (d : δ) : Option Recorder.Config := do
  let fields ← record? ["min_duration_ms", "duration_spread_ms"] d
  let standard : Recorder.Config := {}
  let word : δ → Option Nat := natural? wordBound
  let minimum ← withDefault fields "min_duration_ms" standard.minimum word
  let spread ← withDefault fields "duration_spread_ms" standard.spread word
  return { minimum, spread }

end Recorder.Config

namespace MentorConfig

def toJson (c : MentorConfig) : Json :=
  .obj [("endpoint", .ofOption .str c.endpoint), ("timeout_secs", .ofNat c.timeoutSeconds)]

def ofDocument? {δ : Type} [Document δ] (d : δ) : Option MentorConfig := do
  let fields ← record? ["endpoint", "timeout_secs"] d
  let standard : MentorConfig := {}
  let endpoint ← optional fields "endpoint" text?
  let timeoutSeconds ←
    withDefault fields "timeout_secs" standard.timeoutSeconds (natural? wordBound)
  return { endpoint, timeoutSeconds }

end MentorConfig

namespace Config

/-- The configuration that keeps progress in the given directory and is otherwise the default. -/
def standard (storePath : String) : Config := { storePath }

def toJson (c : Config) : Json :=
  .obj [("store_path", .str c.storePath), ("seed", .ofOption .ofNat c.seed),
    ("latency", c.latency.toJson), ("recorder", c.recorder.toJson), ("mentor", c.mentor.toJson)]

/-- Reads a configuration; `storePath` is where progress is kept by default. -/
def ofDocument? {δ : Type} [Document δ] (storePath : String) (d : δ) : Option Config := do
  let fields ← record? ["store_path", "seed", "latency", "recorder", "mentor"] d
  let storePath ← withDefault fields "store_path" storePath text?
  let seed ← optional fields "seed" (natural? wordBound)
  let latency ← withDefault fields "latency" {} Latency.ofDocument?
  let recorder ← withDefault fields "recorder" {} Recorder.Config.ofDocument?
  let mentor ← withDefault fields "mentor" {} MentorConfig.ofDocument?
  return { storePath, seed, latency, recorder, mentor }

/-- What is wrong with the configuration, if anything is. -/
def fault? (c : Config) : Option ConfigCause :=
  if c.recorder.spread = 0 then some .emptySpread
  else
    match c.mentor.endpoint with
    | some endpoint =>
      if Text.startsWith endpoint "http://" || Text.startsWith endpoint "https://" then none
      else some (.badEndpoint endpoint)
    | none => none

/-- The configuration, if nothing is wrong with it. -/
def validate (c : Config) : Except LabError Config :=
  match c.fault? with
  | some cause => .error (.invalidConfig cause)
  | none => .ok c

/-- The file that progress is kept in. -/
def progressPath (c : Config) : String := joinPath c.storePath "progress.json"

end Config

end BrowserLab
