/-
Module: AttachService.Settings.Basic
Purpose: The settings of the service, their defaults, and reading them from a document.
Trusted boundary: none
Main exports: Settings, Settings.standard, Settings.ofDocument, Settings.load
-/
import AttachService.Fault
import AttachService.Files.Path
import AttachService.Settings.Document
import AttachService.Text.Utf8

namespace AttachService

/-- What an operator can set. -/
structure Settings where
  /-- How long a producer sleeps between two looks at readiness, in milliseconds. -/
  pollMillis : Nat
  /-- How often a producer sleeps before it gives up. -/
  pollAttempts : Nat
  /-- How long the consumer waits for a request on a channel, in milliseconds. -/
  readMillis : Nat
  /-- What every channel name begins with. -/
  channelPrefix : String
  /-- The name of the consumer thread. -/
  threadName : String
deriving Repr, Inhabited, DecidableEq

/-- Why there are no settings. -/
inductive SettingsFlaw where
  | unreadable (fault : Fault)
  | malformed
deriving Repr, Inhabited, DecidableEq

/-- The words for missing settings. -/
def SettingsFlaw.message : SettingsFlaw → String
  | .unreadable fault => "unable to read configuration: " ++ fault.text
  | .malformed => "invalid configuration: not a document of known settings"

namespace Settings

/-! ### Defaults -/

/-- The directory for temporary files when the environment names none. -/
def temporary : List UInt8 := Utf8.encode "/tmp"

/-- Channels live in the directory for temporary files under a hidden name. -/
def standardPrefix (directory : Option (List UInt8)) : String :=
  Utf8.decodeLossy (Path.join (directory.getD temporary) (Utf8.encode ".attach_pipe_"))

/-- The settings of an operator who sets nothing. -/
def standard (directory : Option (List UInt8)) : Settings where
  pollMillis := 1000
  pollAttempts := 10
  readMillis := 10000
  channelPrefix := standardPrefix directory
  threadName := "Attach Listener"

/-! ### Documents -/

/-- A natural number below a bound. -/
def natural? (bound : Nat) : Scalar → Option Nat
  | .integer n => if 0 ≤ n ∧ n < bound then some n.toNat else none
  | .text _ => none

/-- A text. -/
def text? : Scalar → Option String
  | .text s => some s
  | .integer _ => none

/-- Set what one entry says, if there is such a setting and it takes such a value. -/
def set? (settings : Settings) : String × Scalar → Option Settings
  | ("readiness_poll_interval_ms", value) =>
      (natural? UInt64.size value).map fun n => { settings with pollMillis := n }
  | ("readiness_attempts", value) =>
      (natural? UInt32.size value).map fun n => { settings with pollAttempts := n }
  | ("request_read_timeout_ms", value) =>
      (natural? UInt64.size value).map fun n => { settings with readMillis := n }
  | ("channel_prefix", value) =>
      (text? value).map fun s => { settings with channelPrefix := s }
  | ("thread_name", value) =>
      (text? value).map fun s => { settings with threadName := s }
  | _ => none

/-- The settings that entries make, starting from `defaults`.  No setting can be made
twice. -/
def ofEntries? (defaults : Settings) (entries : List (String × Scalar)) : Option Settings :=
  match entries.foldlM set? defaults with
  | none => none
  | some settings => if (entries.map (·.1)).Nodup then some settings else none

/-- The settings a document makes, starting from `defaults`. -/
def ofDocument (defaults : Settings) (document : String) : Except SettingsFlaw Settings :=
  match (Document.entries? document).bind (ofEntries? defaults) with
  | none => .error .malformed
  | some settings => .ok settings

/-- The settings in a file, given what reading it came to. -/
def load (defaults : Settings) (file : Except Fault (List UInt8)) :
    Except SettingsFlaw Settings :=
  match file with
  | .error fault => .error (.unreadable fault)
  | .ok bytes =>
      match Utf8.decode bytes with
      | none => .error (.unreadable ⟨.invalidData, "stream did not contain valid UTF-8"⟩)
      | some document => ofDocument defaults document

end Settings

end AttachService
