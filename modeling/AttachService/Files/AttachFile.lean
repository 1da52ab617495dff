/-
Module: AttachService.Files.AttachFile
Purpose: The files by which clients hand channel names to a process, and claiming them.
Trusted boundary: none
Main exports: AttachFile.name, AttachFile.isFor, AttachFile.claimOne, AttachFile.claimAll,
  AttachFile.scan, AttachFile.stream
-/
import AttachService.Files.Access
import AttachService.Notice
import AttachService.Relay
import AttachService.Text.Blank
import AttachService.Text.Utf8

namespace AttachService

/-!
A client leaves the name of its channel in the working directory of its target, in a file
named for the target, for itself and for its attempt.  The target claims all files named for
it: each is read, removed, and its name passed on.  Drafts of such files, told by the end of
their names, are left alone.
-/

namespace AttachFile

/-- What the names of all files for a process begin with. -/
def stem (target : UInt32) : String := ".attach_pid" ++ Numeral.ofNat target.toNat ++ "_"

/-- What tells the attempts of all clients apart. -/
def nonce (client attempt : UInt32) : String :=
  Numeral.ofNat client.toNat ++ "_" ++ Numeral.ofNat attempt.toNat

/-- The name of the file for one attempt. -/
def name (target client attempt : UInt32) : String := stem target ++ nonce client attempt

/-- What the names of drafts end with. -/
def draftEnding : String := ".tmp"

/-- Whether an entry is a finished file for this process. -/
def isFor (target : UInt32) (entry : Name) : Bool :=
  match Utf8.decode entry with
  | none => false
  | some text =>
      (stem target).toList.isPrefixOf text.toList
        && !draftEnding.toList.isSuffixOf text.toList

/-- What is in a file, if it is a text. -/
def readText (w : Workdir) (path : List UInt8) : Except Fault String :=
  match w.read path with
  | .error fault => .error fault
  | .ok bytes =>
      match Utf8.decode bytes with
      | some text => .ok text
      | none => .error ⟨.invalidData, "stream did not contain valid UTF-8"⟩

/-- Claim one entry: read it, remove it, and give the channel name in it.  An entry that is
not for this process, cannot be read or cannot be removed is left alone. -/
def claimOne (target : UInt32) (w : Workdir) (entry : Name) :
    Option String × Workdir × List Notice :=
  if isFor target entry then
    let shown := Utf8.decodeLossy entry
    match readText w entry with
    | .error fault => (none, w, [.fileUnreadable shown fault])
    | .ok text =>
        match w.remove entry with
        | .error fault => (none, w, [.fileNotRemoved shown fault])
        | .ok w =>
            let channel := Text.trim text
            if channel = "" then (none, w, [.fileEmpty shown]) else (some channel, w, [])
  else
    (none, w, [])

/-- What claiming from a listing came to. -/
structure Claimed where
  /-- The channel names, in the order of the listing, unless the listing broke off. -/
  channels : Except Fault (List String)
  workdir : Workdir
  notices : List Notice
deriving Repr

/-- Claim the entries of a listing, which may break off with a fault.  The names claimed
before that are given up with it. -/
def claimAll (target : UInt32) (w : Workdir) : List (Except Fault Name) → Claimed
  | [] => ⟨.ok [], w, []⟩
  | .error fault :: _ => ⟨.error fault, w, []⟩
  | .ok entry :: rest =>
      let (channel, w, notices) := claimOne target w entry
      let claimed := claimAll target w rest
      ⟨claimed.channels.map (channel.toList ++ ·), claimed.workdir, notices ++ claimed.notices⟩

/-- Claim all files for a process from its working directory. -/
def scan (target : UInt32) (w : Workdir) : Claimed :=
  claimAll target w (w.names.map .ok)

/-- What the relay gets to hear of a scan.  A broken listing also ends the stream. -/
def Claimed.arrivals (claimed : Claimed) : List Arrival :=
  match claimed.channels with
  | .ok channels => channels.map .request
  | .error fault => [.failure fault.text]

/-- What the relay gets to hear in all, if a signal arrives before each of these scans. -/
def stream : List Claimed → List Arrival
  | [] => []
  | claimed :: later =>
      match claimed.channels with
      | .ok _ => claimed.arrivals ++ stream later
      | .error _ => claimed.arrivals

end AttachFile

end AttachService
