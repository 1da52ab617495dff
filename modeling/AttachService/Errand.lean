/-
Module: AttachService.Errand
Purpose: The client's side as a whole: running a command in another process.
Trusted boundary: client and target run on one machine, and each waits for the other
Main exports: Site, ErrandFailure, Site.errand
-/
import AttachService.Files.Socket
import AttachService.Files.Summons
import AttachService.Service

namespace AttachService

/-!
A client binds a socket with a name of its own, summons its target, and sends its request to
whoever connects.  The target claims the summons, relays it to its intake, and its consumer
connects, reads the request, runs the command and replies.  The client reads the reply up to
the end of the stream.  Its files are gone when it is done, whatever came of it.
-/

/-- A machine whose process serves clients on sockets in its working directory. -/
structure Site where
  service : Service SocketWorld
  pid : UInt32
  /-- How many attach files were set out. -/
  attempts : UInt32 := 0
  /-- How many channels were named. -/
  channels : UInt32 := 0

/-- Why a client has no reply. -/
inductive ErrandFailure where
  | channelTooLong (channel : String)
  | io (fault : Fault)
  | summons (failure : SummonsFailure)
  | flaw (flaw : Flaw)
  | noResponse (pid : UInt32) (channel : String)
deriving Repr, DecidableEq

/-- The words for a failed errand. -/
def ErrandFailure.message : ErrandFailure → String
  | .channelTooLong channel =>
      "Channel name " ++ channel ++ " exceeds " ++ Numeral.ofNat Limits.channelBytes ++ " bytes"
  | .io fault => fault.text
  | .summons failure => failure.message
  | .flaw cause => cause.message
  | .noResponse pid channel =>
      "Unable to attach to process " ++ Numeral.ofNat pid.toNat ++ " through " ++ channel
        ++ ": target process doesn't respond"

/-- The name of a client's channel to a process. -/
def channelName (channelPrefix : String) (target client counter : UInt32) : String :=
  channelPrefix ++ Numeral.ofNat target.toNat ++ "_" ++ AttachFile.nonce client counter

namespace Site

/-- What a client sends once its target has connected.  One whose request breaks a bound
sends nothing and hangs up. -/
def greeting (request : Request) : Source :=
  match request.layout with
  | .ok bytes => .ofBytes bytes
  | .error _ => { deliveries := [] }

/-- The machine that a client at this site sees. -/
def machine (site : Site) : Machine where
  pid := site.pid
  workdir := site.service.outside.workdir
  attempts := site.attempts

/-- The site with another working directory. -/
def setWorkdir (site : Site) (workdir : Workdir) : Site :=
  { site with service := { site.service with
      outside := { site.service.outside with workdir := workdir } } }

/-- Relay what a scan came to, and let the consumer deal with it. -/
def hear : List Arrival → Service SocketWorld → Service SocketWorld
  | [], service => service
  | .failure _ :: _, service => service
  | .request channel :: rest, service =>
      let (_, after, _) := service.submit (Relay.submission channel)
      hear rest after

/-- Let the target answer its signal. -/
def answerSignal (site : Site) : Site :=
  let claimed := AttachFile.scan site.pid site.service.outside.workdir
  let heard := site.setWorkdir claimed.workdir
  { heard with service := hear claimed.arrivals heard.service }

/-- What a client does with the connection its target may have made. -/
def conclude (site : Site) (target : UInt32) (channel : String) (number : Nat)
    (request : Request) : Except ErrandFailure Reply :=
  match site.service.outside.clients.registrations[number]? with
  | none => .error (.noResponse target channel)
  | some r =>
      if r.opened then
        match request.layout with
        | .error flaw => .error (.flaw flaw)
        | .ok _ =>
            match Reply.parse r.sink.written with
            | .ok reply => .ok reply
            | .error flaw => .error (.flaw flaw)
      else
        .error (.noResponse target channel)

/-- Run a command in process `target`. -/
def errand (site : Site) (target : UInt32) (name : String) (args : List String) :
    Except ErrandFailure Reply × Site :=
  let settings := site.service.intake.settings
  let channel := channelName settings.channelPrefix target site.pid site.channels
  let request : Request := ⟨.v2, name, args⟩
  let site := { site with channels := site.channels + 1 }
  if Limits.channelBytes < channel.utf8ByteSize then (.error (.channelTooLong channel), site)
  else
    let path := Utf8.encode channel
    let number := site.service.outside.clients.registrations.size
    match site.service.outside.bind path (greeting request) with
    | .error fault => (.error (.io fault), site)
    | .ok outside =>
        let bound := { site with service := { site.service with outside := outside } }
        let socket := OwnedFile.adopt path
        let summons : Summons := { target := target, channel := channel }
        let (sent, summons, machine) := summons.send {} bound.machine
        let site := { bound.setWorkdir machine.workdir with attempts := machine.attempts }
        match sent with
        | .error failure =>
            let after := summons.withdraw site.machine
            (.error (.summons failure), site.setWorkdir (socket.discard after.workdir))
        | .ok () =>
            let site := site.answerSignal
            let result := site.conclude target channel number request
            let after := summons.withdraw site.machine
            (result, site.setWorkdir (socket.discard after.workdir))

end Site

end AttachService
