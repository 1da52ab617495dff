/-
Module: AttachService.Files.Socket
Purpose: Channels that are sockets bound to paths.
Trusted boundary: the rules for socket addresses are those of Linux
Main exports: SocketWorld, SocketWorld.bind, SocketWorld.openChannel, SocketWorld.exchange
-/
import AttachService.Files.Access
import AttachService.Stream.Exchange
import AttachService.Text.Utf8

namespace AttachService

/-- A directory tree with the clients that listen on its sockets. -/
structure SocketWorld where
  workdir : Workdir := {}
  clients : Exchange := {}
deriving Repr, DecidableEq

namespace SocketWorld

/-- The bytes that the address of a socket has room for. -/
def addressBytes : Nat := 108

/-- Listen on a new socket, sending `source` to whoever opens it.  A path to bind has to
leave room for the NUL after it. -/
def bind (s : SocketWorld) (path : List UInt8) (source : Source) :
    Except Fault SocketWorld :=
  if 0 ∈ path ∨ addressBytes ≤ path.length then .error (.plain .invalidInput)
  else
    let clients := s.clients.listen (Utf8.decodeLossy path) source {} none
    match s.workdir.add path (.socket (some s.clients.registrations.size)) with
    | .error .alreadyExists => .error (.plain .addressInUse)
    | .error kind => .error (.plain kind)
    | .ok workdir => .ok { workdir := workdir, clients := clients }

/-- Connect to client number `i`, whose socket was found. -/
def connect (s : SocketWorld) (i : Nat) : OpenOutcome × SocketWorld :=
  match s.clients.registrations[i]? with
  | none => (.failed (.plain .connectionRefused), s)
  | some r =>
      if r.used then (.failed (.plain .connectionRefused), s)
      else
        (.opened ⟨i, r.source, r.sink⟩,
          { s with clients := s.clients.put i { r with used := true, opened := true } })

/-- Why no socket can be found under an address.  An empty one, or one that begins with a
NUL, is no path; nobody listens there. -/
def addressFault? (path : List UInt8) : Option FaultKind :=
  if path.head?.getD 0 = 0 then
    some (if addressBytes < path.length then .invalidFilename else .connectionRefused)
  else if 0 ∈ path then some .invalidInput
  else if addressBytes < path.length then some .invalidFilename
  else none

/-- Open the socket at a path. -/
def openChannel (s : SocketWorld) (path : List UInt8) : OpenOutcome × SocketWorld :=
  match addressFault? path with
  | some kind => (.failed (.plain kind), s)
  | none =>
      match s.workdir.reach path with
      | .error kind => (.failed (.plain kind), s)
      | .ok entry =>
          match entry.kind with
          | .socket (some i) => s.connect i
          | _ => (.failed (.plain .connectionRefused), s)

instance : Transport SocketWorld where
  openChannel s name mode :=
    match s.openChannel (Utf8.encode name), mode with
    | (.opened channel, s), .writeOnly => (.opened { channel with source := ⟨[], 0⟩ }, s)
    | result, _ => result
  giveBack s channel := { s with clients := s.clients.giveBack channel }

/-! ### One exchange -/

/-- What both ends of an open socket see when the client sends a request, the process reads
once and replies, and closes. -/
structure Exchanged where
  /-- Whether the client could send at all. -/
  sent : Except Fault Unit
  /-- How many bytes the process read. -/
  read : Nat
  /-- What the client got. -/
  reply : List UInt8
deriving Repr

/-- The most bytes that the process reads. -/
def readBytes : Nat := 64

/-- Nobody reads what is sent on a socket that was opened for writing only: sending fails,
and reading finds nothing. -/
def exchange (mode : OpenMode) (request reply : List UInt8) : Exchanged :=
  match mode with
  | .readWrite => ⟨.ok (), min request.length readBytes, reply⟩
  | .writeOnly =>
      ⟨if request = [] then .ok () else .error (.plain .brokenPipe), 0, reply⟩

end SocketWorld

end AttachService
