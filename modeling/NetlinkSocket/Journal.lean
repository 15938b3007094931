import NetlinkSocket.Connection
import NetlinkSocket.Message.Header

/-!
What an operation leaves beside its result: lines for the log, and a record of the calls made to
handlers and stub families.
-/

namespace NetlinkSocket

inductive Level
  | error
  | warn
  | debug
  deriving DecidableEq, Repr

def Level.name : Level → String
  | error => "error"
  | warn => "warn"
  | debug => "debug"

inductive LogLine
  | socketRequested (domain : AddressFamily) (type : SocketType) (flags : SocketFlags)
      (protocol : Int32)
  | connectionReady (connection : Connection)
  | connectionFreed (id : ConnectionId)
  | closedWhileArmed (id : ConnectionId)
  | discardFailed (failure : Failure)
  | sending (protocol : Protocol) (header : Header)
  | routeRequest (header : Header) (destination : Address)
  | routeReply (length : Nat) (portId : UInt32)
  | waitNotSetUp (failure : Failure)
  | waitEnded
  | pollsOverlap (id : ConnectionId)
  | pollNotSetUp (failure : Failure)
  | staleNotification (key : Nat) (id : ConnectionId)

namespace LogLine

def level : LogLine → Level
  | closedWhileArmed _ | waitNotSetUp _ | waitEnded | pollsOverlap _ | pollNotSetUp _ => .error
  | discardFailed _ | staleNotification .. => .warn
  | _ => .debug

def text : LogLine → String
  | socketRequested domain type flags protocol =>
    "domain = " ++ domain.name ++ ", sock_type = " ++ type.name ++ ", flags = " ++ flags.text ++
      ", protocol = " ++ toString protocol.toInt
  | connectionReady connection => "netlink connection " ++ connection.text ++ " is set up"
  | connectionFreed id => "netlink connection " ++ id.text ++ " is freed"
  | closedWhileArmed id => "netlink connection " ++ id.text ++ " is closed with an armed poll"
  | discardFailed failure => "failed to close a dropped socket: " ++ failure.text
  | sending protocol header =>
    "netlink send: protocol = " ++ protocol.name ++ ", type = " ++
      toString header.type.toNat ++ ", len = " ++ toString header.length.toNat
  | routeRequest header destination =>
    "route request: type = " ++ toString header.type.toNat ++ ", flags = " ++
      header.flags.text ++ ", seq = " ++ toString header.sequence.toNat ++ ", dest = " ++
      destination.text
  | routeReply length portId =>
    "route reply: " ++ toString length ++ " bytes to port " ++ toString portId.toNat
  | waitNotSetUp failure => "failed to wait for a netlink response: " ++ failure.text
  | waitEnded => "the wait for a netlink response ended without a response"
  | pollsOverlap id => "multiple polls on netlink connection " ++ id.text
  | pollNotSetUp failure => "failed to set up the response notification: " ++ failure.text
  | staleNotification key id =>
    "stale response notification " ++ toString key ++ " on netlink connection " ++ id.text

end LogLine

inductive FamilyCall
  | addReference
  | bind
  | name
  | peerName
  | connect
  | arm
  | disarm
  | send
  | sendTo
  | receive
  | close
  deriving DecidableEq, Repr

def FamilyCall.text : FamilyCall → String
  | addReference => "addref"
  | bind => "bind"
  | name => "getsockname"
  | peerName => "getpeername"
  | connect => "connect"
  | arm => "poll_setup"
  | disarm => "poll_teardown"
  | send => "send"
  | sendTo => "sendto"
  | receive => "recvfrom"
  | close => "close"

inductive CallRecord
  | payload (id : ConnectionId) (message : Bytes) (flags : TransferFlags) (destination : Address)
  | setup (protocol : Int32)
  | family (call : FamilyCall)
  deriving DecidableEq

structure Journal where
  lines : List LogLine
  calls : List CallRecord

namespace Journal

def empty : Journal := ⟨[], []⟩

instance : Inhabited Journal := ⟨empty⟩

def log (j : Journal) (lines : List LogLine) : Journal :=
  { j with lines := j.lines ++ lines }

def record (j : Journal) (calls : List CallRecord) : Journal :=
  { j with calls := j.calls ++ calls }

end Journal

end NetlinkSocket
