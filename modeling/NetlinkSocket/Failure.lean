import NetlinkSocket.Connection.Id
import NetlinkSocket.Errno

/-!
Why a call does not return normally. A failure is an error handed to the caller; a fault is a
violated assertion about the ownership of a connection.
-/

namespace NetlinkSocket

inductive Failure
  | unknownFamily
  | unregisteredFamily
  | unknownSocketType
  | notOpen
  | alreadyClosed
  | noConnection
  | blockingOnly
  | listenUnsupported
  | acceptUnsupported
  | unknownProtocol
  | protocolNotBuilt
  | kindUnsupported
  | connectionsExhausted
  | unknownSegmentType
  | addressTooShort
  | addressOfOtherFamily
  | headerTruncated
  | lengthBelowHeader
  | lengthBeyondBuffer
  | noHandler
  | nothingQueued
  | waitFailed
  | pollAlreadyArmed
  | slotsExhausted
  | closeRefused
  | bare (errno : Errno)
  deriving DecidableEq, Repr

namespace Failure

def errno : Failure → Errno
  | unknownFamily | unregisteredFamily | addressOfOtherFamily => .familyUnsupported
  | notOpen | alreadyClosed | noConnection => .badDescriptor
  | blockingOnly | listenUnsupported | acceptUnsupported | noHandler => .operationUnsupported
  | unknownProtocol | protocolNotBuilt | kindUnsupported => .protocolUnsupported
  | connectionsExhausted | slotsExhausted => .outOfMemory
  | unknownSocketType | unknownSegmentType | addressTooShort | headerTruncated
  | lengthBelowHeader | lengthBeyondBuffer => .invalidArgument
  | nothingQueued => .tryAgain
  | waitFailed => .brokenPipe
  | pollAlreadyArmed | closeRefused => .busy
  | bare errno => errno

def message : Failure → Option String
  | unknownFamily => "the address family is not supported"
  | unregisteredFamily => "no socket family is registered for the domain"
  | unknownSocketType => "the socket type is invalid"
  | notOpen => "the socket is not open"
  | alreadyClosed => "the socket is already closed"
  | noConnection => "the socket has no netlink connection"
  | blockingOnly => "the socket cannot be set to non-blocking mode"
  | listenUnsupported => "listen() is not supported"
  | acceptUnsupported => "accept() is not supported"
  | unknownProtocol => "the netlink protocol is unknown"
  | protocolNotBuilt => "the netlink protocol is not supported"
  | kindUnsupported => "netlink sockets must be raw or datagram sockets"
  | connectionsExhausted => "no netlink connection is available"
  | unknownSegmentType => "the segment type is unknown"
  | addressTooShort => "the netlink address is too short"
  | addressOfOtherFamily => "the address is in an unsupported address family"
  | headerTruncated => "the message is shorter than its header"
  | lengthBelowHeader => "the message length is too small"
  | lengthBeyondBuffer => "the message length exceeds the buffer"
  | noHandler => "the netlink protocol has no handler"
  | nothingQueued => "no netlink response is queued"
  | waitFailed => "no netlink response is available"
  | pollAlreadyArmed => "a poll is already armed on the socket"
  | slotsExhausted => "no notification slot is available"
  | closeRefused => "close is refused"
  | bare _ => none

def text (f : Failure) : String :=
  f.errno.describe f.message

end Failure

inductive Fault
  | referenceCount (count : Nat) (id : ConnectionId)
  | releasedTwice (id : ConnectionId)
  | duplicatedWithoutConnection
  deriving DecidableEq, Repr

def Fault.text : Fault → String
  | .referenceCount count id =>
    "invalid reference count " ++ toString count ++ " on netlink connection " ++ id.text
  | .releasedTwice id => "netlink connection " ++ id.text ++ " is released twice"
  | .duplicatedWithoutConnection => "duplicating a socket without a netlink connection"

inductive Stop
  | failed (failure : Failure)
  | faulted (fault : Fault)
  deriving DecidableEq, Repr

/-- What a call gives back, beside the state it leaves. -/
abbrev Outcome (α : Type) := Except Stop α

def fails {α σ : Type} (f : Failure) (s : σ) : Outcome α × σ :=
  (.error (.failed f), s)

end NetlinkSocket
