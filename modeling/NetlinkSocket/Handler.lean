import NetlinkSocket.Journal
import NetlinkSocket.Message.Reply

/-!
Payload handlers. A handler sees one message sent on a connection; it answers with responses to
queue on that connection and with the result of the send.
-/

namespace NetlinkSocket

structure Delivery where
  connection : Connection
  message : Bytes
  flags : TransferFlags
  destination : Address

structure Answered where
  result : Except Failure Nat
  replies : List Bytes
  lines : List LogLine := []
  calls : List CallRecord := []

abbrev Handler := Delivery → Answered

namespace Handler

def isDump (h : Header) : Bool :=
  match SegmentType.ofNumber? h.type with
  | some type => type.isGet && h.flags.has .dump
  | none => false

def routeReply (h : Header) (portId : UInt32) : Bytes :=
  if isDump h then h.doneReply portId else h.errorReply portId .operationUnsupported

/-- There are no links, addresses or routes to tell of: a dump gets an empty list and any other
request is refused. -/
def route : Handler := fun d =>
  match Header.parse d.message with
  | .error f => { result := .error f, replies := [] }
  | .ok h =>
    let portId := d.connection.name.portId
    let reply := routeReply h portId
    { result := .ok h.length.toNat
      replies := [reply]
      lines := [.routeRequest h d.destination, .routeReply reply.length portId] }

/-- How a scripted handler ends: it takes the message whole unless told otherwise. -/
inductive Ending
  | whole
  | count (n : Nat)
  | failure (errno : Errno)

def scripted (replies : List Bytes) (ending : Ending) : Handler := fun d =>
  { result := match ending with
      | .whole => .ok d.message.length
      | .count n => .ok n
      | .failure errno => .error (.bare errno)
    replies := replies
    calls := [.payload d.connection.id d.message d.flags d.destination] }

end Handler

end NetlinkSocket
