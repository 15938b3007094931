import NetlinkSocket.Address
import NetlinkSocket.Protocol

/-!
The state that all handles of one netlink socket share. Handles own it by a reference count of
eight bits, and the last one to go resets it.
-/

namespace NetlinkSocket

/-- A poll that waits to be told of a response: where to report it, what to post, and the key of
its registration. -/
structure ArmedPoll where
  slot : Nat
  semaphore : Nat
  key : Nat
  deriving DecidableEq, Repr

structure Connection where
  id : ConnectionId
  protocol : Protocol
  name : Address
  peer : Address
  references : Nat
  armed : Option ArmedPoll
  responses : List Bytes
  deriving DecidableEq, Repr, Inhabited

namespace Connection

def maxReferences : Nat := 255

def fresh (id : ConnectionId) (protocol : Protocol) : Connection where
  id := id
  protocol := protocol
  name := .unspecified
  peer := .unspecified
  references := 1
  armed := none
  responses := []

def shareable (k : Connection) : Bool :=
  0 < k.references && k.references < maxReferences

def addReference (k : Connection) : Except Fault Unit × Connection :=
  if k.shareable then (.ok (), { k with references := k.references + 1 })
  else (.error (.referenceCount k.references k.id), k)

theorem addReference_eq_error {k later : Connection} {fault : Fault} :
    k.addReference = (.error fault, later) ↔
      k.shareable = false ∧ fault = .referenceCount k.references k.id ∧ later = k := by
  unfold addReference
  cases k.shareable
  · simp [eq_comm]
  · simp

/-- The address a caller binds to; without a portId it gets the caller's process number. -/
def boundAddress (a : Address) (pid : UInt32) : Address :=
  if a.portId = Address.unspecifiedPort then { a with portId := pid } else a

def text (k : Connection) : String :=
  "NetlinkConn \x7b id: " ++ k.id.text ++ ", protocol: " ++ k.protocol.name ++ ", .. \x7d"

end Connection

end NetlinkSocket
