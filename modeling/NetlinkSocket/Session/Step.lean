import NetlinkSocket.Family

/-!
The steps of a session and what they answer. Sockets, held connections and poll descriptors are
known by keys of the caller's choice.
-/

namespace NetlinkSocket.Session

inductive Target
  | socket (key : Int)
  | held (key : Int)
  deriving DecidableEq, Repr

inductive Step
  | register (domain : Int32) (interface : String)
  | socket (key : Int) (domain type protocol : Int32)
  | duplicate (socket key : Int)
  | close (socket : Int)
  | discard (socket : Int)
  | describe (socket : Int)
  | setNonblocking (socket : Int) (on : Bool)
  | bind (socket : Int) (address : Bytes) (pid : UInt32)
  | connect (socket : Int) (address : Bytes)
  | name (socket : Int) (buffer : Bytes)
  | peerName (socket : Int) (buffer : Bytes)
  | listen (socket : Int) (backlog : Int32)
  | accept (socket : Int) (buffer : Option Bytes)
  | send (socket : Int) (message : Bytes) (flags : TransferFlags)
  | sendTo (socket : Int) (message : Bytes) (flags : TransferFlags) (destination : Bytes)
  | route (target : Target) (message : Bytes) (flags : TransferFlags) (destination : Address)
  | receive (socket : Int) (buffer : Bytes) (flags : TransferFlags) (sender : Option Bytes)
  | poll (socket : Int) (events : Events)
  | descriptor (key : Int) (events : Events) (semaphore : Int)
  | tryWait (descriptor : Int)
  | arm (socket descriptor : Int)
  | disarm (socket descriptor : Int)
  | push (target : Target) (message : Bytes)
  | take (target : Target)
  | addReference (target : Target)
  | hold (socket key : Int)
  | detach (socket key : Int)
  | release (key : Int)
  | attach (socket key : Int)
  | attachForeign (socket : Int)
  | setup (socket : Int) (protocol : Int32)
  | runWork (interface : String)

inductive Refusal
  | noSuchSocket
  | keyInUse
  | noSuchDescriptor
  | noSuchHeld
  | noSuchInterface
  | noConnection
  | socketInUse
  | receiveWaiting
  | pollWaiting
  | endlessPoll
  | callWaiting
  | interfaceMismatch
  | alreadyAttached
  | notInBuild
  deriving DecidableEq, Repr

def Refusal.text : Refusal → String
  | noSuchSocket => "no such socket"
  | keyInUse => "slot is in use"
  | noSuchDescriptor => "no such fd"
  | noSuchHeld => "no such held connection"
  | noSuchInterface => "no such interface"
  | noConnection => "no netlink connection"
  | socketInUse => "socket is in use"
  | receiveWaiting => "a receive call is waiting"
  | pollWaiting => "a poll call is waiting"
  | endlessPoll => "the poll would never end"
  | callWaiting => "a call is waiting"
  | interfaceMismatch => "interface mismatch"
  | alreadyAttached => "already attached"
  | notInBuild => "unknown op"

/-- Why a step has no reply. A call that was made and stopped leaves something in the buffers it
was given. -/
inductive Obstacle
  | refused (refusal : Refusal)
  | stopped (stop : Stop) (buffers : List Bytes := [])
  deriving DecidableEq, Repr

structure Description where
  domain : AddressFamily
  type : SocketType
  nonblocking : Bool
  capabilities : Capabilities
  attached : Bool
  text : String
  connection : Option Connection

inductive Ending
  | received (outcome : Filling Received)
  | reported (outcome : Outcome Events)

inductive Reply
  | done
  | flag (b : Bool)
  | description (d : Description)
  | name (length : Nat) (buffer : Bytes)
  | sent (count : Nat)
  | received (r : Received)
  | reported (events : Events)
  | blocked (step : Nat)
  | message (m : Option Bytes)
  | ran (count : Nat) (woken : List (Nat × Ending))

end NetlinkSocket.Session
