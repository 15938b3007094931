import NetlinkSocket.Journal
import NetlinkSocket.Signals
import NetlinkSocket.Table

/-!
Sockets of any address family. A family supplies a table of operations on its own state; a
handle knows which family it belongs to and which connection, if any, is attached to it. Handles
made by duplication share their connection.
-/

namespace NetlinkSocket

structure Handle (κ : Type) where
  domain : AddressFamily
  type : SocketType
  flags : SocketFlags
  family : String
  connection : Option κ

namespace Handle

variable {κ : Type}

def nonblocking (h : Handle κ) : Bool :=
  h.flags.has .nonblocking

def text (h : Handle κ) : String :=
  "Socket \x7b domain: " ++ h.domain.name ++ ", sock_type: " ++ h.type.name ++ ", flags: " ++
    h.flags.text ++ ", is_open: " ++ toString h.connection.isSome ++ ", .. \x7d"

end Handle

/-- A message received: how much of it fitted, the buffer it is in, and the sender's address as
written to the buffer for it. -/
structure Received where
  count : Nat
  buffer : Bytes
  sender : Option (Nat × Bytes)
  deriving DecidableEq, Repr

structure Halt where
  stop : Stop
  buffers : List Bytes
  deriving DecidableEq, Repr

abbrev Filling (α : Type) := Except Halt α

def halts {α σ : Type} (f : Failure) (buffers : List Bytes) (s : σ) : Filling α × σ :=
  (.error ⟨.failed f, buffers⟩, s)

/-- A receive call either is over or waits for its semaphore under a registration's key. -/
inductive Reception
  | finished (outcome : Filling Received)
  | waiting (semaphore key : Nat)

structure Family (σ κ : Type) where
  setup : Handle κ → Int32 → σ → Outcome Unit × Handle κ × σ
  capabilities : Handle κ → Capabilities
  addReference : Handle κ → σ → Outcome Unit × σ
  bind : Handle κ → Bytes → UInt32 → σ → Outcome Unit × σ
  name : Handle κ → Bytes → σ → Filling (Nat × Bytes) × σ
  peerName : Handle κ → Bytes → σ → Filling (Nat × Bytes) × σ
  listen : Handle κ → Int32 → σ → Outcome Unit × σ := fun _ _ => fails .listenUnsupported
  connect : Handle κ → Bytes → σ → Outcome Unit × σ
  accept : Handle κ → Option Bytes → σ → Filling (Handle κ × Option (Nat × Bytes)) × σ :=
    fun _ buffer => halts .acceptUnsupported buffer.toList
  arm : Handle κ → PollDescriptor → σ → Outcome Unit × σ
  disarm : Handle κ → PollDescriptor → σ → Outcome Unit × σ
  send : Handle κ → Bytes → TransferFlags → σ → Outcome Nat × σ
  sendTo : Handle κ → Bytes → TransferFlags → Bytes → σ → Outcome Nat × σ
  receive : Handle κ → Bytes → TransferFlags → Option Bytes → σ → Reception × σ
  close : Handle κ → σ → Outcome Unit × Handle κ × σ
  log : LogLine → σ → σ

namespace Handle

variable {σ κ : Type}

def setNonblocking (family : Family σ κ) (h : Handle κ) (on : Bool) (s : σ) :
    Outcome Unit × Handle κ × σ :=
  if (family.capabilities h).has .nonblocking then
    (.ok (), { h with flags := h.flags.assign .nonblocking on }, s)
  else fails .blockingOnly (h, s)

def duplicate (family : Family σ κ) (h : Handle κ) (s : σ) : Outcome (Handle κ) × σ :=
  match h.connection with
  | none => fails .notOpen s
  | some _ =>
    match family.addReference h s with
    | (.error stop, s) => (.error stop, s)
    | (.ok (), s) => (.ok h, s)

/-- The end of a handle: what is still attached is closed, and a failure to do so is only
logged. -/
def discard (family : Family σ κ) (h : Handle κ) (s : σ) : Outcome Unit × σ :=
  match h.connection with
  | none => (.ok (), s)
  | some _ =>
    match family.close h s with
    | (.ok (), _, s) => (.ok (), s)
    | (.error (.failed failure), _, s) => (.ok (), family.log (.discardFailed failure) s)
    | (.error (.faulted fault), _, s) => (.error (.faulted fault), s)

def close (family : Family σ κ) (h : Handle κ) (s : σ) : Outcome Unit × σ :=
  match family.close h s with
  | (outcome, h, s) =>
    match discard family h s with
    | (.error stop, s) => (.error stop, s)
    | (.ok (), s) => (outcome, s)

end Handle

/-- Creates a socket as the call of that name does. A handle whose setup fails ends at once. -/
def openSocket {σ κ : Type} (families : String → Family σ κ)
    (registry : Table AddressFamily String) (domain type protocol : Int32) (s : σ) :
    Outcome (Handle κ) × σ :=
  match AddressFamily.ofNumber? domain with
  | none => fails .unknownFamily s
  | some domain =>
    match registry.get? domain with
    | none => fails .unregisteredFamily s
    | some name =>
      match SocketType.ofNumber? (type &&& SocketType.mask) with
      | none => fails .unknownSocketType s
      | some kind =>
        let flags := Flags.truncate (type &&& ~~~SocketType.mask).toBitVec
        let family := families name
        let s := family.log (.socketRequested domain kind flags protocol) s
        match family.setup ⟨domain, kind, flags, name, none⟩ protocol s with
        | (.ok (), h, s) => (.ok h, s)
        | (.error stop, h, s) =>
          match h.discard family s with
          | (.error later, s) => (.error later, s)
          | (.ok (), s) => (.error stop, s)

end NetlinkSocket
