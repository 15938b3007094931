import NetlinkSocket.World

/-!
The netlink family: the operations of sockets on the connections of one interface.
-/

namespace NetlinkSocket.Netlink

def attached? (h : Handle Attachment) : Option Nat :=
  match h.connection with
  | some (.netlink c) => some c
  | _ => none

section

variable (name : String)

/-- Builds may leave the protocol out; then the domain and the type are not looked at. -/
def setup (build : Build) (h : Handle Attachment) (number : Int32) (w : World) :
    Outcome Unit × Handle Attachment × World :=
  match Protocol.ofNumber? number with
  | none => (.error (.failed .unknownProtocol), h, w)
  | some protocol =>
    if !build.contains protocol then (.error (.failed .protocolNotBuilt), h, w)
    else if h.domain ≠ .netlink || (h.type ≠ .raw && h.type ≠ .datagram) then
      (.error (.failed .kindUnsupported), h, w)
    else
      match (w.net name).open? protocol with
      | (none, i) => (.error (.failed .connectionsExhausted), h, w.setNet name i)
      | (some c, i) =>
        (.ok (), { h with connection := some (.netlink c) },
          (w.setNet name i).log [.connectionReady (i.connection c)])

def addReference (h : Handle Attachment) (w : World) : Outcome Unit × World :=
  match attached? h with
  | none => (.error (.faulted .duplicatedWithoutConnection), w)
  | some c =>
    let (counted, i) := (w.net name).addReference c
    (counted.mapError .faulted, w.setNet name i)

def bind (h : Handle Attachment) (address : Bytes) (pid : UInt32) (w : World) :
    Outcome Unit × World :=
  match attached? h with
  | none => fails .noConnection w
  | some c =>
    match Address.decode address with
    | .error failure => fails failure w
    | .ok a =>
      (.ok (), w.setNet name ((w.net name).update c fun k =>
        { k with name := Connection.boundAddress a pid }))

def connect (h : Handle Attachment) (address : Bytes) (w : World) : Outcome Unit × World :=
  match attached? h with
  | none => fails .noConnection w
  | some c =>
    match Address.decode address with
    | .error failure => fails failure w
    | .ok a => (.ok (), w.setNet name ((w.net name).update c fun k => { k with peer := a }))

def ownName (h : Handle Attachment) (buffer : Bytes) (w : World) :
    Filling (Nat × Bytes) × World :=
  match attached? h with
  | none => halts .noConnection [buffer] w
  | some c => (.ok (((w.net name).connection c).name.writeTo buffer), w)

def peerName (h : Handle Attachment) (buffer : Bytes) (w : World) :
    Filling (Nat × Bytes) × World :=
  match attached? h with
  | none => halts .noConnection [buffer] w
  | some c => (.ok (((w.net name).connection c).peer.writeTo buffer), w)

def arm (h : Handle Attachment) (fd : PollDescriptor) (w : World) : Outcome Unit × World :=
  match attached? h with
  | none => fails .noConnection w
  | some c =>
    match (w.net name).arm w.signals c fd with
    | (.error (line, failure), i, signals) =>
      fails failure ({ w.setNet name i with signals }.log [line])
    | (.ok (), i, signals) => (.ok (), { w.setNet name i with signals })

def disarm (h : Handle Attachment) (w : World) : Outcome Unit × World :=
  match attached? h with
  | none => fails .noConnection w
  | some c => (.ok (), w.setNet name ((w.net name).disarm c))

def callHandler (c : Nat) (handler : Handler) (message : Bytes) (flags : TransferFlags)
    (destination : Address) (w : World) : Outcome Nat × World :=
  let answered := handler ⟨(w.net name).connection c, message, flags, destination⟩
  let w := (w.log answered.lines).record answered.calls
  (answered.result.mapError .failed,
    w.setNet name ((w.net name).pushAll c answered.replies))

def transmit (c : Nat) (message : Bytes) (flags : TransferFlags) (destination : Address)
    (w : World) : Outcome Nat × World :=
  match Header.parse message with
  | .error failure => fails failure w
  | .ok header =>
    let protocol := ((w.net name).connection c).protocol
    let w := w.log [.sending protocol header]
    match (w.net name).handlers.get? protocol with
    | none => fails .noHandler w
    | some handler => callHandler name c handler message flags destination w

def send (h : Handle Attachment) (message : Bytes) (flags : TransferFlags) (w : World) :
    Outcome Nat × World :=
  match attached? h with
  | none => fails .noConnection w
  | some c => transmit name c message flags ((w.net name).connection c).peer w

def sendTo (h : Handle Attachment) (message : Bytes) (flags : TransferFlags)
    (destination : Bytes) (w : World) : Outcome Nat × World :=
  match attached? h with
  | none => fails .noConnection w
  | some c =>
    match Address.decode destination with
    | .error failure => fails failure w
    | .ok a => transmit name c message flags a w

def handOver (peer : Address) (message buffer : Bytes) (sender : Option Bytes) : Received where
  count := min buffer.length message.length
  buffer := Bytes.overwrite buffer message
  sender := sender.map peer.writeTo

/-- One turn of a reader that is prepared to wait. It brings a semaphore of its own, which goes
with it unless it is registered. -/
def turn (c : Nat) (buffer : Bytes) (sender : Option Bytes) (w : World) : Reception × World :=
  let (semaphore, w) := w.newSemaphore
  match (w.net name).enter c semaphore with
  | .took message i =>
    (.finished (.ok (handOver (i.connection c).peer message buffer sender)),
      (w.setNet name i).dropSemaphore semaphore)
  | .registered key i => (.waiting semaphore key, w.setNet name i)
  | .refused failure i =>
    (.finished (.error ⟨.failed .waitFailed, buffer :: sender.toList⟩),
      ((w.setNet name i).dropSemaphore semaphore).log [.waitNotSetUp failure, .waitEnded])

def receive (h : Handle Attachment) (buffer : Bytes) (flags : TransferFlags)
    (sender : Option Bytes) (w : World) : Reception × World :=
  match attached? h with
  | none => (.finished (.error ⟨.failed .noConnection, buffer :: sender.toList⟩), w)
  | some c =>
    match (w.net name).pop? c with
    | (some message, i) =>
      (.finished (.ok (handOver (i.connection c).peer message buffer sender)), w.setNet name i)
    | (none, i) =>
      let w := w.setNet name i
      if h.nonblocking || flags.has .dontWait then
        (.finished (.error ⟨.failed .nothingQueued, buffer :: sender.toList⟩), w)
      else turn name c buffer sender w

def resume (c semaphore key : Nat) (buffer : Bytes) (sender : Option Bytes) (w : World) :
    Reception × World :=
  match w.signals.take? semaphore with
  | none => (.waiting semaphore key, w)
  | some signals =>
    turn name c buffer sender
      ({ w with signals }.setNet name ((w.net name).withdraw key))

/-- Takes the connection off the handle first, whatever becomes of it. -/
def close (h : Handle Attachment) (w : World) : Outcome Unit × Handle Attachment × World :=
  let closed := { h with connection := none }
  match h.connection with
  | none => (.error (.failed .alreadyClosed), closed, w)
  | some .foreign => (.error (.failed .noConnection), closed, w)
  | some (.netlink c) =>
    match (w.net name).release c with
    | .error fault => (.error (.faulted fault), closed, w)
    | .ok (lines, i) => (.ok (), closed, (w.setNet name i).log lines)

def runWork (isHeld : Nat → Bool) (w : World) : Nat × World :=
  let (count, lines, i, signals) := (w.net name).drain w.signals isHeld
  (count, { (w.setNet name i).log lines with signals })

end

def family (build : Build) (name : String) : Family World Attachment where
  setup := setup name build
  capabilities _ := Flags.single .nonblocking
  addReference := addReference name
  bind := bind name
  name := ownName name
  peerName := peerName name
  connect := connect name
  arm := arm name
  disarm h _ := disarm name h
  send := send name
  sendTo := sendTo name
  receive := receive name
  close := close name
  log line w := w.log [line]

def builtinHandlers : Build → Table Protocol Handler
  | .withRoute => Table.empty.insert .route Handler.route
  | .bare => .empty

end NetlinkSocket.Netlink
