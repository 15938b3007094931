import NetlinkSocket.Netlink
import NetlinkSocket.Polling
import NetlinkSocket.Session.Step
import NetlinkSocket.Stub

/-!
A session: named interfaces, the families registered for them, and the sockets, held connections
and poll descriptors in use. Calls that wait stay with the session; they go on when the work
queue of their interface is run, in the order in which they began.
-/

namespace NetlinkSocket

namespace Session

inductive Kind
  | netlink
  | stub (traits : Stub.Options)

structure Held where
  interface : String
  connection : Attachment

inductive Wait
  | receive (semaphore key : Nat) (buffer : Bytes) (sender : Option Bytes)
  | poll (fd : PollDescriptor)

structure Call where
  step : Nat
  socket : Int
  interface : String
  connection : Nat
  wait : Wait

def Call.receives (call : Call) : Bool :=
  match call.wait with
  | .receive .. => true
  | .poll _ => false

end Session

open Session

structure Session where
  build : Build
  kinds : Table String Kind
  registry : Table AddressFamily String
  world : World
  sockets : Table Int (Handle Attachment)
  held : Table Int Held
  descriptors : Table Int PollDescriptor
  semaphores : Table Int Nat
  waiting : List Session.Call

namespace Session

abbrev Answer := Except Obstacle Reply × Session

def start (build : Build) : Session where
  build := build
  kinds := .empty
  registry := .empty
  world := .empty
  sockets := .empty
  held := .empty
  descriptors := .empty
  semaphores := .empty
  waiting := []

def addNetlink (t : Session) (name : String) (limits : Interface.Limits)
    (handlers : List (Protocol × Handler)) : Session :=
  let table := handlers.foldl (fun table h => table.insert h.1 h.2)
    (Netlink.builtinHandlers t.build)
  { t with
    kinds := t.kinds.insert name .netlink
    world := t.world.setNet name (.create limits table) }

def addStub (t : Session) (name : String) (traits : Stub.Options) : Session :=
  { t with kinds := t.kinds.insert name (.stub traits) }

def family (t : Session) (name : String) : Family World Attachment :=
  match t.kinds.get? name with
  | some (.stub traits) => Stub.family traits
  | _ => Netlink.family t.build name

def isNetlink (t : Session) (name : String) : Bool :=
  match t.kinds.get? name with
  | some .netlink => true
  | _ => false

/-! Answers -/

section

variable (t : Session)

def answer (r : Reply) : Answer := (.ok r, t)

def refuse (r : Refusal) : Answer := (.error (.refused r), t)

def settle {α : Type} (reply : α → Reply) (result : Outcome α × World) : Answer :=
  match result with
  | (.ok a, world) => (.ok (reply a), { t with world })
  | (.error stop, world) => (.error (.stopped stop), { t with world })

def settleFilling {α : Type} (reply : α → Reply) (result : Filling α × World) : Answer :=
  match result with
  | (.ok a, world) => (.ok (reply a), { t with world })
  | (.error halt, world) => (.error (.stopped halt.stop halt.buffers), { t with world })

def hasCall (interface : String) (c : Nat) (receives : Bool) : Bool :=
  t.waiting.any fun call =>
    call.interface = interface && call.connection = c && call.receives == receives

/-! What a step refers to, or why it cannot -/

def freshKey (key : Int) : Except Refusal Unit :=
  if t.sockets.has key then .error .keyInUse else .ok ()

def findSocket (key : Int) : Except Refusal (Handle Attachment) :=
  match t.sockets.get? key with
  | none => .error .noSuchSocket
  | some h => .ok h

def findUnpolled (key : Int) : Except Refusal (Handle Attachment) :=
  match t.findSocket key with
  | .error r => .error r
  | .ok h =>
    match Netlink.attached? h with
    | none => .ok h
    | some c => if t.hasCall h.family c false then .error .pollWaiting else .ok h

def findDescriptor (key : Int) : Except Refusal PollDescriptor :=
  match t.descriptors.get? key with
  | none => .error .noSuchDescriptor
  | some fd => .ok fd

def findTarget (target : Target) : Except Refusal (String × Nat) :=
  match target with
  | .socket key =>
    match t.findSocket key with
    | .error r => .error r
    | .ok h =>
      match Netlink.attached? h with
      | none => .error .noConnection
      | some c => .ok (h.family, c)
  | .held key =>
    match t.held.get? key with
    | none => .error .noSuchHeld
    | some ⟨_, .foreign⟩ => .error .noConnection
    | some ⟨interface, .netlink c⟩ => .ok (interface, c)

def findIdleHeld (key : Int) : Except Refusal Held :=
  match t.held.get? key with
  | none => .error .noSuchHeld
  | some held =>
    match held.connection with
    | .foreign => .ok held
    | .netlink c =>
      if t.hasCall held.interface c true || t.hasCall held.interface c false then
        .error .callWaiting
      else .ok held

def whenFound {α : Type} (found : Except Refusal α) (next : α → Answer) : Answer :=
  match found with
  | .error r => t.refuse r
  | .ok a => next a

def withSocket (key : Int) (next : Handle Attachment → Answer) : Answer :=
  t.whenFound (t.findSocket key) next

/-- A step that changes or ends a handle has to wait for the calls on it. -/
def withIdleSocket (key : Int) (next : Handle Attachment → Answer) : Answer :=
  t.withSocket key fun h =>
    if t.waiting.any fun call => call.socket = key then t.refuse .socketInUse else next h

def withDescriptor (key : Int) (next : PollDescriptor → Answer) : Answer :=
  t.whenFound (t.findDescriptor key) next

def withTarget (target : Target) (next : String → Nat → Answer) : Answer :=
  t.whenFound (t.findTarget target) fun (interface, c) => next interface c

def setSocket (key : Int) (h : Handle Attachment) : Session :=
  { t with sockets := t.sockets.insert key h }

def endSocket (key : Int) : Session :=
  { t with sockets := t.sockets.erase key }

def addCall (call : Call) : Session :=
  { t with waiting := t.waiting ++ [call] }

def isHeld (interface : String) (c : Nat) : Bool :=
  (t.sockets.entries.any fun (_, h) => h.family = interface && Netlink.attached? h = some c) ||
    t.held.entries.any fun (_, held) =>
      held.interface = interface && held.connection = .netlink c

/-! Steps -/

def register (domain : Int32) (interface : String) : Answer :=
  match AddressFamily.ofNumber? domain with
  | none => (.error (.stopped (.failed .unknownFamily)), t)
  | some domain =>
    if t.kinds.has interface then
      { t with registry := t.registry.insert domain interface }.answer .done
    else t.refuse .noSuchInterface

def socket (key : Int) (domain type protocol : Int32) : Answer :=
  t.whenFound (t.freshKey key) fun _ =>
    match openSocket t.family t.registry domain type protocol t.world with
    | (.error stop, world) => (.error (.stopped stop), { t with world })
    | (.ok h, world) => ({ t with world }.setSocket key h).answer .done

def duplicate (key fresh : Int) : Answer :=
  t.whenFound (t.freshKey fresh) fun _ =>
    t.withSocket key fun h =>
      match h.duplicate (t.family h.family) t.world with
      | (.error stop, world) => (.error (.stopped stop), { t with world })
      | (.ok h, world) => ({ t with world }.setSocket fresh h).answer .done

def close (key : Int) : Answer :=
  t.withIdleSocket key fun h =>
    (t.endSocket key).settle (fun _ => .done) (h.close (t.family h.family) t.world)

def discard (key : Int) : Answer :=
  t.withIdleSocket key fun h =>
    (t.endSocket key).settle (fun _ => .done) (h.discard (t.family h.family) t.world)

def describe (key : Int) : Answer :=
  t.withSocket key fun h =>
    t.answer <| .description
      { domain := h.domain
        type := h.type
        nonblocking := h.nonblocking
        capabilities := (t.family h.family).capabilities h
        attached := h.connection.isSome
        text := h.text
        connection := (Netlink.attached? h).map (t.world.net h.family).connection }

def setNonblocking (key : Int) (on : Bool) : Answer :=
  t.withIdleSocket key fun h =>
    match h.setNonblocking (t.family h.family) on t.world with
    | (outcome, h, world) => (t.setSocket key h).settle (fun _ => .done) (outcome, world)

def receive (step : Nat) (key : Int) (buffer : Bytes) (flags : TransferFlags)
    (sender : Option Bytes) : Answer :=
  t.withSocket key fun h =>
    let family := t.family h.family
    match Netlink.attached? h with
    | none =>
      match family.receive h buffer flags sender t.world with
      | (.finished outcome, world) => t.settleFilling .received (outcome, world)
      | (.waiting .., world) => { t with world }.answer (.blocked step)
    | some c =>
      if !(h.nonblocking || flags.has .dontWait) && t.hasCall h.family c true then
        t.refuse .receiveWaiting
      else
        match family.receive h buffer flags sender t.world with
        | (.finished outcome, world) => t.settleFilling .received (outcome, world)
        | (.waiting semaphore waitKey, world) =>
          let wait := Wait.receive semaphore waitKey buffer sender
          ({ t with world }.addCall ⟨step, key, h.family, c, wait⟩).answer (.blocked step)

def poll (step : Nat) (key : Int) (events : Events) : Answer :=
  t.withSocket key fun h =>
    let family := t.family h.family
    match Netlink.attached? h with
    | none =>
      match h.poll family events t.world with
      | (.finished outcome, world) => t.settle .reported (outcome, world)
      | (.waiting _, world) => { t with world }.answer (.blocked step)
    | some c =>
      if !(events.has .readable || events.has .writable) then t.refuse .endlessPoll
      else if t.hasCall h.family c false then t.refuse .pollWaiting
      else
        match h.poll family events t.world with
        | (.finished outcome, world) => t.settle .reported (outcome, world)
        | (.waiting fd, world) =>
          ({ t with world }.addCall ⟨step, key, h.family, c, .poll fd⟩).answer (.blocked step)

/-- A descriptor has a slot of its own; its semaphore is shared by all that name it. -/
def descriptor (key : Int) (events : Events) (number : Int) : Answer :=
  let (slot, world) := t.world.newSlot
  match t.semaphores.get? number with
  | some semaphore =>
    { t with
      world
      descriptors := t.descriptors.insert key ⟨events, slot, semaphore⟩
    }.answer .done
  | none =>
    let (semaphore, world) := world.newSemaphore
    { t with
      world
      semaphores := t.semaphores.insert number semaphore
      descriptors := t.descriptors.insert key ⟨events, slot, semaphore⟩
    }.answer .done

def tryWait (key : Int) : Answer :=
  t.withDescriptor key fun fd =>
    match t.world.signals.take? fd.semaphore with
    | none => t.answer (.flag false)
    | some signals => { t with world := { t.world with signals } }.answer (.flag true)

def arm (key fdKey : Int) : Answer :=
  t.withSocket key fun h =>
    t.withDescriptor fdKey fun fd =>
      t.settle (fun _ => .done) ((t.family h.family).arm h fd t.world)

def disarm (key fdKey : Int) : Answer :=
  t.whenFound (t.findUnpolled key) fun h =>
    t.withDescriptor fdKey fun fd =>
      t.settle (fun _ => .done) ((t.family h.family).disarm h fd t.world)

def route (target : Target) (message : Bytes) (flags : TransferFlags) (destination : Address) :
    Answer :=
  match t.build with
  | .bare => t.refuse .notInBuild
  | .withRoute =>
    t.withTarget target fun name c =>
      t.settle .sent (Netlink.callHandler name c Handler.route message flags destination t.world)

def push (target : Target) (message : Bytes) : Answer :=
  t.withTarget target fun name c =>
    { t with world := t.world.setNet name ((t.world.net name).push c message) }.answer .done

def take (target : Target) : Answer :=
  t.withTarget target fun name c =>
    let (message, i) := (t.world.net name).pop? c
    { t with world := t.world.setNet name i }.answer (.message message)

def addReference (target : Target) : Answer :=
  t.withTarget target fun name c =>
    let (counted, i) := (t.world.net name).addReference c
    t.settle (fun _ => .done) (counted.mapError .faulted, t.world.setNet name i)

def hold (key heldKey : Int) : Answer :=
  t.withSocket key fun h =>
    match h.connection with
    | none => t.answer (.flag false)
    | some a => { t with held := t.held.insert heldKey ⟨h.family, a⟩ }.answer (.flag true)

def detach (key heldKey : Int) : Answer :=
  t.withIdleSocket key fun h =>
    match h.connection with
    | none => t.answer (.flag false)
    | some a =>
      ({ t with held := t.held.insert heldKey ⟨h.family, a⟩ }.setSocket key
        { h with connection := none }).answer (.flag true)

def release (heldKey : Int) : Answer :=
  { t with held := t.held.erase heldKey }.answer (.flag (t.held.has heldKey))

def attachTo (key : Int) (a : Attachment) (h : Handle Attachment) : Answer :=
  if h.connection.isSome then t.refuse .alreadyAttached
  else (t.setSocket key { h with connection := some a }).answer .done

def attach (key heldKey : Int) : Answer :=
  t.whenFound (t.findIdleHeld heldKey) fun held =>
    t.withSocket key fun h =>
      if h.family ≠ held.interface then t.refuse .interfaceMismatch
      else t.withIdleSocket key (t.attachTo key held.connection)

def attachForeign (key : Int) : Answer :=
  t.withIdleSocket key (t.attachTo key .foreign)

def setup (key : Int) (protocol : Int32) : Answer :=
  t.withSocket key fun h =>
    if !t.isNetlink h.family then t.refuse .noSuchInterface
    else
      t.withIdleSocket key fun h =>
        if h.connection.isSome then t.refuse .alreadyAttached
        else
          match (t.family h.family).setup h protocol t.world with
          | (outcome, h, world) =>
            ({ t with world }.setSocket key h).settle (fun _ => .done) (outcome, world)

def goOn (call : Call) : Option Ending × Wait × World :=
  match call.wait with
  | .receive semaphore key buffer sender =>
    match Netlink.resume call.interface call.connection semaphore key buffer sender t.world with
    | (.finished outcome, world) => (some (.received outcome), call.wait, world)
    | (.waiting semaphore key, world) => (none, .receive semaphore key buffer sender, world)
  | .poll fd =>
    match t.sockets.get? call.socket with
    | none => (none, call.wait, t.world)
    | some h =>
      match h.awaitPoll (t.family h.family) fd t.world with
      | (.finished outcome, world) => (some (.reported outcome), call.wait, world)
      | (.waiting fd, world) => (none, .poll fd, world)

end

/-- Lets the calls of an interface go on one after the other; gives the ended ones. -/
def wake (t : Session) (interface : String) : List Call → List (Nat × Ending) × Session
  | [] => ([], t)
  | call :: rest =>
    if call.interface ≠ interface then (t.addCall call).wake interface rest
    else
      match t.goOn call with
      | (some ending, _, world) =>
        let (woken, t) := { t with world }.wake interface rest
        ((call.step, ending) :: woken, t)
      | (none, wait, world) => ({ t with world }.addCall { call with wait }).wake interface rest

section

variable (t : Session)

def runWork (interface : String) : Answer :=
  if !t.isNetlink interface then t.refuse .noSuchInterface
  else
    let (count, world) := Netlink.runWork interface (t.isHeld interface) t.world
    let (woken, t) := { t with world, waiting := [] }.wake interface t.waiting
    t.answer (.ran count woken)

def step (number : Nat) : Step → Answer
  | .register domain interface => t.register domain interface
  | .socket key domain type protocol => t.socket key domain type protocol
  | .duplicate key fresh => t.duplicate key fresh
  | .close key => t.close key
  | .discard key => t.discard key
  | .describe key => t.describe key
  | .setNonblocking key on => t.setNonblocking key on
  | .bind key address pid =>
    t.withSocket key fun h =>
      t.settle (fun _ => .done) ((t.family h.family).bind h address pid t.world)
  | .connect key address =>
    t.withSocket key fun h =>
      t.settle (fun _ => .done) ((t.family h.family).connect h address t.world)
  | .name key buffer =>
    t.withSocket key fun h =>
      t.settleFilling (fun r => .name r.1 r.2) ((t.family h.family).name h buffer t.world)
  | .peerName key buffer =>
    t.withSocket key fun h =>
      t.settleFilling (fun r => .name r.1 r.2) ((t.family h.family).peerName h buffer t.world)
  | .listen key backlog =>
    t.withSocket key fun h =>
      t.settle (fun _ => .done) ((t.family h.family).listen h backlog t.world)
  | .accept key buffer =>
    t.withSocket key fun h =>
      t.settleFilling (fun _ => .done) ((t.family h.family).accept h buffer t.world)
  | .send key message flags =>
    t.withSocket key fun h =>
      t.settle .sent ((t.family h.family).send h message flags t.world)
  | .sendTo key message flags destination =>
    t.withSocket key fun h =>
      t.settle .sent ((t.family h.family).sendTo h message flags destination t.world)
  | .route target message flags destination => t.route target message flags destination
  | .receive key buffer flags sender => t.receive number key buffer flags sender
  | .poll key events => t.poll number key events
  | .descriptor key events semaphore => t.descriptor key events semaphore
  | .tryWait key => t.tryWait key
  | .arm key fd => t.arm key fd
  | .disarm key fd => t.disarm key fd
  | .push target message => t.push target message
  | .take target => t.take target
  | .addReference target => t.addReference target
  | .hold key heldKey => t.hold key heldKey
  | .detach key heldKey => t.detach key heldKey
  | .release heldKey => t.release heldKey
  | .attach key heldKey => t.attach key heldKey
  | .attachForeign key => t.attachForeign key
  | .setup key protocol => t.setup key protocol
  | .runWork interface => t.runWork interface

def fresh : Session :=
  { t with world := { t.world with journal := .empty } }

/-- Takes a step; the journal then holds what this step left. -/
def perform (number : Nat) (s : Step) : Answer :=
  t.fresh.step number s

/-! What can be seen after a step -/

def interfaces : List (String × Nat × Nat × Bool) :=
  t.world.nets.entries.map fun (name, i) =>
    (name, i.pool.count, i.notifier.count, i.queue.hasPending)

def connectionOf (interface : String) : Attachment → Option Connection
  | .foreign => none
  | .netlink c => some ((t.world.net interface).connection c)

def socketConnection? (key : Int) : Option (Option Connection) :=
  (t.sockets.get? key).map fun h => h.connection.bind (t.connectionOf h.family)

def heldConnections : List (Int × Option Connection) :=
  t.held.entries.map fun (key, held) => (key, t.connectionOf held.interface held.connection)

def reports : List (Int × Events × Nat) :=
  t.descriptors.entries.map fun (key, fd) =>
    (key, t.world.signals.events fd.slot, t.world.signals.permits fd.semaphore)

end

inductive Verbosity
  | silent
  | warnings
  | everything
  deriving DecidableEq, Repr

def Verbosity.shows : Verbosity → LogLine → Bool
  | silent, _ => false
  | warnings, line => line.level ≠ .debug
  | everything, _ => true

end Session

end NetlinkSocket
