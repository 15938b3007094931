import NetlinkSocket.Session

/-!
Calls cut at the points where other threads may act. A call stands at a stage, and each stage is
followed by one critical section. A call that nobody interrupts does what the netlink family does
in one go.
-/

namespace NetlinkSocket

inductive Sink
  | buffers (buffer : Bytes) (sender : Option Bytes)
  | direct

inductive Result
  | received (outcome : Filling Received)
  | message (m : Option Bytes)
  | reported (outcome : Outcome Events)
  | sent (outcome : Outcome Nat)

/-- What a call has done so far, and so which of its sections is next. A reader that is `woken`
withdraws its registration and enters anew; one with a message in hand looks up the peer. A poll
call that is `posted` tears its poll down, and then reads its slot. -/
inductive Stage
  | entering (sink : Sink)
  | sleeping (sink : Sink) (semaphore key : Nat)
  | woken (sink : Sink) (key : Nat)
  | handing (message buffer : Bytes) (sender : Option Bytes)
  | polling (fd : PollDescriptor)
  | posted (fd : PollDescriptor)
  | disarmed (fd : PollDescriptor)
  | replying (replies : List Bytes) (outcome : Outcome Nat)
  | ended (result : Result)

namespace Stage

def isEnded : Stage → Bool
  | ended _ => true
  | _ => false

/-- The semaphore nobody but this call and those who wake it know of. -/
def semaphore? : Stage → Option Nat
  | sleeping _ semaphore _ => some semaphore
  | polling fd => some fd.semaphore
  | _ => none

def waits : Stage → Bool
  | sleeping .. => true
  | woken .. => true
  | polling _ => true
  | _ => false

end Stage

structure Call where
  socket : Option Int
  interface : String
  connection : Nat
  stage : Stage

def Call.borrows (call : Call) (key : Int) : Bool :=
  call.socket = some key && !call.stage.isEnded

/-- A send is bound for the address it is given, or else for the peer of its connection. -/
inductive Connection.Destined (k : Connection) : Option Bytes → Address → Prop
  | peer : Destined k none k.peer
  | given {bytes : Bytes} {goal : Address} : Address.decode bytes = .ok goal →
      Destined k (some bytes) goal

namespace Netlink

/-! The critical sections of a reader and of a handler -/

inductive Entered
  | took (message : Bytes)
  | registered (semaphore key : Nat)
  | refused

def enter (name : String) (c : Nat) (w : World) : Entered × World :=
  let (semaphore, w) := w.newSemaphore
  match (w.net name).enter c semaphore with
  | .took message i => (.took message, (w.setNet name i).dropSemaphore semaphore)
  | .registered key i => (.registered semaphore key, w.setNet name i)
  | .refused failure i =>
    (.refused, ((w.setNet name i).dropSemaphore semaphore).log [.waitNotSetUp failure])

def consult (name : String) (c : Nat) (handler : Handler) (message : Bytes)
    (flags : TransferFlags) (destination : Address) (w : World) :
    (List Bytes × Outcome Nat) × World :=
  let answered := handler ⟨(w.net name).connection c, message, flags, destination⟩
  ((answered.replies, answered.result.mapError .failed),
    (w.log answered.lines).record answered.calls)

def dispatch (name : String) (c : Nat) (message : Bytes) (flags : TransferFlags)
    (destination : Address) (w : World) : Except Failure (List Bytes × Outcome Nat) × World :=
  match Header.parse message with
  | .error failure => (.error failure, w)
  | .ok header =>
    let protocol := ((w.net name).connection c).protocol
    let w := w.log [.sending protocol header]
    match (w.net name).handlers.get? protocol with
    | none => (.error .noHandler, w)
    | some handler =>
      let (answer, w) := consult name c handler message flags destination w
      (.ok answer, w)

def destinationOf (name : String) (c : Nat) (destination : Option Bytes) (w : World) :
    Except Failure Address :=
  match destination with
  | none => .ok ((w.net name).connection c).peer
  | some bytes => Address.decode bytes

variable {name : String} {c : Nat}

theorem destinationOf_eq_ok {destination : Option Bytes} {goal : Address} {w : World} :
    destinationOf name c destination w = .ok goal ↔
      ((w.net name).connection c).Destined destination goal := by
  cases destination with
  | none =>
    constructor
    · rintro ⟨⟩
      exact .peer
    · rintro ⟨⟩
      rfl
  | some bytes =>
    constructor
    · exact .given
    · rintro ⟨⟩
      assumption

theorem destinationOf_eq_getD (destination : Option Bytes) (w : World) :
    destinationOf name c destination w =
      (destination.map Address.decode).getD (.ok ((w.net name).connection c).peer) := by
  cases destination <;> rfl

theorem destinationOf_eq_error {destination : Option Bytes} {failure : Failure} {w : World} :
    destinationOf name c destination w = .error failure ↔
      ∃ bytes, destination = some bytes ∧ Address.decode bytes = .error failure := by
  cases destination <;> simp [destinationOf]

theorem log_log (w : World) (xs ys : List LogLine) : (w.log xs).log ys = w.log (xs ++ ys) := by
  simp [World.log, Journal.log]

theorem turn_eq_enter (buffer : Bytes) (sender : Option Bytes) (w : World) :
    turn name c buffer sender w =
      match enter name c w with
      | (.took message, w) =>
        (.finished (.ok (handOver ((w.net name).connection c).peer message buffer sender)), w)
      | (.registered semaphore key, w) => (.waiting semaphore key, w)
      | (.refused, w) =>
        (.finished (.error ⟨.failed .waitFailed, buffer :: sender.toList⟩), w.log [.waitEnded]) := by
  simp only [turn, enter, World.net_newSemaphore]
  cases (w.net name).enter c w.newSemaphore.1 <;> simp [log_log]

theorem callHandler_eq_consult (handler : Handler) (message : Bytes) (flags : TransferFlags)
    (destination : Address) (w : World) :
    callHandler name c handler message flags destination w =
      match consult name c handler message flags destination w with
      | ((replies, outcome), w) =>
        (outcome, w.setNet name ((w.net name).pushAll c replies)) := rfl

theorem transmit_eq_dispatch (message : Bytes) (flags : TransferFlags) (destination : Address)
    (w : World) :
    transmit name c message flags destination w =
      match dispatch name c message flags destination w with
      | (.error failure, w) => fails failure w
      | (.ok (replies, outcome), w) =>
        (outcome, w.setNet name ((w.net name).pushAll c replies)) := by
  unfold transmit dispatch
  cases Header.parse message with
  | error failure => rfl
  | ok header =>
    simp only [World.net_log]
    cases (w.net name).handlers.get? ((w.net name).connection c).protocol with
    | none => rfl
    | some handler => rfl

end Netlink

namespace Handle

variable {κ : Type}

def setUpPoll (family : Family World κ) (h : Handle κ) (events : Events) (w : World) :
    Outcome PollDescriptor × World :=
  let (slot, w) := w.newSlot
  let (semaphore, w) := w.newSemaphore
  let fd : PollDescriptor := ⟨events, slot, semaphore⟩
  match family.arm h fd w with
  | (.error stop, w) => (.error stop, w.dropDescriptor fd)
  | (.ok (), w) => (.ok fd, w)

theorem poll_eq_setUpPoll (family : Family World κ) (h : Handle κ) (events : Events)
    (w : World) :
    h.poll family events w =
      match h.setUpPoll family events w with
      | (.error stop, w) => (.finished (.error stop), w)
      | (.ok fd, w) => h.awaitPoll family fd w := by
  rcases armed : family.arm h ⟨events, w.newSlot.1, w.newSlot.2.newSemaphore.1⟩
      w.newSlot.2.newSemaphore.2 with ⟨stop | _, later⟩ <;>
    simp [poll, setUpPoll, armed]

end Handle

end NetlinkSocket
