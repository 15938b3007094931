import Mathlib.Logic.Function.Basic
import NetlinkSocket.Proofs.Interleaving.Concurrent

/-!
What one action can do. A view leaves out the journal and the registry, on which nothing else
depends, and `Move` lists all changes an action can make to it.
-/

namespace NetlinkSocket

structure View where
  net : String → Interface
  signals : Signals
  kinds : Table String Session.Kind
  waiting : List Session.Call
  sockets : Table Int (Handle Attachment)
  held : Table Int Session.Held
  descriptors : Table Int PollDescriptor
  semaphores : Table Int Nat
  calls : List Call
  taken : List (String × Nat × Wakeup)

namespace Concurrent

def view (t : Concurrent) : View where
  net := t.net
  signals := t.signals
  kinds := t.session.kinds
  waiting := t.session.waiting
  sockets := t.session.sockets
  held := t.session.held
  descriptors := t.session.descriptors
  semaphores := t.session.semaphores
  calls := t.calls
  taken := t.taken

end Concurrent

namespace View

variable (v : View)

def setNet (name : String) (i : Interface) : View :=
  { v with net := Function.update v.net name i }

def isBorrowed (key : Int) : Bool :=
  v.calls.any fun call => call.borrows key

def isHeld (name : String) (c : Nat) : Bool :=
  ((v.sockets.entries.any fun (_, h) => h.family = name && Netlink.attached? h = some c) ||
    v.held.entries.any fun (_, held) =>
      held.interface = name && held.connection = .netlink c) ||
    v.calls.any fun call => !call.stage.isEnded && call.interface = name && call.connection = c

def Attached (key : Int) (h : Handle Attachment) (c : Nat) : Prop :=
  v.sockets.get? key = some h ∧ Netlink.attached? h = some c

def Reaches : Session.Target → String → Nat → Prop
  | .socket key, name, c => ∃ h, v.Attached key h c ∧ h.family = name
  | .held key, name, c => v.held.get? key = some ⟨name, .netlink c⟩

def Offers : Option Int → String → Nat → Prop
  | some key, name, c => ∃ h, v.Attached key h c ∧ h.family = name
  | none, name, c => ∃ target, v.Reaches target name c

end View

open Concurrent (Action)

namespace View

/-- A poll is torn down on a connection, by a step or by a poll call that has its permit. -/
inductive TearsDown (v : View) (name : String) (c : Nat) : Action → Prop
  | step {key fdKey : Int} {h : Handle Attachment} {fd : PollDescriptor} :
      v.Attached key h c → h.family = name → v.descriptors.get? fdKey = some fd →
      TearsDown v name c (.step (.disarm key fdKey))
  | call {n : Nat} {call : Call} {fd : PollDescriptor} {key : Int} {h : Handle Attachment} :
      v.calls[n]? = some call → call.stage = .posted fd → call.socket = some key →
      v.Attached key h c → h.family = name → TearsDown v name c (.goOn n)

inductive Renames (v : View) (name : String) (c : Nat) :
    Session.Step → (Connection → Connection) → Prop
  | bind {key : Int} {h : Handle Attachment} {address : Bytes} {pid : UInt32} {given : Address} :
      v.Attached key h c → h.family = name → Address.decode address = .ok given →
      Renames v name c (.bind key address pid) fun k =>
        { k with name := Connection.boundAddress given pid }
  | connect {key : Int} {h : Handle Attachment} {address : Bytes} {given : Address} :
      v.Attached key h c → h.family = name → Address.decode address = .ok given →
      Renames v name c (.connect key address) fun k => { k with peer := given }

/-- The handle that holds the only reference of a connection is closed or dropped. -/
def EndsLast (v : View) (name : String) (c : Nat) (a : Action) : Prop :=
  ∃ s key h, a = .step s ∧ (s = .close key ∨ s = .discard key) ∧ v.isBorrowed key = false ∧
    v.Attached key h c ∧ h.family = name ∧ ((v.net name).connection c).references = 1

end View

/-- What an action can make of a view. -/
inductive Move (v : View) : Action → View → Prop
  | idle (a : Action) : Move v a v
  | opened {key : Int} {domain type protocol : Int32} {p : Protocol} {h : Handle Attachment}
      {c : Nat} {i : Interface} :
      v.sockets.get? key = none → (v.net h.family).open? p = (some c, i) →
      h.connection = some (.netlink c) → (∃ build : Build, build.contains p = true) →
      Move v (.step (.socket key domain type protocol))
        { v.setNet h.family i with sockets := v.sockets.insert key h }
  | duplicated {key fresh : Int} {h : Handle Attachment} {c : Nat} {i : Interface} :
      v.sockets.get? fresh = none → v.Attached key h c →
      (v.net h.family).addReference c = (.ok (), i) →
      Move v (.step (.duplicate key fresh))
        { v.setNet h.family i with sockets := v.sockets.insert fresh h }
  | closed {s : Session.Step} {key : Int} {h : Handle Attachment} {c : Nat}
      {lines : List LogLine} {i : Interface} :
      s = .close key ∨ s = .discard key → v.isBorrowed key = false → v.Attached key h c →
      (v.net h.family).release c = .ok (lines, i) →
      Move v (.step s) { v.setNet h.family i with sockets := v.sockets.erase key }
  | lost {s : Session.Step} {key : Int} {h : Handle Attachment} :
      s = .close key ∨ s = .discard key → v.isBorrowed key = false →
      v.sockets.get? key = some h →
      (∀ c, Netlink.attached? h = some c → ((v.net h.family).connection c).references = 0) →
      Move v (.step s) { v with sockets := v.sockets.erase key }
  | flagged {key : Int} {nonblocking : Bool} {h : Handle Attachment} (flags : SocketFlags) :
      v.sockets.get? key = some h →
      Move v (.step (.setNonblocking key nonblocking))
        { v with sockets := v.sockets.insert key { h with flags } }
  | named {s : Session.Step} {name : String} {c : Nat} (f : Connection → Connection) :
      (∀ k, f k = { k with name := (f k).name, peer := (f k).peer }) → v.Renames name c s f →
      Move v (.step s) (v.setNet name ((v.net name).update c f))
  | described {key number : Int} {events : Events} {semaphore : Nat} :
      v.semaphores.get? number = some semaphore →
      Move v (.step (.descriptor key events number))
        { v with
          signals := v.signals.newSlot.2
          descriptors := v.descriptors.insert key ⟨events, v.signals.newSlot.1, semaphore⟩ }
  | describedAnew {key number : Int} {events : Events} :
      v.semaphores.get? number = none →
      Move v (.step (.descriptor key events number))
        { v with
          signals := v.signals.newSlot.2.newSemaphore.2
          semaphores := v.semaphores.insert number v.signals.newSemaphore.1
          descriptors :=
            v.descriptors.insert key ⟨events, v.signals.newSlot.1, v.signals.newSemaphore.1⟩ }
  | tried {key : Int} {fd : PollDescriptor} {signals : Signals} :
      v.descriptors.get? key = some fd → v.signals.take? fd.semaphore = some signals →
      Move v (.step (.tryWait key)) { v with signals }
  | armed {key fdKey : Int} {h : Handle Attachment} {c : Nat} {fd : PollDescriptor}
      {i : Interface} {signals : Signals} :
      v.Attached key h c → v.descriptors.get? fdKey = some fd →
      (v.net h.family).arm v.signals c fd = (.ok (), i, signals) →
      Move v (.step (.arm key fdKey)) { v.setNet h.family i with signals }
  | disarmed {key fdKey : Int} {h : Handle Attachment} {c : Nat} {fd : PollDescriptor} :
      v.Attached key h c → v.descriptors.get? fdKey = some fd →
      Move v (.step (.disarm key fdKey)) (v.setNet h.family ((v.net h.family).disarm c))
  | pushed {target : Session.Target} {name : String} {c : Nat} {message : Bytes} :
      v.Reaches target name c →
      Move v (.step (.push target message)) (v.setNet name ((v.net name).push c message))
  | popped {target : Session.Target} {name : String} {c : Nat} {message : Bytes}
      {i : Interface} :
      v.Reaches target name c → (v.net name).pop? c = (some message, i) →
      Move v (.step (.take target)) (v.setNet name i)
  | counted {target : Session.Target} {name : String} {c : Nat} {i : Interface} :
      v.Reaches target name c → (v.net name).addReference c = (.ok (), i) →
      Move v (.step (.addReference target)) (v.setNet name i)
  | kept {key heldKey : Int} {h : Handle Attachment} {a : Attachment} :
      v.sockets.get? key = some h → h.connection = some a →
      Move v (.step (.hold key heldKey)) { v with held := v.held.insert heldKey ⟨h.family, a⟩ }
  | dropped {heldKey : Int} :
      Move v (.step (.release heldKey)) { v with held := v.held.erase heldKey }
  | began {a : Action} {call : Call} :
      (∀ s, a ≠ .step s) → v.Offers call.socket call.interface call.connection →
      call.stage.waits = false → (∀ fd, call.stage ≠ .posted fd) →
      Move v a { v with calls := v.calls ++ [call] }
  | beganTaking {key : Int} {buffer : Bytes} {flags : TransferFlags} {sender : Option Bytes}
      {h : Handle Attachment} {c : Nat} {message : Bytes} {i : Interface} :
      v.Attached key h c → (v.net h.family).pop? c = (some message, i) →
      Move v (.receive key buffer flags sender)
        { v.setNet h.family i with
          calls := v.calls ++ [⟨key, h.family, c, .handing message buffer sender⟩] }
  | beganPoll {key : Int} {events : Events} {h : Handle Attachment} {c : Nat}
      {fd : PollDescriptor} {i : Interface} {signals : Signals} :
      v.Attached key h c →
      fd = ⟨events, v.signals.newSlot.1, v.signals.newSemaphore.1⟩ →
      (v.net h.family).arm v.signals.newSlot.2.newSemaphore.2 c fd = (.ok (), i, signals) →
      Move v (.poll key events)
        { v.setNet h.family i with
          signals, calls := v.calls ++ [⟨key, h.family, c, .polling fd⟩] }
  | wentOn {n : Nat} {call : Call} (stage : Stage) :
      v.calls[n]? = some call → call.stage.waits = false → stage.waits = false →
      (∀ fd, stage ≠ .posted fd) → (∀ fd, call.stage ≠ .posted fd) →
      call.stage.isEnded = false →
      Move v (.goOn n) { v with calls := v.calls.modify n fun call => { call with stage } }
  | took {n : Nat} {call : Call} {sink : Sink} {message : Bytes} {i : Interface} (stage : Stage) :
      v.calls[n]? = some call → call.stage = .entering sink →
      (v.net call.interface).pop? call.connection = (some message, i) →
      stage.waits = false → (∀ fd, stage ≠ .posted fd) →
      Move v (.goOn n)
        { v.setNet call.interface i with
          calls := v.calls.modify n fun call => { call with stage } }
  | registered {n : Nat} {call : Call} {sink : Sink} {key : Nat} {notifier : Notifier Wakeup} :
      v.calls[n]? = some call → call.stage = .entering sink →
      ((v.net call.interface).connection call.connection).responses = [] →
      (v.net call.interface).notifier.register
        ((v.net call.interface).connection call.connection).id
        (.reader v.signals.newSemaphore.1) = (.ok key, notifier) →
      Move v (.goOn n)
        { v.setNet call.interface { v.net call.interface with notifier } with
          signals := v.signals.newSemaphore.2
          calls := v.calls.modify n fun call =>
            { call with stage := .sleeping sink v.signals.newSemaphore.1 key } }
  | woke {n : Nat} {call : Call} {sink : Sink} {semaphore key : Nat} {signals : Signals} :
      v.calls[n]? = some call → call.stage = .sleeping sink semaphore key →
      v.signals.take? semaphore = some signals →
      Move v (.goOn n)
        { v with
          signals, calls := v.calls.modify n fun call => { call with stage := .woken sink key } }
  | withdrew {n : Nat} {call : Call} {sink : Sink} {key : Nat} :
      v.calls[n]? = some call → call.stage = .woken sink key →
      Move v (.goOn n)
        { v.setNet call.interface ((v.net call.interface).withdraw key) with
          calls := v.calls.modify n fun call => { call with stage := .entering sink } }
  | polled {n : Nat} {call : Call} {fd : PollDescriptor} {signals : Signals} :
      v.calls[n]? = some call → call.stage = .polling fd →
      v.signals.take? fd.semaphore = some signals →
      Move v (.goOn n)
        { v with
          signals, calls := v.calls.modify n fun call => { call with stage := .posted fd } }
  | lowered {n : Nat} {call : Call} {fd : PollDescriptor} {key : Int} {h : Handle Attachment}
      {c : Nat} :
      v.calls[n]? = some call → call.stage = .posted fd → call.socket = some key →
      v.Attached key h c →
      Move v (.goOn n)
        { v.setNet h.family ((v.net h.family).disarm c) with
          calls := v.calls.modify n fun call => { call with stage := .disarmed fd } }
  | unattached {n : Nat} {call : Call} {fd : PollDescriptor} {h : Handle Attachment}
      (stage : Stage) :
      v.calls[n]? = some call → call.stage = .posted fd →
      call.socket.bind v.sockets.get? = some h → Netlink.attached? h = none →
      stage.isEnded = true →
      Move v (.goOn n) { v with calls := v.calls.modify n fun call => { call with stage } }
  | replied {n : Nat} {call : Call} {reply : Bytes} {replies : List Bytes}
      {outcome : Outcome Nat} :
      v.calls[n]? = some call → call.stage = .replying (reply :: replies) outcome →
      Move v (.goOn n)
        { v.setNet call.interface ((v.net call.interface).push call.connection reply) with
          calls := v.calls.modify n fun call =>
            { call with stage := .replying replies outcome } }
  | itemTaken {name : String} {item : Nat × Wakeup} {queue : WorkQueue (Nat × Wakeup)} :
      (v.net name).queue.next? = some (item, queue) →
      Move v (.take name)
        { v.setNet name { v.net name with queue } with taken := v.taken ++ [(name, item)] }
  | itemFired {n : Nat} {name : String} {key : Nat} {wakeup : Wakeup} :
      v.taken[n]? = some (name, key, wakeup) →
      Move v (.fire n)
        { v.setNet name ((v.net name).fire v.signals (v.isHeld name) key wakeup).2.1 with
          signals := ((v.net name).fire v.signals (v.isHeld name) key wakeup).2.2
          taken := v.taken.eraseIdx n }

end NetlinkSocket
