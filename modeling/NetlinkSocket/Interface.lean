import NetlinkSocket.Connection.Pool
import NetlinkSocket.Handler
import NetlinkSocket.Notifier
import NetlinkSocket.Signals
import NetlinkSocket.Table
import NetlinkSocket.WorkQueue

/-!
A netlink interface: its connections, the registrations of those who wait for responses, the
work queue through which they are woken, and the payload handlers. Each operation here happens
at once; nothing else can come between its parts.
-/

namespace NetlinkSocket

inductive Wakeup
  | poll (connection : Nat)
  | reader (semaphore : Nat)
  deriving DecidableEq, Repr

/-- A connection is known by its place among all that were ever opened. It keeps that place when
it is released, since others may still hold it. -/
structure Interface where
  pool : Pool
  connections : List Connection
  notifier : Notifier Wakeup
  queue : WorkQueue (Nat × Wakeup)
  handlers : Table Protocol Handler

namespace Interface

structure Limits where
  connections : Nat
  notifications : Nat

def defaultLimits : Limits := ⟨8, 16⟩

def create (limits : Limits) (handlers : Table Protocol Handler) : Interface where
  pool := .ofCapacity limits.connections
  connections := []
  notifier := .ofCapacity limits.notifications
  queue := .empty
  handlers := handlers

instance : Inhabited Interface := ⟨create ⟨0, 0⟩ .empty⟩

def connection (i : Interface) (c : Nat) : Connection :=
  i.connections[c]?.getD default

def update (i : Interface) (c : Nat) (f : Connection → Connection) : Interface :=
  { i with connections := i.connections.modify c f }

theorem connection_update_self (i : Interface) (c : Nat) (f : Connection → Connection)
    (h : c < i.connections.length) : (i.update c f).connection c = f (i.connection c) := by
  simp [connection, update, h]

theorem connection_update_of_ne (i : Interface) {c d : Nat} (f : Connection → Connection)
    (h : d ≠ c) : (i.update c f).connection d = i.connection d := by
  simp [connection, update, h.symm]

def open? (i : Interface) (protocol : Protocol) : Option Nat × Interface :=
  match i.pool.allocate? with
  | (none, pool) => (none, { i with pool })
  | (some id, pool) =>
    (some i.connections.length,
      { i with pool, connections := i.connections ++ [.fresh id protocol] })

def addReference (i : Interface) (c : Nat) : Except Fault Unit × Interface :=
  let (counted, k) := (i.connection c).addReference
  (counted, i.update c fun _ => k)

def disarm (i : Interface) (c : Nat) : Interface :=
  match (i.connection c).armed with
  | none => i
  | some poll =>
    { i.update c fun k => { k with armed := none } with
      notifier := i.notifier.withdraw poll.key }

def reset (i : Interface) (c : Nat) : List LogLine × Interface :=
  let k := i.connection c
  let closing := if k.armed.isSome then [.closedWhileArmed k.id] else []
  let i := (i.disarm c).update c fun k => { k with responses := [] }
  (closing ++ [.connectionFreed k.id], { i with pool := i.pool.free k.id })

def release (i : Interface) (c : Nat) : Except Fault (List LogLine × Interface) :=
  match (i.connection c).references with
  | 0 => .error (.releasedTwice (i.connection c).id)
  | n + 1 =>
    let i := i.update c fun k => { k with references := n }
    .ok (if n = 0 then i.reset c else ([], i))

def push (i : Interface) (c : Nat) (message : Bytes) : Interface :=
  let (fired, notifier) := i.notifier.signal (i.connection c).id
  { i.update c fun k => { k with responses := k.responses ++ [message] } with
    notifier
    queue := i.queue.submitAll (fired.map fun r => (r.key, r.worker)) }

theorem responses_push (i : Interface) (c : Nat) (message : Bytes)
    (h : c < i.connections.length) :
    ((i.push c message).connection c).responses = (i.connection c).responses ++ [message] := by
  simp [connection, push, update, h]

def pushAll (i : Interface) (c : Nat) (messages : List Bytes) : Interface :=
  messages.foldl (fun i message => i.push c message) i

def pop? (i : Interface) (c : Nat) : Option Bytes × Interface :=
  match (i.connection c).responses with
  | [] => (none, i)
  | message :: rest => (some message, i.update c fun k => { k with responses := rest })

theorem pop?_eq_none {i later : Interface} {c : Nat} :
    i.pop? c = (none, later) ↔ (i.connection c).responses = [] ∧ later = i := by
  unfold pop?
  split
  · simp [*, eq_comm]
  · simp [*]

inductive Entry
  | took (message : Bytes) (i : Interface)
  | registered (key : Nat) (i : Interface)
  | refused (failure : Failure) (i : Interface)

def enter (i : Interface) (c : Nat) (semaphore : Nat) : Entry :=
  match i.pop? c with
  | (some message, i) => .took message i
  | (none, i) =>
    match i.notifier.register (i.connection c).id (.reader semaphore) with
    | (.error failure, notifier) => .refused failure { i with notifier }
    | (.ok key, notifier) => .registered key { i with notifier }

def withdraw (i : Interface) (key : Nat) : Interface :=
  { i with notifier := i.notifier.withdraw key }

/-- Reports what is ready at once; else arms the connection if the poll asks to read. -/
def arm (i : Interface) (s : Signals) (c : Nat) (fd : PollDescriptor) :
    Except (LogLine × Failure) Unit × Interface × Signals :=
  let k := i.connection c
  let ready := Events.ready (!k.responses.isEmpty) ∩ fd.events
  if !ready.isEmpty then (.ok (), i, (s.setSlot fd.slot ready).post fd.semaphore)
  else if !fd.events.has .readable then (.ok (), i, s)
  else if k.armed.isSome then (.error (.pollsOverlap k.id, .pollAlreadyArmed), i, s)
  else
    match i.notifier.register k.id (.poll c) with
    | (.error failure, notifier) =>
      (.error (.pollNotSetUp failure, failure), { i with notifier }, s)
    | (.ok key, notifier) =>
      (.ok (), { i.update c fun k => { k with armed := some ⟨fd.slot, fd.semaphore, key⟩ } with
        notifier }, s)

/-- Calls the wakeup of a registration that fired. A poll is told only while it is still armed by
that registration; a connection that nobody holds any more is past telling. -/
def fire (i : Interface) (s : Signals) (isHeld : Nat → Bool) (key : Nat) :
    Wakeup → List LogLine × Interface × Signals
  | .reader semaphore => ([], i, s.post semaphore)
  | .poll c =>
    if !isHeld c then ([], i, s)
    else
      let k := i.connection c
      match k.armed with
      | none => ([.staleNotification key k.id], i, s)
      | some poll =>
        if poll.key = key then
          ([], i.update c fun k => { k with armed := none },
            (s.addToSlot poll.slot (Flags.single .readable)).post poll.semaphore)
        else ([.staleNotification key k.id], i, s)

theorem queue_fire (i : Interface) (s : Signals) (isHeld : Nat → Bool) (key : Nat) (w : Wakeup) :
    (i.fire s isHeld key w).2.1.queue = i.queue := by
  cases w with
  | reader => rfl
  | poll c => unfold fire; grind [update]

def fireAll (i : Interface) (s : Signals) (isHeld : Nat → Bool) :
    List (Nat × Wakeup) → Nat × List LogLine × Interface × Signals
  | [] => (0, [], i, s)
  | (key, wakeup) :: rest =>
    let fired := { i with queue := ⟨rest⟩ }.fire s isHeld key wakeup
    let others := fired.2.1.fireAll fired.2.2 isHeld rest
    (others.1 + 1, fired.1 ++ others.2.1, others.2.2)

def drain (i : Interface) (s : Signals) (isHeld : Nat → Bool) :
    Nat × List LogLine × Interface × Signals :=
  i.fireAll s isHeld i.queue.items

end Interface

end NetlinkSocket
