import NetlinkSocket.Proofs.Interleaving.Call

/-!
A session shared by threads. Each action is one critical section: a step of the session, the next
section of some call, or a worker that takes an item off a work queue or calls the item it took.
A run is any list of actions; an action that is not possible changes nothing.
-/

namespace NetlinkSocket

/-- A session, the calls ever begun by their places, and the work items that were taken off their
queues and are about to be called. -/
structure Concurrent where
  session : Session
  calls : List Call
  taken : List (String × Nat × Wakeup)

namespace Session.Step

/-- Whether a step is one critical section, and no driver's tool to take connections off handles
and put them on others. -/
def isSection : Step → Bool
  | send .. | sendTo .. | route .. | receive .. | poll .. | runWork _ => false
  | detach .. | attach .. | attachForeign _ | setup .. => false
  | _ => true

def exclusive? : Step → Option Int
  | close key | discard key | setNonblocking key _ => some key
  | _ => none

end Session.Step

namespace Concurrent

inductive Action
  | step (s : Session.Step)
  | receive (socket : Int) (buffer : Bytes) (flags : TransferFlags) (sender : Option Bytes)
  | get (target : Session.Target)
  | poll (socket : Int) (events : Events)
  | send (socket : Int) (message : Bytes) (flags : TransferFlags) (destination : Option Bytes)
  | route (target : Session.Target) (message : Bytes) (flags : TransferFlags)
      (destination : Address)
  | goOn (call : Nat)
  | take (interface : String)
  | fire (item : Nat)

section

variable (t : Concurrent)

def world : World := t.session.world

def net : String → Interface := t.world.net

def signals : Signals := t.world.signals

def isBorrowed (key : Int) : Bool :=
  t.calls.any fun call => call.borrows key

/-- Whether anybody still refers to a connection: a handle, a holder or a call. -/
def isHeld (name : String) (c : Nat) : Bool :=
  t.session.isHeld name c ||
    t.calls.any fun call => !call.stage.isEnded && call.interface = name && call.connection = c

def setWorld (world : World) : Concurrent :=
  { t with session := { t.session with world } }

def begin (call : Call) (world : World) : Concurrent :=
  { t.setWorld world with calls := t.calls ++ [call] }

theorem world_begin (call : Call) (world : World) : (t.begin call world).world = world := rfl

def advance (n : Nat) (stage : Stage) (world : World) : Concurrent :=
  { t.setWorld world with calls := t.calls.modify n fun call => { call with stage } }

def step (s : Session.Step) : Concurrent :=
  if s.isSection && !(s.exclusive?.any t.isBorrowed) then
    { t with session := (t.session.step t.calls.length s).2 }
  else t

def attached? (key : Int) : Option (Handle Attachment × Nat) :=
  (t.session.sockets.get? key).bind fun h => (Netlink.attached? h).map (h, ·)

def receive (key : Int) (buffer : Bytes) (flags : TransferFlags) (sender : Option Bytes) :
    Concurrent :=
  match t.attached? key with
  | none => t
  | some (h, c) =>
    match (t.net h.family).pop? c with
    | (some message, i) =>
      t.begin ⟨key, h.family, c, .handing message buffer sender⟩ (t.world.setNet h.family i)
    | (none, i) =>
      let stage := if h.nonblocking || flags.has .dontWait then
          .ended (.received (.error ⟨.failed .nothingQueued, buffer :: sender.toList⟩))
        else .entering (.buffers buffer sender)
      t.begin ⟨key, h.family, c, stage⟩ (t.world.setNet h.family i)

def get (target : Session.Target) : Concurrent :=
  match t.session.findTarget target with
  | .error _ => t
  | .ok (name, c) => t.begin ⟨none, name, c, .entering .direct⟩ t.world

def poll (key : Int) (events : Events) : Concurrent :=
  match t.attached? key with
  | none => t
  | some (h, c) =>
    match h.setUpPoll (t.session.family h.family) events t.world with
    | (.error stop, world) => t.begin ⟨key, h.family, c, .ended (.reported (.error stop))⟩ world
    | (.ok fd, world) => t.begin ⟨key, h.family, c, .polling fd⟩ world

def send (key : Int) (message : Bytes) (flags : TransferFlags) (destination : Option Bytes) :
    Concurrent :=
  match t.attached? key with
  | none => t
  | some (h, c) =>
    match Netlink.destinationOf h.family c destination t.world with
    | .error failure =>
      t.begin ⟨key, h.family, c, .ended (.sent (.error (.failed failure)))⟩ t.world
    | .ok destination =>
      match Netlink.dispatch h.family c message flags destination t.world with
      | (.error failure, world) =>
        t.begin ⟨key, h.family, c, .ended (.sent (.error (.failed failure)))⟩ world
      | (.ok (replies, outcome), world) =>
        t.begin ⟨key, h.family, c, .replying replies outcome⟩ world

def route (target : Session.Target) (message : Bytes) (flags : TransferFlags)
    (destination : Address) : Concurrent :=
  match t.session.findTarget target with
  | .error _ => t
  | .ok (name, c) =>
    let ((replies, outcome), world) :=
      Netlink.consult name c Handler.route message flags destination t.world
    t.begin ⟨none, name, c, .replying replies outcome⟩ world

def proceed (n : Nat) (call : Call) : Stage → Concurrent
  | .entering sink =>
    match Netlink.enter call.interface call.connection t.world, sink with
    | (.took message, world), .buffers buffer sender =>
      t.advance n (.handing message buffer sender) world
    | (.took message, world), .direct => t.advance n (.ended (.message (some message))) world
    | (.registered semaphore key, world), sink => t.advance n (.sleeping sink semaphore key) world
    | (.refused, world), .buffers buffer sender =>
      t.advance n (.ended (.received (.error ⟨.failed .waitFailed, buffer :: sender.toList⟩)))
        (world.log [.waitEnded])
    | (.refused, world), .direct => t.advance n (.ended (.message none)) world
  | .sleeping sink semaphore key =>
    match t.signals.take? semaphore with
    | none => t
    | some signals => t.advance n (.woken sink key) { t.world with signals }
  | .woken sink key =>
    t.advance n (.entering sink)
      (t.world.setNet call.interface ((t.net call.interface).withdraw key))
  | .handing message buffer sender =>
    let peer := ((t.net call.interface).connection call.connection).peer
    t.advance n (.ended (.received (.ok (Netlink.handOver peer message buffer sender)))) t.world
  | .polling fd =>
    match t.signals.take? fd.semaphore with
    | none => t
    | some signals => t.advance n (.posted fd) { t.world with signals }
  | .posted fd =>
    match call.socket.bind t.session.sockets.get? with
    | none => t
    | some h =>
      match (t.session.family h.family).disarm h fd t.world with
      | (.error stop, world) => t.advance n (.ended (.reported (.error stop))) world
      | (.ok (), world) => t.advance n (.disarmed fd) world
  | .disarmed fd => t.advance n (.ended (.reported (.ok (t.signals.events fd.slot)))) t.world
  | .replying [] outcome => t.advance n (.ended (.sent outcome)) t.world
  | .replying (reply :: replies) outcome =>
    t.advance n (.replying replies outcome)
      (t.world.setNet call.interface ((t.net call.interface).push call.connection reply))
  | .ended _ => t

def goOn (n : Nat) : Concurrent :=
  match t.calls[n]? with
  | none => t
  | some call => t.proceed n call call.stage

def take (name : String) : Concurrent :=
  match (t.net name).queue.next? with
  | none => t
  | some (item, queue) =>
    { t.setWorld (t.world.setNet name { t.net name with queue }) with
      taken := t.taken ++ [(name, item)] }

def fire (n : Nat) : Concurrent :=
  match t.taken[n]? with
  | none => t
  | some (name, key, wakeup) =>
    let (lines, i, signals) := (t.net name).fire t.signals (t.isHeld name) key wakeup
    { t.setWorld { (t.world.setNet name i).log lines with signals } with
      taken := t.taken.eraseIdx n }

def act : Action → Concurrent
  | .step s => t.step s
  | .receive key buffer flags sender => t.receive key buffer flags sender
  | .get target => t.get target
  | .poll key events => t.poll key events
  | .send key message flags destination => t.send key message flags destination
  | .route target message flags destination => t.route target message flags destination
  | .goOn n => t.goOn n
  | .take name => t.take name
  | .fire n => t.fire n

def run (actions : List Action) : Concurrent :=
  actions.foldl act t

end

/-- The steps of a run: each action with the state it meets. -/
def trace : Concurrent → List Action → List (Concurrent × Action)
  | _, [] => []
  | t, a :: actions => (t, a) :: trace (t.act a) actions

@[simp] theorem run_nil (t : Concurrent) : t.run [] = t := rfl

@[simp] theorem run_cons (t : Concurrent) (a : Action) (actions : List Action) :
    t.run (a :: actions) = (t.act a).run actions := rfl

theorem run_append (t : Concurrent) (xs ys : List Action) :
    t.run (xs ++ ys) = (t.run xs).run ys := List.foldl_append

theorem run_append_singleton (t : Concurrent) (past : List Action) (a : Action) :
    t.run (past ++ [a]) = (t.run past).act a :=
  run_append t past [a]

theorem run_append_cons (t : Concurrent) (past : List Action) (a : Action) (rest : List Action) :
    t.run (past ++ a :: rest) = (t.run (past ++ [a])).run rest := by
  rw [← run_append, List.append_assoc, List.singleton_append]

@[simp] theorem trace_nil (t : Concurrent) : t.trace [] = [] := rfl

@[simp] theorem trace_cons (t : Concurrent) (a : Action) (actions : List Action) :
    t.trace (a :: actions) = (t, a) :: (t.act a).trace actions := rfl

theorem trace_append (t : Concurrent) (xs ys : List Action) :
    t.trace (xs ++ ys) = t.trace xs ++ (t.run xs).trace ys := by
  induction xs generalizing t with
  | nil => rfl
  | cons a xs ih => simp [ih]

theorem mem_trace {t : Concurrent} {actions : List Action} {step : Concurrent × Action} :
    step ∈ t.trace actions ↔ ∃ xs ys, actions = xs ++ step.2 :: ys ∧ step.1 = t.run xs := by
  induction actions generalizing t with
  | nil => simp
  | cons a actions ih =>
    rw [trace_cons, List.mem_cons, ih]
    constructor
    · rintro (rfl | ⟨xs, ys, rfl, same⟩)
      · exact ⟨[], actions, rfl, rfl⟩
      · exact ⟨a :: xs, ys, rfl, same⟩
    · rintro ⟨xs, ys, split, same⟩
      cases xs with
      | nil =>
        cases split
        exact .inl (Prod.ext same rfl)
      | cons b xs =>
        cases split
        exact .inr ⟨xs, ys, rfl, same⟩

theorem run_induction {p : Concurrent → Prop} (keeps : ∀ t a, p t → p (t.act a))
    {t : Concurrent} (start : p t) (actions : List Action) : p (t.run actions) := by
  induction actions generalizing t with
  | nil => exact start
  | cons a actions ih => exact ih (keeps t a start)

/-- A session of netlink interfaces before its first step. -/
structure IsFresh (t : Concurrent) : Prop where
  netlink : ∀ name traits, t.session.kinds.get? name ≠ some (.stub traits)
  nets : ∀ name, ∃ limits handlers, t.net name = .create limits handlers
  signals : t.signals = .empty
  sockets : t.session.sockets = .empty
  held : t.session.held = .empty
  descriptors : t.session.descriptors = .empty
  semaphores : t.session.semaphores = .empty
  waiting : t.session.waiting = []
  calls : t.calls = []
  taken : t.taken = []

def start (build : Build)
    (nets : List (String × Interface.Limits × List (Protocol × Handler))) : Concurrent where
  session := nets.foldl (fun t n => t.addNetlink n.1 n.2.1 n.2.2) (.start build)
  calls := []
  taken := []

theorem isFresh_start (build : Build)
    (nets : List (String × Interface.Limits × List (Protocol × Handler))) :
    (start build nets).IsFresh := by
  have added (s : Session) (name : String) (limits : Interface.Limits)
      (handlers : List (Protocol × Handler)) (fresh : IsFresh ⟨s, [], []⟩) :
      IsFresh ⟨s.addNetlink name limits handlers, [], []⟩ := by
    refine ⟨fun other traits => ?_, fun other => ?_, fresh.signals, fresh.sockets, fresh.held,
      fresh.descriptors, fresh.semaphores, fresh.waiting, rfl, rfl⟩
    · by_cases here : other = name
      · subst here
        simp [Session.addNetlink]
      · simp only [Session.addNetlink, Table.get?_insert_of_ne _ here]
        exact fresh.netlink other traits
    · by_cases here : other = name
      · subst here
        exact ⟨limits, _, World.net_setNet_self _ _ _⟩
      · obtain ⟨same, table, made⟩ := fresh.nets other
        exact ⟨same, table, (World.net_setNet_of_ne _ here _).trans made⟩
  have all (s : Session) (fresh : IsFresh ⟨s, [], []⟩) :
      IsFresh ⟨nets.foldl (fun t n => t.addNetlink n.1 n.2.1 n.2.2) s, [], []⟩ := by
    induction nets generalizing s with
    | nil => exact fresh
    | cons net nets ih => exact ih _ (added s net.1 net.2.1 net.2.2 fresh)
  refine all (.start build) ⟨by simp [Session.start], fun name => ?_, rfl, rfl, rfl, rfl, rfl, rfl,
    rfl, rfl⟩
  exact ⟨⟨0, 0⟩, .empty, rfl⟩

end Concurrent

end NetlinkSocket
