import NetlinkSocket.Proofs.Interleaving.Modes
import NetlinkSocket.Proofs.Interleaving.Names
import NetlinkSocket.Proofs.Words

/-!
What a receive does to the queue and to its buffers. The oldest response leaves the queue, however
little of it fits, and nothing else changes; of an empty queue the call is told at once if the
socket's mode or its flags say so, and else it waits.
-/

namespace NetlinkSocket

open Concurrent (Action)

/-- A message was received in a buffer from a peer, whose address is told of if there is a buffer
for it. -/
structure Received.Holds (r : Received) (message buffer : Bytes) (peer : Address)
    (sender : Option Bytes) : Prop where
  count : r.count = min buffer.length message.length
  data : message.Covers buffer r.buffer
  sender : peer.reportedIn sender r.sender

theorem Netlink.holds_handOver (peer : Address) (message buffer : Bytes) (sender : Option Bytes) :
    (handOver peer message buffer sender).Holds message buffer peer sender where
  count := rfl
  data := Bytes.covers_overwrite message buffer
  sender := reportedIn_handOver peer message buffer sender

def World.leaving (w : World) (name : String) (c : Nat) (rest : List Bytes) : World :=
  w.setNet name ((w.net name).update c fun k => { k with responses := rest })

def World.putBack (w : World) (name : String) : World :=
  w.setNet name (w.net name)

namespace Netlink

variable {name : String} {h : Handle Attachment} {c : Nat} {w : World} {message : Bytes}
  {rest : List Bytes}

theorem pop?_of_queued (queued : ((w.net name).connection c).responses = message :: rest) :
    (w.net name).pop? c =
      (some message, (w.net name).update c fun k => { k with responses := rest }) := by
  rw [Interface.pop?, queued]

theorem peer_of_pop? {i : Interface} (popped : (w.net name).pop? c = (some message, i)) :
    (i.connection c).peer = ((w.net name).connection c).peer := by
  rw [Interface.connection_pop? popped, if_pos rfl]

theorem receive_of_queued (attached : attached? h = some c)
    (queued : ((w.net name).connection c).responses = message :: rest) (buffer : Bytes)
    (flags : TransferFlags) (sender : Option Bytes) :
    receive name h buffer flags sender w =
      (.finished (.ok (handOver ((w.net name).connection c).peer message buffer sender)),
        w.leaving name c rest) := by
  have popped := pop?_of_queued queued
  simp only [receive, attached, popped, peer_of_pop? popped]
  rfl

theorem receive_of_empty (attached : attached? h = some c)
    (empty : ((w.net name).connection c).responses = []) (buffer : Bytes) (flags : TransferFlags)
    (sender : Option Bytes) :
    receive name h buffer flags sender w =
      if h.nonblocking || flags.has .dontWait then
        (.finished (.error ⟨.failed .nothingQueued, buffer :: sender.toList⟩), w.putBack name)
      else turn name c buffer sender (w.putBack name) := by
  simp only [receive, attached, Interface.pop?_eq_none.2 ⟨empty, rfl⟩]
  rfl

theorem turn_of_empty (empty : ((w.net name).connection c).responses = []) (buffer : Bytes)
    (sender : Option Bytes) :
    (∃ key notifier, (w.net name).notifier.register ((w.net name).connection c).id
        (.reader w.newSemaphore.1) = (.ok key, notifier) ∧
      turn name c buffer sender (w.putBack name) = (.waiting w.newSemaphore.1 key,
        w.newSemaphore.2.setNet name { w.net name with notifier })) ∨
    ∃ failure, (w.net name).notifier.capacity ≤ (w.net name).notifier.pending.length ∧
      turn name c buffer sender (w.putBack name) =
        (.finished (.error ⟨.failed .waitFailed, buffer :: sender.toList⟩),
          (w.putBack name).log [.waitNotSetUp failure, .waitEnded]) := by
  have same : (w.putBack name).net name = w.net name := World.net_setNet_self ..
  have again (u : World) (i : Interface) : (u.putBack name).setNet name i = u.setNet name i :=
    World.setNet_setNet u name _ i
  rw [turn_eq_enter]
  rcases enter_turns name c (w.putBack name) with
    ⟨message, i, popped, -⟩ | ⟨notifier, -, made, entered⟩ | ⟨failure, -, full, entered⟩
  · rw [same, Interface.pop?_eq_none.2 ⟨empty, rfl⟩] at popped
    cases popped
  · rw [same] at made entered
    rw [entered]
    exact .inl ⟨_, notifier, made, congrArg (Prod.mk _) (again w.newSemaphore.2 _)⟩
  · rw [same] at full entered
    rw [entered, again]
    exact .inr ⟨failure, full, congrArg (Prod.mk _) (log_log (w.putBack name) _ _)⟩

structure Receives (name : String) (h : Handle Attachment) (c : Nat) (w : World) : Prop where
  taken : ∀ buffer flags sender message rest,
    ((w.net name).connection c).responses = message :: rest →
      ∃ r, r.Holds message buffer ((w.net name).connection c).peer sender ∧
        receive name h buffer flags sender w = (.finished (.ok r), w.leaving name c rest)
  told : ∀ buffer flags sender, ((w.net name).connection c).responses = [] →
    ((∃ failure left, failure.errno = .tryAgain ∧
        (receive name h buffer flags sender w).1 = .finished (.error ⟨.failed failure, left⟩)) ↔
      h.nonblocking = true ∨ flags.has .dontWait = true)
  spared : ∀ buffer flags sender failure left, failure.errno = .tryAgain →
    (receive name h buffer flags sender w).1 = .finished (.error ⟨.failed failure, left⟩) →
      left = buffer :: sender.toList ∧
        (receive name h buffer flags sender w).2 = w.putBack name
  waits : ∀ buffer flags sender, ((w.net name).connection c).responses = [] →
    h.nonblocking = false → flags.has .dontWait = false →
      (∃ key notifier, (w.net name).notifier.register ((w.net name).connection c).id
          (.reader w.newSemaphore.1) = (.ok key, notifier) ∧
        receive name h buffer flags sender w = (.waiting w.newSemaphore.1 key,
          w.newSemaphore.2.setNet name { w.net name with notifier })) ∨
      ∃ failure, (w.net name).notifier.capacity ≤ (w.net name).notifier.pending.length ∧
        receive name h buffer flags sender w =
          (.finished (.error ⟨.failed .waitFailed, buffer :: sender.toList⟩),
            (w.putBack name).log [.waitNotSetUp failure, .waitEnded])
  unchanged : c < (w.net name).connections.length → w.putBack name = w

theorem receive_of_waiting (attached : attached? h = some c)
    (empty : ((w.net name).connection c).responses = []) {flags : TransferFlags}
    (blocks : ¬(h.nonblocking = true ∨ flags.has .dontWait = true)) (buffer : Bytes)
    (sender : Option Bytes) :
    receive name h buffer flags sender w = turn name c buffer sender (w.putBack name) := by
  rw [receive_of_empty attached empty, if_neg (by simpa using blocks)]

theorem receive_of_told (attached : attached? h = some c)
    (empty : ((w.net name).connection c).responses = []) {flags : TransferFlags}
    (told : h.nonblocking = true ∨ flags.has .dontWait = true) (buffer : Bytes)
    (sender : Option Bytes) :
    receive name h buffer flags sender w =
      (.finished (.error ⟨.failed .nothingQueued, buffer :: sender.toList⟩), w.putBack name) := by
  rw [receive_of_empty attached empty, if_pos (by simpa using told)]

theorem errno_turn (empty : ((w.net name).connection c).responses = []) {buffer : Bytes}
    {sender : Option Bytes} {failure : Failure} {left : List Bytes}
    (failed : (turn name c buffer sender (w.putBack name)).1 =
      .finished (.error ⟨.failed failure, left⟩)) : failure.errno = .brokenPipe := by
  rcases turn_of_empty empty buffer sender with ⟨key, notifier, -, waits⟩ | ⟨line, -, refused⟩
  · rw [waits] at failed
    cases failed
  · rw [refused] at failed
    cases failed
    rfl

theorem receives (attached : attached? h = some c) : Receives name h c w where
  taken buffer flags sender message rest queued :=
    ⟨_, holds_handOver _ message buffer sender,
      receive_of_queued attached queued buffer flags sender⟩
  told := by
    intro buffer flags sender empty
    constructor
    · intro told
      obtain ⟨failure, left, again, failed⟩ := told
      by_contra blocks
      -- the call takes a turn then, which does fail at times, but as a broken pipe
      rw [receive_of_waiting attached empty blocks] at failed
      rw [errno_turn empty failed] at again
      cases again
    · intro told
      exact ⟨.nothingQueued, _, rfl, by rw [receive_of_told attached empty told]⟩
  spared := by
    intro buffer flags sender failure left again failed
    cases queued : ((w.net name).connection c).responses with
    | cons message rest =>
      rw [receive_of_queued attached queued] at failed
      cases failed
    | nil =>
      by_cases told : h.nonblocking = true ∨ flags.has .dontWait = true
      · rw [receive_of_told attached queued told] at failed ⊢
        cases failed
        exact ⟨rfl, rfl⟩
      · rw [receive_of_waiting attached queued told] at failed
        rw [errno_turn queued failed] at again
        cases again
  waits := by
    intro buffer flags sender empty blocking waiting
    have blocks : ¬(h.nonblocking = true ∨ flags.has .dontWait = true) := by
      simp [blocking, waiting]
    rw [receive_of_waiting attached empty blocks]
    exact turn_of_empty empty buffer sender
  unchanged opened := World.setNet_net opened

end Netlink

namespace Concurrent

variable {t : Concurrent} {key : Int} {h : Handle Attachment} {c : Nat} {message buffer : Bytes}
  {rest : List Bytes} {flags : TransferFlags} {sender : Option Bytes}

/-! In one go -/

theorem step_receive (netlink : t.IsNetlink) (found : t.attached? key = some (h, c)) (number : Nat)
    (buffer : Bytes) (flags : TransferFlags) (sender : Option Bytes) {outcome : Filling Received}
    {later : World}
    (received : Netlink.receive h.family h buffer flags sender t.world =
      (.finished outcome, later)) :
    t.session.step number (.receive key buffer flags sender) =
      t.session.settleFilling .received (outcome, later) := by
  obtain ⟨there, attached⟩ := attached?_eq_some.1 found
  change t.session.receive number key buffer flags sender = _
  have idle : t.session.hasCall h.family c true = false := by
    simp [Session.hasCall, netlink.2]
  have received : (Netlink.family t.session.build h.family).receive h buffer flags sender
    t.session.world = (.finished outcome, later) := received
  rw [Session.receive, withSocket_eq there]
  simp only [attached, idle, Bool.and_false, Bool.false_eq_true, if_false, netlink.family, received]

/-! In sections -/

theorem act_receive_queued (found : t.attached? key = some (h, c))
    (queued : ((t.net h.family).connection c).responses = message :: rest) (buffer : Bytes)
    (flags : TransferFlags) (sender : Option Bytes) :
    t.act (.receive key buffer flags sender) =
      t.begin ⟨key, h.family, c, .handing message buffer sender⟩
        (t.world.leaving h.family c rest) := by
  have popped : (t.net h.family).pop? c = _ := Netlink.pop?_of_queued queued
  change t.receive key buffer flags sender = _
  simp only [receive, found, popped]
  rfl

theorem act_receive_empty (found : t.attached? key = some (h, c))
    (opened : c < (t.net h.family).connections.length)
    (empty : ((t.net h.family).connection c).responses = []) (buffer : Bytes)
    (flags : TransferFlags) (sender : Option Bytes) :
    t.act (.receive key buffer flags sender) =
      t.begin ⟨key, h.family, c, if h.nonblocking || flags.has .dontWait then
          .ended (.received (.error ⟨.failed .nothingQueued, buffer :: sender.toList⟩))
        else .entering (.buffers buffer sender)⟩ t.world := by
  have same : t.world.setNet h.family (t.net h.family) = t.world := World.setNet_net opened
  change t.receive key buffer flags sender = _
  simp only [receive, found, Interface.pop?_eq_none.2 ⟨empty, rfl⟩, same]

structure Receipts (t : Concurrent) (actions : List Action) : Prop where
  returned : ∀ key h c number buffer flags sender message rest,
    (t.run actions).attached? key = some (h, c) →
      let k := ((t.run actions).net h.family).connection c
      k.responses = message :: rest →
        ∃ r, r.Holds message buffer k.peer sender ∧
          (t.run actions).session.step number (.receive key buffer flags sender) =
            (.ok (.received r), { (t.run actions).session with
              world := (t.run actions).world.leaving h.family c rest })
  begun : ∀ key h c buffer flags sender message rest,
    (t.run actions).attached? key = some (h, c) →
      (((t.run actions).net h.family).connection c).responses = message :: rest →
        (t.run actions).act (.receive key buffer flags sender) =
          (t.run actions).begin ⟨key, h.family, c, .handing message buffer sender⟩
            ((t.run actions).world.leaving h.family c rest)
  handed : ∀ n call message buffer sender, (t.run actions).calls[n]? = some call →
    call.stage = .handing message buffer sender →
      ∃ r, r.Holds message buffer
          (((t.run actions).net call.interface).connection call.connection).peer sender ∧
        (t.run actions).act (.goOn n) =
          (t.run actions).advance n (.ended (.received (.ok r))) (t.run actions).world
  told : ∀ key h c buffer flags sender, (t.run actions).attached? key = some (h, c) →
    (((t.run actions).net h.family).connection c).responses = [] →
      lastMode t actions key = some true ∨ flags.has .dontWait = true →
        (∀ number, (t.run actions).session.step number (.receive key buffer flags sender) =
          (.error (.stopped (.failed .nothingQueued) (buffer :: sender.toList)),
            (t.run actions).session)) ∧
        (t.run actions).act (.receive key buffer flags sender) =
          (t.run actions).begin
            ⟨key, h.family, c,
              .ended (.received (.error ⟨.failed .nothingQueued, buffer :: sender.toList⟩))⟩
            (t.run actions).world
  waits : ∀ key h c buffer flags sender, (t.run actions).attached? key = some (h, c) →
    (((t.run actions).net h.family).connection c).responses = [] →
      lastMode t actions key = some false → flags.has .dontWait = false →
        (t.run actions).act (.receive key buffer flags sender) =
          (t.run actions).begin ⟨key, h.family, c, .entering (.buffers buffer sender)⟩
            (t.run actions).world

theorem receipts_run (fresh : t.IsFresh) (actions : List Action) : Receipts t actions where
  returned := by
    intro key h c number buffer flags sender message rest found
    dsimp only
    intro queued
    have attached := (attached?_eq_some.1 found).2
    have received := Netlink.receive_of_queued attached queued buffer flags sender
    refine ⟨_, Netlink.holds_handOver _ message buffer sender, ?_⟩
    rw [step_receive (fresh.isNetlink.run actions) found number buffer flags sender received]
    rfl
  begun key h c buffer flags sender message rest found queued :=
    act_receive_queued found queued buffer flags sender
  handed n call message buffer sender found here :=
    ⟨_, Netlink.holds_handOver _ message buffer sender, act_goOn_handing found here⟩
  told := by
    intro key h c buffer flags sender found empty told
    obtain ⟨there, attached⟩ := attached?_eq_some.1 found
    have mode := mode_run fresh actions there
    have opened := ((fresh.sound.run actions).watched.placed.of_attached ⟨there, attached⟩).1
    have told : h.nonblocking = true ∨ flags.has .dontWait = true := by
      simpa [mode] using told
    constructor
    · intro number
      have received := Netlink.receive_of_told attached empty told buffer sender
      rw [step_receive (fresh.isNetlink.run actions) found number buffer flags sender received]
      exact congrArg (fun world => (_, { (t.run actions).session with world }))
        (World.setNet_net opened)
    · rw [act_receive_empty found opened empty, if_pos (by simpa using told)]
  waits := by
    intro key h c buffer flags sender found empty blocking waiting
    have attached := attached?_eq_some.1 found
    have mode := mode_run fresh actions attached.1
    have opened := ((fresh.sound.run actions).watched.placed.of_attached attached).1
    rw [mode] at blocking
    rw [act_receive_empty found opened empty, Option.some.inj blocking, waiting]
    rfl

theorem receives_oldest :
    (∀ (name : String) (h : Handle Attachment) (c : Nat) (w : World),
      Netlink.attached? h = some c → Netlink.Receives name h c w) ∧
    ∀ (t : Concurrent) (actions : List Action), t.IsFresh →
      Receipts t actions ∧ Modes t actions :=
  ⟨fun _ _ _ _ => Netlink.receives, fun _ actions fresh =>
    ⟨receipts_run fresh actions, modes_run fresh actions⟩⟩

/-- A socket is opened that does not block, and duplicated; then it is made to block, and duplicated
once more. A response is queued that is longer than the buffer of the receive that takes it. -/
def blockedLater : List Action :=
  [.step (.register 16 "nl"), .step (.socket 0 16 2051 0), .step (.duplicate 0 1),
    .step (.setNonblocking 0 false), .step (.duplicate 0 2),
    .step (.connect 2 [16, 0, 0, 0, 5, 0, 0, 0, 6, 0, 0, 0]),
    .receive 1 [9] Flags.empty none, .receive 2 [9] Flags.empty none,
    .step (.push (.socket 1) [1, 2, 3]), .receive 0 [9, 8] Flags.empty (some [7]), .goOn 2]

def givenBack (t : Concurrent) (n : Nat) : Option (Except Failure Received) :=
  match t.calls[n]?.map Call.stage with
  | some (.ended (.received (.ok r))) => some (.ok r)
  | some (.ended (.received (.error ⟨.failed failure, _⟩))) => some (.error failure)
  | _ => none

theorem receives_oldest_blockedLater :
    (let t := start .withRoute [("nl", Interface.defaultLimits, [])];
      lastMode t blockedLater 0 = some false ∧ lastMode t blockedLater 1 = some true ∧
        lastMode t blockedLater 2 = some false ∧
        (t.run blockedLater).givenBack 0 = some (.error .nothingQueued) ∧
        (t.run blockedLater).givenBack 1 = none ∧
        (t.run blockedLater).givenBack 2 = some (.ok ⟨2, [1, 2], some (12, [16])⟩) ∧
        (((t.run blockedLater).net "nl").connection 0).responses = []) ∧
      Netlink.Receives "nl" ⟨.netlink, .raw, Flags.empty, "nl", some (.netlink 0)⟩ 0
        ((start .withRoute [("nl", Interface.defaultLimits, [])]).run blockedLater).world ∧
      Receipts (start .withRoute [("nl", Interface.defaultLimits, [])]) blockedLater ∧
      Modes (start .withRoute [("nl", Interface.defaultLimits, [])]) blockedLater :=
  ⟨by decide +kernel, receives_oldest.1 _ _ _ _ rfl,
    receives_oldest.2 _ blockedLater (isFresh_start _ _)⟩

end Concurrent

end NetlinkSocket
