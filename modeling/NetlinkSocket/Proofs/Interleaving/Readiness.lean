import NetlinkSocket.Proofs.Interleaving.Deliveries
import NetlinkSocket.Proofs.Interleaving.Slots

/-!
What a reported response is worth. A setup reports one that it finds queued. A wakeup reports that
one was queued since the poll was armed, and another reader may have been faster.
-/

namespace NetlinkSocket

open Concurrent (Action)

namespace Interface

variable {i : Interface} {c : Nat} {fd : PollDescriptor}

theorem responses_of_has (reads : (i.readyEvents c fd).has .readable = true) :
    (i.connection c).responses ≠ [] := by
  intro empty
  simp [has_readyEvents, empty] at reads

theorem arm_of_ready {s : Signals} (ready : (i.readyEvents c fd).isEmpty = false) :
    i.arm s c fd = (.ok (), i, (s.setSlot fd.slot (i.readyEvents c fd)).post fd.semaphore) := by
  simp only [arm]
  rw [if_pos]
  · rfl
  · simpa [readyEvents] using ready

end Interface

namespace View

variable {v later : View} {a : Action} {name : String} {c slot : Nat}

inductive Reports (v : View) (name : String) (c slot : Nat) : Action → Prop
  | step {key fdKey : Int} {h : Handle Attachment} {fd : PollDescriptor} :
      v.Attached key h c → h.family = name → v.descriptors.get? fdKey = some fd →
      fd.slot = slot → ((v.net name).readyEvents c fd).has .readable = true →
      Reports v name c slot (.step (.arm key fdKey))
  | call {key : Int} {events : Events} {h : Handle Attachment} {fd : PollDescriptor} :
      v.Attached key h c → h.family = name →
      fd = ⟨events, v.signals.newSlot.1, v.signals.newSemaphore.1⟩ → fd.slot = slot →
      ((v.net name).readyEvents c fd).has .readable = true →
      Reports v name c slot (.poll key events)
  | worker {n : Nat} {poll : ArmedPoll} :
      v.taken[n]? = some (name, poll.key, .poll c) → v.isHeld name c = true →
      ((v.net name).connection c).armed = some poll → poll.slot = slot →
      Reports v name c slot (.fire n)

/-- What an action can leave in a slot: a setup replaces what stands there if it finds something to
report, and the wakeup of a poll that is still armed by it adds to it. -/
inductive Writes (v : View) (slot : Nat) : Action → Events → Prop
  | kept {a : Action} : Writes v slot a (v.signals.events slot)
  | step {key fdKey : Int} {h : Handle Attachment} {c : Nat} {fd : PollDescriptor} :
      v.Attached key h c → v.descriptors.get? fdKey = some fd → fd.slot = slot →
      ((v.net h.family).readyEvents c fd).isEmpty = false →
      Writes v slot (.step (.arm key fdKey)) ((v.net h.family).readyEvents c fd)
  | call {key : Int} {events : Events} {h : Handle Attachment} {c : Nat} {fd : PollDescriptor} :
      v.Attached key h c → fd = ⟨events, v.signals.newSlot.1, v.signals.newSemaphore.1⟩ →
      fd.slot = slot → ((v.net h.family).readyEvents c fd).isEmpty = false →
      Writes v slot (.poll key events) ((v.net h.family).readyEvents c fd)
  | worker {n : Nat} {name : String} {c : Nat} {poll : ArmedPoll} :
      v.taken[n]? = some (name, poll.key, .poll c) → v.isHeld name c = true →
      ((v.net name).connection c).armed = some poll → poll.slot = slot →
      Writes v slot (.fire n) (v.signals.events slot ∪ Flags.single .readable)

theorem events_arm {i j : Interface} {s signals : Signals} {fd : PollDescriptor}
    (made : i.arm s c fd = (.ok (), j, signals)) (within : fd.slot < s.slots.length) (n : Nat) :
    signals.events n = s.events n ∨ fd.slot = n ∧ (i.readyEvents c fd).isEmpty = false ∧
      signals.events n = i.readyEvents c fd := by
  rcases Interface.arm_cases made with ⟨ready, -, rfl⟩ | ⟨-, -, -, rfl⟩ | ⟨-, -, -, rfl, -⟩
  · by_cases own : n = fd.slot
    · subst own
      exact .inr ⟨rfl, ready, Signals.events_setSlot within _⟩
    · exact .inl (Signals.events_setSlot_of_ne own _)
  · exact .inl rfl
  · exact .inl rfl

theorem writes_of_move (w : v.Watched) (m : Move v a later) (slot : Nat) :
    v.Writes slot a (later.signals.events slot) := by
  have kept (same : later.signals.events slot = v.signals.events slot) :
      v.Writes slot a (later.signals.events slot) := same ▸ .kept
  cases waiting_of_move w.placed m with
  | none calm | disarmed calm | pushed calm => exact kept (by rw [calm.signals])
  | described => exact kept (Signals.events_newSlot _ _)
  | describedAnew => exact kept (Signals.events_newSlot _ _)
  | registered | withdrew | itemTaken => exact .kept
  | tried _ taken | woke _ _ taken | polled _ _ taken => exact kept (Signals.events_take? taken _)
  | @armed _ _ h c fd i signals attached found made =>
    have within := (w.assigned.described _ (Table.mem_of_get? found)).1
    rcases events_arm made within slot with same | ⟨own, ready, written⟩
    · exact kept same
    · exact written ▸ .step attached found own ready
  | @beganPoll _ _ h c fd i signals attached own made =>
    have within : fd.slot < v.signals.newSlot.2.newSemaphore.2.slots.length := by
      rw [own]
      simp [Signals.newSlot, Signals.newSemaphore]
    rcases events_arm made within slot with same | ⟨mine, ready, written⟩
    · exact kept (same.trans (Signals.events_newSlot _ _))
    · exact written ▸ .call attached own mine ready
  | @itemFired n name key wakeup found =>
    cases wakeup with
    | reader semaphore => exact .kept
    | poll c =>
      rcases Interface.fire_poll (i := v.net name) (s := v.signals) (c := c) (v.isHeld name) key
        with ⟨poll, held, armed, rfl, fired⟩ | ⟨-, fired⟩
      · by_cases own : slot = poll.slot
        · have within := (w.assigned.armed name c poll armed).1
          have written : ((v.net name).fire v.signals (v.isHeld name) poll.key (.poll c)).2.2.events
              slot = v.signals.events slot ∪ Flags.single .readable := by
            rw [fired, own]
            exact Signals.events_addToSlot within _
          exact written ▸ .worker found held armed own.symm
        · refine kept ?_
          rw [fired]
          exact Signals.events_addToSlot_of_ne own _
      · refine kept ?_
        rw [fired]

theorem reports_of_move (w : v.Watched) (m : Move v a later)
    (unread : (v.signals.events slot).has .readable = false)
    (read : (later.signals.events slot).has .readable = true) :
    ∃ name c, v.Reports name c slot a := by
  have writes := writes_of_move w m slot
  generalize later.signals.events slot = left at read writes
  cases writes with
  | kept =>
    rw [unread] at read
    cases read
  | step attached found own => exact ⟨_, _, .step attached rfl found own read⟩
  | call attached new own => exact ⟨_, _, .call attached rfl new own read⟩
  | worker found held armed own => exact ⟨_, _, .worker found held armed own⟩

end View

namespace Concurrent

variable {t : Concurrent} {a : Action} {name : String} {c slot : Nat}

def ownDescriptor (t : Concurrent) (events : Events) : PollDescriptor :=
  ⟨events, t.signals.newSlot.1, t.signals.newSemaphore.1⟩

section

variable (netlink : t.IsNetlink) {key : Int} {h : Handle Attachment} {fd : PollDescriptor}
  (attached : t.view.Attached key h c)
include netlink attached

theorem view_arm {fdKey : Int} {i : Interface} {signals : Signals}
    (found : t.view.descriptors.get? fdKey = some fd)
    (made : (t.net h.family).arm t.signals c fd = (.ok (), i, signals)) :
    (t.act (.step (.arm key fdKey))).view = { t.view.setNet h.family i with signals } := by
  have socket : t.session.sockets.get? key = some h := attached.1
  have place : Netlink.attached? h = some c := attached.2
  have found : t.session.descriptors.get? fdKey = some fd := found
  have made : (t.session.world.net h.family).arm t.session.world.signals c fd = _ := made
  change (t.inSession (t.session.arm key fdKey).2).view = _
  simp only [Session.arm, Session.withSocket, Session.withDescriptor, Session.findSocket,
    Session.findDescriptor, socket, found, Session.whenFound, netlink.family, Netlink.family,
    Netlink.arm, place, made, Session.settle]
  simp [inSession, view, net, Concurrent.signals, world, View.setNet, World.net_setNet_signals]

theorem act_poll (events : Events) : t.act (.poll key events) =
    match (t.net h.family).arm t.signals.newSlot.2.newSemaphore.2 c (t.ownDescriptor events) with
    | (.error (line, failure), _, _) => t.begin
      ⟨key, h.family, c, .ended (.reported (.error (.failed failure)))⟩
      ((t.world.setNet h.family (t.net h.family)).log [line])
    | (.ok (), i, signals) => t.begin ⟨key, h.family, c, .polling (t.ownDescriptor events)⟩
      { t.world.setNet h.family i with signals } := by
  have place : Netlink.attached? h = some c := attached.2
  let polling := t.session.world.newSlot.2.newSemaphore.2
  have same : (polling.net h.family).arm polling.signals c
      ⟨events, t.session.world.newSlot.1, t.session.world.newSlot.2.newSemaphore.1⟩ =
    (t.net h.family).arm t.signals.newSlot.2.newSemaphore.2 c (t.ownDescriptor events) := rfl
  simp only [act, poll, attached?_eq_some.2 attached, netlink.family, Handle.setUpPoll,
    Netlink.family, Netlink.arm, place]
  rw [show t.world = t.session.world from rfl, same]
  rcases made : (t.net h.family).arm t.signals.newSlot.2.newSemaphore.2 c
    (t.ownDescriptor events) with ⟨⟨line, failure⟩ | ⟨⟩, i, signals⟩
  · obtain ⟨-, rfl, rfl⟩ := Interface.arm_eq_error made
    exact congrArg (t.begin _) (congrArg (World.log · [line])
      (congrArg (World.mk _ · _) t.signals.dropSlot_dropSemaphore_new))
  · rfl

theorem view_poll {events : Events} {i : Interface} {signals : Signals}
    (own : fd = t.ownDescriptor events)
    (made : (t.net h.family).arm t.signals.newSlot.2.newSemaphore.2 c fd = (.ok (), i, signals)) :
    (t.act (.poll key events)).view = { t.view.setNet h.family i with
      signals, calls := t.view.calls ++ [⟨key, h.family, c, .polling fd⟩] } := by
  subst own
  rw [act_poll netlink attached, made]
  simp only [view_begin, World.net_setNet_signals]
  rfl

end

theorem has_of_reports (s : t.Sound) (reports : t.view.Reports name c slot a) :
    ((t.act a).signals.events slot).has .readable = true := by
  cases reports with
  | @step key fdKey h fd attached family found own reads =>
    subst family
    subst own
    have within : fd.slot < t.signals.slots.length :=
      (s.watched.assigned.described _ (Table.mem_of_get? found)).1
    have made := Interface.arm_of_ready (s := t.signals) (Events.isEmpty_eq_false.2 ⟨_, reads⟩)
    have signals : (t.act (.step (.arm key fdKey))).signals = _ :=
      congrArg View.signals (view_arm s.netlink attached found made)
    rw [signals, Signals.events_post, Signals.events_setSlot within]
    exact reads
  | @call key events h fd attached family new own reads =>
    subst family
    subst own
    have within : fd.slot < t.signals.newSlot.2.newSemaphore.2.slots.length := by
      rw [new]
      change t.signals.slots.length < (t.signals.slots ++ [Flags.empty]).length
      simp
    have made := Interface.arm_of_ready (s := t.signals.newSlot.2.newSemaphore.2)
      (Events.isEmpty_eq_false.2 ⟨_, reads⟩)
    have signals : (t.act (.poll key events)).signals = _ :=
      congrArg View.signals (view_poll s.netlink attached new made)
    rw [signals, Signals.events_post, Signals.events_setSlot within]
    exact reads
  | worker found held armed own =>
    rw [(s.rings armed held found).events, if_pos own.symm]
    simp [Events.has_union]

theorem responses_of_reports (reports : t.view.Reports name c slot a) (setup : ∀ n, a ≠ .fire n) :
    t.view.responses name c ≠ [] := by
  cases reports with
  | step _ _ _ _ reads | call _ _ _ _ reads => exact Interface.responses_of_has reads
  | worker => exact absurd rfl (setup _)

theorem responses_reported (s : t.Sound) (reports : t.view.Reports name c slot a) :
    (t.act a).view.responses name c = t.view.responses name c := by
  have polling : isPolling (t, a) = true := by cases reports <;> rfl
  obtain ⟨still, -, -, lasting⟩ := still_of_isPolling polling
  exact (View.responses_move (act_move s.netlink a) still name c).resolve_left lasting

/-- Whoever receives next on a connection gets this response, and does not wait. -/
structure Serves (t : Concurrent) (name : String) (c : Nat) (message : Bytes) : Prop where
  receive : ∀ key h buffer flags sender, t.view.Attached key h c → h.family = name →
    (t.run [.receive key buffer flags sender, .goOn t.calls.length]).calls[t.calls.length]? =
      some ⟨key, name, c, .ended (.received (.ok
        (Netlink.handOver ((t.net name).connection c).peer message buffer sender)))⟩
  get : ∀ target, t.session.findTarget target = .ok (name, c) →
    (t.run [.get target, .goOn t.calls.length]).calls[t.calls.length]? =
      some ⟨none, name, c, .ended (.message (some message))⟩
  take : ∀ target, t.session.findTarget target = .ok (name, c) →
    (t.session.take target).1 = .ok (.message (some message))

theorem serves_of_responses {message : Bytes} {rest : List Bytes}
    (queued : t.view.responses name c = message :: rest) : t.Serves name c message := by
  have queued : ((t.net name).connection c).responses = message :: rest := queued
  obtain ⟨i, popped⟩ : ∃ i, (t.net name).pop? c = (some message, i) := by
    unfold Interface.pop?
    rw [queued]
    exact ⟨_, rfl⟩
  constructor
  case receive =>
    intro key h buffer flags sender attached family
    subst family
    have first : t.act (.receive key buffer flags sender) =
        t.begin ⟨key, h.family, c, .handing message buffer sender⟩ (t.world.setNet h.family i) := by
      simp only [act, Concurrent.receive, attached?_eq_some.2 attached, popped]
    have found : (t.act (.receive key buffer flags sender)).calls[t.calls.length]? =
        some ⟨key, h.family, c, .handing message buffer sender⟩ := by
      simp [first, begin]
    have net : (t.act (.receive key buffer flags sender)).net h.family = i := by
      rw [first]
      exact World.net_setNet_self _ _ _
    rw [run_cons, run_cons, run_nil, ended_of_handing found, net,
      Interface.connection_pop? popped, if_pos rfl]
  case get =>
    intro target found
    have entered : Netlink.enter name c t.world = (.took message, t.world.setNet name i) := by
      have popped : (t.world.net name).pop? c = _ := popped
      simp only [Netlink.enter, Interface.enter, World.net_newSemaphore, popped,
        World.dropSemaphore_newSemaphore]
    simp only [run_cons, run_nil, act, Concurrent.get, found]
    simp only [goOn, begin, proceed, advance, world, setWorld, List.getElem?_concat_length]
    rw [show t.session.world = t.world from rfl, entered]
    simp
  case take =>
    intro target found
    have popped : (t.session.world.net name).pop? c = _ := popped
    simp only [Session.take, Session.withTarget, found, Session.whenFound, popped, Session.answer]

theorem Sound.id_run (s : t.Sound) (within : c < (t.net name).connections.length)
    (actions : List Action) :
    (((t.run actions).net name).connection c).id = ((t.net name).connection c).id := by
  induction actions generalizing t with
  | nil => rfl
  | cons a actions ih =>
    have m := act_move s.netlink a
    have later := ih (s.act a) (Nat.lt_of_lt_of_le within (View.length_le m name))
    exact later.trans (View.id_move m within)

/-- A setup found no response and armed the connection, under a new key; it is armed ever since. -/
structure Arming (t : Concurrent) (past : List Action) (a : Action) (since : List Action)
    (name : String) (c : Nat) (poll : ArmedPoll) : Prop where
  arms : (t.run past).view.Arms (t.run (past ++ [a])).view name c poll a
  new : ((t.run past).net name).notifier.nextKey ≤ poll.key
  empty : (t.run (past ++ [a])).view.responses name c = []
  armed : ∀ xs ys, since = xs ++ ys →
    ((((t.run (past ++ [a])).run xs).net name).connection c).armed = some poll

variable {past since : List Action} {poll : ArmedPoll}

theorem arming_run (fresh : t.IsFresh) (actions : List Action)
    (armed : (((t.run actions).net name).connection c).armed = some poll) :
    ∃ past a since, actions = past ++ a :: since ∧ Arming t past a since name c poll := by
  induction actions using List.reverseRecOn with
  | nil =>
    rw [run_nil, Interface.connection_of_le (by simp [fresh.no_connections])] at armed
    cases armed
  | append_singleton actions b ih =>
    have s := fresh.sound.run actions
    have m := act_move s.netlink b
    have last := run_append_singleton t actions b
    by_cases before : (((t.run actions).net name).connection c).armed = some poll
    · obtain ⟨past, a, since, rfl, arming⟩ := ih before
      refine ⟨past, a, since ++ [b], by simp, arming.arms, arming.new, arming.empty, ?_⟩
      intro xs ys split
      rcases List.eq_nil_or_concat ys with rfl | ⟨zs, d, rfl⟩
      · rw [List.append_nil] at split
        rw [← run_append, ← split]
        simpa using armed
      · rw [List.concat_eq_append, ← List.append_assoc] at split
        exact arming.armed xs zs (List.append_inj_left' split rfl)
    · have now : ((((t.run actions).act b).net name).connection c).armed = some poll := last ▸ armed
      have arms := (View.armed_new s.watched m now).resolve_left before
      obtain ⟨pending, new⟩ := (View.armed_move s.watched m now).resolve_left before
      have sound := s.act b
      refine ⟨actions, b, [], rfl, last ▸ arms, new, ?_, ?_⟩
      · rw [last]
        exact (sound.watched.unanswered pending (.inl ⟨poll, now, rfl, rfl⟩)).2
      · intro xs ys split
        obtain ⟨rfl, rfl⟩ := List.append_eq_nil_iff.1 split.symm
        exact armed

theorem Sound.not_pending_of_taken (s : t.Sound) {n key : Nat} {w : Wakeup}
    (found : t.taken[n]? = some (name, key, w)) :
    ∀ r ∈ (t.net name).notifier.pending, r.key ≠ key := by
  have called : (key, w) ∈ t.view.takenOf name :=
    List.mem_filterMap.2 ⟨_, List.mem_of_getElem? found, by simp⟩
  rcases (s.watched.keyed name).places (View.wakeups_of_taken found) with
    ⟨-, -, -, -, -, none⟩ | ⟨unregistered, -⟩
  · have job : (key, w) ∈ (t.view.net name).jobs (t.view.takenOf name) key :=
      List.mem_filter.2 ⟨List.mem_append_right _ called, by simp⟩
    rw [none] at job
    cases job
  · intro r mem same
    have known : r ∈ (t.view.net name).registrations key := List.mem_filter.2 ⟨mem, by simp [same]⟩
    rw [unregistered] at known
    cases known

theorem signalled_since (fresh : t.IsFresh) {r : Registration Wakeup}
    (new : ((t.run past).net name).notifier.nextKey ≤ r.key)
    (signal : signalled t (past ++ since) name r = true) :
    ∃ step ∈ (t.run past).trace since, r ∈ step.1.view.registrants name ∧ tells name r step = true := by
  obtain ⟨step, mem, met⟩ := List.any_eq_true.1 signal
  simp only [Bool.and_eq_true, decide_eq_true_eq] at met
  rcases List.mem_append.1 (trace_append t past since ▸ mem) with earlier | later
  · exact absurd (key_lt_of_met fresh earlier met.1) (Nat.not_lt.2 new)
  · exact ⟨step, later, met⟩

namespace Arming

variable (fresh : t.IsFresh) (arming : Arming t past a since name c poll)
include fresh arming

theorem told {n : Nat}
    (found : (t.run (past ++ a :: since)).taken[n]? = some (name, poll.key, .poll c)) :
    ∃ step ∈ (t.run (past ++ [a])).trace since, tells name
      ⟨poll.key, (((t.run (past ++ [a])).net name).connection c).id, .poll c⟩ step = true := by
  have split := run_append_cons t past a since
  have armed := arming.armed since [] (List.append_nil _).symm
  have first : (((t.run (past ++ [a])).net name).connection c).armed = some poll :=
    arming.armed [] since rfl
  have same := (fresh.sound.run (past ++ [a])).id_run (Interface.lt_of_armed first) since
  rw [← split] at armed same
  rw [← same]
  have waits : ⟨poll.key, (((t.run (past ++ a :: since)).net name).connection c).id, .poll c⟩ ∈
      (t.run (past ++ a :: since)).view.registrants name :=
    View.mem_registrants.2 ⟨c, .inl ⟨poll, armed, rfl, rfl⟩, rfl⟩
  have signal := eq_true_of_ne_false fun unsignalled =>
    (fresh.sound.run _).not_pending_of_taken found _
      ((pending_run fresh _ waits).2 unsignalled) rfl
  obtain ⟨step, mem, met, tells⟩ := signalled_since fresh arming.new signal
  rcases List.mem_cons.1 mem with rfl | later
  · have below := (fresh.sound.run past).watched.key_lt_of_registrants met
    exact absurd below (Nat.not_lt.2 arming.new)
  · refine ⟨step, ?_, tells⟩
    rw [run_append]
    exact later

theorem added_ne_nil {n : Nat}
    (found : (t.run (past ++ a :: since)).taken[n]? = some (name, poll.key, .poll c))
    (few : ((t.run (past ++ a :: since)).net name).connections.length < Interface.identities) :
    added (t.run (past ++ [a])) since name c ≠ [] := by
  obtain ⟨step, mem, tells⟩ := arming.told fresh found
  obtain ⟨xs, ys, split, at_xs⟩ := mem_trace.1 mem
  obtain ⟨⟨other, d, message⟩, queued, here⟩ := (Option.any_eq_true _ _).1 tells
  simp only [Bool.and_eq_true, decide_eq_true_eq] at here
  obtain ⟨rfl, subject⟩ := here
  have s := fresh.sound.run (past ++ [a])
  have sound : step.1.Sound := s.of_mem_trace mem
  have there := (net_of_queues sound.watched.placed queued).2.1
  have first : (((t.run (past ++ [a])).net other).connection c).armed = some poll :=
    arming.armed [] since rfl
  have within := Interface.lt_of_armed first
  have last := run_append_cons t past a since
  have after : t.run (past ++ a :: since) = step.1.run (step.2 :: ys) := by
    rw [last, split, run_append, ← at_xs]
  have own : d = c := by
    refine (books_run fresh _ few).id_injective ?_ ?_ ?_
    · rw [after]
      exact Nat.lt_of_lt_of_le there (length_run sound.netlink _ _)
    · rw [last]
      exact Nat.lt_of_lt_of_le within (length_run s.netlink _ _)
    · calc (((t.run (past ++ a :: since)).net other).connection d).id
        _ = ((step.1.net other).connection d).id := by rw [after, sound.id_run there]
        _ = (((t.run (past ++ [a])).net other).connection c).id := subject
        _ = (((t.run (past ++ a :: since)).net other).connection c).id := by
          rw [last, s.id_run within]
  subst own
  have mem : message ∈ added (t.run (past ++ [a])) since other d :=
    List.mem_filterMap.2 ⟨step, mem, by simp [queuedOn, queued, ofConnection]⟩
  exact List.ne_nil_of_mem mem

theorem delivered_append : delivered (t.run (past ++ [a])) since name c ++
    (t.run (past ++ a :: since)).view.responses name c =
      added (t.run (past ++ [a])) since name c := by
  have s := fresh.sound.run (past ++ [a])
  have last := run_append_cons t past a since
  rw [last, Concurrent.delivered_append s since, arming.empty, List.nil_append]
  intro step mem
  cases ends : endsLast name c step with
  | false => rfl
  | true =>
    obtain ⟨xs, ys, split, at_xs⟩ := mem_trace.1 mem
    obtain ⟨u, b⟩ := step
    obtain rfl : u = (t.run (past ++ [a])).run xs := at_xs
    have gone := unarmed_of_cut (s.run xs).netlink (.inr (endsLast_eq_true.1 ends))
    have armed := arming.armed (xs ++ [b]) ys (by simp [split])
    rw [run_append] at armed
    exact absurd (gone.symm.trans armed) nofun

end Arming

/-- A poll was set up, and its wakeup is called. A response was queued since, under the identity of
the connection. Those queued on the connection since were taken since, or are still there. -/
structure Told (t : Concurrent) (past : List Action) (a : Action) (since : List Action)
    (name : String) (c : Nat) (poll : ArmedPoll) : Prop
    extends Arming t past a since name c poll where
  told : ∃ step ∈ (t.run (past ++ [a])).trace since, tells name
    ⟨poll.key, (((t.run (past ++ [a])).net name).connection c).id, .poll c⟩ step = true
  own : ((t.run (past ++ a :: since)).net name).connections.length < Interface.identities →
    added (t.run (past ++ [a])) since name c ≠ []
  flows : delivered (t.run (past ++ [a])) since name c ++
    (t.run (past ++ a :: since)).view.responses name c = added (t.run (past ++ [a])) since name c

structure Readiness (t : Concurrent) (actions : List Action) : Prop where
  written : ∀ step ∈ t.trace actions, ∀ slot, (step.1.signals.events slot).has .readable = false →
    ((step.1.act step.2).signals.events slot).has .readable = true →
      ∃ name c, step.1.view.Reports name c slot step.2
  reported : ∀ step ∈ t.trace actions, ∀ name c slot, step.1.view.Reports name c slot step.2 →
    ((step.1.act step.2).signals.events slot).has .readable = true
  atOnce : ∀ step ∈ t.trace actions, ∀ name c slot, step.1.view.Reports name c slot step.2 →
    (∀ n, step.2 ≠ .fire n) → step.1.view.responses name c ≠ []
  later : ∀ xs n ys, actions = xs ++ .fire n :: ys → ∀ name c slot,
    (t.run xs).view.Reports name c slot (.fire n) → ∃ past a since poll,
      xs = past ++ a :: since ∧ poll.slot = slot ∧ Told t past a since name c poll
  serves : ∀ step ∈ t.trace actions, ∀ name c slot, step.1.view.Reports name c slot step.2 →
    (step.1.act step.2).view.responses name c = step.1.view.responses name c ∧
      ∀ message rest, step.1.view.responses name c = message :: rest →
        (step.1.act step.2).Serves name c message

theorem readiness_run (fresh : t.IsFresh) (actions : List Action) : Readiness t actions := by
  have sound {step : Concurrent × Action} (mem : step ∈ t.trace actions) : step.1.Sound :=
    fresh.sound.of_mem_trace mem
  constructor
  case written =>
    intro step mem slot unread read
    exact View.reports_of_move (sound mem).watched (act_move (sound mem).netlink step.2) unread read
  case reported => exact fun step mem name c slot reports => has_of_reports (sound mem) reports
  case atOnce =>
    intro step mem name c slot reports setup
    exact responses_of_reports reports setup
  case later =>
    intro xs n ys split name c slot reports
    cases reports with
    | @worker _ poll found held armed own =>
      obtain ⟨past, a, since, rfl, arming⟩ := arming_run fresh xs armed
      exact ⟨past, a, since, poll, rfl, own, arming, arming.told fresh found,
        arming.added_ne_nil fresh found, arming.delivered_append fresh⟩
  case serves =>
    intro step mem name c slot reports
    have kept := responses_reported (sound mem) reports
    exact ⟨kept, fun message rest queued => serves_of_responses (kept.trans queued)⟩

/-- One handle is polled; a response comes, and another handle receives it before the wakeup is
called. -/
def readerFirst : List Action :=
  [.step (.register 16 "nl"), .step (.socket 0 16 3 0), .step (.duplicate 0 1),
    .step (.descriptor 0 (Flags.single .readable) 0), .step (.arm 0 0),
    .step (.push (.socket 0) [1]), .receive 1 [0] Flags.empty none, .goOn 0, .take "nl"]

theorem reports_readerFirst :
    ((start .withRoute [("nl", Interface.defaultLimits, [])]).run readerFirst).view.Reports "nl" 0
      0 (.fire 0) := by
  have armed : ((((start .withRoute [("nl", Interface.defaultLimits, [])]).run
      readerFirst).net "nl").connection 0).armed = some ⟨0, 0, 1⟩ := by decide +kernel
  exact .worker (by rfl) (by decide +kernel) armed rfl

theorem readiness_readerFirst :
    (((start .withRoute [("nl", Interface.defaultLimits, [])]).run readerFirst).view.Reports "nl" 0
        0 (.fire 0) ∧
      added (start .withRoute [("nl", Interface.defaultLimits, [])]) readerFirst "nl" 0 = [[1]] ∧
      delivered (start .withRoute [("nl", Interface.defaultLimits, [])]) readerFirst "nl" 0 =
        [[1]]) ∧
      Readiness (start .withRoute [("nl", Interface.defaultLimits, [])])
        (readerFirst ++ [.fire 0]) :=
  ⟨⟨reports_readerFirst, by decide +kernel, by decide +kernel⟩,
    readiness_run (isFresh_start _ _) _⟩

theorem not_always_queued : ¬∀ (t : Concurrent), t.IsFresh → ∀ (actions : List Action),
    ∀ step ∈ t.trace actions, ∀ (name : String) (c slot : Nat),
      step.1.view.Reports name c slot step.2 → step.1.view.responses name c ≠ [] := by
  intro claimed
  have queued := claimed (start .withRoute [("nl", Interface.defaultLimits, [])])
    (isFresh_start _ _) (readerFirst ++ [.fire 0]) (_, .fire 0)
    (mem_trace.2 ⟨readerFirst, [], rfl, rfl⟩) "nl" 0 0 reports_readerFirst
  exact queued (by decide +kernel)

end Concurrent

end NetlinkSocket
