import NetlinkSocket.Proofs.Interleaving.Readiness

/-!
How accurate a slot is. A setup that finds something to report replaces what stands in the slot of
its descriptor. One that arms the connection leaves the slot as it is, so what an earlier poll was
told stays there.
-/

namespace NetlinkSocket

open Concurrent (Action)

def Concurrent.Action.events? : Action → Option Events
  | .step (.descriptor _ events _) | .poll _ events => some events
  | _ => none

namespace Interface

variable {i later : Interface} {s signals : Signals} {c : Nat} {fd : PollDescriptor}

theorem unwritable_of_isEmpty (waits : (i.readyEvents c fd).isEmpty = true) :
    fd.events.has .writable = false := by
  have none := Events.isEmpty_eq_true.1 waits .writable
  simpa [has_readyEvents] using none

theorem asked_of_readyEvents {e : Event} (ready : (i.readyEvents c fd).has e = true) :
    fd.events.has e = true := by
  rw [has_readyEvents, Bool.and_eq_true] at ready
  exact ready.1

theorem readable_of_readyEvents (unwritable : fd.events.has .writable = false) {e : Event}
    (ready : (i.readyEvents c fd).has e = true) : e = .readable := by
  rw [has_readyEvents, Bool.and_eq_true] at ready
  obtain ⟨asked, writable | ⟨-, readable⟩⟩ := by simpa using ready
  · rw [writable, unwritable] at asked
    cases asked
  · exact readable

theorem asks_of_arm (h : i.arm s c fd = (.ok (), later, signals)) {d : Nat} {poll : ArmedPoll}
    (armed : (later.connection d).armed = some poll)
    (new : (i.connection d).armed ≠ some poll) :
    fd.events.has .readable = true ∧ fd.events.has .writable = false := by
  rcases arm_cases h with ⟨-, rfl, -⟩ | ⟨-, -, rfl, -⟩ | ⟨waits, reads, -⟩
  · exact absurd armed new
  · exact absurd armed new
  · exact ⟨reads, unwritable_of_isEmpty waits⟩

end Interface

namespace View

variable {v later : View} {a : Action} {asks : Nat → Events} {heard : Nat → Prop}

theorem signals_le (w : v.Watched) (m : Move v a later) :
    v.signals.semaphores.length ≤ later.signals.semaphores.length ∧
      v.signals.slots.length ≤ later.signals.slots.length := by
  have unchanged (semaphores : later.signals.semaphores.length = v.signals.semaphores.length)
      (slots : later.signals.slots.length = v.signals.slots.length) :
      v.signals.semaphores.length ≤ later.signals.semaphores.length ∧
        v.signals.slots.length ≤ later.signals.slots.length :=
    ⟨Nat.le_of_eq semaphores.symm, Nat.le_of_eq slots.symm⟩
  cases waiting_of_move w.placed m with
  | none calm | disarmed calm | pushed calm =>
    exact unchanged (by rw [calm.signals]) (by rw [calm.signals])
  | described | describedAnew | registered => simp [Signals.newSlot, Signals.newSemaphore]
  | withdrew | itemTaken => exact unchanged rfl rfl
  | tried _ taken | woke _ _ taken | polled _ _ taken =>
    obtain ⟨-, -, semaphores, slots⟩ := Signals.take?_eq_some taken
    exact unchanged semaphores (congrArg List.length slots)
  | armed _ _ made =>
    obtain ⟨semaphores, slots, -⟩ := Interface.signals_arm made
    exact unchanged semaphores slots
  | beganPoll _ _ made =>
    obtain ⟨semaphores, slots, -⟩ := Interface.signals_arm made
    simp [semaphores, slots, Signals.newSlot, Signals.newSemaphore]
  | @itemFired n name key wakeup =>
    cases wakeup with
    | reader => exact unchanged (Signals.length_post _ _) rfl
    | poll c =>
      rcases Interface.fire_poll (i := v.net name) (s := v.signals) (c := c) (v.isHeld name) key
        with ⟨poll, -, -, -, fired⟩ | ⟨-, fired⟩
      · refine unchanged ?_ ?_
        · rw [fired]
          simp [Signals.addToSlot]
        · rw [fired]
          exact Signals.length_addToSlot v.signals poll.slot _
      · exact unchanged (by rw [fired]) (by rw [fired])

theorem described_before (m : Move v a later) {e : Int × PollDescriptor}
    (mem : e ∈ later.descriptors.entries) : e ∈ v.descriptors.entries ∨
      e.2.slot = v.signals.slots.length ∧ a.events? = some e.2.events := by
  cases m with
  | described | describedAnew =>
    rcases Table.mem_insert mem with rfl | old
    · exact .inr ⟨rfl, rfl⟩
    · exact .inl old
  | _ => exact .inl mem

theorem asks_of_armed (w : v.Watched) (m : Move v a later) {name : String} {c : Nat}
    {poll : ArmedPoll} (armed : ((later.net name).connection c).armed = some poll) :
    ((v.net name).connection c).armed = some poll ∨ ∃ fd : PollDescriptor,
      (fd.events.has .readable = true ∧ fd.events.has .writable = false) ∧
        fd.slot = poll.slot ∧ ((∃ fdKey, v.descriptors.get? fdKey = some fd) ∨
          fd.slot = v.signals.slots.length ∧ a.events? = some fd.events) := by
  refine or_iff_not_imp_left.2 fun new => ?_
  have asks {other : String} {i : Interface} {s signals : Signals} {d : Nat}
      {fd : PollDescriptor} (made : (v.net other).arm s d fd = (.ok (), i, signals))
      (here : other = name)
      (armed : (((v.setNet other i).net name).connection c).armed = some poll) :
      fd.events.has .readable = true ∧ fd.events.has .writable = false := by
    subst here
    simp only [net_setNet, Function.update_self] at armed
    exact Interface.asks_of_arm made armed new
  cases (armed_new w m armed).resolve_left new with
  | step _ family found slot =>
    cases m with
    | idle => exact absurd armed new
    | began other => exact absurd rfl (other _)
    | closed ends | lost ends => rcases ends with ends | ends <;> cases ends
    | named _ _ renames => cases renames
    | armed attached known made =>
      rcases Assigned.armed_setNet_arm (v := v) rfl made armed with old | ⟨here, -, own, -⟩
      · exact absurd old new
      · exact ⟨_, asks made here.symm armed, own.symm, .inl ⟨_, known⟩⟩
  | call =>
    cases m with
    | idle | began => exact absurd armed new
    | beganPoll attached own made =>
      rcases Assigned.armed_setNet_arm (v := v) rfl made armed with old | ⟨here, -, mine, -⟩
      · exact absurd old new
      · refine ⟨_, asks made here.symm armed, mine.symm, .inr ?_⟩
        rw [own]
        exact ⟨rfl, rfl⟩

/-- Every slot was made for a set of events. One that is not for writing holds a response if it was
told of one, and nothing else. -/
structure Marked (v : View) (asks : Nat → Events) (heard : Nat → Prop) : Prop where
  described : ∀ e ∈ v.descriptors.entries, asks e.2.slot = e.2.events
  armed : ∀ name c poll, ((v.net name).connection c).armed = some poll →
    (asks poll.slot).has .readable = true ∧ (asks poll.slot).has .writable = false
  asked : ∀ slot, heard slot →
    slot < v.signals.slots.length ∧ (asks slot).has .readable = true
  slots : ∀ slot, (asks slot).has .writable = false → ∀ e,
    (v.signals.events slot).has e = true ↔ e = .readable ∧ heard slot

def asksAfter (v : View) (asks : Nat → Events) (a : Action) : Nat → Events :=
  match a.events? with
  | none => asks
  | some events => Function.update asks v.signals.slots.length events

theorem asksAfter_of_lt {slot : Nat} (within : slot < v.signals.slots.length) :
    v.asksAfter asks a slot = asks slot := by
  cases made : a.events? with
  | none => simp [asksAfter, made]
  | some events => simp [asksAfter, made, Nat.ne_of_lt within]

theorem unwritable_before {slot : Nat} (unwritable : (v.asksAfter asks a slot).has .writable = false)
    (there : slot < v.signals.slots.length) : (asks slot).has .writable = false := by
  rwa [asksAfter_of_lt there] at unwritable

theorem asksAfter_new {events : Events} (made : a.events? = some events) :
    v.asksAfter asks a v.signals.slots.length = events := by
  simp [asksAfter, made]

end View

theorem Signals.lt_of_has {s : Signals} {n : Nat} {e : Event} (has : (s.events n).has e = true) :
    n < s.slots.length := by
  by_contra beyond
  simp [Signals.events, List.getElem?_eq_none (Nat.le_of_not_lt beyond)] at has

namespace Concurrent

variable {t : Concurrent} {asks : Nat → Events} {heard : Nat → Prop}

section

variable {a : Action} {slot : Nat} (s : t.Sound) (k : t.view.Marked asks heard)
include s k

theorem described_act {e : Int × PollDescriptor} (mem : e ∈ (t.act a).view.descriptors.entries) :
    t.view.asksAfter asks a e.2.slot = e.2.events := by
  rcases View.described_before (act_move s.netlink a) mem with old | ⟨new, made⟩
  · rw [View.asksAfter_of_lt (s.watched.assigned.described e old).1]
    exact k.described e old
  · rw [new]
    exact View.asksAfter_new made

theorem asks_armed_act {name : String} {c : Nat} {poll : ArmedPoll}
    (armed : (((t.act a).net name).connection c).armed = some poll) :
    (t.view.asksAfter asks a poll.slot).has .readable = true ∧
      (t.view.asksAfter asks a poll.slot).has .writable = false := by
  have g := s.watched.assigned
  rcases View.asks_of_armed s.watched (act_move s.netlink a) armed with
    old | ⟨fd, asked, own, ⟨fdKey, known⟩ | ⟨new, made⟩⟩
  · rw [View.asksAfter_of_lt (g.armed name c poll old).1]
    exact k.armed name c poll old
  · have mem := Table.mem_of_get? known
    rw [← own, View.asksAfter_of_lt (g.described _ mem).1, k.described _ mem]
    exact asked
  · rw [← own, new, View.asksAfter_new made]
    exact asked

theorem asked_of_reports {name : String} {c : Nat} (reports : t.view.Reports name c slot a) :
    (t.view.asksAfter asks a slot).has .readable = true := by
  have g := s.watched.assigned
  cases reports with
  | step attached family found own reads =>
    have mem := Table.mem_of_get? found
    rw [← own, View.asksAfter_of_lt (g.described _ mem).1, k.described _ mem]
    exact Interface.asked_of_readyEvents reads
  | call attached family new own reads =>
    have first : slot = t.view.signals.slots.length := by rw [← own, new]; rfl
    rw [first, View.asksAfter_new rfl]
    have asked := Interface.asked_of_readyEvents reads
    rwa [new] at asked
  | worker found held armed own =>
    rw [← own, View.asksAfter_of_lt (g.armed _ _ _ armed).1]
    exact (k.armed _ _ _ armed).1

section

variable (unwritable : (t.view.asksAfter asks a slot).has .writable = false)
include unwritable

theorem heard_of_has {e : Event} (has : ((t.act a).view.signals.events slot).has e = true) :
    e = .readable ∧ (heard slot ∨ ∃ name c, t.view.Reports name c slot a) := by
  have kept (has : (t.view.signals.events slot).has e = true) : e = .readable ∧ heard slot :=
    (k.slots slot (View.unwritable_before unwritable (Signals.lt_of_has has)) e).1 has
  have writes := View.writes_of_move s.watched (act_move s.netlink a) slot
  generalize (t.act a).view.signals.events slot = left at has writes
  cases writes with
  | kept => exact (kept has).imp_right .inl
  | step attached found own =>
    have mem := Table.mem_of_get? found
    have there := own ▸ (s.watched.assigned.described _ mem).1
    have mine := k.described _ mem
    rw [own] at mine
    have read := Interface.readable_of_readyEvents
      (mine ▸ View.unwritable_before unwritable there) has
    exact ⟨read, .inr ⟨_, _, .step attached rfl found own (read ▸ has)⟩⟩
  | call attached new own =>
    have first : slot = t.view.signals.slots.length := by rw [← own, new]; rfl
    rw [first, View.asksAfter_new rfl] at unwritable
    have read := Interface.readable_of_readyEvents (by rwa [new]) has
    exact ⟨read, .inr ⟨_, _, .call attached rfl new own (read ▸ has)⟩⟩
  | worker found held armed own =>
    rw [Events.has_union, Bool.or_eq_true] at has
    rcases has with old | added
    · exact (kept old).imp_right .inl
    · exact ⟨by simpa using added, .inr ⟨_, _, .worker found held armed own⟩⟩

theorem has_of_heard (before : heard slot) :
    ((t.act a).view.signals.events slot).has .readable = true := by
  have there := (k.asked slot before).1
  have asked := View.unwritable_before unwritable there
  have has := (k.slots slot asked .readable).2 ⟨rfl, before⟩
  have writes := View.writes_of_move s.watched (act_move s.netlink a) slot
  generalize (t.act a).view.signals.events slot = left at writes ⊢
  cases writes with
  | kept => exact has
  | step attached found own ready =>
    obtain ⟨e, reported⟩ := Events.isEmpty_eq_false.1 ready
    have mine := k.described _ (Table.mem_of_get? found)
    rw [own] at mine
    exact Interface.readable_of_readyEvents (mine ▸ asked) reported ▸ reported
  | call attached new own =>
    have first : slot = t.view.signals.slots.length := by rw [← own, new]; rfl
    exact absurd there (Nat.not_lt.2 (Nat.le_of_eq first.symm))
  | worker => simp [Events.has_union]

end

theorem marked_act (a : Action) :
    (t.act a).view.Marked (t.view.asksAfter asks a)
      fun slot => heard slot ∨ ∃ name c, t.view.Reports name c slot a := by
  refine ⟨fun e mem => described_act s k mem, fun name c poll armed => asks_armed_act s k armed,
    ?_, fun slot unwritable e => ⟨heard_of_has s k unwritable, ?_⟩⟩
  · rintro slot (before | ⟨name, c, reports⟩)
    · obtain ⟨there, asked⟩ := k.asked slot before
      rw [View.asksAfter_of_lt there]
      exact ⟨Nat.lt_of_lt_of_le there (View.signals_le s.watched (act_move s.netlink a)).2, asked⟩
    · exact ⟨Signals.lt_of_has (has_of_reports s reports), asked_of_reports s k reports⟩
  · rintro ⟨rfl, before | ⟨name, c, reports⟩⟩
    · exact has_of_heard s k unwritable before
    · exact has_of_reports s reports

end

def Heard (t : Concurrent) (actions : List Action) (slot : Nat) : Prop :=
  ∃ step ∈ t.trace actions, ∃ name c, step.1.view.Reports name c slot step.2

theorem heard_append_singleton {actions : List Action} {a : Action} {slot : Nat} :
    Heard t (actions ++ [a]) slot ↔
      Heard t actions slot ∨ ∃ name c, (t.run actions).view.Reports name c slot a := by
  simp [Heard, trace_append, or_and_right, exists_or]

theorem marked_run (fresh : t.IsFresh) (actions : List Action) :
    ∃ asks, (t.run actions).view.Marked asks (Heard t actions) := by
  induction actions using List.reverseRecOn with
  | nil =>
    refine ⟨fun _ => Flags.empty, ?_⟩
    constructor
    case described =>
      intro e mem
      rw [run_nil, show t.view.descriptors = .empty from fresh.descriptors] at mem
      cases mem
    case armed =>
      intro name c poll armed
      have none : (((t.run []).net name).connection c).armed = none := by
        rw [run_nil, Interface.connection_of_le (by simp [fresh.no_connections])]
        rfl
      exact absurd (none.symm.trans armed) nofun
    case asked =>
      rintro slot ⟨step, mem, -⟩
      cases mem
    case slots =>
      intro slot _ e
      have none : t.view.signals.events slot = Flags.empty := by
        rw [show t.view.signals = .empty from fresh.signals]
        rfl
      simp [none, Heard]
  | append_singleton actions a ih =>
    obtain ⟨asks, k⟩ := ih
    have next := marked_act (fresh.sound.run actions) k a
    rw [run_append_singleton]
    have same : Heard t (actions ++ [a]) = fun slot =>
        Heard t actions slot ∨ ∃ name c, (t.run actions).view.Reports name c slot a :=
      funext fun slot => propext heard_append_singleton
    exact ⟨_, same ▸ next⟩

theorem arm_eq_done (netlink : t.IsNetlink) {key fdKey : Int}
    (done : (t.session.arm key fdKey).1 = .ok .done) :
    ∃ h c fd i signals, t.view.Attached key h c ∧ t.view.descriptors.get? fdKey = some fd ∧
      (t.net h.family).arm t.signals c fd = (.ok (), i, signals) := by
  simp only [Session.arm, Session.withSocket, Session.findSocket] at done
  cases socket : t.session.sockets.get? key with
  | none => simp [socket, Session.whenFound, Session.refuse] at done
  | some h =>
    simp only [socket, Session.whenFound, Session.withDescriptor, Session.findDescriptor] at done
    cases found : t.session.descriptors.get? fdKey with
    | none => simp [found, Session.refuse] at done
    | some fd =>
      simp only [found, netlink.family, Netlink.family, Netlink.arm] at done
      cases place : Netlink.attached? h with
      | none => simp [place, fails, Session.settle] at done
      | some c =>
        simp only [place] at done
        rcases made : (t.session.world.net h.family).arm t.session.world.signals c fd with
          ⟨refused | ⟨⟩, i, signals⟩
        · simp [made, fails, Session.settle] at done
        · exact ⟨h, c, fd, i, signals, ⟨socket, place⟩, found, made⟩

theorem poll_eq_polling (netlink : t.IsNetlink) {key : Int} {events : Events} {call : Call}
    {fd : PollDescriptor} (new : (t.act (.poll key events)).calls = t.calls ++ [call])
    (here : call.stage = .polling fd) :
    ∃ h c i signals, t.view.Attached key h c ∧ call = ⟨key, h.family, c, .polling fd⟩ ∧
      fd = ⟨events, t.signals.newSlot.1, t.signals.newSemaphore.1⟩ ∧
      (t.net h.family).arm t.signals.newSlot.2.newSemaphore.2 c fd = (.ok (), i, signals) := by
  have m := act_move netlink (.poll key events)
  have calls : (t.act (.poll key events)).view.calls = t.view.calls ++ [call] := new
  generalize (t.act (.poll key events)).view = later at m calls
  cases m with
  | idle => simp at calls
  | began _ _ passing =>
    cases List.append_cancel_left calls
    rw [here] at passing
    cases passing
  | beganPoll attached own made =>
    cases List.append_cancel_left calls
    cases here
    exact ⟨_, _, _, _, attached, rfl, own, made⟩

/-- What a setup that succeeds leaves in the slot of its descriptor, which was told of a response
before or was not. The slot tells what is ready, unless nothing is and it was told before; then it
tells of a response that nobody knows to be there. -/
structure SetUp (t later : Concurrent) (heard : Prop) (name : String) (c : Nat)
    (fd : PollDescriptor) : Prop where
  exact_iff : later.signals.events fd.slot = (t.net name).readyEvents c fd ↔
    ((t.net name).readyEvents c fd).isEmpty = false ∨ ¬heard
  stale : ((t.net name).readyEvents c fd).isEmpty = true → heard →
    fd.events.has .readable = true ∧ later.signals.events fd.slot = Flags.single .readable
  armed : ((t.net name).readyEvents c fd).isEmpty = true → fd.events.has .readable = true →
    ∃ key, ((later.net name).connection c).armed = some ⟨fd.slot, fd.semaphore, key⟩

theorem setUp_of_arm {later : Concurrent} {name : String} {c : Nat} {fd : PollDescriptor}
    {before : Signals} {told : Prop}
    (made : (t.net name).arm before c fd = (.ok (), later.net name, later.signals))
    (place : c < (t.net name).connections.length) (within : fd.slot < before.slots.length)
    (asked : told → fd.events.has .readable = true)
    (law : fd.events.has .writable = false → ∀ e,
      (before.events fd.slot).has e = true ↔ e = .readable ∧ told) :
    SetUp t later told name c fd := by
  -- The other two cases leave the slot as it is, and nothing is ready.
  have kept (waits : ((t.net name).readyEvents c fd).isEmpty = true)
      (same : later.signals = before)
      (armed : fd.events.has .readable = true →
        ∃ key, ((later.net name).connection c).armed = some ⟨fd.slot, fd.semaphore, key⟩) :
      SetUp t later told name c fd := by
    replace law := law (Interface.unwritable_of_isEmpty waits)
    have stale (old : told) : later.signals.events fd.slot = Flags.single .readable := by
      refine Events.ext_has fun e => ?_
      rw [same, Events.has_single, Bool.eq_iff_iff, law e, decide_eq_true_eq]
      exact and_iff_left old
    refine ⟨?_, fun _ old => ⟨asked old, stale old⟩, fun _ => armed⟩
    constructor
    · refine fun ready => .inr fun old => ?_
      rw [← ready, stale old] at waits
      cases waits
    · rintro (ready | new)
      · exact absurd (waits.symm.trans ready) nofun
      · refine Events.ext_has fun e => ?_
        rw [Events.isEmpty_eq_true.1 waits e, same, ← Bool.not_eq_true, law e]
        exact fun both => new both.2
  rcases Interface.arm_cases made with
    ⟨ready, -, signals⟩ | ⟨waits, unread, -, same⟩ | ⟨waits, -, -, same, notifier, -, net⟩
  · have written : later.signals.events fd.slot = (t.net name).readyEvents c fd := by
      rw [signals, Signals.events_post, Signals.events_setSlot within]
    have busy (waits : ((t.net name).readyEvents c fd).isEmpty = true) : False :=
      absurd (ready.symm.trans waits) nofun
    exact ⟨iff_of_true written (.inl ready), fun waits => (busy waits).elim,
      fun waits => (busy waits).elim⟩
  · exact kept waits same fun reads => absurd (unread.symm.trans reads) nofun
  · refine kept waits same fun _ => ⟨(t.net name).notifier.nextKey, ?_⟩
    rw [net]
    exact congrArg Connection.armed (Interface.connection_update_self _ c _ place)

structure Accuracy (t : Concurrent) (actions : List Action) : Prop where
  descriptor : ∀ past key fdKey rest, actions = past ++ .step (.arm key fdKey) :: rest →
    ((t.run past).session.arm key fdKey).1 = .ok .done →
    ∃ h c fd, (t.run past).view.Attached key h c ∧
      (t.run past).view.descriptors.get? fdKey = some fd ∧
      SetUp (t.run past) (t.run (past ++ [.step (.arm key fdKey)])) (Heard t past fd.slot)
        h.family c fd
  call : ∀ past key events rest, actions = past ++ .poll key events :: rest →
    ∀ call fd, (t.run (past ++ [.poll key events])).calls = (t.run past).calls ++ [call] →
      call.stage = .polling fd → fd.events = events ∧
        (∃ h, (t.run past).view.Attached key h call.connection ∧ h.family = call.interface) ∧
        SetUp (t.run past) (t.run (past ++ [.poll key events])) False call.interface
          call.connection fd
  armed : ∀ past rest, actions = past ++ rest → ∀ name c poll,
    (((t.run past).net name).connection c).armed = some poll → ∀ e,
      ((t.run past).signals.events poll.slot).has e = true ↔
        e = .readable ∧ Heard t past poll.slot

theorem accuracy_run (fresh : t.IsFresh) (actions : List Action) : Accuracy t actions := by
  constructor
  case descriptor =>
    intro past key fdKey rest _ done
    have s := fresh.sound.run past
    obtain ⟨h, c, fd, i, signals, attached, found, made⟩ := arm_eq_done s.netlink done
    refine ⟨h, c, fd, attached, found, ?_⟩
    rw [run_append_singleton]
    have view := view_arm s.netlink attached found made
    have net : ((t.run past).act (.step (.arm key fdKey))).net h.family = i :=
      (congrArg (fun v : View => v.net h.family) view).trans (by simp [View.setNet])
    have slots : ((t.run past).act (.step (.arm key fdKey))).signals = signals :=
      congrArg View.signals view
    obtain ⟨asks, k⟩ := marked_run fresh past
    have mem := Table.mem_of_get? found
    have mine := k.described _ mem
    refine setUp_of_arm (by rw [net, slots]; exact made) (s.watched.placed.of_attached attached).1
      (s.watched.assigned.described _ mem).1 (fun heard => ?_) fun unwritable => ?_
    · exact mine ▸ (k.asked _ heard).2
    · exact k.slots fd.slot (mine ▸ unwritable)
  case call =>
    intro past key events rest _ call fd new here
    have s := fresh.sound.run past
    rw [run_append_singleton] at new ⊢
    obtain ⟨h, c, i, signals, attached, rfl, rfl, made⟩ := poll_eq_polling s.netlink new here
    refine ⟨rfl, ⟨h, attached, rfl⟩, ?_⟩
    have view := view_poll s.netlink attached rfl made
    have net : ((t.run past).act (.poll key events)).net h.family = i :=
      (congrArg (fun v : View => v.net h.family) view).trans (by simp [View.setNet])
    have slots : ((t.run past).act (.poll key events)).signals = signals :=
      congrArg View.signals view
    refine setUp_of_arm (by rw [net, slots]; exact made) (s.watched.placed.of_attached attached).1
      ?_ False.elim fun _ e => ?_
    · simp [Signals.newSlot, Signals.newSemaphore]
    · simp [Signals.newSlot, Signals.newSemaphore, Signals.events]
  case armed =>
    intro past rest _ name c poll armed
    obtain ⟨asks, k⟩ := marked_run fresh past
    exact k.slots poll.slot (k.armed name c poll armed).2

/-- A descriptor is told of a response, which is then received. -/
def descriptorTold : List Action :=
  [.step (.register 16 "nl"), .step (.socket 0 16 3 0),
    .step (.descriptor 0 (Flags.single .readable) 0), .step (.push (.socket 0) [1]),
    .step (.arm 0 0), .step (.take (.socket 0))]

theorem accuracy_descriptorTold :
    (let t := start .withRoute [("nl", Interface.defaultLimits, [])];
      ((t.run descriptorTold).session.arm 0 0).1 = .ok .done ∧
        (t.run descriptorTold).view.responses "nl" 0 = [] ∧
        (t.run (descriptorTold ++ [.step (.arm 0 0)])).signals.events 0 = Flags.single .readable ∧
        (((t.run (descriptorTold ++ [.step (.arm 0 0)])).net "nl").connection 0).armed =
          some ⟨0, 0, 1⟩) ∧
      Accuracy (start .withRoute [("nl", Interface.defaultLimits, [])])
        (descriptorTold ++ [.step (.arm 0 0)]) :=
  ⟨⟨by rfl, by decide +kernel, by decide +kernel, by decide +kernel⟩,
    accuracy_run (isFresh_start _ _) _⟩

/-- A setup succeeds and its slot tells of a response that is gone. -/
theorem not_always_accurate : ¬∀ (t : Concurrent), t.IsFresh → ∀ (past : List Action)
    (key fdKey : Int) (h : Handle Attachment) (c : Nat) (fd : PollDescriptor),
    ((t.run past).session.arm key fdKey).1 = .ok .done → (t.run past).view.Attached key h c →
    (t.run past).view.descriptors.get? fdKey = some fd →
      (t.run (past ++ [.step (.arm key fdKey)])).signals.events fd.slot =
        ((t.run past).net h.family).readyEvents c fd := by
  intro claimed
  have same := claimed (start .withRoute [("nl", Interface.defaultLimits, [])])
    (isFresh_start _ _) descriptorTold 0 0 _ 0 ⟨Flags.single .readable, 0, 0⟩ (by rfl)
    ⟨by rfl, by rfl⟩ (by rfl)
  revert same
  decide +kernel

end Concurrent

end NetlinkSocket
