import NetlinkSocket.Proofs.Interleaving.Alerts
import NetlinkSocket.Proofs.Interleaving.Firings
import NetlinkSocket.Proofs.Interleaving.Transfers

/-!
Who waits on an interface, and what one action makes of the registrations. A registration is pending
from the moment a poll is armed or a reader falls asleep until a response is queued under its
identity, or until nobody waits under it any more.
-/

namespace NetlinkSocket

open Concurrent (Action)

deriving instance DecidableEq for Registration

namespace View

variable {v later : View} {a : Action} {name : String} {c : Nat}

def poller (v : View) (name : String) (c : Nat) : Option (Registration Wakeup) :=
  ((v.net name).connection c).armed.map fun poll =>
    ⟨poll.key, ((v.net name).connection c).id, .poll c⟩

def pollersOn (v : View) (name : String) (p : Nat → Bool) : List (Registration Wakeup) :=
  ((List.range (v.net name).connections.length).filter p).filterMap (v.poller name)

/-- The registrations of the polls that are armed on connections. -/
def pollers (v : View) (name : String) : List (Registration Wakeup) :=
  v.pollersOn name (v.isHeld name)

/-- The registrations of the polls that were armed on a connection when the last that referred to it
went. The poll is gone with its connection, and there is no handle left to take it down. -/
def leftBehind (v : View) (name : String) : List (Registration Wakeup) :=
  v.pollersOn name fun c => !v.isHeld name c

def sleeper (v : View) (name : String) (call : Call) : Option (Registration Wakeup) :=
  match call.stage with
  | .sleeping _ semaphore key =>
    if call.interface = name then
      some ⟨key, ((v.net name).connection call.connection).id, .reader semaphore⟩
    else none
  | _ => none

def sleepers (v : View) (name : String) : List (Registration Wakeup) :=
  v.calls.filterMap (v.sleeper name)

/-- The registrations under which somebody waits, whether they are still pending or not. -/
def waiters (v : View) (name : String) : List (Registration Wakeup) :=
  v.pollers name ++ v.sleepers name

/-- All that were made, and neither called nor taken down. -/
def registrants (v : View) (name : String) : List (Registration Wakeup) :=
  v.waiters name ++ v.leftBehind name

theorem mem_pollersOn {p : Nat → Bool} {r : Registration Wakeup} : r ∈ v.pollersOn name p ↔
    ∃ c poll, p c = true ∧ ((v.net name).connection c).armed = some poll ∧
      r = ⟨poll.key, ((v.net name).connection c).id, .poll c⟩ := by
  simp only [pollersOn, poller, List.mem_filterMap, List.mem_filter, List.mem_range,
    Option.map_eq_some_iff]
  constructor
  · rintro ⟨c, ⟨-, chosen⟩, poll, armed, rfl⟩
    exact ⟨c, poll, chosen, armed, rfl⟩
  · rintro ⟨c, poll, chosen, armed, rfl⟩
    exact ⟨c, ⟨Interface.lt_of_armed armed, chosen⟩, poll, armed, rfl⟩

theorem nodup_pollersOn (p : Nat → Bool) : (v.pollersOn name p).Nodup := by
  refine List.Nodup.filterMap (fun c d r hc hd => ?_) (List.nodup_range.filter p)
  obtain ⟨poll, -, rfl⟩ := Option.map_eq_some_iff.1 hc
  obtain ⟨other, -, same⟩ := Option.map_eq_some_iff.1 hd
  exact Wakeup.poll.inj (congrArg Registration.worker same.symm)

theorem sleeper_eq_some {call : Call} {r : Registration Wakeup} :
    v.sleeper name call = some r ↔ ∃ sink s key, call.interface = name ∧
      call.stage = .sleeping sink s key ∧
        r = ⟨key, ((v.net name).connection call.connection).id, .reader s⟩ := by
  unfold sleeper
  split
  · rename_i sink s key here
    constructor
    · intro found
      split at found
      · cases found
        exact ⟨sink, s, key, ‹_›, here, rfl⟩
      · cases found
    · rintro ⟨sink', s', key', interface, same, rfl⟩
      cases here.symm.trans same
      exact if_pos interface
  · rename_i awake
    constructor
    · exact nofun
    · rintro ⟨sink, s, key, -, here, -⟩
      exact absurd here (awake sink s key)

theorem mem_sleepers {r : Registration Wakeup} : r ∈ v.sleepers name ↔
    ∃ s key c, v.Sleeps name s key c ∧
      r = ⟨key, ((v.net name).connection c).id, .reader s⟩ := by
  simp only [sleepers, List.mem_filterMap, sleeper_eq_some]
  constructor
  · rintro ⟨call, mem, sink, s, key, interface, here, rfl⟩
    obtain ⟨n, found⟩ := List.mem_iff_getElem?.1 mem
    exact ⟨s, key, call.connection, ⟨n, call, sink, found, interface, rfl, here⟩, rfl⟩
  · rintro ⟨s, key, c, ⟨n, call, sink, found, interface, rfl, here⟩, rfl⟩
    exact ⟨call, List.mem_of_getElem? found, sink, s, key, interface, here, rfl⟩

theorem mem_registrants {r : Registration Wakeup} : r ∈ v.registrants name ↔
    ∃ c, v.Awaits name r c ∧ r.subject = ((v.net name).connection c).id := by
  rw [registrants, waiters, pollers, leftBehind, List.mem_append, List.mem_append, mem_pollersOn,
    mem_sleepers, mem_pollersOn]
  constructor
  · rintro ((⟨c, poll, -, armed, rfl⟩ | ⟨s, key, c, asleep, rfl⟩) | ⟨c, poll, -, armed, rfl⟩)
    · exact ⟨c, .inl ⟨poll, armed, rfl, rfl⟩, rfl⟩
    · exact ⟨c, .inr ⟨s, rfl, asleep⟩, rfl⟩
    · exact ⟨c, .inl ⟨poll, armed, rfl, rfl⟩, rfl⟩
  · rcases r with ⟨key, subject, worker⟩
    rintro ⟨c, ⟨poll, armed, rfl, rfl⟩ | ⟨s, rfl, asleep⟩, rfl⟩
    · cases held : v.isHeld name c with
      | true => exact .inl (.inl ⟨c, poll, held, armed, rfl⟩)
      | false => exact .inr ⟨c, poll, by simp [held], armed, rfl⟩
    · exact .inl (.inr ⟨s, key, c, asleep, rfl⟩)

theorem nodup_sleepers (g : v.Assigned) : (v.sleepers name).Nodup := by
  refine List.pairwise_filterMap.2 (List.pairwise_iff_getElem.2 fun n m hn hm less => ?_)
  rintro r one s two rfl
  obtain ⟨sink, s, key, -, here, rfl⟩ := sleeper_eq_some.1 one
  obtain ⟨sink', s', key', -, here', same⟩ := sleeper_eq_some.1 two
  have one : s' = s := Wakeup.reader.inj (congrArg Registration.worker same.symm)
  have owned : v.Owns n s := ⟨_, List.getElem?_eq_getElem hn, by rw [here]; rfl⟩
  have owned' : v.Owns m s := ⟨_, List.getElem?_eq_getElem hm, by rw [here', one]; rfl⟩
  exact absurd (g.distinct n m s owned owned') (Nat.ne_of_lt less)

theorem nodup_registrants (g : v.Assigned) : (v.registrants name).Nodup := by
  have apart {p : Nat → Bool} {r other : Registration Wakeup} (poller : r ∈ v.pollersOn name p)
      (sleeper : other ∈ v.sleepers name) : r ≠ other := by
    obtain ⟨c, poll, -, -, rfl⟩ := mem_pollersOn.1 poller
    obtain ⟨s, key, d, -, rfl⟩ := mem_sleepers.1 sleeper
    exact fun same => nomatch congrArg Registration.worker same
  have waiters : (v.waiters name).Nodup :=
    List.nodup_append.2 ⟨nodup_pollersOn _, nodup_sleepers g, fun _ poller _ => apart poller⟩
  refine List.nodup_append.2 ⟨waiters, nodup_pollersOn _, fun r waits other left => ?_⟩
  rcases List.mem_append.1 waits with poller | sleeper
  · obtain ⟨c, poll, held, -, rfl⟩ := mem_pollersOn.1 poller
    obtain ⟨d, poll', unheld, -, rfl⟩ := mem_pollersOn.1 left
    intro same
    obtain rfl : c = d := Wakeup.poll.inj (congrArg Registration.worker same)
    simp [held] at unheld
  · exact (apart left sleeper).symm

namespace Watched

variable (w : v.Watched)
include w

theorem registrants_of_pending {r : Registration Wakeup} (mem : r ∈ (v.net name).notifier.pending) :
    r ∈ v.registrants name := by
  obtain ⟨c, awaits⟩ := w.awaits mem
  exact mem_registrants.2 ⟨c, awaits, (w.unanswered mem awaits).1⟩

theorem key_lt_of_registrants {r : Registration Wakeup} (mem : r ∈ v.registrants name) :
    r.key < (v.net name).notifier.nextKey := by
  obtain ⟨c, ⟨poll, armed, key, -⟩ | ⟨s, -, asleep⟩, -⟩ := mem_registrants.1 mem
  · exact key ▸ (w.keyed name).armed_below c poll armed
  · exact ((w.readers name).reserved r.key (.inr ⟨s, c, asleep⟩)).1

theorem registrant_unique {r other : Registration Wakeup} (mem : r ∈ (v.net name).notifier.pending)
    (waits : other ∈ v.registrants name) (same : other.key = r.key) : other = r := by
  have k := w.keyed name
  have p := w.readers name
  have known : (r.key, r.worker) ∈ (v.net name).wakeups (v.takenOf name) :=
    Interface.wakeups_of_pending mem
  obtain ⟨c, awaits, subject⟩ := mem_registrants.1 (w.registrants_of_pending mem)
  obtain ⟨d, awaits', subject'⟩ := mem_registrants.1 waits
  -- keys are given out once, so who waits under one key is one poll or one reader
  have worker : d = c ∧ other.worker = r.worker := by
    rcases awaits with ⟨poll, armed, key, work⟩ | ⟨s, work, asleep⟩ <;>
      rcases awaits' with ⟨poll', armed', key', work'⟩ | ⟨s', work', asleep'⟩
    · obtain rfl := k.armed_distinct d c poll' poll armed' armed (key'.trans (same.trans key.symm))
      exact ⟨rfl, work'.trans work.symm⟩
    · have reserved := (p.reserved other.key (.inr ⟨s', d, asleep'⟩)).2 c poll armed
      exact absurd (key.trans same.symm) reserved
    · have reserved := (p.reserved r.key (.inr ⟨s, c, asleep⟩)).2 d poll' armed'
      exact absurd (key'.trans same) reserved
    · rw [same] at asleep'
      rcases p.sleeping s' r.key d asleep' with ⟨waits, -⟩ | ⟨gone, -⟩
      · obtain rfl : s' = s := by
          have one := k.unique waits known rfl
          rw [work] at one
          cases one
          rfl
        exact ⟨(p.single _ _ _ _ _ asleep' asleep).2, work'.trans work.symm⟩
      · exact absurd rfl (gone _ known)
  obtain ⟨rfl, work⟩ := worker
  cases r
  cases other
  cases same
  cases work
  cases subject
  cases subject'
  rfl

end Watched

/-! What one action makes of them -/

theorem id_move (m : Move v a later) (within : c < (v.net name).connections.length) :
    ((later.net name).connection c).id = ((v.net name).connection c).id := by
  have changed {n : String} {i : Interface}
      (same : n = name → (i.connection c).id = ((v.net n).connection c).id) :
      (((v.setNet n i).net name).connection c).id = ((v.net name).connection c).id :=
    of_setNet (motive := fun i => (i.connection c).id = ((v.net name).connection c).id)
      (fun here => by subst here; exact same rfl) fun _ => rfl
  cases dealing m with
  | none same => exact (same name).id c
  | opened _ made =>
    refine changed fun here => ?_
    subst here
    obtain ⟨id, pool, -, rfl, rfl⟩ := Interface.open?_eq_some made
    rw [Interface.connection_append rfl, if_neg (Nat.ne_of_lt within)]
  | duplicated _ _ counted | counted counted =>
    refine changed fun here => ?_
    obtain ⟨owned, -, rfl⟩ := Interface.addReference_eq_ok counted
    rw [Interface.connection_update _ (Interface.lt_of_references owned)]
    split <;> simp [*]
  | closed _ _ _ given =>
    refine changed fun here => ?_
    rw [Interface.connection_release given]
    split
    · rename_i same
      rw [same, Connection.released]
      split <;> rfl
    · rfl
  | lost | flagged => rfl

def Registered (v later : View) (name : String) (r : Registration Wakeup) : Prop :=
  r ∈ (later.net name).notifier.pending ∧ (v.net name).notifier.nextKey ≤ r.key

theorem registered_arm {i j : Interface} {s signals : Signals} {d : Nat} {fd : PollDescriptor}
    {poll : ArmedPoll} (made : i.arm s d fd = (.ok (), j, signals))
    (armed : (j.connection c).armed = some poll) :
    (i.connection c).armed = some poll ∨
      ⟨poll.key, (j.connection c).id, .poll c⟩ ∈ j.notifier.pending ∧
        i.notifier.nextKey ≤ poll.key := by
  rcases Interface.arm_cases made with
    ⟨-, rfl, -⟩ | ⟨-, -, rfl, -⟩ | ⟨-, -, idle, -, notifier, registered, rfl⟩
  · exact .inl armed
  · exact .inl armed
  obtain ⟨-, -, -, pending⟩ := Notifier.register_eq_ok registered
  by_cases within : d < i.connections.length
  · have connection := Interface.connection_update (i := i) (c := d)
      (fun k => { k with armed := some ⟨fd.slot, fd.semaphore, i.notifier.nextKey⟩ }) within c
    change Interface.connection (i.update d _) c = _ at connection
    change ((i.update d _).connection c).armed = some poll at armed
    rw [connection] at armed
    split at armed
    · rename_i here
      subst here
      cases armed
      refine .inr ⟨?_, Nat.le_refl _⟩
      change (⟨_, ((i.update c _).connection c).id, _⟩ : Registration Wakeup) ∈ notifier.pending
      rw [connection, if_pos rfl, pending]
      exact List.mem_append_right _ List.mem_cons_self
    · exact .inl armed
  · refine .inl ?_
    simpa [Interface.connection, Interface.update,
      List.modify_eq_self (Nat.le_of_not_lt within)] using armed

theorem armed_move (w : v.Watched) (m : Move v a later) {poll : ArmedPoll}
    (armed : ((later.net name).connection c).armed = some poll) :
    ((v.net name).connection c).armed = some poll ∨
      v.Registered later name ⟨poll.key, ((later.net name).connection c).id, .poll c⟩ := by
  have kept {other : String} {i : Interface} (net : later.net = (v.setNet other i).net)
      (fewer : ∀ d poll, (i.connection d).armed = some poll →
        ((v.net other).connection d).armed = some poll) :
      ((v.net name).connection c).armed = some poll :=
    Assigned.armed_setNet net fewer name c poll armed
  have arms {other : String} {d : Nat} {i : Interface} {fd : PollDescriptor}
      {before signals : Signals} (net : later.net = (v.setNet other i).net)
      (made : (v.net other).arm before d fd = (.ok (), i, signals)) :
      ((v.net name).connection c).armed = some poll ∨
        v.Registered later name ⟨poll.key, ((later.net name).connection c).id, .poll c⟩ := by
    have after := congrFun net name
    by_cases here : name = other
    · subst here
      rw [net_setNet, Function.update_self] at after
      rw [Registered, after]
      rw [after] at armed
      exact registered_arm made armed
    · rw [net_setNet, Function.update_of_ne here] at after
      rw [after] at armed
      exact .inl armed
  cases waiting_of_move w.placed m with
  | none calm same => exact .inl (((same name).armed c).symm.trans armed)
  | disarmed calm _ net same =>
    refine .inl (kept net fun d poll armed => ?_)
    exact (Interface.Keyed.armed_disarm ((same.armed d).symm.trans armed)).2
  | pushed calm held net =>
    refine .inl (kept net fun d poll armed => ?_)
    rwa [Interface.armed_push _ (w.placed.of_isHeld held)] at armed
  | described | describedAnew | tried | woke | polled => exact .inl armed
  | armed _ _ made => exact arms rfl made
  | beganPoll _ _ made => exact arms rfl made
  | registered | withdrew | itemTaken => exact .inl (kept rfl fun _ _ h => h)
  | itemFired => exact .inl (kept rfl fun d poll armed => Interface.armed_fire _ _ _ _ _ armed)

theorem sleeps_move (w : v.Watched) (m : Move v a later) {s key : Nat}
    (asleep : later.Sleeps name s key c) : v.Sleeps name s key c ∨
      v.Registered later name ⟨key, ((later.net name).connection c).id, .reader s⟩ := by
  cases waiting_of_move w.placed m with
  | none calm | disarmed calm | pushed calm => exact .inl ((calm.sleeps_iff _ _ _ _).1 asleep)
  | described | describedAnew | tried | armed | itemTaken | itemFired => exact .inl asleep
  | beganPoll => exact .inl ((sleeps_appended rfl rfl _ _ _ _).1 asleep)
  | @registered n call sink key' notifier found here empty made =>
    let after : View := { v.setNet call.interface { v.net call.interface with notifier } with
      signals := v.signals.newSemaphore.2
      calls := v.calls.modify n fun call =>
        { call with stage := .sleeping sink v.signals.newSemaphore.1 key' } }
    have moved : Advanced v after n call (.sleeping sink v.signals.newSemaphore.1 key') :=
      ⟨found, rfl⟩
    rcases (sleeps_advanced_of_awake moved (by simp [here])).1 asleep with
      old | ⟨rfl, rfl, sink', same⟩
    · exact .inl old
    · cases same
      obtain ⟨rfl, -, -, pending⟩ := Notifier.register_eq_ok made
      refine .inr ⟨?_, Nat.le_refl _⟩
      simp only [net_setNet, Function.update_self]
      rw [pending]
      exact List.mem_append_right _ List.mem_cons_self
  | @woke n call sink semaphore key' signals found here taken =>
    let after : View := { v with
      signals, calls := v.calls.modify n fun call => { call with stage := .woken sink key' } }
    have moved : Advanced v after n call (.woken sink key') := ⟨found, rfl⟩
    exact .inl ((w.assigned.sleeps_awoken moved here nofun).1 asleep).1
  | @withdrew n call sink key' found here =>
    let after : View := { v.setNet call.interface ((v.net call.interface).withdraw key') with
      calls := v.calls.modify n fun call => { call with stage := .entering sink } }
    have moved : Advanced v after n call (.entering sink) := ⟨found, rfl⟩
    exact .inl ((sleeps_unchanged moved (by simp [here]) nofun _ _ _ _).1 asleep)
  | @polled n call fd signals found here taken =>
    let after : View := { v with
      signals, calls := v.calls.modify n fun call => { call with stage := .posted fd } }
    have moved : Advanced v after n call (.posted fd) := ⟨found, rfl⟩
    exact .inl ((sleeps_unchanged moved (by simp [here]) nofun _ _ _ _).1 asleep)

theorem registrants_move (w : v.Watched) (m : Move v a later) {r : Registration Wakeup}
    (mem : r ∈ later.registrants name) : r ∈ v.registrants name ∨ v.Registered later name r := by
  obtain ⟨c, awaits, subject⟩ := mem_registrants.1 mem
  have old (awaits : v.Awaits name r c) : r ∈ v.registrants name :=
    mem_registrants.2 ⟨c, awaits, subject.trans (id_move m (w.awaits_lt awaits))⟩
  cases r with
  | mk key id worker =>
    cases subject
    rcases awaits with ⟨poll, armed, rfl, rfl⟩ | ⟨s, rfl, asleep⟩
    · exact (armed_move w m armed).imp_left fun before => old (.inl ⟨poll, before, rfl, rfl⟩)
    · exact (sleeps_move w m asleep).imp_left fun before => old (.inr ⟨s, rfl, before⟩)

/-- Until it is called or taken down, only a push can end a registration. -/
theorem pending_move (w : v.Watched) (m : Move v a later) {r : Registration Wakeup}
    (mem : r ∈ (v.net name).notifier.pending) (waits : r ∈ later.registrants name) :
    r ∈ (later.net name).notifier.pending ∨ ∃ other d message,
      d < (v.net other).connections.length ∧
        later.net = (v.setNet other ((v.net other).push d message)).net := by
  have at_net {other : String} {i : Interface} (net : later.net = (v.setNet other i).net)
      (here : name = other → r ∈ i.notifier.pending) :
      r ∈ (later.net name).notifier.pending := by
    rw [net]
    exact of_setNet (motive := fun i => r ∈ i.notifier.pending) here fun _ => mem
  cases waiting_of_move w.placed m with
  | none calm same =>
    rw [(same name).pending]
    exact .inl mem
  | @disarmed _ _ other d i calm cut net same =>
    refine .inl (at_net net fun here => ?_)
    subst here
    rw [same.pending, Interface.mem_disarm]
    refine ⟨mem, fun poll armed own => ?_⟩
    -- a registration that is torn down is that of the poll, which waits no longer
    have poller : (⟨poll.key, ((v.net name).connection d).id, .poll d⟩ : Registration Wakeup) ∈
        v.registrants name := mem_registrants.2 ⟨d, .inl ⟨poll, armed, rfl, rfl⟩, rfl⟩
    obtain rfl := w.registrant_unique mem poller own.symm
    obtain ⟨c, ⟨still, armed', -, worker⟩ | ⟨s, worker, -⟩, -⟩ := mem_registrants.1 waits
    · cases worker
      rw [net, net_setNet, Function.update_self, same.armed, Interface.connection_disarm,
        if_pos rfl] at armed'
      cases armed'
    · cases worker
  | @pushed _ _ other d message calm held net =>
    exact .inr ⟨other, d, message, w.placed.of_isHeld held, net⟩
  | described | describedAnew | tried | woke | polled => exact .inl mem
  | armed _ _ made | beganPoll _ _ made =>
    refine .inl (at_net rfl fun here => ?_)
    subst here
    rcases Interface.arm_cases made with
      ⟨-, rfl, -⟩ | ⟨-, -, rfl, -⟩ | ⟨-, -, -, -, notifier, registered, rfl⟩
    · exact mem
    · exact mem
    · obtain ⟨-, -, -, pending⟩ := Notifier.register_eq_ok registered
      change r ∈ notifier.pending
      rw [pending]
      exact List.mem_append_left _ mem
  | registered _ _ _ made =>
    refine .inl (at_net rfl fun here => ?_)
    subst here
    obtain ⟨-, -, -, pending⟩ := Notifier.register_eq_ok made
    simp only [pending]
    exact List.mem_append_left _ mem
  | @withdrew n call sink key found here =>
    refine .inl (at_net rfl fun same => ?_)
    subst same
    refine Notifier.mem_withdraw.2 ⟨mem, ?_⟩
    exact (w.readers _).woken key ⟨n, call, sink, found, rfl, here⟩ _
      (Interface.wakeups_of_pending mem)
  | itemTaken =>
    refine .inl (at_net rfl fun same => ?_)
    subst same
    exact mem
  | @itemFired n other key wakeup =>
    refine .inl (at_net rfl fun same => ?_)
    subst same
    rwa [Interface.notifier_fire]

end View

namespace Concurrent

variable {t : Concurrent} {a : Action} {name : String} {c : Nat}

/-- Whether a step queues a response on a connection with the identity that a registration names. -/
def tells (name : String) (r : Registration Wakeup) (step : Concurrent × Action) : Bool :=
  (queues step).any fun (other, d, _) =>
    other = name && ((step.1.net other).connection d).id = r.subject

theorem not_push_of_silent (s : t.Sound) (silent : queues (t, a) = none) {other : String}
    {d : Nat} {message : Bytes} (within : d < (t.net other).connections.length) :
    (t.act a).view.net ≠ (t.view.setNet other ((t.net other).push d message)).net := by
  intro net
  have grown : ((t.act a).view.responses other d) = t.view.responses other d ++ [message] := by
    rw [View.responses, net]
    simp only [View.net_setNet, Function.update_self]
    rw [Interface.connection_push message within, if_pos rfl]
    rfl
  by_cases last : t.view.EndsLast other d a
  · rw [(responses_endsLast s.netlink last).1] at grown
    simp at grown
  · have flows := (flows_act s.netlink s.watched.placed a last).append
    rw [queuedOn, silent, grown] at flows
    have lengths := congrArg List.length flows
    simp [ofConnection] at lengths
    omega

/-- What is pending stays so as long as somebody waits, until a response is queued under its
identity. -/
theorem pending_act (s : t.Sound) {r : Registration Wakeup} (before : r ∈ t.view.registrants name)
    (waits : r ∈ (t.act a).view.registrants name) :
    r ∈ ((t.act a).net name).notifier.pending ↔
      r ∈ (t.net name).notifier.pending ∧ tells name r (t, a) = false := by
  have m := act_move s.netlink a
  cases queued : queues (t, a) with
  | none =>
    have silent : tells name r (t, a) = false := by simp [tells, queued]
    simp only [silent, and_true]
    constructor
    · intro mem
      have below := s.watched.key_lt_of_registrants before
      rcases (View.onward_move s.watched m name).pending r mem with old | fresh
      · exact old
      · exact absurd below (Nat.not_lt.2 fresh)
    · intro mem
      rcases View.pending_move s.watched m mem waits with kept | ⟨other, d, message, within, net⟩
      · exact kept
      · exact absurd net (not_push_of_silent s queued within)
  | some message =>
    obtain ⟨other, d, m⟩ := message
    obtain ⟨net, within, -⟩ := net_of_queues s.watched.placed queued
    have told : tells name r (t, a) = true ↔
        other = name ∧ ((t.net other).connection d).id = r.subject := by
      simp [tells, queued]
    rw [← Bool.not_eq_true, told, net]
    by_cases here : other = name
    · subst here
      simp only [Function.update_self, true_and]
      exact Notifier.mem_signal.trans (and_congr_right fun _ => not_congr eq_comm)
    · simp [here, Ne.symm here]

end Concurrent

end NetlinkSocket
