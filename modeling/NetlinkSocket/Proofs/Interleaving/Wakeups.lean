import NetlinkSocket.Proofs.Interleaving.Ownership
import NetlinkSocket.Proofs.Interleaving.Semaphores

/-!
No wakeup is lost. In every state, an armed poll and a sleeping reader are still registered, or
their wakeup is on its way, or the reader was posted; and while something is queued on a connection
nobody is registered for it.
-/

namespace NetlinkSocket

open Concurrent (Action)

namespace View

variable {v later : View} {a : Action}

/-- The items of one interface that were taken off its queue. -/
def takenOf (v : View) (name : String) : List (Nat × Wakeup) :=
  v.taken.filterMap fun item => if item.1 = name then some item.2 else none

structure Watched (v : View) : Prop where
  placed : v.Placed
  assigned : v.Assigned
  keyed : ∀ name, (v.net name).Keyed (v.takenOf name) fun c => v.isHeld name c = true
  readers : ∀ name, (v.net name).Readers (v.takenOf name) v.signals.permits (v.Sleeps name)
    (v.Woken name)

theorem Undisturbed.takenOf (calm : Undisturbed v later) (name : String) :
    later.takenOf name = v.takenOf name := by
  rw [View.takenOf, calm.taken, View.takenOf]

theorem takenOf_append (name : String) (item : Nat × Wakeup) :
    View.takenOf { v with taken := v.taken ++ [(name, item)] } name = v.takenOf name ++ [item] ∧
      ∀ other, other ≠ name →
        View.takenOf { v with taken := v.taken ++ [(name, item)] } other = v.takenOf other := by
  constructor
  · simp [takenOf]
  · intro other ne
    simp [takenOf, Ne.symm ne]

theorem takenOf_eraseIdx {n : Nat} {name : String} {item : Nat × Wakeup}
    (found : v.taken[n]? = some (name, item)) :
    (v.takenOf name).Perm (item :: View.takenOf { v with taken := v.taken.eraseIdx n } name) ∧
      ∀ other, other ≠ name →
        View.takenOf { v with taken := v.taken.eraseIdx n } other = v.takenOf other := by
  obtain ⟨within, at_n⟩ := List.getElem?_eq_some_iff.1 found
  have rest : v.taken.eraseIdx n = v.taken.take n ++ v.taken.drop (n + 1) :=
    List.eraseIdx_eq_take_drop_succ _ _
  have split : v.taken = v.taken.take n ++ (name, item) :: v.taken.drop (n + 1) := by
    rw [← at_n, List.getElem_cons_drop, List.take_append_drop]
  generalize v.taken.take n = before, v.taken.drop (n + 1) = after at rest split
  simp only [takenOf, rest]
  simp only [split, List.filterMap_append, List.filterMap_cons, if_true]
  constructor
  · exact List.perm_middle
  · intro other ne
    simp [Ne.symm ne]

theorem wakeups_of_taken {n : Nat} {name : String} {item : Nat × Wakeup}
    (found : v.taken[n]? = some (name, item)) : item ∈ (v.net name).wakeups (v.takenOf name) := by
  refine Interface.mem_wakeups.2 (.inr (.inr (List.mem_filterMap.2 ?_)))
  exact ⟨_, List.mem_of_getElem? found, by simp⟩

theorem keyed_move (w : v.Watched) (m : Move v a later) (other : String) :
    (later.net other).Keyed (later.takenOf other) fun c => later.isHeld other c = true := by
  have k : (v.net other).Keyed (v.takenOf other) fun c => later.isHeld other c = true :=
    (w.keyed other).mono fun c within held => isHeld_of_move w.placed m within held
  have placed := w.placed.move m
  have at_net {name : String} {i : Interface} {taken : List (Nat × Wakeup)} {held : Nat → Prop}
      (here : other = name → i.Keyed taken held)
      (away : other ≠ name → (v.net other).Keyed taken held) :
      ((v.setNet name i).net other).Keyed taken held :=
    of_setNet (motive := (·.Keyed taken held)) here away
  cases waiting_of_move w.placed m with
  | none calm same =>
    rw [calm.takenOf]
    exact k.same (same other)
  | disarmed calm _ net same =>
    rw [calm.takenOf, net]
    refine at_net ?_ fun _ => k
    rintro rfl
    exact (k.disarm _).same same
  | pushed calm held net =>
    rw [calm.takenOf, net]
    refine at_net ?_ fun _ => k
    rintro rfl
    exact k.push _ (w.placed.of_isHeld held)
  | described | describedAnew | tried | woke | polled => exact k
  | armed attached _ made | beganPoll attached _ made =>
    refine at_net ?_ fun _ => k
    rintro rfl
    exact k.arm made (w.placed.of_attached attached).1
  | registered _ _ _ made =>
    refine at_net ?_ fun _ => k
    rintro rfl
    exact k.register made
  | @withdrew n call sink key found here =>
    refine at_net ?_ fun _ => k
    rintro rfl
    refine k.withdraw fun d poll armed => ?_
    exact ((w.readers call.interface).reserved key (.inl ⟨n, call, sink, found, rfl, here⟩)).2
      d poll armed
  | @itemTaken name item queue next =>
    obtain ⟨last, same⟩ := takenOf_append (v := v) name item
    refine at_net ?_ fun ne => ?_
    · rintro rfl
      have k := k.next? next
      rw [← last] at k
      exact k
    · rw [← same other ne] at k
      exact k
  | @itemFired n name key wakeup found =>
    obtain ⟨perm, same⟩ := takenOf_eraseIdx found
    refine at_net ?_ fun ne => ?_
    · rintro rfl
      refine k.fire perm _ fun c held => isHeld_of_move w.placed m ?_ held
      have within := placed.of_isHeld held
      simpa [length_fire] using within
    · rw [← same other ne] at k
      exact k

theorem assigned_move (w : v.Watched) (m : Move v a later) : later.Assigned := by
  have g := w.assigned
  cases waiting_of_move w.placed m with
  | none calm same =>
    exact g.calm calm fun name c poll armed => ((same name).armed c).symm.trans armed
  | disarmed calm _ net same =>
    refine g.calm calm (Assigned.armed_setNet net fun d poll armed => ?_)
    exact (Interface.Keyed.armed_disarm ((same.armed d).symm.trans armed)).2
  | pushed calm held net =>
    refine g.calm calm (Assigned.armed_setNet net fun d poll armed => ?_)
    rwa [Interface.armed_push _ (w.placed.of_isHeld held)] at armed
  | described known => exact g.describe known
  | describedAnew unknown => exact g.describeAnew unknown
  | tried found taken => exact g.tryWait found taken
  | armed _ found made => exact g.arm found made
  | beganPoll _ own made => exact g.poll own made
  | @registered n call sink key notifier found here =>
    exact @Assigned.register v _ g n call sink key call.interface
      { v.net call.interface with notifier } ⟨found, rfl⟩ here (fun _ => rfl) rfl
  | woke found here taken => exact g.advance ⟨found, rfl⟩ (by rw [here]; rfl) rfl taken rfl
  | @withdrew n call sink key found here =>
    let after : View := { v.setNet call.interface ((v.net call.interface).withdraw key) with
      calls := v.calls.modify n fun call => { call with stage := .entering sink } }
    have moved : Advanced v after n call (.entering sink) := ⟨found, rfl⟩
    refine g.of_fewer rfl rfl rfl rfl (fun m s owned => ?_) (fun m other fd at_m polling => ?_)
      (fun other c poll armed => .inl ?_) fun other c poll _ none polls => ⟨none, ?_⟩
    · rcases owns_advanced moved owned with ⟨-, old⟩ | ⟨-, has⟩
      · exact old
      · cases has
    · exact moved.polling nofun at_m polling
    · exact @Assigned.armed_setNet v after call.interface ((v.net call.interface).withdraw key) rfl
        (fun _ _ h => h) other c poll armed
    · rcases polls_advanced moved polls with mine | still
      · rw [here] at mine
        cases mine
      · exact still
  | polled found here taken => exact g.advance ⟨found, rfl⟩ (by rw [here]; rfl) rfl taken rfl
  | @itemTaken name item queue =>
    refine g.of_fewer rfl rfl rfl rfl (fun _ _ h => h) (fun _ _ _ h _ => h)
      (fun other c poll armed => .inl ?_) fun _ _ _ _ none polls => ⟨none, polls⟩
    exact @Assigned.armed_setNet v _ name { v.net name with queue } rfl (fun _ _ h => h) other c
      poll armed
  | @itemFired n name key wakeup found =>
    refine g.fire fun s worker => (w.readers name).reader key s ?_
    exact worker ▸ wakeups_of_taken found

/-! What one move makes of the readers -/

def ReadersAt (v : View) (name : String) : Prop :=
  (v.net name).Readers (v.takenOf name) v.signals.permits (v.Sleeps name) (v.Woken name)

namespace Watched

variable (w : v.Watched) {n c key : Nat} {name other : String} {call : Call} {signals : Signals}
include w

theorem posted_lt {s : Nat} (asleep : v.Sleeps other s key c) :
    s < v.signals.semaphores.length := by
  obtain ⟨n, owned⟩ := asleep.owns
  exact w.assigned.owned_lt n s owned

theorem described_ne {fdKey : Int} {fd : PollDescriptor} {s : Nat}
    (found : v.descriptors.get? fdKey = some fd) (asleep : v.Sleeps other s key c) :
    s ≠ fd.semaphore := by
  obtain ⟨n, owned⟩ := asleep.owns
  exact w.assigned.described_ne found owned

omit w in
theorem readers_setNet {i : Interface} {taken : List (Nat × Wakeup)} {permits : Nat → Nat}
    {sleeps : Nat → Nat → Nat → Prop} {woken : Nat → Prop}
    (here : other = name → i.Readers taken permits sleeps woken)
    (away : other ≠ name → (v.net other).Readers taken permits sleeps woken) :
    ((v.setNet name i).net other).Readers taken permits sleeps woken :=
  of_setNet (motive := (·.Readers taken permits sleeps woken)) here away

theorem readers_undisturbed (calm : Undisturbed v later) (other : String) :
    (v.net other).Readers (later.takenOf other) later.signals.permits (later.Sleeps other)
      (later.Woken other) := by
  rw [calm.takenOf, calm.signals]
  exact (w.readers other).of_readers (calm.sleeps_iff other)
    (fun key => (calm.woken_iff other key).1) fun _ _ _ _ => rfl

theorem readers_armed {socket fdKey : Int} {h : Handle Attachment} {fd : PollDescriptor}
    {i : Interface} (attached : v.Attached socket h c) (found : v.descriptors.get? fdKey = some fd)
    (made : (v.net h.family).arm v.signals c fd = (.ok (), i, signals)) :
    ReadersAt { v.setNet h.family i with signals } other := by
  obtain ⟨-, -, others⟩ := Interface.signals_arm made
  have r := (w.readers other).of_readers (fun _ _ _ => Iff.rfl) (fun _ h => h)
    fun s _ _ asleep => others s (w.described_ne found asleep)
  refine readers_setNet ?_ fun _ => r
  rintro rfl
  exact r.arm made (w.placed.of_attached attached).1

theorem readers_beganPoll {socket : Int} {events : Events} {h : Handle Attachment}
    {fd : PollDescriptor} {i : Interface} (attached : v.Attached socket h c)
    (own : fd = ⟨events, v.signals.newSlot.1, v.signals.newSemaphore.1⟩)
    (made : (v.net h.family).arm v.signals.newSlot.2.newSemaphore.2 c fd = (.ok (), i, signals)) :
    ReadersAt { v.setNet h.family i with
      signals, calls := v.calls ++ [⟨socket, h.family, c, .polling fd⟩] } other := by
  obtain ⟨-, -, others⟩ := Interface.signals_arm made
  have fresh : fd.semaphore = v.signals.semaphores.length := by rw [own]; rfl
  let after : View :=
    { v.setNet h.family i with signals, calls := v.calls ++ [⟨socket, h.family, c, .polling fd⟩] }
  have r : (v.net other).Readers (v.takenOf other) signals.permits (after.Sleeps other)
      (after.Woken other) := by
    refine (w.readers other).of_readers (sleeps_appended rfl rfl other)
      (woken_appended rfl rfl other) fun s key c asleep => ?_
    have ne : s ≠ fd.semaphore := fresh ▸ Nat.ne_of_lt (w.posted_lt asleep)
    rw [others s ne, Signals.permits_newSemaphore, Signals.permits_newSlot]
  refine readers_setNet ?_ fun _ => r
  rintro rfl
  exact r.arm made (w.placed.of_attached attached).1

theorem readers_registered {sink : Sink} {notifier : Notifier Wakeup}
    (found : v.calls[n]? = some call) (here : call.stage = .entering sink)
    (empty : ((v.net call.interface).connection call.connection).responses = [])
    (made : (v.net call.interface).notifier.register
      ((v.net call.interface).connection call.connection).id
      (.reader v.signals.newSemaphore.1) = (.ok key, notifier)) :
    ReadersAt { v.setNet call.interface { v.net call.interface with notifier } with
      signals := v.signals.newSemaphore.2
      calls := v.calls.modify n fun call =>
        { call with stage := .sleeping sink v.signals.newSemaphore.1 key } } other := by
  have r := w.readers other
  let after : View := { v.setNet call.interface { v.net call.interface with notifier } with
    signals := v.signals.newSemaphore.2
    calls := v.calls.modify n fun call =>
      { call with stage := .sleeping sink v.signals.newSemaphore.1 key } }
  have moved : Advanced v after n call (.sleeping sink v.signals.newSemaphore.1 key) :=
    ⟨found, rfl⟩
  have sleeps (s k d : Nat) : after.Sleeps other s k d ↔ v.Sleeps other s k d ∨
      call.interface = other ∧ call.connection = d ∧ ∃ sink',
        Stage.sleeping sink v.signals.newSemaphore.1 key = .sleeping sink' s k :=
    sleeps_advanced_of_awake moved (by simp [here])
  have woken (k : Nat) (awake : after.Woken other k) : v.Woken other k :=
    woken_unchanged moved nofun awake
  have permits (s : Nat) : after.signals.permits s = v.signals.permits s :=
    Signals.permits_newSemaphore _ s
  have unposted : v.signals.permits v.signals.newSemaphore.1 = 0 :=
    Signals.permits_of_le (Nat.le_refl _)
  have known := w.keyed call.interface
  have within := w.placed.calls call (List.mem_of_getElem? found)
  refine readers_setNet ?_ fun ne => ?_
  · rintro rfl
    refine (r.register made known.armed_below known.below within empty unposted fun k d asleep =>
      Nat.lt_irrefl _ (w.posted_lt asleep)).of_readers (fun s k d => ?_) woken fun s _ _ _ =>
        permits s
    rw [sleeps]
    refine or_congr_right ⟨?_, ?_⟩
    · rintro ⟨-, rfl, _, new⟩
      cases new
      exact ⟨rfl, rfl, rfl⟩
    · rintro ⟨rfl, rfl, rfl⟩
      exact ⟨rfl, rfl, sink, rfl⟩
  · refine r.of_readers (fun s k d => ?_) woken fun s _ _ _ => permits s
    rw [sleeps]
    exact or_iff_left fun new => ne new.1.symm

theorem readers_woke {sink : Sink} {semaphore : Nat} (found : v.calls[n]? = some call)
    (here : call.stage = .sleeping sink semaphore key)
    (taken : v.signals.take? semaphore = some signals) :
    ReadersAt { v with
      signals, calls := v.calls.modify n fun call => { call with stage := .woken sink key } }
      other := by
  have r := w.readers other
  have g := w.assigned
  obtain ⟨posted, others, -⟩ := Signals.take?_eq_some taken
  let after : View := { v with
    signals, calls := v.calls.modify n fun call => { call with stage := .woken sink key } }
  have moved : Advanced v after n call (.woken sink key) := ⟨found, rfl⟩
  have sleeps (s k d : Nat) : after.Sleeps other s k d ↔ v.Sleeps other s k d ∧ s ≠ semaphore :=
    g.sleeps_awoken moved here nofun
  have asleep : v.Sleeps call.interface semaphore key call.connection :=
    ⟨n, call, sink, found, rfl, rfl, here⟩
  by_cases same : other = call.interface
  · subst same
    refine (r.wake asleep (by omega) others).of_readers sleeps (fun k awake => ?_)
      fun _ _ _ _ => rfl
    rcases woken_advanced moved awake with old | ⟨-, _, new⟩
    · exact .inl old
    · cases new
      exact .inr rfl
  -- a semaphore belongs to one sleeper, so it is nobody's on another interface
  · have distinct {s k d : Nat} (elsewhere : v.Sleeps other s k d) : s ≠ semaphore := by
      rintro rfl
      exact same (g.sleeps_unique elsewhere asleep).1
    refine r.of_readers (fun s k d => ?_) (fun k awake => ?_) fun s k d elsewhere =>
      others s (distinct elsewhere)
    · rw [sleeps]
      exact and_iff_left_of_imp distinct
    · rcases woken_advanced moved awake with old | ⟨here, -⟩
      · exact old
      · exact absurd here.symm same

theorem readers_withdrew {sink : Sink} (found : v.calls[n]? = some call)
    (here : call.stage = .woken sink key) :
    ReadersAt { v.setNet call.interface ((v.net call.interface).withdraw key) with
      calls := v.calls.modify n fun call => { call with stage := .entering sink } } other := by
  have r := w.readers other
  let after : View := { v.setNet call.interface ((v.net call.interface).withdraw key) with
    calls := v.calls.modify n fun call => { call with stage := .entering sink } }
  have moved : Advanced v after n call (.entering sink) := ⟨found, rfl⟩
  have sleeps := sleeps_unchanged moved (by simp [here]) nofun other
  have woken (k : Nat) (awake : after.Woken other k) : v.Woken other k :=
    woken_unchanged moved nofun awake
  refine readers_setNet ?_ fun _ => r.of_readers sleeps woken fun _ _ _ _ => rfl
  rintro rfl
  exact (r.withdraw ⟨n, call, sink, found, rfl, here⟩).of_readers sleeps woken fun _ _ _ _ => rfl

theorem readers_polled {fd : PollDescriptor} (found : v.calls[n]? = some call)
    (here : call.stage = .polling fd) (taken : v.signals.take? fd.semaphore = some signals) :
    ReadersAt { v with
      signals, calls := v.calls.modify n fun call => { call with stage := .posted fd } } other := by
  obtain ⟨-, others, -⟩ := Signals.take?_eq_some taken
  let after : View := { v with
    signals, calls := v.calls.modify n fun call => { call with stage := .posted fd } }
  have moved : Advanced v after n call (.posted fd) := ⟨found, rfl⟩
  refine (w.readers other).of_readers (sleeps_unchanged moved (by simp [here]) nofun other)
    (fun k => woken_unchanged moved nofun) fun s k d asleep => others s ?_
  exact w.assigned.sleeps_ne found (by rw [here]; rfl) (by simp [here]) asleep

theorem readers_firedPoll (found : v.taken[n]? = some (name, key, .poll c)) :
    ReadersAt { v.setNet name ((v.net name).fire v.signals (v.isHeld name) key (.poll c)).2.1 with
      signals := ((v.net name).fire v.signals (v.isHeld name) key (.poll c)).2.2
      taken := v.taken.eraseIdx n } other := by
  obtain ⟨perm, same⟩ := takenOf_eraseIdx found
  have permits (s k d : Nat) (asleep : v.Sleeps other s k d) :
      ((v.net name).fire v.signals (v.isHeld name) key (.poll c)).2.2.permits s =
        v.signals.permits s := by
    rcases Interface.fire_poll (i := v.net name) (s := v.signals) (c := c) (v.isHeld name) key
      with ⟨poll, -, armed, -, fired⟩ | ⟨-, fired⟩
    · rw [fired]
      exact Signals.permits_post_of_ne _ (w.assigned.armed_ne_of_sleeps armed asleep).symm
    · rw [fired]
  have r := (w.readers other).of_readers (fun _ _ _ => Iff.rfl) (fun _ awake => awake) permits
  refine readers_setNet ?_ fun ne => ?_
  · rintro rfl
    exact r.fire_poll perm v.signals (v.isHeld other)
  · rw [← same other ne] at r
    exact r

theorem readers_firedReader {semaphore : Nat}
    (found : v.taken[n]? = some (name, key, .reader semaphore)) :
    ReadersAt
      { v.setNet name ((v.net name).fire v.signals (v.isHeld name) key (.reader semaphore)).2.1 with
        signals := ((v.net name).fire v.signals (v.isHeld name) key (.reader semaphore)).2.2
        taken := v.taken.eraseIdx n } other := by
  have r := w.readers other
  obtain ⟨perm, same⟩ := takenOf_eraseIdx found
  have others (s : Nat) (ne : s ≠ semaphore) :
      (v.signals.post semaphore).permits s = v.signals.permits s :=
    Signals.permits_post_of_ne _ ne
  obtain ⟨c, asleep⟩ := (w.readers name).reader key semaphore (wakeups_of_taken found)
  refine readers_setNet ?_ fun ne => ?_
  · rintro rfl
    exact r.fire_reader (w.keyed other) perm (Signals.permits_post_self (w.posted_lt asleep))
      others
  · rw [← same other ne] at r
    refine r.of_readers (fun _ _ _ => Iff.rfl) (fun _ awake => awake)
      fun s k d elsewhere => others s ?_
    rintro rfl
    exact ne (w.assigned.sleeps_unique elsewhere asleep).1

end Watched

theorem readers_move (w : v.Watched) (m : Move v a later) (other : String) :
    later.ReadersAt other := by
  have r := w.readers other
  cases waiting_of_move w.placed m with
  | none calm same => exact (w.readers_undisturbed calm other).same (same other)
  | disarmed calm _ net same =>
    rw [ReadersAt, net]
    have r := w.readers_undisturbed calm other
    refine Watched.readers_setNet ?_ fun _ => r
    rintro rfl
    exact (r.disarm _).same same
  | pushed calm held net =>
    rw [ReadersAt, net]
    have r := w.readers_undisturbed calm other
    refine Watched.readers_setNet ?_ fun _ => r
    rintro rfl
    exact r.push _ (w.placed.of_isHeld held)
  | described => exact r.of_readers (fun _ _ _ => Iff.rfl) (fun _ h => h) fun _ _ _ _ => rfl
  | describedAnew =>
    refine r.of_readers (fun _ _ _ => Iff.rfl) (fun _ h => h) fun s _ _ _ => ?_
    exact Signals.permits_newSemaphore _ s
  | tried found taken =>
    obtain ⟨-, others, -⟩ := Signals.take?_eq_some taken
    exact r.of_readers (fun _ _ _ => Iff.rfl) (fun _ h => h) fun s _ _ asleep =>
      others s (w.described_ne found asleep)
  | armed attached found made => exact w.readers_armed attached found made
  | beganPoll attached own made => exact w.readers_beganPoll attached own made
  | registered found here empty made => exact w.readers_registered found here empty made
  | woke found here taken => exact w.readers_woke found here taken
  | withdrew found here => exact w.readers_withdrew found here
  | polled found here taken => exact w.readers_polled found here taken
  | @itemTaken name item queue next =>
    obtain ⟨last, same⟩ := takenOf_append (v := v) name item
    refine Watched.readers_setNet ?_ fun ne => ?_
    · rintro rfl
      have r := r.next? next
      rw [← last] at r
      exact r
    · rw [← same other ne] at r
      exact r
  | @itemFired n name key wakeup found =>
    cases wakeup with
    | poll => exact w.readers_firedPoll found
    | reader => exact w.readers_firedReader found

theorem Watched.move (w : v.Watched) (m : Move v a later) : later.Watched where
  placed := w.placed.move m
  assigned := assigned_move w m
  keyed := keyed_move w m
  readers := readers_move w m

end View

namespace Concurrent

variable {t : Concurrent}

theorem IsFresh.watched (fresh : t.IsFresh) : t.view.Watched := by
  have none {n : Nat} {call : Call} (found : t.view.calls[n]? = some call) : False := by
    have calls : t.view.calls = [] := fresh.calls
    rw [calls] at found
    cases found
  have unarmed (name : String) (c : Nat) : ((t.view.net name).connection c).armed = .none := by
    obtain ⟨limits, handlers, made⟩ := fresh.nets name
    have connections : (t.view.net name).connections = [] := congrArg Interface.connections made
    rw [Interface.connection_of_le (by rw [connections]; exact Nat.zero_le c)]
    rfl
  have wakeups (name : String) : (t.view.net name).wakeups (t.view.takenOf name) = [] := by
    obtain ⟨limits, handlers, made⟩ := fresh.nets name
    have taken : t.view.taken = [] := fresh.taken
    have net : t.view.net name = .create limits handlers := made
    simp only [View.takenOf, taken, net]
    rfl
  have pending (name : String) : (t.view.net name).notifier.pending = [] := by
    obtain ⟨limits, handlers, made⟩ := fresh.nets name
    exact congrArg (·.notifier.pending) made
  have tables : t.view.semaphores = .empty ∧ t.view.descriptors = .empty :=
    ⟨fresh.semaphores, fresh.descriptors⟩
  refine ⟨fresh.placed, ⟨?_, ?_, ?_, ?_, ?_, ?_, ?_⟩, fun name => ?_, fun name => ?_⟩
  · rintro s ⟨n, mem⟩
    simp [tables, Table.empty] at mem
  · simp [tables, Table.empty]
  · rintro n s ⟨call, found, -⟩
    exact (none found).elim
  · rintro n s ⟨call, found, -⟩
    exact (none found).elim
  · rintro n m s ⟨call, found, -⟩
    exact (none found).elim
  · intro n call fd found
    exact (none found).elim
  · simp [unarmed]
  · constructor <;> simp [unarmed, wakeups, pending]
  · constructor
    · rintro key (⟨_, _, _, found, -⟩ | ⟨_, _, _, _, _, found, -⟩) <;> exact (none found).elim
    · rintro s key c ⟨_, _, _, found, -⟩
      exact (none found).elim
    · rintro s key c other d ⟨_, _, _, found, -⟩
      exact (none found).elim
    · rintro s key c ⟨_, _, _, found, -⟩
      exact (none found).elim
    · rintro key ⟨_, _, _, found, -⟩
      exact (none found).elim
    all_goals simp [wakeups, pending]

theorem watched_run (fresh : t.IsFresh) (actions : List Action) : (t.run actions).view.Watched :=
  run_move (fun _ _ _ m w => w.move m) fresh.isNetlink fresh.watched actions

end Concurrent

end NetlinkSocket
