import NetlinkSocket.Proofs.Identities
import NetlinkSocket.Proofs.Interleaving.Courses
import NetlinkSocket.Proofs.Interleaving.Waiters

/-!
Whose notification slots are. What is pending are the registrations of those who wait and have not
been signalled, and nobody waits on a connection that has no references. A slot leaks when a poll is
armed on a connection whose last handle goes while a reference is left that was added directly.
-/

namespace NetlinkSocket

open Concurrent (Action)

namespace Notifier

variable {ω : Type} {n later : Notifier ω}

structure Fits (n later : Notifier ω) : Prop where
  capacity : later.capacity = n.capacity
  count : n.count ≤ n.capacity → later.count ≤ n.capacity

theorem Fits.refl (n : Notifier ω) : Fits n n := ⟨rfl, id⟩

theorem fits_of_sublist (capacity : later.capacity = n.capacity)
    (fewer : later.pending.Sublist n.pending) : Fits n later :=
  ⟨capacity, Nat.le_trans fewer.length_le⟩

theorem fits_register {subject : ConnectionId} {worker : ω} {key : Nat}
    (h : n.register subject worker = (.ok key, later)) : Fits n later := by
  obtain ⟨-, -, capacity, pending⟩ := register_eq_ok h
  refine ⟨capacity, fun _ => ?_⟩
  unfold register at h
  split at h
  · cases h
  · rename_i room
    rw [count, pending, List.length_append]
    exact Nat.lt_of_not_le room

end Notifier

namespace View

variable {v later : View} {a : Action} {name : String} {c : Nat}

theorem fits_disarm (i : Interface) (c : Nat) : i.notifier.Fits (i.disarm c).notifier := by
  refine Notifier.fits_of_sublist ?_ Interface.pending_disarm
  unfold Interface.disarm
  split <;> rfl

theorem fits_release {i j : Interface} {lines : List LogLine} (h : i.release c = .ok (lines, j)) :
    i.notifier.Fits j.notifier := by
  rcases Interface.release_cases h with ⟨-, rfl⟩ | ⟨-, rfl⟩
  · exact .refl _
  · exact fits_disarm (i.update c fun k => { k with references := 0 }) c

theorem fits_arm {i j : Interface} {s signals : Signals} {fd : PollDescriptor}
    (h : i.arm s c fd = (.ok (), j, signals)) : i.notifier.Fits j.notifier := by
  rcases Interface.arm_cases h with
    ⟨-, rfl, -⟩ | ⟨-, -, rfl, -⟩ | ⟨-, -, -, -, notifier, registered, rfl⟩
  · exact .refl _
  · exact .refl _
  · exact Notifier.fits_register registered

theorem fits_fire (i : Interface) (s : Signals) (isHeld : Nat → Bool) (key : Nat) (w : Wakeup) :
    i.notifier.Fits (i.fire s isHeld key w).2.1.notifier := by
  rw [Interface.notifier_fire]
  exact .refl _

theorem fits_move (m : Move v a later) (name : String) :
    (v.net name).notifier.Fits (later.net name).notifier := by
  have changed {n : String} {i : Interface} (fits : (v.net n).notifier.Fits i.notifier) :
      (v.net name).notifier.Fits ((v.setNet n i).net name).notifier :=
    of_setNet (motive := fun i => (v.net name).notifier.Fits i.notifier)
      (fun here => here ▸ fits) fun _ => .refl _
  cases m with
  | opened _ made =>
    obtain ⟨id, pool, -, -, rfl⟩ := Interface.open?_eq_some made
    exact changed (.refl _)
  | duplicated _ _ counted | counted _ counted =>
    obtain ⟨-, -, rfl⟩ := Interface.addReference_eq_ok counted
    exact changed (.refl _)
  | closed _ _ _ given => exact changed (fits_release given)
  | named => exact changed (.refl _)
  | armed _ _ made | beganPoll _ _ made => exact changed (fits_arm made)
  | disarmed | lowered => exact changed (fits_disarm _ _)
  | pushed | replied => exact changed (Notifier.fits_of_sublist rfl List.filter_sublist)
  | popped _ taken | beganTaking _ taken | took _ _ _ taken =>
    refine changed ?_
    rw [(Interface.rest_pop? taken).1]
    exact .refl _
  | registered _ _ _ made => exact changed (Notifier.fits_register made)
  | withdrew => exact changed (Notifier.fits_of_sublist rfl List.filter_sublist)
  | itemTaken => exact changed (.refl _)
  | itemFired => exact changed (fits_fire _ _ _ _ _)
  | _ => exact .refl _

namespace Watched

variable (w : v.Watched)
include w

theorem nodup_pending : (v.net name).notifier.pending.Nodup := by
  have wakeups := (w.keyed name).nodup
  rw [Interface.wakeups, List.append_assoc, List.map_append, List.map_map] at wakeups
  exact List.Nodup.of_map _ (List.Nodup.of_append_left wakeups)

theorem registrants_of_key {r : Registration Wakeup} (mem : r ∈ (v.net name).notifier.pending) :
    (v.registrants name).filter (·.key = r.key) = [r] := by
  refine List.perm_singleton.1 ((List.perm_ext_iff_of_nodup
    ((nodup_registrants w.assigned).filter _) (List.nodup_singleton r)).2 fun other => ?_)
  rw [List.mem_filter, List.mem_singleton, decide_eq_true_eq]
  constructor
  · exact fun both => w.registrant_unique mem both.1 both.2
  · rintro rfl
    exact ⟨w.registrants_of_pending mem, rfl⟩

theorem pending_poll_unique {r other : Registration Wakeup}
    (hr : r ∈ (v.net name).notifier.pending) (poll : r.worker = .poll c)
    (ho : other ∈ (v.net name).notifier.pending) (poll' : other.worker = .poll c) :
    r = other := by
  have k := w.keyed name
  obtain ⟨⟨armed, found, key⟩, -⟩ := k.pending_poll r hr c poll
  obtain ⟨⟨armed', found', key'⟩, -⟩ := k.pending_poll other ho c poll'
  cases found.symm.trans found'
  exact w.registrant_unique ho (w.registrants_of_pending hr) (key.symm.trans key')

theorem length_polls_le_one (c : Nat) :
    ((v.net name).notifier.pending.filter (·.worker = .poll c)).length ≤ 1 := by
  have apart : ((v.net name).notifier.pending.filter (·.worker = .poll c)).Nodup :=
    w.nodup_pending.filter _
  have same (r : Registration Wakeup)
      (hr : r ∈ (v.net name).notifier.pending.filter (·.worker = .poll c))
      (other : Registration Wakeup)
      (ho : other ∈ (v.net name).notifier.pending.filter (·.worker = .poll c)) : r = other := by
    simp only [List.mem_filter, decide_eq_true_eq] at hr ho
    exact w.pending_poll_unique hr.1 hr.2 ho.1 ho.2
  generalize (v.net name).notifier.pending.filter (·.worker = .poll c) = polls at apart same
  match polls with
  | [] | [_] => simp
  | r :: other :: rest =>
    have one := same r List.mem_cons_self other (by simp)
    simp [one] at apart

end Watched

theorem handles_of_unheld (unheld : v.isHeld name c = false) : v.handles name c = 0 := by
  refine List.countP_eq_zero.2 fun e mem handle => ?_
  rw [isHeld_iff.2 (.inl ⟨e, mem, isHandleOf_eq_true.1 handle⟩)] at unheld
  cases unheld

theorem leftBehind_move (w : v.Watched) (m : Move v a later) {r : Registration Wakeup}
    (left : r ∈ v.leftBehind name) : r ∈ later.leftBehind name := by
  obtain ⟨c, poll, unheld, armed, rfl⟩ := mem_pollersOn.1 left
  have within := Interface.lt_of_armed armed
  have alone : v.isHeld name c = false := by simpa using unheld
  have unattached {key : Int} {h : Handle Attachment} (attached : v.Attached key h c)
      (family : h.family = name) : False := by
    have held := (w.placed.of_attached attached).2
    rw [family, alone] at held
    cases held
  -- a connection is disarmed through a handle, or by a wakeup that finds the connection held
  have still : ((later.net name).connection c).armed = some poll := by
    rcases armed_of_move w m armed with
      still | torn | ⟨s, key, h, -, -, -, attached, family, -⟩ | ⟨n, -, -, held⟩
    · exact still
    · cases torn with
      | step attached family | call _ _ _ attached family =>
        exact (unattached attached family).elim
    · exact (unattached attached family).elim
    · exact absurd (alone.symm.trans held) Bool.false_ne_true
  refine mem_pollersOn.2 ⟨c, poll, ?_, still, by rw [id_move m within]⟩
  cases held : later.isHeld name c with
  | false => rfl
  | true => exact absurd (alone.symm.trans (isHeld_of_move w.placed m within held)) nofun

theorem living_move (m : Move v a later) (l : (v.net name).Living)
    (few : (later.net name).pool.count ≤ Interface.identities) : (later.net name).Living := by
  have changed {n : String} {i : Interface}
      (kept : n = name → (v.net n).Living → i.pool.count ≤ Interface.identities → i.Living)
      (few : ((v.setNet n i).net name).pool.count ≤ Interface.identities) :
      ((v.setNet n i).net name).Living := by
    by_cases here : n = name
    · subst here
      simp only [net_setNet, Function.update_self] at few ⊢
      exact kept rfl l few
    · simpa [Ne.symm here] using l
  cases dealing m with
  | none same => exact l.of_same (same name)
  | opened _ made =>
    refine changed (fun _ l few => l.opened made ?_) few
    obtain ⟨id, pool, allocated, -, rfl⟩ := Interface.open?_eq_some made
    unfold Pool.allocate? at allocated
    split at allocated
    · cases allocated
    · cases allocated
      exact few
  | duplicated _ _ counted | counted counted => exact changed (fun _ l _ => l.shared counted) few
  | closed _ _ _ given => exact changed (fun _ l _ => l.closed given) few
  | lost | flagged => exact l

end View

namespace Concurrent

variable {t : Concurrent} {actions : List Action} {name : String} {c : Nat}

/-- Whether a response was queued under the identity of a registration that had been made. -/
def signalled (t : Concurrent) (actions : List Action) (name : String)
    (r : Registration Wakeup) : Bool :=
  (t.trace actions).any fun step => r ∈ step.1.view.registrants name && tells name r step

theorem signalled_append (past : List Action) (a : Action) (r : Registration Wakeup) :
    signalled t (past ++ [a]) name r = (signalled t past name r ||
      (r ∈ (t.run past).view.registrants name && tells name r (t.run past, a))) := by
  rw [signalled, trace_append, List.any_append]
  simp [signalled]

theorem key_lt_of_met (fresh : t.IsFresh) {r : Registration Wakeup} {step : Concurrent × Action}
    (mem : step ∈ t.trace actions) (met : r ∈ step.1.view.registrants name) :
    r.key < ((t.run actions).net name).notifier.nextKey := by
  obtain ⟨xs, ys, split, at_xs⟩ := mem_trace.1 mem
  have s := fresh.sound.run xs
  have below := s.watched.key_lt_of_registrants (at_xs ▸ met)
  have grown := (s.onward (step.2 :: ys) name).nextKey
  rw [← run_append, ← split] at grown
  exact Nat.lt_of_lt_of_le below grown

theorem pending_run (fresh : t.IsFresh) (actions : List Action) {r : Registration Wakeup}
    (waits : r ∈ (t.run actions).view.registrants name) :
    r ∈ ((t.run actions).net name).notifier.pending ↔ signalled t actions name r = false := by
  induction actions using List.reverseRecOn with
  | nil =>
    obtain ⟨c, ⟨poll, armed, -⟩ | ⟨s, -, n, call, sink, found, -⟩, -⟩ :=
      View.mem_registrants.1 waits
    · have within := Interface.lt_of_armed armed
      have none : (t.view.net name).connections = [] := fresh.no_connections name
      rw [run_nil, none] at within
      cases within
    · have none : t.view.calls = [] := fresh.calls
      rw [run_nil, none] at found
      cases found
  | append_singleton past a ih =>
    have s := fresh.sound.run past
    rw [run_append_singleton] at waits ⊢
    rw [signalled_append, Bool.or_eq_false_iff]
    by_cases before : r ∈ (t.run past).view.registrants name
    · rw [pending_act s before waits, ih before]
      simp [before]
    · -- a registration that was just made bears a key that nobody has met
      have registered : (t.run past).view.Registered ((t.run past).act a).view name r :=
        (View.registrants_move s.watched (act_move s.netlink a) waits).resolve_left before
      have unmet : signalled t past name r = false := by
        refine List.any_eq_false.2 fun step mem met => before ?_
        simp only [Bool.and_eq_true, decide_eq_true_eq] at met
        exact absurd registered.2 (Nat.not_le.2 (key_lt_of_met fresh mem met.1))
      simp only [unmet, before, decide_false, Bool.false_and, and_self, iff_true]
      exact registered.1

theorem perm_pending (fresh : t.IsFresh) (actions : List Action) (name : String) :
    ((t.run actions).net name).notifier.pending.Perm
      (((t.run actions).view.registrants name).filter fun r => !signalled t actions name r) := by
  have w := (fresh.sound.run actions).watched
  refine (List.perm_ext_iff_of_nodup w.nodup_pending
    ((View.nodup_registrants w.assigned).filter _)).2 fun r => ?_
  rw [List.mem_filter, Bool.not_eq_true']
  constructor
  · intro mem
    have waits := w.registrants_of_pending mem
    exact ⟨waits, (pending_run fresh actions waits).1 mem⟩
  · exact fun both => (pending_run fresh actions both.1).2 both.2

theorem fits_run (netlink : t.IsNetlink) (actions : List Action) (name : String)
    (room : (t.net name).notifier.count ≤ (t.net name).notifier.capacity) :
    ((t.run actions).net name).notifier.count ≤ (t.net name).notifier.capacity := by
  have keeps (v : View) (a : Action) (later : View) (m : Move v a later)
      (before : (v.net name).notifier.capacity = (t.net name).notifier.capacity ∧
        (v.net name).notifier.count ≤ (t.net name).notifier.capacity) :
      (later.net name).notifier.capacity = (t.net name).notifier.capacity ∧
        (later.net name).notifier.count ≤ (t.net name).notifier.capacity := by
    have fits := View.fits_move m name
    have count := fits.count (before.1 ▸ before.2)
    exact ⟨fits.capacity.trans before.1, before.1 ▸ count⟩
  exact (run_move keeps netlink ⟨rfl, room⟩ actions).2

theorem living_run (fresh : t.IsFresh) (actions : List Action)
    (few : ∀ past rest, actions = past ++ rest →
      ((t.run past).net name).pool.count ≤ Interface.identities) :
    ((t.run actions).net name).Living := by
  induction actions using List.reverseRecOn with
  | nil =>
    have references (c : Nat) : ((t.net name).connection c).references = 0 :=
      fresh.no_references name c
    obtain ⟨limits, handlers, made⟩ := fresh.nets name
    refine ⟨?_, by simp [references], by simp [references]⟩
    rw [run_nil, made]
    exact (by decide : (1 : UInt32) ≠ 0)
  | append_singleton past a ih =>
    have before := ih fun xs ys split => few xs (ys ++ [a]) (by simp [split])
    have netlink := fresh.isNetlink.run past
    have count := few (past ++ [a]) [] (by simp)
    rw [run_append_singleton] at count ⊢
    exact View.living_move (act_move netlink a) before count

/-- Without direct reads, whoever sleeps does so through a handle that is open. -/
theorem references_of_sleeps (fresh : t.IsFresh) (direct : ∀ target, .get target ∉ actions)
    {s key : Nat} (asleep : (t.run actions).view.Sleeps name s key c) :
    0 < (t.run actions).view.references name c := by
  obtain ⟨n, call, sink, found, rfl, rfl, here⟩ := asleep
  obtain ⟨past, a, messages, course⟩ := course_run fresh actions found
  obtain ⟨rest, split⟩ := course.begun
  have sound := fresh.sound.run actions
  have reads := course.reads
  rw [here] at reads
  have borrows : ∃ socket, call.socket = some socket := by
    rw [course.socket]
    cases reads with
    | sleeping wants =>
      cases a with
      | receive socket => exact ⟨socket, rfl⟩
      | get target => exact absurd (by simp [split]) (direct target)
      | _ => cases wants
    | other _ silent => cases silent
  obtain ⟨socket, borrowed⟩ := borrows
  obtain ⟨h, attached, family⟩ := sound.watched.placed.borrowed call
    (List.mem_of_getElem? found) (by rw [here]; rfl) socket borrowed
  exact family ▸ sound.owned.references_pos attached

theorem not_awaits_of_unreferenced (fresh : t.IsFresh) (direct : ∀ target, .get target ∉ actions)
    (gone : (t.run actions).view.references name c = 0) (r : Registration Wakeup) :
    ¬(t.run actions).view.Awaits name r c := by
  rintro (⟨poll, armed, -⟩ | ⟨semaphore, -, asleep⟩)
  · exact Nat.ne_of_gt ((fresh.sound.run actions).referenced name c poll armed) gone
  · exact Nat.ne_of_gt (references_of_sleeps fresh direct asleep) gone

theorem armed_of_unreferenced (fresh : t.IsFresh)
    (gone : (t.run actions).view.references name c = 0) :
    (((t.run actions).net name).connection c).armed = none := by
  cases armed : (((t.run actions).net name).connection c).armed with
  | none => rfl
  | some poll =>
    exact absurd gone (Nat.ne_of_gt ((fresh.sound.run actions).referenced name c poll armed))

theorem count_of_no_live (fresh : t.IsFresh) (direct : ∀ target, .get target ∉ actions)
    (few : ∀ past rest, actions = past ++ rest →
      ((t.run past).net name).pool.count ≤ Interface.identities)
    (none_live : ((t.run actions).net name).pool.count = 0) :
    ((t.run actions).net name).notifier.count = 0 := by
  have living := living_run fresh actions few
  have gone (c : Nat) : (t.run actions).view.references name c = 0 := by
    refine Nat.eq_zero_of_not_pos fun counted => ?_
    have live := living.live c counted
    rw [List.eq_nil_of_length_eq_zero none_live] at live
    cases live
  rw [Notifier.count, List.length_eq_zero_iff, List.eq_nil_iff_forall_not_mem]
  intro r mem
  obtain ⟨c, awaits⟩ := (fresh.sound.run actions).watched.awaits mem
  exact not_awaits_of_unreferenced fresh direct (gone c) r awaits

/-! What is left behind -/

theorem counted_of_leftBehind (fresh : t.IsFresh) (actions : List Action)
    {r : Registration Wakeup} (left : r ∈ (t.run actions).view.leftBehind name) :
    ∃ c, r.worker = .poll c ∧ (t.run actions).isHeld name c = false ∧
      (t.run actions).view.references name c = (t.trace actions).countP (addsReference name c) ∧
      0 < (t.run actions).view.references name c := by
  obtain ⟨c, poll, unheld, armed, rfl⟩ := View.mem_pollersOn.1 left
  have alone : (t.run actions).view.isHeld name c = false := by simpa using unheld
  have counted := references_counted fresh actions name c
  rw [View.handles_of_unheld alone, Nat.zero_add] at counted
  exact ⟨c, rfl, alone, counted, (fresh.sound.run actions).referenced name c poll armed⟩

theorem leftBehind_of_unadded (fresh : t.IsFresh)
    (unadded : ∀ target, .step (.addReference target) ∉ actions) :
    (t.run actions).view.leftBehind name = [] := by
  refine List.eq_nil_iff_forall_not_mem.2 fun r left => ?_
  obtain ⟨c, -, -, counted, some⟩ := counted_of_leftBehind fresh actions left
  rw [counted] at some
  obtain ⟨step, mem, adds⟩ := List.countP_pos_iff.1 some
  obtain ⟨xs, ys, split, -⟩ := mem_trace.1 mem
  unfold addsReference at adds
  split at adds
  · rename_i u target
    exact unadded target (by simp [split])
  · cases adds

theorem isHeld_of_queues (placed : t.view.Placed) {other : String} {d : Nat} {message : Bytes}
    (queued : queues (t, a) = some (other, d, message)) : t.view.isHeld other d = true := by
  unfold queues at queued
  split at queued
  · rename_i target message same
    cases same
    cases found : t.session.findTarget target with
    | error refusal =>
      rw [found] at queued
      cases queued
    | ok place =>
      rw [found] at queued
      cases queued
      exact (placed.of_reaches (reaches_of_findTarget found)).2
  · rename_i n same
    cases same
    split at queued
    · rename_i found
      cases queued
      exact View.isHeld_iff.2 (.inr (.inr ⟨_, List.mem_of_getElem? found, rfl, rfl, rfl⟩))
    · cases queued
  · cases queued

/-- What is left behind is told nothing, as no response is queued without a reference to hand. -/
theorem tells_leftBehind (s : t.Sound) (b : (t.net name).Books) {r : Registration Wakeup}
    (left : r ∈ t.view.leftBehind name) (a : Action) : tells name r (t, a) = false := by
  obtain ⟨c, poll, unheld, armed, rfl⟩ := View.mem_pollersOn.1 left
  unfold tells
  cases queued : queues (t, a) with
  | none => rfl
  | some response =>
    obtain ⟨other, d, message⟩ := response
    have held := isHeld_of_queues s.watched.placed queued
    simp only [Option.any_some, Bool.and_eq_false_iff, decide_eq_false_iff_not]
    by_cases here : other = name
    · subst here
      refine .inr fun same => ?_
      have one : d = c :=
        b.id_injective (s.watched.placed.of_isHeld held) (Interface.lt_of_armed armed) same
      simp [← one, held] at unheld
    · exact .inl here

theorem pending_leftBehind_act (s : t.Sound) (b : (t.net name).Books) {r : Registration Wakeup}
    (left : r ∈ t.view.leftBehind name) (a : Action) :
    r ∈ ((t.act a).net name).notifier.pending ↔ r ∈ (t.net name).notifier.pending := by
  have after := View.leftBehind_move s.watched (act_move s.netlink a) left
  have law := pending_act s (List.mem_append_right _ left) (List.mem_append_right _ after)
  rw [law, and_iff_left (tells_leftBehind s b left a)]

theorem leftBehind_run (s : t.Sound) (actions : List Action) {r : Registration Wakeup}
    (left : r ∈ t.view.leftBehind name) : r ∈ (t.run actions).view.leftBehind name := by
  induction actions generalizing t with
  | nil => exact left
  | cons a actions ih =>
    exact ih (s.act a) (View.leftBehind_move s.watched (act_move s.netlink a) left)

theorem pending_leftBehind_run (s : t.Sound) (b : (t.net name).Books) (rest : List Action)
    (few : ((t.run rest).net name).connections.length < Interface.identities)
    {r : Registration Wakeup} (left : r ∈ t.view.leftBehind name) :
    r ∈ ((t.run rest).net name).notifier.pending ↔ r ∈ (t.net name).notifier.pending := by
  induction rest generalizing t with
  | nil => rfl
  | cons a rest ih =>
    have m := act_move s.netlink a
    have few_first : ((t.act a).net name).connections.length < Interface.identities :=
      Nat.lt_of_le_of_lt (length_run (s.act a).netlink rest name) few
    have later := ih (s.act a) (View.books_move m b few_first) few
      (View.leftBehind_move s.watched m left)
    exact later.trans (pending_leftBehind_act s b left a)

/-- What the pending registrations of an interface are, after any run. Those who wait are the armed
polls and the sleeping readers; a reader that was woken has been signalled. A poll that is left
behind holds its slot as well, for ever: its connection keeps the references that were added to it
directly, and nobody is there to release them. `empty` counts on live identities not to outnumber
the identities there are: where all are in use, none is left to find. -/
structure Slots (t : Concurrent) (actions : List Action) (name : String) : Prop where
  pending : ((t.run actions).net name).notifier.pending.Perm
    (((t.run actions).view.registrants name).filter fun r => !signalled t actions name r)
  owner : ∀ r ∈ ((t.run actions).net name).notifier.pending,
    ((t.run actions).view.registrants name).filter (·.key = r.key) = [r]
  woken : ∀ key, (t.run actions).view.Woken name key →
    ((t.run actions).net name).registrations key = []
  once : ∀ c, (((t.run actions).net name).notifier.pending.filter
    (·.worker = .poll c)).length ≤ 1
  count : ((t.run actions).net name).notifier.count =
    ((t.run actions).view.pollers name).countP (fun r => !signalled t actions name r) +
      ((t.run actions).view.sleepers name).countP (fun r => !signalled t actions name r) +
        ((t.run actions).view.leftBehind name).countP fun r => !signalled t actions name r
  left : ∀ r ∈ (t.run actions).view.leftBehind name,
    ∃ c, r.worker = .poll c ∧ (t.run actions).isHeld name c = false ∧
      (t.run actions).view.references name c = (t.trace actions).countP (addsReference name c) ∧
      0 < (t.run actions).view.references name c
  none_left : (∀ target, .step (.addReference target) ∉ actions) →
    (t.run actions).view.leftBehind name = []
  lasting : ∀ rest, ∀ r ∈ (t.run actions).view.leftBehind name,
    r ∈ (t.run (actions ++ rest)).view.leftBehind name ∧
      (((t.run (actions ++ rest)).net name).connections.length < Interface.identities →
        (r ∈ ((t.run (actions ++ rest)).net name).notifier.pending ↔
          r ∈ ((t.run actions).net name).notifier.pending))
  capacity : ((t.run actions).net name).notifier.count ≤ (t.net name).notifier.capacity
  idle : ∀ c, (t.run actions).view.references name c = 0 →
    (((t.run actions).net name).connection c).armed = none ∧
      ((∀ target, .get target ∉ actions) →
        ∀ r ∈ ((t.run actions).net name).notifier.pending, ¬(t.run actions).view.Awaits name r c)
  empty : (∀ target, .get target ∉ actions) →
    (∀ past rest, actions = past ++ rest →
      ((t.run past).net name).pool.count ≤ Interface.identities) →
    ((t.run actions).net name).pool.count = 0 → ((t.run actions).net name).notifier.count = 0

theorem slots_run (fresh : t.IsFresh) (actions : List Action) (name : String) :
    Slots t actions name := by
  have s := fresh.sound.run actions
  have w := s.watched
  constructor
  case pending => exact perm_pending fresh actions name
  case owner => exact fun r mem => w.registrants_of_key mem
  case woken => exact fun key awake => (Interface.no_places ((w.readers name).woken key awake)).1
  case once => exact w.length_polls_le_one
  case count =>
    rw [Notifier.count, (perm_pending fresh actions name).length_eq, ← List.countP_eq_length_filter,
      View.registrants, View.waiters, List.countP_append, List.countP_append]
  case left => exact fun r left => counted_of_leftBehind fresh actions left
  case none_left => exact leftBehind_of_unadded fresh
  case lasting =>
    intro rest r left
    rw [run_append]
    refine ⟨leftBehind_run s rest left, fun few => ?_⟩
    have few_here := Nat.lt_of_le_of_lt (length_run s.netlink rest name) few
    exact pending_leftBehind_run s (books_run fresh actions few_here) rest few left
  case capacity =>
    refine fits_run fresh.isNetlink actions name ?_
    obtain ⟨limits, handlers, made⟩ := fresh.nets name
    rw [made]
    exact Nat.zero_le _
  case idle =>
    exact fun c gone => ⟨armed_of_unreferenced fresh gone, fun direct r _ =>
      not_awaits_of_unreferenced fresh direct gone r⟩
  case empty => exact fun direct few => count_of_no_live fresh direct few

/-- A reader sleeps on one connection, and a poll is armed on a second and on a third. To the third
a reference is added before its handle is closed. Then a response comes for the reader. -/
def pollLeft : List Action :=
  [.step (.register 16 "nl"), .step (.socket 0 16 3 0), .step (.socket 1 16 3 0),
    .step (.socket 2 16 3 0), .receive 0 [0] Flags.empty none, .goOn 0,
    .step (.descriptor 0 (Flags.single .readable) 0), .step (.arm 1 0),
    .step (.addReference (.socket 2)), .step (.arm 2 0), .step (.close 2),
    .step (.push (.socket 0) [1])]

theorem slots_pollLeft :
    (let t := start .withRoute [("nl", Interface.defaultLimits, [])];
      (t.run pollLeft).view.pollers "nl" = [⟨2, ⟨2⟩, .poll 1⟩] ∧
        (t.run pollLeft).view.sleepers "nl" = [⟨1, ⟨1⟩, .reader 0⟩] ∧
        (t.run pollLeft).view.leftBehind "nl" = [⟨3, ⟨3⟩, .poll 2⟩] ∧
        signalled t pollLeft "nl" ⟨1, ⟨1⟩, .reader 0⟩ = true ∧
        ((t.run pollLeft).net "nl").notifier.count = 2) ∧
      Slots (start .withRoute [("nl", Interface.defaultLimits, [])]) pollLeft "nl" :=
  ⟨by decide +kernel, slots_run (isFresh_start _ _) _ _⟩

/-- A poll is armed through the only handle of a connection to which a reference was added, and the
handle is closed. -/
def armedAndClosed : List Action :=
  [.step (.register 16 "nl"), .step (.socket 0 16 3 0), .step (.addReference (.socket 0)),
    .step (.descriptor 0 (Flags.single .readable) 0), .step (.arm 0 0), .step (.close 0)]

theorem not_always_waited : ¬∀ (t : Concurrent), t.IsFresh → ∀ (actions : List Action)
    (name : String), (∀ target, .get target ∉ actions) →
      ((t.run actions).net name).notifier.count =
        ((t.run actions).view.pollers name).countP (fun r => !signalled t actions name r) +
          ((t.run actions).view.sleepers name).countP fun r => !signalled t actions name r := by
  intro claimed
  have same := claimed (start .withRoute [("nl", Interface.defaultLimits, [])])
    (isFresh_start _ _) armedAndClosed "nl" (by simp [armedAndClosed])
  revert same
  decide +kernel

end Concurrent

end NetlinkSocket
