import Mathlib.Data.List.Nodup
import Mathlib.Data.List.Perm.Basic
import NetlinkSocket.Proofs.Effects

/-!
Where a registration stands. A key is pending, or its wakeup is queued, or taken off the queue and
about to be called; it is never in two of these places. The connection that is armed by a key can
still be reached under it.
-/

namespace NetlinkSocket.Interface

/-- The wakeups that are still to be called, with their keys: those of pending registrations,
those in the queue, and those taken off it. -/
def wakeups (i : Interface) (taken : List (Nat × Wakeup)) : List (Nat × Wakeup) :=
  i.notifier.pending.map (fun r => (r.key, r.worker)) ++ i.queue.items ++ taken

structure SameWaits (i later : Interface) : Prop where
  pending : later.notifier.pending = i.notifier.pending
  nextKey : later.notifier.nextKey = i.notifier.nextKey
  queue : later.queue = i.queue
  length : i.connections.length ≤ later.connections.length
  armed : ∀ d, (later.connection d).armed = (i.connection d).armed
  id : ∀ d, d < i.connections.length → (later.connection d).id = (i.connection d).id
  responses : ∀ d, (i.connection d).responses = [] → (later.connection d).responses = []

variable {i later : Interface} {taken : List (Nat × Wakeup)} {c : Nat}

theorem SameWaits.refl (i : Interface) : SameWaits i i :=
  ⟨rfl, rfl, rfl, Nat.le_refl _, fun _ => rfl, fun _ _ => rfl, fun _ h => h⟩

theorem sameWaits_update (f : Connection → Connection)
    (h : ∀ k, (f k).armed = k.armed ∧ (f k).id = k.id ∧ (k.responses = [] → (f k).responses = [])) :
    SameWaits i (i.update c f) := by
  have unchanged (d : Nat) : ((i.update c f).connection d).armed = (i.connection d).armed ∧
      ((i.update c f).connection d).id = (i.connection d).id ∧
      ((i.connection d).responses = [] → ((i.update c f).connection d).responses = []) := by
    by_cases within : c < i.connections.length
    · rw [connection_update f within]
      split
      · rename_i same
        rw [same]
        exact h _
      · exact ⟨rfl, rfl, fun empty => empty⟩
    · have beyond := Nat.le_of_not_lt within
      simp [connection, update, List.modify_eq_self beyond]
  exact ⟨rfl, rfl, rfl, Nat.le_of_eq (length_update f).symm, fun d => (unchanged d).1,
    fun d _ => (unchanged d).2.1, fun d => (unchanged d).2.2⟩

theorem sameWaits_addReference (h : i.addReference c = (.ok (), later)) : SameWaits i later := by
  obtain ⟨-, -, rfl⟩ := addReference_eq_ok h
  exact sameWaits_update _ fun k => ⟨rfl, rfl, fun empty => empty⟩

theorem sameWaits_pop? {message : Bytes} (h : i.pop? c = (some message, later)) :
    SameWaits i later := by
  have connection := connection_pop? h
  obtain ⟨notifier, queue, -, length⟩ := rest_pop? h
  refine ⟨by rw [notifier], by rw [notifier], queue, Nat.le_of_eq length.symm, fun d => ?_,
    fun d _ => ?_, fun d empty => ?_⟩
  all_goals
    rw [connection]
    split <;> simp_all

theorem sameWaits_open? {p : Protocol} (h : i.open? p = (some c, later)) : SameWaits i later := by
  obtain ⟨id, pool, -, -, made⟩ := open?_eq_some h
  have connections : later.connections = i.connections ++ [.fresh id p] := by rw [made]
  have beyond := connection_of_le (i := i) (Nat.le_refl _)
  refine ⟨by rw [made], by rw [made], by rw [made], by simp [connections], fun d => ?_,
    fun d within => ?_, fun d empty => ?_⟩
  · rw [connection_append connections]
    split
    · rename_i new
      rw [new, beyond]
      rfl
    · rfl
  · rw [connection_append connections, if_neg (Nat.ne_of_lt within)]
  · rw [connection_append connections]
    split
    · rfl
    · exact empty

theorem sameWaits_release {lines : List LogLine} (h : i.release c = .ok (lines, later)) :
    SameWaits i later ∨ (i.connection c).references = 1 ∧ SameWaits (i.disarm c) later := by
  rcases release_cases h with ⟨-, rfl⟩ | ⟨last, rfl⟩
  · exact .inl (sameWaits_update _ fun k => ⟨rfl, rfl, fun empty => empty⟩)
  · have within : c < i.connections.length := lt_of_references (by omega)
    have connection := connection_release h
    have disarmed (d : Nat) := connection_disarm (i := i) (c := c) d
    have same : (i.update c fun k => { k with references := 0 }).connection c =
        { i.connection c with references := 0 } := connection_update_self i c _ within
    have notifier : ((i.update c fun k => { k with references := 0 }).disarm c).notifier =
        (i.disarm c).notifier := by
      unfold disarm
      rw [same]
      cases (i.connection c).armed <;> rfl
    refine .inr ⟨last, congrArg Notifier.pending notifier, congrArg Notifier.nextKey notifier, ?_,
      Nat.le_of_eq ((length_disarm).trans (length_release h).symm), fun d => ?_, fun d _ => ?_,
      fun d empty => ?_⟩
    · rw [queue_release h, queue_disarm]
    all_goals
      rw [connection, disarmed] at *
      split <;> simp_all [Connection.released]

theorem SameWaits.wakeups (same : SameWaits i later) :
    later.wakeups taken = i.wakeups taken := by
  rw [Interface.wakeups, same.pending, same.queue, Interface.wakeups]

theorem mem_wakeups {e : Nat × Wakeup} :
    e ∈ i.wakeups taken ↔
      (∃ r ∈ i.notifier.pending, (r.key, r.worker) = e) ∨ e ∈ i.queue.items ∨ e ∈ taken := by
  simp [wakeups]

theorem wakeups_of_pending {r : Registration Wakeup} (h : r ∈ i.notifier.pending) :
    (r.key, r.worker) ∈ i.wakeups taken :=
  mem_wakeups.2 (.inl ⟨r, h, rfl⟩)

/-- The registrations of an interface and the polls armed by them. `isHeld` tells which
connections are still referred to. -/
structure Keyed (i : Interface) (taken : List (Nat × Wakeup)) (isHeld : Nat → Prop) : Prop where
  nodup : ((i.wakeups taken).map Prod.fst).Nodup
  below : ∀ e ∈ i.wakeups taken, e.1 < i.notifier.nextKey
  armed_below : ∀ c poll, (i.connection c).armed = some poll → poll.key < i.notifier.nextKey
  armed_distinct : ∀ c d poll other, (i.connection c).armed = some poll →
    (i.connection d).armed = some other → poll.key = other.key → c = d
  armed_wakeup : ∀ c poll, (i.connection c).armed = some poll → isHeld c →
    (poll.key, .poll c) ∈ i.wakeups taken
  pending_poll : ∀ r ∈ i.notifier.pending, ∀ c, r.worker = .poll c →
    (∃ poll, (i.connection c).armed = some poll ∧ poll.key = r.key) ∧
      r.subject = (i.connection c).id ∧ (i.connection c).responses = []

namespace Keyed

variable {isHeld : Nat → Prop}

theorem unique (k : i.Keyed taken isHeld) {e f : Nat × Wakeup} (he : e ∈ i.wakeups taken)
    (hf : f ∈ i.wakeups taken) (key : e.1 = f.1) : e = f :=
  List.inj_on_of_nodup_map k.nodup he hf key

theorem mono (k : i.Keyed taken isHeld) {still : Nat → Prop}
    (fewer : ∀ c, c < i.connections.length → still c → isHeld c) : i.Keyed taken still :=
  { k with
    armed_wakeup := fun c poll armed held =>
      k.armed_wakeup c poll armed (fewer c (lt_of_armed armed) held) }

theorem same (k : i.Keyed taken isHeld) (same : SameWaits i later) :
    later.Keyed taken isHeld where
  nodup := by
    rw [same.wakeups]
    exact k.nodup
  below := by
    rw [same.wakeups, same.nextKey]
    exact k.below
  armed_below d poll := by
    rw [same.armed, same.nextKey]
    exact k.armed_below d poll
  armed_distinct d e poll other := by
    rw [same.armed, same.armed]
    exact k.armed_distinct d e poll other
  armed_wakeup d poll := by
    rw [same.armed, same.wakeups]
    exact k.armed_wakeup d poll
  pending_poll r hr d worker := by
    rw [same.pending] at hr
    obtain ⟨⟨poll, armed, key⟩, subject, empty⟩ := k.pending_poll r hr d worker
    have within := lt_of_armed armed
    exact ⟨⟨poll, (same.armed d).trans armed, key⟩, subject.trans (same.id d within).symm,
      same.responses d empty⟩

theorem wakeups_disarm_sublist : ((i.disarm c).wakeups taken).Sublist (i.wakeups taken) := by
  simp only [wakeups, queue_disarm]
  exact (((pending_disarm).map _).append_right _).append_right _

theorem mem_wakeups_disarm {e : Nat × Wakeup} (he : e ∈ i.wakeups taken)
    (other : ∀ poll, (i.connection c).armed = some poll → e.1 ≠ poll.key) :
    e ∈ (i.disarm c).wakeups taken := by
  rcases mem_wakeups.1 he with ⟨r, hr, rfl⟩ | rest
  · exact mem_wakeups.2 (.inl ⟨r, mem_disarm.2 ⟨hr, other⟩, rfl⟩)
  · exact mem_wakeups.2 (.inr (by simpa using rest))

theorem armed_disarm {d : Nat} {poll : ArmedPoll}
    (h : ((i.disarm c).connection d).armed = some poll) :
    d ≠ c ∧ (i.connection d).armed = some poll := by
  rw [connection_disarm] at h
  split at h
  · cases h
  · exact ⟨‹_›, h⟩

theorem disarm (k : i.Keyed taken isHeld) (c : Nat) : (i.disarm c).Keyed taken isHeld where
  nodup := k.nodup.sublist (wakeups_disarm_sublist.map _)
  below e he := by
    rw [nextKey_disarm]
    exact k.below e (wakeups_disarm_sublist.subset he)
  armed_below d poll armed := by
    rw [nextKey_disarm]
    exact k.armed_below d poll (armed_disarm armed).2
  armed_distinct d e poll other one two :=
    k.armed_distinct d e poll other (armed_disarm one).2 (armed_disarm two).2
  armed_wakeup d poll armed held := by
    obtain ⟨ne, before⟩ := armed_disarm armed
    refine mem_wakeups_disarm (k.armed_wakeup d poll before held) fun mine at_c same => ne ?_
    exact k.armed_distinct d c poll mine before at_c same
  pending_poll r hr d worker := by
    obtain ⟨before, others⟩ := mem_disarm.1 hr
    obtain ⟨⟨poll, armed, key⟩, subject, empty⟩ := k.pending_poll r before d worker
    have ne : d ≠ c := by
      rintro rfl
      exact others poll armed key.symm
    rw [connection_disarm, if_neg ne]
    exact ⟨⟨poll, armed, key⟩, subject, empty⟩

theorem wakeups_push (message : Bytes) :
    ((i.push c message).wakeups taken).Perm (i.wakeups taken) := by
  let fires (r : Registration Wakeup) : Bool := r.subject = (i.connection c).id
  have split : (i.notifier.pending.filter fires ++ i.notifier.pending.filter (!fires ·)).Perm
      i.notifier.pending := List.filter_append_perm _ _
  have moved := split.map fun r => (r.key, r.worker)
  simp only [List.map_append] at moved
  have stays : (i.push c message).notifier.pending = i.notifier.pending.filter (!fires ·) := by
    simp [push, Notifier.signal, fires]
  have queued : (i.push c message).queue.items = i.queue.items ++
      (i.notifier.pending.filter fires).map fun r => (r.key, r.worker) := rfl
  simp only [wakeups, stays, queued]
  refine List.Perm.append_right taken ?_
  generalize i.queue.items = queued, List.map _ (i.notifier.pending.filter fires) = fired,
    List.map _ (i.notifier.pending.filter (!fires ·)) = left at moved ⊢
  calc left ++ (queued ++ fired)
      _ = left ++ queued ++ fired := (List.append_assoc _ _ _).symm
      _ |>.Perm (fired ++ (left ++ queued)) := List.perm_append_comm
      _ = fired ++ left ++ queued := (List.append_assoc _ _ _).symm
      _ |>.Perm _ := moved.append_right queued

theorem of_perm (k : i.Keyed taken isHeld) {others : List (Nat × Wakeup)}
    (perm : (later.wakeups others).Perm (i.wakeups taken))
    (nextKey : later.notifier.nextKey = i.notifier.nextKey)
    (armed : ∀ d, (later.connection d).armed = (i.connection d).armed)
    (pending : ∀ r ∈ later.notifier.pending, r ∈ i.notifier.pending ∧
      ∀ d, r.subject = (i.connection d).id → later.connection d = i.connection d) :
    later.Keyed others isHeld where
  nodup := (perm.map Prod.fst).nodup_iff.2 k.nodup
  below e he := by
    rw [nextKey]
    exact k.below e (perm.mem_iff.1 he)
  armed_below d poll := by
    rw [armed, nextKey]
    exact k.armed_below d poll
  armed_distinct d e poll other := by
    rw [armed, armed]
    exact k.armed_distinct d e poll other
  armed_wakeup d poll h held := by
    rw [armed] at h
    exact perm.mem_iff.2 (k.armed_wakeup d poll h held)
  pending_poll r hr d worker := by
    obtain ⟨before, untouched⟩ := pending r hr
    have found := k.pending_poll r before d worker
    rw [untouched d found.2.1]
    exact found

theorem push (k : i.Keyed taken isHeld) (message : Bytes) (within : c < i.connections.length) :
    (i.push c message).Keyed taken isHeld := by
  refine k.of_perm (wakeups_push message) rfl (armed_push message within) fun r hr => ?_
  obtain ⟨before, other⟩ := Notifier.mem_signal.1 hr
  refine ⟨before, fun d subject => ?_⟩
  rw [connection_push message within, if_neg]
  rintro rfl
  exact other subject

theorem wakeups_next? {item : Nat × Wakeup} {queue : WorkQueue (Nat × Wakeup)}
    (next : i.queue.next? = some (item, queue)) :
    (wakeups { i with queue } (taken ++ [item])).Perm (i.wakeups taken) := by
  simp only [wakeups, WorkQueue.items_of_next? next]
  generalize i.notifier.pending.map _ = pending, queue.items = rest
  have last : (pending ++ rest ++ (taken ++ [item])).Perm (item :: (pending ++ rest ++ taken)) := by
    rw [← List.append_assoc]
    exact List.perm_append_singleton item _
  have first : (pending ++ item :: rest ++ taken).Perm (item :: (pending ++ rest ++ taken)) := by
    rw [List.append_assoc, List.append_assoc]
    exact List.perm_middle
  exact last.trans first.symm

theorem next? (k : i.Keyed taken isHeld) {item : Nat × Wakeup}
    {queue : WorkQueue (Nat × Wakeup)} (next : i.queue.next? = some (item, queue)) :
    Keyed { i with queue } (taken ++ [item]) isHeld :=
  k.of_perm (wakeups_next? next) rfl (fun _ => rfl) fun _ hr => ⟨hr, fun _ _ => rfl⟩

theorem wakeups_register (taken : List (Nat × Wakeup)) (later : Interface)
    {subject : ConnectionId} {worker : Wakeup} {key : Nat} {notifier : Notifier Wakeup}
    (registered : i.notifier.register subject worker = (.ok key, notifier))
    (made : later.notifier = notifier) (queue : later.queue = i.queue) :
    (later.wakeups taken).Perm ((i.notifier.nextKey, worker) :: i.wakeups taken) := by
  obtain ⟨rfl, -, -, pending⟩ := Notifier.register_eq_ok registered
  simp only [wakeups, made, queue, pending, List.map_append, List.map_cons, List.map_nil]
  rw [List.append_assoc, List.append_assoc, List.append_assoc]
  exact List.perm_middle

theorem nodup_register (k : i.Keyed taken isHeld) (worker : Wakeup) :
    (((i.notifier.nextKey, worker) :: i.wakeups taken).map Prod.fst).Nodup := by
  refine List.nodup_cons.2 ⟨fun mem => ?_, k.nodup⟩
  obtain ⟨e, he, key⟩ := List.mem_map.1 mem
  exact absurd (k.below e he) (Nat.not_lt.2 (Nat.le_of_eq key.symm))

theorem register (k : i.Keyed taken isHeld) {subject : ConnectionId} {semaphore key : Nat}
    {notifier : Notifier Wakeup}
    (registered : i.notifier.register subject (.reader semaphore) = (.ok key, notifier)) :
    Keyed { i with notifier } taken isHeld := by
  have perm := wakeups_register taken { i with notifier } registered rfl rfl
  obtain ⟨rfl, nextKey, -, pending⟩ := Notifier.register_eq_ok registered
  constructor
  · exact (perm.map Prod.fst).nodup_iff.2 (k.nodup_register _)
  · intro e he
    simp only [nextKey]
    rcases List.mem_cons.1 (perm.mem_iff.1 he) with rfl | old
    · exact Nat.lt_succ_self _
    · exact Nat.lt_succ_of_lt (k.below e old)
  · intro d poll armed
    simp only [nextKey]
    exact Nat.lt_succ_of_lt (k.armed_below d poll armed)
  · exact k.armed_distinct
  · intro d poll armed held
    exact perm.mem_iff.2 (List.mem_cons_of_mem _ (k.armed_wakeup d poll armed held))
  · intro r hr d worker
    simp only [pending, List.mem_append, List.mem_singleton] at hr
    rcases hr with old | rfl
    · exact k.pending_poll r old d worker
    · cases worker

theorem withdraw (k : i.Keyed taken isHeld) {key : Nat}
    (unarmed : ∀ c poll, (i.connection c).armed = some poll → poll.key ≠ key) :
    (i.withdraw key).Keyed taken isHeld := by
  have kept : ((i.withdraw key).wakeups taken).Sublist (i.wakeups taken) :=
    ((List.filter_sublist.map _).append_right _).append_right _
  constructor
  · exact k.nodup.sublist (kept.map _)
  · exact fun e he => k.below e (kept.subset he)
  · exact k.armed_below
  · exact k.armed_distinct
  · intro d poll armed held
    rcases mem_wakeups.1 (k.armed_wakeup d poll armed held) with ⟨r, hr, entry⟩ | rest
    · have other : r.key ≠ key := by
        rw [show r.key = poll.key from congrArg Prod.fst entry]
        exact unarmed d poll armed
      exact mem_wakeups.2 (.inl ⟨r, Notifier.mem_withdraw.2 ⟨hr, other⟩, entry⟩)
    · exact mem_wakeups.2 (.inr rest)
  · exact fun r hr => k.pending_poll r (Notifier.mem_withdraw.1 hr).1

variable {s signals : Signals} {fd : PollDescriptor}

theorem arm (k : i.Keyed taken isHeld) (armed : i.arm s c fd = (.ok (), later, signals))
    (within : c < i.connections.length) : later.Keyed taken isHeld := by
  rcases arm_cases armed with
    ⟨-, rfl, -⟩ | ⟨-, -, rfl, -⟩ | ⟨waits, reads, idle, -, notifier, registered, made⟩
  · exact k
  · exact k
  have perm := wakeups_register taken later registered (by rw [made])
    (by rw [made]; rfl)
  have connection (d : Nat) : later.connection d = if d = c then
      { i.connection c with armed := some ⟨fd.slot, fd.semaphore, i.notifier.nextKey⟩ }
      else i.connection d := by
    rw [made]
    exact connection_update (i := i) _ within d
  obtain ⟨-, nextKey, -, pending⟩ := Notifier.register_eq_ok registered
  have later_key : later.notifier.nextKey = i.notifier.nextKey + 1 := by rw [made, ← nextKey]
  have later_pending : later.notifier.pending = i.notifier.pending ++
      [⟨i.notifier.nextKey, (i.connection c).id, .poll c⟩] := by rw [made, ← pending]
  have fresh (d : Nat) (poll : ArmedPoll) (h : (later.connection d).armed = some poll) :
      (d = c ∧ poll.key = i.notifier.nextKey) ∨ d ≠ c ∧ (i.connection d).armed = some poll := by
    rw [connection] at h
    split at h
    · cases h
      exact .inl ⟨‹_›, rfl⟩
    · exact .inr ⟨‹_›, h⟩
  constructor
  · exact (perm.map Prod.fst).nodup_iff.2 (k.nodup_register _)
  · intro e he
    rw [later_key]
    rcases List.mem_cons.1 (perm.mem_iff.1 he) with rfl | old
    · exact Nat.lt_succ_self _
    · exact Nat.lt_succ_of_lt (k.below e old)
  · intro d poll h
    rw [later_key]
    rcases fresh d poll h with ⟨-, key⟩ | ⟨-, old⟩
    · rw [key]
      exact Nat.lt_succ_self _
    · exact Nat.lt_succ_of_lt (k.armed_below d poll old)
  · intro d e poll other one two same
    rcases fresh d poll one with ⟨rfl, key⟩ | ⟨-, old⟩ <;>
      rcases fresh e other two with ⟨rfl, key'⟩ | ⟨-, old'⟩
    · rfl
    · exact absurd (k.armed_below e other old') (by omega)
    · exact absurd (k.armed_below d poll old) (by omega)
    · exact k.armed_distinct d e poll other old old' same
  · intro d poll h held
    rcases fresh d poll h with ⟨rfl, key⟩ | ⟨-, old⟩
    · rw [key]
      exact perm.mem_iff.2 (List.mem_cons_self ..)
    · exact perm.mem_iff.2 (List.mem_cons_of_mem _ (k.armed_wakeup d poll old held))
  · intro r hr d worker
    rw [later_pending] at hr
    rcases List.mem_append.1 hr with old | new
    · obtain ⟨⟨poll, h, key⟩, subject, empty⟩ := k.pending_poll r old d worker
      have ne : d ≠ c := by
        rintro rfl
        rw [idle] at h
        cases h
      rw [connection, if_neg ne]
      exact ⟨⟨poll, h, key⟩, subject, empty⟩
    · cases List.mem_singleton.1 new
      cases worker
      rw [connection, if_pos rfl]
      exact ⟨⟨_, rfl, rfl⟩, rfl, responses_of_readyEvents waits reads⟩

section

variable {key : Nat} {w : Wakeup} {rest : List (Nat × Wakeup)}

theorem wakeups_fire (s : Signals) (held : Nat → Bool) (key : Nat) (w : Wakeup) :
    (i.fire s held key w).2.1.wakeups rest = i.wakeups rest := by
  unfold wakeups
  rw [notifier_fire, queue_fire]

theorem wakeups_called (perm : taken.Perm ((key, w) :: rest)) :
    (i.wakeups taken).Perm ((key, w) :: i.wakeups rest) :=
  (perm.append_left _).trans List.perm_middle

theorem absent_of_called (k : i.Keyed taken isHeld) (perm : taken.Perm ((key, w) :: rest))
    {e : Nat × Wakeup} (he : e ∈ i.wakeups rest) : e.1 ≠ key := by
  have nodup := ((wakeups_called perm).map Prod.fst).nodup_iff.1 k.nodup
  intro same
  exact (List.nodup_cons.1 nodup).1 (List.mem_map.2 ⟨e, he, same⟩)

theorem skip (k : i.Keyed taken isHeld) (perm : taken.Perm ((key, w) :: rest))
    (unarmed : ∀ c, w = .poll c → isHeld c → ∀ poll, (i.connection c).armed = some poll →
      poll.key ≠ key) : i.Keyed rest isHeld := by
  have whole := wakeups_called (i := i) perm
  constructor
  · exact (List.nodup_cons.1 ((whole.map Prod.fst).nodup_iff.1 k.nodup)).2
  · exact fun e he => k.below e (whole.mem_iff.2 (List.mem_cons_of_mem _ he))
  · exact k.armed_below
  · exact k.armed_distinct
  · intro d poll armed held
    rcases List.mem_cons.1 (whole.mem_iff.1 (k.armed_wakeup d poll armed held)) with called | left
    · obtain ⟨same, worker⟩ := Prod.mk.inj called
      exact absurd same (unarmed d worker.symm held poll armed)
    · exact left
  · exact k.pending_poll

theorem fire (k : i.Keyed taken isHeld) (perm : taken.Perm ((key, w) :: rest)) (s : Signals)
    {held : Nat → Bool} (referred : ∀ c, isHeld c → held c = true) :
    (i.fire s held key w).2.1.Keyed rest isHeld := by
  cases w with
  | reader semaphore => exact k.skip perm nofun
  | poll c =>
    rcases fire_poll (i := i) (s := s) (c := c) held key with
      ⟨poll, -, armed, own, fired⟩ | ⟨stale, fired⟩
    · rw [fired]
      have within := lt_of_armed armed
      have whole := wakeups_called (i := i) perm
      have left (d : Nat) (other : ArmedPoll)
          (h : ((i.update c fun k => { k with armed := none }).connection d).armed = some other) :
          d ≠ c ∧ (i.connection d).armed = some other := by
        rw [connection_update _ within] at h
        split at h
        · cases h
        · exact ⟨‹_›, h⟩
      constructor
      · exact (List.nodup_cons.1 ((whole.map Prod.fst).nodup_iff.1 k.nodup)).2
      · exact fun e he => k.below e (whole.mem_iff.2 (List.mem_cons_of_mem _ he))
      · exact fun d other h => k.armed_below d other (left d other h).2
      · exact fun d e one two h g => k.armed_distinct d e one two (left d one h).2 (left e two g).2
      · intro d other h held
        obtain ⟨ne, before⟩ := left d other h
        rcases List.mem_cons.1 (whole.mem_iff.1 (k.armed_wakeup d other before held)) with
          called | rest
        · cases called
          exact absurd rfl ne
        · exact rest
      · intro r hr d worker
        obtain ⟨⟨other, before, same⟩, subject, empty⟩ := k.pending_poll r hr d worker
        have ne : d ≠ c := by
          rintro rfl
          rw [armed] at before
          cases before
          exact k.absent_of_called perm (wakeups_of_pending hr) (same.symm.trans own)
        rw [connection_update _ within, if_neg ne]
        exact ⟨⟨other, before, same⟩, subject, empty⟩
    · rw [fired]
      refine k.skip perm ?_
      rintro d worker held poll armed
      cases worker
      exact stale (referred _ held) poll armed

end

end Keyed

end NetlinkSocket.Interface
