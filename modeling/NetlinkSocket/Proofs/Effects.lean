import NetlinkSocket.Interface
import NetlinkSocket.Proofs.Events
import NetlinkSocket.Proofs.Signals

/-!
What each operation of an interface leaves: the connections one by one, the registrations and the
queue, and the pool.
-/

namespace NetlinkSocket

namespace Notifier

variable {ω : Type} {n : Notifier ω}

theorem register_eq_ok {later : Notifier ω} {subject : ConnectionId} {worker : ω} {key : Nat}
    (h : n.register subject worker = (.ok key, later)) :
    key = n.nextKey ∧ later.nextKey = n.nextKey + 1 ∧ later.capacity = n.capacity ∧
      later.pending = n.pending ++ [⟨key, subject, worker⟩] := by
  unfold register at h
  split at h
  · cases h
  · cases h
    exact ⟨rfl, rfl, rfl, rfl⟩

theorem length_lt_of_register {later : Notifier ω} {subject : ConnectionId} {worker : ω} {key : Nat}
    (h : n.register subject worker = (.ok key, later)) : n.pending.length < n.capacity := by
  refine Nat.lt_of_not_le fun full => ?_
  rw [register_eq_error.2 ⟨full, rfl, rfl⟩] at h
  cases h

end Notifier

def Connection.released (k : Connection) : Connection :=
  if k.references = 1 then { k with references := 0, armed := none, responses := [] }
  else { k with references := k.references - 1 }

namespace Interface

variable {i later : Interface} {c : Nat}

theorem connection_of_le {d : Nat} (h : i.connections.length ≤ d) : i.connection d = default := by
  simp [connection, h]

theorem lt_of_references {d : Nat} (h : 0 < (i.connection d).references) :
    d < i.connections.length := by
  refine Nat.lt_of_not_le fun beyond => ?_
  rw [connection_of_le beyond] at h
  exact absurd h (by decide)

theorem lt_of_armed {d : Nat} {poll : ArmedPoll} (h : (i.connection d).armed = some poll) :
    d < i.connections.length := by
  refine Nat.lt_of_not_le fun beyond => ?_
  rw [connection_of_le beyond] at h
  cases h

theorem connection_mem {d : Nat} (h : d < i.connections.length) :
    i.connection d ∈ i.connections := by
  simp [connection, h]

@[simp] theorem length_update (f : Connection → Connection) :
    (i.update c f).connections.length = i.connections.length := by
  simp [update]

theorem connection_update (f : Connection → Connection) (h : c < i.connections.length)
    (d : Nat) : (i.update c f).connection d =
      if d = c then f (i.connection c) else i.connection d := by
  split
  · rename_i same
    rw [same, connection_update_self i c f h]
  · rename_i other
    exact connection_update_of_ne i f other

/-! Opening a connection -/

theorem open?_eq_some {p : Protocol} (h : i.open? p = (some c, later)) :
    ∃ id pool, i.pool.allocate? = (some id, pool) ∧ c = i.connections.length ∧
      later = { i with pool, connections := i.connections ++ [.fresh id p] } := by
  unfold open? at h
  rcases allocated : i.pool.allocate? with ⟨_ | id, pool⟩
  · simp [allocated] at h
  · rw [allocated] at h
    cases h
    exact ⟨id, pool, rfl, rfl, rfl⟩

theorem open?_eq_none {p : Protocol} (h : i.open? p = (none, later)) :
    i.pool.capacity ≤ i.pool.count ∧ later = i := by
  unfold open? Pool.allocate? at h
  split at h
  · rename_i allocated
    split at allocated
    · cases allocated
      cases h
      exact ⟨‹_›, rfl⟩
    · cases allocated
  · cases h

theorem connection_append {k : Connection} (h : later.connections = i.connections ++ [k])
    (d : Nat) :
    later.connection d = if d = i.connections.length then k else i.connection d := by
  simp only [connection, h]
  split
  · simp [*]
  · rename_i other
    rcases Nat.lt_or_gt_of_ne other with within | beyond
    · simp [List.getElem?_append_left within]
    · rw [List.getElem?_eq_none (by simp; omega), List.getElem?_eq_none (by omega)]

theorem connection_eq_getElem {d : Nat} (h : d < i.connections.length) :
    i.connection d = i.connections[d] := by
  simp [connection, h]

/-! Counting references -/

theorem update_self (i : Interface) (c : Nat) : (i.update c fun _ => i.connection c) = i := by
  have same : i.connections.modify c (fun _ => i.connection c) = i.connections := by
    refine List.ext_getElem? fun d => ?_
    rw [List.getElem?_modify]
    by_cases here : c = d
    · subst here
      cases found : i.connections[c]? <;> simp [connection, found]
    · simp [here]
  simp only [update, same]

theorem addReference_eq_ok (h : i.addReference c = (.ok (), later)) :
    0 < (i.connection c).references ∧ (i.connection c).references < Connection.maxReferences ∧
      later = i.update c fun k => { k with references := (i.connection c).references + 1 } := by
  unfold addReference Connection.addReference at h
  by_cases shareable : (i.connection c).shareable
  · simp only [shareable, if_true, Prod.mk.injEq, true_and] at h
    simp only [Connection.shareable, Bool.and_eq_true, decide_eq_true_eq] at shareable
    refine ⟨shareable.1, shareable.2, ?_⟩
    have within := lt_of_references shareable.1
    rw [← h]
    simp only [update]
    congr 1
    refine List.ext_getElem? fun d => ?_
    by_cases same : d = c
    · subst same; simp [connection, within]
    · simp [Ne.symm same]
  · simp [shareable] at h

theorem addReference_eq_error {fault : Fault} (h : i.addReference c = (.error fault, later)) :
    (i.connection c).shareable = false ∧
      fault = .referenceCount (i.connection c).references (i.connection c).id ∧ later = i := by
  unfold addReference at h
  rcases counted : (i.connection c).addReference with ⟨refused | ⟨⟩, k⟩
  · rw [counted] at h
    cases h
    obtain ⟨unshareable, reason, same⟩ := Connection.addReference_eq_error.1 counted
    rw [same]
    exact ⟨unshareable, reason, i.update_self c⟩
  · rw [counted] at h
    cases h

@[simp] theorem notifier_update (f : Connection → Connection) :
    (i.update c f).notifier = i.notifier := rfl

@[simp] theorem queue_update (f : Connection → Connection) : (i.update c f).queue = i.queue := rfl

@[simp] theorem pool_update (f : Connection → Connection) : (i.update c f).pool = i.pool := rfl

@[simp] theorem handlers_update (f : Connection → Connection) :
    (i.update c f).handlers = i.handlers := rfl

/-! Taking an armed poll off -/

@[simp] theorem length_disarm : (i.disarm c).connections.length = i.connections.length := by
  unfold disarm
  split <;> simp

theorem connection_disarm (d : Nat) :
    (i.disarm c).connection d =
      if d = c then { i.connection c with armed := none } else i.connection d := by
  unfold disarm
  split
  · rename_i idle
    split
    · rename_i same
      rw [same, ← idle]
    · rfl
  · rename_i poll armed
    exact connection_update _ (lt_of_armed armed) d

@[simp] theorem pool_disarm : (i.disarm c).pool = i.pool := by
  unfold disarm
  split <;> rfl

@[simp] theorem handlers_disarm : (i.disarm c).handlers = i.handlers := by
  unfold disarm
  split <;> rfl

@[simp] theorem queue_disarm : (i.disarm c).queue = i.queue := by
  unfold disarm
  split <;> rfl

@[simp] theorem nextKey_disarm : (i.disarm c).notifier.nextKey = i.notifier.nextKey := by
  unfold disarm
  split <;> rfl

theorem mem_disarm {r : Registration Wakeup} :
    r ∈ (i.disarm c).notifier.pending ↔
      r ∈ i.notifier.pending ∧ ∀ poll, (i.connection c).armed = some poll → r.key ≠ poll.key := by
  unfold disarm
  split
  · rename_i idle
    simp [idle]
  · rename_i poll armed
    simp [armed, Notifier.mem_withdraw]

theorem pending_disarm : (i.disarm c).notifier.pending.Sublist i.notifier.pending := by
  unfold disarm
  split
  · exact List.Sublist.refl _
  · exact List.filter_sublist

/-! Giving references back -/

theorem release_eq_error {fault : Fault} (h : i.release c = .error fault) :
    (i.connection c).references = 0 := by
  unfold release at h
  split at h
  · assumption
  · cases h

theorem release_of_references (h : 0 < (i.connection c).references) :
    ∃ lines later, i.release c = .ok (lines, later) := by
  cases given : i.release c with
  | error fault => exact absurd (release_eq_error given) (Nat.ne_of_gt h)
  | ok r => exact ⟨r.1, r.2, rfl⟩

theorem release_cases {lines : List LogLine} (h : i.release c = .ok (lines, later)) :
    1 < (i.connection c).references ∧
        later = i.update c (fun k => { k with references := (i.connection c).references - 1 }) ∨
      (i.connection c).references = 1 ∧
        later = ((i.update c fun k => { k with references := 0 }).reset c).2 := by
  unfold release at h
  split at h
  · cases h
  · rename_i n counted
    rw [counted]
    by_cases last : n = 0
    · subst last
      simp only [if_true, Except.ok.injEq] at h
      exact .inr ⟨rfl, by rw [h]⟩
    · simp only [last, if_false, Except.ok.injEq, Prod.mk.injEq] at h
      exact .inl ⟨by omega, h.2.symm⟩

theorem references_of_release {lines : List LogLine} (h : i.release c = .ok (lines, later)) :
    0 < (i.connection c).references := by
  rcases release_cases h with ⟨shared, -⟩ | ⟨last, -⟩ <;> omega

theorem connection_release {lines : List LogLine} (h : i.release c = .ok (lines, later))
    (d : Nat) :
    later.connection d =
      if d = c then (i.connection c).released else i.connection d := by
  have within := lt_of_references (references_of_release h)
  rcases release_cases h with ⟨shared, rfl⟩ | ⟨last, rfl⟩
  · rw [connection_update _ within]
    simp [Connection.released, Nat.ne_of_gt shared]
  · have reset (j : Interface) (hc : c < j.connections.length) :
        (j.reset c).2.connection d =
          if d = c then { j.connection c with armed := none, responses := [] }
          else j.connection d := by
      change ((j.disarm c).update c _).connection d = _
      rw [connection_update _ (by simpa using hc), connection_disarm, connection_disarm]
      split <;> simp
    rw [reset _ (by simpa using within), connection_update _ within, connection_update _ within]
    split <;> simp [Connection.released, last]

theorem length_release {lines : List LogLine} (h : i.release c = .ok (lines, later)) :
    later.connections.length = i.connections.length := by
  rcases release_cases h with ⟨-, rfl⟩ | ⟨-, rfl⟩ <;> simp [reset]

theorem queue_release {lines : List LogLine} (h : i.release c = .ok (lines, later)) :
    later.queue = i.queue := by
  rcases release_cases h with ⟨-, rfl⟩ | ⟨-, rfl⟩ <;> simp [reset]

theorem handlers_release {lines : List LogLine} (h : i.release c = .ok (lines, later)) :
    later.handlers = i.handlers := by
  rcases release_cases h with ⟨-, rfl⟩ | ⟨-, rfl⟩ <;> simp [reset]

theorem pool_release {lines : List LogLine} (h : i.release c = .ok (lines, later)) :
    later.pool =
      if (i.connection c).references = 1 then i.pool.free (i.connection c).id else i.pool := by
  rcases release_cases h with ⟨shared, rfl⟩ | ⟨last, rfl⟩
  · simp [Nat.ne_of_gt shared]
  · have within : c < i.connections.length := lt_of_references (by omega)
    change (Interface.disarm _ c).pool.free _ = _
    rw [pool_disarm, connection_update_self i c _ within]
    simp [last]

/-! Queueing and taking responses -/

theorem connection_push (message : Bytes) (h : c < i.connections.length) (d : Nat) :
    (i.push c message).connection d =
      if d = c then { i.connection c with responses := (i.connection c).responses ++ [message] }
      else i.connection d :=
  connection_update (i := i) _ h d

theorem armed_push (message : Bytes) (h : c < i.connections.length) (d : Nat) :
    ((i.push c message).connection d).armed = (i.connection d).armed := by
  rw [connection_push message h]
  split <;> simp [*]

@[simp] theorem length_push (message : Bytes) :
    (i.push c message).connections.length = i.connections.length := by
  simp [push]

theorem pop?_eq_some {message : Bytes} (h : i.pop? c = (some message, later)) :
    ∃ rest, (i.connection c).responses = message :: rest ∧
      later = i.update c fun k => { k with responses := rest } := by
  unfold pop? at h
  split at h
  · cases h
  · rename_i rest queued
    cases h
    exact ⟨rest, queued, rfl⟩

theorem connection_pop? {message : Bytes} (h : i.pop? c = (some message, later)) (d : Nat) :
    later.connection d =
      if d = c then { i.connection c with responses := (i.connection c).responses.tail }
      else i.connection d := by
  obtain ⟨rest, queued, rfl⟩ := pop?_eq_some h
  have within : c < i.connections.length := by
    refine Nat.lt_of_not_le fun beyond => ?_
    rw [connection_of_le beyond] at queued
    cases queued
  rw [connection_update _ within, queued]
  rfl

theorem rest_pop? {message : Bytes} (h : i.pop? c = (some message, later)) :
    later.notifier = i.notifier ∧ later.queue = i.queue ∧ later.pool = i.pool ∧
      later.connections.length = i.connections.length := by
  obtain ⟨rest, -, rfl⟩ := pop?_eq_some h
  simp

/-! Arming -/

variable {s signals : Signals} {fd : PollDescriptor}

def readyEvents (i : Interface) (c : Nat) (fd : PollDescriptor) : Events :=
  Events.ready (!(i.connection c).responses.isEmpty) ∩ fd.events

theorem has_readyEvents (e : Event) : (i.readyEvents c fd).has e =
    (fd.events.has e &&
      (decide (e = .writable) || !(i.connection c).responses.isEmpty && decide (e = .readable))) := by
  rw [readyEvents, Events.has_inter, Events.has_ready, Bool.and_comm]

theorem responses_of_readyEvents (waits : (i.readyEvents c fd).isEmpty = true)
    (reads : fd.events.has .readable = true) : (i.connection c).responses = [] := by
  have none := Events.isEmpty_eq_true.1 waits .readable
  simpa [has_readyEvents, reads] using none

theorem arm_cases (h : i.arm s c fd = (.ok (), later, signals)) :
    ((i.readyEvents c fd).isEmpty = false ∧ later = i ∧
        signals = (s.setSlot fd.slot (i.readyEvents c fd)).post fd.semaphore) ∨
      ((i.readyEvents c fd).isEmpty = true ∧ fd.events.has .readable = false ∧ later = i ∧
        signals = s) ∨
      ((i.readyEvents c fd).isEmpty = true ∧ fd.events.has .readable = true ∧
        (i.connection c).armed = none ∧ signals = s ∧ ∃ notifier,
        i.notifier.register (i.connection c).id (.poll c) = (.ok i.notifier.nextKey, notifier) ∧
        later = { i.update c fun k =>
          { k with armed := some ⟨fd.slot, fd.semaphore, i.notifier.nextKey⟩ } with notifier }) := by
  unfold arm at h
  simp only at h
  split at h
  · rename_i ready
    cases h
    exact .inl ⟨by simpa [readyEvents] using ready, rfl, rfl⟩
  rename_i ready
  have waits : (i.readyEvents c fd).isEmpty = true := by simpa [readyEvents] using ready
  split at h
  · rename_i unread
    cases h
    exact .inr (.inl ⟨waits, by simpa using unread, rfl, rfl⟩)
  rename_i reads
  split at h
  · cases h
  rename_i idle
  split at h
  · cases h
  · rename_i key notifier registered
    cases h
    obtain ⟨rfl, -⟩ := Notifier.register_eq_ok registered
    exact .inr (.inr ⟨waits, by simpa using reads, by simpa using idle, rfl, notifier,
      registered, rfl⟩)

theorem arm_eq_error {line : LogLine} {failure : Failure}
    (h : i.arm s c fd = (.error (line, failure), later, signals)) :
    ((i.readyEvents c fd).isEmpty = true ∧ fd.events.has .readable = true ∧
      ((i.connection c).armed.isSome = true ∧ failure = .pollAlreadyArmed ∨
        (i.connection c).armed = none ∧ i.notifier.capacity ≤ i.notifier.pending.length ∧
          failure = .slotsExhausted)) ∧ later = i ∧ signals = s := by
  unfold arm at h
  simp only at h
  split at h
  · cases h
  rename_i ready
  have waits : (i.readyEvents c fd).isEmpty = true := by simpa [readyEvents] using ready
  split at h
  · cases h
  rename_i reads
  have reads : fd.events.has .readable = true := by simpa using reads
  split at h
  · rename_i armed
    cases h
    exact ⟨⟨waits, reads, .inl ⟨armed, rfl⟩⟩, rfl, rfl⟩
  rename_i idle
  split at h
  · rename_i refused notifier made
    cases h
    obtain ⟨full, exhausted, same⟩ := Notifier.register_eq_error.1 made
    rw [same]
    exact ⟨⟨waits, reads, .inr ⟨by simpa using idle, full, exhausted⟩⟩, rfl, rfl⟩
  · cases h

theorem signals_arm (h : i.arm s c fd = (.ok (), later, signals)) :
    signals.semaphores.length = s.semaphores.length ∧
      signals.slots.length = s.slots.length ∧
      ∀ n, n ≠ fd.semaphore → signals.permits n = s.permits n := by
  rcases arm_cases h with ⟨-, -, rfl⟩ | ⟨-, -, -, rfl⟩ | ⟨-, -, -, rfl, -⟩
  · refine ⟨by simp [Signals.post, Signals.setSlot], by simp [Signals.post, Signals.setSlot],
      fun n other => ?_⟩
    rw [Signals.permits_post_of_ne _ other]
    rfl
  · exact ⟨rfl, rfl, fun _ _ => rfl⟩
  · exact ⟨rfl, rfl, fun _ _ => rfl⟩

theorem armed_arm (h : i.arm s c fd = (.ok (), later, signals)) {d : Nat} {poll : ArmedPoll}
    (armed : (later.connection d).armed = some poll) :
    (i.connection d).armed = some poll ∨
      d = c ∧ poll.slot = fd.slot ∧ poll.semaphore = fd.semaphore ∧ signals = s := by
  rcases arm_cases h with ⟨-, rfl, -⟩ | ⟨-, -, rfl, -⟩ | ⟨-, -, -, rfl, notifier, -, rfl⟩
  · exact .inl armed
  · exact .inl armed
  · have armed : ((i.update c fun k =>
        { k with armed := some ⟨fd.slot, fd.semaphore, i.notifier.nextKey⟩ }).connection d).armed =
        some poll := armed
    by_cases within : c < i.connections.length
    · rw [connection_update _ within] at armed
      split at armed
      · cases armed
        exact .inr ⟨‹_›, rfl, rfl, rfl⟩
      · exact .inl armed
    · refine .inl ?_
      simpa [connection, update, List.modify_eq_self (Nat.le_of_not_lt within)] using armed

theorem permits_le_arm (h : i.arm s c fd = (.ok (), later, signals)) (n : Nat) :
    s.permits n ≤ signals.permits n := by
  rcases arm_cases h with ⟨-, -, rfl⟩ | ⟨-, -, -, rfl⟩ | ⟨-, -, -, rfl, -⟩
  · exact Signals.permits_le_post (s.setSlot _ _) _ n
  · exact Nat.le_refl _
  · exact Nat.le_refl _

theorem armed_stays (h : i.arm s c fd = (.ok (), later, signals)) {d : Nat} {poll : ArmedPoll}
    (armed : (i.connection d).armed = some poll) : (later.connection d).armed = some poll := by
  rcases arm_cases h with ⟨-, rfl, -⟩ | ⟨-, -, rfl, -⟩ | ⟨-, -, idle, -, notifier, -, rfl⟩
  · exact armed
  · exact armed
  · have ne : d ≠ c := by
      rintro rfl
      rw [idle] at armed
      cases armed
    exact (congrArg Connection.armed (connection_update_of_ne i _ ne)).trans armed

/-! Calling a wakeup -/

theorem fire_poll (isHeld : Nat → Bool) (key : Nat) :
    (∃ poll, isHeld c = true ∧ (i.connection c).armed = some poll ∧ poll.key = key ∧
      i.fire s isHeld key (.poll c) =
        ([], i.update c (fun k => { k with armed := none }),
          (s.addToSlot poll.slot (Flags.single .readable)).post poll.semaphore)) ∨
      ((isHeld c = true → ∀ poll, (i.connection c).armed = some poll → poll.key ≠ key) ∧
        (i.fire s isHeld key (.poll c)).2 = (i, s)) := by
  cases held : isHeld c with
  | false => exact .inr ⟨nofun, by simp [fire, held]⟩
  | true =>
    cases armed : (i.connection c).armed with
    | none => exact .inr ⟨nofun, by simp [fire, held, armed]⟩
    | some poll =>
      by_cases own : poll.key = key
      · exact .inl ⟨poll, rfl, rfl, own, by simp [fire, held, armed, own]⟩
      · refine .inr ⟨fun _ other same => Option.some.inj same ▸ own, ?_⟩
        simp [fire, held, armed, own]

theorem fire_cases (i : Interface) (s : Signals) (isHeld : Nat → Bool) (key : Nat) (w : Wakeup) :
    (i.fire s isHeld key w).2.1 = i ∨ ∃ c poll, w = .poll c ∧
      (i.connection c).armed = some poll ∧ poll.key = key ∧
      (i.fire s isHeld key w).2.1 = i.update c fun k => { k with armed := none } := by
  cases w with
  | reader semaphore => exact .inl rfl
  | poll c =>
    rcases fire_poll (i := i) (s := s) (c := c) isHeld key with
      ⟨poll, -, armed, own, fired⟩ | ⟨-, fired⟩
    · exact .inr ⟨c, poll, rfl, armed, own, by rw [fired]⟩
    · exact .inl (by rw [fired])

theorem notifier_fire (i : Interface) (s : Signals) (isHeld : Nat → Bool) (key : Nat)
    (w : Wakeup) : (i.fire s isHeld key w).2.1.notifier = i.notifier := by
  rcases fire_cases i s isHeld key w with same | ⟨c, poll, -, -, -, told⟩
  · rw [same]
  · rw [told, notifier_update]

theorem handlers_fire (i : Interface) (s : Signals) (isHeld : Nat → Bool) (key : Nat)
    (w : Wakeup) : (i.fire s isHeld key w).2.1.handlers = i.handlers := by
  rcases fire_cases i s isHeld key w with same | ⟨c, poll, -, -, -, told⟩
  · rw [same]
  · rw [told, handlers_update]

theorem armed_fire (i : Interface) (s : Signals) (isHeld : Nat → Bool) (key : Nat) (w : Wakeup)
    {d : Nat} {poll : ArmedPoll}
    (armed : ((i.fire s isHeld key w).2.1.connection d).armed = some poll) :
    (i.connection d).armed = some poll := by
  rcases fire_cases i s isHeld key w with same | ⟨c, own, -, fires, -, told⟩
  · rwa [same] at armed
  · rw [told, connection_update _ (lt_of_armed fires)] at armed
    split at armed
    · cases armed
    · exact armed

theorem queue_arm (h : i.arm s c fd = (.ok (), later, signals)) : later.queue = i.queue := by
  rcases arm_cases h with ⟨-, rfl, -⟩ | ⟨-, -, rfl, -⟩ | ⟨-, -, -, -, notifier, -, rfl⟩ <;> rfl

theorem handlers_arm (h : i.arm s c fd = (.ok (), later, signals)) : later.handlers = i.handlers := by
  rcases arm_cases h with ⟨-, rfl, -⟩ | ⟨-, -, rfl, -⟩ | ⟨-, -, -, -, notifier, -, rfl⟩ <;> rfl

theorem permits_le_fire (i : Interface) (s : Signals) (isHeld : Nat → Bool) (key : Nat)
    (w : Wakeup) (n : Nat) : s.permits n ≤ (i.fire s isHeld key w).2.2.permits n := by
  cases w with
  | reader semaphore => exact Signals.permits_le_post s semaphore n
  | poll c =>
    rcases fire_poll (i := i) (s := s) (c := c) isHeld key with
      ⟨poll, -, -, -, fired⟩ | ⟨-, fired⟩
    · rw [fired]
      exact Signals.permits_le_post (s.addToSlot _ _) _ n
    · exact Nat.le_of_eq (by rw [fired])

end Interface

end NetlinkSocket
