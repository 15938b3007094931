import NetlinkSocket.Proofs.Registrations

/-!
Keys are given once. Whatever an interface knows under a key that was given out before, it knew
already.
-/

namespace NetlinkSocket.Interface

/-- Later nothing is known under an old key that was not known under it. -/
structure Onward (i : Interface) (taken : List (Nat × Wakeup)) (later : Interface)
    (others : List (Nat × Wakeup)) : Prop where
  nextKey : i.notifier.nextKey ≤ later.notifier.nextKey
  wakeups : ∀ e ∈ later.wakeups others, e ∈ i.wakeups taken ∨ i.notifier.nextKey ≤ e.1
  pending : ∀ r ∈ later.notifier.pending, r ∈ i.notifier.pending ∨ i.notifier.nextKey ≤ r.key
  armed : ∀ d poll, (later.connection d).armed = some poll →
    (i.connection d).armed = some poll ∨ i.notifier.nextKey ≤ poll.key

variable {i later last : Interface} {taken others rest : List (Nat × Wakeup)} {c : Nat}

namespace Onward

theorem refl (i : Interface) (taken : List (Nat × Wakeup)) : i.Onward taken i taken :=
  ⟨Nat.le_refl _, fun _ he => .inl he, fun _ hr => .inl hr, fun _ _ h => .inl h⟩

theorem trans (o : i.Onward taken later others) (p : later.Onward others last rest) :
    i.Onward taken last rest where
  nextKey := Nat.le_trans o.nextKey p.nextKey
  wakeups e he := by
    rcases p.wakeups e he with old | new
    · exact o.wakeups e old
    · exact .inr (Nat.le_trans o.nextKey new)
  pending r hr := by
    rcases p.pending r hr with old | new
    · exact o.pending r old
    · exact .inr (Nat.le_trans o.nextKey new)
  armed d poll h := by
    rcases p.armed d poll h with old | new
    · exact o.armed d poll old
    · exact .inr (Nat.le_trans o.nextKey new)

theorem of_fewer (nextKey : later.notifier.nextKey = i.notifier.nextKey)
    (wakeups : ∀ e ∈ later.wakeups others, e ∈ i.wakeups taken)
    (pending : ∀ r ∈ later.notifier.pending, r ∈ i.notifier.pending)
    (armed : ∀ d poll, (later.connection d).armed = some poll →
      (i.connection d).armed = some poll) : i.Onward taken later others :=
  ⟨Nat.le_of_eq nextKey.symm, fun e he => .inl (wakeups e he), fun r hr => .inl (pending r hr),
    fun d poll h => .inl (armed d poll h)⟩

theorem of_same (same : SameWaits i later) : i.Onward taken later taken := by
  refine of_fewer same.nextKey (fun e he => ?_) (fun r hr => ?_) fun d poll h => ?_
  · rwa [same.wakeups] at he
  · rwa [same.pending] at hr
  · exact (same.armed d).symm.trans h

theorem disarm (i : Interface) (taken : List (Nat × Wakeup)) (c : Nat) :
    i.Onward taken (i.disarm c) taken :=
  of_fewer nextKey_disarm (fun _ he => Keyed.wakeups_disarm_sublist.subset he)
    (fun _ hr => (mem_disarm.1 hr).1) fun _ _ h => (Keyed.armed_disarm h).2

theorem push (message : Bytes) (within : c < i.connections.length) :
    i.Onward taken (i.push c message) taken := by
  refine of_fewer rfl (fun e he => (Keyed.wakeups_push message).mem_iff.1 he)
    (fun r hr => (Notifier.mem_signal.1 hr).1) fun d poll h => ?_
  rwa [armed_push message within] at h

theorem next? {item : Nat × Wakeup} {queue : WorkQueue (Nat × Wakeup)}
    (next : i.queue.next? = some (item, queue)) :
    i.Onward taken { i with queue } (taken ++ [item]) :=
  of_fewer rfl (fun _ he => (Keyed.wakeups_next? next).mem_iff.1 he) (fun _ hr => hr)
    fun _ _ h => h

theorem of_register {subject : ConnectionId} {worker : Wakeup} {key : Nat}
    {notifier : Notifier Wakeup}
    (registered : i.notifier.register subject worker = (.ok key, notifier))
    (made : later.notifier = notifier) (queue : later.queue = i.queue)
    (armed : ∀ d poll, (later.connection d).armed = some poll →
      (i.connection d).armed = some poll ∨ i.notifier.nextKey ≤ poll.key) :
    i.Onward taken later taken := by
  have perm := Keyed.wakeups_register taken later registered made queue
  obtain ⟨rfl, nextKey, -, pending⟩ := Notifier.register_eq_ok registered
  refine ⟨?_, fun e he => ?_, fun r hr => ?_, armed⟩
  · rw [made, nextKey]
    exact Nat.le_succ _
  · rcases List.mem_cons.1 (perm.mem_iff.1 he) with rfl | old
    · exact .inr (Nat.le_refl _)
    · exact .inl old
  · rw [made, pending] at hr
    rcases List.mem_append.1 hr with old | new
    · exact .inl old
    · cases List.mem_singleton.1 new
      exact .inr (Nat.le_refl _)

theorem arm (taken : List (Nat × Wakeup)) {s signals : Signals} {fd : PollDescriptor}
    (armed : i.arm s c fd = (.ok (), later, signals)) (within : c < i.connections.length) :
    i.Onward taken later taken := by
  rcases arm_cases armed with
    ⟨-, rfl, -⟩ | ⟨-, -, rfl, -⟩ | ⟨-, -, -, -, notifier, registered, rfl⟩
  · exact refl _ _
  · exact refl _ _
  refine of_register registered rfl rfl fun d poll h => ?_
  have connection := connection_update (i := i) (c := c)
    (fun k => { k with armed := some ⟨fd.slot, fd.semaphore, i.notifier.nextKey⟩ }) within d
  replace h := (congrArg Connection.armed connection).symm.trans h
  split at h
  · cases h
    exact .inr (Nat.le_refl _)
  · exact .inl h

theorem withdraw (i : Interface) (taken : List (Nat × Wakeup)) (key : Nat) :
    i.Onward taken (i.withdraw key) taken := by
  refine of_fewer rfl (fun e he => ?_) (fun r hr => (Notifier.mem_withdraw.1 hr).1) fun _ _ h => h
  rcases mem_wakeups.1 he with ⟨r, hr, rfl⟩ | rest
  · exact wakeups_of_pending (Notifier.mem_withdraw.1 hr).1
  · exact mem_wakeups.2 (.inr rest)

theorem fire {key : Nat} {w : Wakeup} (perm : taken.Perm ((key, w) :: rest)) (s : Signals)
    (held : Nat → Bool) : i.Onward taken (i.fire s held key w).2.1 rest := by
  apply of_fewer
  · rw [notifier_fire]
  · intro e he
    rw [Keyed.wakeups_fire] at he
    exact (Keyed.wakeups_called perm).mem_iff.2 (List.mem_cons_of_mem _ he)
  · intro r hr
    rwa [notifier_fire] at hr
  · intro d poll armed
    exact armed_fire i s held key w armed

end Onward

end NetlinkSocket.Interface
