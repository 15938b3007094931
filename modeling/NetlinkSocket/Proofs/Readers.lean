import NetlinkSocket.Proofs.Keys

/-!
Readers that wait. A sleeping reader has a semaphore and a key of its own; either its wakeup is
still to be called, or it was called and the semaphore holds one permit.
-/

namespace NetlinkSocket.Interface

variable {i later : Interface} {taken others : List (Nat × Wakeup)} {c : Nat}

/-- The readers of an interface: `sleeps` relates the semaphore, the key and the connection of
each one that sleeps, `woken` holds of the key of each one that has its permit and is about to
withdraw. -/
structure Readers (i : Interface) (taken : List (Nat × Wakeup)) (permits : Nat → Nat)
    (sleeps : Nat → Nat → Nat → Prop) (woken : Nat → Prop) : Prop where
  reserved : ∀ key, (woken key ∨ ∃ s c, sleeps s key c) → key < i.notifier.nextKey ∧
    ∀ d poll, (i.connection d).armed = some poll → poll.key ≠ key
  within : ∀ s key c, sleeps s key c → c < i.connections.length
  single : ∀ s key c other d, sleeps s key c → sleeps s other d → key = other ∧ c = d
  sleeping : ∀ s key c, sleeps s key c →
    (key, .reader s) ∈ i.wakeups taken ∧ permits s = 0 ∨
      (∀ e ∈ i.wakeups taken, e.1 ≠ key) ∧ permits s = 1
  woken : ∀ key, woken key → ∀ e ∈ i.wakeups taken, e.1 ≠ key
  reader : ∀ key s, (key, .reader s) ∈ i.wakeups taken → ∃ c, sleeps s key c
  pending_reader : ∀ r ∈ i.notifier.pending, ∀ s, r.worker = .reader s →
    ∀ c, sleeps s r.key c → r.subject = (i.connection c).id ∧ (i.connection c).responses = []

namespace Readers

variable {permits permits' : Nat → Nat} {sleeps sleeps' : Nat → Nat → Nat → Prop}
  {woken woken' : Nat → Prop}

theorem of_change (r : i.Readers taken permits sleeps woken) (o : i.Onward taken later others)
    (length : i.connections.length ≤ later.connections.length)
    (id : ∀ d, d < i.connections.length → (later.connection d).id = (i.connection d).id)
    (readers : ∀ key s, (key, Wakeup.reader s) ∈ later.wakeups others ↔
      (key, Wakeup.reader s) ∈ i.wakeups taken)
    (pending : ∀ p ∈ later.notifier.pending, ∀ s, p.worker = .reader s →
      p ∈ i.notifier.pending ∧ ∀ d, p.subject = (i.connection d).id →
        (i.connection d).responses = [] → (later.connection d).responses = []) :
    later.Readers others permits sleeps woken := by
  have absent (key : Nat) (known : woken key ∨ ∃ s c, sleeps s key c)
      (none : ∀ e ∈ i.wakeups taken, e.1 ≠ key) : ∀ e ∈ later.wakeups others, e.1 ≠ key := by
    intro e he
    rcases o.wakeups e he with old | fresh
    · exact none e old
    · exact Nat.ne_of_gt (Nat.lt_of_lt_of_le (r.reserved key known).1 fresh)
  constructor
  · intro key known
    obtain ⟨below, unarmed⟩ := r.reserved key known
    refine ⟨Nat.lt_of_lt_of_le below o.nextKey, fun d poll h => ?_⟩
    rcases o.armed d poll h with old | fresh
    · exact unarmed d poll old
    · exact Nat.ne_of_gt (Nat.lt_of_lt_of_le below fresh)
  · exact fun s key c asleep => Nat.lt_of_lt_of_le (r.within s key c asleep) length
  · exact r.single
  · intro s key c asleep
    rcases r.sleeping s key c asleep with ⟨waits, empty⟩ | ⟨called, posted⟩
    · exact .inl ⟨(readers key s).2 waits, empty⟩
    · exact .inr ⟨absent key (.inr ⟨s, c, asleep⟩) called, posted⟩
  · exact fun key awake => absent key (.inl awake) (r.woken key awake)
  · exact fun key s waits => r.reader key s ((readers key s).1 waits)
  · intro p hp s worker c asleep
    obtain ⟨before, still⟩ := pending p hp s worker
    obtain ⟨subject, empty⟩ := r.pending_reader p before s worker c asleep
    exact ⟨subject.trans (id c (r.within s _ c asleep)).symm, still c subject empty⟩

theorem of_readers (r : i.Readers taken permits sleeps woken)
    (sleepers : ∀ s key c, sleeps' s key c ↔ sleeps s key c) (fewer : ∀ key, woken' key → woken key)
    (posted : ∀ s key c, sleeps s key c → permits' s = permits s) :
    i.Readers taken permits' sleeps' woken' where
  reserved key known := by
    refine r.reserved key ?_
    rcases known with awake | ⟨s, c, asleep⟩
    · exact .inl (fewer key awake)
    · exact .inr ⟨s, c, (sleepers s key c).1 asleep⟩
  within s key c asleep := r.within s key c ((sleepers s key c).1 asleep)
  single s key c other d one two :=
    r.single s key c other d ((sleepers _ _ _).1 one) ((sleepers _ _ _).1 two)
  sleeping s key c asleep := by
    have before := (sleepers s key c).1 asleep
    rw [posted s key c before]
    exact r.sleeping s key c before
  woken key awake := r.woken key (fewer key awake)
  reader key s waits := by
    obtain ⟨c, asleep⟩ := r.reader key s waits
    exact ⟨c, (sleepers s key c).2 asleep⟩
  pending_reader p hp s worker c asleep :=
    r.pending_reader p hp s worker c ((sleepers _ _ _).1 asleep)

theorem same (r : i.Readers taken permits sleeps woken) (same : SameWaits i later) :
    later.Readers taken permits sleeps woken := by
  refine r.of_change (.of_same same) same.length same.id (fun key s => by rw [same.wakeups])
    fun p hp s _ => ⟨?_, fun d _ => same.responses d⟩
  rwa [same.pending] at hp

theorem ne_armed (r : i.Readers taken permits sleeps woken) {key s : Nat}
    (waits : (key, .reader s) ∈ i.wakeups taken) {d : Nat} {poll : ArmedPoll}
    (armed : (i.connection d).armed = some poll) : key ≠ poll.key := by
  obtain ⟨c, asleep⟩ := r.reader key s waits
  exact ((r.reserved key (.inr ⟨s, c, asleep⟩)).2 d poll armed).symm

theorem disarm (r : i.Readers taken permits sleeps woken) (c : Nat) :
    (i.disarm c).Readers taken permits sleeps woken := by
  refine r.of_change (.disarm i taken c) (Nat.le_of_eq length_disarm.symm) (fun d _ => ?_)
    (fun key s => ⟨?_, ?_⟩) fun p hp s _ => ⟨?_, fun d _ => ?_⟩
  · rw [connection_disarm]
    split <;> simp [*]
  · exact fun waits => Keyed.wakeups_disarm_sublist.subset waits
  · exact fun waits => Keyed.mem_wakeups_disarm waits fun poll armed => r.ne_armed waits armed
  · exact (mem_disarm.1 hp).1
  · rw [connection_disarm]
    split <;> simp [*]

theorem push (r : i.Readers taken permits sleeps woken) (message : Bytes)
    (within : c < i.connections.length) :
    (i.push c message).Readers taken permits sleeps woken := by
  refine r.of_change (.push message within) (Nat.le_of_eq (length_push message).symm)
    (fun d _ => ?_) (fun key s => (Keyed.wakeups_push message).mem_iff) fun p hp s _ => ?_
  · rw [connection_push message within]
    split <;> simp [*]
  · obtain ⟨before, other⟩ := Notifier.mem_signal.1 hp
    refine ⟨before, fun d subject empty => ?_⟩
    have ne : d ≠ c := by
      rintro rfl
      exact other subject
    rwa [connection_push message within, if_neg ne]

theorem next? (r : i.Readers taken permits sleeps woken) {item : Nat × Wakeup}
    {queue : WorkQueue (Nat × Wakeup)} (next : i.queue.next? = some (item, queue)) :
    Readers { i with queue } (taken ++ [item]) permits sleeps woken :=
  r.of_change (.next? next) (Nat.le_refl _) (fun _ _ => rfl)
    (fun _ _ => (Keyed.wakeups_next? next).mem_iff) fun _ hp _ _ => ⟨hp, fun _ _ empty => empty⟩

variable {s signals : Signals} {fd : PollDescriptor}

theorem arm (r : i.Readers taken permits sleeps woken) (armed : i.arm s c fd = (.ok (), later, signals))
    (within : c < i.connections.length) : later.Readers taken permits sleeps woken := by
  have onward := Onward.arm taken armed within
  rcases arm_cases armed with
    ⟨-, rfl, -⟩ | ⟨-, -, rfl, -⟩ | ⟨-, -, -, -, notifier, registered, made⟩
  · exact r
  · exact r
  have perm := Keyed.wakeups_register taken later registered (by rw [made])
    (by rw [made]; rfl)
  have connection (d : Nat) : later.connection d = if d = c then
      { i.connection c with armed := some ⟨fd.slot, fd.semaphore, i.notifier.nextKey⟩ }
      else i.connection d := by
    rw [made]
    exact connection_update (i := i) _ within d
  obtain ⟨-, -, -, pending⟩ := Notifier.register_eq_ok registered
  have length : later.connections.length = i.connections.length := by
    rw [made]
    exact length_update (i := i) _
  refine r.of_change onward (Nat.le_of_eq length.symm) (fun d _ => ?_) (fun key s => ?_)
    fun p hp s worker => ?_
  · rw [connection]
    split <;> simp [*]
  · rw [perm.mem_iff, List.mem_cons]
    simp
  · have later_pending : later.notifier.pending = i.notifier.pending ++
        [⟨i.notifier.nextKey, (i.connection c).id, .poll c⟩] := by rw [made, ← pending]
    rw [later_pending] at hp
    rcases List.mem_append.1 hp with old | new
    · refine ⟨old, fun d _ empty => ?_⟩
      rw [connection]
      split
      · simpa [*] using empty
      · exact empty
    · cases List.mem_singleton.1 new
      cases worker

theorem withdraw (r : i.Readers taken permits sleeps woken) {key : Nat} (awake : woken key) :
    (i.withdraw key).Readers taken permits sleeps woken := by
  have unchanged : (i.withdraw key).notifier.pending = i.notifier.pending := by
    refine List.filter_eq_self.2 fun p hp => ?_
    simpa using r.woken key awake _ (wakeups_of_pending hp)
  exact r.same ⟨unchanged, rfl, rfl, Nat.le_refl _, fun _ => rfl, fun _ _ => rfl, fun _ h => h⟩

theorem register (r : i.Readers taken permits sleeps woken) {semaphore key : Nat}
    {notifier : Notifier Wakeup}
    (registered : i.notifier.register (i.connection c).id (.reader semaphore) = (.ok key, notifier))
    (armed_below : ∀ d poll, (i.connection d).armed = some poll → poll.key < i.notifier.nextKey)
    (below : ∀ e ∈ i.wakeups taken, e.1 < i.notifier.nextKey)
    (within : c < i.connections.length) (empty : (i.connection c).responses = [])
    (unposted : permits semaphore = 0) (own : ∀ key c, ¬sleeps semaphore key c) :
    Readers { i with notifier } taken permits
      (fun s k d => sleeps s k d ∨ s = semaphore ∧ k = key ∧ d = c) woken := by
  have perm := Keyed.wakeups_register taken { i with notifier } registered
    rfl rfl
  obtain ⟨rfl, nextKey, -, pending⟩ := Notifier.register_eq_ok registered
  have absent (k : Nat) (known : woken k ∨ ∃ s c, sleeps s k c)
      (none : ∀ e ∈ i.wakeups taken, e.1 ≠ k) :
      ∀ e ∈ wakeups { i with notifier } taken, e.1 ≠ k := by
    intro e he
    rcases List.mem_cons.1 (perm.mem_iff.1 he) with rfl | old
    · exact Nat.ne_of_gt (r.reserved k known).1
    · exact none e old
  constructor
  · intro k known
    have before : k = i.notifier.nextKey ∨ woken k ∨ ∃ s c, sleeps s k c := by
      rcases known with awake | ⟨s, d, asleep | ⟨-, new, -⟩⟩
      · exact .inr (.inl awake)
      · exact .inr (.inr ⟨s, d, asleep⟩)
      · exact .inl new
    simp only [nextKey]
    rcases before with rfl | old
    · exact ⟨Nat.lt_succ_self _, fun d poll armed => Nat.ne_of_lt (armed_below d poll armed)⟩
    · exact ⟨Nat.lt_succ_of_lt (r.reserved k old).1, (r.reserved k old).2⟩
  · rintro s k d (asleep | ⟨-, -, rfl⟩)
    · exact r.within s k d asleep
    · exact within
  · rintro s k d l e (one | ⟨rfl, rfl, rfl⟩) (two | ⟨same, rfl, rfl⟩)
    · exact r.single s k d l e one two
    · exact absurd (same ▸ one) (own k d)
    · exact absurd two (own l e)
    · exact ⟨rfl, rfl⟩
  · rintro s k d (asleep | ⟨rfl, rfl, rfl⟩)
    · rcases r.sleeping s k d asleep with ⟨waits, none⟩ | ⟨called, posted⟩
      · exact .inl ⟨perm.mem_iff.2 (List.mem_cons_of_mem _ waits), none⟩
      · exact .inr ⟨absent k (.inr ⟨s, d, asleep⟩) called, posted⟩
    · exact .inl ⟨perm.mem_iff.2 (List.mem_cons_self ..), unposted⟩
  · exact fun k awake => absent k (.inl awake) (r.woken k awake)
  · intro k s waits
    rcases List.mem_cons.1 (perm.mem_iff.1 waits) with new | old
    · cases new
      exact ⟨c, .inr ⟨rfl, rfl, rfl⟩⟩
    · obtain ⟨d, asleep⟩ := r.reader k s old
      exact ⟨d, .inl asleep⟩
  · intro p hp s worker d asleep
    simp only [pending, List.mem_append, List.mem_singleton] at hp
    rcases hp with old | rfl
    · rcases asleep with asleep | ⟨rfl, fresh, -⟩
      · exact r.pending_reader p old s worker d asleep
      · exact absurd (below _ (wakeups_of_pending old)) (Nat.not_lt.2 (Nat.le_of_eq fresh.symm))
    · rcases asleep with asleep | ⟨-, -, rfl⟩
      · cases worker
        exact absurd asleep (own _ d)
      · exact ⟨rfl, empty⟩

section

variable {key : Nat} {w : Wakeup} {rest : List (Nat × Wakeup)}

theorem fire_poll (r : i.Readers taken permits sleeps woken)
    (perm : taken.Perm ((key, .poll c) :: rest)) (s : Signals) (held : Nat → Bool) :
    (i.fire s held key (.poll c)).2.1.Readers rest permits sleeps woken := by
  have onward := Onward.fire (i := i) perm s held
  have readers (k t : Nat) :
      (k, .reader t) ∈ i.wakeups rest ↔ (k, .reader t) ∈ i.wakeups taken := by
    rw [(Keyed.wakeups_called perm).mem_iff, List.mem_cons]
    simp
  rcases Interface.fire_poll (i := i) (s := s) (c := c) held key with
    ⟨poll, -, armed, -, fired⟩ | ⟨-, fired⟩
  · rw [fired] at onward ⊢
    have connection := connection_update (i := i) (fun k => { k with armed := none })
      (lt_of_armed armed)
    refine r.of_change onward (Nat.le_of_eq (length_update _).symm) (fun d _ => ?_) readers
      fun p hp s _ => ⟨hp, fun d _ empty => ?_⟩
    · rw [connection]
      split <;> simp [*]
    · rw [connection]
      split
      · simpa [*] using empty
      · exact empty
  · rw [fired] at onward ⊢
    exact r.of_change onward (Nat.le_refl _) (fun _ _ => rfl) readers
      fun p hp s _ => ⟨hp, fun d _ empty => empty⟩

/-- The wakeup of a reader posts its semaphore, which had no permit. -/
theorem fire_reader (k : i.Keyed taken isHeld) (r : i.Readers taken permits sleeps woken)
    {semaphore : Nat} (perm : taken.Perm ((key, .reader semaphore) :: rest))
    (posted : permits' semaphore = permits semaphore + 1)
    (others : ∀ s, s ≠ semaphore → permits' s = permits s) :
    i.Readers rest permits' sleeps woken := by
  have whole := Keyed.wakeups_called (i := i) perm
  have called : (key, Wakeup.reader semaphore) ∈ i.wakeups taken :=
    whole.mem_iff.2 (List.mem_cons_self ..)
  have fewer {e : Nat × Wakeup} (he : e ∈ i.wakeups rest) : e ∈ i.wakeups taken :=
    whole.mem_iff.2 (List.mem_cons_of_mem _ he)
  obtain ⟨c, asleep⟩ := r.reader key semaphore called
  have unposted : permits semaphore = 0 := by
    rcases r.sleeping semaphore key c asleep with ⟨-, none⟩ | ⟨gone, -⟩
    · exact none
    · exact absurd rfl (gone _ called)
  constructor
  · exact r.reserved
  · exact r.within
  · exact r.single
  · intro s l d other
    by_cases same : s = semaphore
    · subst same
      obtain ⟨rfl, -⟩ := r.single s key c l d asleep other
      exact .inr ⟨fun e he => k.absent_of_called perm he, by rw [posted, unposted]⟩
    · rw [others s same]
      rcases r.sleeping s l d other with ⟨waits, none⟩ | ⟨gone, one⟩
      · rcases List.mem_cons.1 (whole.mem_iff.1 waits) with now | later
        · cases now
          exact absurd rfl same
        · exact .inl ⟨later, none⟩
      · exact .inr ⟨fun e he => gone e (fewer he), one⟩
  · exact fun l awake e he => r.woken l awake e (fewer he)
  · exact fun l s waits => r.reader l s (fewer waits)
  · exact r.pending_reader

end

theorem wake (r : i.Readers taken permits sleeps woken) {semaphore key : Nat}
    (asleep : sleeps semaphore key c) (posted : permits semaphore ≠ 0)
    (others : ∀ s, s ≠ semaphore → permits' s = permits s) :
    i.Readers taken permits' (fun s k d => sleeps s k d ∧ s ≠ semaphore)
      (fun k => woken k ∨ k = key) := by
  have gone : ∀ e ∈ i.wakeups taken, e.1 ≠ key := by
    rcases r.sleeping semaphore key c asleep with ⟨-, none⟩ | ⟨gone, -⟩
    · exact absurd none posted
    · exact gone
  constructor
  · rintro k ((awake | rfl) | ⟨s, d, other, -⟩)
    · exact r.reserved k (.inl awake)
    · exact r.reserved k (.inr ⟨_, _, asleep⟩)
    · exact r.reserved k (.inr ⟨s, d, other⟩)
  · exact fun s k d other => r.within s k d other.1
  · exact fun s k d l e one two => r.single s k d l e one.1 two.1
  · intro s k d other
    rw [others s other.2]
    exact r.sleeping s k d other.1
  · rintro k (awake | rfl)
    · exact r.woken k awake
    · exact gone
  · intro k s waits
    obtain ⟨d, other⟩ := r.reader k s waits
    refine ⟨d, other, ?_⟩
    rintro rfl
    obtain ⟨rfl, -⟩ := r.single _ _ _ _ _ asleep other
    exact gone _ waits rfl
  · exact fun p hp s worker d other => r.pending_reader p hp s worker d other.1

end Readers

end NetlinkSocket.Interface
