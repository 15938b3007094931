import NetlinkSocket.Signals

/-!
Permits and slots through the operations on signals.
-/

namespace NetlinkSocket.Signals

variable {s later : Signals} {n m : Nat}

@[simp] theorem permits_newSlot (s : Signals) (n : Nat) : s.newSlot.2.permits n = s.permits n := rfl

@[simp] theorem permits_newSemaphore (s : Signals) (n : Nat) :
    s.newSemaphore.2.permits n = s.permits n := by
  simp only [permits, newSemaphore, List.getElem?_append]
  split
  · rfl
  · rename_i beyond
    rw [List.getElem?_eq_none (l := s.semaphores) (Nat.le_of_not_lt beyond)]
    by_cases first : n - s.semaphores.length = 0
    · simp [first]
    · rw [List.getElem?_eq_none (l := [_]) (Nat.pos_of_ne_zero first)]

theorem permits_of_le (h : s.semaphores.length ≤ n) : s.permits n = 0 := by
  simp [permits, h]

@[simp] theorem permits_setSlot (s : Signals) (n m : Nat) (events : Events) :
    (s.setSlot n events).permits m = s.permits m := rfl

@[simp] theorem permits_addToSlot (s : Signals) (n m : Nat) (events : Events) :
    (s.addToSlot n events).permits m = s.permits m := rfl

@[simp] theorem length_post (s : Signals) (n : Nat) :
    (s.post n).semaphores.length = s.semaphores.length := by
  simp [post]

theorem permits_le_post (s : Signals) (n m : Nat) : s.permits m ≤ (s.post n).permits m := by
  by_cases same : m = n
  · subst same
    by_cases within : m < s.semaphores.length
    · rw [permits_post_self within]
      exact Nat.le_succ _
    · rw [permits_of_le (Nat.le_of_not_lt within)]
      exact Nat.zero_le _
  · exact Nat.le_of_eq (permits_post_of_ne s same).symm

@[simp] theorem length_addToSlot (s : Signals) (n : Nat) (events : Events) :
    (s.addToSlot n events).slots.length = s.slots.length := by
  simp [addToSlot]

theorem take?_eq_some (h : s.take? n = some later) :
    s.permits n = later.permits n + 1 ∧ (∀ m, m ≠ n → later.permits m = s.permits m) ∧
      later.semaphores.length = s.semaphores.length ∧ later.slots = s.slots := by
  unfold take? at h
  split at h
  · cases h
  · rename_i semaphore found
    obtain ⟨left, taken, rfl⟩ := Option.map_eq_some_iff.1 h
    have within : n < s.semaphores.length := (List.getElem?_eq_some_iff.1 found).1
    have permits : semaphore.permits = left.permits + 1 := by
      unfold Semaphore.take? at taken
      split at taken
      · cases taken
      · cases taken
        assumption
    refine ⟨?_, fun m other => ?_, by simp, rfl⟩
    · simp only [Signals.permits, found, Option.map_some, Option.getD_some, permits]
      simp [within]
    · simp [Signals.permits, Ne.symm other]

theorem permits_of_take?_eq_none (h : s.take? n = none) : s.permits n = 0 := by
  unfold take? at h
  split at h
  · rename_i absent
    simp [permits, absent]
  · rename_i semaphore found
    unfold Semaphore.take? at h
    split at h
    · rename_i empty
      simp [permits, found, empty]
    · cases h

theorem permits_take?_le (h : s.take? n = some later) (m : Nat) :
    later.permits m ≤ s.permits m := by
  obtain ⟨fewer, others, -⟩ := take?_eq_some h
  by_cases same : m = n
  · subst same
    omega
  · exact Nat.le_of_eq (others m same)

theorem events_setSlot (h : n < s.slots.length) (events : Events) :
    (s.setSlot n events).events n = events := by
  simp [Signals.events, setSlot, h]

theorem events_setSlot_of_ne (other : m ≠ n) (events : Events) :
    (s.setSlot n events).events m = s.events m := by
  simp [Signals.events, setSlot, Ne.symm other]

@[simp] theorem events_newSlot (s : Signals) (n : Nat) : s.newSlot.2.events n = s.events n := by
  by_cases within : n < s.slots.length
  · simp [Signals.events, newSlot, List.getElem?_append_left within]
  · have beyond := Nat.le_of_not_lt within
    by_cases last : n - s.slots.length = 0
    · simp [Signals.events, newSlot, List.getElem?_append_right beyond, last, beyond]
    · simp [Signals.events, newSlot, List.getElem?_append_right beyond, beyond,
        List.getElem?_eq_none (l := [(Flags.empty : Events)]) (Nat.pos_of_ne_zero last)]

theorem events_take? (h : s.take? n = some later) (m : Nat) : later.events m = s.events m := by
  obtain ⟨-, -, -, slots⟩ := take?_eq_some h
  rw [Signals.events, slots]
  rfl

theorem events_addToSlot (h : n < s.slots.length) (events : Events) :
    (s.addToSlot n events).events n = s.events n ∪ events := by
  simp [Signals.events, addToSlot, h]

theorem events_addToSlot_of_ne (other : m ≠ n) (events : Events) :
    (s.addToSlot n events).events m = s.events m := by
  simp [Signals.events, addToSlot, Ne.symm other]

@[simp] theorem events_post (s : Signals) (n m : Nat) : (s.post n).events m = s.events m := rfl

end NetlinkSocket.Signals
