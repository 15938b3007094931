import NetlinkSocket.Proofs.Interleaving.Accuracy

/-!
What a poll call has for itself. Nobody else learns of its slot and its semaphore, so it is told by
its own setup or by the wakeup of the poll that it armed.
-/

namespace NetlinkSocket

open Concurrent (Action)

namespace View

variable {v later : View} {a : Action} {n s : Nat} {fd : PollDescriptor}

theorem public_before (m : Move v a later) (shared : later.Public s) :
    v.Public s ∨ s = v.signals.semaphores.length := by
  cases m with
  | describedAnew =>
    obtain ⟨number, mem⟩ := shared
    rcases Table.mem_insert mem with new | old
    · exact .inr (Prod.mk.inj new).2
    · exact .inl ⟨number, old⟩
  | _ => exact .inl shared

theorem owns_before (w : v.Watched) (m : Move v a later) (owned : later.Owns n s) :
    v.Owns n s ∨ s = v.signals.semaphores.length := by
  cases waiting_of_move w.placed m with
  | none calm | disarmed calm | pushed calm => exact .inl ((calm.owns_iff n s).1 owned)
  | described | describedAnew | tried | armed | itemTaken | itemFired => exact .inl owned
  | beganPoll _ own =>
    obtain ⟨call, found, has⟩ := owned
    rcases getElem?_append_eq_some.1 found with old | ⟨-, rfl⟩
    · exact .inl ⟨call, old, has⟩
    · rw [own] at has
      exact .inr (Option.some.inj has).symm
  | registered found =>
    rcases owns_advanced ⟨found, rfl⟩ owned with ⟨-, old⟩ | ⟨-, has⟩
    · exact .inl old
    · exact .inr (Option.some.inj has).symm
  | woke found | withdrew found | polled found =>
    rcases owns_advanced ⟨found, rfl⟩ owned with ⟨-, old⟩ | ⟨-, has⟩
    · exact .inl old
    · cases has

/-- A slot and a semaphore that nobody knows of but one call, and a poll that it armed. -/
structure Private (v : View) (n : Nat) (fd : PollDescriptor) : Prop where
  semaphore_lt : fd.semaphore < v.signals.semaphores.length
  slot_lt : fd.slot < v.signals.slots.length
  hidden : ¬v.Public fd.semaphore
  undescribed : ∀ e ∈ v.descriptors.entries, e.2.slot ≠ fd.slot
  owner : ∀ m, v.Owns m fd.semaphore → m = n
  armed : ∀ name c poll, ((v.net name).connection c).armed = some poll →
    poll.slot = fd.slot ∨ poll.semaphore = fd.semaphore →
      (poll.slot = fd.slot ∧ poll.semaphore = fd.semaphore) ∧
        fd.events.has .readable = true ∧ fd.events.has .writable = false

theorem Private.move (own : v.Private n fd) (w : v.Watched) (m : Move v a later) :
    later.Private n fd := by
  obtain ⟨semaphores, slots⟩ := signals_le w m
  constructor
  case semaphore_lt => exact Nat.lt_of_lt_of_le own.semaphore_lt semaphores
  case slot_lt => exact Nat.lt_of_lt_of_le own.slot_lt slots
  case hidden =>
    intro shared
    rcases public_before m shared with old | new
    · exact own.hidden old
    · exact Nat.ne_of_lt own.semaphore_lt new
  case undescribed =>
    intro e mem
    rcases described_before m mem with old | ⟨new, -⟩
    · exact own.undescribed e old
    · rw [new]
      exact Nat.ne_of_gt own.slot_lt
  case owner =>
    intro l owned
    rcases owns_before w m owned with old | new
    · exact own.owner l old
    · exact absurd new (Nat.ne_of_lt own.semaphore_lt)
  case armed =>
    intro name c poll armed mine
    rcases armed_new w m armed with old | arms
    · exact own.armed name c poll old mine
    · cases arms with
      | step _ _ found slot semaphore =>
        have mem := Table.mem_of_get? found
        rcases mine with mine | mine
        · exact absurd (slot.symm.trans mine) (own.undescribed _ mem)
        · have shared := (w.assigned.described _ mem).2
          exact absurd (semaphore.symm.trans mine ▸ shared) own.hidden
      | call _ _ new _ slot semaphore =>
        subst new
        rcases mine with mine | mine
        · exact absurd (slot.symm.trans mine) (Nat.ne_of_gt own.slot_lt)
        · exact absurd (semaphore.symm.trans mine) (Nat.ne_of_gt own.semaphore_lt)

theorem Private.polling (own : v.Private n fd) (w : v.Watched) {name : String} {c : Nat}
    {poll : ArmedPoll} (armed : ((v.net name).connection c).armed = some poll)
    (mine : poll.semaphore = fd.semaphore) : v.signals.permits fd.semaphore = 0 ∧
      ∃ (call : Call) (other : PollDescriptor), v.calls[n]? = some call ∧
        call.interface = name ∧ call.connection = c ∧ call.stage = .polling other := by
  rcases (w.assigned.armed name c poll armed).2 with shared | ⟨none, polls⟩
  · exact absurd (mine ▸ shared) own.hidden
  · obtain ⟨m, call, other, found, interface, connection, here, -, same⟩ := polls
    have waits : call.stage.semaphore? = some fd.semaphore := by
      rw [here]
      exact congrArg some (same.trans mine)
    have first : m = n := own.owner m ⟨call, found, waits⟩
    subst first
    exact ⟨mine ▸ none, call, other, found, interface, connection, here⟩

def PollsOnly (v : View) (n : Nat) : Prop :=
  ∀ call, v.calls[n]? = some call → ∀ sink s key, call.stage ≠ .sleeping sink s key

theorem Private.told_or_kept (own : v.Private n fd) (w : v.Watched) (m : Move v a later)
    (awake : v.PollsOnly n) :
    (∃ l name c poll, a = .fire l ∧ v.taken[l]? = some (name, poll.key, .poll c) ∧
      v.isHeld name c = true ∧ ((v.net name).connection c).armed = some poll ∧
        poll.slot = fd.slot ∧ poll.semaphore = fd.semaphore) ∨
      later.signals.events fd.slot = v.signals.events fd.slot ∧
        later.signals.permits fd.semaphore ≤ v.signals.permits fd.semaphore := by
  refine or_iff_not_imp_left.2 fun untold => ⟨?_, Nat.le_of_not_lt fun more => ?_⟩
  · have writes := writes_of_move w m fd.slot
    generalize later.signals.events fd.slot = left at writes ⊢
    cases writes with
    | kept => rfl
    | step _ found mine => exact absurd mine (own.undescribed _ (Table.mem_of_get? found))
    | call _ new mine =>
      subst new
      exact absurd mine (Nat.ne_of_gt own.slot_lt)
    | worker found held armed mine =>
      obtain ⟨⟨slot, semaphore⟩, -⟩ := own.armed _ _ _ armed (.inl mine)
      exact absurd ⟨_, _, _, _, rfl, found, held, armed, slot, semaphore⟩ untold
  · cases posts_of_move w m more with
    | ready found _ mine =>
      exact own.hidden (mine ▸ (w.assigned.described _ (Table.mem_of_get? found)).2)
    | readyCall mine => exact Nat.ne_of_gt own.semaphore_lt mine
    | reader found =>
      obtain ⟨c, l, call, sink, at_l, -, -, asleep⟩ :=
        (w.readers _).reader _ _ (wakeups_of_taken found)
      obtain rfl := own.owner l ⟨call, at_l, by rw [asleep]; rfl⟩
      exact awake call at_l _ _ _ asleep
    | poll found held armed mine =>
      obtain ⟨⟨slot, semaphore⟩, -⟩ := own.armed _ _ _ armed (.inr mine)
      exact untold ⟨_, _, _, _, rfl, found, held, armed, slot, semaphore⟩

end View

end NetlinkSocket
