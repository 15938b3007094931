import NetlinkSocket.Proofs.Interleaving.Failures
import NetlinkSocket.Proofs.Interleaving.Polls
import NetlinkSocket.Proofs.Interleaving.Privacy
import NetlinkSocket.Proofs.Interleaving.Receptions

/-!
What a poll call returns. It is told once, by its setup or else by the wakeup of the poll it armed,
and it leaves nothing armed or registered behind.
-/

namespace NetlinkSocket

open Concurrent (Action)

namespace Concurrent

variable {t : Concurrent} {a : Action} {n told : Nat} {key : Int} {name : String} {c : Nat}
  {fd : PollDescriptor}

def postedIn (s : Nat) (step : Concurrent × Action) : Nat :=
  (step.1.act step.2).signals.permits s - step.1.signals.permits s

/-- At which stage a poll call is that was told so often, with so many permits left and so much
reported in its slot. -/
inductive Stands (fd : PollDescriptor) (slot : Events) (told permits : Nat) : Stage → Prop
  | waiting : told = 0 → permits = 0 → Stands fd slot told permits (.polling fd)
  | ready : told = 1 → permits = 1 → Stands fd slot told permits (.polling fd)
  | posted : told = 1 → permits = 0 → Stands fd slot told permits (.posted fd)
  | disarmed : told = 1 → permits = 0 → Stands fd slot told permits (.disarmed fd)
  | returned : told = 1 → permits = 0 → Stands fd slot told permits (.ended (.reported (.ok slot)))

structure Underway (t : Concurrent) (n : Nat) (key : Int) (name : String) (c : Nat)
    (fd : PollDescriptor) (told : Nat) : Prop where
  own : t.view.Private n fd
  stands : ∃ stage, t.calls[n]? = some ⟨key, name, c, stage⟩ ∧
    Stands fd (t.signals.events fd.slot) told (t.signals.permits fd.semaphore) stage
  silent : told = 0 → t.signals.events fd.slot = Flags.empty

structure Rung (t : Concurrent) (a : Action) (name : String) (c : Nat) (fd : PollDescriptor) :
    Prop where
  asks : fd.events.has .readable = true ∧ fd.events.has .writable = false
  once : postedIn fd.semaphore (t, a) = 1
  events : (t.act a).signals.events fd.slot = Flags.single .readable
  worker : ∃ l poll, a = .fire l ∧ t.taken[l]? = some (name, poll.key, .poll c) ∧
    ((t.net name).connection c).armed = some poll ∧ poll.semaphore = fd.semaphore

theorem polling_goOn {socket : Option Int}
    (at_n : t.calls[n]? = some ⟨socket, name, c, .polling fd⟩) :
    t.signals.permits fd.semaphore = 0 ∧ t.act (.goOn n) = t ∨
      t.signals.permits fd.semaphore = (t.act (.goOn n)).signals.permits fd.semaphore + 1 ∧
        (t.act (.goOn n)).calls[n]? = some ⟨socket, name, c, .posted fd⟩ := by
  have goes : t.act (.goOn n) = t.proceed n ⟨socket, name, c, .polling fd⟩ (.polling fd) := by
    simp only [act, goOn, at_n]
  cases taken : t.signals.take? fd.semaphore with
  | none =>
    refine .inl ⟨Signals.permits_of_take?_eq_none taken, ?_⟩
    simp only [goes, proceed, taken]
  | some signals =>
    have next : t.act (.goOn n) = t.advance n (.posted fd) { t.world with signals } := by
      simp only [goes, proceed, taken]
    rw [next]
    exact .inr ⟨(Signals.take?_eq_some taken).1, calls_advance at_n _ _⟩

theorem Sound.posted_goOn (s : t.Sound) {socket : Option Int}
    (at_n : t.calls[n]? = some ⟨socket, name, c, .posted fd⟩) :
    (t.act (.goOn n)).calls[n]? = some ⟨socket, name, c, .posted fd⟩ ∨
      (t.act (.goOn n)).calls[n]? = some ⟨socket, name, c, .disarmed fd⟩ := by
  have there := (List.getElem?_eq_some_iff.1 at_n).1
  obtain ⟨⟨_, _, _, stage⟩, after⟩ : ∃ call, (t.act (.goOn n)).calls[n]? = some call :=
    ⟨_, List.getElem?_eq_getElem (by rwa [length_goOn])⟩
  obtain ⟨rfl, rfl, rfl⟩ := place_goOn at_n after
  rcases precedes_goOn at_n after with same | next
  · exact .inl (same ▸ after)
  · cases next with
    | lowered => exact .inr after
    | unattached _ stop => cases at_n.symm.trans (s.calls_reported after rfl)

namespace Underway

variable (u : Underway t n key name c fd told) (s : t.Sound)
include u

theorem pollsOnly : t.view.PollsOnly n := by
  obtain ⟨stage, at_n, stands⟩ := u.stands
  intro call found sink semaphore key here
  cases at_n.symm.trans found
  dsimp only at here
  subst here
  cases stands

include s

theorem waiting_of_armed {other : String} {d : Nat} {poll : ArmedPoll}
    (armed : ((t.net other).connection d).armed = some poll)
    (mine : poll.semaphore = fd.semaphore) :
    (other = name ∧ d = c) ∧ told = 0 ∧ t.signals.permits fd.semaphore = 0 ∧
      t.calls[n]? = some ⟨key, name, c, .polling fd⟩ := by
  obtain ⟨unposted, call, polling, at_call, rfl, rfl, here⟩ :=
    u.own.polling s.watched armed mine
  have unposted : t.signals.permits fd.semaphore = 0 := unposted
  obtain ⟨stage, at_n, stands⟩ := u.stands
  cases at_n.symm.trans at_call
  dsimp only at here
  subst here
  cases stands with
  | waiting none => exact ⟨⟨rfl, rfl⟩, none, unposted, at_n⟩
  | ready _ posted => exact absurd (unposted.symm.trans posted) Nat.zero_ne_one

theorem stands_goOn
    (kept : (t.act (.goOn n)).signals.events fd.slot = t.signals.events fd.slot)
    (fewer : (t.act (.goOn n)).signals.permits fd.semaphore ≤ t.signals.permits fd.semaphore) :
    ∃ stage, (t.act (.goOn n)).calls[n]? = some ⟨key, name, c, stage⟩ ∧
      Stands fd ((t.act (.goOn n)).signals.events fd.slot) told
        ((t.act (.goOn n)).signals.permits fd.semaphore) stage := by
  obtain ⟨stage, at_n, stands⟩ := u.stands
  have goes : t.act (.goOn n) = t.proceed n ⟨key, name, c, stage⟩ stage := by
    simp only [Concurrent.act, goOn, at_n]
  cases stands with
  | waiting none unposted =>
    rcases polling_goOn at_n with ⟨-, same⟩ | ⟨permits, -⟩
    · rw [same]
      exact ⟨_, at_n, .waiting none unposted⟩
    · omega
  | ready once posted =>
    rcases polling_goOn at_n with ⟨unposted, -⟩ | ⟨permits, next⟩
    · omega
    · exact ⟨_, next, .posted once (by omega)⟩
  | posted once unposted =>
    have none : (t.act (.goOn n)).signals.permits fd.semaphore = 0 := by omega
    rcases s.posted_goOn at_n with still | next
    · exact ⟨_, still, .posted once none⟩
    · exact ⟨_, next, .disarmed once none⟩
  | disarmed once unposted =>
    have next : t.act (.goOn n) =
        t.advance n (.ended (.reported (.ok (t.signals.events fd.slot)))) t.world := by
      simp only [goes, proceed]
    refine ⟨_, next ▸ calls_advance at_n _ _, ?_⟩
    rw [kept]
    exact .returned once (by omega)
  | returned once unposted =>
    have same : t.act (.goOn n) = t := by simp only [goes, proceed]
    rw [same]
    exact ⟨_, at_n, .returned once unposted⟩

theorem stands_act (kept : (t.act a).signals.events fd.slot = t.signals.events fd.slot)
    (fewer : (t.act a).signals.permits fd.semaphore ≤ t.signals.permits fd.semaphore) :
    ∃ stage, (t.act a).calls[n]? = some ⟨key, name, c, stage⟩ ∧
      Stands fd ((t.act a).signals.events fd.slot) told
        ((t.act a).signals.permits fd.semaphore) stage := by
  by_cases own : a = .goOn n
  · subst own
    exact u.stands_goOn s kept fewer
  obtain ⟨stage, at_n, stands⟩ := u.stands
  have m := act_move s.netlink a
  have still := (View.calls_move m (List.getElem?_eq_some_iff.1 at_n).1 own).trans at_n
  have more : t.signals.permits fd.semaphore ≤ (t.act a).signals.permits fd.semaphore := by
    cases stands with
    | waiting | ready => exact View.permits_le s.watched m at_n still rfl
    | posted _ none | disarmed _ none | returned _ none =>
      rw [none]
      exact Nat.zero_le _
  refine ⟨stage, still, ?_⟩
  rw [kept, Nat.le_antisymm fewer more]
  exact stands

theorem act (a : Action) :
    Underway (t.act a) n key name c fd (told + postedIn fd.semaphore (t, a)) ∧
      ((t.act a).signals.events fd.slot = t.signals.events fd.slot ∧
        postedIn fd.semaphore (t, a) = 0 ∨ told = 0 ∧ Rung t a name c fd) := by
  have m := act_move s.netlink a
  have own := u.own.move s.watched m
  rcases u.own.told_or_kept s.watched m u.pollsOnly with
    ⟨l, other, d, poll, rfl, found, held, armed, slot, semaphore⟩ | ⟨kept, fewer⟩
  · obtain ⟨⟨rfl, rfl⟩, none, unposted, at_n⟩ := u.waiting_of_armed s armed semaphore
    have rings := s.rings armed held found
    have permits : (t.act (.fire l)).signals.permits fd.semaphore = 1 := by
      rw [rings.permits, if_pos semaphore.symm, unposted]
    have once : postedIn fd.semaphore (t, .fire l) = 1 := by simp [postedIn, permits, unposted]
    have events : (t.act (.fire l)).signals.events fd.slot = Flags.single .readable := by
      rw [rings.events, if_pos slot.symm, u.silent none]
      rfl
    have still : (t.act (.fire l)).calls[n]? = t.calls[n]? :=
      View.calls_move m (List.getElem?_eq_some_iff.1 at_n).1 nofun
    refine ⟨⟨own, ⟨_, still.trans at_n, .ready (by rw [none, once]) permits⟩, fun never => ?_⟩,
      .inr ⟨none, (u.own.armed _ _ _ armed (.inl slot)).2, once, events,
        l, poll, rfl, found, armed, semaphore⟩⟩
    omega
  · have once : postedIn fd.semaphore (t, a) = 0 := Nat.sub_eq_zero_of_le fewer
    rw [once, Nat.add_zero]
    refine ⟨⟨own, u.stands_act s kept fewer, fun none => ?_⟩, .inl ⟨kept, rfl⟩⟩
    exact kept.trans (u.silent none)

end Underway

theorem Underway.unarmed (u : Underway t n key name c fd 1) (s : t.Sound) {other : String} {d : Nat}
    {poll : ArmedPoll} (armed : ((t.net other).connection d).armed = some poll) :
    poll.slot ≠ fd.slot ∧ poll.semaphore ≠ fd.semaphore := by
  have apart (mine : poll.semaphore = fd.semaphore) : False :=
    Nat.one_ne_zero (u.waiting_of_armed s armed mine).2.1
  exact ⟨fun mine => apart (u.own.armed _ _ _ armed (.inl mine)).1.2, apart⟩

section

variable {events : Events} {h : Handle Attachment} {i : Interface} {signals : Signals}
  (s : t.Sound) (attached : t.view.Attached key h c) (new : fd = t.ownDescriptor events)
  (made : (t.net h.family).arm t.signals.newSlot.2.newSemaphore.2 c fd = (.ok (), i, signals))
include s attached new made

end

/-- A response was queued since a step, under the identity of a connection. It was queued on the
connection itself, unless identities have wrapped around. -/
structure Supplied (t : Concurrent) (past : List Action) (a : Action) (since : List Action)
    (name : String) (c : Nat) : Prop where
  queued : ∃ step ∈ (t.run (past ++ [a])).trace since, ∃ d message,
    queues step = some (name, d, message) ∧
      ((step.1.net name).connection d).id = (((t.run (past ++ [a])).net name).connection c).id
  own : ((t.run (past ++ a :: since)).net name).connections.length < Interface.identities →
    added (t.run (past ++ [a])) since name c ≠ []

structure Answer (t : Concurrent) (past : List Action) (a : Action) (since : List Action)
    (name : String) (c : Nat) (events r : Events) : Prop where
  some : r.isEmpty = false
  within : ∀ e, r.has e = true → events.has e = true ∧ (e = .readable ∨ e = .writable)
  writable_iff : r.has .writable = true ↔ events.has .writable = true
  readable : r.has .readable = true →
    (t.run past).view.responses name c ≠ [] ∨ Supplied t past a since name c

theorem Answer.mono {past since : List Action} {events r : Events} (netlink : t.IsNetlink)
    (answer : Answer t past a since name c events r) (b : Action) :
    Answer t past a (since ++ [b]) name c events r := by
  refine ⟨answer.some, answer.within, answer.writable_iff, fun reads => ?_⟩
  refine (answer.readable reads).imp_right fun supplied => ⟨?_, fun few => ?_⟩
  · obtain ⟨step, mem, rest⟩ := supplied.queued
    rw [trace_append]
    exact ⟨step, List.mem_append_left _ mem, rest⟩
  · have grown := length_run (netlink.run (past ++ a :: since)) [b] name
    rw [← run_append, List.append_assoc, List.cons_append] at grown
    rw [added, trace_append, List.filterMap_append]
    exact List.append_ne_nil_of_left_ne_nil (supplied.own (Nat.lt_of_le_of_lt grown few)) _

section

variable {past : List Action} {events : Events} {h : Handle Attachment} {i : Interface}
  {signals : Signals} (fresh : t.IsFresh) (attached : (t.run past).view.Attached key h c)
  (new : fd = (t.run past).ownDescriptor events)
  (made : ((t.run past).net h.family).arm (t.run past).signals.newSlot.2.newSemaphore.2 c fd =
    (.ok (), i, signals))
include fresh attached new made

end

structure Refused (t : Concurrent) (past : List Action) (key : Int) (events : Events)
    (h : Handle Attachment) (c : Nat) (failure : Failure) : Prop where
  at_once : (t.run (past ++ [.poll key events])).calls[(t.run past).calls.length]? =
    some ⟨key, h.family, c, .ended (.reported (.error (.failed failure)))⟩
  empty : (t.run past).view.responses h.family c = []
  asks : events.has .readable = true ∧ events.has .writable = false
  reason : (((t.run past).net h.family).connection c).armed.isSome = true ∧
      failure = .pollAlreadyArmed ∨
    (((t.run past).net h.family).connection c).armed = none ∧
      ((t.run past).net h.family).notifier.capacity ≤
        ((t.run past).net h.family).notifier.pending.length ∧ failure = .slotsExhausted

section

variable {past : List Action} {events : Events} {h : Handle Attachment} (fresh : t.IsFresh)
  (attached : (t.run past).view.Attached key h c)
include fresh attached

end

end Concurrent

end NetlinkSocket
