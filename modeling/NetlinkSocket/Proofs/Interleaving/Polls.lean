import Mathlib.Data.List.Induction
import NetlinkSocket.Proofs.Interleaving.Firings

/-!
Poll calls that wait for a response. Such a call is told of the next one as long as no poll is torn
down on its connection; a teardown does not look at whose poll it takes away.
-/

namespace NetlinkSocket

open Concurrent (Action)

namespace View

variable {v later : View} {a : Action} {n : Nat} {call : Call} {fd : PollDescriptor}

theorem polling_before (w : v.Watched) (m : Move v a later) (there : n < v.calls.length)
    (found : later.calls[n]? = some call) (here : call.stage = .polling fd) :
    v.calls[n]? = some call := by
  cases waiting_of_move w.placed m with
  | none calm | disarmed calm | pushed calm =>
    exact (calm.calls n call (by rw [here]; rfl)).1 found
  | described | describedAnew | tried | armed | itemTaken | itemFired => exact found
  | beganPoll =>
    rcases getElem?_append_eq_some.1 found with old | ⟨last, -⟩
    · exact old
    · exact absurd there (Nat.not_lt.2 (Nat.le_of_eq last.symm))
  | registered at_m | woke at_m | withdrew at_m | polled at_m =>
    refine Advanced.polling ⟨at_m, rfl⟩ ?_ found here
    nofun

theorem permits_le (w : v.Watched) (m : Move v a later) (found : v.calls[n]? = some call)
    (still : later.calls[n]? = some call) (here : call.stage = .polling fd) :
    v.signals.permits fd.semaphore ≤ later.signals.permits fd.semaphore := by
  have g := w.assigned
  have owned : v.Owns n fd.semaphore := ⟨call, found, by rw [here]; rfl⟩
  have unchanged (same : later.signals.permits fd.semaphore = v.signals.permits fd.semaphore) :
      v.signals.permits fd.semaphore ≤ later.signals.permits fd.semaphore := Nat.le_of_eq same.symm
  cases waiting_of_move w.placed m with
  | none calm | disarmed calm | pushed calm => exact unchanged (by rw [calm.signals])
  | described | withdrew | itemTaken => exact Nat.le_refl _
  | describedAnew | registered => exact unchanged (Signals.permits_newSemaphore _ _)
  | tried known taken =>
    obtain ⟨-, others, -⟩ := Signals.take?_eq_some taken
    exact unchanged (others _ (g.described_ne known owned))
  | armed _ _ made =>
    exact Interface.permits_le_arm made _
  | beganPoll _ _ made =>
    refine Nat.le_trans (Nat.le_of_eq ?_) (Interface.permits_le_arm made _)
    exact (Signals.permits_newSemaphore _ _).symm
  | @woke l other sink semaphore key signals at_m asleep taken =>
    obtain ⟨-, others, -⟩ := Signals.take?_eq_some taken
    refine unchanged (others _ fun same => ?_)
    have one := g.distinct n l _ owned ⟨other, at_m, by rw [asleep, same]; rfl⟩
    subst one
    cases found.symm.trans at_m
    rw [here] at asleep
    cases asleep
  | @polled l other mine signals at_m polling taken =>
    obtain ⟨-, others, -⟩ := Signals.take?_eq_some taken
    refine unchanged (others _ fun same => ?_)
    have one := g.distinct n l _ owned ⟨other, at_m, by rw [polling, same]; rfl⟩
    subst one
    simp only [List.getElem?_modify, if_true, found, Option.map_eq_map, Option.map_some,
      Option.some.injEq] at still
    rw [← still] at here
    cases here
  | itemFired => exact Interface.permits_le_fire _ _ _ _ _ _

theorem calls_le (m : Move v a later) : v.calls.length ≤ later.calls.length := by
  cases m <;> simp [setNet]

def ArmedFor (v : View) (call : Call) (fd : PollDescriptor) : Prop :=
  ∃ poll, ((v.net call.interface).connection call.connection).armed = some poll ∧
    poll.slot = fd.slot ∧ poll.semaphore = fd.semaphore

theorem armedFor_before (w : v.Watched) (m : Move v a later) (found : v.calls[n]? = some call)
    (here : call.stage = .polling fd) (armed : later.ArmedFor call fd) : v.ArmedFor call fd := by
  obtain ⟨poll, armed, slot, own⟩ := armed
  have polls : v.Polls call.interface call.connection fd.slot fd.semaphore :=
    ⟨n, call, fd, found, rfl, rfl, here, rfl, rfl⟩
  exact ⟨poll, armed_private w m polls armed own, slot, own⟩

theorem permits_eq (w : v.Watched) (m : Move v a later) (found : v.calls[n]? = some call)
    (still : later.calls[n]? = some call) (here : call.stage = .polling fd)
    (unarmed : ¬v.ArmedFor call fd) :
    later.signals.permits fd.semaphore = v.signals.permits fd.semaphore := by
  have g := w.assigned
  have owned : v.Owns n fd.semaphore := ⟨call, found, by rw [here]; rfl⟩
  have polls : v.Polls call.interface call.connection fd.slot fd.semaphore :=
    ⟨n, call, fd, found, rfl, rfl, here, rfl, rfl⟩
  refine Nat.le_antisymm (Nat.le_of_not_lt fun more => ?_) (permits_le w m found still here)
  cases posts_of_move w m more with
  | ready known _ same => exact g.described_ne known owned same.symm
  | readyCall same =>
    have below := g.owned_lt n _ owned
    rw [← same] at below
    exact Nat.lt_irrefl _ below
  | @reader l name key taken =>
    obtain ⟨c, asleep⟩ := (w.readers name).reader key _ (wakeups_of_taken taken)
    exact g.not_polls_of_sleeps asleep polls
  | @poll l name c poll taken held armed same =>
    rcases (g.armed name c poll armed).2 with shared | ⟨-, mine⟩
    · exact g.hidden n _ owned (same ▸ shared)
    · obtain ⟨rfl, rfl, slot⟩ := g.polls_unique (same ▸ mine) polls
      exact unarmed ⟨poll, armed, slot, same⟩

theorem polling_new (w : v.Watched) (m : Move v a later) (new : v.calls.length ≤ n)
    (found : later.calls[n]? = some call) (here : call.stage = .polling fd)
    (reads : fd.events.has .readable = true) : (∃ key, call.socket = some key) ∧
      (later.signals.permits fd.semaphore ≠ 0 ∨ later.ArmedFor call fd) := by
  have absent (old : v.calls[n]? = some call) : False := by
    rw [List.getElem?_eq_none new] at old
    cases old
  cases waiting_of_move w.placed m with
  | none calm | disarmed calm | pushed calm =>
    exact (absent ((calm.calls n call (by rw [here]; rfl)).1 found)).elim
  | described | describedAnew | tried | armed | itemTaken | itemFired => exact (absent found).elim
  | registered at_m | woke at_m | withdrew at_m | polled at_m =>
    refine (absent (Advanced.polling ⟨at_m, rfl⟩ ?_ found here)).elim
    nofun
  | @beganPoll key events h c mine i signals attached own made =>
    rcases getElem?_append_eq_some.1 found with old | ⟨-, rfl⟩
    · exact (absent old).elim
    cases here
    refine ⟨⟨key, rfl⟩, ?_⟩
    rcases Interface.arm_cases made with
      ⟨-, rfl, rfl⟩ | ⟨-, unread, -, -⟩ | ⟨-, -, -, rfl, notifier, -, made⟩
    · refine .inl ?_
      have within : fd.semaphore < (v.signals.newSlot.2.newSemaphore.2.setSlot fd.slot
          ((v.net h.family).readyEvents c fd)).semaphores.length := by
        rw [own]
        simp [Signals.setSlot, Signals.newSemaphore, Signals.newSlot]
      change Signals.permits (Signals.post _ fd.semaphore) fd.semaphore ≠ 0
      rw [Signals.permits_post_self within]
      exact Nat.succ_ne_zero _
    · rw [reads] at unread
      cases unread
    · refine .inr ⟨⟨fd.slot, fd.semaphore, (v.net h.family).notifier.nextKey⟩, ?_, rfl, rfl⟩
      have connection := Interface.connection_update_self (v.net h.family) c (fun k => { k with
        armed := some ⟨fd.slot, fd.semaphore, (v.net h.family).notifier.nextKey⟩ })
        (w.placed.of_attached attached).1
      change (((v.setNet h.family i).net h.family).connection c).armed = _
      rw [made]
      simp only [setNet, Function.update_self]
      exact congrArg Connection.armed connection

end View

namespace Concurrent

variable {t : Concurrent} {a : Action} {n : Nat} {call : Call} {fd : PollDescriptor}

theorem isHeld_of_running (found : t.calls[n]? = some call)
    (running : call.stage.isEnded = false) : t.isHeld call.interface call.connection = true :=
  (View.isHeld_iff (v := t.view)).2
    (.inr (.inr ⟨call, List.mem_of_getElem? found, running, rfl, rfl⟩))

theorem not_endsLast (owned : t.view.Owned) (found : t.calls[n]? = some call)
    (running : call.stage.isEnded = false) {key : Int} (socket : call.socket = some key) :
    ¬t.view.EndsLast call.interface call.connection a := by
  rintro ⟨s, other, g, -, -, free, gone, family, last⟩
  have mem := List.mem_of_getElem? found
  obtain ⟨h, attached, same⟩ := owned.placed.borrowed call mem running key socket
  have ne : key ≠ other := by
    rintro rfl
    have borrowed : t.view.isBorrowed key = true :=
      List.any_eq_true.2 ⟨call, mem, by simp [Call.borrows, socket, running]⟩
    rw [borrowed] at free
    cases free
  have split := View.handles_erase owned.placed.distinct gone.1 call.interface call.connection
  have mine : View.isHandleOf call.interface call.connection (other, g) = true :=
    View.isHandleOf_eq_true.2 ⟨family, gone.2⟩
  have left : 0 < (t.view.sockets.erase other).entries.countP
      (View.isHandleOf call.interface call.connection) := by
    refine List.countP_pos_iff.2 ⟨(key, h), ?_, View.isHandleOf_eq_true.2 ⟨same, attached.2⟩⟩
    exact Table.mem_erase.2 ⟨Table.mem_of_get? attached.1, ne⟩
  have counted := owned.handles_le call.interface call.connection
  rw [split, mine] at counted
  simp only [if_true, View.references, last] at counted
  omega

theorem Sound.calls_le (s : t.Sound) (actions : List Action) :
    t.calls.length ≤ (t.run actions).calls.length := by
  induction actions generalizing t with
  | nil => exact Nat.le_refl _
  | cons a actions ih => exact Nat.le_trans (View.calls_le (act_move s.netlink a)) (ih (s.act a))

section

variable (s : t.Sound) (found : t.calls[n]? = some call)
  (still : (t.act a).calls[n]? = some call) (here : call.stage = .polling fd)
include s found still here

theorem Sound.armedFor_act {key : Int} (socket : call.socket = some key)
    (unposted : (t.act a).signals.permits fd.semaphore = 0) :
    (t.act a).view.ArmedFor call fd ↔
      t.view.ArmedFor call fd ∧ ¬t.view.TearsDown call.interface call.connection a := by
  have m := act_move s.netlink a
  constructor
  · intro armed
    refine ⟨View.armedFor_before s.watched m found here armed, fun torn => ?_⟩
    obtain ⟨poll, armed, -⟩ := armed
    exact absurd ((unarmed_of_cut s.netlink (.inl torn)).symm.trans armed) nofun
  · rintro ⟨⟨poll, armed, slot, own⟩, kept⟩
    rcases View.armed_of_move s.watched m armed with
      stays | torn | ended | ⟨l, rfl, taken, held⟩
    · exact ⟨poll, stays, slot, own⟩
    · exact absurd torn kept
    · exact absurd ended (not_endsLast s.owned found (by rw [here]; rfl) socket)
    · have posted := (s.rings armed held taken).permits fd.semaphore
      rw [if_pos own.symm, unposted] at posted
      exact absurd posted.symm (Nat.succ_ne_zero _)

end

/-- In any state of any run, a poll call that waits for a response and was not told of one is armed
just as long as no poll was torn down on its connection. -/
theorem armedFor_run (fresh : t.IsFresh) (actions : List Action)
    (found : (t.run actions).calls[n]? = some call) (here : call.stage = .polling fd)
    (reads : fd.events.has .readable = true) : (∃ key, call.socket = some key) ∧
      ((t.run actions).signals.permits fd.semaphore = 0 →
        ((t.run actions).view.ArmedFor call fd ↔ ∀ step ∈ t.trace actions,
          n < step.1.calls.length →
            ¬step.1.view.TearsDown call.interface call.connection step.2)) := by
  induction actions using List.reverseRecOn with
  | nil =>
    rw [run_nil, fresh.calls] at found
    cases found
  | append_singleton actions a ih =>
    have s := fresh.sound.run actions
    have last := run_append_singleton t actions a
    rw [last] at found ⊢
    have m := act_move s.netlink a
    have steps (p : Concurrent × Action → Prop) : (∀ step ∈ t.trace (actions ++ [a]), p step) ↔
        (∀ step ∈ t.trace actions, p step) ∧ p (t.run actions, a) := by
      simp [trace_append, or_imp, forall_and]
    rw [steps]
    -- either the call waited before this action, or the action has just set it up
    by_cases there : n < (t.run actions).calls.length
    · have before := View.polling_before s.watched m there found here
      obtain ⟨⟨key, socket⟩, armed_iff⟩ := ih before
      refine ⟨⟨key, socket⟩, fun unposted => ?_⟩
      have grown := View.permits_le s.watched m before found here
      have unposted_before : (t.run actions).signals.permits fd.semaphore = 0 :=
        Nat.le_zero.1 (Nat.le_trans grown (Nat.le_of_eq unposted))
      rw [s.armedFor_act before found here socket unposted, armed_iff unposted_before]
      simp [there]
    · have new := Nat.le_of_not_lt there
      obtain ⟨socket, posted | armed⟩ := View.polling_new s.watched m new found here reads
      · exact ⟨socket, fun unposted => absurd unposted posted⟩
      · refine ⟨socket, fun _ => iff_of_true armed ⟨fun step mem known => ?_, fun known => ?_⟩⟩
        · obtain ⟨xs, ys, split, at_xs⟩ := mem_trace.1 mem
          have grown := (fresh.sound.run xs).calls_le (step.2 :: ys)
          rw [← run_append, ← split, ← at_xs] at grown
          exact absurd (Nat.lt_of_lt_of_le known grown) there
        · exact absurd known there

section

variable (s : t.Sound) (here : call.stage = .polling fd)
include s here

theorem Sound.polling_of_run (there : n < t.calls.length) {actions : List Action}
    (still : (t.run actions).calls[n]? = some call) : t.calls[n]? = some call := by
  induction actions generalizing t with
  | nil => exact still
  | cons a actions ih =>
    have m := act_move s.netlink a
    have later := ih (s.act a) (Nat.lt_of_lt_of_le there (View.calls_le m)) still
    exact View.polling_before s.watched m there later here

theorem Sound.polling_at (there : n < t.calls.length) (xs : List Action) {ys : List Action}
    (still : (t.run (xs ++ ys)).calls[n]? = some call) : (t.run xs).calls[n]? = some call := by
  rw [run_append] at still
  exact (s.run xs).polling_of_run here (Nat.lt_of_lt_of_le there (s.calls_le xs)) still

variable (found : t.calls[n]? = some call)
include found

theorem Sound.permits_le {actions : List Action}
    (still : (t.run actions).calls[n]? = some call) :
    t.signals.permits fd.semaphore ≤ (t.run actions).signals.permits fd.semaphore := by
  induction actions generalizing t with
  | nil => exact Nat.le_refl _
  | cons a actions ih =>
    have there := (List.getElem?_eq_some_iff.1 found).1
    have next : (t.act a).calls[n]? = some call := s.polling_at here there [a] still
    exact Nat.le_trans (View.permits_le s.watched (act_move s.netlink a) found next here)
      (ih (s.act a) next still)

theorem Sound.permits_eq (unarmed : ¬t.view.ArmedFor call fd) {actions : List Action}
    (still : (t.run actions).calls[n]? = some call) :
    (t.run actions).signals.permits fd.semaphore = t.signals.permits fd.semaphore := by
  induction actions generalizing t with
  | nil => rfl
  | cons a actions ih =>
    have m := act_move s.netlink a
    have there := (List.getElem?_eq_some_iff.1 found).1
    have next : (t.act a).calls[n]? = some call := s.polling_at here there [a] still
    have unarmed_next : ¬(t.act a).view.ArmedFor call fd := fun armed =>
      unarmed (View.armedFor_before s.watched m found here armed)
    exact (ih (s.act a) next unarmed_next still).trans
      (View.permits_eq s.watched m found next here unarmed)

theorem Sound.permits_of_told {key : Int} (socket : call.socket = some key)
    (armed : t.view.ArmedFor call fd) {actions : List Action}
    (still : (t.run actions).calls[n]? = some call)
    (kept : ∀ step ∈ t.trace actions,
      ¬step.1.view.TearsDown call.interface call.connection step.2)
    (told : ∃ step ∈ t.trace actions, addsResponse call.interface call.connection step = true)
    (quiet : ((t.run actions).net call.interface).queue.items = [])
    (idle : (t.run actions).view.takenOf call.interface = []) :
    (t.run actions).signals.permits fd.semaphore ≠ 0 := by
  obtain ⟨poll, armed, slot, own⟩ := armed
  have there := (List.getElem?_eq_some_iff.1 found).1
  have running : call.stage.isEnded = false := by rw [here]; rfl
  have polling (xs ys : List Action) (split : actions = xs ++ ys) :
      (t.run xs).calls[n]? = some call := s.polling_at here there xs (split ▸ still)
  have held (xs ys : List Action) (split : actions = xs ++ ys) :
      (t.run xs).isHeld call.interface call.connection = true :=
    isHeld_of_running (polling xs ys split) running
  have uncut : Uncut t call.interface call.connection poll.key actions := by
    intro xs a ys split _
    refine ⟨kept (t.run xs, a) (mem_trace.2 ⟨xs, ys, split, rfl⟩), ?_⟩
    exact not_endsLast (s.run xs).owned (polling xs _ split) running socket
  have once := s.fires_once armed (held [] actions rfl) uncut
    (fun xs ys split _ => held xs ys split) told quiet idle
  obtain ⟨xs, a, ys, rest, rung⟩ := s.exists_rings armed (held [] actions rfl) once
  have posted := rung.permits fd.semaphore
  rw [if_pos own.symm] at posted
  have last : t.run actions = (t.run (xs ++ [a])).run ys := by rw [← run_append, ← rest]
  have grown := (s.run (xs ++ [a])).permits_le here (polling _ ys rest) (last ▸ still)
  rw [← last] at grown
  omega

end

structure Polled (t : Concurrent) (actions : List Action) (n : Nat) (call : Call)
    (fd : PollDescriptor) : Prop where
  armed_iff : (t.run actions).view.ArmedFor call fd ↔ ∀ step ∈ t.trace actions,
    n < step.1.calls.length → ¬step.1.view.TearsDown call.interface call.connection step.2
  told : ∀ more, ((t.run actions).run more).calls[n]? = some call →
    (∀ step ∈ t.trace (actions ++ more), n < step.1.calls.length →
      ¬step.1.view.TearsDown call.interface call.connection step.2) →
    (∃ step ∈ (t.run actions).trace more,
      addsResponse call.interface call.connection step = true) →
    (((t.run actions).run more).net call.interface).queue.items = [] →
    ((t.run actions).run more).view.takenOf call.interface = [] →
    ((t.run actions).run more).signals.permits fd.semaphore ≠ 0
  abandoned : ¬(t.run actions).view.ArmedFor call fd → ∀ more,
    ((t.run actions).run more).calls[n]? = some call →
      ((t.run actions).run more).signals.permits fd.semaphore = 0

theorem polled_run (fresh : t.IsFresh) (actions : List Action)
    (found : (t.run actions).calls[n]? = some call) (here : call.stage = .polling fd)
    (reads : fd.events.has .readable = true)
    (unposted : (t.run actions).signals.permits fd.semaphore = 0) :
    Polled t actions n call fd := by
  have s := fresh.sound.run actions
  obtain ⟨⟨key, socket⟩, armed_iff⟩ := armedFor_run fresh actions found here reads
  replace armed_iff := armed_iff unposted
  refine ⟨armed_iff, fun more still kept told quiet idle => ?_, fun unarmed more still => ?_⟩
  · rw [trace_append] at kept
    have armed := armed_iff.2 fun step mem => kept step (List.mem_append_left _ mem)
    refine s.permits_of_told here found socket armed still (fun step mem => ?_) told quiet idle
    obtain ⟨xs, ys, -, at_xs⟩ := mem_trace.1 mem
    have there := (List.getElem?_eq_some_iff.1 found).1
    refine kept step (List.mem_append_right _ mem) (Nat.lt_of_lt_of_le there ?_)
    rw [at_xs]
    exact s.calls_le xs
  · rw [s.permits_eq here found unarmed still, unposted]

/-- One handle waits for a response, and the other one polls for what is ready at once. -/
def pollBeside : List Action :=
  [.step (.register 16 "nl"), .step (.socket 0 16 3 0), .step (.duplicate 0 1),
    .poll 0 (Flags.single .readable), .poll 1 (Flags.single .writable), .goOn 1]

def waitingPoll : PollDescriptor := ⟨Flags.single .readable, 0, 0⟩

theorem polled_pollBeside :
    (((start .withRoute [("nl", Interface.defaultLimits, [])]).run pollBeside).view.ArmedFor
        ⟨some 0, "nl", 0, .polling waitingPoll⟩ waitingPoll) ∧
      Polled (start .withRoute [("nl", Interface.defaultLimits, [])]) pollBeside 0
        ⟨some 0, "nl", 0, .polling waitingPoll⟩ waitingPoll :=
  ⟨⟨⟨0, 0, 1⟩, by decide +kernel, rfl, rfl⟩,
    polled_run (isFresh_start _ _) _ (by rfl) rfl (by decide) (by decide +kernel)⟩

theorem not_always_armedFor : ¬∀ (t : Concurrent), t.IsFresh → ∀ (actions : List Action) (n : Nat)
    (call : Call) (fd : PollDescriptor), (t.run actions).calls[n]? = some call →
    call.stage = .polling fd → fd.events.has .readable = true → fd.events.has .writable = false →
    (t.run actions).signals.permits fd.semaphore = 0 →
      (t.run actions).view.ArmedFor call fd := by
  intro claimed
  obtain ⟨poll, armed, -⟩ := claimed (start .withRoute [("nl", Interface.defaultLimits, [])])
    (isFresh_start _ _) (pollBeside ++ [.goOn 1]) 0 ⟨some 0, "nl", 0, .polling waitingPoll⟩
    waitingPoll (by rfl) rfl (by decide) (by decide) (by decide +kernel)
  have idle : (((start .withRoute [("nl", Interface.defaultLimits, [])]).run
      (pollBeside ++ [.goOn 1])).net "nl" |>.connection 0).armed = none := by decide +kernel
  exact absurd (idle.symm.trans armed) nofun

end Concurrent

end NetlinkSocket
