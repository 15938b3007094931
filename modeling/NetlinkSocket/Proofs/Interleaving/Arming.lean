import NetlinkSocket.Proofs.Interleaving.Wakeups

/-!
What one action can make of an armed poll. It stays armed until the poll is torn down, the last
reference goes, or its own wakeup is called.
-/

namespace NetlinkSocket

open Concurrent (Action)

namespace View

variable {v later : View} {a : Action}

theorem onward_move (w : v.Watched) (m : Move v a later) (other : String) :
    (v.net other).Onward (v.takenOf other) (later.net other) (later.takenOf other) := by
  have at_net {name : String} {i : Interface} {taken : List (Nat × Wakeup)}
      (here : other = name → (v.net other).Onward (v.takenOf other) i taken)
      (away : other ≠ name → (v.net other).Onward (v.takenOf other) (v.net other) taken) :
      (v.net other).Onward (v.takenOf other) ((v.setNet name i).net other) taken :=
    of_setNet (motive := ((v.net other).Onward (v.takenOf other) · taken)) here away
  have unchanged : (v.net other).Onward (v.takenOf other) (v.net other) (v.takenOf other) :=
    .refl _ _
  cases waiting_of_move w.placed m with
  | none calm same =>
    rw [calm.takenOf]
    exact .of_same (same other)
  | disarmed calm _ net same =>
    rw [calm.takenOf, net]
    refine at_net ?_ fun _ => unchanged
    rintro rfl
    exact (Interface.Onward.disarm _ _ _).trans (.of_same same)
  | pushed calm held net =>
    rw [calm.takenOf, net]
    refine at_net ?_ fun _ => unchanged
    rintro rfl
    exact .push _ (w.placed.of_isHeld held)
  | described | describedAnew | tried | woke | polled => exact unchanged
  | armed attached _ made | beganPoll attached _ made =>
    refine at_net ?_ fun _ => unchanged
    rintro rfl
    exact .arm _ made (w.placed.of_attached attached).1
  | registered _ _ _ made =>
    refine at_net ?_ fun _ => unchanged
    rintro rfl
    exact .of_register made rfl rfl fun _ _ h => .inl h
  | withdrew =>
    refine at_net ?_ fun _ => unchanged
    rintro rfl
    exact .withdraw _ _ _
  | @itemTaken name item queue next =>
    obtain ⟨last, same⟩ := takenOf_append (v := v) name item
    refine at_net ?_ fun ne => ?_
    · rintro rfl
      exact last ▸ .next? next
    · exact same other ne ▸ unchanged
  | @itemFired n name key wakeup found =>
    obtain ⟨perm, same⟩ := takenOf_eraseIdx found
    refine at_net ?_ fun ne => ?_
    · rintro rfl
      exact .fire perm _ _
    · exact same other ne ▸ unchanged

theorem armed_of_move (w : v.Watched) (m : Move v a later) {name : String} {c : Nat}
    {poll : ArmedPoll} (armed : ((v.net name).connection c).armed = some poll) :
    ((later.net name).connection c).armed = some poll ∨ v.TearsDown name c a ∨
      v.EndsLast name c a ∨ ∃ n, a = .fire n ∧ v.taken[n]? = some (name, poll.key, .poll c) ∧
        v.isHeld name c = true := by
  have at_net {other : String} {i : Interface}
      (here : name = other → (i.connection c).armed = some poll) :
      (((v.setNet other i).net name).connection c).armed = some poll :=
    of_setNet (motive := fun i => (i.connection c).armed = some poll) here fun _ => armed
  cases waiting_of_move w.placed m with
  | none calm same => exact .inl (((same name).armed c).trans armed)
  | @disarmed _ _ other d i calm cut net same =>
    by_cases target : name = other ∧ c = d
    · obtain ⟨rfl, rfl⟩ := target
      exact .inr (cut.imp_right .inl)
    · refine .inl ?_
      rw [net]
      refine at_net fun here => ?_
      subst here
      have ne : c ≠ d := fun equal => target ⟨rfl, equal⟩
      rw [same.armed, Interface.connection_disarm, if_neg ne]
      exact armed
  | @pushed _ _ other d message calm held net =>
    refine .inl ?_
    rw [net]
    refine at_net fun here => ?_
    subst here
    rw [Interface.armed_push _ (w.placed.of_isHeld held)]
    exact armed
  | described | describedAnew | tried | woke | polled => exact .inl armed
  | armed _ _ made | beganPoll _ _ made =>
    refine .inl (at_net fun here => ?_)
    subst here
    exact Interface.armed_stays made armed
  | registered | withdrew | itemTaken =>
    refine .inl (at_net fun here => ?_)
    subst here
    exact armed
  | @itemFired n other key wakeup found =>
    cases wakeup with
    | reader semaphore =>
      refine .inl (at_net fun here => ?_)
      subst here
      exact armed
    | poll d =>
      -- a wakeup takes a poll off only if the poll bears its key
      rcases Interface.fire_poll (i := v.net other) (s := v.signals) (c := d) (v.isHeld other) key
        with ⟨mine, held, fires, own, fired⟩ | ⟨-, fired⟩
      · by_cases target : name = other ∧ c = d
        · obtain ⟨rfl, rfl⟩ := target
          cases armed.symm.trans fires
          exact .inr (.inr (.inr ⟨n, rfl, own ▸ found, held⟩))
        · refine .inl (at_net fun here => ?_)
          subst here
          have ne : c ≠ d := fun equal => target ⟨rfl, equal⟩
          rw [fired, Interface.connection_update _ (Interface.lt_of_armed fires), if_neg ne]
          exact armed
      · refine .inl (at_net fun here => ?_)
        subst here
        rw [fired]
        exact armed

/-- A setup arms a connection through a handle attached to it, for its descriptor or for that of
a poll call that begins. -/
inductive Arms (v later : View) (name : String) (c : Nat) (poll : ArmedPoll) : Action → Prop
  | step {key fdKey : Int} {h : Handle Attachment} {fd : PollDescriptor} :
      v.Attached key h c → h.family = name → v.descriptors.get? fdKey = some fd →
      poll.slot = fd.slot → poll.semaphore = fd.semaphore → later.sockets = v.sockets →
      Arms v later name c poll (.step (.arm key fdKey))
  | call {key : Int} {events : Events} {h : Handle Attachment} {fd : PollDescriptor} :
      v.Attached key h c → h.family = name →
      fd = ⟨events, v.signals.newSlot.1, v.signals.newSemaphore.1⟩ →
      later.calls = v.calls ++ [⟨key, name, c, .polling fd⟩] →
      poll.slot = fd.slot → poll.semaphore = fd.semaphore → later.sockets = v.sockets →
      Arms v later name c poll (.poll key events)

theorem armed_new (w : v.Watched) (m : Move v a later) {name : String} {c : Nat} {poll : ArmedPoll}
    (armed : ((later.net name).connection c).armed = some poll) :
    ((v.net name).connection c).armed = some poll ∨ v.Arms later name c poll a := by
  have kept {other : String} {i : Interface} (net : later.net = (v.setNet other i).net)
      (fewer : ∀ d poll, (i.connection d).armed = some poll →
        ((v.net other).connection d).armed = some poll) :
      ((v.net name).connection c).armed = some poll :=
    Assigned.armed_setNet net fewer name c poll armed
  cases waiting_of_move w.placed m with
  | none calm same => exact .inl (((same name).armed c).symm.trans armed)
  | disarmed calm _ net same =>
    refine .inl (kept net fun d poll armed => ?_)
    exact (Interface.Keyed.armed_disarm ((same.armed d).symm.trans armed)).2
  | pushed calm held net =>
    refine .inl (kept net fun d poll armed => ?_)
    rwa [Interface.armed_push _ (w.placed.of_isHeld held)] at armed
  | described | describedAnew | tried | woke | polled => exact .inl armed
  | armed attached found made =>
    rcases Assigned.armed_setNet_arm (v := v) rfl made armed with
      old | ⟨rfl, rfl, slot, semaphore, -⟩
    · exact .inl old
    · exact .inr (.step attached rfl found slot semaphore rfl)
  | beganPoll attached own made =>
    rcases Assigned.armed_setNet_arm (v := v) rfl made armed with
      old | ⟨rfl, rfl, slot, semaphore, -⟩
    · exact .inl old
    · exact .inr (.call attached rfl own rfl slot semaphore rfl)
  | registered | withdrew | itemTaken => exact .inl (kept rfl fun _ _ h => h)
  | @itemFired n other key wakeup =>
    refine .inl (kept rfl fun d poll armed => ?_)
    cases wakeup with
    | reader => exact armed
    | poll e =>
      rcases Interface.fire_poll (i := v.net other) (s := v.signals) (c := e) (v.isHeld other) key
        with ⟨mine, -, fires, -, fired⟩ | ⟨-, fired⟩
      · rw [fired, Interface.connection_update _ (Interface.lt_of_armed fires)] at armed
        split at armed
        · cases armed
        · exact armed
      · rw [fired] at armed
        exact armed

theorem armed_private (w : v.Watched) (m : Move v a later) {name other : String}
    {c d slot s : Nat} (polls : v.Polls name c slot s) {poll : ArmedPoll}
    (armed : ((later.net other).connection d).armed = some poll) (own : poll.semaphore = s) :
    ((v.net other).connection d).armed = some poll := by
  obtain ⟨n, owned⟩ := polls.owns
  rcases armed_new w m armed with old | arms
  · exact old
  · cases arms with
    | step _ _ found _ same =>
      obtain ⟨-, number, shared⟩ := w.assigned.described _ (Table.mem_of_get? found)
      refine absurd ⟨number, ?_⟩ (w.assigned.hidden n s owned)
      rwa [← own, same]
    | call _ _ new _ _ same =>
      have before := w.assigned.owned_lt n s owned
      rw [← own, same, new] at before
      exact absurd before (Nat.lt_irrefl _)

/-- Why a semaphore is posted: a setup finds something to report at once, or the wakeup of a reader
is called, or that of a poll which is still armed by it. -/
inductive Posts (v : View) (s : Nat) : Action → Prop
  | ready {key fdKey : Int} {name : String} {c : Nat} {fd : PollDescriptor} :
      v.descriptors.get? fdKey = some fd → ((v.net name).readyEvents c fd).isEmpty = false →
      fd.semaphore = s → Posts v s (.step (.arm key fdKey))
  | readyCall {key : Int} {events : Events} : v.signals.newSemaphore.1 = s →
      Posts v s (.poll key events)
  | reader {n : Nat} {name : String} {key : Nat} : v.taken[n]? = some (name, key, .reader s) →
      Posts v s (.fire n)
  | poll {n : Nat} {name : String} {c : Nat} {poll : ArmedPoll} :
      v.taken[n]? = some (name, poll.key, .poll c) → v.isHeld name c = true →
      ((v.net name).connection c).armed = some poll → poll.semaphore = s → Posts v s (.fire n)

theorem posts_of_move (w : v.Watched) (m : Move v a later) {s : Nat}
    (more : v.signals.permits s < later.signals.permits s) : v.Posts s a := by
  have unposted (same : later.signals.permits s = v.signals.permits s) : False := by omega
  cases waiting_of_move w.placed m with
  | none calm | disarmed calm | pushed calm => exact (unposted (by rw [calm.signals])).elim
  | described => exact (unposted rfl).elim
  | describedAnew => exact (unposted (Signals.permits_newSemaphore _ s)).elim
  | registered => exact (unposted (Signals.permits_newSemaphore _ s)).elim
  | tried _ taken | woke _ _ taken | polled _ _ taken =>
    exact absurd more (Nat.not_lt.2 (Signals.permits_take?_le taken s))
  | @armed _ _ h c fd i signals _ found made =>
    rcases Interface.arm_cases made with ⟨ready, -, rfl⟩ | ⟨-, -, -, rfl⟩ | ⟨-, -, -, rfl, -⟩
    · by_cases same : s = fd.semaphore
      · exact .ready found ready same.symm
      · exact (unposted (Signals.permits_post_of_ne _ same)).elim
    · exact (unposted rfl).elim
    · exact (unposted rfl).elim
  | @beganPoll _ _ _ _ fd i signals _ own made =>
    obtain ⟨-, -, others⟩ := Interface.signals_arm made
    by_cases same : s = fd.semaphore
    · exact .readyCall (by rw [same, own])
    · refine (unposted ?_).elim
      exact (others s same).trans (Signals.permits_newSemaphore _ s)
  | withdrew | itemTaken => exact (unposted rfl).elim
  | @itemFired n name key wakeup found =>
    cases wakeup with
    | reader semaphore =>
      by_cases same : s = semaphore
      · exact .reader (same ▸ found)
      · exact (unposted (Signals.permits_post_of_ne _ same)).elim
    | poll c =>
      rcases Interface.fire_poll (i := v.net name) (s := v.signals) (c := c) (v.isHeld name) key
        with ⟨poll, held, armed, own, fired⟩ | ⟨-, fired⟩
      · by_cases same : s = poll.semaphore
        · exact .poll (own ▸ found) held armed same.symm
        · refine (unposted ?_).elim
          rw [fired]
          exact Signals.permits_post_of_ne _ same
      · refine (unposted ?_).elim
        rw [fired]

end View

end NetlinkSocket
