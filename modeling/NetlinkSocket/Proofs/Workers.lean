import NetlinkSocket.Proofs.Effects

/-!
What workers leave. A worker posts and reports where its registration recorded it, and takes the
armed poll off the connection it tells.
-/

namespace NetlinkSocket.Interface

variable {i j later : Interface} {s signals : Signals} {jobs : List (Nat × Wakeup)}

def recordedSemaphore? (i : Interface) : Nat × Wakeup → Option Nat
  | (key, .poll c) => ((i.connection c).armed.filter (·.key = key)).map ArmedPoll.semaphore
  | (_, .reader s) => some s

def recordedSlot? (i : Interface) : Nat × Wakeup → Option Nat
  | (key, .poll c) => ((i.connection c).armed.filter (·.key = key)).map ArmedPoll.slot
  | (_, .reader _) => none

def Disarmed (i later : Interface) (jobs : List (Nat × Wakeup)) (d : Nat) : Prop :=
  ∃ poll, (i.connection d).armed = some poll ∧ (poll.key, .poll d) ∈ jobs ∧
    later.connection d = { i.connection d with armed := none }

/-- What workers leave: polls that were told are not armed any more, and nothing is posted or
reported but where they recorded it. -/
structure Told (i later : Interface) (s signals : Signals) (jobs : List (Nat × Wakeup)) : Prop where
  connections : ∀ d, later.connection d = i.connection d ∨ Disarmed i later jobs d
  notifier : later.notifier = i.notifier
  semaphores : ∀ n, (∀ job ∈ jobs, i.recordedSemaphore? job ≠ some n) →
    signals.permits n = s.permits n
  slots : ∀ n, (∀ job ∈ jobs, i.recordedSlot? job ≠ some n) → signals.events n = s.events n

theorem told_nil (i : Interface) (s : Signals) : Told i i s s [] where
  connections _ := .inl rfl
  notifier := rfl
  semaphores _ _ := rfl
  slots _ _ := rfl

theorem told_fire (i : Interface) (s : Signals) (isHeld : Nat → Bool) (key : Nat) (w : Wakeup) :
    Told i (i.fire s isHeld key w).2.1 s (i.fire s isHeld key w).2.2 [(key, w)] := by
  cases w with
  | reader semaphore =>
    constructor
    · exact fun d => .inl rfl
    · rfl
    · intro n other
      refine Signals.permits_post_of_ne s ?_
      intro same
      exact other _ List.mem_cons_self (congrArg some same.symm)
    · exact fun n other => rfl
  | poll c =>
    rcases fire_poll (i := i) (s := s) (c := c) isHeld key with
      ⟨poll, -, armed, own, fired⟩ | ⟨-, fired⟩
    · have recorded : (i.connection c).armed.filter (·.key = key) = some poll := by
        rw [armed, Option.filter_some, if_pos (decide_eq_true own)]
      rw [fired]
      constructor
      · intro d
        rw [connection_update _ (lt_of_armed armed)]
        split
        · rename_i here
          subst here
          refine .inr ⟨poll, armed, own ▸ List.mem_cons_self, ?_⟩
          rw [connection_update_self _ _ _ (lt_of_armed armed)]
        · exact .inl rfl
      · rfl
      · intro n other
        change ((s.addToSlot _ _).post _).permits n = _
        rw [Signals.permits_post_of_ne, Signals.permits_addToSlot]
        intro same
        refine other _ List.mem_cons_self ?_
        rw [recordedSemaphore?, recorded, same, Option.map_some]
      · intro n other
        change ((s.addToSlot _ _).post _).events n = _
        rw [Signals.events_post, Signals.events_addToSlot_of_ne]
        intro same
        refine other _ List.mem_cons_self ?_
        rw [recordedSlot?, recorded, same, Option.map_some]
    · rw [fired]
      exact ⟨fun d => .inl rfl, rfl, fun n _ => rfl, fun n _ => rfl⟩

theorem Told.armed_filter (first : Told i j s signals jobs) {c key : Nat} {poll : ArmedPoll}
    (after : (j.connection c).armed.filter (·.key = key) = some poll) :
    (i.connection c).armed.filter (·.key = key) = some poll := by
  rcases first.connections c with same | ⟨-, -, -, disarmed⟩
  · rwa [same] at after
  · rw [disarmed] at after
    cases after

theorem Told.cons {others : List (Nat × Wakeup)} {last : Signals} {job : Nat × Wakeup}
    (first : Told i j s signals [job]) (rest : Told j later signals last others) :
    Told i later s last (job :: others) where
  connections d := by
    rcases first.connections d with same | ⟨poll, armed, mem, disarmed⟩
    · rcases rest.connections d with same' | ⟨poll, armed, mem, disarmed⟩
      · exact .inl (same'.trans same)
      · rw [same] at armed disarmed
        exact .inr ⟨poll, armed, List.mem_cons_of_mem _ mem, disarmed⟩
    · refine .inr ⟨poll, armed, List.mem_cons.2 (.inl (List.mem_singleton.1 mem)), ?_⟩
      rcases rest.connections d with same' | ⟨other, armed', -, -⟩
      · exact same'.trans disarmed
      · rw [disarmed] at armed'
        cases armed'
  notifier := rest.notifier.trans first.notifier
  semaphores n other := by
    have later := rest.semaphores n fun job mem recorded => by
      refine other job (List.mem_cons_of_mem _ mem) ?_
      obtain ⟨key, w⟩ := job
      cases w with
      | reader => exact recorded
      | poll c =>
        obtain ⟨poll, filtered, same⟩ := Option.map_eq_some_iff.1 recorded
        exact Option.map_eq_some_iff.2 ⟨poll, first.armed_filter filtered, same⟩
    rw [later]
    exact first.semaphores n fun job mem =>
      other job (List.mem_cons.2 (.inl (List.mem_singleton.1 mem)))
  slots n other := by
    have later := rest.slots n fun job mem recorded => by
      refine other job (List.mem_cons_of_mem _ mem) ?_
      obtain ⟨key, w⟩ := job
      cases w with
      | reader => cases recorded
      | poll c =>
        obtain ⟨poll, filtered, same⟩ := Option.map_eq_some_iff.1 recorded
        exact Option.map_eq_some_iff.2 ⟨poll, first.armed_filter filtered, same⟩
    rw [later]
    exact first.slots n fun job mem =>
      other job (List.mem_cons.2 (.inl (List.mem_singleton.1 mem)))

theorem Told.of_queue {queue : WorkQueue (Nat × Wakeup)}
    (told : Told { i with queue } later s signals jobs) : Told i later s signals jobs :=
  ⟨told.connections, told.notifier, told.semaphores, told.slots⟩

theorem told_fireAll (i : Interface) (s : Signals) (isHeld : Nat → Bool)
    (jobs : List (Nat × Wakeup)) :
    Told i (i.fireAll s isHeld jobs).2.2.1 s (i.fireAll s isHeld jobs).2.2.2 jobs := by
  induction jobs generalizing i s with
  | nil => exact told_nil i s
  | cons job jobs ih =>
    obtain ⟨key, w⟩ := job
    have first := told_fire { i with queue := ⟨jobs⟩ } s isHeld key w
    have rest := ih ({ i with queue := ⟨jobs⟩ }.fire s isHeld key w).2.1
      ({ i with queue := ⟨jobs⟩ }.fire s isHeld key w).2.2
    exact first.of_queue.cons rest

end NetlinkSocket.Interface
