import NetlinkSocket.Proofs.Interleaving.Arming
import NetlinkSocket.Proofs.Interleaving.Ownership

/-!
What comes of a poll that was armed, over a whole run. Its wakeup is called at most once, and posts
its semaphore if the connection is still armed by it.
-/

namespace NetlinkSocket

namespace View

variable {v later : View} {a : Concurrent.Action} {name : String} {c : Nat} {poll : ArmedPoll}

theorem referenced_move (w : v.Watched) (owned : v.Owned) (m : Move v a later)
    (before : ∀ name c poll, ((v.net name).connection c).armed = some poll →
      0 < v.references name c)
    (armed : ((later.net name).connection c).armed = some poll) : 0 < later.references name c := by
  have counted : 0 < v.references name c := by
    rcases armed_new w m armed with old | arms
    · exact before name c poll old
    · cases arms with
      | step attached family | call attached family => exact family ▸ owned.references_pos attached
  refine Nat.pos_of_ne_zero fun gone => ?_
  rw [(references_gone m counted gone).2] at armed
  cases armed

theorem Arms.isHeld (placed : later.Placed) (arms : v.Arms later name c poll a) :
    later.isHeld name c = true := by
  cases arms with
  | step attached family _ _ _ sockets | call attached family _ _ _ _ sockets =>
    subst family
    have still : later.Attached _ _ c := ⟨sockets ▸ attached.1, attached.2⟩
    exact (placed.of_attached still).2

end View

namespace Concurrent

structure Sound (t : Concurrent) : Prop where
  netlink : t.IsNetlink
  watched : t.view.Watched
  owned : t.view.Owned
  referenced : ∀ name c poll, ((t.net name).connection c).armed = some poll →
    0 < t.view.references name c

def callsWorker (name : String) (key : Nat) : Concurrent × Action → Bool
  | (t, .fire n) => t.taken[n]?.any fun item => item.1 = name && item.2.1 = key
  | _ => false

/-- Whether a step calls a wakeup whose connection is still armed by it. -/
def fires (name : String) (c key : Nat) (step : Concurrent × Action) : Bool :=
  callsWorker name key step && step.1.isHeld name c &&
    ((step.1.net name).connection c).armed.any fun poll => poll.key = key

variable {t : Concurrent} {a : Action} {name : String} {c key : Nat} {poll : ArmedPoll}

theorem Sound.act (s : t.Sound) (a : Action) : (t.act a).Sound where
  netlink := s.netlink.act a
  watched := s.watched.move (act_move s.netlink a)
  owned := s.owned.move (act_move s.netlink a)
  referenced _ _ _ armed :=
    View.referenced_move s.watched s.owned (act_move s.netlink a) s.referenced armed

theorem Sound.run (s : t.Sound) (actions : List Action) : (t.run actions).Sound :=
  run_induction (p := Sound) (fun _ a s => s.act a) s actions

theorem Sound.of_mem_trace (s : t.Sound) {actions : List Action} {step : Concurrent × Action}
    (mem : step ∈ t.trace actions) : step.1.Sound := by
  obtain ⟨xs, ys, -, at_xs⟩ := mem_trace.1 mem
  exact at_xs ▸ s.run xs

theorem IsFresh.sound (fresh : t.IsFresh) : t.Sound := by
  refine ⟨fresh.isNetlink, fresh.watched, fresh.owned, fun name c poll armed => ?_⟩
  rw [Interface.connection_of_le (by simp [fresh.no_connections])] at armed
  cases armed

theorem Sound.onward (s : t.Sound) (actions : List Action) (name : String) :
    (t.net name).Onward (t.view.takenOf name) ((t.run actions).net name)
      ((t.run actions).view.takenOf name) := by
  induction actions generalizing t with
  | nil => exact .refl _ _
  | cons a actions ih =>
    exact (View.onward_move s.watched (act_move s.netlink a) name).trans (ih (s.act a))

/-! Calls of a wakeup -/

theorem callsWorker_eq_true {step : Concurrent × Action} :
    callsWorker name key step = true ↔
      ∃ n w, step.2 = .fire n ∧ step.1.taken[n]? = some (name, key, w) := by
  obtain ⟨t, a⟩ := step
  cases a with
  | fire n =>
    simp only [callsWorker, Option.any_eq_true, Bool.and_eq_true, decide_eq_true_eq]
    constructor
    · rintro ⟨⟨other, k, w⟩, found, rfl, rfl⟩
      exact ⟨n, w, rfl, found⟩
    · rintro ⟨m, w, same, found⟩
      cases same
      exact ⟨_, found, rfl, rfl⟩
  | _ => simp [callsWorker]

theorem fires_eq_true {step : Concurrent × Action} :
    fires name c key step = true ↔ callsWorker name key step = true ∧
      step.1.isHeld name c = true ∧
        ∃ poll, ((step.1.net name).connection c).armed = some poll ∧ poll.key = key := by
  simp only [fires, Bool.and_eq_true, Option.any_eq_true, decide_eq_true_eq, and_assoc]

theorem absent_of_callsWorker (w : t.view.Watched) (called : callsWorker name key (t, a) = true) :
    ∀ e ∈ ((t.act a).net name).wakeups ((t.act a).view.takenOf name), e.1 ≠ key := by
  obtain ⟨n, worker, rfl, found⟩ := callsWorker_eq_true.1 called
  obtain ⟨perm, -⟩ := View.takenOf_eraseIdx (v := t.view) found
  have view : (t.act (.fire n)).view = _ := view_fire found
  have net : (t.act (.fire n)).net name = _ := congrArg (fun v : View => v.net name) view
  rw [view, net]
  simp only [View.setNet, Function.update_self, Interface.Keyed.wakeups_fire]
  exact fun e he => (w.keyed name).absent_of_called perm he

theorem never_called (s : t.Sound) (below : key < (t.net name).notifier.nextKey)
    (absent : ∀ e ∈ (t.net name).wakeups (t.view.takenOf name), e.1 ≠ key)
    (actions : List Action) : (t.trace actions).countP (callsWorker name key) = 0 := by
  refine List.countP_eq_zero.2 fun step mem called => ?_
  obtain ⟨xs, ys, -, same⟩ := mem_trace.1 mem
  obtain ⟨n, w, -, found⟩ := callsWorker_eq_true.1 called
  rw [same] at found
  have known := View.wakeups_of_taken (v := (t.run xs).view) found
  rcases (s.onward xs name).wakeups _ known with old | fresh
  · exact absent _ old rfl
  · exact Nat.not_lt.2 fresh below

theorem calls_le_one (s : t.Sound) (below : key < (t.net name).notifier.nextKey)
    (actions : List Action) : (t.trace actions).countP (callsWorker name key) ≤ 1 := by
  induction actions generalizing t with
  | nil => exact Nat.zero_le _
  | cons a actions ih =>
    have later := Nat.lt_of_lt_of_le below (s.onward [a] name).nextKey
    rw [trace_cons, List.countP_cons]
    cases called : callsWorker name key (t, a) with
    | false => exact ih (s.act a) later
    | true =>
      rw [never_called (s.act a) later (absent_of_callsWorker s.watched called)]
      exact Nat.le_refl _

/-! A poll that is armed -/

section

variable (s : t.Sound) (armed : ((t.net name).connection c).armed = some poll)
include s armed

theorem Sound.key_lt : poll.key < (t.net name).notifier.nextKey :=
  (s.watched.keyed name).armed_below c poll armed

theorem Sound.armed_unique {actions : List Action} {d : Nat} {other : ArmedPoll}
    (later : (((t.run actions).net name).connection d).armed = some other)
    (same : other.key = poll.key) : d = c ∧ other = poll := by
  rcases (s.onward actions name).armed d other later with old | fresh
  · obtain rfl := (s.watched.keyed name).armed_distinct d c other poll old armed same
    exact ⟨rfl, Option.some.inj (old.symm.trans armed)⟩
  · have below := s.key_lt armed
    omega

variable (held : t.isHeld name c = true)
include held

theorem Sound.worker_unique {actions : List Action} {w : Wakeup}
    (known : (poll.key, w) ∈
      ((t.run actions).net name).wakeups ((t.run actions).view.takenOf name)) : w = .poll c := by
  have below := s.key_lt armed
  have k := s.watched.keyed name
  rcases (s.onward actions name).wakeups _ known with old | fresh
  · exact (Prod.mk.inj (k.unique old (k.armed_wakeup c poll armed held) rfl)).2
  · exact absurd below (Nat.not_lt.2 fresh)

end

/-! What a call changes -/

/-- The semaphore of a poll gets one permit, its slot is told of a response, and the connection is
armed no more. -/
structure Rings (t later : Concurrent) (name : String) (c : Nat) (poll : ArmedPoll) : Prop where
  permits : ∀ s, later.signals.permits s =
    t.signals.permits s + if s = poll.semaphore then 1 else 0
  events : ∀ n, later.signals.events n =
    if n = poll.slot then t.signals.events n ∪ Flags.single .readable else t.signals.events n
  armed : ∀ other d, ((later.net other).connection d).armed =
    if other = name ∧ d = c then none else ((t.net other).connection d).armed

structure Unmoved (t later : Concurrent) : Prop where
  signals : later.signals = t.signals
  net : later.net = t.net

theorem Sound.rings (s : t.Sound) (armed : ((t.net name).connection c).armed = some poll)
    (held : t.isHeld name c = true) {n : Nat}
    (found : t.taken[n]? = some (name, poll.key, .poll c)) :
    Rings t (t.act (.fire n)) name c poll := by
  obtain ⟨slot, semaphore⟩ : poll.slot < t.signals.slots.length ∧
      poll.semaphore < t.signals.semaphores.length := s.watched.assigned.armed_lt armed
  rcases Interface.fire_poll (i := t.net name) (s := t.signals) (c := c) (t.isHeld name) poll.key
    with ⟨other, -, same, -, fired⟩ | ⟨stale, -⟩
  · cases armed.symm.trans same
    have view : (t.act (.fire n)).view = _ := view_fire found
    rw [fired] at view
    have signals : (t.act (.fire n)).signals = _ := congrArg View.signals view
    have net : (t.act (.fire n)).net = _ := congrArg View.net view
    constructor
    · intro s
      rw [signals]
      split
      · rename_i here
        rw [here, Signals.permits_post_self (by simpa [Signals.addToSlot] using semaphore)]
        rfl
      · exact Signals.permits_post_of_ne _ ‹_›
    · intro m
      rw [signals]
      split
      · rename_i here
        subst here
        exact Signals.events_addToSlot slot _
      · exact Signals.events_addToSlot_of_ne ‹_› _
    · intro other d
      rw [net]
      by_cases here : other = name
      · subst here
        have connection := Interface.connection_update (i := t.net other)
          (fun k => { k with armed := none }) (Interface.lt_of_armed armed) d
        change ((Function.update t.net other _ other).connection d).armed = _
        rw [Function.update_self, connection]
        by_cases same : d = c
        · rw [if_pos same, if_pos ⟨rfl, same⟩]
        · rw [if_neg same, if_neg fun both => same both.2]
      · rw [if_neg fun both => here both.1]
        change ((Function.update t.net name _ other).connection d).armed = _
        rw [Function.update_of_ne here]
  · exact absurd rfl (stale held poll armed)

theorem unmoved_of_stale {n : Nat} (found : t.taken[n]? = some (name, key, .poll c))
    (stale : t.isHeld name c = true → ∀ poll, ((t.net name).connection c).armed = some poll →
      poll.key ≠ key) : Unmoved t (t.act (.fire n)) := by
  rcases Interface.fire_poll (i := t.net name) (s := t.signals) (c := c) (t.isHeld name) key
    with ⟨poll, held, armed, own, -⟩ | ⟨-, fired⟩
  · exact absurd own (stale held poll armed)
  · have view : (t.act (.fire n)).view = _ := view_fire found
    rw [fired] at view
    refine ⟨congrArg View.signals view, ?_⟩
    exact (congrArg View.net view).trans (Function.update_eq_self name t.net)

/-! A run that is not cut short -/

theorem unarmed_of_cut (netlink : t.IsNetlink)
    (cut : t.view.TearsDown name c a ∨ t.view.EndsLast name c a) :
    (((t.act a).net name).connection c).armed = none := by
  rcases cut with torn | ⟨s, key, h, rfl, ends, free, attached, rfl, last⟩
  · rw [net_of_tearsDown netlink torn, Interface.connection_disarm, if_pos rfl]
  · have last : ((t.net h.family).connection c).references = 1 := last
    have counted : 0 < ((t.net h.family).connection c).references := by omega
    obtain ⟨lines, i, given⟩ := Interface.release_of_references counted
    have view := view_of_release netlink ends free attached given
    have net : (t.act (.step s)).net h.family = i :=
      (congrArg (fun v : View => v.net h.family) view).trans (by simp [View.setNet])
    have released := Interface.connection_release given c
    rw [if_pos rfl, Connection.released, if_pos last] at released
    rw [net, released]

/-- Whether a step queues a response on a connection. -/
def addsResponse (name : String) (c : Nat) (step : Concurrent × Action) : Bool :=
  ((step.1.net name).connection c).responses.length <
    (((step.1.act step.2).net name).connection c).responses.length

/-- Before the wakeup of a key is called, no poll is torn down on the connection and its last
reference does not go. -/
def Uncut (t : Concurrent) (name : String) (c key : Nat) (actions : List Action) : Prop :=
  ∀ xs a ys, actions = xs ++ a :: ys → (t.trace xs).countP (callsWorker name key) = 0 →
    ¬(t.run xs).view.TearsDown name c a ∧ ¬(t.run xs).view.EndsLast name c a

theorem Uncut.of_append {xs ys : List Action} (uncut : Uncut t name c key (xs ++ ys)) :
    Uncut t name c key xs := fun us a vs split called =>
  uncut us a (vs ++ ys) (by rw [split]; simp) called

theorem Uncut.tail {actions : List Action} (uncut : Uncut t name c key (a :: actions))
    (uncalled : callsWorker name key (t, a) = false) : Uncut (t.act a) name c key actions := by
  intro xs b ys split called
  refine uncut (a :: xs) b ys (by rw [split]; rfl) ?_
  rw [trace_cons, List.countP_cons, called, uncalled]
  rfl

theorem Sound.armed_of_uncut (s : t.Sound)
    (armed : ((t.net name).connection c).armed = some poll) {actions : List Action}
    (uncut : Uncut t name c poll.key actions)
    (uncalled : (t.trace actions).countP (callsWorker name poll.key) = 0) :
    (((t.run actions).net name).connection c).armed = some poll := by
  induction actions generalizing t with
  | nil => exact armed
  | cons a actions ih =>
    rw [trace_cons, List.countP_cons] at uncalled
    have first : callsWorker name poll.key (t, a) = false := by
      cases called : callsWorker name poll.key (t, a) with
      | false => rfl
      | true => simp [called] at uncalled
    have whole := uncut [] a actions rfl rfl
    rcases View.armed_of_move s.watched (act_move s.netlink a) armed with
      still | torn | ended | ⟨n, rfl, found, -⟩
    · exact ih (s.act a) still (uncut.tail first) (by simpa [first] using uncalled)
    · exact absurd torn whole.1
    · exact absurd ended whole.2
    · have called : callsWorker name poll.key (t, .fire n) = true :=
        callsWorker_eq_true.2 ⟨n, _, rfl, found⟩
      rw [first] at called
      cases called

theorem Sound.isHeld_of_unadded (s : t.Sound) {actions : List Action}
    (owned : t.view.handles name c = t.view.references name c)
    (unadded : (t.trace actions).countP (addsReference name c) = 0)
    (armed : (((t.run actions).net name).connection c).armed = some poll) :
    (t.run actions).isHeld name c = true := by
  have balance := balanced_run s.netlink s.owned actions name c
  have counted := (s.run actions).referenced name c poll armed
  rw [View.Balanced, unadded] at balance
  have handles : 0 < (t.run actions).view.handles name c := by omega
  obtain ⟨e, mem, handle⟩ := List.countP_pos_iff.1 handles
  exact View.isHeld_iff.2 (.inl ⟨e, mem, View.isHandleOf_eq_true.1 handle⟩)

theorem Sound.unregistered (s : t.Sound)
    (armed : ((t.net name).connection c).armed = some poll) (held : t.isHeld name c = true)
    {actions : List Action} (told : ∃ step ∈ t.trace actions, addsResponse name c step = true) :
    ∀ r ∈ ((t.run actions).net name).notifier.pending, r.key ≠ poll.key := by
  obtain ⟨step, mem, adds⟩ := told
  obtain ⟨xs, ys, split, at_xs⟩ := mem_trace.1 mem
  have later : t.run actions = (t.run (xs ++ [step.2])).run ys := by
    rw [split, ← run_append, List.append_assoc]
    rfl
  have now : (t.run (xs ++ [step.2])) = step.1.act step.2 := by
    rw [run_append, at_xs]
    rfl
  have below : poll.key < ((t.run (xs ++ [step.2])).net name).notifier.nextKey :=
    Nat.lt_of_lt_of_le (s.key_lt armed) (s.onward _ name).nextKey
  have after := s.run (xs ++ [step.2])
  intro r mem same
  rw [later] at mem
  rcases (after.onward ys name).pending r mem with old | fresh
  · have worker := s.worker_unique armed held (same ▸ Interface.wakeups_of_pending old)
    have empty := ((after.watched.keyed name).pending_poll r old c worker).2.2
    have filled : (((t.run (xs ++ [step.2])).net name).connection c).responses ≠ [] := by
      rw [now]
      refine List.ne_nil_of_length_pos ?_
      exact Nat.lt_of_le_of_lt (Nat.zero_le _) (by simpa [addsResponse] using adds)
    exact filled empty
  · omega

theorem Sound.fires_once (s : t.Sound) (armed : ((t.net name).connection c).armed = some poll)
    (held : t.isHeld name c = true) {actions : List Action}
    (uncut : Uncut t name c poll.key actions)
    (kept : ∀ xs ys, actions = xs ++ ys →
      (t.trace xs).countP (callsWorker name poll.key) = 0 → (t.run xs).isHeld name c = true)
    (told : ∃ step ∈ t.trace actions, addsResponse name c step = true)
    (quiet : ((t.run actions).net name).queue.items = [])
    (idle : (t.run actions).view.takenOf name = []) :
    (t.trace actions).countP (fires name c poll.key) = 1 := by
  have once := calls_le_one s (s.key_lt armed) actions
  have fewer : (t.trace actions).countP (fires name c poll.key) ≤
      (t.trace actions).countP (callsWorker name poll.key) :=
    List.countP_mono_left fun _ _ fired => (fires_eq_true.1 fired).1
  have called : (t.trace actions).countP (callsWorker name poll.key) ≠ 0 := by
    intro uncalled
    have still := s.armed_of_uncut armed uncut uncalled
    have last := kept actions [] (List.append_nil _).symm uncalled
    have known : (poll.key, Wakeup.poll c) ∈
        ((t.run actions).net name).wakeups ((t.run actions).view.takenOf name) :=
      ((s.run actions).watched.keyed name).armed_wakeup c poll still last
    obtain ⟨r, mem, entry⟩ | elsewhere := Interface.mem_wakeups.1 known
    · exact s.unregistered armed held told r mem (congrArg Prod.fst entry)
    · rw [quiet, idle] at elsewhere
      rcases elsewhere with queued | taken
      · cases queued
      · cases taken
  obtain ⟨step, mem, calls⟩ := List.countP_pos_iff.1 (Nat.pos_of_ne_zero called)
  obtain ⟨xs, ys, split, at_xs⟩ := mem_trace.1 mem
  have before : (t.trace xs).countP (callsWorker name poll.key) = 0 := by
    rw [split, trace_append, List.countP_append, trace_cons, List.countP_cons, ← at_xs, calls]
      at once
    simp only [if_true] at once
    omega
  have fired : fires name c poll.key step = true := by
    refine fires_eq_true.2 ⟨calls, ?_, poll, ?_, rfl⟩
    · rw [at_xs]
      exact kept xs _ split before
    · rw [at_xs]
      exact s.armed_of_uncut armed (Uncut.of_append (split ▸ uncut)) before
  have some_fire := List.countP_pos_iff.2 ⟨step, mem, fired⟩
  omega

/-! Running the work queue to its end -/

theorem queue_act_take {item : Nat × Wakeup} {queue : WorkQueue (Nat × Wakeup)}
    (next : (t.net name).queue.next? = some (item, queue)) :
    ((t.act (.take name)).net name).queue = queue ∧
      (t.act (.take name)).taken = t.taken ++ [(name, item)] := by
  change ((t.take name).net name).queue = queue ∧ (t.take name).taken = _
  unfold take
  rw [next]
  exact ⟨congrArg Interface.queue (World.net_setNet_self _ _ _), rfl⟩

theorem queue_act_fire {n : Nat} {item : String × Nat × Wakeup} (found : t.taken[n]? = some item)
    (name : String) : ((t.act (.fire n)).net name).queue = (t.net name).queue ∧
      (t.act (.fire n)).taken = t.taken.eraseIdx n := by
  obtain ⟨other, key, w⟩ := item
  have view : (t.act (.fire n)).view = _ := view_fire found
  refine ⟨?_, congrArg View.taken view⟩
  have net : (t.act (.fire n)).net name = _ := congrArg (fun v : View => v.net name) view
  rw [net]
  by_cases here : name = other
  · subst here
    simp [View.setNet, Interface.queue_fire]
  · simp [View.setNet, here]
    rfl

theorem exists_drain (t : Concurrent) (name : String) : ∃ work : List Action,
    (∀ a ∈ work, a = .take name ∨ ∃ n, a = .fire n) ∧
      ((t.run work).net name).queue.items = [] ∧ (t.run work).taken = [] := by
  -- an item that is taken is called later, so it counts twice as long as it is queued
  generalize left : 2 * (t.net name).queue.items.length + t.taken.length = n
  induction n generalizing t with
  | zero =>
    have queue : (t.net name).queue.items = [] := List.eq_nil_of_length_eq_zero (by omega)
    have taken : t.taken = [] := List.eq_nil_of_length_eq_zero (by omega)
    exact ⟨[], by simp, queue, taken⟩
  | succ n ih =>
    have go_on (a : Action) (works : a = .take name ∨ ∃ n, a = .fire n)
        (fewer : 2 * ((t.act a).net name).queue.items.length + (t.act a).taken.length = n) :
        ∃ work : List Action, (∀ a ∈ work, a = .take name ∨ ∃ n, a = .fire n) ∧
          ((t.run work).net name).queue.items = [] ∧ (t.run work).taken = [] := by
      obtain ⟨work, only, drained⟩ := ih (t.act a) fewer
      exact ⟨a :: work, List.forall_mem_cons.2 ⟨works, only⟩, drained⟩
    cases next : (t.net name).queue.next? with
    | some r =>
      obtain ⟨queue, taken⟩ := queue_act_take next
      have items := WorkQueue.items_of_next? next
      refine go_on _ (.inl rfl) ?_
      rw [queue, taken, List.length_append, List.length_singleton]
      rw [items, List.length_cons] at left
      omega
    | none =>
      have empty := WorkQueue.next?_eq_none.1 next
      rw [empty, List.length_nil] at left
      have found := List.getElem?_eq_getElem (l := t.taken) (i := 0) (by omega)
      obtain ⟨queue, taken⟩ := queue_act_fire found name
      refine go_on _ (.inr ⟨0, rfl⟩) ?_
      rw [queue, taken, empty, List.length_eraseIdx_of_lt (by omega), List.length_nil]
      omega

/-! What a run makes of one registration -/

theorem Sound.isHeld_of_run (s : t.Sound) (within : c < (t.net name).connections.length)
    {actions : List Action} (held : (t.run actions).isHeld name c = true) :
    t.isHeld name c = true := by
  induction actions generalizing t with
  | nil => exact held
  | cons a actions ih =>
    have m := act_move s.netlink a
    have later := ih (s.act a) (Nat.lt_of_lt_of_le within (View.length_le m name)) held
    exact View.isHeld_of_move s.watched.placed m within later

section

variable (s : t.Sound) (armed : ((t.net name).connection c).armed = some poll)
  (held : t.isHeld name c = true)
include s armed held

theorem Sound.call_cases {actions : List Action} {step : Concurrent × Action}
    (mem : step ∈ t.trace actions) (called : callsWorker name poll.key step = true) :
    fires name c poll.key step = true ∧
        ((step.1.net name).connection c).armed = some poll ∧
        Rings step.1 (step.1.act step.2) name c poll ∨
      fires name c poll.key step = false ∧ Unmoved step.1 (step.1.act step.2) := by
  obtain ⟨xs, ys, -, at_xs⟩ := mem_trace.1 mem
  obtain ⟨n, w, act, found⟩ := callsWorker_eq_true.1 called
  have known := View.wakeups_of_taken (v := step.1.view) found
  rw [at_xs] at known
  obtain rfl := s.worker_unique armed held known
  cases fired : fires name c poll.key step with
  | true =>
    obtain ⟨-, still, other, now, same⟩ := fires_eq_true.1 fired
    have here := now
    rw [at_xs] at here
    obtain ⟨-, rfl⟩ := s.armed_unique armed here same
    have sound : step.1.Sound := at_xs ▸ s.run xs
    exact .inl ⟨rfl, now, act ▸ sound.rings now still found⟩
  | false =>
    refine .inr ⟨rfl, act ▸ unmoved_of_stale found fun still other now same => ?_⟩
    rw [fires_eq_true.2 ⟨called, still, other, now, same⟩] at fired
    cases fired

theorem Sound.exists_rings {actions : List Action}
    (once : (t.trace actions).countP (fires name c poll.key) = 1) :
    ∃ xs a ys, actions = (xs ++ [a]) ++ ys ∧
      Rings (t.run xs) (t.run (xs ++ [a])) name c poll := by
  obtain ⟨step, mem, fired⟩ := List.countP_pos_iff.1 (Nat.lt_of_lt_of_eq Nat.one_pos once.symm)
  obtain ⟨xs, ys, split, at_xs⟩ := mem_trace.1 mem
  refine ⟨xs, step.2, ys, by rw [split, List.append_cons], ?_⟩
  rcases s.call_cases armed held mem (fires_eq_true.1 fired).1 with ⟨-, -, rung⟩ | ⟨not_fired, -⟩
  · rw [run_append, ← at_xs]
    exact rung
  · rw [fired] at not_fired
    cases not_fired

omit held in
theorem Sound.not_fires {xs ys : List Action}
    (past : (((t.run xs).net name).connection c).armed ≠ some poll ∨
      (t.run xs).isHeld name c = false)
    {step : Concurrent × Action} (mem : step ∈ (t.run xs).trace ys) :
    fires name c poll.key step = false := by
  refine Bool.eq_false_iff.2 fun fired => ?_
  obtain ⟨us, vs, -, at_us⟩ := mem_trace.1 mem
  obtain ⟨-, still, other, now, same⟩ := fires_eq_true.1 fired
  rw [at_us] at still now
  have here := now
  rw [← run_append] at here
  obtain ⟨-, rfl⟩ := s.armed_unique armed here same
  have later := s.run xs
  rcases past with disarmed | gone
  · rcases (later.onward us name).armed c other now with old | fresh
    · exact disarmed old
    · have below := Nat.lt_of_lt_of_le (s.key_lt armed) (s.onward xs name).nextKey
      omega
  · have within := Interface.lt_of_armed armed
    have grown := length_run s.netlink xs name
    rw [later.isHeld_of_run (Nat.lt_of_lt_of_le within grown) still] at gone
    cases gone

end

/-- A poll that was armed at the end of `past`, and any actions after that. -/
structure Firings (t : Concurrent) (past : List Action) (name : String) (c : Nat)
    (poll : ArmedPoll) : Prop where
  once : ∀ actions, ((t.run past).trace actions).countP (callsWorker name poll.key) ≤ 1
  rings : ∀ actions, ∀ step ∈ (t.run past).trace actions, fires name c poll.key step = true →
    ((step.1.net name).connection c).armed = some poll ∧
      Rings step.1 (step.1.act step.2) name c poll
  stale : ∀ actions, ∀ step ∈ (t.run past).trace actions,
    callsWorker name poll.key step = true → fires name c poll.key step = false →
      Unmoved step.1 (step.1.act step.2)
  posts : ∀ actions, ∀ step ∈ (t.run past).trace actions, ∀ s,
    step.1.signals.permits s < (step.1.act step.2).signals.permits s → step.1.view.Posts s step.2
  cut : ∀ xs a, ((t.run past).run xs).view.TearsDown name c a ∨
      ((t.run past).run xs).view.EndsLast name c a →
    ((((t.run past).run (xs ++ [a])).net name).connection c).armed ≠ some poll
  superseded : ∀ xs ys, ((((t.run past).run xs).net name).connection c).armed ≠ some poll ∨
      ((t.run past).run xs).isHeld name c = false →
    ∀ step ∈ ((t.run past).run xs).trace ys, callsWorker name poll.key step = true →
      Unmoved step.1 (step.1.act step.2)
  delivered : ∀ actions, Uncut (t.run past) name c poll.key actions →
    ((t.trace (past ++ actions)).countP (addsReference name c) = 0 ∨
      ∀ xs ys, actions = xs ++ ys →
        ((t.run past).trace xs).countP (callsWorker name poll.key) = 0 →
          ((t.run past).run xs).isHeld name c = true) →
    (∃ step ∈ (t.run past).trace actions, addsResponse name c step = true) →
    (((t.run past).run actions).net name).queue.items = [] →
    ((t.run past).run actions).view.takenOf name = [] →
    ((t.run past).trace actions).countP (fires name c poll.key) = 1
  drains : ∀ actions, ∃ work : List Action, (∀ a ∈ work, a = .take name ∨ ∃ n, a = .fire n) ∧
    (((t.run past).run (actions ++ work)).net name).queue.items = [] ∧
      ((t.run past).run (actions ++ work)).view.takenOf name = []

theorem firings_run (fresh : t.IsFresh) (past : List Action) (a : Action)
    (idle : (((t.run past).net name).connection c).armed = none)
    (armed : (((t.run (past ++ [a])).net name).connection c).armed = some poll) :
    (t.run past).view.Arms (t.run (past ++ [a])).view name c poll a ∧
      Firings t (past ++ [a]) name c poll := by
  have before := fresh.sound.run past
  have s := fresh.sound.run (past ++ [a])
  have last : t.run (past ++ [a]) = (t.run past).act a := run_append t past [a]
  have arms : (t.run past).view.Arms (t.run (past ++ [a])).view name c poll a := by
    rw [last] at armed ⊢
    rcases View.armed_new before.watched (act_move before.netlink a) armed with old | arms
    · exact absurd (idle.symm.trans old) nofun
    · exact arms
  have held : (t.run (past ++ [a])).isHeld name c = true := arms.isHeld s.watched.placed
  refine ⟨arms, ?_⟩
  constructor
  case once => exact calls_le_one s (s.key_lt armed)
  case rings =>
    intro actions step mem fired
    rcases s.call_cases armed held mem (fires_eq_true.1 fired).1 with rung | ⟨still, -⟩
    · exact rung.2
    · rw [fired] at still
      cases still
  case stale =>
    intro actions step mem called still
    rcases s.call_cases armed held mem called with ⟨fired, -⟩ | unmoved
    · rw [fired] at still
      cases still
    · exact unmoved.2
  case posts =>
    intro actions step mem semaphore more
    obtain ⟨xs, ys, -, at_xs⟩ := mem_trace.1 mem
    have sound : step.1.Sound := at_xs ▸ s.run xs
    exact View.posts_of_move sound.watched (act_move sound.netlink step.2) more
  case cut =>
    intro xs b cut armed
    rw [run_append] at armed
    exact absurd ((unarmed_of_cut (s.run xs).netlink cut).symm.trans armed) nofun
  case superseded =>
    intro xs ys stale step mem called
    have still := s.not_fires armed stale mem
    have whole : step ∈ (t.run (past ++ [a])).trace (xs ++ ys) := by
      rw [trace_append]
      exact List.mem_append_right _ mem
    rcases s.call_cases armed held whole called with ⟨fired, -⟩ | unmoved
    · rw [fired] at still
      cases still
    · exact unmoved.2
  case delivered =>
    intro actions uncut kept told quiet idle
    refine s.fires_once armed held uncut ?_ told quiet idle
    rcases kept with unadded | kept
    · rw [trace_append t (past ++ [a]), List.countP_append] at unadded
      -- without direct additions there are as many handles as references, so one is left
      have counted := references_counted fresh (past ++ [a]) name c
      intro xs ys split uncalled
      rw [split, trace_append _ xs, List.countP_append] at unadded
      have still := s.armed_of_uncut armed (Uncut.of_append (split ▸ uncut)) uncalled
      exact s.isHeld_of_unadded (by omega) (by omega) still
    · exact kept
  case drains =>
    intro actions
    obtain ⟨work, only, quiet, none⟩ := exists_drain ((t.run (past ++ [a])).run actions) name
    refine ⟨work, only, ?_, ?_⟩
    · rw [run_append]
      exact quiet
    · have none : (((t.run (past ++ [a])).run actions).run work).view.taken = [] := none
      rw [run_append, View.takenOf, none]
      rfl

/-- A handle with another of its own, and a descriptor. -/
def twoHandlesOneDescriptor : List Action :=
  [.step (.register 16 "nl"), .step (.socket 0 16 3 0), .step (.duplicate 0 1),
    .step (.descriptor 0 (Flags.single .readable) 0)]

theorem firings_twoHandles :
    let t := start .withRoute [("nl", Interface.defaultLimits, [])];
    let past := twoHandlesOneDescriptor;
    (((t.run past).net "nl").connection 0).armed = none ∧
      (((t.run (past ++ [.step (.arm 0 0)])).net "nl").connection 0).armed = some ⟨0, 0, 1⟩ ∧
      ((t.run (past ++ [.step (.arm 0 0)])).trace [.step (.push (.socket 0) [1]), .step (.close 0),
        .take "nl", .step (.push (.socket 1) [2]), .fire 0]).countP (fires "nl" 0 1) = 1 ∧
      (t.run past).view.Arms (t.run (past ++ [.step (.arm 0 0)])).view "nl" 0 ⟨0, 0, 1⟩
        (.step (.arm 0 0)) ∧
      Firings t (past ++ [.step (.arm 0 0)]) "nl" 0 ⟨0, 0, 1⟩ :=
  ⟨by decide +kernel, by decide +kernel, by decide +kernel,
    firings_run (isFresh_start _ _) _ _ (by decide +kernel) (by decide +kernel)⟩

end Concurrent

end NetlinkSocket
