import NetlinkSocket.Proofs.Interleaving.Alterations
import NetlinkSocket.Proofs.Interleaving.Waiters
import NetlinkSocket.Proofs.Workers

/-!
Connections are isolated from each other. What is done through one connection leaves every other one,
the registrations made for it and the workers that are to wake its waiters; and a worker changes
nothing but what its own registration recorded.
-/

namespace NetlinkSocket

open Concurrent (Action)

def Stage.sleepsOn (s key : Nat) : Stage → Bool
  | sleeping _ semaphore k => semaphore = s && k = key
  | _ => false

namespace View

variable {v later : View} {a : Action} {name : String} {c d : Nat}

def registrationsOf (v : View) (name : String) (d : Nat) : List (Registration Wakeup) :=
  (v.net name).notifier.pending.filter fun r => r.subject = ((v.net name).connection d).id

/-- Whether a wakeup is for a connection: for its poll, or for a reader that sleeps on it. -/
def isWorkerOf (v : View) (name : String) (d : Nat) : Nat × Wakeup → Bool
  | (_, .poll c) => c = d
  | (key, .reader s) =>
    v.calls.any fun call =>
      call.interface = name && call.connection = d && call.stage.sleepsOn s key

def queuedWorkers (v : View) (name : String) (d : Nat) : List (Nat × Wakeup) :=
  (v.net name).queue.items.filter (v.isWorkerOf name d)

def takenWorkers (v : View) (name : String) (d : Nat) : List (Nat × Wakeup) :=
  (v.takenOf name).filter (v.isWorkerOf name d)

/-- Neither a connection nor what is registered or queued for it differs. -/
structure Untouched (v later : View) (name : String) (d : Nat) : Prop where
  connection : (later.net name).connection d = (v.net name).connection d
  registrations : later.registrationsOf name d = v.registrationsOf name d
  queued : later.queuedWorkers name d = v.queuedWorkers name d
  taken : later.takenWorkers name d = v.takenWorkers name d

def Distinguishes (v : View) (name : String) : Prop :=
  ∀ c d, c < (v.net name).connections.length → d < (v.net name).connections.length →
    ((v.net name).connection c).id = ((v.net name).connection d).id → c = d

/-! Whose registrations and workers -/

theorem isWorkerOf_reader {key s : Nat} :
    v.isWorkerOf name d (key, .reader s) = true ↔ v.Sleeps name s key d := by
  simp only [isWorkerOf, List.any_eq_true, Bool.and_eq_true, decide_eq_true_eq, and_assoc]
  constructor
  · intro sleeper
    obtain ⟨call, mem, interface, connection, sleeps⟩ := sleeper
    obtain ⟨n, found⟩ := List.mem_iff_getElem?.1 mem
    cases here : call.stage with
    | sleeping sink semaphore k =>
      rw [here] at sleeps
      simp only [Stage.sleepsOn, Bool.and_eq_true, decide_eq_true_eq] at sleeps
      obtain ⟨rfl, rfl⟩ := sleeps
      exact ⟨n, call, sink, found, interface, connection, here⟩
    | _ =>
      rw [here] at sleeps
      cases sleeps
  · intro sleeps
    obtain ⟨n, call, sink, found, interface, connection, here⟩ := sleeps
    refine ⟨call, List.mem_of_getElem? found, interface, connection, ?_⟩
    rw [here]
    simp [Stage.sleepsOn]

theorem isWorkerOf_congr
    (sleeps : ∀ s key, later.Sleeps name s key d ↔ v.Sleeps name s key d) :
    later.isWorkerOf name d = v.isWorkerOf name d := by
  funext e
  obtain ⟨key, wakeup⟩ := e
  cases wakeup with
  | poll c => rfl
  | reader s =>
    rw [Bool.eq_iff_iff, isWorkerOf_reader, isWorkerOf_reader]
    exact sleeps s key

theorem isWorkerOf_of_awaits (w : v.Watched) {r : Registration Wakeup}
    (awaits : v.Awaits name r c) : v.isWorkerOf name d (r.key, r.worker) = true ↔ c = d := by
  rcases awaits with ⟨poll, -, -, worker⟩ | ⟨s, worker, asleep⟩
  · rw [worker]
    exact decide_eq_true_iff
  · rw [worker, isWorkerOf_reader]
    constructor
    · exact fun other => ((w.readers name).single _ _ _ _ _ asleep other).2
    · exact fun same => same ▸ asleep

theorem awaits_of_subject (w : v.Watched) (distinct : v.Distinguishes name)
    {r : Registration Wakeup} (mem : r ∈ (v.net name).notifier.pending)
    (within : c < (v.net name).connections.length)
    (subject : r.subject = ((v.net name).connection c).id) : v.Awaits name r c := by
  obtain ⟨e, awaits⟩ := w.awaits mem
  have one := (w.unanswered mem awaits).1
  have same := distinct e c (w.awaits_lt awaits) within (one.symm.trans subject)
  exact same ▸ awaits

/-! What is not addressed to a connection -/

theorem sleeps_advanced_apart {n s key : Nat} {call : Call} {stage : Stage}
    (moved : Advanced v later n call stage)
    (apart : ¬(call.interface = name ∧ call.connection = d)) :
    later.Sleeps name s key d ↔ v.Sleeps name s key d := by
  rw [sleeps_advanced moved]
  constructor
  · intro asleep
    rcases asleep with ⟨m, -, rest⟩ | ⟨interface, connection, -⟩
    · exact ⟨m, rest⟩
    · exact (apart ⟨interface, connection⟩).elim
  · intro asleep
    obtain ⟨m, other, sink, found, interface, connection, here⟩ := asleep
    refine .inl ⟨m, ?_, other, sink, found, interface, connection, here⟩
    intro same
    subst same
    cases moved.found.symm.trans found
    exact apart ⟨interface, connection⟩

theorem sleeps_apart (p : v.Placed) (m : Move v a later) (apart : ¬v.Addresses name d a)
    (s key : Nat) : later.Sleeps name s key d ↔ v.Sleeps name s key d := by
  have elsewhere {n : Nat} {call : Call} (own : a = .goOn n) (found : v.calls[n]? = some call) :
      ¬(call.interface = name ∧ call.connection = d) := by
    intro place
    subst own
    exact apart (.call found place.1 place.2)
  cases waiting_of_move p m with
  | none calm | disarmed calm | pushed calm => exact calm.sleeps_iff _ _ _ _
  | described | describedAnew | tried | armed | itemTaken | itemFired => exact Iff.rfl
  | beganPoll => exact sleeps_appended rfl rfl _ _ _ _
  | registered found | woke found | withdrew found | polled found =>
    exact sleeps_advanced_apart ⟨found, rfl⟩ (elsewhere rfl found)

theorem registrations_disarm (w : v.Watched) (distinct : v.Distinguishes name)
    (within : d < (v.net name).connections.length) (ne : c ≠ d) :
    ((v.net name).disarm c).notifier.pending.filter
        (fun r => r.subject = ((v.net name).connection d).id) = v.registrationsOf name d := by
  cases armed : ((v.net name).connection c).armed with
  | none => simp only [Interface.disarm, armed, registrationsOf]
  | some poll =>
    simp only [Interface.disarm, armed, Notifier.withdraw, registrationsOf, List.filter_filter]
    apply List.filter_congr
    intro r mem
    rw [Bool.and_eq_left_iff_imp]
    intro subject
    have awaits := awaits_of_subject w distinct mem within (decide_eq_true_iff.1 subject)
    rw [bne_iff_ne]
    intro own
    rcases awaits with ⟨other, armed', key, -⟩ | ⟨s, -, asleep⟩
    · exact ne ((w.keyed name).armed_distinct c d poll other armed armed' (own.symm.trans key.symm))
    · exact ((w.readers name).reserved r.key (.inr ⟨s, d, asleep⟩)).2 c poll armed own.symm

theorem not_pushed_of_kept {other : String} {message : Bytes}
    (opened : c < (v.net other).connections.length)
    (net : later.net = (v.setNet other ((v.net other).push c message)).net)
    (kept : (later.net other).connection d = (v.net other).connection d) : c ≠ d := by
  intro one
  subst one
  rw [net, net_setNet, Function.update_self, Interface.connection_push message opened,
    if_pos rfl] at kept
  have longer := congrArg (fun k => k.responses.length) kept
  simp at longer

theorem registrations_register {n : Notifier Wakeup} {key : Nat} {id subject : ConnectionId}
    {worker : Wakeup} {notifier : Notifier Wakeup}
    (made : n.register id worker = (.ok key, notifier)) (ne : id ≠ subject) :
    notifier.pending.filter (fun r => r.subject = subject) =
      n.pending.filter fun r => r.subject = subject := by
  obtain ⟨-, -, -, pending⟩ := Notifier.register_eq_ok made
  rw [pending, List.filter_append]
  simp [ne]

theorem registrations_arm {i j : Interface} {s signals : Signals} {fd : PollDescriptor}
    {subject : ConnectionId} (made : i.arm s c fd = (.ok (), j, signals))
    (ne : (i.connection c).id ≠ subject) :
    j.notifier.pending.filter (fun r => r.subject = subject) =
      i.notifier.pending.filter fun r => r.subject = subject := by
  rcases Interface.arm_cases made with
    ⟨-, rfl, -⟩ | ⟨-, -, rfl, -⟩ | ⟨-, -, -, -, notifier, registered, rfl⟩
  · rfl
  · rfl
  · exact registrations_register registered ne

theorem registrations_push {i : Interface} {message : Bytes} {subject : ConnectionId}
    (ne : (i.connection c).id ≠ subject) :
    (i.push c message).notifier.pending.filter (fun r => r.subject = subject) =
      i.notifier.pending.filter fun r => r.subject = subject := by
  simp only [Interface.push, Notifier.signal, List.filter_filter]
  apply List.filter_congr
  intro r mem
  rw [Bool.and_eq_left_iff_imp]
  intro same
  rw [decide_eq_true_iff] at same ⊢
  rw [same]
  exact ne.symm

theorem withdraw_of_absent {i : Interface} {key : Nat}
    (absent : ∀ r ∈ i.notifier.pending, r.key ≠ key) :
    (i.withdraw key).notifier.pending = i.notifier.pending :=
  List.filter_eq_self.2 fun r mem => bne_iff_ne.2 (absent r mem)

theorem registrations_move (w : v.Watched) (distinct : v.Distinguishes name) (m : Move v a later)
    (within : d < (v.net name).connections.length) (apart : ¬v.Addresses name d a)
    (kept : (later.net name).connection d = (v.net name).connection d) :
    later.registrationsOf name d = v.registrationsOf name d := by
  rw [registrationsOf, kept]
  have at_net {other : String} {i : Interface} (net : later.net = (v.setNet other i).net)
      (here : other = name → i.notifier.pending.filter
        (fun r => r.subject = ((v.net name).connection d).id) = v.registrationsOf name d) :
      (later.net name).notifier.pending.filter
        (fun r => r.subject = ((v.net name).connection d).id) = v.registrationsOf name d := by
    rw [net]
    exact of_setNet (motive := fun i => i.notifier.pending.filter
      (fun r => r.subject = ((v.net name).connection d).id) = v.registrationsOf name d)
      (fun same => here same.symm) fun _ => rfl
  -- whatever is registered or fired here is another connection's, which has another identity
  have ne {c : Nat} (opened : c < (v.net name).connections.length)
      (addressed : c = d → v.Addresses name d a) :
      ((v.net name).connection c).id ≠ ((v.net name).connection d).id :=
    fun same => apart (addressed (distinct c d opened within same))
  cases waiting_of_move w.placed m with
  | none calm same => rw [(same name).pending, registrationsOf]
  | @disarmed _ _ other c i calm cut net same =>
    refine at_net net fun here => ?_
    subst here
    rw [same.pending]
    refine registrations_disarm w distinct within fun one => apart ?_
    rw [← one]
    exact cut.elim (TearsDown.addresses w.placed) EndsLast.addresses
  | @pushed _ _ other c message calm held net =>
    refine at_net net fun here => ?_
    subst here
    have opened := w.placed.of_isHeld held
    exact registrations_push fun same =>
      not_pushed_of_kept opened net kept (distinct c d opened within same)
  | described | describedAnew | tried | woke | polled => rw [registrationsOf]
  | armed attached described made =>
    refine at_net rfl fun here => ?_
    subst here
    exact registrations_arm made
      (ne (w.placed.of_attached attached).1 fun one => one ▸ addresses_attached attached rfl)
  | beganPoll attached own made =>
    refine at_net rfl fun here => ?_
    subst here
    exact registrations_arm made
      (ne (w.placed.of_attached attached).1 fun one => one ▸ addresses_attached attached rfl)
  | @registered n call sink key notifier found here empty made =>
    refine at_net rfl fun same => ?_
    subst same
    exact registrations_register made
      (ne (w.placed.calls call (List.mem_of_getElem? found)) (.call found rfl))
  | @withdrew n call sink key found here =>
    refine at_net rfl fun same => ?_
    subst same
    have absent : ∀ r ∈ (v.net call.interface).notifier.pending, r.key ≠ key := fun r mem =>
      (w.readers _).woken key ⟨n, call, sink, found, rfl, here⟩ _ (Interface.wakeups_of_pending mem)
    rw [withdraw_of_absent absent, registrationsOf]
  | @itemTaken other item queue next =>
    refine at_net rfl fun same => ?_
    subst same
    rfl
  | @itemFired n other key wakeup found =>
    refine at_net rfl fun same => ?_
    subst same
    rw [Interface.notifier_fire]
    rfl

theorem isWorkerOf_signal (w : v.Watched) (distinct : v.Distinguishes name)
    (opened : c < (v.net name).connections.length) {e : Nat × Wakeup}
    (mem : e ∈ ((v.net name).notifier.signal ((v.net name).connection c).id).1.map
      fun r => (r.key, r.worker)) : v.isWorkerOf name d e = true ↔ c = d := by
  obtain ⟨r, fired, same⟩ := List.mem_map.1 mem
  obtain ⟨pending, subject⟩ := Notifier.mem_fired.1 fired
  rw [← same]
  exact isWorkerOf_of_awaits w (awaits_of_subject w distinct pending opened subject)

theorem queue_move (w : v.Watched) (distinct : v.Distinguishes name) (m : Move v a later)
    (within : d < (v.net name).connections.length)
    (kept : (later.net name).connection d = (v.net name).connection d)
    (idle : ∀ other, a ≠ .take other) :
    (later.net name).queue.items.filter (v.isWorkerOf name d) = v.queuedWorkers name d := by
  have at_net {other : String} {i : Interface} (net : later.net = (v.setNet other i).net)
      (here : other = name → i.queue = (v.net name).queue) :
      (later.net name).queue.items.filter (v.isWorkerOf name d) = v.queuedWorkers name d := by
    have same : (later.net name).queue = (v.net name).queue := by
      rw [net]
      exact of_setNet (motive := fun i => i.queue = (v.net name).queue)
        (fun same => here same.symm) fun _ => rfl
    rw [same, queuedWorkers]
  cases waiting_of_move w.placed m with
  | none calm same => rw [(same name).queue, queuedWorkers]
  | @disarmed _ _ other c i calm cut net same =>
    refine at_net net fun here => ?_
    subst here
    rw [same.queue, Interface.queue_disarm]
  | @pushed _ _ other c message calm held net =>
    by_cases here : other = name
    · subst here
      have opened := w.placed.of_isHeld held
      have ne := not_pushed_of_kept opened net kept
      have none : (((v.net other).notifier.signal ((v.net other).connection c).id).1.map
          fun r => (r.key, r.worker)).filter (v.isWorkerOf other d) = [] := by
        rw [List.filter_eq_nil_iff]
        intro e mem worker
        exact ne ((isWorkerOf_signal w distinct opened mem).1 worker)
      rw [net, net_setNet, Function.update_self]
      simp only [Interface.push, WorkQueue.items_submitAll, List.filter_append, none,
        List.append_nil, queuedWorkers]
    · exact at_net net fun same => (here same).elim
  | described | describedAnew | tried | woke | polled => rw [queuedWorkers]
  | armed attached described made =>
    refine at_net rfl fun here => ?_
    subst here
    exact Interface.queue_arm made
  | beganPoll attached own made =>
    refine at_net rfl fun here => ?_
    subst here
    exact Interface.queue_arm made
  | registered | withdrew =>
    refine at_net rfl fun here => ?_
    subst here
    rfl
  | @itemTaken other item queue next => exact absurd rfl (idle other)
  | @itemFired n other key wakeup found =>
    refine at_net rfl fun here => ?_
    subst here
    exact Interface.queue_fire _ _ _ _ _

theorem untouched_move (w : v.Watched) (distinct : v.Distinguishes name) (m : Move v a later)
    (within : d < (v.net name).connections.length) (apart : ¬v.Addresses name d a)
    (idle : ∀ other, a ≠ .take other) (calm : ∀ n, a ≠ .fire n) : Untouched v later name d := by
  have kept : (later.net name).connection d = (v.net name).connection d := by
    rcases (alters_move w.placed m name d).eq_of_not_addresses within apart with
      same | ⟨n, key, fired, -⟩
    · exact same
    · exact absurd fired (calm n)
  have workers := isWorkerOf_congr (sleeps_apart w.placed m apart)
  have taken : later.taken = v.taken := by
    cases m with
    | itemTaken => exact absurd rfl (idle _)
    | itemFired => exact absurd rfl (calm _)
    | _ => rfl
  constructor
  · exact kept
  · exact registrations_move w distinct m within apart kept
  · rw [View.queuedWorkers, workers]
    exact queue_move w distinct m within kept idle
  · rw [takenWorkers, takenOf, taken, workers, takenWorkers, takenOf]

/-! What workers do -/

theorem takenWorkers_cons {n : Nat} {item : Nat × Wakeup} (found : v.taken[n]? = some (name, item))
    (own : v.isWorkerOf name d item = true) : (v.takenWorkers name d).Perm
      (item :: View.takenWorkers { v with taken := v.taken.eraseIdx n } name d) := by
  have split := (takenOf_eraseIdx found).1.filter (v.isWorkerOf name d)
  rw [List.filter_cons_of_pos own] at split
  exact split

theorem takenWorkers_eraseIdx {n : Nat} {other : String} {item : Nat × Wakeup}
    (found : v.taken[n]? = some (other, item))
    (apart : ¬(other = name ∧ v.isWorkerOf name d item = true)) :
    View.takenWorkers { v with taken := v.taken.eraseIdx n } name d = v.takenWorkers name d := by
  by_cases here : name = other
  · subst here
    have unwanted : v.isWorkerOf name d item = false :=
      Bool.eq_false_iff.2 fun own => apart ⟨rfl, own⟩
    obtain ⟨within, at_n⟩ := List.getElem?_eq_some_iff.1 found
    have rest : v.taken.eraseIdx n = v.taken.take n ++ v.taken.drop (n + 1) :=
      List.eraseIdx_eq_take_drop_succ _ _
    have split : v.taken = v.taken.take n ++ (name, item) :: v.taken.drop (n + 1) := by
      rw [← at_n, List.getElem_cons_drop, List.take_append_drop]
    generalize v.taken.take n = before, v.taken.drop (n + 1) = after at rest split
    simp only [takenWorkers, takenOf, rest]
    have same : View.isWorkerOf { v with taken := before ++ after } name d =
      v.isWorkerOf name d := rfl
    simp [split, same, unwanted]
  · have same := (takenOf_eraseIdx found).2 name here
    rw [takenWorkers, same]
    rfl

structure Called (v later : View) (name : String) (item : Nat × Wakeup) : Prop where
  told : (v.net name).Told (later.net name) v.signals later.signals [item]
  others : ∀ other d, ¬(other = name ∧ v.isWorkerOf name d item = true) →
    v.Untouched later other d
  own : ∀ d, v.isWorkerOf name d item = true →
    later.registrationsOf name d = v.registrationsOf name d ∧
      later.queuedWorkers name d = v.queuedWorkers name d ∧
      (v.takenWorkers name d).Perm (item :: later.takenWorkers name d)

theorem called_fire {n key : Nat} {wakeup : Wakeup} {i : Interface} {signals : Signals}
    (found : v.taken[n]? = some (name, key, wakeup))
    (told : (v.net name).Told i v.signals signals [(key, wakeup)])
    (queue : i.queue = (v.net name).queue) :
    Called v { v.setNet name i with signals, taken := v.taken.eraseIdx n } name (key, wakeup) := by
  have registrations (other : String) (d : Nat) :
      (v.setNet name i).registrationsOf other d = v.registrationsOf other d := by
    by_cases here : other = name
    · subst here
      have id : (i.connection d).id = ((v.net other).connection d).id := by
        rcases told.connections d with same | ⟨poll, -, -, disarmed⟩
        · rw [same]
        · rw [disarmed]
      simp only [registrationsOf, net_setNet, Function.update_self, told.notifier, id]
    · simp only [registrationsOf, net_setNet, Function.update_of_ne here]
  have queued (other : String) (d : Nat) :
      (v.setNet name i).queuedWorkers other d = v.queuedWorkers other d := by
    have same : ((v.setNet name i).net other).queue = (v.net other).queue :=
      of_setNet (motive := fun i => i.queue = (v.net other).queue)
        (fun here => by rw [here, queue]) fun _ => rfl
    rw [queuedWorkers, same]
    rfl
  constructor
  · simp only [net_setNet, Function.update_self]
    exact told
  · intro other d apart
    constructor
    · by_cases here : other = name
      · subst here
        simp only [net_setNet, Function.update_self]
        rcases told.connections d with same | ⟨poll, -, mem, -⟩
        · exact same
        · refine (apart ⟨rfl, ?_⟩).elim
          rw [← List.mem_singleton.1 mem]
          exact decide_eq_true rfl
      · simp only [net_setNet, Function.update_of_ne here]
    · exact registrations other d
    · exact queued other d
    · refine takenWorkers_eraseIdx found fun own => ?_
      obtain ⟨rfl, worker⟩ := own
      exact apart ⟨rfl, worker⟩
  · intro d own
    exact ⟨registrations name d, queued name d, takenWorkers_cons found own⟩

theorem untouched_take (m : Move v (.take name) later) (other : String) (d : Nat) :
    (later.net other).connection d = (v.net other).connection d ∧
      later.registrationsOf other d = v.registrationsOf other d ∧
      later.takenWorkers other d ++ later.queuedWorkers other d =
        v.takenWorkers other d ++ v.queuedWorkers other d := by
  cases m with
  | idle => exact ⟨rfl, rfl, rfl⟩
  | @began _ call steps offered passing unposted =>
    have calm : Undisturbed v { v with calls := v.calls ++ [call] } :=
      undisturbed_append rfl rfl rfl rfl rfl passing
    have workers : View.isWorkerOf { v with calls := v.calls ++ [call] } other d =
        v.isWorkerOf other d :=
      isWorkerOf_congr fun s key => calm.sleeps_iff other s key d
    refine ⟨rfl, rfl, ?_⟩
    rw [takenWorkers, queuedWorkers, workers]
    rfl
  | @itemTaken _ item queue next =>
    by_cases here : other = name
    · subst here
      have items := WorkQueue.items_of_next? next
      have taken := (takenOf_append (v := v) other item).1
      refine ⟨?_, ?_, ?_⟩
      · simp only [net_setNet, Function.update_self]
        rfl
      · simp only [registrationsOf, net_setNet, Function.update_self]
        rfl
      · change ((View.takenOf { v with taken := v.taken ++ [(other, item)] } other).filter
            (v.isWorkerOf other d)) ++ ((v.setNet other { v.net other with queue }).net
              other).queue.items.filter (v.isWorkerOf other d) = _
        rw [taken, net_setNet, Function.update_self, takenWorkers, queuedWorkers, items,
          List.filter_append, List.append_assoc, ← List.filter_append, List.singleton_append]
    · have taken := (takenOf_append (v := v) name item).2 other here
      refine ⟨?_, ?_, ?_⟩
      · simp only [net_setNet, Function.update_of_ne here]
      · simp only [registrationsOf, net_setNet, Function.update_of_ne here]
      · change ((View.takenOf { v with taken := v.taken ++ [(name, item)] } other).filter
            (v.isWorkerOf other d)) ++ ((v.setNet name { v.net name with queue }).net
              other).queue.items.filter (v.isWorkerOf other d) = _
        rw [taken, net_setNet, Function.update_of_ne here, takenWorkers, queuedWorkers]

end View

namespace Concurrent

variable {t : Concurrent} {a : Action} {name : String} {c d n : Nat}

structure Isolation (t : Concurrent) (name : String) : Prop where
  identities : t.view.Distinguishes name
  registrations : ∀ d, d < (t.net name).connections.length →
    ∀ r ∈ t.view.registrationsOf name d, t.view.Awaits name r d
  apart : ∀ a d, d < (t.net name).connections.length → (∀ other, a ≠ .take other) →
    (∀ n, a ≠ .fire n) → t.addressee? a ≠ some (name, d) →
      t.view.Untouched (t.act a).view name d
  created : ∀ key domain type protocol d, d < (t.net name).connections.length →
    t.view.Untouched (t.act (.step (.socket key domain type protocol))).view name d
  pushed : ∀ a c message, queues (t, a) = some (name, c, message) →
    ∃ more, ((t.act a).net name).queue.items = (t.net name).queue.items ++ more ∧
      ∀ e ∈ more, ∀ d, t.view.isWorkerOf name d e = true ↔ c = d
  taken : ∀ other d,
    ((t.act (.take other)).net name).connection d = (t.net name).connection d ∧
      (t.act (.take other)).view.registrationsOf name d = t.view.registrationsOf name d ∧
      (t.act (.take other)).view.takenWorkers name d ++
          (t.act (.take other)).view.queuedWorkers name d =
        t.view.takenWorkers name d ++ t.view.queuedWorkers name d
  called : ∀ n item, t.taken[n]? = some (name, item) →
    t.view.Called (t.act (.fire n)).view name item
  drained : (t.net name).Told ((Netlink.runWork name (t.isHeld name) t.world).2.net name)
      t.signals (Netlink.runWork name (t.isHeld name) t.world).2.signals
      (t.net name).queue.items ∧
    ∀ other, other ≠ name →
      (Netlink.runWork name (t.isHeld name) t.world).2.net other = t.net other

theorem isolation_run (fresh : t.IsFresh) (actions : List Action) (name : String)
    (few : ((t.run actions).net name).connections.length < Interface.identities) :
    (t.run actions).Isolation name := by
  have s := fresh.sound.run actions
  have w := s.watched
  have distinct : (t.run actions).view.Distinguishes name :=
    fun c d hc hd => (books_run fresh actions few).id_injective hc hd
  have apart (a : Action) (d : Nat)
      (within : d < ((t.run actions).net name).connections.length)
      (idle : ∀ other, a ≠ .take other) (calm : ∀ n, a ≠ .fire n)
      (other : (t.run actions).addressee? a ≠ some (name, d)) :
      (t.run actions).view.Untouched ((t.run actions).act a).view name d :=
    View.untouched_move w distinct (act_move s.netlink a) within
      (fun addressed => other (addressee?_eq_some.2 addressed)) idle calm
  constructor
  case identities => exact distinct
  case registrations =>
    intro d within r mem
    obtain ⟨pending, subject⟩ := List.mem_filter.1 mem
    exact View.awaits_of_subject w distinct pending within (decide_eq_true_iff.1 subject)
  case apart => exact apart
  case created =>
    intro key domain type protocol d within
    exact apart _ d within (by simp) (by simp)
      (by simp [addressee?, Action.target?, Session.Step.target?])
  case pushed =>
    intro a c message queued
    obtain ⟨net, opened, -⟩ := net_of_queues w.placed queued
    refine ⟨_, ?_, fun e mem d => View.isWorkerOf_signal w distinct opened mem⟩
    rw [net, Function.update_self]
    rfl
  case taken =>
    intro other d
    exact View.untouched_take (act_move s.netlink (.take other)) name d
  case called =>
    intro n item found
    obtain ⟨key, wakeup⟩ := item
    change (t.run actions).view.Called ((t.run actions).fire n).view name (key, wakeup)
    rw [view_fire found]
    exact View.called_fire found (Interface.told_fire _ _ _ _ _) (Interface.queue_fire _ _ _ _ _)
  case drained =>
    constructor
    · have told := Interface.told_fireAll ((t.run actions).net name) (t.run actions).signals
        ((t.run actions).isHeld name) ((t.run actions).net name).queue.items
      have net : (Netlink.runWork name ((t.run actions).isHeld name) (t.run actions).world).2.net
          name = (((t.run actions).net name).drain (t.run actions).signals
            ((t.run actions).isHeld name)).2.2.1 :=
        World.net_setNet_self _ _ _
      rw [net]
      exact told
    · intro other ne
      exact World.net_setNet_of_ne _ ne _

/-- A poll and a reader wait on one connection. Another was released and is still held; a response
is queued on it. A third one is opened on another interface. -/
def releasedBeside : List Action :=
  [.step (.register 16 "nl"), .step (.socket 0 16 3 0), .step (.socket 1 16 3 0),
    .step (.hold 1 0), .step (.close 1), .step (.descriptor 0 (Flags.single .readable) 0),
    .step (.arm 0 0), .get (.socket 0), .goOn 0, .step (.push (.held 0) [9]),
    .step (.register 16 "aside"), .step (.socket 2 16 3 0)]

theorem isolation_releasedBeside :
    (let t := (start .withRoute [("nl", Interface.defaultLimits, []),
        ("aside", Interface.defaultLimits, [])]).run releasedBeside;
      (t.net "nl").connections.length < Interface.identities ∧
        (t.net "nl").connections.length = 2 ∧
        ((t.net "nl").connection 1).references = 0 ∧ t.isHeld "nl" 1 = true ∧
        ((t.net "nl").connection 1).responses = [[9]] ∧
        (t.view.registrationsOf "nl" 0).length = 2 ∧ (t.net "nl").queue.items = [] ∧
        (t.net "aside").connections.length = 1) ∧
      ((start .withRoute [("nl", Interface.defaultLimits, []),
        ("aside", Interface.defaultLimits, [])]).run releasedBeside).Isolation "nl" :=
  ⟨by decide +kernel, isolation_run (isFresh_start _ _) _ _ (by decide +kernel)⟩

end Concurrent

end NetlinkSocket
