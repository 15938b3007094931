import NetlinkSocket.Proofs.Interleaving.Alerts
import NetlinkSocket.Proofs.Interleaving.Courses
import NetlinkSocket.Proofs.Interleaving.Firings

/-!
Readers under competition. Each turn of a reader takes a response, registers or gives up; what it
registered is gone by the time it goes on, and its semaphore counts the calls of its worker.
-/

namespace NetlinkSocket

open Concurrent (Action)

namespace Sink

def taken (message : Bytes) : Sink → Stage
  | buffers buffer sender => .handing message buffer sender
  | direct => .ended (.message (some message))

inductive Refuses : Sink → Stage → Prop
  | buffers (buffer : Bytes) (sender : Option Bytes) (failure : Failure) :
      failure.errno = .brokenPipe →
      Refuses (.buffers buffer sender)
        (.ended (.received (.error ⟨.failed failure, buffer :: sender.toList⟩)))
  | direct : Refuses .direct (.ended (.message none))

end Sink

namespace Concurrent

inductive Turn (t later : Concurrent) (n : Nat) (call : Call) (sink : Sink) : Prop
  | took (message : Bytes) (rest : List Bytes) :
      ((t.net call.interface).connection call.connection).responses = message :: rest →
      ((later.net call.interface).connection call.connection).responses = rest →
      later.calls[n]? = some { call with stage := sink.taken message } → Turn t later n call sink
  | registered (s : Nat) :
      ((t.net call.interface).connection call.connection).responses = [] →
      (t.net call.interface).notifier.pending.length <
        (t.net call.interface).notifier.capacity →
      (later.net call.interface).notifier.pending = (t.net call.interface).notifier.pending ++
        [⟨(t.net call.interface).notifier.nextKey,
          ((t.net call.interface).connection call.connection).id, .reader s⟩] →
      later.signals.permits s = 0 →
      later.calls[n]? = some
        { call with stage := .sleeping sink s (t.net call.interface).notifier.nextKey } →
      Turn t later n call sink
  | refused (stage : Stage) :
      ((t.net call.interface).connection call.connection).responses = [] →
      (t.net call.interface).notifier.capacity ≤
        (t.net call.interface).notifier.pending.length →
      later.net call.interface = t.net call.interface → sink.Refuses stage →
      later.calls[n]? = some { call with stage } → Turn t later n call sink

variable {t : Concurrent} {a : Action} {n : Nat} {call : Call} {sink : Sink} {s key : Nat}
  {name : String}

theorem net_advance (stage : Stage) (w : World) : (t.advance n stage w).net = w.net := rfl

theorem turn_goOn (found : t.calls[n]? = some call) (here : call.stage = .entering sink) :
    Turn t (t.act (.goOn n)) n call sink := by
  have goes : t.act (.goOn n) = t.proceed n call (.entering sink) := by
    simp only [act, goOn, found, here]
  rw [goes]
  rcases Netlink.enter_turns call.interface call.connection t.world with
    ⟨message, i, popped, entered⟩ | ⟨notifier, empty, made, entered⟩ |
    ⟨failure, empty, full, entered⟩
  · obtain ⟨rest, queued, -⟩ := Interface.pop?_eq_some popped
    have moved : t.proceed n call (.entering sink) =
        t.advance n (sink.taken message) (t.world.setNet call.interface i) := by
      cases sink <;> simp only [proceed, entered, Sink.taken]
    rw [moved]
    refine .took message rest queued ?_ (calls_advance found _ _)
    rw [net_advance, World.net_setNet_self, Interface.connection_pop? popped, if_pos rfl, queued]
    rfl
  · have moved : t.proceed n call (.entering sink) =
        t.advance n (.sleeping sink t.world.newSemaphore.1 (t.net call.interface).notifier.nextKey)
          (t.world.newSemaphore.2.setNet call.interface
            { t.net call.interface with notifier }) := by
      cases sink <;> simp only [proceed, entered] <;> rfl
    obtain ⟨-, -, -, pending⟩ := Notifier.register_eq_ok made
    rw [moved]
    refine .registered _ empty (Notifier.length_lt_of_register made) ?_ ?_ (calls_advance found _ _)
    · rw [net_advance, World.net_setNet_self]
      exact pending
    · change t.signals.newSemaphore.2.permits t.signals.semaphores.length = 0
      rw [Signals.permits_newSemaphore, Signals.permits_of_le (Nat.le_refl _)]
  · cases sink with
    | buffers buffer sender =>
      simp only [proceed, entered]
      exact .refused _ empty full (World.net_setNet_self _ _ _) (.buffers buffer sender .waitFailed rfl)
        (calls_advance found _ _)
    | direct =>
      simp only [proceed, entered]
      exact .refused _ empty full (World.net_setNet_self _ _ _) .direct (calls_advance found _ _)

theorem Turn.registered_of_sleeping {later : Concurrent} {asleep : Call}
    (turn : Turn t later n call sink) (found : later.calls[n]? = some asleep)
    (here : asleep.stage = .sleeping sink s key) :
    key = (t.net call.interface).notifier.nextKey ∧ later.signals.permits s = 0 := by
  have stands {stage : Stage} (at_n : later.calls[n]? = some { call with stage }) :
      stage = .sleeping sink s key := by
    rw [found] at at_n
    cases at_n
    exact here
  cases turn with
  | took message rest _ _ at_n =>
    cases sink <;> cases stands at_n
  | registered _ _ _ _ unposted at_n =>
    cases stands at_n
    exact ⟨rfl, unposted⟩
  | refused stage _ _ _ refuses at_n =>
    cases stands at_n
    cases refuses

/-! A reader that sleeps -/

theorem sleeps_of_call (found : t.calls[n]? = some call)
    (here : call.stage = .sleeping sink s key) :
    t.view.Sleeps call.interface s key call.connection :=
  ⟨n, call, sink, found, rfl, rfl, here⟩

theorem callsWorker_of_posts (w : t.view.Watched) {c : Nat} (asleep : t.view.Sleeps name s key c)
    (more : t.signals.permits s < (t.act a).signals.permits s) (netlink : t.IsNetlink) :
    callsWorker name key (t, a) = true := by
  have g := w.assigned
  obtain ⟨n, owned⟩ := asleep.owns
  cases View.posts_of_move w (act_move netlink a) more with
  | ready known _ same => exact absurd same.symm (g.described_ne known owned)
  | readyCall same =>
    have below := g.owned_lt n s owned
    rw [← same] at below
    exact absurd below (Nat.lt_irrefl _)
  | @reader m other l taken =>
    obtain ⟨d, awaits⟩ := (w.readers other).reader l s (View.wakeups_of_taken taken)
    obtain ⟨rfl, rfl, -⟩ := g.sleeps_unique asleep awaits
    exact callsWorker_eq_true.2 ⟨m, _, rfl, taken⟩
  | poll _ _ armed same => exact absurd same (g.armed_ne_of_sleeps armed asleep)

theorem Sound.permits_act (t_sound : t.Sound) (found : t.calls[n]? = some call)
    (here : call.stage = .sleeping sink s key) (still : (t.act a).calls[n]? = some call) :
    (t.act a).signals.permits s =
      t.signals.permits s + if callsWorker call.interface key (t, a) then 1 else 0 := by
  have before := sleeps_of_call found here
  have after := sleeps_of_call still here
  have readers := t_sound.watched.readers call.interface
  have now := readers.sleeping s key _ before
  have later := ((t_sound.act a).watched.readers call.interface).sleeping s key _ after
  split
  · rename_i called
    have gone := absent_of_callsWorker t_sound.watched called
    obtain ⟨m, w, rfl, taken⟩ := callsWorker_eq_true.1 called
    have known : (key, w) ∈ (t.net call.interface).wakeups (t.view.takenOf call.interface) :=
      View.wakeups_of_taken (v := t.view) taken
    rcases now with ⟨-, none⟩ | ⟨absent, -⟩
    · rcases later with ⟨waits, -⟩ | ⟨-, one⟩
      · exact absurd rfl (gone _ waits)
      · change t.signals.permits s = 0 at none
        rw [none]
        exact one
    · exact absurd rfl (absent _ known)
  · rename_i quiet
    have notMore : ¬t.signals.permits s < (t.act a).signals.permits s := fun more =>
      quiet (callsWorker_of_posts t_sound.watched before more t_sound.netlink)
    rcases now with ⟨-, none⟩ | ⟨absent, one⟩
    · have unposted : t.signals.permits s = 0 := none
      omega
    · rcases later with ⟨waits, -⟩ | ⟨-, posted⟩
      · have below := (readers.reserved key (.inr ⟨s, _, before⟩)).1
        rcases (t_sound.onward [a] call.interface).wakeups _ waits with old | new
        · exact absurd rfl (absent _ old)
        · exact absurd below (Nat.not_lt.2 new)
      · exact posted.trans one.symm

/-! Calls of a worker over a whole run -/

theorem Sound.quiet_of_le (t_sound : t.Sound) (unissued : (t.net name).notifier.nextKey ≤ key) :
    callsWorker name key (t, a) = false := by
  cases called : callsWorker name key (t, a) with
  | false => rfl
  | true =>
    obtain ⟨m, w, -, taken⟩ := callsWorker_eq_true.1 called
    have known : (key, w) ∈ (t.net name).wakeups (t.view.takenOf name) :=
      View.wakeups_of_taken (v := t.view) taken
    exact absurd ((t_sound.watched.keyed name).below _ known) (Nat.not_lt.2 unissued)

theorem Sound.calls_once (t_sound : t.Sound) (name : String) (key : Nat) (actions : List Action) :
    (t.trace actions).countP (callsWorker name key) ≤ 1 := by
  induction actions generalizing t with
  | nil => exact Nat.zero_le _
  | cons a actions ih =>
    -- nothing is called under a key before the key is given out
    by_cases issued : key < (t.net name).notifier.nextKey
    · exact calls_le_one t_sound issued _
    · rw [trace_cons, List.countP_cons, t_sound.quiet_of_le (Nat.le_of_not_lt issued)]
      exact ih (t_sound.act a)

theorem Sound.unissued (t_sound : t.Sound) {actions : List Action}
    (unissued : ((t.run actions).net name).notifier.nextKey ≤ key) :
    (t.trace actions).countP (callsWorker name key) = 0 := by
  refine List.countP_eq_zero.2 fun step mem => Bool.eq_false_iff.1 ?_
  obtain ⟨xs, ys, split, at_xs⟩ := mem_trace.1 mem
  obtain ⟨u, b⟩ := step
  obtain rfl : u = t.run xs := at_xs
  refine (t_sound.run xs).quiet_of_le (Nat.le_trans ?_ unissued)
  rw [split, run_append]
  exact ((t_sound.run xs).onward _ name).nextKey

theorem Sound.call_before (t_sound : t.Sound) (found : (t.act a).calls[n]? = some call) :
    t.calls[n]? = some call ∨
      (a = .goOn n ∧ ∃ stage, t.calls[n]? = some { call with stage } ∧
        stage.Precedes call.stage) ∨
      t.calls[n]? = none ∧ Begins t a call.stage := by
  have netlink := t_sound.netlink
  by_cases there : n < t.calls.length
  · by_cases own : a = .goOn n
    · subst own
      obtain ⟨old, at_n⟩ : ∃ old, t.calls[n]? = some old := ⟨_, List.getElem?_eq_getElem there⟩
      rcases precedes_goOn at_n found with rfl | precedes
      · exact .inl at_n
      · obtain ⟨socket, interface, connection⟩ := place_goOn at_n found
        refine .inr (.inl ⟨rfl, old.stage, ?_, precedes⟩)
        rw [at_n, socket, interface, connection]
    · exact .inl ((View.calls_move (act_move netlink a) there own).symm.trans found)
  · have within := (List.getElem?_eq_some_iff.1 found).1
    rcases calls_act netlink a with same | ⟨new, more⟩
    · omega
    · have number : n = t.calls.length := by
        simp only [more, List.length_append, List.length_singleton] at within
        omega
      obtain rfl : call = new := by simpa [more, number, eq_comm] using found
      exact .inr (.inr ⟨List.getElem?_eq_none (Nat.le_of_not_lt there), (begins_of_new more).1⟩)

/-- A reader that sleeps: where it registered, and that its permits are the calls of its worker. -/
structure Asleep (t : Concurrent) (actions : List Action) (n : Nat) (call : Call) (sink : Sink)
    (s key : Nat) : Prop where
  registered : ∃ past rest, actions = past ++ .goOn n :: rest ∧
    (t.run past).calls[n]? = some { call with stage := .entering sink } ∧
    key = ((t.run past).net call.interface).notifier.nextKey ∧
    ∀ ys, ys <+: rest → (t.run (past ++ .goOn n :: ys)).calls[n]? = some call
  posted : (t.run actions).signals.permits s =
    (t.trace actions).countP (callsWorker call.interface key)

theorem asleep_run (fresh : t.IsFresh) (actions : List Action)
    (found : (t.run actions).calls[n]? = some call) (here : call.stage = .sleeping sink s key) :
    Asleep t actions n call sink s key := by
  have sound_start := fresh.sound
  induction actions using List.reverseRecOn with
  | nil =>
    rw [run_nil, fresh.calls] at found
    cases found
  | append_singleton before b ih =>
    have sound := fresh.sound.run before
    have last := run_append_singleton t before b
    have counted : (t.trace (before ++ [b])).countP (callsWorker call.interface key) =
        (t.trace before).countP (callsWorker call.interface key) +
          if callsWorker call.interface key (t.run before, b) then 1 else 0 := by
      simp [trace_append, List.countP_cons]
    rw [last] at found
    rcases sound.call_before found with still | ⟨rfl, stage, old, precedes⟩ | ⟨-, begins⟩
    · have asleep := ih still
      obtain ⟨past, rest, rfl, entered, issued, since⟩ := asleep.registered
      refine ⟨⟨past, rest ++ [b], by simp, entered, issued, fun ys part => ?_⟩, ?_⟩
      · rcases List.prefix_concat_iff.1 part with rfl | part
        · rw [← List.cons_append, ← List.append_assoc, last]
          exact found
        · exact since ys part
      · rw [last, sound.permits_act still here found, asleep.posted, counted]
    · rw [here] at precedes
      cases precedes with
      | registered =>
        obtain ⟨issued, unposted⟩ := (turn_goOn old rfl).registered_of_sleeping found here
        refine ⟨⟨before, [], rfl, old, issued, fun ys part => ?_⟩, ?_⟩
        · rw [List.prefix_nil.1 part, last]
          exact found
        · rw [last, unposted, counted, sound_start.unissued (Nat.le_of_eq issued.symm)]
          rfl
    · rw [here] at begins
      cases begins

theorem resumed_run (fresh : t.IsFresh) (actions : List Action)
    (found : (t.run actions).calls[n]? = some call) (here : call.stage = .sleeping sink s key) :
    (t.trace actions).countP (callsWorker call.interface key) = 1 ∧
        (t.run (actions ++ [.goOn n])).calls[n]? = some { call with stage := .woken sink key } ∨
      (t.trace actions).countP (callsWorker call.interface key) = 0 ∧
        t.run (actions ++ [.goOn n]) = t.run actions := by
  have posted := (asleep_run fresh actions found here).posted
  have once := fresh.sound.calls_once call.interface key actions
  have goes : (t.run actions).act (.goOn n) =
      (t.run actions).proceed n call (.sleeping sink s key) := by
    simp only [act, goOn, found, here]
  rw [run_append_singleton, goes, ← posted] at *
  simp only [proceed]
  split
  · rename_i none
    exact .inr ⟨Signals.permits_of_take?_eq_none none, rfl⟩
  · rename_i signals taken
    obtain ⟨more, -⟩ := Signals.take?_eq_some taken
    exact .inl ⟨by omega, calls_advance found _ _⟩

theorem Sound.gone_run (t_sound : t.Sound) (found : t.calls[n]? = some call)
    (here : call.stage = .sleeping sink s key) (actions : List Action) {later : Call}
    (stands : (t.run actions).calls[n]? = some later) :
    later = call ∨ ∀ e ∈ ((t.run actions).net call.interface).wakeups
      ((t.run actions).view.takenOf call.interface), e.1 ≠ key := by
  induction actions using List.reverseRecOn generalizing later with
  | nil =>
    rw [run_nil, found] at stands
    exact .inl (Option.some.inj stands).symm
  | append_singleton before b ih =>
    have sound := t_sound.run before
    have below : key < ((t.run before).net call.interface).notifier.nextKey := by
      have issued := ((t_sound.watched.readers call.interface).reserved key
        (.inr ⟨s, _, sleeps_of_call found here⟩)).1
      exact Nat.lt_of_lt_of_le issued (t_sound.onward before call.interface).nextKey
    have absent {other : Call} (at_n : (t.run before).calls[n]? = some other)
        (ne : other ≠ call) : ∀ e ∈ (((t.run before).act b).net call.interface).wakeups
          (((t.run before).act b).view.takenOf call.interface), e.1 ≠ key := by
      intro e he
      rcases (sound.onward [b] call.interface).wakeups e he with old | new
      · exact (ih at_n).resolve_left ne e old
      · exact Nat.ne_of_gt (Nat.lt_of_lt_of_le below new)
    rw [run_append_singleton] at stands ⊢
    rcases sound.call_before stands with still | ⟨rfl, stage, old, precedes⟩ | ⟨new, -⟩
    · by_cases same : later = call
      · exact .inl same
      · exact .inr (absent still same)
    · by_cases same : { later with stage } = call
      · refine .inr (((sound.act _).watched.readers call.interface).woken key ?_)
        subst same
        cases here
        cases now : later.stage with
        | woken sink' key' =>
          rw [now] at precedes
          cases precedes
          exact ⟨n, later, sink, stands, rfl, now⟩
        | _ =>
          rw [now] at precedes
          cases precedes
      · exact .inr (absent old same)
    · have there := (List.getElem?_eq_some_iff.1 found).1
      have kept := Concurrent.calls_le t_sound.netlink before
      rw [List.getElem?_eq_none_iff] at new
      omega

structure Receptions (t : Concurrent) (actions : List Action) (n : Nat) : Prop where
  turns : ∀ past rest call sink, actions = past ++ .goOn n :: rest →
    (t.run past).calls[n]? = some call → call.stage = .entering sink →
      Turn (t.run past) (t.run (past ++ [.goOn n])) n call sink
  keys : ∀ past rest name, past ++ rest <+: actions →
    ∀ r ∈ ((t.run past).net name).notifier.pending,
      r.key < ((t.run (past ++ rest)).net name).notifier.nextKey
  asleep : ∀ past call sink s key, past <+: actions → (t.run past).calls[n]? = some call →
    call.stage = .sleeping sink s key → Asleep t past n call sink s key
  resumed : ∀ past rest call sink s key, actions = past ++ .goOn n :: rest →
    (t.run past).calls[n]? = some call → call.stage = .sleeping sink s key →
      (t.trace past).countP (callsWorker call.interface key) = 1 ∧
          (t.run (past ++ [.goOn n])).calls[n]? = some { call with stage := .woken sink key } ∨
        (t.trace past).countP (callsWorker call.interface key) = 0 ∧
          t.run (past ++ [.goOn n]) = t.run past
  once : ∀ name key, (t.trace actions).countP (callsWorker name key) ≤ 1
  course : ∀ call, (t.run actions).calls[n]? = some call →
    ∃ past a messages, Course t actions n call past a messages ∧ messages.length ≤ 1
  left : ∀ past rest call sink s key later, actions = past ++ rest →
    (t.run past).calls[n]? = some call → call.stage = .sleeping sink s key →
      (t.run actions).calls[n]? = some later → later.stage ≠ .sleeping sink s key →
        ((t.run actions).net call.interface).registrations key = [] ∧
          ((t.run actions).net call.interface).jobs
            ((t.run actions).view.takenOf call.interface) key = []

theorem receptions_run (fresh : t.IsFresh) (actions : List Action) (n : Nat) :
    Receptions t actions n where
  turns := by
    rintro past rest call sink rfl found here
    rw [run_append_singleton]
    exact turn_goOn found here
  keys := by
    intro past rest name _ r mem
    have sound := fresh.sound.run past
    have below := (sound.watched.keyed name).below _ (Interface.wakeups_of_pending mem)
    rw [run_append]
    exact Nat.lt_of_lt_of_le below (sound.onward rest name).nextKey
  asleep past call sink s key _ found here := asleep_run fresh past found here
  resumed := by
    rintro past rest call sink s key rfl found here
    exact resumed_run fresh past found here
  once name key := fresh.sound.calls_once name key actions
  course := by
    intro call found
    obtain ⟨past, a, messages, course⟩ := course_run fresh actions found
    exact ⟨past, a, messages, course, course.reads.length_le⟩
  left := by
    rintro past rest call sink s key later rfl found here stands moved
    rw [run_append] at stands ⊢
    have gone := (fresh.sound.run past).gone_run found here rest stands
    refine Interface.no_places (gone.resolve_left ?_)
    rintro rfl
    exact moved here

/-- A reader is woken for a response that a receive call on another handle takes first, registers
anew and gets the next one; a second reader finds no slot. -/
def readerComesBack : List Action :=
  [.step (.register 16 "nl"), .step (.socket 0 16 3 0), .step (.duplicate 0 1), .get (.socket 0),
    .goOn 0, .step (.push (.socket 1) [1]), .receive 1 [0] Flags.empty none, .take "nl", .fire 0,
    .goOn 0, .goOn 0, .goOn 0, .receive 1 [0] Flags.empty none, .goOn 2,
    .step (.push (.socket 1) [2]), .take "nl", .fire 0, .goOn 0, .goOn 0, .goOn 0]

theorem receptions_readerComesBack :
    (let t := start .withRoute [("nl", ⟨4, 1⟩, [])];
      ((t.run (readerComesBack.take 5)).calls[0]?.map (·.stage.waits)) = some true ∧
        (t.trace readerComesBack).countP (callsWorker "nl" 1) = 1 ∧
        (t.trace readerComesBack).countP (callsWorker "nl" 2) = 1 ∧
        (t.trace readerComesBack).filterMap (obtains 0) = [("nl", 0, [2])] ∧
        ((t.run readerComesBack).calls[2]?.map (·.stage.isEnded)) = some true ∧
        (t.trace readerComesBack).filterMap (obtains 2) = []) ∧
      Receptions (start .withRoute [("nl", ⟨4, 1⟩, [])]) readerComesBack 0 :=
  ⟨by decide +kernel, receptions_run (isFresh_start _ _) _ _⟩

end Concurrent

end NetlinkSocket
