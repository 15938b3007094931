import NetlinkSocket.Proofs.Interleaving.Courses
import NetlinkSocket.Proofs.Interleaving.Firings

/-!
Responses are delivered in order. What was taken from a connection and what is still queued there
make up what was queued, until the last reference goes.
-/

namespace NetlinkSocket

def Stage.polls : Stage → Bool
  | polling _ | posted _ | disarmed _ => true
  | _ => false

namespace Concurrent

variable {t : Concurrent} {a : Action} {name : String} {c n : Nat}

/-- The messages queued on a connection in a run, in the order in which they were queued. -/
def added (t : Concurrent) (actions : List Action) (name : String) (c : Nat) : List Bytes :=
  (t.trace actions).filterMap (queuedOn name c)

/-- The messages taken from a connection in a run, in the order in which they were taken. -/
def delivered (t : Concurrent) (actions : List Action) (name : String) (c : Nat) : List Bytes :=
  (t.trace actions).filterMap (takenFrom name c)

theorem delivered_append (s : t.Sound) (actions : List Action)
    (lasts : ∀ step ∈ t.trace actions, endsLast name c step = false) :
    delivered t actions name c ++ (t.run actions).view.responses name c =
      t.view.responses name c ++ added t actions name c := by
  induction actions generalizing t with
  | nil => simp [delivered, added]
  | cons a actions ih =>
    have lasting : ¬t.view.EndsLast name c a := by
      rw [← endsLast_eq_true, lasts (t, a) (List.mem_cons_self ..)]
      exact Bool.false_ne_true
    have first := (flows_act s.netlink s.watched.placed a lasting).append
    have rest := ih (s.act a) fun step mem => lasts step (List.mem_cons_of_mem _ mem)
    simp only [delivered, added, trace_cons, filterMap_cons_toList, run_cons] at rest ⊢
    rw [List.append_assoc, rest, ← List.append_assoc, first, List.append_assoc]

theorem references_run (s : t.Sound) (actions : List Action)
    (within : c < (t.net name).connections.length) (gone : t.view.references name c = 0) :
    (t.run actions).view.references name c = 0 := by
  have keeps (v : View) (a : Action) (later : View) (m : Move v a later)
      (before : c < (v.net name).connections.length ∧ v.references name c = 0) :
      c < (later.net name).connections.length ∧ later.references name c = 0 :=
    ⟨Nat.lt_of_lt_of_le before.1 (View.length_le m name),
      View.references_stay m before.1 before.2⟩
  exact (run_move keeps s.netlink ⟨within, gone⟩ actions).2

theorem endsLast_once (s : t.Sound) (last : endsLast name c (t, a) = true)
    (actions : List Action) :
    ∀ step ∈ (t.act a).trace actions, endsLast name c step = false := by
  obtain ⟨s₁, key, h, rfl, ends, free, attached, rfl, counted⟩ := endsLast_eq_true.1 last
  have counted : ((t.net h.family).connection c).references = 1 := counted
  obtain ⟨lines, i, given⟩ := Interface.release_of_references (by omega :
    0 < ((t.net h.family).connection c).references)
  have view := view_of_release s.netlink ends free attached given
  have gone : (t.act (.step s₁)).view.references h.family c = 0 := by
    have left := View.references_release given c
    rw [if_pos rfl, counted] at left
    rw [view]
    change (t.view.setNet h.family i).references h.family c = 0
    rw [View.references_setNet, if_pos rfl]
    omega
  have within : c < ((t.act (.step s₁)).net h.family).connections.length :=
    Nat.lt_of_lt_of_le (s.watched.placed.of_attached attached).1
      (View.length_le (act_move s.netlink _) h.family)
  intro step mem
  obtain ⟨xs, ys, -, at_xs⟩ := mem_trace.1 mem
  have none_left := references_run (s.act _) xs within gone
  cases again : endsLast h.family c step with
  | false => rfl
  | true =>
    obtain ⟨_, _, _, _, _, _, _, _, one⟩ := endsLast_eq_true.1 again
    rw [at_xs] at one
    exact absurd (none_left.symm.trans one) (by decide)

/-- Whether a step sets up a poll, tears one down or tells one, or is a worker's. -/
def isPolling : Concurrent × Action → Bool
  | (_, .step (.arm ..)) | (_, .step (.disarm ..)) | (_, .poll ..) | (_, .take _) | (_, .fire _) =>
    true
  | (t, .goOn n) => t.calls[n]?.any fun call => call.stage.polls
  | _ => false

theorem still_of_isPolling (polling : isPolling (t, a) = true) :
    t.view.Still a ∧ takes (t, a) = none ∧ queues (t, a) = none ∧ ¬t.view.EndsLast name c a := by
  have lasting (other : ∀ key, a ≠ .step (.close key) ∧ a ≠ .step (.discard key)) :
      ¬t.view.EndsLast name c a := by
    rintro ⟨s, key, h, rfl, rfl | rfl, -⟩
    · exact (other key).1 rfl
    · exact (other key).2 rfl
  unfold isPolling at polling
  split at polling
  case h_6 u n same =>
    cases same
    obtain ⟨call, found, polls⟩ := (Option.any_eq_true _ _).1 polling
    have past : ∀ sink, call.stage ≠ .entering sink := by
      intro sink here
      rw [here] at polls
      cases polls
    have done : ∀ reply replies outcome, call.stage ≠ .replying (reply :: replies) outcome := by
      intro reply replies outcome here
      rw [here] at polls
      cases polls
    refine ⟨fun other at_n => ?_, obtains_goOn found past, queues_goOn found done,
      lasting (by simp)⟩
    cases found.symm.trans at_n
    exact ⟨past, done⟩
  case h_7 => cases polling
  all_goals
    rename_i same
    cases same
    exact ⟨trivial, rfl, rfl, lasting (by simp)⟩

structure Deliveries (t : Concurrent) (actions : List Action) (name : String) (c : Nat) : Prop where
  flows : ∀ step ∈ t.trace actions, endsLast name c step = false →
    Flows (step.1.view.responses name c) ((step.1.act step.2).view.responses name c)
      (takenFrom name c step) (queuedOn name c step)
  ordered : (∀ step ∈ t.trace actions, endsLast name c step = false) →
    delivered t actions name c ++ (t.run actions).view.responses name c = added t actions name c
  released : ∀ past a rest, actions = past ++ a :: rest → endsLast name c (t.run past, a) = true →
    delivered t past name c ++ (t.run past).view.responses name c = added t past name c ∧
      takenFrom name c (t.run past, a) = none ∧ queuedOn name c (t.run past, a) = none ∧
      (t.run (past ++ [a])).view.responses name c = [] ∧
      delivered (t.run (past ++ [a])) rest name c ++ (t.run actions).view.responses name c =
        added (t.run (past ++ [a])) rest name c
  polling : ∀ step ∈ t.trace actions, isPolling step = true →
    takes step = none ∧ queues step = none ∧
      (step.1.act step.2).view.responses name c = step.1.view.responses name c
  takers : ∀ step ∈ t.trace actions, ∀ n,
    obtains n step = if taker? step = some n then takes step else none
  courses : ∀ n call, (t.run actions).calls[n]? = some call →
    ∃ past a messages, Course t actions n call past a messages

theorem no_responses (fresh : t.IsFresh) : t.view.responses name c = [] := by
  have beyond : (t.net name).connections.length ≤ c := by simp [fresh.no_connections]
  exact congrArg Connection.responses (Interface.connection_of_le beyond)

theorem deliveries_run (fresh : t.IsFresh) (actions : List Action) (name : String) (c : Nat) :
    Deliveries t actions name c := by
  have s := fresh.sound
  constructor
  case flows =>
    intro step mem lasts
    have sound := s.of_mem_trace mem
    refine flows_act sound.netlink sound.watched.placed step.2 ?_
    rw [← endsLast_eq_true, lasts]
    exact Bool.false_ne_true
  case ordered =>
    intro lasts
    rw [delivered_append s actions lasts, no_responses fresh]
    rfl
  case released =>
    intro past a rest split last
    have before := s.run past
    obtain ⟨emptied, none_taken, none_queued⟩ :=
      responses_endsLast before.netlink (endsLast_eq_true.1 last)
    have lasts : ∀ step ∈ t.trace past, endsLast name c step = false := by
      intro step mem
      cases earlier : endsLast name c step with
      | false => rfl
      | true =>
        obtain ⟨xs, ys, rfl, at_xs⟩ := mem_trace.1 mem
        obtain ⟨u, b⟩ := step
        obtain rfl : u = t.run xs := at_xs
        have later : (t.run (xs ++ b :: ys), a) ∈ ((t.run xs).act b).trace (ys ++ [a]) :=
          mem_trace.2 ⟨ys, [], rfl, run_append t xs (b :: ys)⟩
        rw [endsLast_once (s.run xs) earlier (ys ++ [a]) _ later] at last
        cases last
    have law := delivered_append s past lasts
    have after : t.run (past ++ [a]) = (t.run past).act a := run_append t past [a]
    have again := delivered_append (before.act a) rest (endsLast_once before last rest)
    rw [no_responses fresh] at law
    rw [emptied] at again
    refine ⟨law, ?_, ?_, after ▸ emptied, ?_⟩
    · rw [takenFrom, none_taken]
      rfl
    · rw [queuedOn, none_queued]
      rfl
    · rw [split, after, run_append, run_cons]
      exact again
  case polling =>
    intro step mem polling
    obtain ⟨still, none_taken, none_queued, lasting⟩ := still_of_isPolling polling
    have netlink := (s.of_mem_trace mem).netlink
    have kept := View.responses_move (act_move netlink step.2) still name c
    exact ⟨none_taken, none_queued, kept.resolve_left lasting⟩
  case takers => exact fun step mem n => obtains_eq (s.of_mem_trace mem).netlink n step.2
  case courses => exact fun n call found => course_run fresh actions found

/-- A reader sleeps when two responses come; a receive call on another handle gets the first. -/
def readerOvertaken : List Action :=
  [.step (.register 16 "nl"), .step (.socket 0 16 3 0), .step (.duplicate 0 1), .get (.socket 0),
    .goOn 0, .step (.push (.socket 1) [1]), .step (.push (.socket 1) [2]),
    .receive 1 [0] Flags.empty none, .take "nl", .fire 0, .goOn 0, .goOn 0, .goOn 0]

theorem deliveries_readerOvertaken :
    (let t := start .withRoute [("nl", Interface.defaultLimits, [])];
      (t.trace readerOvertaken).filterMap (obtains 1) = [("nl", 0, [1])] ∧
        (t.trace readerOvertaken).filterMap (obtains 0) = [("nl", 0, [2])] ∧
        delivered t readerOvertaken "nl" 0 = [[1], [2]]) ∧
      Deliveries (start .withRoute [("nl", Interface.defaultLimits, [])]) readerOvertaken "nl" 0 :=
  ⟨by decide +kernel, deliveries_run (isFresh_start _ _) _ _ _⟩

end Concurrent

end NetlinkSocket
