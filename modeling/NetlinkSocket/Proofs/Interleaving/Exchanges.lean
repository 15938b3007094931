import Mathlib.Data.List.Forall2
import NetlinkSocket.Proofs.Interleaving.Deliveries
import NetlinkSocket.Proofs.Interleaving.Routing

/-!
Requests of the routing handler and its replies. Each request on a connection makes one reply due,
and the replies of requests that are made one after another are queued in that order.
-/

namespace NetlinkSocket

open Concurrent (Action)

/-- The replies that a call owes to a connection. -/
def Call.owes (name : String) (c : Nat) (call : Call) : List Bytes :=
  if call.interface = name ∧ call.connection = c then call.stage.replies else []

namespace Concurrent

variable {t : Concurrent} {a : Action} {name : String} {c n : Nat}

def outstanding (t : Concurrent) (name : String) (c : Nat) : List Bytes :=
  t.calls.flatMap (Call.owes name c)

def replyOn (name : String) (c : Nat) : Concurrent × Action → Option Bytes
  | (t, .goOn n) => queuedOn name c (t, .goOn n)
  | _ => none

def replies (t : Concurrent) (actions : List Action) (name : String) (c : Nat) : List Bytes :=
  (t.trace actions).filterMap (replyOn name c)

/-! What calls owe to a connection -/

theorem outstanding_begin (call : Call) (w : World) :
    (t.begin call w).outstanding name c = t.outstanding name c ++ call.owes name c := by
  simp [outstanding, begin]

theorem owes_of_replies {call : Call} (silent : call.stage.replies = []) :
    call.owes name c = [] := by
  unfold Call.owes
  rw [silent]
  split <;> rfl

/-- The reply that is due for a request. -/
def dueOn (name : String) (c : Nat) (step : Concurrent × Action) : Option Bytes :=
  (requestOn name c step).map fun r => Handler.routeReply r.1 r.2

theorem outstanding_send (routed : t.view.Routed name) (key : Int) (message : Bytes)
    (flags : TransferFlags) (destination : Option Bytes) :
    (t.act (.send key message flags destination)).outstanding name c =
      t.outstanding name c ++ (dueOn name c (t, .send key message flags destination)).toList := by
  unfold dueOn
  cases found : t.attached? key with
  | none =>
    have idle : t.act (.send key message flags destination) = t := by
      change t.send key message flags destination = _
      simp only [send, found]
    simp [idle, requestOn, request?, found]
  | some place =>
    obtain ⟨h, d⟩ := place
    rw [requestOn_send flags found]
    by_cases here : h.family = name ∧ d = c
    · obtain ⟨family, same⟩ := here
      subst family same
      cases reached : Netlink.destinationOf h.family d destination t.world with
      | error failure =>
        rw [act_send_unreached flags found reached, outstanding_begin, owes_of_replies rfl]
        simp [Except.isOk, Except.toBool]
      | ok goal =>
        cases parsed : Header.parse message with
        | error failure =>
          rw [act_send_malformed flags found reached parsed, outstanding_begin, owes_of_replies rfl]
          simp [Except.toOption]
        | ok request =>
          obtain ⟨w, -, begun⟩ := act_send flags found reached routed parsed
          rw [begun, outstanding_begin]
          simp [Call.owes, Stage.replies, Except.toOption, Except.isOk, Except.toBool]
    · -- a handler of another interface may answer anything, on another connection
      obtain ⟨stage, w, begun⟩ := act_send_begins flags message destination found
      rw [begun, outstanding_begin, Call.owes, if_neg here,
        if_neg fun all => here ⟨all.2.1, all.2.2⟩]
      rfl

theorem outstanding_route (target : Session.Target) (message : Bytes) (flags : TransferFlags)
    (destination : Address) :
    (t.act (.route target message flags destination)).outstanding name c =
      t.outstanding name c ++
        (dueOn name c (t, .route target message flags destination)).toList := by
  unfold dueOn
  have act : t.act (.route target message flags destination) =
    t.route target message flags destination := rfl
  cases found : t.session.findTarget target with
  | error refusal =>
    simp [act, route, found, requestOn, request?, place?, Except.toOption]
  | ok place =>
    obtain ⟨other, d⟩ := place
    rw [act]
    simp only [route, found, Netlink.consult, outstanding_begin, requestOn, request?, place?,
      Except.toOption, Option.bind_some, Call.owes, Stage.replies]
    cases parsed : Header.parse message with
    | error failure => simp [Handler.route, parsed]
    | ok request =>
      obtain ⟨-, replies⟩ := Handler.route_of_parse
        (d := ⟨(t.world.net other).connection d, message, flags, destination⟩) parsed
      rw [replies]
      by_cases here : other = name ∧ d = c
      · obtain ⟨family, same⟩ := here
        subst family same
        simp [net]
      · simp [here]

theorem outstanding_append {later : Concurrent} {call : Call}
    (new : later.calls = t.calls ++ [call]) (silent : call.stage.replies = []) :
    later.outstanding name c = t.outstanding name c := by
  rw [outstanding, new, List.flatMap_append, List.flatMap_singleton, owes_of_replies silent,
    List.append_nil, outstanding]

theorem owes_goOn (name : String) (c : Nat) {call later : Call} (found : t.calls[n]? = some call)
    (after : (t.act (.goOn n)).calls[n]? = some later) :
    (replyOn name c (t, .goOn n)).toList ++ later.owes name c = call.owes name c := by
  obtain ⟨-, interface, connection⟩ := place_goOn found after
  have law := replies_goOn found after
  rw [replyOf, if_pos rfl] at law
  have placed {xs ys : List Bytes} (same : xs.map (call.interface, call.connection, ·) =
      ys.map (call.interface, call.connection, ·)) : xs = ys := by
    refine (List.map_inj_right fun x y eq => ?_).mp same
    exact congrArg (fun m : String × Nat × Bytes => m.2.2) eq
  simp only [replyOn, queuedOn, Call.owes, interface, connection]
  cases queued : queues (t, .goOn n) with
  | none =>
    rw [queued] at law
    rw [placed law]
    rfl
  | some m =>
    rw [queued] at law
    cases owed : call.stage.replies with
    | nil => simp [owed] at law
    | cons reply more =>
      rw [owed] at law
      obtain ⟨first, rest⟩ := List.cons.inj law
      rw [placed rest, first, ofConnection]
      split <;> rfl

theorem outstanding_goOn (netlink : t.IsNetlink) (n : Nat) :
    ((replyOn name c (t, .goOn n)).toList ++ (t.act (.goOn n)).outstanding name c).Perm
      (t.outstanding name c) := by
  cases found : t.calls[n]? with
  | none =>
    have silent : replyOn name c (t, .goOn n) = none := by
      simp [replyOn, queuedOn, queues, found, ofConnection]
    rw [silent, goOn_of_none found]
    exact .refl _
  | some call =>
    obtain ⟨there, here⟩ := List.getElem?_eq_some_iff.mp found
    have within : n < (t.act (.goOn n)).calls.length := by rwa [length_goOn]
    obtain ⟨later, after⟩ : ∃ later, (t.act (.goOn n)).calls[n]? = some later :=
      ⟨_, List.getElem?_eq_getElem within⟩
    have others : (t.act (.goOn n)).calls = t.calls.set n later := by
      apply List.ext_getElem?
      intro m
      by_cases own : m = n
      · rw [own, after, List.getElem?_set_self there]
      · rw [List.getElem?_set_ne (Ne.symm own)]
        apply getElem?_calls_act netlink (length_goOn n)
        intro same
        cases same
        exact own rfl
    have before : t.calls = t.calls.take n ++ call :: t.calls.drop (n + 1) := by
      rw [← here, List.getElem_cons_drop, List.take_append_drop]
    have owed := owes_goOn name c found after
    rw [outstanding, outstanding, others, List.set_eq_take_append_cons_drop, if_pos there]
    conv => rhs; rw [before]
    simp only [List.flatMap_append, List.flatMap_cons, ← owed, List.append_assoc]
    exact List.perm_append_comm_assoc _ _ _

theorem outstanding_quiet (netlink : t.IsNetlink) (silent : handlerReplies (t, a) = [])
    (other : ∀ n, a ≠ .goOn n) : (t.act a).outstanding name c = t.outstanding name c := by
  rcases calls_act netlink a with same | ⟨call, new⟩
  · have stay : (t.act a).calls = t.calls :=
      List.ext_getElem? fun m => getElem?_calls_act netlink same (other m)
    rw [outstanding, stay, outstanding]
  · exact outstanding_append new ((replies_begin new).trans silent)

theorem outstanding_act (netlink : t.IsNetlink) (routed : t.view.Routed name) (a : Action) :
    ((replyOn name c (t, a)).toList ++ (t.act a).outstanding name c).Perm
      (t.outstanding name c ++ (dueOn name c (t, a)).toList) := by
  have quiet (silent : handlerReplies (t, a) = []) (other : ∀ n, a ≠ .goOn n)
      (unqueued : replyOn name c (t, a) = none) (undue : dueOn name c (t, a) = none) :
      ((replyOn name c (t, a)).toList ++ (t.act a).outstanding name c).Perm
        (t.outstanding name c ++ (dueOn name c (t, a)).toList) := by
    rw [unqueued, undue, outstanding_quiet netlink silent other, Option.toList_none,
      List.append_nil, List.nil_append]
  cases a with
  | goOn n =>
    have undue : dueOn name c (t, .goOn n) = none := rfl
    rw [undue, Option.toList_none, List.append_nil]
    exact outstanding_goOn netlink n
  | send key message flags destination =>
    rw [outstanding_send routed]
    exact .refl _
  | route target message flags destination =>
    rw [outstanding_route]
    exact .refl _
  | step | receive | get | poll | take | fire => exact quiet rfl nofun rfl rfl

def due (t : Concurrent) (actions : List Action) (name : String) (c : Nat) : List Bytes :=
  (t.trace actions).filterMap (dueOn name c)

theorem replies_perm (s : t.Sound) (routed : t.view.Routed name) (actions : List Action) :
    (replies t actions name c ++ (t.run actions).outstanding name c).Perm
      (t.outstanding name c ++ due t actions name c) := by
  induction actions generalizing t with
  | nil => simp [replies, due]
  | cons a actions ih =>
    have first := outstanding_act (c := c) s.netlink routed a
    have rest := ih (s.act a) (routed_run s.netlink s.watched.placed routed [a])
    unfold replies due at rest ⊢
    simp only [trace_cons, filterMap_cons_toList, run_cons]
    rw [List.append_assoc, ← List.append_assoc (t.outstanding name c)]
    refine (rest.append_left _).trans ?_
    rw [← List.append_assoc]
    exact first.append_right _

/-- Whether nothing is outstanding on a connection whenever a request is made there. -/
def InTurn (t : Concurrent) (actions : List Action) (name : String) (c : Nat) : Prop :=
  ∀ step ∈ t.trace actions, (requestOn name c step).isSome → step.1.outstanding name c = []

theorem eq_of_perm_short {α : Type} {xs ys : List α} (perm : xs.Perm ys) (short : ys.length ≤ 1) :
    xs = ys := by
  cases ys with
  | nil => exact perm.eq_nil
  | cons y ys =>
    cases ys with
    | nil => exact List.perm_singleton.mp perm
    | cons z zs => simp at short

theorem replies_inTurn (s : t.Sound) (routed : t.view.Routed name)
    (short : (t.outstanding name c).length ≤ 1) (actions : List Action)
    (inTurn : InTurn t actions name c) :
    replies t actions name c ++ (t.run actions).outstanding name c =
      t.outstanding name c ++ due t actions name c := by
  induction actions generalizing t with
  | nil => simp [replies, due]
  | cons a actions ih =>
    -- at most one reply is outstanding or due, so the permutation leaves no choice
    have bound : (t.outstanding name c ++ (dueOn name c (t, a)).toList).length ≤ 1 := by
      have turn := inTurn (t, a) (List.mem_cons_self ..)
      unfold dueOn
      cases asked : requestOn name c (t, a) with
      | none => simpa using short
      | some r =>
        rw [turn (by simp [asked])]
        simp
    have first := eq_of_perm_short (outstanding_act (c := c) s.netlink routed a) bound
    have later : ((t.act a).outstanding name c).length ≤ 1 := by
      rw [← first, List.length_append] at bound
      omega
    have rest := ih (s.act a) (routed_run s.netlink s.watched.placed routed [a]) later
      fun step mem => inTurn step (List.mem_cons_of_mem _ mem)
    unfold replies due at rest ⊢
    simp only [trace_cons, filterMap_cons_toList, run_cons]
    rw [List.append_assoc, rest, ← List.append_assoc, first, List.append_assoc]

theorem due_eq_map (t : Concurrent) (actions : List Action) (name : String) (c : Nat) :
    due t actions name c =
      (requests t actions name c).map fun r => Handler.routeReply r.1 r.2 := by
  unfold due requests dueOn
  rw [List.map_filterMap]

theorem due_requests (t : Concurrent) (actions : List Action) (name : String) (c : Nat) :
    List.Forall₂ (fun r reply => ∃ head, r.1.RepliedBy r.2 reply head)
      (requests t actions name c) (due t actions name c) := by
  rw [due_eq_map, List.forall₂_map_right_iff, List.forall₂_same]
  intro r mem
  exact Handler.repliedBy_routeReply r.1 r.2

theorem replies_sublist (t : Concurrent) (actions : List Action) (name : String) (c : Nat) :
    (replies t actions name c).Sublist (added t actions name c) := by
  have own : replies t actions name c =
      ((t.trace actions).filter fun step => (replyOn name c step).isSome).filterMap
        (queuedOn name c) := by
    unfold replies
    rw [List.filterMap_filter]
    apply List.filterMap_congr
    intro step mem
    obtain ⟨u, a⟩ := step
    cases a with
    | goOn n =>
      have queued : replyOn name c (u, .goOn n) = queuedOn name c (u, .goOn n) := rfl
      rw [queued]
      by_cases some : (queuedOn name c (u, .goOn n)).isSome
      · rw [if_pos some]
      · rw [if_neg some, Option.not_isSome_iff_eq_none.mp some]
    | _ => rfl
  rw [own]
  exact List.filter_sublist.filterMap _

theorem added_eq_replies {actions : List Action}
    (unpushed : ∀ step ∈ t.trace actions, ∀ target message,
      step.2 = .step (.push target message) → queuedOn name c step = none) :
    added t actions name c = replies t actions name c := by
  unfold added replies
  apply List.filterMap_congr
  intro step mem
  obtain ⟨u, a⟩ := step
  cases a with
  | step s =>
    cases s with
    | push target message => exact unpushed _ mem target message rfl
    | _ => rfl
  | _ => rfl

structure Exchanges (t : Concurrent) (actions : List Action) (name : String) (c : Nat) : Prop where
  accepted : ∀ past rest key message flags destination h goal request,
    actions = past ++ .send key message flags destination :: rest →
    (t.run past).attached? key = some (h, c) → h.family = name →
    (((t.run past).net name).connection c).Destined destination goal →
    Header.parse message = .ok request →
    16 ≤ request.length.toNat ∧ request.length.toNat ≤ message.length ∧
      request.encode = message.take 16 ∧ ∃ reply head,
        request.RepliedBy (((t.run past).net name).connection c).name.portId reply head ∧
        (t.run actions).calls[(t.run past).calls.length]? = some ⟨key, name, c,
          .afterReplies [reply] (.ok request.length.toNat)
            (rest.countP (·.advances (t.run past).calls.length))⟩ ∧
        (t.trace actions).filterMap (replyOf (t.run past).calls.length) =
          if rest.countP (·.advances (t.run past).calls.length) = 0 then []
          else [(name, c, reply)]
  rejected : ∀ past rest key message flags destination h goal failure,
    actions = past ++ .send key message flags destination :: rest →
    (t.run past).attached? key = some (h, c) → h.family = name →
    (((t.run past).net name).connection c).Destined destination goal →
    Header.parse message = .error failure →
    failure.errno = .invalidArgument ∧
      (t.run actions).calls[(t.run past).calls.length]? =
        some ⟨key, name, c, .ended (.sent (.error (.failed failure)))⟩ ∧
      (t.trace actions).filterMap (replyOf (t.run past).calls.length) = [] ∧
      ((t.run past).act (.send key message flags destination)).net = (t.run past).net
  appended : ∀ step ∈ t.trace actions, ∀ n reply, replyOf n step = some (name, c, reply) →
    (step.1.act step.2).view.responses name c = step.1.view.responses name c ++ [reply]
  matched : ∃ due, List.Forall₂ (fun r reply => ∃ head, r.1.RepliedBy r.2 reply head)
      (requests t actions name c) due ∧
    (replies t actions name c ++ (t.run actions).outstanding name c).Perm due ∧
    (InTurn t actions name c →
      replies t actions name c ++ (t.run actions).outstanding name c = due)
  delivered : (∀ step ∈ t.trace actions, endsLast name c step = false) →
    delivered t actions name c ++ (t.run actions).view.responses name c = added t actions name c ∧
      (replies t actions name c).Sublist (added t actions name c) ∧
      ((∀ step ∈ t.trace actions, ∀ target message,
        step.2 = .step (.push target message) → queuedOn name c step = none) →
      added t actions name c = replies t actions name c)

theorem exchanges_run (fresh : t.IsFresh)
    (routed : (t.net name).handlers.get? .route = some Handler.route) (actions : List Action)
    (c : Nat) : Exchanges t actions name c := by
  have s := fresh.sound
  have start : t.view.Routed name := by
    refine ⟨routed, fun d => ?_⟩
    have beyond : (t.net name).connections.length ≤ d := by simp [fresh.no_connections]
    exact congrArg Connection.protocol (Interface.connection_of_le beyond)
  have idle : t.outstanding name c = [] := by
    rw [outstanding, fresh.calls]
    rfl
  constructor
  case accepted =>
    intro past rest key message flags destination h goal request split found family reached parsed
    subst split family
    obtain ⟨reaches, within, echoed⟩ := Header.parse_eq_ok parsed
    obtain ⟨head, replied⟩ := Handler.repliedBy_routeReply request
      (((t.run past).net h.family).connection c).name.portId
    have routed_past := routed_run s.netlink s.watched.placed start past
    obtain ⟨w, -, begun⟩ :=
      act_send flags found (Netlink.destinationOf_eq_ok.2 reached) routed_past parsed
    obtain ⟨stands, queued⟩ := begun_sending (k := 0) fresh begun rest
    rw [Nat.zero_add] at stands queued
    refine ⟨reaches, within, echoed, _, head, replied, stands, ?_⟩
    split
    · rename_i none
      rw [none] at queued
      simpa using queued
    · rename_i some
      rw [List.drop_of_length_le (Nat.pos_of_ne_zero some)] at queued
      simpa using queued
  case rejected =>
    intro past rest key message flags destination h goal failure split found family reached
      malformed
    subst split family
    -- a call that has failed stands like one whose replies are all queued
    have begun : (t.run past).act (.send key message flags destination) =
        (t.run past).begin ⟨key, h.family, c, .afterReplies [] (.error (.failed failure)) 1⟩
          (t.run past).world :=
      act_send_malformed flags found (Netlink.destinationOf_eq_ok.2 reached) malformed
    obtain ⟨stands, queued⟩ := begun_sending fresh begun rest
    have ended : ¬1 + rest.countP (·.advances (t.run past).calls.length) ≤ 0 := by omega
    refine ⟨Header.errno_of_parse malformed, ?_, ?_, ?_⟩
    · rw [stands, Stage.afterReplies, List.length_nil, if_neg ended]
    · simpa using queued
    · rw [begun]
      rfl
  case appended =>
    intro step mem n reply queued
    exact responses_of_replyOf (s.of_mem_trace mem).watched.placed queued
  case matched =>
    refine ⟨due t actions name c, due_requests t actions name c, ?_, ?_⟩
    · have perm := replies_perm (c := c) s start actions
      rwa [idle, List.nil_append] at perm
    · intro inTurn
      have order := replies_inTurn s start (by simp [idle]) actions inTurn
      rwa [idle, List.nil_append] at order
  case delivered =>
    intro lasts
    have law := delivered_append s actions lasts
    rw [no_responses fresh, List.nil_append] at law
    exact ⟨law, replies_sublist t actions name c, added_eq_replies⟩

def allLinks : Header := ⟨16, 18, 0x301, 17, 0⟩

def newLink : Header := ⟨16, 16, 0x1, 18, 0⟩

/-- Two requests through two handles; between the first and its reply the connection is bound
again. -/
def reboundMeanwhile : List Action :=
  [.step (.register 16 "nl"), .step (.socket 0 16 3 0), .step (.duplicate 0 1),
    .step (.bind 0 (Address.encode ⟨0, 0⟩) 7), .send 0 allLinks.encode Flags.empty none,
    .step (.bind 1 (Address.encode ⟨9, 0⟩) 7), .goOn 0, .goOn 0,
    .send 0 [16, 0] Flags.empty none,
    .send 1 newLink.encode Flags.empty (some (Address.encode ⟨0, 0⟩)), .goOn 2,
    .receive 0 [0, 0] Flags.empty none, .goOn 2]

theorem exchanges_reboundMeanwhile :
    (let t := start .withRoute [("nl", Interface.defaultLimits, [])];
      requests t reboundMeanwhile "nl" 0 = [(allLinks, 7), (newLink, 9)] ∧
        replies t reboundMeanwhile "nl" 0 =
          [allLinks.doneReply 7, newLink.errorReply 9 .operationUnsupported] ∧
        delivered t reboundMeanwhile "nl" 0 = [allLinks.doneReply 7]) ∧
      Exchanges (start .withRoute [("nl", Interface.defaultLimits, [])]) reboundMeanwhile "nl" 0 :=
  ⟨by decide +kernel, exchanges_run (isFresh_start _ _) rfl _ _⟩

end Concurrent

end NetlinkSocket
