import NetlinkSocket.Proofs.Replies
import NetlinkSocket.Proofs.Interleaving.Alterations
import NetlinkSocket.Proofs.Interleaving.Courses

/-!
Requests of the routing handler. The handler serves all connections of an interface that has it, and
a call that sends it a request goes on until the reply is queued and then returns.
-/

namespace NetlinkSocket

open Concurrent (Action)

namespace View

variable {v later : View} {a : Action}

theorem handlers_move (m : Move v a later) (name : String) :
    (later.net name).handlers = (v.net name).handlers := by
  have changed {n : String} {i : Interface} (same : i.handlers = (v.net n).handlers) :
      ((v.setNet n i).net name).handlers = (v.net name).handlers :=
    of_setNet (motive := fun i => i.handlers = (v.net name).handlers) (fun here => here ▸ same)
      fun _ => rfl
  cases m with
  | opened fresh made attached built =>
    obtain ⟨id, pool, -, -, rfl⟩ := Interface.open?_eq_some made
    exact changed rfl
  | duplicated fresh attached counted | counted reached counted =>
    obtain ⟨-, -, rfl⟩ := Interface.addReference_eq_ok counted
    exact changed rfl
  | closed ends free attached given => exact changed (Interface.handlers_release given)
  | named f fields renames => exact changed rfl
  | armed attached described made => exact changed (Interface.handlers_arm made)
  | beganPoll attached fresh made => exact changed (Interface.handlers_arm made)
  | disarmed | lowered => exact changed Interface.handlers_disarm
  | pushed | replied | registered | withdrew | itemTaken => exact changed rfl
  | popped reached taken =>
    obtain ⟨rest, -, rfl⟩ := Interface.pop?_eq_some taken
    exact changed rfl
  | beganTaking attached taken =>
    obtain ⟨rest, -, rfl⟩ := Interface.pop?_eq_some taken
    exact changed rfl
  | took stage found here taken =>
    obtain ⟨rest, -, rfl⟩ := Interface.pop?_eq_some taken
    exact changed rfl
  | itemFired found => exact changed (Interface.handlers_fire _ _ _ _ _)
  | _ => rfl

structure Routed (v : View) (name : String) : Prop where
  handler : (v.net name).handlers.get? .route = some Handler.route
  protocol : ∀ c, ((v.net name).connection c).protocol = .route

theorem protocol_move {name : String} (p : v.Placed) (m : Move v a later)
    (all : ∀ c, ((v.net name).connection c).protocol = .route) (c : Nat) :
    ((later.net name).connection c).protocol = .route := by
  have before := all c
  have alters := alters_move p m name c
  generalize (v.net name).connection c = k at before alters
  generalize (later.net name).connection c = l at alters
  cases alters with
  | @opened _ _ _ _ _ protocol k beyond built =>
    obtain ⟨build, contains⟩ := built
    cases build with
    | withRoute =>
      cases protocol with
      | route => rfl
      | _ => cases contains
    | bare => cases contains
  | renamed k renames => cases renames <;> exact before
  | released k addressed =>
    rw [← before]
    unfold Connection.released
    split <;> rfl
  | _ => exact before

theorem Routed.move {name : String} (r : v.Routed name) (p : v.Placed) (m : Move v a later) :
    later.Routed name where
  handler := by rw [handlers_move m, r.handler]
  protocol := protocol_move p m r.protocol

end View

/-- How a call stands that had some replies to queue, once it has gone on so many times. -/
def Stage.afterReplies (replies : List Bytes) (outcome : Outcome Nat) (sections : Nat) : Stage :=
  if sections ≤ replies.length then .replying (replies.drop sections) outcome
  else .ended (.sent outcome)

namespace Concurrent

variable {t : Concurrent} {a : Action} {name : String} {c n : Nat}

theorem routed_run (netlink : t.IsNetlink) (placed : t.view.Placed) (routed : t.view.Routed name)
    (actions : List Action) : (t.run actions).view.Routed name := by
  have keeps (v : View) (a : Action) (later : View) (m : Move v a later)
      (before : v.Placed ∧ v.Routed name) : later.Placed ∧ later.Routed name :=
    ⟨before.1.move m, before.2.move before.1 m⟩
  exact (run_move keeps netlink ⟨placed, routed⟩ actions).2

def Action.advances (n : Nat) : Action → Bool
  | .goOn m => m = n
  | _ => false

theorem Action.advances_eq_true : a.advances n = true ↔ a = .goOn n := by
  cases a with
  | goOn m => simp [advances]
  | _ => simp [advances]

/-- The well-framed message that an action gives to the routing handler, and on which connection. -/
def request? : Concurrent × Action → Option (String × Nat × Header)
  | (t, .send key message _ destination) =>
    (t.attached? key).bind fun (h, c) =>
      if (Netlink.destinationOf h.family c destination t.world).isOk then
        (Header.parse message).toOption.map (h.family, c, ·)
      else none
  | (t, .route target message _ _) =>
    (t.place? target).bind fun (name, c) => (Header.parse message).toOption.map (name, c, ·)
  | _ => none

/-- The request that a step makes on a connection, with the port the connection has then. -/
def requestOn (name : String) (c : Nat) (step : Concurrent × Action) : Option (Header × UInt32) :=
  (request? step).bind fun (other, d, request) =>
    if other = name ∧ d = c then
      some (request, ((step.1.net name).connection c).name.portId)
    else none

def requests (t : Concurrent) (actions : List Action) (name : String) (c : Nat) :
    List (Header × UInt32) :=
  (t.trace actions).filterMap (requestOn name c)

/-! A call that has replies to queue -/

section Replying

variable {socket : Option Int} {interface : String} {connection : Nat} {left : List Bytes}
  {outcome : Outcome Nat} {k : Nat}

theorem afterReplies_goOn (found : t.calls[n]? =
      some ⟨socket, interface, connection, .afterReplies left outcome k⟩) :
    (t.act (.goOn n)).calls[n]? =
      some ⟨socket, interface, connection, .afterReplies left outcome (k + 1)⟩ := by
  have goes : t.act (.goOn n) =
      t.proceed n ⟨socket, interface, connection, .afterReplies left outcome k⟩
        (.afterReplies left outcome k) := by simp only [act, goOn, found]
  by_cases within : k ≤ left.length
  · have here : Stage.afterReplies left outcome k = .replying (left.drop k) outcome :=
      if_pos within
    rw [here] at goes found
    cases rest : left.drop k with
    | nil =>
      have last : ¬k + 1 ≤ left.length := Nat.not_le_of_lt
        (Nat.lt_succ_of_le (List.drop_eq_nil_iff.mp rest))
      rw [rest] at goes found
      rw [goes, proceed, calls_advance found, Stage.afterReplies, if_neg last]
    | cons reply more =>
      have tail : left.drop (k + 1) = more := by
        rw [← List.tail_drop, rest, List.tail_cons]
      have next : k + 1 ≤ left.length := by
        have some_left : 0 < (left.drop k).length := by simp [rest]
        rw [List.length_drop] at some_left
        omega
      rw [rest] at goes found
      rw [goes, proceed, calls_advance found, Stage.afterReplies, if_pos next, tail]
  · have here : Stage.afterReplies left outcome k = .ended (.sent outcome) := if_neg within
    have later : ¬k + 1 ≤ left.length := by omega
    rw [here] at goes found
    rw [goes, proceed, found, Stage.afterReplies, if_neg later]

theorem afterReplies_run (netlink : t.IsNetlink) (found : t.calls[n]? =
      some ⟨socket, interface, connection, .afterReplies left outcome k⟩) (actions : List Action) :
    (t.run actions).calls[n]? = some ⟨socket, interface, connection,
      .afterReplies left outcome (k + actions.countP (·.advances n))⟩ := by
  induction actions using List.reverseRecOn with
  | nil => exact found
  | append_singleton before a ih =>
    rw [run_append_singleton, List.countP_append, List.countP_singleton]
    by_cases own : a = .goOn n
    · rw [if_pos (Action.advances_eq_true.mpr own), own, ← Nat.add_assoc]
      exact afterReplies_goOn ih
    · rw [if_neg fun advances => own (Action.advances_eq_true.mp advances), Nat.add_zero]
      have there : n < (t.run before).calls.length := (List.getElem?_eq_some_iff.mp ih).1
      have kept := View.calls_move (act_move (netlink.run before) a) there own
      exact kept.trans ih

end Replying

/-! What a send begins -/

section Sending

variable {key : Int} {h : Handle Attachment} {message : Bytes} (flags : TransferFlags)
  {destination : Option Bytes} {goal : Address} {request : Header}

theorem dispatch_request (goal : Address) {w : World}
    (handler : (w.net name).handlers.get? .route = some .route)
    (protocol : ((w.net name).connection c).protocol = .route)
    (parsed : Header.parse message = .ok request) :
    ∃ later, Netlink.dispatch name c message flags goal w =
      (.ok ([Handler.routeReply request ((w.net name).connection c).name.portId],
        .ok request.length.toNat), later) := by
  simp only [Netlink.dispatch, parsed, protocol, World.net_log, handler, Netlink.consult]
  obtain ⟨result, replies⟩ := Handler.route_of_parse (d := ⟨(w.net name).connection c, message,
    flags, goal⟩) parsed
  rw [result, replies]
  exact ⟨_, rfl⟩

theorem act_send (found : t.attached? key = some (h, c))
    (reached : Netlink.destinationOf h.family c destination t.world = .ok goal)
    (routed : t.view.Routed h.family) (parsed : Header.parse message = .ok request) :
    ∃ w, Netlink.SameNets t.world w ∧ t.act (.send key message flags destination) =
      t.begin ⟨key, h.family, c,
        .replying [Handler.routeReply request ((t.net h.family).connection c).name.portId]
          (.ok request.length.toNat)⟩ w := by
  obtain ⟨w, dispatched⟩ := dispatch_request flags goal (w := t.world)
    routed.handler (routed.protocol c) parsed
  have same := Netlink.dispatch_sameNets h.family c message flags goal t.world
  rw [dispatched] at same
  refine ⟨w, same, ?_⟩
  change t.send key message flags destination = _
  simp only [send, found, reached, dispatched]
  rfl

theorem act_send_malformed {failure : Failure} (found : t.attached? key = some (h, c))
    (reached : Netlink.destinationOf h.family c destination t.world = .ok goal)
    (malformed : Header.parse message = .error failure) :
    t.act (.send key message flags destination) =
      t.begin ⟨key, h.family, c, .ended (.sent (.error (.failed failure)))⟩ t.world := by
  change t.send key message flags destination = _
  simp only [send, found, reached, Netlink.dispatch, malformed]

theorem act_send_unreached {failure : Failure} (found : t.attached? key = some (h, c))
    (unreached : Netlink.destinationOf h.family c destination t.world = .error failure) :
    t.act (.send key message flags destination) =
      t.begin ⟨key, h.family, c, .ended (.sent (.error (.failed failure)))⟩ t.world := by
  change t.send key message flags destination = _
  simp only [send, found, unreached]

theorem act_send_begins (message : Bytes) (destination : Option Bytes)
    (found : t.attached? key = some (h, c)) :
    ∃ stage w, t.act (.send key message flags destination) =
      t.begin ⟨key, h.family, c, stage⟩ w := by
  change ∃ stage w, t.send key message flags destination = _
  simp only [send, found]
  cases Netlink.destinationOf h.family c destination t.world with
  | error failure => exact ⟨_, _, rfl⟩
  | ok goal =>
    simp only
    cases Netlink.dispatch h.family c message flags goal t.world with
    | mk outcome w => cases outcome <;> exact ⟨_, _, rfl⟩

theorem requestOn_send (found : t.attached? key = some (h, c)) (name : String) (d : Nat) :
    requestOn name d (t, .send key message flags destination) =
      if (Netlink.destinationOf h.family c destination t.world).isOk ∧ h.family = name ∧ c = d then
        (Header.parse message).toOption.map (·, ((t.net name).connection d).name.portId)
      else none := by
  simp only [requestOn, request?, found, Option.bind_some]
  cases Netlink.destinationOf h.family c destination t.world with
  | error failure => rfl
  | ok goal =>
    cases Header.parse message with
    | error failure => simp [Except.toOption]
    | ok request => simp [Except.toOption, Except.isOk, Except.toBool]

end Sending

theorem replies_afterReplies (left : List Bytes) (outcome : Outcome Nat) (k : Nat) :
    (Stage.afterReplies left outcome k).replies = left.drop k := by
  unfold Stage.afterReplies
  split
  · rfl
  · rw [List.drop_of_length_le (Nat.le_of_lt (Nat.lt_of_not_le ‹_›))]
    rfl

theorem replied_of_begun (fresh : t.IsFresh) {past rest : List Action} {a : Action} {call : Call}
    (grown : (t.run past).calls.length < (t.run (past ++ [a])).calls.length)
    (found : (t.run (past ++ a :: rest)).calls[(t.run past).calls.length]? = some call) :
    (t.trace (past ++ a :: rest)).filterMap (replyOf (t.run past).calls.length) ++
        call.stage.replies.map (call.interface, call.connection, ·) =
      (handlerReplies (t.run past, a)).map (call.interface, call.connection, ·) := by
  obtain ⟨past', b, messages, course⟩ := course_run fresh _ found
  obtain ⟨rest', split⟩ := course.begun
  obtain ⟨same, action⟩ := begun_unique fresh.isNetlink split rfl grown course.number course.grown
  subst same action
  exact course.replied

theorem begun_sending (fresh : t.IsFresh) {past : List Action} {socket : Option Int}
    {interface : String} {connection k : Nat} {left : List Bytes} {outcome : Outcome Nat}
    {w : World} (begun : (t.run past).act a =
      (t.run past).begin ⟨socket, interface, connection, .afterReplies left outcome k⟩ w)
    (rest : List Action) :
    let n := (t.run past).calls.length
    let sections := k + rest.countP (·.advances n)
    (t.run (past ++ a :: rest)).calls[n]? =
        some ⟨socket, interface, connection, .afterReplies left outcome sections⟩ ∧
      (t.trace (past ++ a :: rest)).filterMap (replyOf n) ++
          (left.drop sections).map (interface, connection, ·) =
        (left.drop k).map (interface, connection, ·) := by
  intro n sections
  have new : ((t.run past).act a).calls = (t.run past).calls ++
      [⟨socket, interface, connection, .afterReplies left outcome k⟩] := congrArg calls begun
  have after := run_append_singleton t past a
  have grown : n < (t.run (past ++ [a])).calls.length := by
    rw [after, new, List.length_append]
    exact Nat.lt_succ_self _
  have there : (t.run (past ++ [a])).calls[n]? =
      some ⟨socket, interface, connection, .afterReplies left outcome k⟩ := by
    rw [after, new, List.getElem?_concat_length]
  have stands := afterReplies_run (fresh.isNetlink.run _) there rest
  rw [← run_append_cons] at stands
  have queued := replied_of_begun fresh grown stands
  rw [← replies_begin new] at queued
  simp only [replies_afterReplies] at queued
  exact ⟨stands, queued⟩

end Concurrent

end NetlinkSocket
