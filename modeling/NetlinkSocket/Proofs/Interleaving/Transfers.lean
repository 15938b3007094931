import NetlinkSocket.Proofs.Interleaving.Ownership

/-!
Messages on their way. A step queues a message on a connection, or hands the oldest one to a
reader, or does neither; only the end of the last handle empties a queue.
-/

namespace NetlinkSocket

open Concurrent (Action)

def Stage.message? : Stage → Option Bytes
  | handing message _ _ => some message
  | ended (.message m) => m
  | _ => none

namespace View

variable {v later : View} {a : Action}

def responses (v : View) (name : String) (c : Nat) : List Bytes :=
  ((v.net name).connection c).responses

def Still (v : View) : Action → Prop
  | .step (.push ..) | .step (.take _) | .receive .. => False
  | .goOn n => ∀ call, v.calls[n]? = some call → (∀ sink, call.stage ≠ .entering sink) ∧
      ∀ reply replies outcome, call.stage ≠ .replying (reply :: replies) outcome
  | _ => True

theorem responses_setNet (v : View) (name : String) (i : Interface) (other : String) (c : Nat) :
    (v.setNet name i).responses other c =
      if other = name then (i.connection c).responses else v.responses other c := by
  by_cases here : other = name
  · subst here
    simp [responses]
  · simp [responses, here]

theorem responses_update {i : Interface} {c : Nat} (f : Connection → Connection)
    (same : ∀ k, (f k).responses = k.responses) (d : Nat) :
    ((i.update c f).connection d).responses = (i.connection d).responses := by
  by_cases within : c < i.connections.length
  · rw [Interface.connection_update f within]
    split
    · rename_i here
      rw [same, here]
    · rfl
  · simp [Interface.connection, Interface.update, Nat.le_of_not_lt within, List.modify_eq_self]

theorem responses_disarm {i : Interface} {c : Nat} (d : Nat) :
    ((i.disarm c).connection d).responses = (i.connection d).responses := by
  rw [Interface.connection_disarm]
  split <;> simp [*]

theorem responses_open? {i j : Interface} {p : Protocol} {c : Nat}
    (h : i.open? p = (some c, j)) (d : Nat) :
    (j.connection d).responses = (i.connection d).responses := by
  obtain ⟨id, pool, -, rfl, rfl⟩ := Interface.open?_eq_some h
  rw [Interface.connection_append rfl]
  split
  · rename_i new
    rw [new, Interface.connection_of_le (Nat.le_refl _)]
    rfl
  · rfl

theorem responses_arm {i j : Interface} {s signals : Signals} {c : Nat} {fd : PollDescriptor}
    (h : i.arm s c fd = (.ok (), j, signals)) (d : Nat) :
    (j.connection d).responses = (i.connection d).responses := by
  rcases Interface.arm_cases h with ⟨-, rfl, -⟩ | ⟨-, -, rfl, -⟩ | ⟨-, -, -, -, notifier, -, rfl⟩
  · rfl
  · rfl
  · exact responses_update (i := i)
      (fun k => { k with armed := some ⟨fd.slot, fd.semaphore, i.notifier.nextKey⟩ })
      (fun _ => rfl) d

theorem responses_fire (i : Interface) (s : Signals) (isHeld : Nat → Bool) (key : Nat)
    (w : Wakeup) (d : Nat) :
    ((i.fire s isHeld key w).2.1.connection d).responses = (i.connection d).responses := by
  rcases Interface.fire_cases i s isHeld key w with same | ⟨c, poll, -, -, -, told⟩
  · rw [same]
  · rw [told]
    exact responses_update (fun k => { k with armed := none }) (fun _ => rfl) d

theorem responses_release {i j : Interface} {c : Nat} {lines : List LogLine}
    (h : i.release c = .ok (lines, j)) (d : Nat) : (j.connection d).responses =
      if d = c ∧ (i.connection c).references = 1 then [] else (i.connection d).responses := by
  rw [Interface.connection_release h]
  by_cases here : d = c
  · subst here
    by_cases last : (i.connection d).references = 1 <;> simp [Connection.released, last]
  · simp [here]

theorem responses_move (m : Move v a later) (still : v.Still a) (name : String) (c : Nat) :
    v.EndsLast name c a ∨ later.responses name c = v.responses name c := by
  have changed {n : String} {i : Interface}
      (same : ∀ d, (i.connection d).responses = ((v.net n).connection d).responses) :
      (v.setNet n i).responses name c = v.responses name c := by
    rw [responses_setNet]
    split
    · rename_i here
      rw [same, here]
      rfl
    · rfl
  cases m with
  | opened _ made => exact .inr (changed (responses_open? made))
  | duplicated _ _ counted | counted _ counted =>
    obtain ⟨-, -, rfl⟩ := Interface.addReference_eq_ok counted
    exact .inr (changed (responses_update _ fun _ => rfl))
  | @closed s key h d lines i ends free attached given =>
    by_cases last : (name = h.family ∧ c = d) ∧ ((v.net h.family).connection d).references = 1
    · obtain ⟨⟨rfl, rfl⟩, last⟩ := last
      exact .inl ⟨s, key, h, rfl, ends, free, attached, rfl, last⟩
    · refine .inr ?_
      change (v.setNet h.family i).responses name c = v.responses name c
      rw [responses_setNet]
      split
      · rename_i here
        rw [responses_release given, if_neg fun both => last ⟨⟨here, both.1⟩, both.2⟩, here]
        rfl
      · rfl
  | named f names =>
    refine .inr (changed (responses_update f fun k => ?_))
    rw [names k]
  | armed _ _ made | beganPoll _ _ made => exact .inr (changed (responses_arm made))
  | disarmed | lowered => exact .inr (changed responses_disarm)
  | itemFired => exact .inr (changed (responses_fire _ _ _ _ _))
  | registered | withdrew | itemTaken => exact .inr (changed fun _ => rfl)
  | pushed | popped | beganTaking => exact still.elim
  | took _ found here => exact absurd here ((still _ found).1 _)
  | replied found here => exact absurd here ((still _ found).2 _ _ _)
  | _ => exact .inr rfl

theorem calls_move (m : Move v a later) {n : Nat} (there : n < v.calls.length)
    (other : a ≠ .goOn n) : later.calls[n]? = v.calls[n]? := by
  cases m with
  | began | beganTaking | beganPoll => exact List.getElem?_append_left there
  | @wentOn l | @took l | @registered l | @woke l | @withdrew l | @polled l | @lowered l
  | @unattached l | @replied l =>
    have ne : l ≠ n := fun same => other (same ▸ rfl)
    simp [ne]
  | _ => rfl

end View

namespace Concurrent

variable {t : Concurrent} {a : Action} {name : String} {c n : Nat}

def queues : Concurrent × Action → Option (String × Nat × Bytes)
  | (t, .step (.push target message)) =>
    match t.session.findTarget target with
    | .error _ => none
    | .ok (name, c) => some (name, c, message)
  | (t, .goOn n) =>
    match t.calls[n]? with
    | some ⟨_, name, c, .replying (reply :: _) _⟩ => some (name, c, reply)
    | _ => none
  | _ => none

/-- The message that a call has in hand, and where it comes from. -/
def inHand (t : Concurrent) (n : Nat) : Option (String × Nat × Bytes) :=
  t.calls[n]?.bind fun call => call.stage.message?.map (call.interface, call.connection, ·)

def obtains (n : Nat) (step : Concurrent × Action) : Option (String × Nat × Bytes) :=
  if (step.1.inHand n).isSome then none else (step.1.act step.2).inHand n

def takes : Concurrent × Action → Option (String × Nat × Bytes)
  | (t, .step (.take target)) =>
    match t.session.findTarget target, (t.session.take target).1 with
    | .ok (name, c), .ok (.message (some message)) => some (name, c, message)
    | _, _ => none
  | (t, .receive key buffer flags sender) =>
    obtains t.calls.length (t, .receive key buffer flags sender)
  | (t, .goOn n) => obtains n (t, .goOn n)
  | _ => none

def ofConnection (name : String) (c : Nat) : Option (String × Nat × Bytes) → Option Bytes
  | some (other, d, message) => if other = name ∧ d = c then some message else none
  | none => none

def queuedOn (name : String) (c : Nat) (step : Concurrent × Action) : Option Bytes :=
  ofConnection name c (queues step)

def takenFrom (name : String) (c : Nat) (step : Concurrent × Action) : Option Bytes :=
  ofConnection name c (takes step)

/-- What a step makes of a queue, by what it takes from it and what it adds to it. -/
inductive Flows (before after : List Bytes) : Option Bytes → Option Bytes → Prop
  | kept : after = before → Flows before after none none
  | queued {message : Bytes} : after = before ++ [message] → Flows before after none (some message)
  | taken {message : Bytes} : before = message :: after → Flows before after (some message) none

theorem Flows.append {before after : List Bytes} {taken queued : Option Bytes}
    (f : Flows before after taken queued) :
    taken.toList ++ after = before ++ queued.toList := by
  cases f with
  | kept same => simp [same]
  | queued added => simp [added]
  | taken first => simp [first]

/-! What an action does to the queues -/

theorem flows_setNet {m : String × Nat × Bytes} {later : View} {i : Interface}
    (within : m.2.1 < (t.net m.1).connections.length) (net : later.net = (t.view.setNet m.1 i).net)
    (pushed : i = (t.net m.1).push m.2.1 m.2.2) :
    Flows (t.view.responses name c) (later.responses name c) none
      (ofConnection name c (some m)) := by
  obtain ⟨other, d, message⟩ := m
  have after : later.responses name c =
      if name = other then (i.connection c).responses else t.view.responses name c := by
    rw [← View.responses_setNet, View.responses, net, View.responses]
  rw [after]
  by_cases here : other = name
  · subst here
    rw [if_pos rfl, pushed, Interface.connection_push message within]
    by_cases same : d = c
    · subst same
      simp only [ofConnection, and_self, if_true]
      exact .queued rfl
    · simp only [ofConnection, same, and_false, if_false, Ne.symm same]
      exact .kept rfl
  · simp only [ofConnection, here, false_and, if_false, Ne.symm here]
    exact .kept rfl

theorem flows_pop? {m : String × Nat × Bytes} {later : View} {i : Interface}
    (popped : (t.net m.1).pop? m.2.1 = (some m.2.2, i))
    (net : later.net = (t.view.setNet m.1 i).net) :
    Flows (t.view.responses name c) (later.responses name c) (ofConnection name c (some m))
      none := by
  obtain ⟨other, d, message⟩ := m
  have after : later.responses name c =
      if name = other then (i.connection c).responses else t.view.responses name c := by
    rw [← View.responses_setNet, View.responses, net, View.responses]
  rw [after]
  by_cases here : other = name
  · subst here
    rw [if_pos rfl, Interface.connection_pop? popped]
    by_cases same : d = c
    · subst same
      obtain ⟨rest, queued, -⟩ := Interface.pop?_eq_some popped
      have queued : t.view.responses other d = message :: rest := queued
      simp only [ofConnection, and_self, if_true]
      refine .taken ?_
      rw [queued]
      simp [show ((t.net other).connection d).responses = message :: rest from queued]
    · simp only [ofConnection, same, and_false, if_false, Ne.symm same]
      exact .kept rfl
  · simp only [ofConnection, here, false_and, if_false, Ne.symm here]
    exact .kept rfl

theorem inHand_advance {call : Call} (found : t.calls[n]? = some call) (stage : Stage)
    (w : World) : (t.advance n stage w).inHand n =
      stage.message?.map (call.interface, call.connection, ·) := by
  simp [inHand, advance, found]

theorem obtains_goOn {call : Call} (found : t.calls[n]? = some call)
    (past : ∀ sink, call.stage ≠ .entering sink) : obtains n (t, .goOn n) = none := by
  have inHand : t.inHand n = call.stage.message?.map (call.interface, call.connection, ·) := by
    simp [Concurrent.inHand, found]
  have passes {stage : Stage} {w : World} (none : stage.message? = none) :
      (t.advance n stage w).inHand n = .none := by
    rw [inHand_advance found, none]
    rfl
  simp only [obtains, act, goOn, found, inHand]
  cases here : call.stage with
  | entering sink => exact absurd here (past sink)
  | handing message buffer sender => rfl
  | ended result => simp [proceed, inHand, here]
  | sleeping sink semaphore key =>
    simp only [Stage.message?, Option.map_none, Option.isSome_none, proceed]
    cases t.signals.take? semaphore with
    | none => simp [inHand, here, Stage.message?]
    | some signals => exact passes rfl
  | polling fd =>
    simp only [Stage.message?, Option.map_none, Option.isSome_none, proceed]
    cases t.signals.take? fd.semaphore with
    | none => simp [inHand, here, Stage.message?]
    | some signals => exact passes rfl
  | posted fd =>
    simp only [Stage.message?, Option.map_none, Option.isSome_none, proceed]
    cases call.socket.bind t.session.sockets.get? with
    | none => simp [inHand, here, Stage.message?]
    | some h =>
      simp only
      rcases (t.session.family h.family).disarm h fd t.world with ⟨stop | _, w⟩ <;>
        exact passes rfl
  | woken sink key => exact passes rfl
  | disarmed fd => exact passes rfl
  | replying replies outcome =>
    cases replies with
    | nil => exact passes rfl
    | cons reply replies => exact passes rfl

theorem net_of_queues (placed : t.view.Placed) {m : String × Nat × Bytes}
    (queued : queues (t, a) = some m) :
    (t.act a).net = Function.update t.net m.1 ((t.net m.1).push m.2.1 m.2.2) ∧
      m.2.1 < (t.net m.1).connections.length ∧ takes (t, a) = none := by
  unfold queues at queued
  split at queued
  · rename_i target message same
    cases same
    cases found : t.session.findTarget target with
    | error refusal =>
      rw [found] at queued
      cases queued
    | ok place =>
      rw [found] at queued
      cases queued
      refine ⟨?_, (placed.of_reaches (reaches_of_findTarget found)).1, rfl⟩
      change (t.inSession (t.session.push target message).2).view.net = _
      simp only [Session.push, Session.withTarget, found, Session.whenFound]
      exact World.net_setNet _ _ _
  · rename_i n same
    cases same
    split at queued
    · rename_i socket interface connection reply replies outcome found
      cases queued
      refine ⟨?_, placed.calls _ (List.mem_of_getElem? found), obtains_goOn found (by simp)⟩
      change (t.goOn n).view.net = _
      simp only [goOn, found, proceed, view_advance]
      exact World.net_setNet _ _ _
    · cases queued
  · cases queued

theorem flows_queues (placed : t.view.Placed) {m : String × Nat × Bytes}
    (queued : queues (t, a) = some m) :
    Flows (t.view.responses name c) ((t.act a).view.responses name c) (takenFrom name c (t, a))
      (queuedOn name c (t, a)) := by
  obtain ⟨net, within, none_taken⟩ := net_of_queues placed queued
  rw [takenFrom, none_taken, queuedOn, queued]
  exact flows_setNet within net rfl

theorem flows_push (target : Session.Target) (message : Bytes) (placed : t.view.Placed) :
    Flows (t.view.responses name c)
      ((t.act (.step (.push target message))).view.responses name c)
      (takenFrom name c (t, .step (.push target message)))
      (queuedOn name c (t, .step (.push target message))) := by
  cases found : t.session.findTarget target with
  | error refusal =>
    have view : (t.act (.step (.push target message))).view = t.view := by
      change (t.inSession (t.session.push target message).2).view = _
      simp only [Session.push, Session.withTarget, found, Session.whenFound]
      rfl
    have silent : queues (t, .step (.push target message)) = none := by simp only [queues, found]
    rw [view, queuedOn, silent]
    exact .kept rfl
  | ok place =>
    refine flows_queues (m := (place.1, place.2, message)) placed ?_
    simp only [queues, found]

theorem flows_take (target : Session.Target) :
    Flows (t.view.responses name c) ((t.act (.step (.take target))).view.responses name c)
      (takenFrom name c (t, .step (.take target))) none := by
  simp only [takenFrom, takes]
  change Flows _ ((t.inSession (t.session.take target).2).view.responses name c) _ _
  cases found : t.session.findTarget target with
  | error refusal =>
    simp only [Session.take, Session.withTarget, found, Session.whenFound]
    exact .kept rfl
  | ok place =>
    simp only [Session.take, Session.withTarget, found, Session.whenFound]
    rcases popped : (t.session.world.net place.1).pop? place.2 with ⟨_ | message, i⟩
    · obtain ⟨-, rfl⟩ := Interface.pop?_eq_none.1 popped
      have same := view_journal (Netlink.sameNets_setNet t.session.world place.1)
      exact .kept (congrArg (View.responses · name c) same)
    · exact flows_pop? (m := (place.1, place.2, message)) popped (World.net_setNet _ _ _)

theorem inHand_of_le (beyond : t.calls.length ≤ n) : t.inHand n = none := by
  simp [inHand, List.getElem?_eq_none beyond]

theorem flows_receive (key : Int) (buffer : Bytes) (flags : TransferFlags)
    (sender : Option Bytes) :
    Flows (t.view.responses name c)
      ((t.act (.receive key buffer flags sender)).view.responses name c)
      (takenFrom name c (t, .receive key buffer flags sender)) none := by
  have new (call : Call) (w : World) : (t.begin call w).inHand t.calls.length =
      call.stage.message?.map (call.interface, call.connection, ·) := by
    simp [inHand, begin]
  simp only [takenFrom, takes, obtains, inHand_of_le (Nat.le_refl _), act, receive]
  cases t.attached? key with
  | none =>
    simp only [inHand_of_le (Nat.le_refl _)]
    exact .kept rfl
  | some place =>
    obtain ⟨h, d⟩ := place
    simp only
    rcases popped : (t.net h.family).pop? d with ⟨_ | message, i⟩
    · obtain ⟨-, rfl⟩ := Interface.pop?_eq_none.1 popped
      have same := congrFun (Netlink.sameNets_setNet t.world h.family).1 name
      simp only [new]
      split <;> exact .kept (congrArg (fun i => (Interface.connection i c).responses) same)
    · simp only [new]
      exact flows_pop? (m := (h.family, d, message)) popped (World.net_setNet _ _ _)

theorem flows_enter {call : Call} {sink : Sink} (found : t.calls[n]? = some call)
    (here : call.stage = .entering sink) :
    Flows (t.view.responses name c) ((t.act (.goOn n)).view.responses name c)
      (takenFrom name c (t, .goOn n)) none := by
  have empty : t.inHand n = none := by simp [inHand, found, here, Stage.message?]
  have after : t.act (.goOn n) = t.proceed n call (.entering sink) := by
    simp only [act, goOn, found, here]
  simp only [takenFrom, takes, obtains, empty, after, proceed]
  rcases Netlink.enter_cases call.interface call.connection t.world with
    ⟨message, i, popped, made⟩ | ⟨key, notifier, later, -, -, made, nets, -⟩ |
      ⟨later, made, same, -⟩
  · have popped : (t.net call.interface).pop? call.connection = (some message, i) := popped
    rw [made]
    cases sink <;>
    · simp only [inHand_advance found]
      exact flows_pop? (m := (call.interface, call.connection, message)) popped
        (World.net_setNet _ _ _)
  · rw [made]
    simp only [inHand_advance found]
    refine .kept ?_
    simp only [View.responses, view_advance, nets]
    exact View.of_setNet (v := t.view)
      (motive := fun i => (i.connection c).responses = t.view.responses name c)
      (fun same => same ▸ rfl) fun _ => rfl
  · rw [made]
    have net (log : List LogLine) : (later.log log).net = t.world.net := same
    cases sink <;>
    · simp only [inHand_advance found]
      refine .kept ?_
      simp only [View.responses, view_advance, same, net]
      rfl

theorem queues_goOn {call : Call} (found : t.calls[n]? = some call)
    (past : ∀ reply replies outcome, call.stage ≠ .replying (reply :: replies) outcome) :
    queues (t, .goOn n) = none := by
  simp only [queues, found]
  split
  · rename_i same
    cases same
    exact absurd rfl (past _ _ _)
  · rfl

theorem flows_act (s : t.IsNetlink) (placed : t.view.Placed) (a : Action)
    (lasts : ¬t.view.EndsLast name c a) :
    Flows (t.view.responses name c) ((t.act a).view.responses name c) (takenFrom name c (t, a))
      (queuedOn name c (t, a)) := by
  have kept (still : t.view.Still a) : (t.act a).view.responses name c =
      t.view.responses name c :=
    (View.responses_move (act_move s a) still name c).resolve_left lasts
  cases a with
  | receive key buffer flags sender => exact flows_receive key buffer flags sender
  | goOn n =>
    cases found : t.calls[n]? with
    | none =>
      have idle : t.act (.goOn n) = t := by simp only [act, goOn, found]
      have taken : takenFrom name c (t, .goOn n) = none := by
        simp [takenFrom, takes, obtains, idle, inHand, found, ofConnection]
      have queued : queuedOn name c (t, .goOn n) = none := by
        simp [queuedOn, queues, found, ofConnection]
      rw [taken, queued, idle]
      exact .kept rfl
    | some call =>
      by_cases enters : ∃ sink, call.stage = .entering sink
      · obtain ⟨sink, here⟩ := enters
        rw [queuedOn, queues_goOn found (by simp [here])]
        exact flows_enter found here
      by_cases replies : ∃ reply replies outcome, call.stage = .replying (reply :: replies) outcome
      · obtain ⟨reply, replies, outcome, here⟩ := replies
        obtain ⟨socket, interface, connection, stage⟩ := call
        cases here
        refine flows_queues (m := (interface, connection, reply)) placed ?_
        simp only [queues, found]
      have past : ∀ sink, call.stage ≠ .entering sink := fun sink here => enters ⟨sink, here⟩
      have done : ∀ reply left outcome, call.stage ≠ .replying (reply :: left) outcome :=
        fun reply left outcome here => replies ⟨reply, left, outcome, here⟩
      rw [takenFrom, takes, obtains_goOn found past, queuedOn, queues_goOn found done]
      refine .kept (kept fun other at_n => ?_)
      cases found.symm.trans at_n
      exact ⟨past, done⟩
  | step s =>
    cases s with
    | push target message => exact flows_push target message placed
    | take target => exact flows_take target
    | _ => exact .kept (kept trivial)
  | _ => exact .kept (kept trivial)

theorem responses_endsLast (netlink : t.IsNetlink) (last : t.view.EndsLast name c a) :
    (t.act a).view.responses name c = [] ∧ takes (t, a) = none ∧ queues (t, a) = none := by
  obtain ⟨s, key, h, rfl, ends, free, attached, rfl, counted⟩ := last
  have counted : ((t.net h.family).connection c).references = 1 := counted
  obtain ⟨lines, i, given⟩ := Interface.release_of_references (by omega :
    0 < ((t.net h.family).connection c).references)
  have view := view_of_release netlink ends free attached given
  refine ⟨?_, ?_⟩
  · rw [view]
    change (t.view.setNet h.family i).responses h.family c = []
    rw [View.responses_setNet, if_pos rfl, View.responses_release given, if_pos ⟨rfl, counted⟩]
  · rcases ends with rfl | rfl <;> exact ⟨rfl, rfl⟩

end Concurrent

end NetlinkSocket
