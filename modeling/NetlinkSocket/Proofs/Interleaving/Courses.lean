import Mathlib.Data.List.Induction
import NetlinkSocket.Proofs.Interleaving.Transfers

/-!
The course of a call from the action that begins it: what it comes by and what it queues. A call
that asks for a response ends with the one message it came by, or with none.
-/

namespace NetlinkSocket

open Concurrent (Action)

def Concurrent.Action.sink? : Action → Option Sink
  | .receive _ buffer _ sender => some (.buffers buffer sender)
  | .get _ => some .direct
  | _ => none

def Concurrent.Action.socket? : Action → Option Int
  | .receive key .. | .poll key _ | .send key .. => some key
  | _ => none

def Stage.asks : Stage → Bool
  | entering _ | sleeping .. | woken .. | handing .. | ended (.received _) | ended (.message _) =>
    true
  | _ => false

def Stage.replies : Stage → List Bytes
  | replying replies _ => replies
  | _ => []

/-- How a call stands that an action began, and the messages it came by. -/
inductive Reads (a : Action) : Stage → List Bytes → Prop
  | entering {sink : Sink} : a.sink? = some sink → Reads a (.entering sink) []
  | sleeping {sink : Sink} {semaphore key : Nat} : a.sink? = some sink →
      Reads a (.sleeping sink semaphore key) []
  | woken {sink : Sink} {key : Nat} : a.sink? = some sink → Reads a (.woken sink key) []
  | handing {message buffer : Bytes} {sender : Option Bytes} :
      a.sink? = some (.buffers buffer sender) → Reads a (.handing message buffer sender) [message]
  | received {message buffer : Bytes} {sender : Option Bytes} (peer : Address) :
      a.sink? = some (.buffers buffer sender) →
      Reads a (.ended (.received (.ok (Netlink.handOver peer message buffer sender)))) [message]
  | failed {buffer : Bytes} {sender : Option Bytes} (stop : Stop) :
      a.sink? = some (.buffers buffer sender) →
      Reads a (.ended (.received (.error ⟨stop, buffer :: sender.toList⟩))) []
  | message (m : Option Bytes) : a.sink? = some .direct → Reads a (.ended (.message m)) m.toList
  | other {stage : Stage} : a.sink? = none → stage.asks = false → Reads a stage []

theorem Reads.length_le {a : Action} {stage : Stage} {messages : List Bytes}
    (reads : Reads a stage messages) : messages.length ≤ 1 := by
  cases reads with
  | message m => cases m <;> simp
  | _ => simp

inductive Stage.Precedes : Stage → Stage → Prop
  | took (message buffer : Bytes) (sender : Option Bytes) :
      Precedes (.entering (.buffers buffer sender)) (.handing message buffer sender)
  | got (m : Option Bytes) : Precedes (.entering .direct) (.ended (.message m))
  | registered (sink : Sink) (semaphore key : Nat) :
      Precedes (.entering sink) (.sleeping sink semaphore key)
  | refused (buffer : Bytes) (sender : Option Bytes) (stop : Stop) :
      Precedes (.entering (.buffers buffer sender))
        (.ended (.received (.error ⟨stop, buffer :: sender.toList⟩)))
  | woke (sink : Sink) (semaphore key : Nat) :
      Precedes (.sleeping sink semaphore key) (.woken sink key)
  | withdrew (sink : Sink) (key : Nat) : Precedes (.woken sink key) (.entering sink)
  | handed (peer : Address) (message buffer : Bytes) (sender : Option Bytes) :
      Precedes (.handing message buffer sender)
        (.ended (.received (.ok (Netlink.handOver peer message buffer sender))))
  | polled (fd : PollDescriptor) : Precedes (.polling fd) (.posted fd)
  | lowered (fd : PollDescriptor) : Precedes (.posted fd) (.disarmed fd)
  | unattached (fd : PollDescriptor) (stop : Stop) :
      Precedes (.posted fd) (.ended (.reported (.error stop)))
  | reported (fd : PollDescriptor) (events : Events) :
      Precedes (.disarmed fd) (.ended (.reported (.ok events)))
  | replied (reply : Bytes) (replies : List Bytes) (outcome : Outcome Nat) :
      Precedes (.replying (reply :: replies) outcome) (.replying replies outcome)
  | answered (outcome : Outcome Nat) : Precedes (.replying [] outcome) (.ended (.sent outcome))

theorem Reads.of_entering {a : Action} {sink : Sink} {stage : Stage} {messages : List Bytes}
    (reads : Reads a (.entering sink) messages)
    (next : stage = .entering sink ∨ Stage.Precedes (.entering sink) stage) :
    messages = [] ∧ Reads a stage stage.message?.toList := by
  cases reads with
  | other _ silent => cases silent
  | entering wants =>
    refine ⟨rfl, ?_⟩
    rcases next with rfl | next
    · exact .entering wants
    cases next with
    | took => exact .handing wants
    | got m => exact .message m wants
    | registered => exact .sleeping wants
    | refused => exact .failed _ wants

theorem Reads.of_precedes {a : Action} {stage later : Stage} {messages : List Bytes}
    (reads : Reads a stage messages) (past : ∀ sink, stage ≠ .entering sink)
    (next : stage.Precedes later) : Reads a later messages := by
  cases reads with
  | entering => exact absurd rfl (past _)
  | sleeping wants =>
    cases next
    exact .woken wants
  | woken wants =>
    cases next
    exact .entering wants
  | handing wants =>
    cases next
    exact .received _ wants
  | received | failed | message => cases next
  | other none silent =>
    cases next with
    | polled | lowered | unattached | reported | replied | answered => exact .other none rfl
    | _ => cases silent

namespace View

variable {v later : View} {a : Action}

theorem calls_length (m : Move v a later) :
    later.calls.length = v.calls.length ∨ ∃ call, later.calls = v.calls ++ [call] := by
  cases m with
  | began | beganTaking | beganPoll => exact .inr ⟨_, rfl⟩
  | wentOn | took | registered | woke | withdrew | polled | lowered | unattached | replied =>
    exact .inl (List.length_modify ..)
  | _ => exact .inl rfl

end View

namespace Concurrent

variable {t : Concurrent} {a : Action} {n : Nat}

theorem filterMap_cons_toList {α β : Type} (f : α → Option β) (x : α) (xs : List α) :
    (x :: xs).filterMap f = (f x).toList ++ xs.filterMap f := by
  cases h : f x <;> simp [h]

theorem filterMap_trace_append_singleton {α : Type} (f : Concurrent × Action → Option α)
    (actions : List Action) (a : Action) :
    (t.trace (actions ++ [a])).filterMap f =
      (t.trace actions).filterMap f ++ (f (t.run actions, a)).toList := by
  rw [trace_append, List.filterMap_append, trace_cons, filterMap_cons_toList, trace_nil,
    List.filterMap_nil, List.append_nil]

theorem getLast?_filterMap_trace_append_singleton {α : Type} (f : Concurrent × Action → Option α)
    (actions : List Action) (a : Action) :
    ((t.trace (actions ++ [a])).filterMap f).getLast? =
      (f (t.run actions, a)).or ((t.trace actions).filterMap f).getLast? := by
  rw [filterMap_trace_append_singleton, List.getLast?_append]
  cases f (t.run actions, a) <;> rfl

theorem getLast?_filterMap_trace_of_since {α : Type} {f : Concurrent × Action → Option α}
    {past rest : List Action} {x : α} (gives : f (t.run past, a) = some x)
    (never : ∀ step ∈ ((t.run past).act a).trace rest, f step = none) :
    ((t.trace (past ++ a :: rest)).filterMap f).getLast? = some x := by
  have silent : (((t.run past).act a).trace rest).filterMap f = [] :=
    List.filterMap_eq_nil_iff.2 never
  rw [trace_append, trace_cons, List.filterMap_append, List.filterMap_cons_some gives, silent,
    List.getLast?_concat]

theorem calls_act (netlink : t.IsNetlink) (a : Action) :
    (t.act a).calls.length = t.calls.length ∨ ∃ call, (t.act a).calls = t.calls ++ [call] :=
  View.calls_length (act_move netlink a)

theorem calls_le (netlink : t.IsNetlink) (actions : List Action) :
    t.calls.length ≤ (t.run actions).calls.length := by
  induction actions generalizing t with
  | nil => exact Nat.le_refl _
  | cons a actions ih =>
    refine Nat.le_trans ?_ (ih (netlink.act a))
    rcases calls_act netlink a with same | ⟨call, more⟩
    · exact Nat.le_of_eq same.symm
    · simp [more]

theorem getElem?_calls_act (netlink : t.IsNetlink)
    (same : (t.act a).calls.length = t.calls.length) (other : a ≠ .goOn n) :
    (t.act a).calls[n]? = t.calls[n]? := by
  by_cases bound : n < t.calls.length
  · exact View.calls_move (act_move netlink a) bound other
  · have beyond := Nat.le_of_not_lt bound
    rw [List.getElem?_eq_none beyond, List.getElem?_eq_none (by rwa [same])]

theorem begun_unique (netlink : t.IsNetlink) {past past' rest rest' : List Action} {a b : Action}
    (same : past ++ a :: rest = past' ++ b :: rest') (number : (t.run past).calls.length = n)
    (grown : n < (t.run (past ++ [a])).calls.length)
    (number' : (t.run past').calls.length = n)
    (grown' : n < (t.run (past' ++ [b])).calls.length) : past = past' ∧ a = b := by
  have earlier {xs ys : List Action} {x : Action} (first : n < (t.run (xs ++ [x])).calls.length)
      (last : (t.run (xs ++ x :: ys)).calls.length = n) : False := by
    have within := calls_le (netlink.run (xs ++ [x])) ys
    rw [← run_append_cons, last] at within
    omega
  rcases List.append_eq_append_iff.1 same with ⟨mid, later, tail⟩ | ⟨mid, later, tail⟩
  · cases mid with
    | nil =>
      rw [List.append_nil] at later
      exact ⟨later.symm, (List.cons.inj tail).1⟩
    | cons x mid =>
      obtain ⟨rfl, -⟩ := List.cons.inj tail
      rw [later] at number'
      exact (earlier grown number').elim
  · cases mid with
    | nil =>
      rw [List.append_nil] at later
      exact ⟨later, (List.cons.inj tail).1.symm⟩
    | cons x mid =>
      obtain ⟨rfl, -⟩ := List.cons.inj tail
      rw [later] at number
      exact (earlier grown' number).elim

theorem obtains_of_le (later : (t.act a).calls.length ≤ n) : obtains n (t, a) = none := by
  simp [obtains, inHand_of_le later]

theorem obtains_before (netlink : t.IsNetlink) (actions : List Action)
    (beyond : (t.run actions).calls.length ≤ n) :
    (t.trace actions).filterMap (obtains n) = [] := by
  refine List.filterMap_eq_nil_iff.2 fun step mem => obtains_of_le ?_
  obtain ⟨xs, ys, split, at_xs⟩ := mem_trace.1 mem
  have grown := calls_le ((netlink.run xs).act step.2) ys
  rw [split, run_append] at beyond
  rw [at_xs]
  exact Nat.le_trans grown beyond

theorem obtains_other (netlink : t.IsNetlink) (there : n < t.calls.length) (other : a ≠ .goOn n) :
    obtains n (t, a) = none := by
  have same : (t.act a).calls[n]? = t.calls[n]? :=
    View.calls_move (act_move netlink a) there other
  have kept : (t.act a).inHand n = t.inHand n := by rw [inHand, same, inHand]
  rw [obtains, kept]
  cases t.inHand n <;> rfl

theorem goOn_cases {call : Call} (found : t.calls[n]? = some call) :
    t.act (.goOn n) = t ∧ call.stage.replies = [] ∨
      ∃ stage w, t.act (.goOn n) = t.advance n stage w ∧
        stage.replies = call.stage.replies.tail := by
  have goes : t.act (.goOn n) = t.proceed n call call.stage := by simp only [act, goOn, found]
  rw [goes]
  generalize call.stage = stage
  unfold proceed
  split
  · split <;> exact .inr ⟨_, _, rfl, rfl⟩
  · split
    · exact .inl ⟨rfl, rfl⟩
    · exact .inr ⟨_, _, rfl, rfl⟩
  · exact .inr ⟨_, _, rfl, rfl⟩
  · exact .inr ⟨_, _, rfl, rfl⟩
  · split
    · exact .inl ⟨rfl, rfl⟩
    · exact .inr ⟨_, _, rfl, rfl⟩
  · split
    · exact .inl ⟨rfl, rfl⟩
    · split <;> exact .inr ⟨_, _, rfl, rfl⟩
  · exact .inr ⟨_, _, rfl, rfl⟩
  · exact .inr ⟨_, _, rfl, rfl⟩
  · exact .inr ⟨_, _, rfl, rfl⟩
  · exact .inl ⟨rfl, rfl⟩

theorem precedes_goOn {call later : Call} (found : t.calls[n]? = some call)
    (after : (t.act (.goOn n)).calls[n]? = some later) :
    later = call ∨ call.stage.Precedes later.stage := by
  have goes : t.act (.goOn n) = t.proceed n call call.stage := by simp only [act, goOn, found]
  have stays (same : t.calls[n]? = some later) :
      later = call ∨ call.stage.Precedes later.stage :=
    .inl (Option.some.inj (same.symm.trans found))
  have moves {stage : Stage} {w : World} (moved : (t.advance n stage w).calls[n]? = some later)
      (next : call.stage.Precedes stage) : later = call ∨ call.stage.Precedes later.stage := by
    have placed : (t.advance n stage w).calls[n]? = some { call with stage } := by
      simp [advance, found]
    rw [placed] at moved
    cases moved
    exact .inr next
  rw [goes] at after
  cases here : call.stage with
  | entering sink =>
    rw [here] at after moves
    simp only [proceed] at after
    split at after
    · exact moves after (.took _ _ _)
    · exact moves after (.got _)
    · exact moves after (.registered _ _ _)
    · exact moves after (.refused _ _ _)
    · exact moves after (.got _)
  | sleeping sink semaphore key =>
    rw [here] at after moves stays
    simp only [proceed] at after
    split at after
    · exact stays after
    · exact moves after (.woke _ _ _)
  | woken sink key =>
    rw [here] at after moves
    exact moves after (.withdrew _ _)
  | handing message buffer sender =>
    rw [here] at after moves
    exact moves after (.handed _ _ _ _)
  | polling fd =>
    rw [here] at after moves stays
    simp only [proceed] at after
    split at after
    · exact stays after
    · exact moves after (.polled _)
  | posted fd =>
    rw [here] at after moves stays
    simp only [proceed] at after
    split at after
    · exact stays after
    · split at after
      · exact moves after (.unattached _ _)
      · exact moves after (.lowered _)
  | disarmed fd =>
    rw [here] at after moves
    exact moves after (.reported _ _)
  | replying replies outcome =>
    rw [here] at after moves
    cases replies with
    | nil => exact moves after (.answered _)
    | cons reply replies => exact moves after (.replied _ _ _)
  | ended result =>
    rw [here] at after stays
    exact stays after

theorem goOn_of_none (found : t.calls[n]? = none) : t.act (.goOn n) = t := by
  simp only [act, goOn, found]

theorem length_goOn (n : Nat) : (t.act (.goOn n)).calls.length = t.calls.length := by
  cases found : t.calls[n]? with
  | none => rw [goOn_of_none found]
  | some call =>
    rcases goOn_cases found with ⟨stuck, -⟩ | ⟨stage, w, moved, -⟩
    · rw [stuck]
    · rw [moved]
      exact List.length_modify ..

theorem calls_advance {call : Call} (found : t.calls[n]? = some call) (stage : Stage) (w : World) :
    (t.advance n stage w).calls[n]? = some { call with stage } := by
  simp [advance, found]

theorem act_goOn_handing {call : Call} {message buffer : Bytes} {sender : Option Bytes}
    (found : t.calls[n]? = some call) (here : call.stage = .handing message buffer sender) :
    t.act (.goOn n) = t.advance n (.ended (.received (.ok (Netlink.handOver
      ((t.net call.interface).connection call.connection).peer message buffer sender)))) t.world := by
  simp only [act, goOn, found, here, proceed]

theorem ended_of_handing {name : String} {c : Nat} {socket : Option Int} {message buffer : Bytes}
    {sender : Option Bytes}
    (found : t.calls[n]? = some ⟨socket, name, c, .handing message buffer sender⟩) :
    (t.act (.goOn n)).calls[n]? = some ⟨socket, name, c, .ended (.received (.ok
      (Netlink.handOver ((t.net name).connection c).peer message buffer sender)))⟩ := by
  rw [act_goOn_handing found rfl]
  exact calls_advance found _ _

theorem place_goOn {call later : Call} (found : t.calls[n]? = some call)
    (after : (t.act (.goOn n)).calls[n]? = some later) :
    later.socket = call.socket ∧ later.interface = call.interface ∧
      later.connection = call.connection := by
  rcases goOn_cases found with ⟨stuck, -⟩ | ⟨stage, w, moved, -⟩
  · rw [stuck, found] at after
    cases after
    exact ⟨rfl, rfl, rfl⟩
  · rw [moved, calls_advance found] at after
    cases after
    exact ⟨rfl, rfl, rfl⟩

def handlerReplies : Concurrent × Action → List Bytes
  | (t, .send key message flags destination) =>
    match t.attached? key with
    | none => []
    | some (h, c) =>
      match Netlink.destinationOf h.family c destination t.world with
      | .error _ => []
      | .ok goal =>
        match Netlink.dispatch h.family c message flags goal t.world with
        | (.error _, _) => []
        | (.ok (replies, _), _) => replies
  | (t, .route target message flags destination) =>
    match t.session.findTarget target with
    | .error _ => []
    | .ok (name, c) =>
      (Handler.route ⟨(t.net name).connection c, message, flags, destination⟩).replies
  | _ => []

inductive Begins (t : Concurrent) : Action → Stage → Prop
  | took {key : Int} {buffer : Bytes} {flags : TransferFlags} {sender : Option Bytes}
      (message : Bytes) :
      Begins t (.receive key buffer flags sender) (.handing message buffer sender)
  | refused {key : Int} {buffer : Bytes} {flags : TransferFlags} {sender : Option Bytes}
      (stop : Stop) :
      Begins t (.receive key buffer flags sender)
        (.ended (.received (.error ⟨stop, buffer :: sender.toList⟩)))
  | entered {key : Int} {buffer : Bytes} {flags : TransferFlags} {sender : Option Bytes} :
      Begins t (.receive key buffer flags sender) (.entering (.buffers buffer sender))
  | got {target : Session.Target} : Begins t (.get target) (.entering .direct)
  | polled {key : Int} {events : Events} (fd : PollDescriptor) :
      Begins t (.poll key events) (.polling fd)
  | reported {key : Int} {events : Events} (stop : Stop) :
      Begins t (.poll key events) (.ended (.reported (.error stop)))
  | sent {key : Int} {message : Bytes} {flags : TransferFlags} {destination : Option Bytes}
      {replies : List Bytes} (outcome : Outcome Nat) :
      handlerReplies (t, .send key message flags destination) = replies →
      Begins t (.send key message flags destination) (.replying replies outcome)
  | unsent {key : Int} {message : Bytes} {flags : TransferFlags} {destination : Option Bytes}
      (failure : Failure) : handlerReplies (t, .send key message flags destination) = [] →
      Begins t (.send key message flags destination) (.ended (.sent (.error (.failed failure))))
  | routed {target : Session.Target} {message : Bytes} {flags : TransferFlags}
      {destination : Address} {replies : List Bytes} (outcome : Outcome Nat) :
      handlerReplies (t, .route target message flags destination) = replies →
      Begins t (.route target message flags destination) (.replying replies outcome)

theorem begins_of_new {call : Call} (new : (t.act a).calls = t.calls ++ [call]) :
    Begins t a call.stage ∧ call.socket = a.socket? := by
  have idle (same : (t.act a).calls.length = t.calls.length) : False := by
    rw [new] at same
    simp at same
  have begun {other : Call} {w : World} (made : t.act a = t.begin other w)
      (begins : Begins t a other.stage) (socket : other.socket = a.socket?) :
      Begins t a call.stage ∧ call.socket = a.socket? := by
    have same : other = call := by
      rw [made] at new
      simpa [begin] using new
    exact same ▸ ⟨begins, socket⟩
  cases a with
  | step s =>
    refine (idle ?_).elim
    simp only [act, step]
    split <;> rfl
  | receive key buffer flags sender =>
    have made : t.act (.receive key buffer flags sender) = t.receive key buffer flags sender := rfl
    cases found : t.attached? key with
    | none => exact (idle (by simp only [made, receive, found])).elim
    | some place =>
      simp only [receive, found] at made
      split at made
      · exact begun made (.took _) rfl
      · split at made
        · exact begun made (.refused _) rfl
        · exact begun made .entered rfl
  | get target =>
    have made : t.act (.get target) = t.get target := rfl
    cases found : t.session.findTarget target with
    | error refusal => exact (idle (by simp only [made, get, found])).elim
    | ok place =>
      simp only [get, found] at made
      exact begun made .got rfl
  | poll key events =>
    have made : t.act (.poll key events) = t.poll key events := rfl
    cases found : t.attached? key with
    | none => exact (idle (by simp only [made, poll, found])).elim
    | some place =>
      simp only [poll, found] at made
      split at made
      · exact begun made (.reported _) rfl
      · exact begun made (.polled _) rfl
  | send key message flags destination =>
    have made : t.act (.send key message flags destination) =
      t.send key message flags destination := rfl
    cases found : t.attached? key with
    | none => exact (idle (by simp only [made, send, found])).elim
    | some place =>
      simp only [send, found] at made
      split at made
      · rename_i goal
        exact begun made (.unsent _ (by simp only [handlerReplies, found, goal])) rfl
      rename_i goal
      split at made
      · rename_i answered
        exact begun made (.unsent _ (by simp only [handlerReplies, found, goal, answered])) rfl
      · rename_i answered
        exact begun made (.sent _ (by simp only [handlerReplies, found, goal, answered])) rfl
  | route target message flags destination =>
    have made : t.act (.route target message flags destination) =
      t.route target message flags destination := rfl
    cases found : t.session.findTarget target with
    | error refusal => exact (idle (by simp only [made, route, found])).elim
    | ok place =>
      simp only [route, found] at made
      exact begun made (.routed _ (by simp only [handlerReplies, found]; rfl)) rfl
  | goOn m => exact (idle (length_goOn m)).elim
  | take other =>
    refine (idle ?_).elim
    simp only [act, take]
    split <;> rfl
  | fire m =>
    refine (idle ?_).elim
    simp only [act, fire]
    split <;> rfl

theorem obtains_new {call : Call} (new : (t.act a).calls = t.calls ++ [call]) :
    obtains t.calls.length (t, a) =
      call.stage.message?.map (call.interface, call.connection, ·) := by
  simp [obtains, inHand, new]

theorem reads_begin {call : Call} (new : (t.act a).calls = t.calls ++ [call]) :
    Reads a call.stage call.stage.message?.toList := by
  have begins := (begins_of_new new).1
  generalize call.stage = stage at begins
  cases begins with
  | took => exact .handing rfl
  | refused => exact .failed _ rfl
  | entered | got => exact .entering rfl
  | _ => exact .other rfl rfl

def taker? : Concurrent × Action → Option Nat
  | (t, .receive ..) => some t.calls.length
  | (_, .goOn n) => some n
  | _ => none

/-- A message that is taken goes to one call, unless it is the answer of the step itself. -/
theorem obtains_eq (netlink : t.IsNetlink) (n : Nat) (a : Action) :
    obtains n (t, a) = if taker? (t, a) = some n then takes (t, a) else none := by
  split
  · rename_i own
    unfold taker? at own
    split at own
    · rename_i same
      cases same
      cases own
      rfl
    · rename_i same
      cases same
      cases own
      rfl
    · cases own
  · rename_i other
    by_cases there : n < t.calls.length
    · refine obtains_other netlink there ?_
      rintro rfl
      exact other rfl
    · have beyond := Nat.le_of_not_lt there
      rcases calls_act netlink a with same | ⟨call, new⟩
      · exact obtains_of_le (by rwa [same])
      · rcases Nat.eq_or_lt_of_le beyond with rfl | later
        · have silent : call.stage.message? = none := by
            have begins := (begins_of_new new).1
            generalize call.stage = stage at begins
            cases begins with
            | took => exact absurd rfl other
            | _ => rfl
          rw [obtains_new new, silent]
          rfl
        · refine obtains_of_le ?_
          rw [new, List.length_append]
          exact later

theorem obtains_entering {call later : Call} {sink : Sink} (found : t.calls[n]? = some call)
    (here : call.stage = .entering sink) (after : (t.act (.goOn n)).calls[n]? = some later) :
    obtains n (t, .goOn n) =
      later.stage.message?.map (later.interface, later.connection, ·) := by
  simp [obtains, inHand, found, here, after, Stage.message?]

theorem reads_goOn {call later : Call} {messages : List Bytes} {b : Action}
    (found : t.calls[n]? = some call) (reads : Reads b call.stage messages)
    (after : (t.act (.goOn n)).calls[n]? = some later) :
    ∃ more, Reads b later.stage (messages ++ more) ∧ (obtains n (t, .goOn n)).toList =
      more.map (later.interface, later.connection, ·) := by
  by_cases enters : ∃ sink, call.stage = .entering sink
  · obtain ⟨sink, here⟩ := enters
    rw [obtains_entering found here after]
    rw [here] at reads
    obtain ⟨rfl, still⟩ : messages = [] ∧ Reads b later.stage later.stage.message?.toList := by
      rcases precedes_goOn found after with rfl | next
      · rw [here]
        exact reads.of_entering (.inl rfl)
      · rw [here] at next
        exact reads.of_entering (.inr next)
    refine ⟨later.stage.message?.toList, still, ?_⟩
    cases later.stage.message? <;> rfl
  · have past := not_exists.1 enters
    rw [obtains_goOn found past]
    refine ⟨[], ?_, rfl⟩
    rw [List.append_nil]
    rcases precedes_goOn found after with rfl | next
    · exact reads
    · exact reads.of_precedes past next

def replyOf (n : Nat) : Concurrent × Action → Option (String × Nat × Bytes)
  | (t, .goOn m) => if m = n then queues (t, .goOn m) else none
  | _ => none

theorem replyOf_other (other : a ≠ .goOn n) : replyOf n (t, a) = none := by
  unfold replyOf
  split
  · rename_i m same
    cases same
    exact if_neg fun own => other (congrArg _ own)
  · rfl

theorem responses_of_replyOf (placed : t.view.Placed) {name : String} {c : Nat} {reply : Bytes}
    (queued : replyOf n (t, a) = some (name, c, reply)) :
    (t.act a).view.responses name c = t.view.responses name c ++ [reply] := by
  by_cases own : a = .goOn n
  · subst own
    rw [replyOf, if_pos rfl] at queued
    obtain ⟨net, within, -⟩ := net_of_queues placed queued
    change (((t.act (.goOn n)).net name).connection c).responses = _
    rw [net, Function.update_self]
    exact Interface.responses_push _ _ _ within
  · rw [replyOf_other own] at queued
    cases queued

theorem replies_goOn {call later : Call} (found : t.calls[n]? = some call)
    (after : (t.act (.goOn n)).calls[n]? = some later) :
    (replyOf n (t, .goOn n)).toList ++
        later.stage.replies.map (call.interface, call.connection, ·) =
      call.stage.replies.map (call.interface, call.connection, ·) := by
  have queued : replyOf n (t, .goOn n) =
      call.stage.replies.head?.map (call.interface, call.connection, ·) := by
    rw [replyOf, if_pos rfl]
    by_cases replies : ∃ reply left outcome, call.stage = .replying (reply :: left) outcome
    · obtain ⟨reply, left, outcome, here⟩ := replies
      obtain ⟨socket, interface, connection, stage⟩ := call
      cases here
      simp only [queues, found]
      rfl
    · have done : ∀ reply left outcome, call.stage ≠ .replying (reply :: left) outcome :=
        fun reply left outcome here => replies ⟨reply, left, outcome, here⟩
      have none : call.stage.replies = [] := by
        cases here : call.stage with
        | replying left outcome =>
          cases left with
          | nil => rfl
          | cons reply left => exact absurd here (done reply left outcome)
        | _ => rfl
      rw [queues_goOn found done, none]
      rfl
  have left : later.stage.replies = call.stage.replies.tail := by
    rcases goOn_cases found with ⟨stuck, none⟩ | ⟨stage, w, moved, left⟩
    · rw [stuck, found] at after
      cases after
      simp [none]
    · rw [moved, calls_advance found] at after
      cases after
      exact left
  rw [queued, left]
  cases call.stage.replies <;> rfl

theorem replies_begin {call : Call} (new : (t.act a).calls = t.calls ++ [call]) :
    call.stage.replies = handlerReplies (t, a) := by
  have begins := (begins_of_new new).1
  generalize call.stage = stage at begins
  cases begins with
  | sent _ replies | unsent _ replies | routed _ replies => exact replies.symm
  | _ => rfl

theorem replyOf_before (netlink : t.IsNetlink) (actions : List Action)
    (beyond : (t.run actions).calls.length ≤ n) :
    (t.trace actions).filterMap (replyOf n) = [] := by
  refine List.filterMap_eq_nil_iff.2 fun step mem => ?_
  obtain ⟨xs, ys, split, at_xs⟩ := mem_trace.1 mem
  have grown := calls_le (netlink.run xs) (step.2 :: ys)
  rw [← run_append, ← split] at grown
  have absent : step.1.calls[n]? = none := by
    rw [at_xs]
    exact List.getElem?_eq_none (Nat.le_trans grown beyond)
  obtain ⟨u, b⟩ := step
  unfold replyOf
  split
  · rename_i same
    cases same
    split
    · rename_i own
      rw [own, queues]
      simp only [absent]
    · rfl
  · rfl

/-- The course of a call: the action that began it after a part of the run, the messages it came by,
which are those that it ends with, and the replies it has queued and has left to queue, which are
those of the handler. -/
structure Course (t : Concurrent) (actions : List Action) (n : Nat) (call : Call)
    (past : List Action) (a : Action) (messages : List Bytes) : Prop where
  begun : ∃ rest, actions = past ++ a :: rest
  number : (t.run past).calls.length = n
  grown : n < (t.run (past ++ [a])).calls.length
  socket : call.socket = a.socket?
  reads : Reads a call.stage messages
  obtained : (t.trace actions).filterMap (obtains n) =
    messages.map (call.interface, call.connection, ·)
  replied : (t.trace actions).filterMap (replyOf n) ++
      call.stage.replies.map (call.interface, call.connection, ·) =
    (handlerReplies (t.run past, a)).map (call.interface, call.connection, ·)

theorem course_run (fresh : t.IsFresh) (actions : List Action) {call : Call}
    (found : (t.run actions).calls[n]? = some call) :
    ∃ past a messages, Course t actions n call past a messages := by
  induction actions using List.reverseRecOn generalizing call with
  | nil =>
    have none : t.calls = [] := fresh.calls
    rw [run_nil, none] at found
    cases found
  | append_singleton before b ih =>
    have netlink := fresh.isNetlink.run before
    have last := run_append_singleton t before b
    have trace {α : Type} (f : Concurrent × Action → Option α) :
        (t.trace (before ++ [b])).filterMap f =
          (t.trace before).filterMap f ++ (f (t.run before, b)).toList :=
      filterMap_trace_append_singleton f before b
    rw [last] at found
    -- the call was there already, or this is the action that begins it
    by_cases there : n < (t.run before).calls.length
    · obtain ⟨old, at_n⟩ : ∃ old, (t.run before).calls[n]? = some old :=
        ⟨_, List.getElem?_eq_getElem there⟩
      obtain ⟨past, a, messages, course⟩ := ih at_n
      obtain ⟨rest, split⟩ := course.begun
      have begun : before ++ [b] = past ++ a :: (rest ++ [b]) := by simp [split]
      by_cases own : b = .goOn n
      · subst own
        obtain ⟨more, reads, gets⟩ := reads_goOn at_n course.reads found
        obtain ⟨socket, interface, connection⟩ := place_goOn at_n found
        refine ⟨past, a, messages ++ more, ⟨_, begun⟩, course.number, course.grown,
          socket.trans course.socket, reads, ?_, ?_⟩
        · rw [trace, course.obtained, gets, interface, connection, List.map_append]
        · rw [trace, interface, connection, List.append_assoc, replies_goOn at_n found,
            course.replied]
      · have same : call = old := by
          have kept := View.calls_move (act_move netlink b) there own
          exact Option.some.inj (found.symm.trans (kept.trans at_n))
        subst same
        refine ⟨past, a, messages, ⟨_, begun⟩, course.number, course.grown, course.socket,
          course.reads, ?_, ?_⟩
        · rw [trace, obtains_other netlink there own, Option.toList_none, List.append_nil,
            course.obtained]
        · rw [trace, replyOf_other own, Option.toList_none, List.append_nil, course.replied]
    · have beyond := Nat.le_of_not_lt there
      have within := (List.getElem?_eq_some_iff.1 found).1
      rcases calls_act netlink b with same | ⟨new, more⟩
      · omega
      · have number : n = (t.run before).calls.length := by
          simp only [more, List.length_append, List.length_singleton] at within
          omega
        have made : call = new := by simpa [more, number, eq_comm] using found
        have idle : b ≠ .goOn n := by
          rintro rfl
          rw [length_goOn] at within
          exact there within
        subst made
        refine ⟨before, b, _, ⟨[], rfl⟩, number.symm, by rwa [last], (begins_of_new more).2,
          reads_begin more, ?_, ?_⟩
        · rw [trace, obtains_before fresh.isNetlink before beyond, number, obtains_new more]
          cases call.stage.message? <;> rfl
        · rw [trace, replyOf_before fresh.isNetlink before beyond, replyOf_other idle,
            replies_begin more]
          rfl

end Concurrent

end NetlinkSocket
