import NetlinkSocket.Proofs.Records
import NetlinkSocket.Proofs.Interleaving.Admissions
import NetlinkSocket.Proofs.Interleaving.Deliveries
import NetlinkSocket.Proofs.Interleaving.Routing

/-!
Which handler a send reaches. Handlers are installed before a session starts, and no connection has
another protocol than the routing one; so every send that is addressed and framed well goes to the
handler that was installed last for routing, once, and no other handler is ever asked.
-/

namespace NetlinkSocket

open Concurrent (Action)

def Handler.forRoute (installed : List (Protocol × Handler)) : Handler :=
  installed.foldl (fun current h => if h.1 = .route then h.2 else current) route

theorem Handler.calls_route (d : Delivery) : (route d).calls = [] := by
  unfold route
  split <;> rfl

theorem Table.get?_installed (installed : List (Protocol × Handler))
    {table : Table Protocol Handler} {current : Handler} (here : table.get? .route = some current) :
    (installed.foldl (fun table h => table.insert h.1 h.2) table).get? .route =
      some (installed.foldl (fun current h => if h.1 = .route then h.2 else current) current) := by
  induction installed generalizing table current with
  | nil => exact here
  | cons h installed ih =>
    refine ih ?_
    dsimp only
    by_cases own : h.1 = .route
    · rw [own, get?_insert_self, if_pos rfl]
    · rw [get?_insert_of_ne _ (Ne.symm own), here, if_neg own]

namespace View

variable {v later : View} {a : Action} {name : String}

theorem room_move (m : Move v a later)
    (before : 0 < (v.net name).connections.length → 0 < (v.net name).pool.capacity)
    (opened : 0 < (later.net name).connections.length) : 0 < (later.net name).pool.capacity := by
  rw [capacity_move m]
  have changed {n : String} {i : Interface}
      (grown : 0 < i.connections.length → 0 < (v.net n).connections.length ∨
        0 < (v.net n).pool.capacity)
      (opened : 0 < ((v.setNet n i).net name).connections.length) :
      0 < (v.net name).pool.capacity := by
    by_cases here : name = n
    · subst here
      rw [net_setNet, Function.update_self] at opened
      exact (grown opened).elim before id
    · rw [net_setNet, Function.update_of_ne here] at opened
      exact before opened
  cases dealing m with
  | none same => exact before ((same name).length ▸ opened)
  | opened _ made =>
    refine changed (fun _ => .inr ?_) opened
    obtain ⟨id, pool, allocated, -, -⟩ := Interface.open?_eq_some made
    unfold Pool.allocate? at allocated
    split at allocated
    · cases allocated
    · omega
  | duplicated _ _ counted | counted counted =>
    obtain ⟨-, -, rfl⟩ := Interface.addReference_eq_ok counted
    exact changed (fun opened => .inl (by simpa using opened)) opened
  | closed _ _ _ given =>
    exact changed (fun opened => .inl (by rwa [Interface.length_release given] at opened)) opened
  | lost | flagged => exact before opened

end View

namespace Concurrent

variable {t : Concurrent} {a : Action} {name : String} {c n : Nat}

def installedOn (nets : List (String × Interface.Limits × List (Protocol × Handler)))
    (name : String) : List (Protocol × Handler) :=
  nets.foldl (fun installed n => if n.1 = name then n.2.2 else installed) []

theorem start_induction {build : Build} {p : Session → Prop} (first : p (.start build))
    (more : ∀ s name limits handlers, p s → p (s.addNetlink name limits handlers))
    (nets : List (String × Interface.Limits × List (Protocol × Handler))) :
    p (start build nets).session := by
  have all (s : Session) (holds : p s) :
      p (nets.foldl (fun t n => t.addNetlink n.1 n.2.1 n.2.2) s) := by
    induction nets generalizing s with
    | nil => exact holds
    | cons n nets ih => exact ih _ (more s n.1 n.2.1 n.2.2 holds)
  exact all _ first

theorem build_start (build : Build)
    (nets : List (String × Interface.Limits × List (Protocol × Handler))) :
    (start build nets).session.build = build :=
  start_induction (p := fun s => s.build = build) rfl (fun _ _ _ _ => id) nets

theorem journal_start (build : Build)
    (nets : List (String × Interface.Limits × List (Protocol × Handler))) :
    (start build nets).world.journal = .empty :=
  start_induction (p := fun s => s.world.journal = .empty) rfl (fun _ _ _ _ => id) nets

theorem handlers_start (nets : List (String × Interface.Limits × List (Protocol × Handler)))
    (room : 0 < ((start .withRoute nets).net name).pool.capacity) :
    ((start .withRoute nets).net name).handlers.get? .route =
      some (Handler.forRoute (installedOn nets name)) := by
  have all (s : Session) (installed : List (Protocol × Handler)) (build : s.build = .withRoute)
      (before : 0 < (s.world.net name).pool.capacity →
        (s.world.net name).handlers.get? .route = some (Handler.forRoute installed)) :
      let later := nets.foldl (fun t n => t.addNetlink n.1 n.2.1 n.2.2) s
      0 < (later.world.net name).pool.capacity → (later.world.net name).handlers.get? .route =
        some (Handler.forRoute
          (nets.foldl (fun installed n => if n.1 = name then n.2.2 else installed) installed)) := by
    clear room
    induction nets generalizing s installed with
    | nil => exact before
    | cons n nets ih =>
      refine ih (s.addNetlink n.1 n.2.1 n.2.2) _ build fun room => ?_
      dsimp only
      by_cases here : n.1 = name
      · rw [if_pos here, Session.addNetlink, here, World.net_setNet_self, build]
        exact Table.get?_installed _ rfl
      · have same : (s.addNetlink n.1 n.2.1 n.2.2).world.net name = s.world.net name :=
          World.net_setNet_of_ne _ (Ne.symm here) _
        rw [same] at room ⊢
        rw [if_neg here]
        exact before room
  exact all (.start .withRoute) [] rfl (fun room => absurd room (Nat.lt_irrefl 0)) room

theorem handlers_run (netlink : t.IsNetlink) (actions : List Action) (name : String) :
    ((t.run actions).net name).handlers = (t.net name).handlers := by
  have keeps (v : View) (a : Action) (later : View) (m : Move v a later)
      (same : (v.net name).handlers = (t.net name).handlers) :
      (later.net name).handlers = (t.net name).handlers :=
    (View.handlers_move m name).trans same
  exact run_move keeps netlink rfl actions

theorem protocol_run (fresh : t.IsFresh) (actions : List Action) (name : String) (c : Nat) :
    (((t.run actions).net name).connection c).protocol = .route := by
  induction actions using List.reverseRecOn generalizing c with
  | nil =>
    rw [run_nil, Interface.connection_of_le (by simp [fresh.no_connections])]
    rfl
  | append_singleton actions a ih =>
    have s := fresh.sound.run actions
    rw [run_append_singleton]
    exact View.protocol_move s.watched.placed (act_move s.netlink a) ih c

theorem room_run (fresh : t.IsFresh) (actions : List Action) (name : String)
    (opened : 0 < ((t.run actions).net name).connections.length) :
    0 < ((t.run actions).net name).pool.capacity := by
  induction actions using List.reverseRecOn with
  | nil =>
    rw [run_nil, fresh.no_connections] at opened
    exact absurd opened (Nat.lt_irrefl 0)
  | append_singleton actions a ih =>
    have netlink := fresh.isNetlink.run actions
    rw [run_append_singleton] at opened ⊢
    exact View.room_move (act_move netlink a) ih opened

def Served (t : Concurrent) (handlers : String → Handler) : Prop :=
  ∀ key h c, t.attached? key = some (h, c) →
    (t.net h.family).handlers.get? .route = some (handlers h.family) ∧
      ((t.net h.family).connection c).protocol = .route

theorem served_run (build : Build)
    (nets : List (String × Interface.Limits × List (Protocol × Handler)))
    (actions : List Action) :
    ((start build nets).run actions).Served fun name =>
      Handler.forRoute (installedOn nets name) := by
  intro key h c found
  have fresh := isFresh_start build nets
  have attached := attached?_eq_some.1 found
  cases build with
  | bare =>
    -- without the routing protocol there are no sockets
    have none := (barren_run fresh (build_start .bare nets) actions).session.sockets key
    cases none.symm.trans attached.1
  | withRoute =>
    have within := ((fresh.sound.run actions).watched.placed.of_attached attached).1
    refine ⟨?_, protocol_run fresh actions h.family c⟩
    rw [handlers_run fresh.isNetlink]
    refine handlers_start nets ?_
    rw [← capacity_run fresh.isNetlink actions]
    exact room_run fresh actions h.family (Nat.zero_lt_of_lt within)

/-! What handlers are asked -/

/-- What a send has to deliver once its destination and its framing are found right, and the
interface whose handler is to get it. -/
def delivery? : Concurrent × Action → Option (String × Delivery)
  | (t, .send key message flags destination) =>
    (t.attached? key).bind fun (h, c) =>
      let k := (t.net h.family).connection c
      match (destination.map Address.decode).getD (.ok k.peer), Header.parse message with
      | .ok goal, .ok _ => some (h.family, ⟨k, message, flags, goal⟩)
      | _, _ => none
  | _ => none

def recordedBy (handlers : String → Handler) (step : Concurrent × Action) : List CallRecord :=
  match delivery? step with
  | none => []
  | some (name, d) => (handlers name d).calls

section Sending

variable {handlers : String → Handler} {key : Int} {h : Handle Attachment} {message : Bytes}
  (flags : TransferFlags) {destination : Option Bytes} {goal : Address} {request : Header}

theorem act_send_asked {handler : Handler} (found : t.attached? key = some (h, c))
    (reached : ((t.net h.family).connection c).Destined destination goal)
    (parsed : Header.parse message = .ok request)
    (known : (t.net h.family).handlers.get? ((t.net h.family).connection c).protocol =
      some handler) :
    let k := (t.net h.family).connection c
    let answered := handler ⟨k, message, flags, goal⟩
    t.act (.send key message flags destination) =
      t.begin ⟨key, h.family, c, .replying answered.replies (answered.result.mapError .failed)⟩
        (((t.world.log [.sending k.protocol request]).log answered.lines).record
          answered.calls) := by
  have reached : Netlink.destinationOf h.family c destination t.world = .ok goal :=
    Netlink.destinationOf_eq_ok.2 reached
  change t.send key message flags destination = _
  unfold net at known
  simp only [send, found, reached, Netlink.dispatch, parsed, World.net_log, known,
    Netlink.consult]
  rfl

theorem act_send_served (served : t.Served handlers) (found : t.attached? key = some (h, c))
    (reached : ((t.net h.family).connection c).Destined destination goal)
    (parsed : Header.parse message = .ok request) :
    let answered := handlers h.family ⟨(t.net h.family).connection c, message, flags, goal⟩
    t.act (.send key message flags destination) =
      t.begin ⟨key, h.family, c, .replying answered.replies (answered.result.mapError .failed)⟩
        (((t.world.log [.sending .route request]).log answered.lines).record answered.calls) := by
  obtain ⟨handler, protocol⟩ := served key h c found
  have asked := act_send_asked flags found reached parsed (protocol.symm ▸ handler)
  dsimp only at asked ⊢
  rw [asked, protocol]

theorem act_send_refused {failure : Failure} (found : t.attached? key = some (h, c))
    (refused :
      (∃ bytes, destination = some bytes ∧ Address.decode bytes = .error failure) ∨
        ∃ goal, ((t.net h.family).connection c).Destined destination goal ∧
          Header.parse message = .error failure) :
    t.act (.send key message flags destination) =
      t.begin ⟨key, h.family, c, .ended (.sent (.error (.failed failure)))⟩ t.world := by
  rcases refused with unreached | ⟨goal, reached, malformed⟩
  · exact act_send_unreached flags found (Netlink.destinationOf_eq_error.2 unreached)
  · exact act_send_malformed flags found (Netlink.destinationOf_eq_ok.2 reached) malformed

theorem record_send (served : t.Served handlers) :
    (t.act (.send key message flags destination)).world.journal.calls =
      t.world.journal.calls ++ recordedBy handlers (t, .send key message flags destination) := by
  unfold recordedBy delivery?
  cases found : t.attached? key with
  | none =>
    have idle : t.act (.send key message flags destination) = t := by
      change t.send key message flags destination = _
      simp only [send, found]
    simp [idle, found]
  | some place =>
    obtain ⟨h, c⟩ := place
    have goes : (destination.map Address.decode).getD (.ok ((t.net h.family).connection c).peer) =
        Netlink.destinationOf h.family c destination t.world :=
      (Netlink.destinationOf_eq_getD destination t.world).symm
    cases reached : Netlink.destinationOf h.family c destination t.world with
    | error failure =>
      rw [act_send_refused flags found (.inl (Netlink.destinationOf_eq_error.1 reached)),
        world_begin]
      simp [found, goes, reached]
    | ok goal =>
      have bound : ((t.net h.family).connection c).Destined destination goal :=
        Netlink.destinationOf_eq_ok.1 reached
      cases parsed : Header.parse message with
      | error failure =>
        rw [act_send_refused flags found (.inr ⟨goal, bound, parsed⟩), world_begin]
        simp [found, parsed]
      | ok request =>
        rw [act_send_served flags served found bound parsed, world_begin]
        simp [found, goes, reached, parsed, World.record, World.log, Journal.record, Journal.log]

end Sending

theorem record_goOn (netlink : t.IsNetlink) (n : Nat) :
    SameRecord t.world (t.act (.goOn n)).world := by
  cases found : t.calls[n]? with
  | none =>
    rw [goOn_of_none found]
    rfl
  | some call =>
    have goes : t.act (.goOn n) = t.proceed n call call.stage := by simp only [act, goOn, found]
    rw [goes]
    generalize call.stage = stage
    unfold proceed
    split
    · have entered := Netlink.record_enter call.interface t.world call.connection
      split
      all_goals
        rename_i made
        rw [made] at entered
        exact entered
    · split <;> rfl
    · rfl
    · rfl
    · split <;> rfl
    · split
      · rfl
      · rename_i fd h _
        have lowered := Netlink.record_disarm h.family h t.world
        rw [netlink.family]
        dsimp only [Netlink.family]
        split
        all_goals
          rename_i made
          rw [made] at lowered
          exact lowered
    · rfl
    · rfl
    · rfl
    · rfl

theorem record_act {handlers : String → Handler} (netlink : t.IsNetlink)
    (served : t.Served handlers) (a : Action) :
    (t.act a).world.journal.calls = t.world.journal.calls ++ recordedBy handlers (t, a) := by
  have quiet (silent : recordedBy handlers (t, a) = [])
      (same : SameRecord t.world (t.act a).world) :
      (t.act a).world.journal.calls = t.world.journal.calls ++ recordedBy handlers (t, a) := by
    rw [silent, List.append_nil]
    exact same
  cases a with
  | send key message flags destination => exact record_send flags served
  | goOn n => exact quiet rfl (record_goOn netlink n)
  | step s =>
    refine quiet rfl ?_
    change SameRecord _ (t.step s).world
    unfold step
    split
    · rename_i possible
      exact t.session.record_step netlink.family _ ((Bool.and_eq_true _ _).mp possible).1
    · rfl
  | receive key buffer flags sender =>
    refine quiet rfl ?_
    change SameRecord _ (t.receive key buffer flags sender).world
    unfold receive
    split
    · rfl
    · split
      · rfl
      · split <;> rfl
  | get target =>
    refine quiet rfl ?_
    change SameRecord _ (t.get target).world
    unfold get
    split <;> rfl
  | poll key events =>
    refine quiet rfl ?_
    change SameRecord _ (t.poll key events).world
    unfold poll
    split
    · rfl
    · rename_i h c _
      have begun := Handle.record_setUpPoll h.family t.session.build h t.world events
      rw [← netlink.family] at begun
      split
      all_goals
        rename_i made
        rw [made] at begun
        exact begun
  | route target message flags destination =>
    refine quiet rfl ?_
    change SameRecord _ (t.route target message flags destination).world
    unfold route
    split
    · rfl
    · rename_i name c _
      have silent := Handler.calls_route
        ⟨(t.world.net name).connection c, message, flags, destination⟩
      simp only [Netlink.consult, world_begin, silent]
      exact List.append_nil _
  | take name =>
    refine quiet rfl ?_
    change SameRecord _ (t.take name).world
    unfold take
    split <;> rfl
  | fire n =>
    refine quiet rfl ?_
    change SameRecord _ (t.fire n).world
    unfold fire
    split <;> rfl

theorem record_run {handlers : String → Handler} (netlink : t.IsNetlink) (actions : List Action)
    (served : ∀ past rest, actions = past ++ rest → (t.run past).Served handlers) :
    (t.run actions).world.journal.calls =
      t.world.journal.calls ++ (t.trace actions).flatMap (recordedBy handlers) := by
  induction actions using List.reverseRecOn with
  | nil => simp
  | append_singleton before a ih =>
    have so_far := ih fun past rest split => served past (rest ++ [a]) (by simp [split])
    rw [run_append_singleton, record_act (netlink.run before) (served before [a] rfl), so_far,
      trace_append]
    simp

structure Dispatching (t : Concurrent) (handlers : String → Handler) (actions : List Action) :
    Prop where
  served : ∀ past rest key h c, actions = past ++ rest →
    (t.run past).attached? key = some (h, c) →
    let i := (t.run past).net h.family
    i.handlers.get? (i.connection c).protocol = some (handlers h.family)
  /-- A send that is addressed and framed well is answered by the handler, which sees the connection
  and all that was given to the send; the replies are queued and then the result is returned. -/
  accepted : ∀ past rest key message flags destination h c goal request,
    actions = past ++ .send key message flags destination :: rest →
    (t.run past).attached? key = some (h, c) →
    (((t.run past).net h.family).connection c).Destined destination goal →
    Header.parse message = .ok request →
    let u := t.run past
    let n := u.calls.length
    let sections := rest.countP (·.advances n)
    let answered := handlers h.family ⟨(u.net h.family).connection c, message, flags, goal⟩
    (u.act (.send key message flags destination)).world =
        ((u.world.log [.sending .route request]).log answered.lines).record answered.calls ∧
      (t.run actions).calls[n]? = some ⟨key, h.family, c,
        .afterReplies answered.replies (answered.result.mapError .failed) sections⟩ ∧
      (t.trace actions).filterMap (replyOf n) =
        (answered.replies.take sections).map (h.family, c, ·)
  refused : ∀ past rest key message flags destination h c failure,
    actions = past ++ .send key message flags destination :: rest →
    (t.run past).attached? key = some (h, c) →
    ((∃ bytes, destination = some bytes ∧ Address.decode bytes = .error failure) ∨
      ∃ goal, (((t.run past).net h.family).connection c).Destined destination goal ∧
        Header.parse message = .error failure) →
    let u := t.run past
    (u.act (.send key message flags destination)).world = u.world ∧
      (t.run actions).calls[u.calls.length]? =
        some ⟨key, h.family, c, .ended (.sent (.error (.failed failure)))⟩ ∧
      (t.trace actions).filterMap (replyOf u.calls.length) = []
  appended : ∀ step ∈ t.trace actions, ∀ n name c reply, replyOf n step = some (name, c, reply) →
    (step.1.act step.2).view.responses name c = step.1.view.responses name c ++ [reply]
  kept : ∀ name c, (∀ step ∈ t.trace actions, endsLast name c step = false) →
    delivered t actions name c ++ (t.run actions).view.responses name c = added t actions name c
  recorded : (t.run actions).world.journal.calls =
    (t.trace actions).flatMap (recordedBy handlers)

theorem dispatching_run (build : Build)
    (nets : List (String × Interface.Limits × List (Protocol × Handler)))
    (actions : List Action) :
    Dispatching (start build nets) (fun name => Handler.forRoute (installedOn nets name))
      actions := by
  have fresh := isFresh_start build nets
  have s := fresh.sound
  have served := served_run build nets
  constructor
  case served =>
    intro past rest key h c split found
    obtain ⟨handler, protocol⟩ := served past key h c found
    dsimp only
    rw [protocol, handler]
  case accepted =>
    intro past rest key message flags destination h c goal request split found reached parsed
    subst split
    have begun := act_send_served flags (served past) found reached parsed
    dsimp only at begun ⊢
    refine ⟨by rw [begun, world_begin], ?_⟩
    obtain ⟨stands, queued⟩ := begun_sending (k := 0) fresh begun rest
    rw [Nat.zero_add] at stands queued
    refine ⟨stands, ?_⟩
    rw [List.drop_zero, ← List.take_append_drop (rest.countP _) (Answered.replies _),
      List.map_append, List.take_append_drop] at queued
    exact List.append_cancel_right queued
  case refused =>
    intro past rest key message flags destination h c failure split found refused
    subst split
    have failed := act_send_refused flags found refused
    -- a call that has failed stands like one whose replies are all queued
    have begun : ((start build nets).run past).act (.send key message flags destination) =
        ((start build nets).run past).begin
          ⟨key, h.family, c, .afterReplies [] (.error (.failed failure)) 1⟩
          ((start build nets).run past).world := failed
    obtain ⟨stands, queued⟩ := begun_sending fresh begun rest
    dsimp only
    refine ⟨by rw [failed, world_begin], ?_, by simpa using queued⟩
    rw [stands, Stage.afterReplies, if_neg (by simp)]
  case appended =>
    intro step mem n name c reply queued
    exact responses_of_replyOf (s.of_mem_trace mem).watched.placed queued
  case kept =>
    intro name c lasts
    have law := delivered_append s actions lasts
    rwa [no_responses fresh, List.nil_append] at law
  case recorded =>
    have law := record_run fresh.isNetlink actions fun past _ _ => served past
    rwa [journal_start] at law

/-- A handler that replies twice, and fails what is sent to port 7, is installed after another for
routing and before one for another protocol. -/
def threeHandlers : List (Protocol × Handler) :=
  [(.route, Handler.scripted [[9]] .whole),
    (.route, fun d =>
      Handler.scripted [[1], [2]] (if d.destination.portId = 7 then .failure .tryAgain else .whole) d),
    (.generic, Handler.scripted [[8]] .whole)]

def trailing : Bytes := [16, 0, 0, 0, 0, 0, 0, 0, 0, 0, 0, 0, 0, 0, 0, 0, 7]

/-- The message is sent to the connected peer and to a given address. In between, one that is cut
short is sent to the peer, and to an address that is cut short as well; and the message is sent to
an address of another family. -/
def fiveSends : List Action :=
  [.step (.register 16 "nl"), .step (.socket 0 16 3 0),
    .step (.connect 0 (Address.encode ⟨7, 0⟩)),
    .send 0 trailing Flags.empty none, .send 0 [16, 0] Flags.empty none, .goOn 0,
    .send 0 [16, 0] Flags.empty (some [16]), .goOn 0,
    .send 0 trailing Flags.empty (some [2, 0, 0, 0, 5, 0, 0, 0, 0, 0, 0, 0]),
    .send 0 trailing (Flags.single .dontWait) (some (Address.encode ⟨5, 1⟩)), .goOn 0,
    .goOn 4, .goOn 4, .goOn 4]

def sentBack (t : Concurrent) (n : Nat) : Option (Except Failure Nat) :=
  match t.calls[n]?.map Call.stage with
  | some (.ended (.sent (.ok count))) => some (.ok count)
  | some (.ended (.sent (.error (.failed failure)))) => some (.error failure)
  | _ => none

theorem dispatching_fiveSends :
    (let t := (start .withRoute [("nl", Interface.defaultLimits, threeHandlers)]).run fiveSends;
      t.world.journal.calls =
          [.payload ⟨1⟩ trailing Flags.empty ⟨7, 0⟩,
            .payload ⟨1⟩ trailing (Flags.single .dontWait) ⟨5, 1⟩] ∧
        t.sentBack 0 = some (.error (.bare .tryAgain)) ∧
        t.sentBack 1 = some (.error .headerTruncated) ∧
        t.sentBack 2 = some (.error .addressTooShort) ∧
        t.sentBack 3 = some (.error .addressOfOtherFamily) ∧ t.sentBack 4 = some (.ok 17) ∧
        t.view.responses "nl" 0 = [[1], [2], [1], [2]]) ∧
      Dispatching (start .withRoute [("nl", Interface.defaultLimits, threeHandlers)])
        (fun name => Handler.forRoute
          (installedOn [("nl", Interface.defaultLimits, threeHandlers)] name)) fiveSends :=
  ⟨by decide +kernel, dispatching_run _ _ _⟩

end Concurrent

end NetlinkSocket
