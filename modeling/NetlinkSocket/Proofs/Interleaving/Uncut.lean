import NetlinkSocket.Proofs.Interleaving.Courses

/-!
Calls that nobody cuts short. When the sections of a call follow one another with nothing in between,
the call comes to rest where the operation of its family leaves it in one go: it has ended with the
same result, or it waits in the same way, and the world is the same. Likewise a work queue whose
items are taken and called one after the other is drained.
-/

namespace NetlinkSocket

def Reception.stage (buffer : Bytes) (sender : Option Bytes) : Reception → Stage
  | .finished outcome => .ended (.received outcome)
  | .waiting semaphore key => .sleeping (.buffers buffer sender) semaphore key

def Polling.stage : Polling → Stage
  | .finished outcome => .ended (.reported outcome)
  | .waiting fd => .polling fd

namespace World

/-- What calling items of a work queue leaves. -/
def worked (w : World) (name : String) (lines : List LogLine) (i : Interface) (signals : Signals) :
    World :=
  { (w.setNet name i).log lines with signals }

theorem worked_setNet (w : World) (name : String) (i j : Interface) (lines : List LogLine)
    (signals : Signals) :
    (w.setNet name i).worked name lines j signals = w.worked name lines j signals := by
  rw [worked, setNet_setNet]
  rfl

theorem worked_worked (w : World) (name : String) (xs ys : List LogLine) (i j : Interface)
    (signals later : Signals) :
    (w.worked name xs i signals).worked name ys j later = w.worked name (xs ++ ys) j later := by
  simp [worked, log, setNet, Journal.log]

theorem worked_self {w : World} {name : String} {i : Interface} (known : w.nets.get? name = some i) :
    w.worked name [] i w.signals = w := by
  simp [worked, log, Journal.log, setNet, Table.insert_self_of_get? known]

end World

namespace Signals

theorem take?_newSemaphore (s : Signals) : s.newSemaphore.2.take? s.newSemaphore.1 = none := by
  simp [take?, newSemaphore, Semaphore.take?]

end Signals

namespace Netlink

theorem take?_of_enter {name : String} {c semaphore key : Nat} {w later : World}
    (entered : enter name c w = (.registered semaphore key, later)) :
    later.signals.take? semaphore = none := by
  rcases enter_turns name c w with
    ⟨_, _, -, took⟩ | ⟨_, -, -, registered⟩ | ⟨_, -, -, refused⟩
  · cases took.symm.trans entered
  · cases registered.symm.trans entered
    exact w.signals.take?_newSemaphore
  · cases refused.symm.trans entered

end Netlink

namespace Concurrent

variable {t : Concurrent} {n c : Nat} {name : String} {socket : Option Int} {call : Call}

/-- Call `n` goes on alone until nothing is left to it, or nothing but to wait. -/
inductive Settles (n : Nat) : Concurrent → Concurrent → Prop
  | here {t : Concurrent} : t.goOn n = t → Settles n t t
  | goOn {t later : Concurrent} : Settles n (t.goOn n) later → Settles n t later

theorem Settles.run {later : Concurrent} (settles : Settles n t later) :
    ∃ sections, t.run (List.replicate sections (.goOn n)) = later ∧ later.goOn n = later := by
  induction settles with
  | here rests => exact ⟨0, rfl, rests⟩
  | goOn _ ih =>
    obtain ⟨sections, reached, rests⟩ := ih
    exact ⟨sections + 1, reached, rests⟩

theorem calls_begun (t : Concurrent) (call : Call) (w : World) :
    (t.begin call w).calls[t.calls.length]? = some call := by
  simp [begin]

theorem advance_begin (t : Concurrent) (call : Call) (stage : Stage) (w later : World) :
    (t.begin call w).advance t.calls.length stage later =
      t.begin { call with stage } later := by
  simp [begin, advance, setWorld, List.modify_eq_take_drop]

theorem net_begin (t : Concurrent) (call : Call) (w : World) : (t.begin call w).net = w.net := rfl

theorem signals_advance (t : Concurrent) (n : Nat) (stage : Stage) (w : World) :
    (t.advance n stage w).signals = w.signals := rfl

theorem advance_advance (t : Concurrent) (n : Nat) (stage next : Stage) (w later : World) :
    (t.advance n stage w).advance n next later = t.advance n next later := by
  simp [advance, setWorld, List.modify_modify_eq, Function.comp_def]

theorem advance_self (found : t.calls[n]? = some call) : t.advance n call.stage t.world = t := by
  have same : (t.calls.modify n fun other => { other with stage := call.stage }) = t.calls := by
    refine List.ext_getElem? fun m => ?_
    rw [List.getElem?_modify]
    split
    · rename_i here
      rw [← here, found]
      rfl
    · simp
  simp only [advance, same]
  rfl

/-! What is left of a receive call -/

theorem goOn_eq_proceed (found : t.calls[n]? = some call) :
    t.goOn n = t.proceed n call call.stage := by
  simp only [goOn, found]

theorem Settles.after {next later : Concurrent} (found : t.calls[n]? = some call)
    (step : t.proceed n call call.stage = next) (settles : Settles n next later) :
    Settles n t later :=
  .goOn ((goOn_eq_proceed found).trans step ▸ settles)

theorem Settles.rest (found : t.calls[n]? = some call)
    (stays : t.proceed n call call.stage = t) : Settles n t t :=
  .here ((goOn_eq_proceed found).trans stays)

theorem settles_ended (found : t.calls[n]? = some call) (result : Result) (w : World) :
    Settles n (t.advance n (.ended result) w) (t.advance n (.ended result) w) :=
  .rest (calls_advance found _ w) rfl

variable {message buffer : Bytes} {sender : Option Bytes}

theorem settles_handing
    (found : t.calls[n]? = some ⟨socket, name, c, .handing message buffer sender⟩) :
    Settles n t (t.advance n (.ended (.received (.ok (Netlink.handOver
      ((t.net name).connection c).peer message buffer sender)))) t.world) :=
  .after found rfl (settles_ended found _ _)

variable {reception : Reception} {w : World}

theorem settles_entering
    (found : t.calls[n]? = some ⟨socket, name, c, .entering (.buffers buffer sender)⟩)
    (turned : Netlink.turn name c buffer sender t.world = (reception, w)) :
    Settles n t (t.advance n (reception.stage buffer sender) w) := by
  rw [Netlink.turn_eq_enter] at turned
  rcases entered : Netlink.enter name c t.world with ⟨message | ⟨semaphore, key⟩ | _, w'⟩ <;>
    rw [entered] at turned <;> cases turned
  · have handing := calls_advance found (.handing message buffer sender) w
    have settles := settles_handing handing
    rw [advance_advance] at settles
    exact .after found (by simp only [proceed, entered]) settles
  · have sleeping := calls_advance found (.sleeping (.buffers buffer sender) semaphore key) w
    have unposted : w.signals.take? semaphore = none := Netlink.take?_of_enter entered
    simp only [Reception.stage]
    refine .after found (by simp only [proceed, entered]) (.rest sleeping ?_)
    simp only [proceed, signals_advance, unposted]
  · exact .after found (by simp only [proceed, entered]) (settles_ended found _ _)

theorem sleeping_uncut {semaphore key : Nat}
    (found : t.calls[n]? = some ⟨socket, name, c, .sleeping (.buffers buffer sender) semaphore key⟩)
    (resumed : Netlink.resume name c semaphore key buffer sender t.world = (reception, w)) :
    Settles n t (t.advance n (reception.stage buffer sender) w) := by
  unfold Netlink.resume at resumed
  cases taken : t.signals.take? semaphore with
  | none =>
    rw [show t.world.signals.take? semaphore = none from taken] at resumed
    cases resumed
    have same : t.advance n (.sleeping (.buffers buffer sender) semaphore key) t.world = t :=
      advance_self found
    simp only [Reception.stage, same]
    exact .rest found (by simp only [proceed, taken])
  | some signals =>
    rw [show t.world.signals.take? semaphore = some signals from taken] at resumed
    have woken := calls_advance found (.woken (.buffers buffer sender) key)
      { t.world with signals }
    have entering := calls_advance woken (.entering (.buffers buffer sender))
      ({ t.world with signals }.setNet name ((t.net name).withdraw key))
    have settles := settles_entering entering resumed
    rw [advance_advance, advance_advance] at settles
    refine .after found ?_ (.after woken (advance_advance ..) settles)
    simp only [proceed, taken]

theorem receive_uncut (netlink : t.IsNetlink) {key : Int} {h : Handle Attachment}
    (attached : t.view.Attached key h c) {flags : TransferFlags}
    (received : (t.session.family h.family).receive h buffer flags sender t.world =
      (reception, w)) :
    Settles t.calls.length (t.act (.receive key buffer flags sender))
      (t.begin ⟨key, h.family, c, reception.stage buffer sender⟩ w) := by
  have found := attached?_eq_some.2 attached
  simp only [netlink.family, Netlink.family, Netlink.receive, attached.2] at received
  simp only [act, receive, found, net]
  rcases popped : (t.world.net h.family).pop? c with ⟨_ | message, i⟩ <;>
    simp only [popped] at received ⊢
  · split at received
    · rename_i immediate
      cases received
      rw [if_pos immediate]
      exact .rest (calls_begun ..) rfl
    · rename_i prepared
      rw [if_neg prepared]
      have settles := settles_entering (calls_begun t
        ⟨key, h.family, c, .entering (.buffers buffer sender)⟩ (t.world.setNet h.family i)) received
      rwa [advance_begin] at settles
  · cases received
    have settles := settles_handing (calls_begun t
      ⟨key, h.family, c, .handing message buffer sender⟩ (t.world.setNet h.family i))
    rw [advance_begin] at settles
    simpa only [Reception.stage, world_begin, net_begin, World.net_setNet_self] using settles

/-! What is left of a poll call -/

variable {key : Int} {h : Handle Attachment} {polling : Polling}

theorem settles_posted {fd : PollDescriptor} {outcome : Outcome Unit}
    (opened : t.session.sockets.get? key = some h)
    (found : t.calls[n]? = some ⟨key, name, c, .posted fd⟩)
    (disarmed : (t.session.family h.family).disarm h fd t.world = (outcome, w)) :
    Settles n t (t.advance n
      (.ended (.reported (outcome.map fun _ => w.signals.events fd.slot))) w) := by
  cases outcome with
  | error stop =>
    refine .after found ?_ (settles_ended found _ _)
    simp only [proceed, Option.bind_some, opened, disarmed]
    rfl
  | ok =>
    have reading := calls_advance found (.disarmed fd) w
    have settles := settles_ended reading (.reported (.ok (w.signals.events fd.slot))) w
    rw [advance_advance] at settles
    refine .after found ?_ (.after reading (advance_advance ..) settles)
    simp only [proceed, Option.bind_some, opened, disarmed]

theorem polling_uncut {fd : PollDescriptor} (opened : t.session.sockets.get? key = some h)
    (found : t.calls[n]? = some ⟨key, name, c, .polling fd⟩)
    (awaited : h.awaitPoll (t.session.family h.family) fd t.world = (polling, w)) :
    Settles n t (t.advance n polling.stage w) := by
  unfold Handle.awaitPoll at awaited
  cases taken : t.signals.take? fd.semaphore with
  | none =>
    rw [show t.world.signals.take? fd.semaphore = none from taken] at awaited
    cases awaited
    have same : t.advance n (.polling fd) t.world = t := advance_self found
    simp only [Polling.stage, same]
    exact .rest found (by simp only [proceed, taken])
  | some signals =>
    rw [show t.world.signals.take? fd.semaphore = some signals from taken] at awaited
    have posted := calls_advance found (.posted fd) { t.world with signals }
    rcases disarmed : (t.session.family h.family).disarm h fd
      ⟨t.world.nets, signals, t.world.journal⟩ with ⟨outcome, w'⟩
    have settles := settles_posted (t := t.advance n (.posted fd) { t.world with signals }) opened
      posted disarmed
    rw [advance_advance] at settles
    have same : polling.stage =
        .ended (.reported (outcome.map fun _ => w'.signals.events fd.slot)) ∧ w' = w := by
      simp only [disarmed] at awaited
      cases outcome <;> cases awaited <;> exact ⟨rfl, rfl⟩
    rw [same.1, ← same.2]
    exact .after found (by simp only [proceed, taken]) settles

theorem poll_uncut (attached : t.view.Attached key h c) {events : Events}
    (polled : h.poll (t.session.family h.family) events t.world = (polling, w)) :
    Settles t.calls.length (t.act (.poll key events))
      (t.begin ⟨key, h.family, c, polling.stage⟩ w) := by
  have found := attached?_eq_some.2 attached
  rw [Handle.poll_eq_setUpPoll] at polled
  simp only [act, poll, found]
  rcases setup : h.setUpPoll (t.session.family h.family) events t.world with ⟨stop | fd, w'⟩ <;>
    rw [setup] at polled
  · cases polled
    exact .rest (calls_begun ..) rfl
  · have settles := polling_uncut (t := t.begin ⟨key, h.family, c, .polling fd⟩ w') attached.1
      (calls_begun ..) polled
    rwa [advance_begin] at settles

/-! What is left of a send -/

variable {replies : List Bytes} {outcome : Outcome Nat}

theorem settles_replying (opened : c < (t.net name).connections.length)
    (found : t.calls[n]? = some ⟨socket, name, c, .replying replies outcome⟩) :
    Settles n t (t.advance n (.ended (.sent outcome))
      (t.world.setNet name ((t.net name).pushAll c replies))) := by
  induction replies generalizing t with
  | nil =>
    -- an interface with connections is in the table, so to put it back changes nothing
    have same : t.world.setNet name (t.net name) = t.world := World.setNet_net opened
    rw [Interface.pushAll, List.foldl_nil, same]
    exact .after found rfl (settles_ended found _ _)
  | cons reply replies ih =>
    let pushed := t.world.setNet name ((t.net name).push c reply)
    have next := calls_advance found (.replying replies outcome) pushed
    have at_name : pushed.net name = (t.net name).push c reply := World.net_setNet_self ..
    have still : c < (pushed.net name).connections.length := by
      rw [at_name, Interface.length_push]
      exact opened
    have settles := ih (t := t.advance n (.replying replies outcome) pushed) still next
    rw [advance_advance, show (t.advance n (.replying replies outcome) pushed).world = pushed from rfl,
      show (t.advance n (.replying replies outcome) pushed).net = pushed.net from rfl, at_name,
      World.setNet_setNet] at settles
    exact .after found rfl settles

theorem replying_uncut (opened : c < (t.net name).connections.length)
    (same : w.net = t.world.net) :
    Settles t.calls.length (t.begin ⟨socket, name, c, .replying replies outcome⟩ w)
      (t.begin ⟨socket, name, c, .ended (.sent outcome)⟩
        (w.setNet name ((w.net name).pushAll c replies))) := by
  have settles := settles_replying (t := t.begin ⟨socket, name, c, .replying replies outcome⟩ w)
    (by rw [net_begin, same]; exact opened) (calls_begun ..)
  rwa [advance_begin] at settles

theorem transmit_uncut (placed : t.view.Placed) (attached : t.view.Attached key h c)
    {flags : TransferFlags} {destination : Option Bytes} {goal : Address}
    (bound : ((t.net h.family).connection c).Destined destination goal)
    (sent : Netlink.transmit h.family c message flags goal t.world = (outcome, w)) :
    Settles t.calls.length (t.act (.send key message flags destination))
      (t.begin ⟨key, h.family, c, .ended (.sent outcome)⟩ w) := by
  have found := attached?_eq_some.2 attached
  have opened := (placed.of_attached attached).1
  rw [Netlink.transmit_eq_dispatch] at sent
  simp only [act, send, found, Netlink.destinationOf_eq_ok.2 bound]
  rcases asked : Netlink.dispatch h.family c message flags goal t.world with
    ⟨failure | ⟨replies, answer⟩, w'⟩ <;> rw [asked] at sent <;> cases sent
  · exact .rest (calls_begun ..) rfl
  · have same := Netlink.dispatch_sameNets h.family c message flags goal t.world
    rw [asked] at same
    exact replying_uncut opened same.1

theorem send_uncut (netlink : t.IsNetlink) (placed : t.view.Placed)
    (attached : t.view.Attached key h c) {flags : TransferFlags}
    (sent : (t.session.family h.family).send h message flags t.world = (outcome, w)) :
    Settles t.calls.length (t.act (.send key message flags none))
      (t.begin ⟨key, h.family, c, .ended (.sent outcome)⟩ w) := by
  simp only [netlink.family, Netlink.family, Netlink.send, attached.2] at sent
  exact transmit_uncut placed attached .peer sent

theorem sendTo_uncut (netlink : t.IsNetlink) (placed : t.view.Placed)
    (attached : t.view.Attached key h c) {flags : TransferFlags} {destination : Bytes}
    (sent : (t.session.family h.family).sendTo h message flags destination t.world =
      (outcome, w)) :
    Settles t.calls.length (t.act (.send key message flags (some destination)))
      (t.begin ⟨key, h.family, c, .ended (.sent outcome)⟩ w) := by
  simp only [netlink.family, Netlink.family, Netlink.sendTo, attached.2] at sent
  cases decoded : Address.decode destination with
  | error failure =>
    rw [decoded] at sent
    cases sent
    have unbound : Netlink.destinationOf h.family c (some destination) t.world = .error failure :=
      Netlink.destinationOf_eq_error.2 ⟨destination, rfl, decoded⟩
    simp only [act, Concurrent.send, attached?_eq_some.2 attached, unbound]
    exact .rest (calls_begun ..) rfl
  | ok goal =>
    rw [decoded] at sent
    exact transmit_uncut placed attached (.given decoded) sent

theorem route_uncut (placed : t.view.Placed) {target : Session.Target} {flags : TransferFlags}
    {destination : Address} (located : t.session.findTarget target = .ok (name, c))
    (routed : Netlink.callHandler name c Handler.route message flags destination t.world =
      (outcome, w)) :
    Settles t.calls.length (t.act (.route target message flags destination))
      (t.begin ⟨none, name, c, .ended (.sent outcome)⟩ w) := by
  have opened := (placed.of_reaches (reaches_of_findTarget located)).1
  rw [Netlink.callHandler_eq_consult] at routed
  simp only [act, route, located]
  cases routed
  exact replying_uncut opened rfl

/-! The work queue -/

variable {i j : Interface} {lines : List LogLine} {signals : Signals}

theorem act_fire {key : Nat} {wakeup : Wakeup} (found : t.taken[n]? = some (name, key, wakeup))
    (fired : (t.net name).fire t.signals (t.isHeld name) key wakeup = (lines, j, signals)) :
    t.act (.fire n) = { t.setWorld (t.world.worked name lines j signals) with
      taken := t.taken.eraseIdx n } := by
  simp only [act, fire, found, fired]
  rfl

theorem run_take_fire {key : Nat} {wakeup : Wakeup} {rest : List (Nat × Wakeup)}
    (known : t.net name = i) (queued : i.queue.items = (key, wakeup) :: rest)
    (fired : { i with queue := ⟨rest⟩ }.fire t.signals (t.isHeld name) key wakeup =
      (lines, j, signals)) :
    t.run [.take name, .fire t.taken.length] = t.setWorld (t.world.worked name lines j signals) := by
  have next : i.queue.next? = some ((key, wakeup), ⟨rest⟩) := by
    rw [WorkQueue.next?, queued]
  have taken : t.act (.take name) =
      { t.setWorld (t.world.setNet name { i with queue := ⟨rest⟩ }) with
        taken := t.taken ++ [(name, key, wakeup)] } := by
    simp only [act, take, known, next]
  have last : (t.act (.take name)).taken[t.taken.length]? = some (name, key, wakeup) := by
    simp [taken]
  have fired_there : ((t.act (.take name)).net name).fire (t.act (.take name)).signals
      ((t.act (.take name)).isHeld name) key wakeup = (lines, j, signals) := by
    have same : (t.act (.take name)).net name = { i with queue := ⟨rest⟩ } := by
      rw [taken]
      exact World.net_setNet_self ..
    rw [same, taken]
    exact fired
  rw [run_cons, run_cons, run_nil, act_fire last fired_there, taken]
  simp [setWorld, world, World.worked_setNet, List.eraseIdx_append_of_length_le]

theorem run_fireAll {items : List (Nat × Wakeup)} {count : Nat}
    (known : t.world.nets.get? name = some i) (queued : i.queue.items = items)
    (drained : i.fireAll t.signals (t.isHeld name) items = (count, lines, j, signals)) :
    t.run (List.replicate count [.take name, .fire t.taken.length]).flatten =
      t.setWorld (t.world.worked name lines j signals) := by
  induction items generalizing t i count lines with
  | nil =>
    cases drained
    exact congrArg t.setWorld (World.worked_self known).symm
  | cons item rest ih =>
    obtain ⟨key, wakeup⟩ := item
    rcases fired : ({ i with queue := ⟨rest⟩ } : Interface).fire t.signals (t.isHeld name) key wakeup
      with ⟨first, k, posted⟩
    rcases others : k.fireAll posted (t.isHeld name) rest with ⟨m, lines', j', signals'⟩
    simp only [Interface.fireAll, fired, others] at drained
    cases drained
    have at_name : t.net name = i := by simp only [net, World.net, known, Option.getD_some]
    have left : k.queue.items = rest := by
      have queue := Interface.queue_fire { i with queue := ⟨rest⟩ } t.signals (t.isHeld name) key
        wakeup
      rw [fired] at queue
      exact congrArg WorkQueue.items queue
    have later := ih (t := t.setWorld (t.world.worked name first k posted))
      (Table.get?_insert_self ..) left others
    rw [List.replicate_succ, List.flatten_cons, run_append, run_take_fire at_name queued fired]
    refine later.trans ?_
    rw [← World.worked_worked]
    rfl

/-- A queue is drained by workers that take what is queued and call it, one after the other. -/
theorem drain_uncut {count : Nat} (known : t.world.nets.get? name = some i)
    (drained : Netlink.runWork name (t.isHeld name) t.world = (count, w)) :
    t.run (List.replicate count [.take name, .fire t.taken.length]).flatten = t.setWorld w := by
  have at_name : t.world.net name = i := by simp only [World.net, known, Option.getD_some]
  unfold Netlink.runWork Interface.drain at drained
  rw [at_name] at drained
  cases drained
  exact run_fireAll known rfl rfl

end Concurrent

end NetlinkSocket
