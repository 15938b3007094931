import NetlinkSocket.Proofs.Interleaving.Alterations
import NetlinkSocket.Proofs.Interleaving.Courses
import NetlinkSocket.Proofs.Interleaving.Firings
import NetlinkSocket.Proofs.Words

/-!
The addresses of a connection after any run. Its own address is that of the last bind that succeeded
and its peer that of the last such connect, through whichever of its handles they were made.
-/

namespace NetlinkSocket

open Concurrent (Action)

/-- An address was written over the front of a buffer, cut to the size of the buffer. -/
structure Address.WrittenTo (a : Address) (buffer later : Bytes) : Prop where
  length : later.length = buffer.length
  front : later.take (min buffer.length 12) = a.encode.take (min buffer.length 12)
  rest : later.drop (min buffer.length 12) = buffer.drop (min buffer.length 12)

theorem Address.writtenTo_overwrite (a : Address) (buffer : Bytes) :
    a.WrittenTo buffer (Bytes.overwrite buffer a.encode) :=
  have covered := Bytes.covers_overwrite a.encode buffer
  ⟨covered.length, covered.front, covered.rest⟩

def Address.reportedIn (a : Address) : Option Bytes → Option (Nat × Bytes) → Prop
  | none, reported => reported = none
  | some buffer, reported => ∃ later, reported = some (12, later) ∧ a.WrittenTo buffer later

theorem Netlink.reportedIn_handOver (peer : Address) (message buffer : Bytes)
    (sender : Option Bytes) :
    peer.reportedIn sender (handOver peer message buffer sender).sender := by
  cases sender with
  | none => rfl
  | some room => exact ⟨_, rfl, peer.writtenTo_overwrite room⟩

theorem View.Alters.renamed_cases {v : View} {a : Action} {name : String} {c : Nat}
    {k l : Connection} (alters : v.Alters name c a k l)
    (absent : c = (v.net name).connections.length → k = default) :
    (l.name = k.name ∧ l.peer = k.peer) ∨
      (∃ key address pid given, a = .step (.bind key address pid) ∧
        v.Reaches (.socket key) name c ∧ Address.decode address = .ok given ∧
        l = { k with name := Connection.boundAddress given pid }) ∨
      ∃ key address given, a = .step (.connect key address) ∧
        v.Reaches (.socket key) name c ∧ Address.decode address = .ok given ∧
        l = { k with peer := given } := by
  cases alters with
  | opened k beyond built =>
    rw [absent beyond]
    exact .inl ⟨rfl, rfl⟩
  | released =>
    left
    unfold Connection.released
    split <;> exact ⟨rfl, rfl⟩
  | renamed k renames =>
    cases renames with
    | bind attached family decoded =>
      exact .inr (.inl ⟨_, _, _, _, rfl, ⟨_, attached, family⟩, decoded, rfl⟩)
    | connect attached family decoded =>
      exact .inr (.inr ⟨_, _, _, rfl, ⟨_, attached, family⟩, decoded, rfl⟩)
  | _ => exact .inl ⟨rfl, rfl⟩

namespace Concurrent

variable {t : Concurrent} {a : Action} {name : String} {c : Nat}

/-- The address that a step gives to a connection's own end, if it is a bind that succeeds: the one
asked for, with the caller's process number where it leaves the port open. -/
def boundBy (name : String) (c : Nat) : Concurrent × Action → Option Address
  | (t, .step (.bind key address pid)) =>
    if t.place? (.socket key) = some (name, c) then
      (Address.decode address).toOption.map fun given =>
        ⟨if given.portId = 0 then pid else given.portId, given.groups⟩
    else none
  | _ => none

def connectedBy (name : String) (c : Nat) : Concurrent × Action → Option Address
  | (t, .step (.connect key address)) =>
    if t.place? (.socket key) = some (name, c) then (Address.decode address).toOption else none
  | _ => none

/-- The address of the last bind of a run that succeeded, on any handle of the connection. -/
def lastBound (t : Concurrent) (actions : List Action) (name : String) (c : Nat) : Address :=
  ((t.trace actions).filterMap (boundBy name c)).getLast?.getD .unspecified

/-- The address of the last connect of a run that succeeded, on any handle of the connection. -/
def lastConnected (t : Concurrent) (actions : List Action) (name : String) (c : Nat) : Address :=
  ((t.trace actions).filterMap (connectedBy name c)).getLast?.getD .unspecified

theorem lastBound_append (actions : List Action) (a : Action) :
    lastBound t (actions ++ [a]) name c =
      (boundBy name c (t.run actions, a)).getD (lastBound t actions name c) := by
  rw [lastBound, getLast?_filterMap_trace_append_singleton, Option.getD_or, lastBound]

theorem lastConnected_append (actions : List Action) (a : Action) :
    lastConnected t (actions ++ [a]) name c =
      (connectedBy name c (t.run actions, a)).getD (lastConnected t actions name c) := by
  rw [lastConnected, getLast?_filterMap_trace_append_singleton, Option.getD_or, lastConnected]

/-! Steps through a handle of the connection -/

section

variable {key : Int} {h : Handle Attachment}

theorem bind_eq (netlink : t.IsNetlink) (attached : t.view.Attached key h c) (number : Nat)
    (address : Bytes) (pid : UInt32) :
    t.session.step number (.bind key address pid) =
      match Address.decode address with
      | .error failure => (.error (.stopped (.failed failure)), t.session)
      | .ok given => (.ok .done, { t.session with
          world := t.world.setNet h.family ((t.net h.family).update c fun k =>
            { k with name := Connection.boundAddress given pid }) }) := by
  change t.session.withSocket key _ = _
  rw [withSocket_eq attached.1]
  simp only [netlink.family, Netlink.family, Netlink.bind, attached.2]
  cases Address.decode address <;> rfl

theorem connect_eq (netlink : t.IsNetlink) (attached : t.view.Attached key h c) (number : Nat)
    (address : Bytes) :
    t.session.step number (.connect key address) =
      match Address.decode address with
      | .error failure => (.error (.stopped (.failed failure)), t.session)
      | .ok given => (.ok .done, { t.session with
          world := t.world.setNet h.family ((t.net h.family).update c fun k =>
            { k with peer := given }) }) := by
  change t.session.withSocket key _ = _
  rw [withSocket_eq attached.1]
  simp only [netlink.family, Netlink.family, Netlink.connect, attached.2]
  cases Address.decode address <;> rfl

theorem name_eq (netlink : t.IsNetlink) (attached : t.view.Attached key h c) (number : Nat)
    (buffer : Bytes) :
    t.session.step number (.name key buffer) =
      (.ok (.name 12 (Bytes.overwrite buffer ((t.net h.family).connection c).name.encode)),
        t.session) := by
  change t.session.withSocket key _ = _
  rw [withSocket_eq attached.1]
  simp only [netlink.family, Netlink.family, Netlink.ownName, attached.2]
  rfl

theorem peerName_eq (netlink : t.IsNetlink) (attached : t.view.Attached key h c) (number : Nat)
    (buffer : Bytes) :
    t.session.step number (.peerName key buffer) =
      (.ok (.name 12 (Bytes.overwrite buffer ((t.net h.family).connection c).peer.encode)),
        t.session) := by
  change t.session.withSocket key _ = _
  rw [withSocket_eq attached.1]
  simp only [netlink.family, Netlink.family, Netlink.peerName, attached.2]
  rfl

end

/-! One action -/

theorem boundBy_eq_some {given : Address} : boundBy name c (t, a) = some given ↔
    ∃ key address pid asked, a = .step (.bind key address pid) ∧
      t.view.Reaches (.socket key) name c ∧ Address.decode address = .ok asked ∧
      given = Connection.boundAddress asked pid := by
  have bound (asked : Address) (pid : UInt32) :
      (⟨if asked.portId = 0 then pid else asked.portId, asked.groups⟩ : Address) =
        Connection.boundAddress asked pid := by
    have unspecified : Address.unspecifiedPort = 0 := rfl
    unfold Connection.boundAddress
    rw [unspecified]
    split <;> rfl
  constructor
  · intro binds
    unfold boundBy at binds
    split at binds
    · rename_i u key address pid step
      cases step
      split at binds
      · rename_i place
        cases decoded : Address.decode address with
        | error failure =>
          rw [decoded] at binds
          cases binds
        | ok asked =>
          rw [decoded] at binds
          cases binds
          exact ⟨key, address, pid, asked, rfl, place?_eq_some.1 place, decoded, bound asked pid⟩
      · cases binds
    · cases binds
  · intro binds
    obtain ⟨key, address, pid, asked, rfl, reached, decoded, rfl⟩ := binds
    rw [boundBy, if_pos (place?_eq_some.2 reached), decoded, ← bound]
    rfl

theorem connectedBy_eq_some {given : Address} : connectedBy name c (t, a) = some given ↔
    ∃ key address, a = .step (.connect key address) ∧
      t.view.Reaches (.socket key) name c ∧ Address.decode address = .ok given := by
  constructor
  · intro connects
    unfold connectedBy at connects
    split at connects
    · rename_i u key address step
      cases step
      split at connects
      · rename_i place
        cases decoded : Address.decode address with
        | error failure =>
          rw [decoded] at connects
          cases connects
        | ok asked =>
          rw [decoded] at connects
          cases connects
          exact ⟨key, address, rfl, place?_eq_some.1 place, decoded⟩
      · cases connects
    · cases connects
  · intro connects
    obtain ⟨key, address, rfl, reached, decoded⟩ := connects
    rw [connectedBy, if_pos (place?_eq_some.2 reached), decoded]
    rfl

theorem connection_bind (s : t.Sound) {key : Int} {address : Bytes} {given : Address}
    (reached : t.view.Reaches (.socket key) name c) (decoded : Address.decode address = .ok given)
    (pid : UInt32) :
    ((t.act (.step (.bind key address pid))).net name).connection c =
      { (t.net name).connection c with name := Connection.boundAddress given pid } := by
  obtain ⟨h, attached, rfl⟩ := reached
  have within := (s.watched.placed.of_attached attached).1
  change (World.net (t.session.step t.calls.length (.bind key address pid)).2.world
    h.family).connection c = _
  rw [bind_eq s.netlink attached, decoded]
  simp only [World.net_setNet_self]
  exact Interface.connection_update_self _ c _ within

theorem connection_connect (s : t.Sound) {key : Int} {address : Bytes} {given : Address}
    (reached : t.view.Reaches (.socket key) name c) (decoded : Address.decode address = .ok given) :
    ((t.act (.step (.connect key address))).net name).connection c =
      { (t.net name).connection c with peer := given } := by
  obtain ⟨h, attached, rfl⟩ := reached
  have within := (s.watched.placed.of_attached attached).1
  change (World.net (t.session.step t.calls.length (.connect key address)).2.world
    h.family).connection c = _
  rw [connect_eq s.netlink attached, decoded]
  simp only [World.net_setNet_self]
  exact Interface.connection_update_self _ c _ within

theorem name_act (s : t.Sound) (a : Action) (name : String) (c : Nat) :
    (((t.act a).net name).connection c).name =
      (boundBy name c (t, a)).getD ((t.net name).connection c).name := by
  cases binds : boundBy name c (t, a) with
  | some given =>
    obtain ⟨key, address, pid, asked, rfl, reached, decoded, rfl⟩ := boundBy_eq_some.1 binds
    rw [connection_bind s reached decoded, Option.getD_some]
  | none =>
    rw [Option.getD_none]
    have alters := View.alters_move s.watched.placed (act_move s.netlink a) name c
    rcases alters.renamed_cases fun beyond =>
        Interface.connection_of_le (Nat.le_of_eq beyond.symm) with
      same | ⟨key, address, pid, given, step, reached, decoded, -⟩ | ⟨_, _, _, -, -, -, made⟩
    · exact same.1
    · have bound := boundBy_eq_some.2 ⟨key, address, pid, given, step, reached, decoded, rfl⟩
      rw [binds] at bound
      cases bound
    · have kept := congrArg Connection.name made
      exact kept

theorem peer_act (s : t.Sound) (a : Action) (name : String) (c : Nat) :
    (((t.act a).net name).connection c).peer =
      (connectedBy name c (t, a)).getD ((t.net name).connection c).peer := by
  cases connects : connectedBy name c (t, a) with
  | some given =>
    obtain ⟨key, address, rfl, reached, decoded⟩ := connectedBy_eq_some.1 connects
    rw [connection_connect s reached decoded, Option.getD_some]
  | none =>
    rw [Option.getD_none]
    have alters := View.alters_move s.watched.placed (act_move s.netlink a) name c
    rcases alters.renamed_cases fun beyond =>
        Interface.connection_of_le (Nat.le_of_eq beyond.symm) with
      same | ⟨_, _, _, _, -, -, -, made⟩ | ⟨key, address, given, step, reached, decoded, -⟩
    · exact same.2
    · have kept := congrArg Connection.peer made
      exact kept
    · have connected := connectedBy_eq_some.2 ⟨key, address, step, reached, decoded⟩
      rw [connects] at connected
      cases connected

/-! Runs -/

theorem name_run (fresh : t.IsFresh) (actions : List Action) (name : String) (c : Nat) :
    (((t.run actions).net name).connection c).name = lastBound t actions name c := by
  induction actions using List.reverseRecOn with
  | nil =>
    rw [run_nil, Interface.connection_of_le (by simp [fresh.no_connections])]
    rfl
  | append_singleton before a ih =>
    rw [run_append_singleton, lastBound_append, ← ih]
    exact name_act (fresh.sound.run before) a name c

theorem peer_run (fresh : t.IsFresh) (actions : List Action) (name : String) (c : Nat) :
    (((t.run actions).net name).connection c).peer = lastConnected t actions name c := by
  induction actions using List.reverseRecOn with
  | nil =>
    rw [run_nil, Interface.connection_of_le (by simp [fresh.no_connections])]
    rfl
  | append_singleton before a ih =>
    rw [run_append_singleton, lastConnected_append, ← ih]
    exact peer_act (fresh.sound.run before) a name c

def Receives (t : Concurrent) (actions : List Action) (n : Nat) (sender : Option Bytes) : Prop :=
  ∃ past key buffer flags rest, actions = past ++ .receive key buffer flags sender :: rest ∧
    (t.run past).calls.length = n ∧
    n < (t.run (past ++ [.receive key buffer flags sender])).calls.length

structure Names (t : Concurrent) (actions : List Action) (name : String) (c : Nat) : Prop where
  own : ∀ key number buffer, (t.run actions).view.Reaches (.socket key) name c →
    ∃ later, (lastBound t actions name c).WrittenTo buffer later ∧
      (t.run actions).session.step number (.name key buffer) =
        (.ok (.name 12 later), (t.run actions).session)
  peer : ∀ key number buffer, (t.run actions).view.Reaches (.socket key) name c →
    ∃ later, (lastConnected t actions name c).WrittenTo buffer later ∧
      (t.run actions).session.step number (.peerName key buffer) =
        (.ok (.name 12 later), (t.run actions).session)
  received : ∀ n sender, t.Receives actions n sender → ∀ a call later r,
    (t.run actions).calls[n]? = some call → call.stage.isEnded = false →
      ((t.run actions).act a).calls[n]? = some later → later.interface = name →
        later.connection = c → later.stage = .ended (.received (.ok r)) →
          (lastConnected t actions name c).reportedIn sender r.sender
  binds : ∀ key number address pid, (t.run actions).view.Reaches (.socket key) name c →
    (((t.run actions).session.step number (.bind key address pid)).1 = .ok .done ↔
      (boundBy name c (t.run actions, .step (.bind key address pid))).isSome = true)
  connects : ∀ key number address, (t.run actions).view.Reaches (.socket key) name c →
    (((t.run actions).session.step number (.connect key address)).1 = .ok .done ↔
      (connectedBy name c (t.run actions, .step (.connect key address))).isSome = true)
  ownKept : ∀ a, boundBy name c (t.run actions, a) = none →
    ((((t.run actions).act a).net name).connection c).name =
      (((t.run actions).net name).connection c).name
  peerKept : ∀ a, connectedBy name c (t.run actions, a) = none →
    ((((t.run actions).act a).net name).connection c).peer =
      (((t.run actions).net name).connection c).peer

theorem answer_bind (netlink : t.IsNetlink) {key : Int}
    (reached : t.view.Reaches (.socket key) name c) (number : Nat) (address : Bytes)
    (pid : UInt32) :
    (t.session.step number (.bind key address pid)).1 = .ok .done ↔
      (boundBy name c (t, .step (.bind key address pid))).isSome = true := by
  rw [boundBy, if_pos (place?_eq_some.2 reached)]
  obtain ⟨h, attached, -⟩ := reached
  rw [bind_eq netlink attached]
  cases Address.decode address with
  | error failure => simp [Except.toOption]
  | ok given => simp [Except.toOption]

theorem answer_connect (netlink : t.IsNetlink) {key : Int}
    (reached : t.view.Reaches (.socket key) name c) (number : Nat) (address : Bytes) :
    (t.session.step number (.connect key address)).1 = .ok .done ↔
      (connectedBy name c (t, .step (.connect key address))).isSome = true := by
  rw [connectedBy, if_pos (place?_eq_some.2 reached)]
  obtain ⟨h, attached, -⟩ := reached
  rw [connect_eq netlink attached]
  cases Address.decode address with
  | error failure => simp [Except.toOption]
  | ok given => simp [Except.toOption]

theorem reported_of_received (fresh : t.IsFresh) {actions : List Action} {n : Nat}
    {sender : Option Bytes} (receives : t.Receives actions n sender) {a : Action}
    {call later : Call} {r : Received} (found : (t.run actions).calls[n]? = some call)
    (running : call.stage.isEnded = false)
    (after : ((t.run actions).act a).calls[n]? = some later)
    (received : later.stage = .ended (.received (.ok r))) :
    (((t.run actions).net later.interface).connection later.connection).peer.reportedIn sender
      r.sender := by
  have ended (same : later = call) : False := by
    rw [← same, received] at running
    cases running
  have own : a = .goOn n := by
    by_contra other
    have there := (List.getElem?_eq_some_iff.1 found).1
    have kept := View.calls_move (act_move (fresh.isNetlink.run actions) a) there other
    exact ended (Option.some.inj (after.symm.trans (kept.trans found)))
  subst own
  obtain ⟨message, buffer, room, here⟩ :
      ∃ message buffer room, call.stage = .handing message buffer room := by
    rcases precedes_goOn found after with same | next
    · exact (ended same).elim
    · rw [received] at next
      generalize call.stage = stage at next
      cases next with
      | handed peer message buffer room => exact ⟨message, buffer, room, rfl⟩
  obtain ⟨past, b, messages, course⟩ := course_run fresh actions found
  obtain ⟨before, key, _, flags, rest, split, number, grown⟩ := receives
  obtain ⟨rest', begun⟩ := course.begun
  have one := begun_unique fresh.isNetlink (split.symm.trans begun) number grown course.number
    course.grown
  have wants : b.sink? = some (.buffers buffer room) := by
    have reads := course.reads
    rw [here] at reads
    cases reads with
    | handing wants => exact wants
    | other none silent => cases silent
  rw [← one.2] at wants
  cases wants
  obtain ⟨socket, interface, connection, stage⟩ := call
  cases here
  rw [ended_of_handing found] at after
  cases after
  cases received
  exact Netlink.reportedIn_handOver _ message buffer sender

theorem names_run (fresh : t.IsFresh) (actions : List Action) (name : String) (c : Nat) :
    Names t actions name c := by
  have s := fresh.sound.run actions
  constructor
  case own =>
    intro key number buffer reached
    obtain ⟨h, attached, family⟩ := reached
    subst family
    refine ⟨_, Address.writtenTo_overwrite _ buffer, ?_⟩
    rw [name_eq s.netlink attached, name_run fresh]
  case peer =>
    intro key number buffer reached
    obtain ⟨h, attached, family⟩ := reached
    subst family
    refine ⟨_, Address.writtenTo_overwrite _ buffer, ?_⟩
    rw [peerName_eq s.netlink attached, peer_run fresh]
  case received =>
    intro n sender receives a call later r found running after interface connection received
    have told := reported_of_received fresh receives found running after received
    rw [interface, connection, peer_run fresh] at told
    exact told
  case binds =>
    intro key number address pid reached
    exact answer_bind s.netlink reached number address pid
  case connects =>
    intro key number address reached
    exact answer_connect s.netlink reached number address
  case ownKept =>
    intro a unbound
    rw [name_act s a name c, unbound, Option.getD_none]
  case peerKept =>
    intro a unconnected
    rw [peer_act s a name c, unconnected, Option.getD_none]

/-- A socket is bound, a receive call sleeps on it, and another handle is connected meanwhile; a
second bind fails. Then a response comes, and the call has it in hand. -/
def connectedMeanwhile : List Action :=
  [.step (.register 16 "nl"), .step (.socket 0 16 3 0), .step (.duplicate 0 1),
    .step (.bind 0 [16, 0, 0, 0, 0, 0, 0, 0, 5, 0, 0, 0] 7),
    .receive 0 [0, 0] Flags.empty (some [0, 0, 0, 0, 0, 0, 0, 0, 0, 0, 0, 0, 1]), .goOn 0,
    .step (.connect 1 [16, 0, 0, 0, 9, 0, 0, 0, 0, 0, 0, 0]), .step (.bind 1 [16, 0, 0, 0] 8),
    .step (.push (.socket 1) [1, 2, 3]), .take "nl", .fire 0, .goOn 0, .goOn 0, .goOn 0]

theorem names_connectedMeanwhile :
    (let t := start .withRoute [("nl", Interface.defaultLimits, [])];
      lastBound t connectedMeanwhile "nl" 0 = ⟨7, 5⟩ ∧
        lastConnected t connectedMeanwhile "nl" 0 = ⟨9, 0⟩ ∧
        (t.run connectedMeanwhile).inHand 0 = some ("nl", 0, [1, 2, 3]) ∧
        (t.run connectedMeanwhile).place? (.socket 1) = some ("nl", 0)) ∧
      Names (start .withRoute [("nl", Interface.defaultLimits, [])]) connectedMeanwhile "nl" 0 :=
  ⟨by decide +kernel, names_run (isFresh_start _ _) _ _ _⟩

end Concurrent
end NetlinkSocket
