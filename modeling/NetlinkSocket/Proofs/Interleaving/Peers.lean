import NetlinkSocket.Proofs.Addresses
import NetlinkSocket.Proofs.Interleaving.Dispatching
import NetlinkSocket.Proofs.Interleaving.Failures
import NetlinkSocket.Proofs.Interleaving.Names

/-!
Sends to the connected peer. A send without a destination is the send to the peer that the socket
tells of, in all it does; and that peer is the one connected last.
-/

namespace NetlinkSocket

open Concurrent (Action)

namespace Netlink

variable {name : String} {h : Handle Attachment} {w : World} {buffer written destination : Bytes}
  {count : Nat}

theorem destinationOf_peerName (room : 12 ≤ buffer.length)
    (told : (peerName name h buffer w).1 = .ok (count, written))
    (starts : written.take 12 <+: destination) :
    ∃ c, attached? h = some c ∧
      destinationOf name c (some destination) w = destinationOf name c none w := by
  unfold peerName at told
  split at told
  · cases told
  · rename_i c attached
    cases told
    exact ⟨c, attached, Address.decode_of_writeTo room starts⟩

theorem sendVia_peerName (room : 12 ≤ buffer.length)
    (told : (peerName name h buffer w).1 = .ok (count, written))
    (starts : written.take 12 <+: destination) (message : Bytes) (flags : TransferFlags) :
    sendVia name h message flags (some destination) w = sendVia name h message flags none w := by
  obtain ⟨c, attached, same⟩ := destinationOf_peerName room told starts
  rw [sendVia_eq attached, sendVia_eq attached, same]

theorem sendVia_of_unnamed {halt : Halt} (untold : (peerName name h buffer w).1 = .error halt)
    (message : Bytes) (flags : TransferFlags) (goal : Option Bytes) :
    sendVia name h message flags goal w = (.error halt.stop, w) := by
  unfold peerName at untold
  split at untold
  · rename_i unattached
    cases untold
    cases goal with
    | none => simp only [sendVia, send, unattached, fails]
    | some bytes => simp only [sendVia, sendTo, unattached, fails]
  · cases untold

end Netlink

namespace Session

def Obstacle.bare : Obstacle → Obstacle
  | .refused r => .refused r
  | .stopped stop _ => .stopped stop

/-- Sends through a socket go alike whether they name its peer or no destination. -/
structure SendsAlike (s : Session) (key : Int) : Prop where
  toPeer : ∀ m n buffer count written destination message flags, 12 ≤ buffer.length →
    (s.step m (.peerName key buffer)).1 = .ok (.name count written) →
      written.take 12 <+: destination →
        s.step n (.sendTo key message flags destination) = s.step n (.send key message flags)
  unnamed : ∀ m n buffer obstacle destination message flags,
    (s.step m (.peerName key buffer)).1 = .error obstacle →
      s.step n (.sendTo key message flags destination) = (.error obstacle.bare, s) ∧
        s.step n (.send key message flags) = (.error obstacle.bare, s)
  asked : ∀ n message flags, s.asksHandler key message none = true →
    s.LeftToHandler n key message flags none

variable {s : Session} {key : Int} {h : Handle Attachment}

theorem step_peerName (found : s.sockets.get? key = some h)
    (real : ∀ traits, s.kinds.get? h.family ≠ some (.stub traits)) (number : Nat)
    (buffer : Bytes) :
    s.step number (.peerName key buffer) =
      s.settleFilling (fun r => .name r.1 r.2) (Netlink.peerName h.family h buffer s.world) := by
  have netlink := (s.family_cases h.family).resolve_left fun ⟨traits, known, _⟩ => real traits known
  simp only [step, withSocket, findSocket, found, whenFound, netlink.2]
  rfl

theorem exists_of_peerName {m : Nat} {buffer : Bytes} {reply : Reply}
    (told : (s.step m (.peerName key buffer)).1 = .ok reply) :
    ∃ h, s.sockets.get? key = some h := by
  cases found : s.sockets.get? key with
  | some h => exact ⟨h, rfl⟩
  | none =>
    simp only [step, withSocket, findSocket, found, whenFound, refuse] at told
    cases told

section

variable (found : s.sockets.get? key = some h)
  (real : ∀ traits, s.kinds.get? h.family ≠ some (.stub traits)) {m : Nat} {buffer : Bytes}
include found real

theorem peerName_of_answer {count : Nat} {written : Bytes}
    (told : (s.step m (.peerName key buffer)).1 = .ok (.name count written)) :
    (Netlink.peerName h.family h buffer s.world).1 = .ok (count, written) := by
  rw [step_peerName found real] at told
  rcases named : Netlink.peerName h.family h buffer s.world with ⟨stop | r, later⟩
  · rw [named] at told
    cases told
  · rw [named] at told
    cases told
    rfl

theorem peerName_of_obstacle {obstacle : Obstacle}
    (untold : (s.step m (.peerName key buffer)).1 = .error obstacle) :
    ∃ halt, obstacle = .stopped halt.stop halt.buffers ∧
      (Netlink.peerName h.family h buffer s.world).1 = .error halt := by
  rw [step_peerName found real] at untold
  rcases named : Netlink.peerName h.family h buffer s.world with ⟨halt | r, later⟩
  · rw [named] at untold
    cases untold
    exact ⟨halt, rfl, rfl⟩
  · rw [named] at untold
    cases untold

end

theorem sendsAlike (real : ∀ h traits, s.sockets.get? key = some h →
    s.kinds.get? h.family ≠ some (.stub traits)) : s.SendsAlike key where
  toPeer := by
    intro m n buffer count written destination message flags room told starts
    change s.step n (sendStep key message flags (some destination)) =
      s.step n (sendStep key message flags none)
    obtain ⟨h, found⟩ := exists_of_peerName told
    have own : ∀ traits, s.kinds.get? h.family ≠ some (.stub traits) :=
      fun traits => real h traits found
    have named := peerName_of_answer found own told
    rw [step_sendStep s found own, step_sendStep s found own,
      Netlink.sendVia_peerName room named starts]
  unnamed := by
    intro m n buffer obstacle destination message flags untold
    change s.step n (sendStep key message flags (some destination)) = _ ∧
      s.step n (sendStep key message flags none) = _
    cases found : s.sockets.get? key with
    | none =>
      simp only [step, withSocket, findSocket, found, whenFound, refuse] at untold
      cases untold
      constructor <;>
        simp only [sendStep, step, withSocket, findSocket, found, whenFound, refuse, Obstacle.bare]
    | some h =>
      have own : ∀ traits, s.kinds.get? h.family ≠ some (.stub traits) :=
        fun traits => real h traits found
      obtain ⟨halt, rfl, unnamed⟩ := peerName_of_obstacle found own untold
      rw [step_sendStep s found own, step_sendStep s found own,
        Netlink.sendVia_of_unnamed unnamed, Netlink.sendVia_of_unnamed unnamed]
      exact ⟨rfl, rfl⟩
  asked n message flags asked := s.leftToHandler asked n flags

end Session

namespace Concurrent

variable {t : Concurrent} {actions : List Action} {a : Action} {name : String} {c : Nat}

structure Addressed (t : Concurrent) (actions : List Action) : Prop where
  toPeer : ∀ key number buffer count written destination message flags, 12 ≤ buffer.length →
    ((t.run actions).session.step number (.peerName key buffer)).1 = .ok (.name count written) →
      written.take 12 <+: destination →
        (t.run actions).act (.send key message flags (some destination)) =
          (t.run actions).act (.send key message flags none)
  asked : ∀ key h c message flags request handler,
    (t.run actions).attached? key = some (h, c) → Header.parse message = .ok request →
      let u := t.run actions
      let k := (u.net h.family).connection c
      let answered := handler ⟨k, message, flags, lastConnected t actions h.family c⟩
      (u.net h.family).handlers.get? k.protocol = some handler →
        u.act (.send key message flags none) =
          u.begin
            ⟨key, h.family, c, .replying answered.replies (answered.result.mapError .failed)⟩
            (((u.world.log [.sending k.protocol request]).log answered.lines).record
              answered.calls)
  unconnected : ∀ name c, (∀ step ∈ t.trace actions, connectedBy name c step = none) →
    lastConnected t actions name c = .unspecified
  connected : ∀ past key address rest h c given,
    actions = past ++ .step (.connect key address) :: rest →
      (t.run past).attached? key = some (h, c) → Address.decode address = .ok given →
        (∀ step ∈ ((t.run past).act (.step (.connect key address))).trace rest,
          connectedBy h.family c step = none) →
          lastConnected t actions h.family c = given

theorem act_send_peerName (netlink : t.IsNetlink) {key : Int} {number count : Nat}
    {buffer written destination : Bytes} (room : 12 ≤ buffer.length)
    (told : (t.session.step number (.peerName key buffer)).1 = .ok (.name count written))
    (starts : written.take 12 <+: destination) (message : Bytes) (flags : TransferFlags) :
    t.act (.send key message flags (some destination)) =
      t.act (.send key message flags none) := by
  obtain ⟨h, found⟩ := Session.exists_of_peerName told
  have named := Session.peerName_of_answer found (netlink.1 h.family) told
  obtain ⟨c, attached, same⟩ := Netlink.destinationOf_peerName room named starts
  have place : t.attached? key = some (h, c) := attached?_eq_some.2 ⟨found, attached⟩
  have same : Netlink.destinationOf h.family c (some destination) t.world =
    Netlink.destinationOf h.family c none t.world := same
  change t.send key message flags (some destination) = t.send key message flags none
  simp only [send, place, same]

theorem lastConnected_of_never (never : ∀ step ∈ t.trace actions, connectedBy name c step = none) :
    lastConnected t actions name c = .unspecified := by
  have silent : (t.trace actions).filterMap (connectedBy name c) = [] :=
    List.filterMap_eq_nil_iff.2 never
  rw [lastConnected, silent]
  rfl

theorem lastConnected_of_since {past rest : List Action} {given : Address}
    (connects : connectedBy name c (t.run past, a) = some given)
    (never : ∀ step ∈ ((t.run past).act a).trace rest, connectedBy name c step = none) :
    lastConnected t (past ++ a :: rest) name c = given := by
  rw [lastConnected, getLast?_filterMap_trace_of_since connects never, Option.getD_some]

theorem addressed_run (fresh : t.IsFresh) (actions : List Action) : Addressed t actions where
  toPeer key number buffer count written destination message flags room told starts :=
    act_send_peerName (fresh.isNetlink.run actions) room told starts message flags
  asked := by
    intro key h c message flags request handler found parsed
    dsimp only
    intro known
    refine act_send_asked flags found ?_ parsed known
    rw [← peer_run fresh]
    exact .peer
  unconnected name c never := lastConnected_of_never never
  connected := by
    intro past key address rest h c given split found decoded never
    subst split
    have reached : (t.run past).view.Reaches (.socket key) h.family c :=
      ⟨h, attached?_eq_some.1 found, rfl⟩
    exact lastConnected_of_since (connectedBy_eq_some.2 ⟨key, address, rfl, reached, decoded⟩) never

theorem sends_to_peer :
    (∀ (s : Session) (key : Int), (∀ h traits, s.sockets.get? key = some h →
      s.kinds.get? h.family ≠ some (.stub traits)) → s.SendsAlike key) ∧
    ∀ (t : Concurrent) (actions : List Action), t.IsFresh → Addressed t actions :=
  ⟨fun _ _ => Session.sendsAlike, fun _ actions fresh => addressed_run fresh actions⟩

/-- A socket is connected, sends elsewhere, and is connected anew through another handle, with an
address that has some padding and more behind it. -/
def connectedTwice : List Action :=
  [.step (.register 16 "nl"), .step (.socket 0 16 3 0), .step (.duplicate 0 1),
    .step (.connect 0 [16, 0, 0, 0, 5, 0, 0, 0, 0, 0, 0, 0]),
    .send 0 [16, 0, 0, 0, 0, 0, 0, 0, 0, 0, 0, 0, 0, 0, 0, 0] Flags.empty
      (some [16, 0, 0, 0, 7, 0, 0, 0, 0, 0, 0, 0]), .goOn 0,
    .step (.connect 1 [16, 0, 8, 8, 6, 0, 0, 0, 3, 0, 0, 0, 1])]

def toldOfPeer (t : Concurrent) (key : Int) (buffer : Bytes) : Option (Nat × Bytes) :=
  match (t.session.step 0 (.peerName key buffer)).1 with
  | .ok (.name count written) => some (count, written)
  | _ => none

theorem sends_to_peer_connectedTwice :
    (let t := start .withRoute [("nl", Interface.defaultLimits,
        [(.route, Handler.scripted [[1]] .whole)])];
      lastConnected t connectedTwice "nl" 0 = ⟨6, 3⟩ ∧
        (t.run connectedTwice).toldOfPeer 0 (List.replicate 13 9) =
          some (12, [16, 0, 0, 0, 6, 0, 0, 0, 3, 0, 0, 0, 9])) ∧
      ((start .withRoute [("nl", Interface.defaultLimits,
        [(.route, Handler.scripted [[1]] .whole)])]).run connectedTwice).session.SendsAlike 0 ∧
      Addressed (start .withRoute [("nl", Interface.defaultLimits,
        [(.route, Handler.scripted [[1]] .whole)])]) connectedTwice := by
  refine ⟨by decide +kernel, sends_to_peer.1 _ 0 fun h traits _ => ?_,
    sends_to_peer.2 _ connectedTwice (isFresh_start _ _)⟩
  exact ((isFresh_start _ _).isNetlink.run connectedTwice).1 h.family traits

end Concurrent

end NetlinkSocket
