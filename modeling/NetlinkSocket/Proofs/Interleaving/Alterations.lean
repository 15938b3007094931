import NetlinkSocket.Proofs.Interleaving.Answers
import NetlinkSocket.Proofs.Interleaving.Handles

/-!
What an action makes of one connection. An action is addressed to one connection at most, and no
other is altered by it, but for the polls that a worker tells.
-/

namespace NetlinkSocket

open Concurrent (Action)

def Session.Step.target? : Session.Step → Option Session.Target
  | duplicate key _ | close key | discard key | describe key | setNonblocking key _
  | bind key _ _ | connect key _ | name key _ | peerName key _ | listen key _ | accept key _
  | send key _ _ | sendTo key _ _ _ | receive key _ _ _ | poll key _ | arm key _ | disarm key _
  | hold key _ | detach key _ | attach key _ | attachForeign key | setup key _ => some (.socket key)
  | route target _ _ _ | push target _ | take target | addReference target => some target
  | _ => none

def Concurrent.Action.target? : Action → Option Session.Target
  | .step s => s.target?
  | .receive key .. | .poll key .. | .send key .. => some (.socket key)
  | .get target | .route target .. => some target
  | _ => none

namespace View

variable {v later : View} {a : Action} {name : String} {c d : Nat}

/-- An action is made through a handle or the holder of a connection, or is the next section of a
call on it. -/
inductive Addresses (v : View) (name : String) (d : Nat) : Action → Prop
  | target {a : Action} {target : Session.Target} :
      a.target? = some target → v.Reaches target name d → Addresses v name d a
  | call {n : Nat} {call : Call} :
      v.calls[n]? = some call → call.interface = name → call.connection = d →
      Addresses v name d (.goOn n)

inductive Alters (v : View) (name : String) (d : Nat) : Action → Connection → Connection → Prop
  | kept (a : Action) (k : Connection) : Alters v name d a k k
  | opened {key : Int} {domain type protocol : Int32} {id : ConnectionId} {p : Protocol}
      (k : Connection) :
      d = (v.net name).connections.length → (∃ build : Build, build.contains p = true) →
      Alters v name d (.step (.socket key domain type protocol)) k (.fresh id p)
  | counted {a : Action} (k : Connection) :
      v.Addresses name d a → Alters v name d a k { k with references := k.references + 1 }
  | released {a : Action} (k : Connection) :
      v.Addresses name d a → Alters v name d a k k.released
  | renamed {s : Session.Step} {f : Connection → Connection} (k : Connection) :
      v.Renames name d s f → Alters v name d (.step s) k (f k)
  | armed {a : Action} (k : Connection) (poll : ArmedPoll) :
      v.Addresses name d a → Alters v name d a k { k with armed := some poll }
  | disarmed {a : Action} (k : Connection) :
      v.Addresses name d a → Alters v name d a k { k with armed := none }
  | queued {a : Action} (k : Connection) (message : Bytes) :
      v.Addresses name d a → Alters v name d a k { k with responses := k.responses ++ [message] }
  | taken {a : Action} (k : Connection) :
      v.Addresses name d a → Alters v name d a k { k with responses := k.responses.tail }
  | told {n key : Nat} (k : Connection) :
      v.taken[n]? = some (name, key, .poll d) →
      Alters v name d (.fire n) k { k with armed := none }

theorem addresses_attached {key : Int} {h : Handle Attachment} (attached : v.Attached key h c)
    (through : a.target? = some (.socket key)) : v.Addresses h.family c a :=
  .target through ⟨h, attached, rfl⟩

theorem Renames.addresses {s : Session.Step} {f : Connection → Connection}
    (renames : v.Renames name c s f) : v.Addresses name c (.step s) := by
  cases renames with
  | bind attached family decoded =>
    subst family
    exact addresses_attached attached rfl
  | connect attached family decoded =>
    subst family
    exact addresses_attached attached rfl

theorem TearsDown.addresses (p : v.Placed) (torn : v.TearsDown name c a) :
    v.Addresses name c a := by
  cases torn with
  | step attached family described =>
    subst family
    exact addresses_attached attached rfl
  | @call n call fd key h found here socket attached family =>
    -- the handle that the call borrows is still that of its connection
    obtain ⟨g, borrowed, same⟩ := p.borrowed call (List.mem_of_getElem? found)
      (by rw [here]; rfl) key socket
    have handle : h = g := Option.some.inj (attached.1.symm.trans borrowed.1)
    subst handle
    have connection : call.connection = c :=
      Option.some.inj (borrowed.2.symm.trans attached.2)
    exact .call found (same.symm.trans family) connection

theorem addresses_ends {s : Session.Step} {key : Int} {h : Handle Attachment}
    (ends : s = .close key ∨ s = .discard key) (attached : v.Attached key h c) :
    v.Addresses h.family c (.step s) := by
  refine addresses_attached attached ?_
  cases ends with
  | inl close =>
    rw [close]
    rfl
  | inr discard =>
    rw [discard]
    rfl

theorem EndsLast.addresses (last : v.EndsLast name c a) : v.Addresses name c a := by
  obtain ⟨s, key, h, same, ends, free, attached, family, counted⟩ := last
  subst same
  subst family
  exact addresses_ends ends attached

theorem alters_setNet {i : Interface}
    (others : ∀ e, e ≠ c → i.connection e = (v.net name).connection e)
    (own : v.Alters name c a ((v.net name).connection c) (i.connection c)) (other : String)
    (d : Nat) :
    v.Alters other d a ((v.net other).connection d)
      (((v.setNet name i).net other).connection d) := by
  by_cases here : other = name
  · subst here
    rw [net_setNet, Function.update_self]
    by_cases same : d = c
    · subst same
      exact own
    · rw [others d same]
      exact .kept _ _
  · rw [net_setNet, Function.update_of_ne here]
    exact .kept _ _

theorem alters_same (a : Action) (i : Interface) (same : i.connections = (v.net name).connections)
    (other : String) (d : Nat) :
    v.Alters other d a ((v.net other).connection d)
      (((v.setNet name i).net other).connection d) := by
  have connection : i.connection = (v.net name).connection := by
    funext e
    rw [Interface.connection, same, Interface.connection]
  apply alters_setNet (c := d) fun e ne => congrFun connection e
  rw [connection]
  exact .kept _ _

theorem alters_update (f : Connection → Connection) (within : c < (v.net name).connections.length)
    (own : v.Alters name c a ((v.net name).connection c) (f ((v.net name).connection c)))
    (other : String) (d : Nat) :
    v.Alters other d a ((v.net other).connection d)
      (((v.setNet name ((v.net name).update c f)).net other).connection d) := by
  apply alters_setNet fun e ne => Interface.connection_update_of_ne _ f ne
  rw [Interface.connection_update_self _ c f within]
  exact own

theorem alters_disarm (addressed : v.Addresses name c a) (other : String) (d : Nat) :
    v.Alters other d a ((v.net other).connection d)
      (((v.setNet name ((v.net name).disarm c)).net other).connection d) := by
  apply alters_setNet (c := c)
  · intro e ne
    rw [Interface.connection_disarm, if_neg ne]
  · rw [Interface.connection_disarm, if_pos rfl]
    exact .disarmed _ addressed

theorem alters_push {message : Bytes} (within : c < (v.net name).connections.length)
    (addressed : v.Addresses name c a) (other : String) (d : Nat) :
    v.Alters other d a ((v.net other).connection d)
      (((v.setNet name ((v.net name).push c message)).net other).connection d) := by
  apply alters_setNet (c := c)
  · intro e ne
    rw [Interface.connection_push message within, if_neg ne]
  · rw [Interface.connection_push message within, if_pos rfl]
    exact .queued _ _ addressed

theorem alters_pop? {message : Bytes} {i : Interface}
    (popped : (v.net name).pop? c = (some message, i)) (addressed : v.Addresses name c a)
    (other : String) (d : Nat) :
    v.Alters other d a ((v.net other).connection d)
      (((v.setNet name i).net other).connection d) := by
  apply alters_setNet (c := c)
  · intro e ne
    rw [Interface.connection_pop? popped, if_neg ne]
  · rw [Interface.connection_pop? popped, if_pos rfl]
    exact .taken _ addressed

theorem alters_arm {i : Interface} {s signals : Signals} {fd : PollDescriptor}
    (within : c < (v.net name).connections.length)
    (armed : (v.net name).arm s c fd = (.ok (), i, signals)) (addressed : v.Addresses name c a)
    (other : String) (d : Nat) :
    v.Alters other d a ((v.net other).connection d)
      (((v.setNet name i).net other).connection d) := by
  rcases Interface.arm_cases armed with
    ⟨-, rfl, -⟩ | ⟨-, -, rfl, -⟩ | ⟨-, -, -, -, notifier, -, rfl⟩
  · exact alters_same a _ rfl other d
  · exact alters_same a _ rfl other d
  · apply alters_setNet (c := c)
    · exact fun e ne => Interface.connection_update_of_ne (v.net name) _ ne
    · change v.Alters name c a _ (((v.net name).update c _).connection c)
      rw [Interface.connection_update_self _ c _ within]
      exact .armed _ _ addressed

theorem alters_fire {n key : Nat} {wakeup : Wakeup} {isHeld : Nat → Bool}
    (found : v.taken[n]? = some (name, key, wakeup)) (other : String) (d : Nat) :
    v.Alters other d (.fire n) ((v.net other).connection d)
      (((v.setNet name ((v.net name).fire v.signals isHeld key wakeup).2.1).net
        other).connection d) := by
  rcases Interface.fire_cases (v.net name) v.signals isHeld key wakeup with
    same | ⟨c, poll, rfl, armed, -, told⟩
  · rw [same]
    exact alters_same _ _ rfl other d
  · rw [told]
    exact alters_update _ (Interface.lt_of_armed armed) (.told _ found) other d

theorem alters_move (p : v.Placed) (m : Move v a later) (name : String) (d : Nat) :
    v.Alters name d a ((v.net name).connection d) ((later.net name).connection d) := by
  cases m with
  | @opened key domain type protocol p h c i fresh made attached built =>
    obtain ⟨id, pool, -, rfl, same⟩ := Interface.open?_eq_some made
    have connections : i.connections = (v.net h.family).connections ++ [.fresh id p] := by
      rw [same]
    apply alters_setNet (c := (v.net h.family).connections.length)
    · intro e ne
      rw [Interface.connection_append connections, if_neg ne]
    · rw [Interface.connection_append connections, if_pos rfl]
      exact .opened _ rfl built
  | duplicated fresh attached counted =>
    obtain ⟨-, -, rfl⟩ := Interface.addReference_eq_ok counted
    exact alters_update _ (p.of_attached attached).1
      (.counted _ (addresses_attached attached rfl)) name d
  | counted reached counted =>
    obtain ⟨-, -, rfl⟩ := Interface.addReference_eq_ok counted
    exact alters_update _ (p.of_reaches reached).1 (.counted _ (.target rfl reached)) name d
  | @closed s key h c lines i ends free attached given =>
    apply alters_setNet (c := c)
    · intro e ne
      rw [Interface.connection_release given, if_neg ne]
    · rw [Interface.connection_release given, if_pos rfl]
      exact .released _ (addresses_ends ends attached)
  | @named s other c f ends renames =>
    have within : c < (v.net other).connections.length := by
      cases renames with
      | bind attached family decoded => exact family ▸ (p.of_attached attached).1
      | connect attached family decoded => exact family ▸ (p.of_attached attached).1
    exact alters_update f within (.renamed _ renames) name d
  | armed attached described made =>
    exact alters_arm (p.of_attached attached).1 made (addresses_attached attached rfl) name d
  | beganPoll attached fresh made =>
    exact alters_arm (p.of_attached attached).1 made (addresses_attached attached rfl) name d
  | disarmed attached described =>
    exact alters_disarm (addresses_attached attached rfl) name d
  | lowered found here socket attached =>
    exact alters_disarm ((TearsDown.call found here socket attached rfl).addresses p) name d
  | pushed reached =>
    exact alters_push (p.of_reaches reached).1 (.target rfl reached) name d
  | replied found here =>
    exact alters_push (p.calls _ (List.mem_of_getElem? found)) (.call found rfl rfl) name d
  | popped reached taken => exact alters_pop? taken (.target rfl reached) name d
  | beganTaking attached taken =>
    exact alters_pop? taken (addresses_attached attached rfl) name d
  | took stage found here taken => exact alters_pop? taken (.call found rfl rfl) name d
  | @registered n call sink key notifier found here empty made =>
    exact alters_same _ { v.net call.interface with notifier } rfl name d
  | @withdrew n call sink key found here =>
    exact alters_same _ ((v.net call.interface).withdraw key) rfl name d
  | @itemTaken other item queue next =>
    exact alters_same _ { v.net other with queue } rfl name d
  | itemFired found => exact alters_fire found name d
  | _ => exact .kept _ _

theorem Alters.eq_of_not_addresses {k l : Connection} (alters : v.Alters name d a k l)
    (within : d < (v.net name).connections.length) (apart : ¬v.Addresses name d a) :
    l = k ∨ ∃ n key, a = .fire n ∧ v.taken[n]? = some (name, key, .poll d) ∧
      l = { k with armed := none } := by
  cases alters with
  | kept => exact .inl rfl
  | opened k beyond built => exact absurd beyond (Nat.ne_of_lt within)
  | renamed k renames => exact absurd renames.addresses apart
  | told k found => exact .inr ⟨_, _, rfl, found, rfl⟩
  | counted | released | armed | disarmed | queued | taken => exact absurd ‹_› apart

end View

namespace Concurrent

variable {t : Concurrent} {a : Action} {name : String} {d : Nat}

def place? (t : Concurrent) (target : Session.Target) : Option (String × Nat) :=
  (t.session.findTarget target).toOption

/-- The connection that an action is addressed to: that of the handle or the holder it is made
through, or that of the call whose next section it is. -/
def addressee? (t : Concurrent) : Action → Option (String × Nat)
  | .goOn n => t.calls[n]?.map fun call => (call.interface, call.connection)
  | a => a.target?.bind t.place?

theorem place?_eq_some {target : Session.Target} :
    t.place? target = some (name, d) ↔ t.view.Reaches target name d := by
  unfold place?
  constructor
  · intro found
    cases h : t.session.findTarget target with
    | error refusal =>
      rw [h] at found
      cases found
    | ok place =>
      rw [h] at found
      cases found
      exact reaches_of_findTarget h
  · intro reached
    rw [findTarget_of_reaches reached]
    rfl

theorem addressee?_eq_some : t.addressee? a = some (name, d) ↔ t.view.Addresses name d a := by
  constructor
  · intro addressed
    unfold addressee? at addressed
    split at addressed
    · rename_i n
      obtain ⟨call, found, place⟩ := Option.map_eq_some_iff.1 addressed
      obtain ⟨interface, connection⟩ := Prod.mk.inj place
      exact .call found interface connection
    · obtain ⟨target, through, place⟩ := Option.bind_eq_some_iff.1 addressed
      exact .target through (place?_eq_some.1 place)
  · intro addressed
    cases addressed with
    | @target a target through reached =>
      have place := place?_eq_some.2 reached
      cases a with
      | goOn n => cases through
      | _ =>
        simp only [addressee?, through, Option.bind_some]
        exact place
    | call found interface connection =>
      have found : t.calls[_]? = some _ := found
      simp [addressee?, found, interface, connection]

end Concurrent

end NetlinkSocket
