import NetlinkSocket.Proofs.Effects
import NetlinkSocket.Proofs.Interleaving.Moves
import NetlinkSocket.Proofs.Table

/-!
Who refers to which connection. Sockets, holders and calls refer to connections that were opened,
a call keeps the socket it borrows, and a connection that nobody refers to is never referred to
again.
-/

namespace NetlinkSocket

open Concurrent (Action)

namespace View

variable {v later : View} {a : Action}

theorem setNet_net (v : View) (name : String) : v.setNet name (v.net name) = v := by
  simp only [setNet, Function.update_eq_self]

@[simp] theorem net_setNet (v : View) (name : String) (i : Interface) :
    (v.setNet name i).net = Function.update v.net name i := rfl

theorem of_setNet {motive : Interface → Prop} {name other : String} {i : Interface}
    (here : other = name → motive i) (away : other ≠ name → motive (v.net other)) :
    motive ((v.setNet name i).net other) := by
  by_cases same : other = name
  · subst same
    simpa using here rfl
  · simpa [same] using away same

theorem length_arm {i j : Interface} {s signals : Signals} {c : Nat} {fd : PollDescriptor}
    (h : i.arm s c fd = (.ok (), j, signals)) : j.connections.length = i.connections.length := by
  rcases Interface.arm_cases h with
    ⟨-, rfl, -⟩ | ⟨-, -, rfl, -⟩ | ⟨-, -, -, -, notifier, -, rfl⟩ <;> simp

theorem length_fire (i : Interface) (s : Signals) (isHeld : Nat → Bool) (key : Nat)
    (w : Wakeup) :
    (i.fire s isHeld key w).2.1.connections.length = i.connections.length := by
  rcases Interface.fire_cases i s isHeld key w with same | ⟨c, poll, -, -, -, told⟩
  · rw [same]
  · rw [told, Interface.length_update]

theorem length_le_setNet {name : String} {i : Interface}
    (h : (v.net name).connections.length ≤ i.connections.length) (other : String) :
    (v.net other).connections.length ≤ ((v.setNet name i).net other).connections.length := by
  exact of_setNet (motive := fun i => (v.net other).connections.length ≤ i.connections.length)
    (fun same => same ▸ h) fun _ => Nat.le_refl _

theorem length_le (m : Move v a later) (name : String) :
    (v.net name).connections.length ≤ (later.net name).connections.length := by
  cases m with
  | opened _ made _ =>
    obtain ⟨id, pool, -, -, rfl⟩ := Interface.open?_eq_some made
    exact length_le_setNet (by simp) name
  | duplicated _ _ counted | counted _ counted =>
    obtain ⟨-, -, rfl⟩ := Interface.addReference_eq_ok counted
    exact length_le_setNet (by simp) name
  | closed _ _ _ given =>
    exact length_le_setNet (Nat.le_of_eq (Interface.length_release given).symm) name
  | named f _ => exact length_le_setNet (by simp) name
  | armed _ _ made => exact length_le_setNet (Nat.le_of_eq (length_arm made).symm) name
  | beganPoll _ _ made => exact length_le_setNet (Nat.le_of_eq (length_arm made).symm) name
  | disarmed => exact length_le_setNet (by simp) name
  | lowered => exact length_le_setNet (by simp) name
  | pushed => exact length_le_setNet (by simp) name
  | replied => exact length_le_setNet (by simp) name
  | popped _ taken | beganTaking _ taken | took _ _ _ taken =>
    exact length_le_setNet (Nat.le_of_eq (Interface.rest_pop? taken).2.2.2.symm) name
  | registered | withdrew | itemTaken =>
    refine length_le_setNet ?_ name
    exact Nat.le_refl _
  | itemFired => exact length_le_setNet (Nat.le_of_eq (length_fire _ _ _ _ _).symm) name
  | _ => exact Nat.le_refl _

theorem isHeld_iff {name : String} {c : Nat} :
    v.isHeld name c = true ↔
      (∃ e ∈ v.sockets.entries, e.2.family = name ∧ Netlink.attached? e.2 = some c) ∨
      (∃ e ∈ v.held.entries, e.2.interface = name ∧ e.2.connection = .netlink c) ∨
      ∃ call ∈ v.calls, call.stage.isEnded = false ∧ call.interface = name ∧
        call.connection = c := by
  simp only [isHeld, Bool.or_eq_true, List.any_eq_true, Bool.and_eq_true, decide_eq_true_eq,
    Bool.not_eq_true', or_assoc, and_assoc]

/-- Whatever refers to a connection refers to one that was opened, and a call that has not ended
still has the socket it was made through. -/
structure Placed (v : View) : Prop where
  distinct : v.sockets.Distinct
  sockets : ∀ e ∈ v.sockets.entries, ∃ c, e.2.connection = some (.netlink c) ∧
    c < (v.net e.2.family).connections.length
  held : ∀ e ∈ v.held.entries, ∀ c, e.2.connection = .netlink c →
    c < (v.net e.2.interface).connections.length
  calls : ∀ call ∈ v.calls, call.connection < (v.net call.interface).connections.length
  borrowed : ∀ call ∈ v.calls, call.stage.isEnded = false → ∀ key, call.socket = some key →
    ∃ h, v.Attached key h call.connection ∧ h.family = call.interface

theorem attached?_eq_some {h : Handle Attachment} {c : Nat} :
    Netlink.attached? h = some c ↔ h.connection = some (.netlink c) := by
  unfold Netlink.attached?
  rcases h.connection with _ | c | _ <;> simp

namespace Placed

variable (p : v.Placed)
include p

theorem of_isHeld {name : String} {c : Nat} (held : v.isHeld name c = true) :
    c < (v.net name).connections.length := by
  rcases isHeld_iff.1 held with
    ⟨e, he, rfl, attached⟩ | ⟨e, he, rfl, refers⟩ | ⟨call, hcall, -, rfl, rfl⟩
  · obtain ⟨d, refers, within⟩ := p.sockets e he
    rw [attached?_eq_some, refers] at attached
    cases attached
    exact within
  · exact p.held e he c refers
  · exact p.calls call hcall

theorem of_attached {key : Int} {h : Handle Attachment} {c : Nat} (attached : v.Attached key h c) :
    c < (v.net h.family).connections.length ∧ v.isHeld h.family c = true := by
  have held : v.isHeld h.family c = true :=
    isHeld_iff.2 (.inl ⟨_, Table.mem_of_get? attached.1, rfl, attached.2⟩)
  exact ⟨p.of_isHeld held, held⟩

theorem of_reaches {target : Session.Target} {name : String} {c : Nat}
    (reached : v.Reaches target name c) :
    c < (v.net name).connections.length ∧ v.isHeld name c = true := by
  cases target with
  | socket key =>
    obtain ⟨h, attached, rfl⟩ := reached
    exact p.of_attached attached
  | held key =>
    have held : v.isHeld name c = true :=
      isHeld_iff.2 (.inr (.inl ⟨_, Table.mem_of_get? reached, rfl, rfl⟩))
    exact ⟨p.of_isHeld held, held⟩

theorem of_offers {socket : Option Int} {name : String} {c : Nat}
    (offered : v.Offers socket name c) :
    c < (v.net name).connections.length ∧ v.isHeld name c = true := by
  cases socket with
  | some key =>
    obtain ⟨h, attached, rfl⟩ := offered
    exact p.of_attached attached
  | none =>
    obtain ⟨target, reached⟩ := offered
    exact p.of_reaches reached

end Placed

def Continues (v later : View) (call : Call) : Prop :=
  v.Offers call.socket call.interface call.connection ∧ later.sockets = v.sockets ∨
    ∃ o ∈ v.calls, o.socket = call.socket ∧ o.interface = call.interface ∧
      o.connection = call.connection ∧ (call.stage.isEnded = false → o.stage.isEnded = false)

/-- What refers to a connection comes from something that did, except for the socket that opens
one; and a borrowed socket stays. -/
structure Inherits (v later : View) : Prop where
  distinct : v.sockets.Distinct → later.sockets.Distinct
  sockets : ∀ e ∈ later.sockets.entries,
    (∃ d ∈ v.sockets.entries, d.2.family = e.2.family ∧ d.2.connection = e.2.connection) ∨
      e.2.connection = some (.netlink (v.net e.2.family).connections.length) ∧
        (v.net e.2.family).connections.length < (later.net e.2.family).connections.length
  held : ∀ e ∈ later.held.entries, e ∈ v.held.entries ∨
    ∃ d ∈ v.sockets.entries, d.2.family = e.2.interface ∧ d.2.connection = some e.2.connection
  calls : ∀ call ∈ later.calls, Continues v later call
  borrowed : ∀ key, v.isBorrowed key = true → ∀ h c, v.Attached key h c →
    ∃ g, later.Attached key g c ∧ g.family = h.family

theorem continues_of_mem {call : Call} (h : call ∈ v.calls) : Continues v later call :=
  .inr ⟨call, h, rfl, rfl, rfl, id⟩

theorem continues_append {new call : Call} (sockets : later.sockets = v.sockets)
    (offered : v.Offers new.socket new.interface new.connection) (h : call ∈ v.calls ++ [new]) :
    Continues v later call := by
  rcases List.mem_append.1 h with old | added
  · exact continues_of_mem old
  · rw [List.mem_singleton.1 added]
    exact .inl ⟨offered, sockets⟩

theorem continues_modify {n : Nat} {call o : Call} {stage : Stage} (found : v.calls[n]? = some o)
    (running : o.stage.isEnded = false)
    (h : call ∈ v.calls.modify n fun call => { call with stage }) : Continues v later call := by
  obtain ⟨m, hm⟩ := List.mem_iff_getElem?.1 h
  rw [List.getElem?_modify] at hm
  by_cases same : n = m
  · subst same
    simp only [found, if_true, Option.map_eq_map, Option.map_some, Option.some.injEq] at hm
    refine .inr ⟨o, List.mem_of_getElem? found, ?_, ?_, ?_, fun _ => running⟩ <;> rw [← hm]
  · simp only [same, if_false, Option.map_eq_map, Option.map_id_fun', id_eq] at hm
    exact continues_of_mem (List.mem_of_getElem? hm)

theorem inherits_same {later : View} (sockets : later.sockets = v.sockets)
    (held : later.held = v.held) (calls : ∀ call ∈ later.calls, Continues v later call) :
    Inherits v later where
  distinct h := sockets ▸ h
  sockets _ he := .inl ⟨_, sockets ▸ he, rfl, rfl⟩
  held _ he := .inl (held ▸ he)
  calls := calls
  borrowed _ _ h _ attached := ⟨h, ⟨sockets ▸ attached.1, attached.2⟩, rfl⟩

theorem inherits_insert {key : Int} {h : Handle Attachment} {name : String} {i : Interface}
    (fresh : v.sockets.get? key = none)
    (origin : (∃ d ∈ v.sockets.entries, d.2.family = h.family ∧ d.2.connection = h.connection) ∨
      h.connection = some (.netlink (v.net h.family).connections.length) ∧
        (v.net h.family).connections.length < ((v.setNet name i).net h.family).connections.length) :
    Inherits v { v.setNet name i with sockets := v.sockets.insert key h } where
  distinct d := d.insert key h
  sockets e he := by
    rcases Table.mem_insert he with rfl | old
    · exact origin
    · exact .inl ⟨e, old, rfl, rfl⟩
  held _ he := .inl he
  calls _ hc := continues_of_mem hc
  borrowed other _ g c attached := by
    have ne : other ≠ key := by
      rintro rfl
      rw [attached.1] at fresh
      cases fresh
    exact ⟨g, ⟨(Table.get?_insert_of_ne _ ne _).trans attached.1, attached.2⟩, rfl⟩

theorem inherits_erase {key : Int} {net : String → Interface}
    (free : v.isBorrowed key = false) :
    Inherits v { v with net, sockets := v.sockets.erase key } where
  distinct d := d.erase key
  sockets e he := .inl ⟨e, (Table.mem_erase.1 he).1, rfl, rfl⟩
  held _ he := .inl he
  calls _ hc := continues_of_mem hc
  borrowed other used g c attached := by
    have ne : other ≠ key := by
      rintro rfl
      rw [free] at used
      cases used
    exact ⟨g, ⟨(Table.get?_erase_of_ne _ ne).trans attached.1, attached.2⟩, rfl⟩

theorem inherits_flagged {key : Int} {h : Handle Attachment} (flags : SocketFlags)
    (found : v.sockets.get? key = some h) :
    Inherits v { v with sockets := v.sockets.insert key { h with flags } } where
  distinct d := d.insert key _
  sockets e he := by
    rcases Table.mem_insert he with rfl | old
    · exact .inl ⟨_, Table.mem_of_get? found, rfl, rfl⟩
    · exact .inl ⟨e, old, rfl, rfl⟩
  held _ he := .inl he
  calls _ hc := continues_of_mem hc
  borrowed other _ g c attached := by
    by_cases same : other = key
    · subst same
      cases found.symm.trans attached.1
      exact ⟨_, ⟨Table.get?_insert_self _ _ _, attached.2⟩, rfl⟩
    · exact ⟨g, ⟨(Table.get?_insert_of_ne _ same _).trans attached.1, attached.2⟩, rfl⟩

theorem inherits_held {held : Table Int Session.Held}
    (origin : ∀ e ∈ held.entries, e ∈ v.held.entries ∨
      ∃ d ∈ v.sockets.entries, d.2.family = e.2.interface ∧
        d.2.connection = some e.2.connection) : Inherits v { v with held } where
  distinct d := d
  sockets e he := .inl ⟨e, he, rfl, rfl⟩
  held := origin
  calls _ hc := continues_of_mem hc
  borrowed _ _ h _ attached := ⟨h, attached, rfl⟩

theorem inherits (m : Move v a later) : Inherits v later := by
  cases m with
  | opened fresh made attached =>
    obtain ⟨id, pool, -, rfl, rfl⟩ := Interface.open?_eq_some made
    exact inherits_insert fresh (.inr ⟨attached, by simp⟩)
  | duplicated fresh attached _ =>
    exact inherits_insert fresh (.inl ⟨_, Table.mem_of_get? attached.1, rfl, rfl⟩)
  | closed _ free | lost _ free => exact inherits_erase free
  | flagged flags found => exact inherits_flagged flags found
  | kept found attached =>
    refine inherits_held fun e he => ?_
    rcases Table.mem_insert he with rfl | old
    · exact .inr ⟨_, Table.mem_of_get? found, rfl, attached⟩
    · exact .inl old
  | dropped => exact inherits_held fun e he => .inl (Table.mem_erase.1 he).1
  | began _ offered => exact inherits_same rfl rfl fun call => continues_append rfl offered
  | beganTaking attached | beganPoll attached =>
    exact inherits_same rfl rfl fun call => continues_append rfl ⟨_, attached, rfl⟩
  | wentOn stage found _ _ _ _ running =>
    exact inherits_same rfl rfl fun call => continues_modify found running
  | took _ found here | registered found here | woke found here | withdrew found here
  | polled found here | lowered found here | unattached _ found here | replied found here =>
    refine inherits_same rfl rfl fun call => continues_modify found ?_
    rw [here]
    rfl
  | _ => exact inherits_same rfl rfl fun call => continues_of_mem

theorem kinds_of_move (m : Move v a later) :
    later.kinds = v.kinds ∧ later.waiting = v.waiting := by
  cases m <;> exact ⟨rfl, rfl⟩

theorem Placed.move (p : v.Placed) (m : Move v a later) : later.Placed where
  distinct := (inherits m).distinct p.distinct
  sockets e he := by
    rcases (inherits m).sockets e he with ⟨d, old, family, connection⟩ | ⟨attached, within⟩
    · obtain ⟨c, attached, within⟩ := p.sockets d old
      refine ⟨c, connection ▸ attached, ?_⟩
      rw [family] at within
      exact Nat.lt_of_lt_of_le within (length_le m _)
    · exact ⟨_, attached, within⟩
  held e he c refers := by
    rcases (inherits m).held e he with old | ⟨d, old, family, attached⟩
    · exact Nat.lt_of_lt_of_le (p.held e old c refers) (length_le m _)
    · obtain ⟨b, at_b, within⟩ := p.sockets d old
      rw [at_b, refers] at attached
      cases attached
      rw [family] at within
      exact Nat.lt_of_lt_of_le within (length_le m _)
  calls call hcall := by
    rcases (inherits m).calls call hcall with ⟨offered, -⟩ | ⟨o, old, -, interface, connection, -⟩
    · exact Nat.lt_of_lt_of_le (p.of_offers offered).1 (length_le m _)
    · rw [← interface, ← connection]
      exact Nat.lt_of_lt_of_le (p.calls o old) (length_le m _)
  borrowed call hcall running key socket := by
    rcases (inherits m).calls call hcall with
      ⟨offered, sockets⟩ | ⟨o, old, from_socket, interface, connection, before⟩
    · rw [socket] at offered
      obtain ⟨h, attached, family⟩ := offered
      exact ⟨h, ⟨sockets ▸ attached.1, attached.2⟩, family⟩
    · obtain ⟨h, attached, family⟩ :=
        p.borrowed o old (before running) key (from_socket.trans socket)
      have used : v.isBorrowed key = true := by
        refine List.any_eq_true.2 ⟨o, old, ?_⟩
        simp [Call.borrows, before running, from_socket.trans socket]
      obtain ⟨g, kept, same⟩ := (inherits m).borrowed key used h _ attached
      exact ⟨g, connection ▸ kept, same.trans (family.trans interface)⟩

theorem isHeld_of_move (p : v.Placed) (m : Move v a later) {name : String} {c : Nat}
    (within : c < (v.net name).connections.length) (held : later.isHeld name c = true) :
    v.isHeld name c = true := by
  rcases isHeld_iff.1 held with
    ⟨e, he, rfl, attached⟩ | ⟨e, he, rfl, refers⟩ | ⟨call, hcall, running, rfl, rfl⟩
  · rcases (inherits m).sockets e he with ⟨d, old, family, connection⟩ | ⟨fresh, -⟩
    · refine isHeld_iff.2 (.inl ⟨d, old, family, ?_⟩)
      rw [attached?_eq_some] at attached ⊢
      exact connection.trans attached
    · rw [attached?_eq_some, fresh] at attached
      cases attached
      exact absurd within (Nat.lt_irrefl _)
  · rcases (inherits m).held e he with old | ⟨d, old, family, attached⟩
    · exact isHeld_iff.2 (.inr (.inl ⟨e, old, rfl, refers⟩))
    · refine isHeld_iff.2 (.inl ⟨d, old, family, ?_⟩)
      rw [attached?_eq_some, attached, refers]
  · rcases (inherits m).calls call hcall with
      ⟨offered, -⟩ | ⟨o, old, -, interface, connection, before⟩
    · exact (p.of_offers offered).2
    · exact isHeld_iff.2 (.inr (.inr ⟨o, old, before running, interface, connection⟩))

end View

namespace Concurrent

variable {t : Concurrent}

theorem IsNetlink.act (netlink : t.IsNetlink) (a : Action) : (t.act a).IsNetlink := by
  have same := View.kinds_of_move (act_move netlink a)
  have kinds : (t.act a).session.kinds = t.session.kinds := same.1
  exact ⟨fun name traits => kinds ▸ netlink.1 name traits, same.2.trans netlink.2⟩

theorem IsNetlink.run (netlink : t.IsNetlink) (actions : List Action) :
    (t.run actions).IsNetlink :=
  run_induction (fun _ a h => h.act a) netlink actions

theorem run_move {p : View → Prop} (keeps : ∀ v a later, Move v a later → p v → p later)
    (netlink : t.IsNetlink) (start : p t.view) (actions : List Action) :
    p (t.run actions).view :=
  (run_induction (p := fun t => t.IsNetlink ∧ p t.view)
    (fun _ a h => ⟨h.1.act a, keeps _ _ _ (act_move h.1 a) h.2⟩) ⟨netlink, start⟩ actions).2

theorem IsFresh.placed (fresh : t.IsFresh) : t.view.Placed := by
  have sockets : t.view.sockets = .empty := fresh.sockets
  have held : t.view.held = .empty := fresh.held
  have calls : t.view.calls = [] := fresh.calls
  constructor
  · rw [sockets]
    exact Table.distinct_empty
  all_goals simp [sockets, held, calls, Table.empty]

end Concurrent

end NetlinkSocket
