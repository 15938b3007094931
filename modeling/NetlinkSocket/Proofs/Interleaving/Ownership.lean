import NetlinkSocket.Proofs.Books
import NetlinkSocket.Proofs.Interleaving.Answers
import NetlinkSocket.Proofs.Interleaving.Handles

/-!
Who owns a connection. Its references are the open handles attached to it and the references added
directly, so handles that go never give back more than there is, and the pool follows.
-/

namespace NetlinkSocket

open Concurrent (Action)

namespace View

variable {v later : View} {a : Action}

def references (v : View) (name : String) (c : Nat) : Nat :=
  ((v.net name).connection c).references

def isHandleOf (name : String) (c : Nat) (e : Int × Handle Attachment) : Bool :=
  e.2.family = name && Netlink.attached? e.2 = some c

def handles (v : View) (name : String) (c : Nat) : Nat :=
  v.sockets.entries.countP (isHandleOf name c)

/-- Every handle stands for a reference of its own. -/
structure Owned (v : View) : Prop where
  placed : v.Placed
  handles_le : ∀ name c, v.handles name c ≤ v.references name c

theorem isHandleOf_eq_true {name : String} {c : Nat} {e : Int × Handle Attachment} :
    isHandleOf name c e = true ↔ e.2.family = name ∧ Netlink.attached? e.2 = some c := by
  simp [isHandleOf]

theorem handles_pos {key : Int} {h : Handle Attachment} {c : Nat} (attached : v.Attached key h c) :
    0 < v.handles h.family c :=
  List.countP_pos_iff.2 ⟨_, Table.mem_of_get? attached.1, isHandleOf_eq_true.2 ⟨rfl, attached.2⟩⟩

theorem Owned.references_pos (owned : v.Owned) {key : Int} {h : Handle Attachment} {c : Nat}
    (attached : v.Attached key h c) : 0 < v.references h.family c :=
  Nat.lt_of_lt_of_le (handles_pos attached) (owned.handles_le h.family c)

theorem handles_insert {key : Int} (h : Handle Attachment) (fresh : v.sockets.get? key = none)
    (name : String) (c : Nat) :
    (v.sockets.insert key h).entries.countP (isHandleOf name c) =
      v.handles name c + if isHandleOf name c (key, h) then 1 else 0 := by
  exact Table.countP_insert fresh h _

theorem handles_erase (distinct : v.sockets.Distinct) {key : Int} {h : Handle Attachment}
    (found : v.sockets.get? key = some h) (name : String) (c : Nat) :
    v.handles name c = (v.sockets.erase key).entries.countP (isHandleOf name c) +
      if isHandleOf name c (key, h) then 1 else 0 :=
  distinct.countP_erase found _

theorem handles_flagged {key : Int} {h : Handle Attachment}
    (flags : SocketFlags) (found : v.sockets.get? key = some h) (name : String) (c : Nat) :
    (v.sockets.insert key { h with flags }).entries.countP (isHandleOf name c) =
      v.handles name c := by
  exact Table.countP_replace found rfl

theorem references_addReference {i j : Interface} {c : Nat} (h : i.addReference c = (.ok (), j))
    (d : Nat) :
    (j.connection d).references = (i.connection d).references + if d = c then 1 else 0 := by
  obtain ⟨owned, -, rfl⟩ := Interface.addReference_eq_ok h
  rw [Interface.connection_update _ (Interface.lt_of_references owned)]
  split <;> simp [*]

theorem references_open? {i j : Interface} {p : Protocol} {c : Nat} (h : i.open? p = (some c, j))
    (d : Nat) :
    (j.connection d).references = (i.connection d).references + if d = c then 1 else 0 := by
  obtain ⟨id, pool, -, rfl, rfl⟩ := Interface.open?_eq_some h
  rw [Interface.connection_append rfl]
  split
  · rename_i new
    rw [new, Interface.connection_of_le (Nat.le_refl _)]
    rfl
  · rfl

theorem references_release {i j : Interface} {c : Nat} {lines : List LogLine}
    (h : i.release c = .ok (lines, j)) (d : Nat) :
    (j.connection d).references + (if d = c then 1 else 0) = (i.connection d).references := by
  have owned := Interface.references_of_release h
  rw [Interface.connection_release h]
  split
  · rename_i same
    rw [same, Connection.released]
    split
    · simp [*]
    · simp only
      omega
  · rfl

/-- References and handles before and after a move; only a reference added directly tips the
balance. -/
def Balanced (v later : View) (added : Nat) (name : String) (c : Nat) : Prop :=
  later.references name c + v.handles name c = v.references name c + later.handles name c + added

theorem balanced_counted {name : String} {i : Interface} {c : Nat}
    (counted : (v.net name).addReference c = (.ok (), i)) (other : String) (d : Nat) :
    Balanced v (v.setNet name i) (if name = other ∧ c = d then 1 else 0) other d := by
  have references := references_addReference counted d
  simp only [Balanced, View.references, handles]
  by_cases here : other = name
  · subst here
    by_cases same : d = c
    · simp [setNet, same] at references ⊢
      omega
    · simp [setNet, same, Ne.symm same] at references ⊢
      omega
  · simp [setNet, here, Ne.symm here]

theorem balanced_insert {key : Int} {h : Handle Attachment} {i : Interface} {c : Nat}
    (fresh : v.sockets.get? key = none) (attached : Netlink.attached? h = some c)
    (references : ∀ d, (i.connection d).references =
      ((v.net h.family).connection d).references + if d = c then 1 else 0)
    (other : String) (d : Nat) :
    Balanced v { v.setNet h.family i with sockets := v.sockets.insert key h } 0 other d := by
  have handles := handles_insert h fresh other d
  simp only [Balanced, View.handles, View.references] at handles ⊢
  rw [handles]
  by_cases here : other = h.family
  · subst here
    have counted := references d
    by_cases same : d = c
    · simp [setNet, isHandleOf, attached, same] at counted ⊢
      omega
    · simp [setNet, isHandleOf, attached, same, Ne.symm same] at counted ⊢
      omega
  · simp [setNet, isHandleOf, here, Ne.symm here]

theorem balanced_erase (distinct : v.sockets.Distinct) {key : Int} {h : Handle Attachment}
    {i : Interface} {c : Nat} (attached : v.Attached key h c)
    (references : ∀ d, (i.connection d).references + (if d = c then 1 else 0) =
      ((v.net h.family).connection d).references)
    (other : String) (d : Nat) :
    Balanced v { v.setNet h.family i with sockets := v.sockets.erase key } 0 other d := by
  have handles := handles_erase distinct attached.1 other d
  simp only [Balanced, View.references]
  rw [handles]
  simp only [View.handles]
  by_cases here : other = h.family
  · subst here
    have counted := references d
    by_cases same : d = c
    · simp [setNet, isHandleOf, attached.2, same] at counted ⊢
      omega
    · simp [setNet, isHandleOf, attached.2, same, Ne.symm same] at counted ⊢
      omega
  · simp [setNet, isHandleOf, here, Ne.symm here]

/-- The moves that deal in references or handles; all others leave both as they are. -/
inductive Dealing (v : View) : Action → View → Prop
  | none {a : Action} {later : View} : (∀ name, (v.net name).SameBooks (later.net name)) →
      later.sockets = v.sockets → Dealing v a later
  | opened {a : Action} {key : Int} {p : Protocol} {h : Handle Attachment} {c : Nat}
      {i : Interface} : v.sockets.get? key = .none → (v.net h.family).open? p = (some c, i) →
      Netlink.attached? h = some c →
      Dealing v a { v.setNet h.family i with sockets := v.sockets.insert key h }
  | duplicated {a : Action} {fresh : Int} {h : Handle Attachment} {c : Nat} {i : Interface} :
      v.sockets.get? fresh = .none → Netlink.attached? h = some c →
      (v.net h.family).addReference c = (.ok (), i) →
      Dealing v a { v.setNet h.family i with sockets := v.sockets.insert fresh h }
  | closed {s : Session.Step} {key : Int} {h : Handle Attachment} {c : Nat}
      {lines : List LogLine} {i : Interface} : s = .close key ∨ s = .discard key →
      v.isBorrowed key = false → v.Attached key h c → (v.net h.family).release c = .ok (lines, i) →
      Dealing v (.step s) { v.setNet h.family i with sockets := v.sockets.erase key }
  | lost {a : Action} {key : Int} {h : Handle Attachment} : v.sockets.get? key = some h →
      (∀ c, Netlink.attached? h = some c → v.references h.family c = 0) →
      Dealing v a { v with sockets := v.sockets.erase key }
  | flagged {a : Action} {key : Int} {h : Handle Attachment} (flags : SocketFlags) :
      v.sockets.get? key = some h →
      Dealing v a { v with sockets := v.sockets.insert key { h with flags } }
  | counted {target : Session.Target} {name : String} {c : Nat} {i : Interface} :
      (v.net name).addReference c = (.ok (), i) →
      Dealing v (.step (.addReference target)) (v.setNet name i)

theorem dealing_none {name : String} {i : Interface} (same : (v.net name).SameBooks i)
    (net : later.net = (v.setNet name i).net) (sockets : later.sockets = v.sockets) :
    Dealing v a later := by
  refine .none (fun other => ?_) sockets
  rw [net]
  exact of_setNet (fun here => here ▸ same) fun _ => .refl _

theorem dealing (m : Move v a later) : Dealing v a later := by
  cases m with
  | opened fresh made attached => exact .opened fresh made (attached?_eq_some.2 attached)
  | duplicated fresh attached counted => exact .duplicated fresh attached.2 counted
  | closed ends free attached given => exact .closed ends free attached given
  | lost _ _ found none_left => exact .lost found none_left
  | flagged flags found => exact .flagged flags found
  | counted _ counted => exact .counted counted
  | named f names =>
    refine dealing_none (Interface.sameBooks_update f fun k => ?_) rfl rfl
    rw [names k]
    exact ⟨rfl, rfl⟩
  | armed _ _ made | beganPoll _ _ made =>
    exact dealing_none (Interface.sameBooks_arm made) rfl rfl
  | disarmed | lowered => exact dealing_none Interface.sameBooks_disarm rfl rfl
  | pushed | replied => exact dealing_none (Interface.sameBooks_push _) rfl rfl
  | popped _ taken | beganTaking _ taken | took _ _ _ taken =>
    exact dealing_none (Interface.sameBooks_pop? taken) rfl rfl
  | registered | withdrew | itemTaken =>
    refine dealing_none ?_ rfl rfl
    exact ⟨rfl, rfl, fun _ => rfl, fun _ => rfl⟩
  | itemFired => exact dealing_none (Interface.sameBooks_fire _ _ _ _) rfl rfl
  | _ => exact .none (fun _ => .refl _) rfl

theorem balanced (owned : v.Owned) (m : Move v a later) (name : String) (c : Nat) :
    ∃ added, Balanced v later added name c ∧
      ((∀ target, a ≠ .step (.addReference target)) → added = 0) := by
  cases dealing m with
  | none same sockets =>
    refine ⟨0, ?_, fun _ => rfl⟩
    simp only [Balanced, references, handles, sockets, (same name).references]
    rfl
  | opened fresh made attached =>
    exact ⟨0, balanced_insert fresh attached (references_open? made) name c, fun _ => rfl⟩
  | duplicated fresh attached counted =>
    exact ⟨0, balanced_insert fresh attached (references_addReference counted) name c,
      fun _ => rfl⟩
  | closed _ _ attached given =>
    exact ⟨0, balanced_erase owned.placed.distinct attached (references_release given) name c,
      fun _ => rfl⟩
  | lost found none_left =>
    obtain ⟨d, attached, -⟩ := owned.placed.sockets _ (Table.mem_of_get? found)
    have refers := attached?_eq_some.2 attached
    have counted := owned.references_pos ⟨found, refers⟩
    exact absurd (none_left d refers) (Nat.ne_of_gt counted)
  | flagged flags found =>
    refine ⟨0, ?_, fun _ => rfl⟩
    have handles := handles_flagged flags found name c
    simp only [Balanced, View.handles, View.references] at handles ⊢
    rw [handles]
    rfl
  | counted counted =>
    refine ⟨_, balanced_counted counted name c, fun other => ?_⟩
    exact absurd rfl (other _)

theorem Owned.move (owned : v.Owned) (m : Move v a later) : later.Owned where
  placed := owned.placed.move m
  handles_le name c := by
    obtain ⟨added, balance, -⟩ := balanced owned m name c
    have before := owned.handles_le name c
    unfold Balanced at balance
    omega

theorem references_setNet (v : View) (name : String) (i : Interface) (other : String) (c : Nat) :
    (v.setNet name i).references other c =
      if other = name then (i.connection c).references else v.references other c := by
  by_cases here : other = name
  · subst here
    simp [references]
  · simp [references, here]

theorem capacity_move (m : Move v a later) (name : String) :
    (later.net name).pool.capacity = (v.net name).pool.capacity := by
  have changed (n : String) (i : Interface) (same : i.pool.capacity = (v.net n).pool.capacity) :
      ((v.setNet n i).net name).pool.capacity = (v.net name).pool.capacity :=
    of_setNet (motive := fun i => i.pool.capacity = (v.net name).pool.capacity)
      (fun here => here ▸ same) fun _ => rfl
  cases dealing m with
  | none same => rw [(same name).pool]
  | opened _ made =>
    refine changed _ _ ?_
    obtain ⟨id, pool, allocated, -, rfl⟩ := Interface.open?_eq_some made
    unfold Pool.allocate? at allocated
    split at allocated
    · cases allocated
    · cases allocated
      rfl
  | duplicated _ _ counted | counted counted =>
    refine changed _ _ ?_
    obtain ⟨-, -, rfl⟩ := Interface.addReference_eq_ok counted
    rfl
  | closed _ _ _ given =>
    refine changed _ _ ?_
    rw [Interface.pool_release given]
    split <;> rfl
  | lost | flagged => rfl

theorem books_move (m : Move v a later) {name : String} (b : (v.net name).Books)
    (few : (later.net name).connections.length < Interface.identities) :
    (later.net name).Books := by
  have changed (n : String) (i : Interface)
      (kept : n = name → (v.net n).Books → i.connections.length < Interface.identities → i.Books)
      (few : ((v.setNet n i).net name).connections.length < Interface.identities) :
      ((v.setNet n i).net name).Books := by
    by_cases here : n = name
    · subst here
      simp only [net_setNet, Function.update_self] at few ⊢
      exact kept rfl b few
    · simpa [Ne.symm here] using b
  cases dealing m with
  | none same => exact b.of_same (same name)
  | opened _ made => exact changed _ _ (fun _ b few => b.opened made few) few
  | duplicated _ _ counted | counted counted =>
    exact changed _ _ (fun _ b _ => b.shared counted) few
  | closed _ _ _ given => exact changed _ _ (fun _ b _ => b.closed given) few
  | lost | flagged => exact b

theorem references_gone (m : Move v a later) {name : String} {c : Nat}
    (owned : 0 < v.references name c) (gone : later.references name c = 0) :
    v.EndsLast name c a ∧ ((later.net name).connection c).armed = none := by
  have grows {n : String} {i : Interface} {d : Nat}
      (more : ∀ e, (i.connection e).references =
        ((v.net n).connection e).references + if e = d then 1 else 0)
      (gone : (v.setNet n i).references name c = 0) : False := by
    rw [references_setNet] at gone
    split at gone
    · rename_i here
      rw [more] at gone
      rw [here] at owned
      unfold references at owned
      omega
    · omega
  cases dealing m with
  | none same =>
    rw [references, (same name).references] at gone
    exact absurd gone (Nat.ne_of_gt owned)
  | opened _ made => exact (grows (references_open? made) gone).elim
  | duplicated _ _ counted | counted counted =>
    exact (grows (references_addReference counted) gone).elim
  | @closed s key h d lines i ends free attached given =>
    have fewer := references_release given c
    have after : (v.setNet h.family i).references name c = 0 := gone
    rw [references_setNet] at after
    split at after
    · rename_i here
      rw [after] at fewer
      split at fewer
      · rename_i same
        subst same
        subst here
        have last : ((v.net h.family).connection c).references = 1 := fewer.symm
        refine ⟨⟨s, key, h, rfl, ends, free, attached, rfl, last⟩, ?_⟩
        have released := Interface.connection_release given c
        rw [if_pos rfl, Connection.released, if_pos last] at released
        simp [setNet, released]
      · rw [here] at owned
        exact absurd fewer (Nat.ne_of_lt owned)
    · omega
  | lost | flagged => exact absurd gone (Nat.ne_of_gt owned)

theorem references_stay (m : Move v a later) {name : String} {c : Nat}
    (within : c < (v.net name).connections.length) (gone : v.references name c = 0) :
    later.references name c = 0 := by
  have changed {n : String} {i : Interface}
      (kept : name = n → (i.connection c).references = 0) :
      (v.setNet n i).references name c = 0 := by
    rw [references_setNet]
    split
    · exact kept ‹_›
    · exact gone
  cases dealing m with
  | none same =>
    rw [references, (same name).references]
    exact gone
  | opened _ made =>
    refine changed fun here => ?_
    subst here
    obtain ⟨id, pool, -, rfl, -⟩ := Interface.open?_eq_some made
    rw [references_open? made, if_neg (Nat.ne_of_lt within)]
    exact gone
  | @duplicated _ _ _ d _ _ _ counted | @counted _ _ d _ counted =>
    refine changed fun here => ?_
    subst here
    have owned := (Interface.addReference_eq_ok counted).1
    have other : c ≠ d := by
      rintro rfl
      exact absurd gone (Nat.ne_of_gt owned)
    rw [references_addReference counted, if_neg other]
    exact gone
  | closed _ _ _ given =>
    refine changed fun here => ?_
    subst here
    have fewer := references_release given c
    unfold references at gone
    omega
  | lost | flagged => exact gone

theorem references_new (m : Move v a later) {name : String} {c : Nat}
    (beyond : (v.net name).connections.length ≤ c)
    (within : c < (later.net name).connections.length) : 0 < later.references name c := by
  have changed {n : String} {i : Interface}
      (same : i.connections.length = (v.net n).connections.length)
      (within : c < ((v.setNet n i).net name).connections.length) : False := by
    by_cases here : name = n
    · subst here
      simp [same] at within
      omega
    · simp [here] at within
      omega
  cases dealing m with
  | none same => exact absurd within (Nat.not_lt.2 ((same name).length ▸ beyond))
  | @opened _ _ _ h d i _ made =>
    obtain ⟨id, pool, -, rfl, made_eq⟩ := Interface.open?_eq_some made
    change 0 < (v.setNet h.family i).references name c
    rw [references_setNet]
    by_cases here : name = h.family
    · subst here
      have length : i.connections.length = (v.net h.family).connections.length + 1 := by
        simp [made_eq]
      simp [length] at within
      rw [if_pos rfl, references_open? made, if_pos (by omega)]
      omega
    · simp [here] at within
      omega
  | duplicated _ _ counted | counted counted =>
    obtain ⟨-, -, rfl⟩ := Interface.addReference_eq_ok counted
    exact (changed (Interface.length_update _) within).elim
  | closed _ _ _ given => exact (changed (Interface.length_release given) within).elim
  | lost | flagged => exact absurd within (Nat.not_lt.2 beyond)

end View

namespace Concurrent

variable {t : Concurrent}

theorem IsFresh.no_handles (fresh : t.IsFresh) (name : String) (c : Nat) :
    t.view.handles name c = 0 := by
  have sockets : t.view.sockets = .empty := fresh.sockets
  simp [View.handles, sockets, Table.empty]

theorem IsFresh.no_connections (fresh : t.IsFresh) (name : String) :
    (t.net name).connections = [] := by
  obtain ⟨limits, handlers, made⟩ := fresh.nets name
  rw [made]
  rfl

theorem IsFresh.no_references (fresh : t.IsFresh) (name : String) (c : Nat) :
    t.view.references name c = 0 := by
  have beyond : (t.net name).connections.length ≤ c := by simp [fresh.no_connections]
  exact congrArg Connection.references (Interface.connection_of_le beyond)

theorem IsFresh.owned (fresh : t.IsFresh) : t.view.Owned where
  placed := fresh.placed
  handles_le name c := by
    rw [fresh.no_handles]
    exact Nat.zero_le _

theorem owned_run (fresh : t.IsFresh) (actions : List Action) : (t.run actions).view.Owned :=
  run_move (fun _ _ _ m owned => owned.move m) fresh.isNetlink fresh.owned actions

/-- Whether a step adds a reference to a connection directly, and succeeds. -/
def addsReference (name : String) (c : Nat) : Concurrent × Action → Bool
  | (t, .step (.addReference target)) =>
    match t.session.findTarget target with
    | .error _ => false
    | .ok (n, d) => n = name && d = c && ((t.net n).connection d).shareable
  | _ => false

theorem view_addReference (target : Session.Target) :
    (t.act (.step (.addReference target))).view =
      match t.session.findTarget target with
      | .error _ => t.view
      | .ok (name, c) => t.view.setNet name ((t.net name).addReference c).2 := by
  change (t.inSession (t.session.addReference target).2).view = _
  unfold Session.addReference Session.withTarget Session.whenFound
  cases t.session.findTarget target with
  | error refusal => rfl
  | ok place =>
    simp only [settle_snd, inSession, view, net, signals, world, View.setNet, World.net_setNet]
    rfl

theorem shareable_of_addReference {i j : Interface} {c : Nat} (h : i.addReference c = (.ok (), j)) :
    (i.connection c).shareable = true := by
  obtain ⟨owned, room, -⟩ := Interface.addReference_eq_ok h
  simp [Connection.shareable, owned, room]

theorem balanced_act (netlink : t.IsNetlink) (owned : t.view.Owned) (a : Action) (name : String)
    (c : Nat) :
    View.Balanced t.view (t.act a).view (addsReference name c (t, a)).toNat name c := by
  by_cases direct : ∃ target, a = .step (.addReference target)
  · obtain ⟨target, rfl⟩ := direct
    rw [view_addReference]
    simp only [addsReference]
    cases found : t.session.findTarget target with
    | error refusal => rfl
    | ok place =>
      obtain ⟨n, d⟩ := place
      simp only
      rcases counted : (t.net n).addReference d with ⟨fault | ⟨⟩, i⟩
      · obtain ⟨unshareable, -, rfl⟩ := Interface.addReference_eq_error counted
        simp only [unshareable, Bool.and_false]
        rw [show t.view.setNet n (t.net n) = t.view from t.view.setNet_net n]
        rfl
      · simp only [shareable_of_addReference counted, Bool.and_true]
        convert View.balanced_counted (v := t.view) counted name c using 1
        by_cases here : n = name <;> by_cases same : d = c <;> simp [here, same]
  · obtain ⟨added, balance, none_added⟩ := View.balanced owned (act_move netlink a) name c
    have other : addsReference name c (t, a) = false := by
      unfold addsReference
      split
      · rename_i target step
        exact absurd ⟨target, (Prod.mk.inj step).2⟩ direct
      · rfl
    rw [none_added fun target same => direct ⟨target, same⟩] at balance
    rw [other]
    exact balance

theorem balanced_run (netlink : t.IsNetlink) (owned : t.view.Owned) (actions : List Action)
    (name : String) (c : Nat) :
    View.Balanced t.view (t.run actions).view
      ((t.trace actions).countP (addsReference name c)) name c := by
  induction actions generalizing t with
  | nil => rfl
  | cons a actions ih =>
    have first := balanced_act netlink owned a name c
    have rest := ih (netlink.act a) (owned.move (act_move netlink a))
    simp only [View.Balanced, run_cons, trace_cons, List.countP_cons] at first rest ⊢
    cases h : addsReference name c (t, a) <;> simp [h] at first ⊢ <;> omega

theorem references_counted (fresh : t.IsFresh) (actions : List Action) (name : String) (c : Nat) :
    (t.run actions).view.references name c =
      (t.run actions).view.handles name c + (t.trace actions).countP (addsReference name c) := by
  have balance := balanced_run fresh.isNetlink fresh.owned actions name c
  rw [View.Balanced, fresh.no_handles, fresh.no_references] at balance
  omega

theorem IsFresh.books (fresh : t.IsFresh) (name : String) : (t.net name).Books := by
  have references (c : Nat) : ((t.net name).connection c).references = 0 :=
    fresh.no_references name c
  have connections := fresh.no_connections name
  obtain ⟨limits, handlers, made⟩ := fresh.nets name
  have pool : (t.net name).pool = .ofCapacity limits.connections := by
    rw [made]
    rfl
  constructor
  · rw [pool]
    exact List.nodup_nil
  · intro id
    simp [pool, Pool.ofCapacity, references]
  · rw [pool]
    exact Nat.zero_le _
  · simp [connections]
  · rw [pool, connections]
    rfl
  · intro c
    rw [references]
    exact Nat.zero_le _

theorem books_run (fresh : t.IsFresh) (actions : List Action) {name : String}
    (few : ((t.run actions).net name).connections.length < Interface.identities) :
    ((t.run actions).net name).Books := by
  have keeps (v : View) (a : Action) (later : View) (m : Move v a later)
      (b : (v.net name).connections.length < Interface.identities → (v.net name).Books)
      (few : (later.net name).connections.length < Interface.identities) :
      (later.net name).Books :=
    View.books_move m (b (Nat.lt_of_le_of_lt (View.length_le m name) few)) few
  exact run_move keeps fresh.isNetlink (fun _ => fresh.books name) actions few

theorem capacity_run (netlink : t.IsNetlink) (actions : List Action) (name : String) :
    ((t.run actions).net name).pool.capacity = (t.net name).pool.capacity := by
  have keeps (v : View) (a : Action) (later : View) (m : Move v a later)
      (same : (v.net name).pool.capacity = (t.net name).pool.capacity) :
      (later.net name).pool.capacity = (t.net name).pool.capacity :=
    (View.capacity_move m name).trans same
  exact run_move keeps netlink rfl actions

theorem length_run (netlink : t.IsNetlink) (actions : List Action) (name : String) :
    (t.net name).connections.length ≤ ((t.run actions).net name).connections.length := by
  have keeps (v : View) (a : Action) (later : View) (m : Move v a later)
      (grown : (t.net name).connections.length ≤ (v.net name).connections.length) :
      (t.net name).connections.length ≤ (later.net name).connections.length :=
    Nat.le_trans grown (View.length_le m name)
  exact run_move keeps netlink (Nat.le_refl _) actions

def leavesPool (name : String) (c : Nat) (step : Concurrent × Action) : Bool :=
  let id := ((step.1.net name).connection c).id
  id ∈ (step.1.net name).pool.live && id ∉ ((step.1.act step.2).net name).pool.live

/-- Whether a step closes or drops the handle that holds the only reference of a connection. -/
def endsLast (name : String) (c : Nat) : Concurrent × Action → Bool
  | (t, .step (.close key)) | (t, .step (.discard key)) =>
    !t.isBorrowed key && t.view.references name c = 1 &&
      (t.attached? key).any fun (h, d) => h.family = name && d = c
  | _ => false

theorem endsLast_eq_true {name : String} {c : Nat} {a : Action} :
    endsLast name c (t, a) = true ↔ t.view.EndsLast name c a := by
  have ended (key : Int) : (!t.isBorrowed key && t.view.references name c = 1 &&
      (t.attached? key).any fun (h, d) => h.family = name && d = c) = true ↔
      ∃ h, t.view.isBorrowed key = false ∧ t.view.Attached key h c ∧ h.family = name ∧
        t.view.references name c = 1 := by
    simp only [Bool.and_eq_true, Bool.not_eq_true', decide_eq_true_eq, Option.any_eq_true,
      Prod.exists, attached?_eq_some]
    constructor
    · rintro ⟨⟨free, counted⟩, h, d, attached, family, rfl⟩
      exact ⟨h, free, attached, family, counted⟩
    · rintro ⟨h, free, attached, family, counted⟩
      exact ⟨⟨free, counted⟩, h, c, attached, family, rfl⟩
  constructor
  · intro last
    unfold endsLast at last
    split at last
    · rename_i step
      cases step
      obtain ⟨h, rest⟩ := (ended _).1 last
      exact ⟨_, _, h, rfl, .inl rfl, rest⟩
    · rename_i step
      cases step
      obtain ⟨h, rest⟩ := (ended _).1 last
      exact ⟨_, _, h, rfl, .inr rfl, rest⟩
    · cases last
  · rintro ⟨s, key, h, rfl, rfl | rfl, rest⟩
    · exact (ended key).2 ⟨h, rest⟩
    · exact (ended key).2 ⟨h, rest⟩

end Concurrent

end NetlinkSocket
