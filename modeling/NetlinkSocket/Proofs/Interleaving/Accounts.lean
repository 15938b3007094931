import NetlinkSocket.Proofs.Interleaving.Ownership

/-!
The accounts of an interface after any run: references against handles, the pool against
references, and what the steps that deal in references answer.
-/

namespace NetlinkSocket.Concurrent

variable {t : Concurrent} {name : String} {c : Nat}

theorem live_within (b : (t.net name).Books)
    (live : ((t.net name).connection c).id ∈ (t.net name).pool.live) :
    c < (t.net name).connections.length := by
  refine Nat.lt_of_not_le fun beyond => ?_
  obtain ⟨d, same, counted⟩ := (b.live _).1 live
  have number := b.numbered d (Interface.lt_of_references counted)
  rw [same, Interface.connection_of_le beyond] at number
  exact absurd number (Nat.succ_ne_zero d).symm

theorem id_act {a : Action} (b : (t.net name).Books) (later : ((t.act a).net name).Books)
    (m : Move t.view a (t.act a).view) (within : c < (t.net name).connections.length) :
    (((t.act a).net name).connection c).id = ((t.net name).connection c).id := by
  have before := b.numbered c within
  have after := later.numbered c (Nat.lt_of_lt_of_le within (View.length_le m name))
  have same := UInt32.toNat_inj.1 (after.trans before.symm)
  cases h : (((t.act a).net name).connection c).id
  cases g : ((t.net name).connection c).id
  rw [h, g] at same
  exact congrArg ConnectionId.mk same

theorem leavesPool_eq_endsLast (netlink : t.IsNetlink) (owned : t.view.Owned)
    (b : (t.net name).Books) (a : Action)
    (few : ((t.act a).net name).connections.length < Interface.identities) :
    leavesPool name c (t, a) = endsLast name c (t, a) := by
  have m := act_move netlink a
  have later : ((t.act a).net name).Books := View.books_move m b few
  rw [Bool.eq_iff_iff]
  constructor
  · intro leaves
    simp only [leavesPool, Bool.and_eq_true, decide_eq_true_eq] at leaves
    have within := live_within b leaves.1
    have gone : (t.act a).view.references name c = 0 := by
      refine Nat.eq_zero_of_not_pos fun counted => leaves.2 ?_
      rw [← id_act b later m within]
      exact (later.live_iff (Nat.lt_of_lt_of_le within (View.length_le m name))).2 counted
    exact endsLast_eq_true.2 (View.references_gone m ((b.live_iff within).1 leaves.1) gone).1
  · intro last
    obtain ⟨s, key, h, rfl, ends, free, attached, rfl, counted⟩ := endsLast_eq_true.1 last
    have some_left : 0 < ((t.net h.family).connection c).references :=
      owned.references_pos attached
    obtain ⟨lines, i, given⟩ := Interface.release_of_references some_left
    have pool : ((t.act (.step s)).net h.family).pool =
        (t.net h.family).pool.free ((t.net h.family).connection c).id := by
      have view := congrArg View.net (view_of_release netlink ends free attached given)
      have net : (t.act (.step s)).net h.family = i :=
        (congrFun view h.family).trans (by simp [View.setNet])
      rw [net, Interface.pool_release given]
      exact if_pos counted
    simp only [leavesPool, pool, Bool.and_eq_true, decide_eq_true_eq]
    exact ⟨(b.live_iff (Interface.lt_of_references some_left)).2 some_left, Pool.not_mem_free _ _⟩

def isReleased (t : Concurrent) (name : String) (c : Nat) : Bool :=
  c < (t.net name).connections.length && t.view.references name c = 0

theorem isReleased_act (netlink : t.IsNetlink) (owned : t.view.Owned) (b : (t.net name).Books)
    (a : Action) (few : ((t.act a).net name).connections.length < Interface.identities) :
    (leavesPool name c (t, a)).toNat + (t.isReleased name c).toNat =
      ((t.act a).isReleased name c).toNat := by
  have m := act_move netlink a
  have later : ((t.act a).net name).Books := View.books_move m b few
  have grown := View.length_le m name
  by_cases within : c < (t.net name).connections.length
  · have within_later : c < ((t.act a).net name).connections.length :=
      Nat.lt_of_lt_of_le within grown
    by_cases counted : 0 < t.view.references name c
    · have kept : t.isReleased name c = false := by simp [isReleased, Nat.ne_of_gt counted]
      by_cases gone : (t.act a).view.references name c = 0
      · have last := endsLast_eq_true.2 ((View.references_gone m counted gone).1)
        rw [leavesPool_eq_endsLast netlink owned b a few, last, kept]
        simp [isReleased, within_later, gone]
      · have stays : leavesPool name c (t, a) = false := by
          simp only [leavesPool, Bool.and_eq_false_iff, decide_eq_false_iff_not, not_not]
          refine .inr ?_
          rw [← id_act b later m within]
          exact (later.live_iff within_later).2 (Nat.pos_of_ne_zero gone)
        rw [stays, kept]
        simp [isReleased, gone]
    · have none_left : t.view.references name c = 0 := Nat.eq_zero_of_not_pos counted
      have before : leavesPool name c (t, a) = false := by
        simp only [leavesPool, Bool.and_eq_false_iff, decide_eq_false_iff_not]
        exact .inl fun live => counted ((b.live_iff within).1 live)
      have still := View.references_stay m within none_left
      rw [before]
      simp [isReleased, within, within_later, none_left, still]
  · have before : leavesPool name c (t, a) = false := by
      simp only [leavesPool, Bool.and_eq_false_iff, decide_eq_false_iff_not]
      exact .inl fun live => within (live_within b live)
    have fresh : (t.act a).isReleased name c = false := by
      simp only [isReleased, Bool.and_eq_false_iff, decide_eq_false_iff_not]
      by_cases opened : c < ((t.act a).net name).connections.length
      · exact .inr (Nat.ne_of_gt (View.references_new m (Nat.le_of_not_lt within) opened))
      · exact .inl opened
    rw [before, fresh]
    simp [isReleased, within]

theorem isReleased_run (netlink : t.IsNetlink) (owned : t.view.Owned) (b : (t.net name).Books)
    (actions : List Action)
    (few : ((t.run actions).net name).connections.length < Interface.identities) :
    (t.trace actions).countP (leavesPool name c) + (t.isReleased name c).toNat =
      ((t.run actions).isReleased name c).toNat := by
  induction actions generalizing t with
  | nil => simp
  | cons a actions ih =>
    have few_first : ((t.act a).net name).connections.length < Interface.identities :=
      Nat.lt_of_le_of_lt (length_run (netlink.act a) actions name) few
    have m := act_move netlink a
    have first := isReleased_act (c := c) netlink owned b a few_first
    have rest := ih (netlink.act a) (owned.move m) (View.books_move m b few_first) few
    rw [trace_cons, List.countP_cons, run_cons, ← rest, ← first]
    cases leavesPool name c (t, a) <;> simp; omega

theorem leavesPool_trace (netlink : t.IsNetlink) (owned : t.view.Owned) (b : (t.net name).Books)
    (actions : List Action)
    (few : ((t.run actions).net name).connections.length < Interface.identities) :
    ∀ step ∈ t.trace actions, leavesPool name c step = endsLast name c step := by
  induction actions generalizing t with
  | nil => simp
  | cons a actions ih =>
    have few_first : ((t.act a).net name).connections.length < Interface.identities :=
      Nat.lt_of_le_of_lt (length_run (netlink.act a) actions name) few
    have m := act_move netlink a
    intro step mem
    rw [trace_cons] at mem
    rcases List.mem_cons.1 mem with rfl | later
    · exact leavesPool_eq_endsLast netlink owned b a few_first
    · exact ih (netlink.act a) (owned.move m) (View.books_move m b few_first) few step later

theorem addReference_of_bounds {i : Interface}
    (bounded : (i.connection c).references ≤ Connection.maxReferences) :
    if (i.connection c).references = 0 ∨ (i.connection c).references = Connection.maxReferences
    then i.addReference c =
      (.error (.referenceCount (i.connection c).references (i.connection c).id), i)
    else ∃ j, i.addReference c = (.ok (), j) := by
  split
  · rename_i bound
    have refused : (i.connection c).shareable = false := by
      simp only [Connection.shareable, Bool.and_eq_false_iff, decide_eq_false_iff_not]
      omega
    have fault := Connection.addReference_eq_error.2 ⟨refused, rfl, rfl⟩
    simp only [Interface.addReference, fault, Interface.update_self]
  · rename_i between
    have shareable : (i.connection c).shareable = true := by
      simp only [Connection.shareable, Bool.and_eq_true, decide_eq_true_eq]
      omega
    simp [Interface.addReference, Connection.addReference, shareable]

/-- A step that adds a reference answers a fault and leaves the session as it was when the count
stands at a bound; else it succeeds. -/
def CountsUp (t : Concurrent) (k : Connection) (answer : Session.Answer) : Prop :=
  if k.references = 0 ∨ k.references = Connection.maxReferences then
    answer = (.error (.stopped (.faulted (.referenceCount k.references k.id))), t.session)
  else answer.1 = .ok .done

theorem countsUp_addReference (p : t.view.Placed) (b : (t.net name).Books)
    {target : Session.Target} (reached : t.view.Reaches target name c) :
    CountsUp t ((t.net name).connection c) (t.session.addReference target) := by
  have counted := addReference_of_bounds (b.bounded c)
  rw [addReference_of_reaches reached]
  unfold CountsUp
  split at counted
  · rename_i bound
    have opened : c < (t.world.net name).connections.length := (p.of_reaches reached).1
    have same : t.world.setNet name (t.net name) = t.world := World.setNet_net opened
    rw [if_pos bound, counted, same]
    rfl
  · rename_i between
    obtain ⟨j, shared⟩ := counted
    rw [if_neg between, shared]
    rfl

theorem countsUp_duplicate (netlink : t.IsNetlink) (p : t.view.Placed) (b : (t.net name).Books) {key fresh : Int}
    {h : Handle Attachment} (free : t.session.sockets.get? fresh = none)
    (attached : t.view.Attached key h c) (family : h.family = name) :
    CountsUp t ((t.net name).connection c) (t.session.duplicate key fresh) := by
  subst family
  have counted := addReference_of_bounds (b.bounded c)
  rw [duplicate_of_addReference netlink free attached]
  unfold CountsUp
  split at counted
  · rename_i bound
    have opened : c < (t.world.net h.family).connections.length := (p.of_attached attached).1
    have same : t.world.setNet h.family (t.net h.family) = t.world := World.setNet_net opened
    rw [if_pos bound, counted]
    simp only [same]
    rfl
  · rename_i between
    obtain ⟨j, shared⟩ := counted
    rw [if_neg between, shared]

/-- What holds of an interface after a run. References are handles and direct additions; the pool
holds the identities of the connections with references, each of which leaves it once, with the
last handle. The end of a handle never fails, closed or dropped; references are added except at
the bounds; and a socket call that passes its checks fails only if the pool is full. -/
structure Accounts (t : Concurrent) (actions : List Action) (name : String) : Prop where
  references : ∀ c, (t.run actions).view.references name c =
    (t.run actions).view.handles name c + (t.trace actions).countP (addsReference name c)
  bounded : ∀ c, (t.run actions).view.references name c ≤ 255
  live : ∀ id, id ∈ ((t.run actions).net name).pool.live ↔
    ∃ c, (((t.run actions).net name).connection c).id = id ∧
      0 < (t.run actions).view.references name c
  count : ((t.run actions).net name).pool.count =
    ((t.run actions).net name).connections.countP fun k => 0 < k.references
  capacity : ((t.run actions).net name).pool.count ≤ (t.net name).pool.capacity
  leaves_once : ∀ c, (t.trace actions).countP (leavesPool name c) =
    if (t.run actions).isReleased name c then 1 else 0
  leaves_last : ∀ c, ∀ step ∈ t.trace actions, leavesPool name c step = endsLast name c step
  ends : ∀ key h c, (t.run actions).view.Attached key h c → h.family = name →
    ((t.run actions).session.close key).1 = .ok .done ∧
      (t.run actions).session.discard key = (t.run actions).session.close key ∧
      ∃ lines i, ((t.run actions).net name).release c = .ok (lines, i) ∧
        ((t.run actions).view.references name c = 1 → (i.connection c).references = 0 ∧
          (((t.run actions).net name).connection c).id ∈ ((t.run actions).net name).pool.live)
  adds : ∀ target c, (t.run actions).view.Reaches target name c →
    CountsUp (t.run actions) (((t.run actions).net name).connection c)
      ((t.run actions).session.addReference target)
  duplicates : ∀ key fresh h c, (t.run actions).session.sockets.get? fresh = none →
    (t.run actions).view.Attached key h c → h.family = name →
    CountsUp (t.run actions) (((t.run actions).net name).connection c)
      ((t.run actions).session.duplicate key fresh)
  opens : ∀ key domain type protocol, (t.run actions).session.sockets.get? key = none →
    (t.run actions).Passes name domain type protocol →
    ((t.run actions).session.socket key domain type protocol).1 =
      if ((t.run actions).net name).pool.count = (t.net name).pool.capacity then
        .error (.stopped (.failed .connectionsExhausted))
      else .ok .done

theorem accounts_run (fresh : t.IsFresh) (actions : List Action) (name : String)
    (few : ((t.run actions).net name).connections.length < Interface.identities) :
    Accounts t actions name := by
  have netlink := fresh.isNetlink
  have owned := owned_run fresh actions
  have b := books_run fresh actions few
  have capacity := capacity_run netlink actions name
  constructor
  case references => exact references_counted fresh actions name
  case bounded => exact b.bounded
  case live => exact b.live
  case count => exact b.count_live
  case capacity => exact capacity ▸ b.capacity
  case leaves_once =>
    intro c
    have once := isReleased_run (c := c) netlink fresh.owned (fresh.books name) actions few
    have unopened : t.isReleased name c = false := by
      simp [isReleased, fresh.no_connections]
    rw [unopened] at once
    cases released : (t.run actions).isReleased name c <;> simpa [released] using once
  case leaves_last =>
    intro c
    exact leavesPool_trace netlink fresh.owned (fresh.books name) actions few
  case ends =>
    rintro key h c attached rfl
    have counted := owned.references_pos attached
    obtain ⟨lines, i, given⟩ := Interface.release_of_references counted
    obtain ⟨closed, same⟩ := close_of_release (netlink.run actions) attached given
    refine ⟨congrArg Prod.fst closed, same, lines, i, given, fun last => ⟨?_, ?_⟩⟩
    · have fewer := View.references_release given c
      unfold View.references at last
      rw [if_pos rfl] at fewer
      exact Nat.succ.inj (fewer.trans last)
    · exact (b.live_iff (Interface.lt_of_references counted)).2 counted
  case adds =>
    intro target c reached
    exact countsUp_addReference owned.placed b reached
  case duplicates =>
    intro key free h c unused attached family
    exact countsUp_duplicate (netlink.run actions) owned.placed b unused attached family
  case opens =>
    intro key domain type protocol free passes
    have full : (t.net name).pool.capacity ≤ ((t.run actions).net name).pool.count ↔
        ((t.run actions).net name).pool.count = (t.net name).pool.capacity := by
      have bound := capacity ▸ b.capacity
      unfold Pool.count
      omega
    rw [socket_of_passes (netlink.run actions) free passes, capacity]
    simp only [full]

/-- Two handles and a reference added directly, of which one handle is closed. -/
def twoHandles : List Action :=
  [.step (.register 16 "nl"), .step (.socket 0 16 3 0), .step (.duplicate 0 1),
    .step (.addReference (.socket 1)), .step (.close 0)]

theorem accounts_twoHandles :
    ((start .withRoute [("nl", Interface.defaultLimits, [])]).run twoHandles).view.references
        "nl" 0 = 2 ∧
      Accounts (start .withRoute [("nl", Interface.defaultLimits, [])]) twoHandles "nl" :=
  ⟨by decide +kernel, accounts_run (isFresh_start _ _) _ _ (by decide +kernel)⟩

end NetlinkSocket.Concurrent
