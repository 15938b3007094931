import NetlinkSocket.Proofs.Admission
import NetlinkSocket.Proofs.Interleaving.Courses

/-!
Which sockets block. A socket has the mode that was last set on it, and until then the one its
original had when it was duplicated, or the one its type asked for when it was opened. Sockets that
share a connection have modes of their own.
-/

namespace NetlinkSocket

open Concurrent (Action)

namespace Flags

variable {κ : Type} [FlagKind κ]

theorem has_assign {f : κ} (known : f ∈ (FlagKind.members : List κ)) (nonzero : FlagKind.mask f ≠ 0)
    (s : Flags κ) (present : Bool) : (s.assign f present).has f = present := by
  have own : (single f).bits = FlagKind.mask f := FlagKind.mask_and_all known
  cases present with
  | true =>
    have put : (s.bits ||| FlagKind.mask f) &&& FlagKind.mask f = FlagKind.mask f := by
      grind
    simp only [assign, if_true, has, union, own, put, beq_self_eq_true]
  | false =>
    have taken : (s.bits &&& ~~~FlagKind.mask f) &&& FlagKind.mask f = 0 := by
      ext i inside
      grind
    simp only [assign, Bool.false_eq_true, if_false, has, diff, own, taken]
    exact beq_false_of_ne nonzero.symm

end Flags

namespace Session.Step

def sets? : Step → Option Int
  | socket key .. | duplicate _ key | setNonblocking key _ => some key
  | _ => none

end Session.Step

def Session.modeGiven (s : Session) : Step → Option Bool
  | .socket _ _ type _ => some (type &&& 0x800 == 0x800)
  | .duplicate original _ => (s.sockets.get? original).map (·.nonblocking)
  | .setNonblocking _ on => some on
  | _ => none

theorem View.socket_of_move {v later : View} {a : Action} (m : Move v a later) {key : Int}
    {h : Handle Attachment} (found : later.sockets.get? key = some h)
    (other : ∀ s, a = .step s → s.sets? ≠ some key) : v.sockets.get? key = some h := by
  have inserted (at_key : Int) (g : Handle Attachment) (ne : some at_key ≠ some key)
      (found : (v.sockets.insert at_key g).get? key = some h) : v.sockets.get? key = some h := by
    rwa [Table.get?_insert_of_ne _ fun same => ne (congrArg some same.symm)] at found
  have erased (at_key : Int) (found : (v.sockets.erase at_key).get? key = some h) :
      v.sockets.get? key = some h := by
    by_cases same : key = at_key
    · subst same
      rw [Table.get?_erase_self] at found
      cases found
    · rwa [Table.get?_erase_of_ne _ same] at found
  cases m with
  | opened | duplicated => exact inserted _ _ (other _ rfl) found
  | flagged => exact inserted _ _ (other _ rfl) found
  | closed | lost => exact erased _ found
  | _ => exact found

namespace Concurrent

variable {t : Concurrent} {actions : List Action} {a : Action} {key : Int} {h : Handle Attachment}

def succeeds (t : Concurrent) (s : Session.Step) : Bool :=
  !(s.exclusive?.any t.isBorrowed) && (t.session.step t.calls.length s).1.isOk

/-- The mode that a step gives to a socket: a step that succeeds in opening it, in making it a
duplicate, or in setting it. -/
def modeBy (key : Int) : Concurrent × Action → Option Bool
  | (t, .step s) => if s.sets? = some key ∧ t.succeeds s = true then t.session.modeGiven s else none
  | _ => none

/-- The mode that a run gave to a socket last. -/
def lastMode (t : Concurrent) (actions : List Action) (key : Int) : Option Bool :=
  ((t.trace actions).filterMap (modeBy key)).getLast?

theorem modeBy_of_succeeds {s : Session.Step} (sets : s.sets? = some key)
    (succeeds : t.succeeds s = true) : modeBy key (t, .step s) = t.session.modeGiven s :=
  if_pos ⟨sets, succeeds⟩

/-! One action -/

/-- How a step may leave the sockets that settles the mode of one of them. No socket is made where
there is one already. -/
inductive SetsMode (t : Concurrent) (key : Int) (s : Session.Step) : Session.Answer → Prop
  | fails {obstacle : Session.Obstacle} {later : Session} :
      later.sockets = t.session.sockets → SetsMode t key s (.error obstacle, later)
  | gives {reply : Session.Reply} {later : Session} {h : Handle Attachment} :
      t.session.sockets.get? key = none ∨ (∃ on, s = .setNonblocking key on) →
      t.session.modeGiven s = some h.nonblocking →
      later.sockets = t.session.sockets.insert key h → SetsMode t key s (.ok reply, later)

theorem setsMode_socket (netlink : t.IsNetlink) (key : Int) (domain type protocol : Int32) :
    SetsMode t key (.socket key domain type protocol)
      (t.session.socket key domain type protocol) := by
  unfold Session.socket Session.whenFound Session.freshKey Table.has
  cases free : t.session.sockets.get? key with
  | some h => exact .fails rfl
  | none =>
    have dispatches : t.session.Dispatches domain := fun name traits _ => netlink.1 name traits
    have settled : t.session.Settles domain type protocol := Session.settles dispatches
    simp only [Option.isSome_none, Bool.false_eq_true, if_false]
    rcases settled with ⟨failure, -, later, refused, -⟩ | ⟨-, name, h, later, -, opened, opens⟩
    · rw [refused]
      exact .fails rfl
    · have asked : h.nonblocking = (type &&& 0x800 == 0x800) := by
        rw [Bool.eq_iff_iff, opens.nonblocking, beq_iff_eq]
      rw [opened]
      exact .gives (.inl free) (congrArg some asked.symm) rfl

theorem setsMode_duplicate (netlink : t.IsNetlink) (original key : Int) :
    SetsMode t key (.duplicate original key) (t.session.duplicate original key) := by
  unfold Session.duplicate Session.withSocket Session.whenFound Session.freshKey
    Session.findSocket Table.has
  cases free : t.session.sockets.get? key with
  | some h => exact .fails rfl
  | none =>
    cases found : t.session.sockets.get? original with
    | none => exact .fails rfl
    | some h =>
      simp only [Option.isSome_none, Bool.false_eq_true, if_false, netlink.family]
      rcases Netlink.duplicate_cases t.session.build h t.session.world with
        ⟨stop, later, refused, -⟩ | ⟨c, i, -, -, made⟩
      · rw [refused]
        exact .fails rfl
      · have given : t.session.modeGiven (.duplicate original key) = some h.nonblocking := by
          rw [Session.modeGiven, found, Option.map_some]
        rw [made]
        exact .gives (.inl free) given rfl

theorem setNonblocking_eq (netlink : t.IsNetlink) (found : t.session.sockets.get? key = some h)
    (on : Bool) :
    t.session.setNonblocking key on =
      (t.session.setSocket key { h with flags := h.flags.assign .nonblocking on }).answer .done := by
  have able : (Flags.single Capability.nonblocking).has .nonblocking = true := by decide
  unfold Session.setNonblocking
  rw [withIdleSocket_eq netlink, withSocket_eq found]
  simp only [netlink.family, Handle.setNonblocking, Netlink.family, able, if_true]
  rfl

theorem setsMode_setNonblocking (netlink : t.IsNetlink) (key : Int) (on : Bool) :
    SetsMode t key (.setNonblocking key on) (t.session.setNonblocking key on) := by
  cases found : t.session.sockets.get? key with
  | none =>
    unfold Session.setNonblocking
    rw [withIdleSocket_eq netlink, Session.withSocket, Session.findSocket, found]
    exact .fails rfl
  | some h =>
    have set : ({ h with flags := h.flags.assign .nonblocking on }).nonblocking = on :=
      Flags.has_assign (by decide) (by decide) h.flags on
    rw [setNonblocking_eq netlink found]
    exact .gives (.inr ⟨on, rfl⟩) (congrArg some set.symm) rfl

theorem setsMode_step (netlink : t.IsNetlink) (number : Nat) {s : Session.Step}
    (sets : s.sets? = some key) : SetsMode t key s (t.session.step number s) := by
  cases s with
  | socket made domain type protocol =>
    cases sets
    exact setsMode_socket netlink key domain type protocol
  | duplicate original made =>
    cases sets
    exact setsMode_duplicate netlink original key
  | setNonblocking changed on =>
    cases sets
    exact setsMode_setNonblocking netlink key on
  | _ => cases sets

theorem act_setsMode (netlink : t.IsNetlink) {s : Session.Step} (sets : s.sets? = some key) :
    (t.succeeds s = false ∧ (t.act (.step s)).session.sockets = t.session.sockets) ∨
      t.succeeds s = true ∧
        (t.session.sockets.get? key = none ∨ ∃ on, s = .setNonblocking key on) ∧
        ∃ h, t.session.modeGiven s = some h.nonblocking ∧
          (t.act (.step s)).session.sockets = t.session.sockets.insert key h := by
  have sectional : s.isSection = true := by
    cases s with
    | socket | duplicate | setNonblocking => rfl
    | _ => cases sets
  change (_ ∧ (t.step s).session.sockets = _) ∨ _ ∧ _ ∧ ∃ h, _ ∧ (t.step s).session.sockets = _
  cases busy : s.exclusive?.any t.isBorrowed with
  | true =>
    refine .inl ⟨?_, ?_⟩
    · rw [succeeds, busy]
      rfl
    · simp [step, busy]
  | false =>
    have taken : (t.step s).session = (t.session.step t.calls.length s).2 := by
      simp [step, busy, sectional]
    have answered : t.succeeds s = (t.session.step t.calls.length s).1.isOk := by
      rw [succeeds, busy]
      rfl
    rw [taken, answered]
    have answers := setsMode_step netlink t.calls.length sets
    generalize t.session.step t.calls.length s = answer at answers ⊢
    cases answers with
    | fails same => exact .inl ⟨rfl, same⟩
    | gives free given made => exact .inr ⟨rfl, free, _, given, made⟩

theorem mode_act (netlink : t.IsNetlink) (a : Action)
    (found : (t.act a).session.sockets.get? key = some h) :
    (modeBy key (t, a) = some h.nonblocking ∧
        (t.session.sockets.get? key = none ∨ ∃ on, a = .step (.setNonblocking key on))) ∨
      modeBy key (t, a) = none ∧ t.session.sockets.get? key = some h := by
  -- the list of moves says nothing of flags, so the steps that name this socket are looked at apart
  by_cases other : ∀ s, a = .step s → s.sets? ≠ some key
  · refine .inr ⟨?_, View.socket_of_move (act_move netlink a) found other⟩
    unfold modeBy
    split
    · rename_i u s step
      cases step
      exact if_neg fun both => other s rfl both.1
    · rfl
  · push Not at other
    obtain ⟨s, rfl, sets⟩ := other
    rcases act_setsMode netlink sets with ⟨fails, same⟩ | ⟨succeeds, free, g, given, made⟩
    · refine .inr ⟨if_neg fun both => ?_, same ▸ found⟩
      rw [fails] at both
      cases both.2
    · rw [made, Table.get?_insert_self] at found
      cases found
      refine .inl ⟨(modeBy_of_succeeds sets succeeds).trans given, free.imp_right fun on => ?_⟩
      obtain ⟨on, rfl⟩ := on
      exact ⟨on, rfl⟩

/-! Runs -/

theorem mode_run (fresh : t.IsFresh) (actions : List Action)
    (found : (t.run actions).session.sockets.get? key = some h) :
    lastMode t actions key = some h.nonblocking := by
  induction actions using List.reverseRecOn generalizing h with
  | nil =>
    rw [run_nil, fresh.sockets] at found
    cases found
  | append_singleton before a ih =>
    rw [run_append_singleton] at found
    rw [lastMode, getLast?_filterMap_trace_append_singleton]
    rcases mode_act (fresh.isNetlink.run before) a found with ⟨given, -⟩ | ⟨none, same⟩
    · rw [given, Option.some_or]
    · rw [none, Option.none_or]
      exact ih same

structure Modes (t : Concurrent) (actions : List Action) : Prop where
  mode : ∀ key h, (t.run actions).session.sockets.get? key = some h →
    lastMode t actions key = some h.nonblocking
  set : ∀ past key on rest, actions = past ++ .step (.setNonblocking key on) :: rest →
    (t.run past).succeeds (.setNonblocking key on) = true →
      (∀ step ∈ ((t.run past).act (.step (.setNonblocking key on))).trace rest,
        modeBy key step = none) → lastMode t actions key = some on
  duplicated : ∀ past original key rest,
    actions = past ++ .step (.duplicate original key) :: rest →
      (t.run past).succeeds (.duplicate original key) = true →
        (∀ step ∈ ((t.run past).act (.step (.duplicate original key))).trace rest,
          modeBy key step = none) → lastMode t actions key = lastMode t past original
  opened : ∀ past key domain type protocol rest,
    actions = past ++ .step (.socket key domain type protocol) :: rest →
      (t.run past).succeeds (.socket key domain type protocol) = true →
        (∀ step ∈ ((t.run past).act (.step (.socket key domain type protocol))).trace rest,
          modeBy key step = none) → lastMode t actions key = some (type &&& 0x800 == 0x800)
  settable : ∀ key h on, (t.run actions).session.sockets.get? key = some h →
    (t.run actions).isBorrowed key = false →
      (t.run actions).succeeds (.setNonblocking key on) = true
  kept : ∀ a key h later, (t.run actions).session.sockets.get? key = some h →
    (∀ on, a ≠ .step (.setNonblocking key on)) →
      ((t.run actions).act a).session.sockets.get? key = some later →
        later.nonblocking = h.nonblocking

theorem mode_duplicated (fresh : t.IsFresh) {past : List Action} {original : Int}
    (succeeds : (t.run past).succeeds (.duplicate original key) = true) :
    ∃ mode, lastMode t past original = some mode ∧
      modeBy key (t.run past, .step (.duplicate original key)) = some mode := by
  have sets : (Session.Step.duplicate original key).sets? = some key := rfl
  rcases act_setsMode (fresh.isNetlink.run past) sets with ⟨fails, -⟩ | ⟨-, -, g, given, -⟩
  · rw [fails] at succeeds
    cases succeeds
  · have same : ((t.run past).session.sockets.get? original).map (·.nonblocking) =
      some g.nonblocking := given
    obtain ⟨h, found, mode⟩ := Option.map_eq_some_iff.1 same
    refine ⟨g.nonblocking, ?_, (modeBy_of_succeeds rfl succeeds).trans given⟩
    rw [mode_run fresh past found, mode]

theorem modes_run (fresh : t.IsFresh) (actions : List Action) : Modes t actions where
  mode key h found := mode_run fresh actions found
  set := by
    rintro past key on rest rfl succeeds never
    exact getLast?_filterMap_trace_of_since (modeBy_of_succeeds rfl succeeds) never
  duplicated := by
    rintro past original key rest rfl succeeds never
    obtain ⟨mode, before, given⟩ := mode_duplicated fresh succeeds
    rw [before]
    exact getLast?_filterMap_trace_of_since given never
  opened := by
    rintro past key domain type protocol rest rfl succeeds never
    exact getLast?_filterMap_trace_of_since (modeBy_of_succeeds rfl succeeds) never
  settable := by
    intro key h on found free
    have answered : (t.run actions).session.step (t.run actions).calls.length
      (.setNonblocking key on) = _ := setNonblocking_eq (fresh.isNetlink.run actions) found on
    rw [succeeds, answered]
    simp [Session.Step.exclusive?, free, Session.answer, Except.isOk, Except.toBool]
  kept := by
    intro a key h later found other after
    rcases mode_act (fresh.isNetlink.run actions) a after with ⟨-, absent | set⟩ | ⟨-, same⟩
    · rw [found] at absent
      cases absent
    · obtain ⟨on, set⟩ := set
      exact absurd set (other on)
    · rw [found] at same
      cases same
      rfl

end Concurrent

end NetlinkSocket
