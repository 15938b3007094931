import Mathlib.Data.List.Perm.Basic
import NetlinkSocket.Proofs.Watch

/-!
Runs of the calls that make and end handles, for families of any kind. What the calls ask of a
family balances with the handles there are.
-/

namespace NetlinkSocket

structure Lifecycle (σ κ : Type) where
  handles : List (Handle κ)
  state : σ

inductive LifecycleCall
  | socket (domain type protocol : Int32)
  | duplicate (place : Nat)
  | close (place : Nat)
  | drop (place : Nat)

namespace Lifecycle

section

variable {σ κ : Type}

def enlist (t : Lifecycle σ κ) : Outcome (Handle κ) × σ → Lifecycle σ κ
  | (.ok h, s) => ⟨t.handles ++ [h], s⟩
  | (.error _, s) => ⟨t.handles, s⟩

def act (families : String → Family σ κ) (registry : Table AddressFamily String)
    (t : Lifecycle σ κ) : LifecycleCall → Lifecycle σ κ
  | .socket domain type protocol =>
    t.enlist (openSocket families registry domain type protocol t.state)
  | .duplicate place =>
    match t.handles[place]? with
    | none => t
    | some h => t.enlist (h.duplicate (families h.family) t.state)
  | .close place =>
    match t.handles[place]? with
    | none => t
    | some h => ⟨t.handles.eraseIdx place, (h.close (families h.family) t.state).2⟩
  | .drop place =>
    match t.handles[place]? with
    | none => t
    | some h => ⟨t.handles.eraseIdx place, (h.discard (families h.family) t.state).2⟩

def run (families : String → Family σ κ) (registry : Table AddressFamily String)
    (t : Lifecycle σ κ) (calls : List LifecycleCall) : Lifecycle σ κ :=
  calls.foldl (act families registry) t

def unwatched (t : Lifecycle (σ × List (FamilyEvent κ)) κ) : Lifecycle σ κ :=
  ⟨t.handles, t.state.1⟩

/-- What was asked of the family balances with its handles that have a connection. -/
def Balanced (name : String) (t : Lifecycle (σ × List (FamilyEvent κ)) κ) : Prop :=
  FamilyEvent.gained name t.state.2 =
    FamilyEvent.lost name t.state.2 + t.handles.countP (Handle.attachedTo name)

variable {families : String → Family σ κ} {registry : Table AddressFamily String}

@[simp] theorem handles_unwatched (t : Lifecycle (σ × List (FamilyEvent κ)) κ) :
    t.unwatched.handles = t.handles :=
  rfl

theorem unwatched_enlist (t : Lifecycle (σ × List (FamilyEvent κ)) κ)
    (r : Outcome (Handle κ) × σ × List (FamilyEvent κ)) :
    (t.enlist r).unwatched = t.unwatched.enlist (Family.unwatch r) := by
  cases r with
  | mk outcome w => cases outcome <;> rfl

theorem unwatched_act (t : Lifecycle (σ × List (FamilyEvent κ)) κ) (call : LifecycleCall) :
    (t.act (watchedAll families) registry call).unwatched =
      t.unwatched.act families registry call := by
  cases call with
  | socket domain type protocol =>
    simp only [act, unwatched_enlist]
    rw [openSocket_faithful families registry domain type protocol t.unwatched.state t.state.2]
    rfl
  | duplicate place =>
    simp only [act, handles_unwatched]
    cases t.handles[place]? with
    | none => rfl
    | some h =>
      simp only [unwatched_enlist]
      rw [Handle.duplicate_faithful (f := families h.family) h.family h t.unwatched.state
        t.state.2]
      rfl
  | close place =>
    simp only [act, handles_unwatched]
    cases t.handles[place]? with
    | none => rfl
    | some h =>
      simp only
      rw [Handle.close_faithful (f := families h.family) h.family h t.unwatched.state t.state.2]
      rfl
  | drop place =>
    simp only [act, handles_unwatched]
    cases t.handles[place]? with
    | none => rfl
    | some h =>
      simp only
      rw [Handle.discard_faithful (f := families h.family) h.family h t.unwatched.state t.state.2]
      rfl

theorem unwatched_run (calls : List LifecycleCall) (t : Lifecycle (σ × List (FamilyEvent κ)) κ) :
    (t.run (watchedAll families) registry calls).unwatched =
      t.unwatched.run families registry calls := by
  induction calls generalizing t with
  | nil => rfl
  | cons call rest ih =>
    change ((t.act _ registry call).run (watchedAll families) registry rest).unwatched = _
    rw [ih, unwatched_act]
    rfl

theorem countP_append_singleton (handles : List (Handle κ)) (h : Handle κ)
    (p : Handle κ → Bool) :
    (handles ++ [h]).countP p = handles.countP p + (p h).toNat := by
  rw [List.countP_append, List.countP_singleton]
  cases p h <;> rfl

theorem countP_eraseIdx {place : Nat} {handles : List (Handle κ)} {h : Handle κ}
    (held : handles[place]? = some h) (p : Handle κ → Bool) :
    handles.countP p = (p h).toNat + (handles.eraseIdx place).countP p := by
  obtain ⟨below, same⟩ := List.getElem?_eq_some_iff.mp held
  have moved := List.Perm.countP_eq p (List.getElem_cons_eraseIdx_perm below)
  rw [← moved, List.countP_cons, same]
  cases p h <;> simp [Nat.add_comm]

theorem Balanced.of_even {name : String} {t : Lifecycle (σ × List (FamilyEvent κ)) κ}
    (before : t.Balanced name) {handles : List (Handle κ)} {s : σ} {said : List (FamilyEvent κ)}
    (even : FamilyEvent.gained name said + t.handles.countP (Handle.attachedTo name) =
      FamilyEvent.lost name said + handles.countP (Handle.attachedTo name)) :
    Balanced name ⟨handles, s, t.state.2 ++ said⟩ := by
  unfold Balanced at before ⊢
  dsimp only
  rw [FamilyEvent.gained_append, FamilyEvent.lost_append]
  omega

section Balance

variable {name : String} {t : Lifecycle (σ × List (FamilyEvent κ)) κ}
  (tame : ∀ name, (families name).Tame)
include tame

theorem Balanced.socket (domain type protocol : Int32) (before : t.Balanced name) :
    (t.act (watchedAll families) registry (.socket domain type protocol)).Balanced name := by
  simp only [act]
  cases known : requested? (κ := κ) registry domain type with
  | none =>
    obtain ⟨failure, refused⟩ := openSocket_refused registry domain type protocol known
    rw [refused]
    exact before
  | some h =>
    have watched := openSocket_watched families registry domain type protocol t.state.1 t.state.2
      (tame _) known
    rw [watched]
    have kept := (tame h.family).setup_family h protocol
      ((families h.family).log (h.requestLine protocol) t.state.1)
    cases made : (families h.family).setup h protocol
        ((families h.family).log (h.requestLine protocol) t.state.1) with
    | mk outcome rest =>
      obtain ⟨after, later⟩ := rest
      rw [made] at kept
      simp only at kept
      have attached : (decide (h.family = name) && after.connection.isSome) =
          after.attachedTo name := by rw [← kept]; rfl
      cases outcome with
      | ok u =>
        apply before.of_even
        rw [countP_append_singleton]
        simp only [FamilyEvent.gained_cons, FamilyEvent.lost_cons, FamilyEvent.attaches,
          FamilyEvent.references, FamilyEvent.detaches, attached]
        simp [Nat.add_comm]
      | error stop =>
        apply before.of_even
        have ended := (families h.family).lost_ending name after later
        rw [kept] at ended
        simp [attached, ended, Family.gained_ending]

theorem Balanced.duplicate (place : Nat) (before : t.Balanced name) :
    (t.act (watchedAll families) registry (.duplicate place)).Balanced name := by
  simp only [act]
  cases held : t.handles[place]? with
  | none => exact before
  | some h =>
    have watched := h.duplicate_watched h.family t.state.1 t.state.2 (tame h.family)
    simp only [watchedAll]
    rw [watched]
    cases attached : h.connection with
    | none => exact before
    | some c =>
      apply before.of_even
      rw [countP_append_singleton]
      simp [Handle.attachedTo, attached, Nat.add_comm]

theorem Balanced.close (detaches : ∀ h s, ((families name).close h s).2.1.connection = none)
    (place : Nat) (before : t.Balanced name) :
    (t.act (watchedAll families) registry (.close place)).Balanced name := by
  simp only [act]
  cases held : t.handles[place]? with
  | none => exact before
  | some h =>
    have watched := h.close_watched h.family t.state.1 t.state.2 (tame h.family)
    simp only [watchedAll]
    rw [watched]
    apply before.of_even
    rw [countP_eraseIdx held]
    have kept := (tame h.family).close_family h t.state.1
    -- only of the family that is counted is it known that nothing is still attached
    have ended : FamilyEvent.lost name ((families h.family).ending h.family
        ((families h.family).close h t.state.1).2.1
        ((families h.family).close h t.state.1).2.2).2 = 0 := by
      have lost := (families h.family).lost_ending name
        ((families h.family).close h t.state.1).2.1 ((families h.family).close h t.state.1).2.2
      rw [kept] at lost
      rw [lost, Handle.attachedTo, kept]
      by_cases same : h.family = name
      · simp [same, detaches]
      · simp [same]
    simp [ended, Family.gained_ending, Handle.attachedTo]

theorem Balanced.drop (place : Nat) (before : t.Balanced name) :
    (t.act (watchedAll families) registry (.drop place)).Balanced name := by
  simp only [act]
  cases held : t.handles[place]? with
  | none => exact before
  | some h =>
    have watched := h.discard_watched h.family t.state.1 t.state.2 (tame h.family)
    simp only [watchedAll]
    rw [watched]
    apply before.of_even
    rw [countP_eraseIdx held, Family.gained_ending, Family.lost_ending, Nat.zero_add]

theorem Balanced.act (detaches : ∀ h s, ((families name).close h s).2.1.connection = none)
    (call : LifecycleCall) (before : t.Balanced name) :
    (t.act (watchedAll families) registry call).Balanced name := by
  cases call with
  | socket domain type protocol => exact before.socket tame domain type protocol
  | duplicate place => exact before.duplicate tame place
  | close place => exact before.close tame detaches place
  | drop place => exact before.drop tame place

theorem Balanced.run (detaches : ∀ h s, ((families name).close h s).2.1.connection = none)
    (calls : List LifecycleCall) (before : t.Balanced name) :
    (t.run (watchedAll families) registry calls).Balanced name := by
  induction calls generalizing t with
  | nil => exact before
  | cons call rest ih => exact ih (before.act tame detaches call)

end Balance

end

end Lifecycle

structure Lifecycles {σ κ : Type} (families : String → Family σ κ)
    (registry : Table AddressFamily String) : Prop where
  refuses : Failure.notOpen.errno = .badDescriptor ∧
    ∀ (h : Handle κ) (s : σ) (events : List (FamilyEvent κ)), h.connection = none →
      h.duplicate (watchedAll families h.family) (s, events) =
        (.error (.failed .notOpen), s, events)
  duplicates : ∀ (h : Handle κ) (s : σ) (events : List (FamilyEvent κ)), h.connection ≠ none →
    h.duplicate (watchedAll families h.family) (s, events) =
      (.ok h, ((families h.family).addReference h s).2, events ++ [.addReference h.family h])
  counts : ∀ (f : Family σ κ) h s copy later, h.duplicate f s = (.ok copy, later) →
    f.addReference h s = (.ok (), later)
  /-- A close is told of the first of what may be two. -/
  closes : ∀ h s events first after later, (families h.family).close h s = (first, after, later) →
    h.close (watchedAll families h.family) (s, events) =
      (first, ((families h.family).ending h.family after later).1,
        events ++ .close h.family h after :: ((families h.family).ending h.family after later).2)
  drops : ∀ h s events, h.discard (watchedAll families h.family) (s, events) =
    (.ok (), ((families h.family).ending h.family h s).1,
      events ++ ((families h.family).ending h.family h s).2)
  ends : ∀ name (h : Handle κ) s,
    (h.connection ≠ none →
      ((families name).ending name h s).2.countP FamilyEvent.isClose = 1) ∧
    (h.connection = none → (families name).ending name h s = (s, []))
  unknown : ∀ domain type protocol s events, requested? (κ := κ) registry domain type = none →
    ∃ failure, openSocket (watchedAll families) registry domain type protocol (s, events) =
      (.error (.failed failure), s, events)
  opens : ∀ domain type protocol s events h after later,
    requested? registry domain type = some h →
    (families h.family).setup h protocol ((families h.family).log (h.requestLine protocol) s) =
      (.ok (), after, later) →
    openSocket (watchedAll families) registry domain type protocol (s, events) =
      (.ok after, later, events ++ [.logged (h.requestLine protocol), .setup h.family h after])
  abandons : ∀ domain type protocol s events h stop after later,
    requested? registry domain type = some h →
    (families h.family).setup h protocol ((families h.family).log (h.requestLine protocol) s) =
      (.error stop, after, later) →
    openSocket (watchedAll families) registry domain type protocol (s, events) =
      (.error stop, ((families h.family).ending h.family after later).1,
        events ++ [.logged (h.requestLine protocol), .setup h.family h after] ++
          ((families h.family).ending h.family after later).2)
  faithful : ∀ (t : Lifecycle (σ × List (FamilyEvent κ)) κ) calls,
    (t.run (watchedAll families) registry calls).unwatched =
      t.unwatched.run families registry calls
  balanced : ∀ name, (∀ h s, ((families name).close h s).2.1.connection = none) →
    ∀ s calls, Lifecycle.Balanced name
      (Lifecycle.run (watchedAll families) registry ⟨[], s, []⟩ calls)

theorem lifecycles {σ κ : Type} (families : String → Family σ κ)
    (registry : Table AddressFamily String) (tame : ∀ name, (families name).Tame) :
    Lifecycles families registry where
  refuses := by
    refine ⟨rfl, ?_⟩
    intro h s events detached
    rw [watchedAll, Handle.duplicate_watched _ _ _ _ (tame _), detached]
  duplicates := by
    intro h s events attached
    obtain ⟨c, attached⟩ := Option.ne_none_iff_exists'.mp attached
    rw [watchedAll, Handle.duplicate_watched _ _ _ _ (tame _), attached]
  counts := by
    intro f h s copy later made
    unfold Handle.duplicate at made
    cases attached : h.connection with
    | none => simp [attached, fails] at made
    | some c =>
      cases counted : f.addReference h s with
      | mk outcome state =>
        cases outcome with
        | error stop => simp [attached, counted] at made
        | ok u =>
          simp only [attached, counted, Prod.mk.injEq] at made
          rw [made.2]
  closes := by
    intro h s events first after later closed
    rw [watchedAll, Handle.close_watched _ _ _ _ (tame _), closed]
  drops := fun h s events => Handle.discard_watched _ _ _ _ (tame _)
  ends := fun name h s =>
    ⟨(families name).countP_ending name s, (families name).ending_detached name s⟩
  unknown := by
    intro domain type protocol s events unknown
    obtain ⟨failure, refused⟩ := openSocket_refused registry domain type protocol unknown
    exact ⟨failure, refused _ _⟩
  opens := by
    intro domain type protocol s events h after later known made
    rw [openSocket_watched families registry domain type protocol s events (tame _) known, made]
  abandons := by
    intro domain type protocol s events h stop after later known made
    rw [openSocket_watched families registry domain type protocol s events (tame _) known, made]
    simp
  faithful := fun t calls => Lifecycle.unwatched_run calls t
  balanced := by
    intro name detaches s calls
    have start : Lifecycle.Balanced name
        (⟨[], s, []⟩ : Lifecycle (σ × List (FamilyEvent κ)) κ) := rfl
    exact start.run tame detaches calls

def stubs (name : String) : Family World Attachment :=
  Stub.family ⟨.empty, true, name = "stubborn"⟩

theorem tame_stubs (name : String) : (stubs name).Tame where
  setup_family := fun _ _ _ => rfl
  close_family := by
    intro h s
    unfold stubs Stub.family
    dsimp only
    split <;> rfl
  setup_returns := by
    intro h number s fault
    simp [stubs, Stub.family]
  close_returns := by
    intro h s fault
    unfold stubs Stub.family
    dsimp only
    split <;> simp
  addReference_returns := fun _ _ => rfl

theorem lifecycles_stubs :
    let registry := (Table.empty.insert AddressFamily.unix "loose").insert .netlink "stubborn"
    let run := Lifecycle.run (watchedAll stubs) registry ⟨[], .empty, []⟩
      [.socket 1 1 0, .duplicate 0, .socket 16 3 0, .drop 0, .close 1, .duplicate 0, .close 0]
    Lifecycles stubs registry ∧ Lifecycle.Balanced "loose" run ∧
      FamilyEvent.gained "loose" run.state.2 = 3 ∧ FamilyEvent.lost "loose" run.state.2 = 2 ∧
      FamilyEvent.lost "stubborn" run.state.2 = 2 :=
  have laws := lifecycles stubs _ tame_stubs
  ⟨laws, laws.balanced "loose" (fun _ _ => rfl) _ _, by decide +kernel, by decide +kernel,
    by decide +kernel⟩

end NetlinkSocket
