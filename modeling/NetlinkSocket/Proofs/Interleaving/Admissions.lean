import NetlinkSocket.Proofs.Admission
import NetlinkSocket.Proofs.Interleaving.Accounts
import NetlinkSocket.Proofs.Interleaving.Courses

/-!
Sockets created over a run. A build without the routing protocol has no sockets, so nothing ever
happens to its interfaces.
-/

namespace NetlinkSocket

open Concurrent (Action)

namespace Session

structure Barren (origin t : Session) : Prop where
  build : t.build = .bare
  kinds : t.kinds = origin.kinds
  net : t.world.net = origin.world.net
  sockets : ∀ key, t.sockets.get? key = none
  held : ∀ key, t.held.get? key = none

variable {origin t : Session}

theorem withSocket_of_none {key : Int} (none : t.sockets.get? key = none)
    (next : Handle Attachment → Answer) : t.withSocket key next = t.refuse .noSuchSocket := by
  simp [withSocket, findSocket, none, whenFound]

namespace Barren

variable (b : origin.Barren t)
include b

theorem withSocket (key : Int) (next : Handle Attachment → Answer) :
    (t.withSocket key next).2 = t := by
  rw [withSocket_of_none (b.sockets key)]
  rfl

theorem findTarget (target : Target) : ∃ refusal, t.findTarget target = .error refusal := by
  cases target with
  | socket key => exact ⟨.noSuchSocket, by simp [Session.findTarget, findSocket, b.sockets]⟩
  | held key => exact ⟨.noSuchHeld, by simp [Session.findTarget, b.held]⟩

theorem withTarget (target : Target) (next : String → Nat → Answer) :
    (t.withTarget target next).2 = t := by
  obtain ⟨refusal, lost⟩ := b.findTarget target
  simp [Session.withTarget, lost, whenFound, refuse]

theorem socket (netlink : ∀ name traits, origin.kinds.get? name ≠ some (.stub traits)) (key : Int)
    (domain type protocol : Int32) : origin.Barren (t.socket key domain type protocol).2 := by
  have dispatches : t.Dispatches domain := by
    intro name traits _
    rw [b.kinds]
    exact netlink name traits
  have unsupported : ¬t.Supports domain type protocol := by
    intro supported
    have built := supported.build
    rw [b.build] at built
    cases built
  have result : t.Admission domain type protocol := admission dispatches
  obtain ⟨failure, refused⟩ := Option.ne_none_iff_exists'.1 (mt result.refused.1 unsupported)
  obtain ⟨later, failed, same⟩ := result.refuses failure refused
  have made : t.socket key domain type protocol =
      (.error (.stopped (.failed failure)), { t with world := later }) := by
    simp [Session.socket, whenFound, freshKey, Table.has, b.sockets, failed]
  rw [made]
  exact ⟨b.build, b.kinds, same.1.trans b.net, b.sockets, b.held⟩

theorem register (domain : Int32) (name : String) : origin.Barren (t.register domain name).2 := by
  unfold Session.register
  split
  · exact b
  · split
    · exact ⟨b.build, b.kinds, b.net, b.sockets, b.held⟩
    · exact b

theorem descriptor (key : Int) (events : Events) (number : Int) :
    origin.Barren (t.descriptor key events number).2 := by
  unfold Session.descriptor
  dsimp only
  split <;> exact ⟨b.build, b.kinds, b.net, b.sockets, b.held⟩

theorem tryWait (key : Int) : origin.Barren (t.tryWait key).2 := by
  unfold Session.tryWait withDescriptor
  cases t.findDescriptor key with
  | error refusal => exact b
  | ok fd =>
    dsimp only [whenFound]
    split
    · exact b
    · exact ⟨b.build, b.kinds, b.net, b.sockets, b.held⟩

theorem release (heldKey : Int) : origin.Barren (t.release heldKey).2 := by
  refine ⟨b.build, b.kinds, b.net, b.sockets, fun key => ?_⟩
  change (t.held.erase heldKey).get? key = none
  by_cases same : key = heldKey
  · rw [same, Table.get?_erase_self]
  · rw [Table.get?_erase_of_ne _ same]
    exact b.held key

theorem step (netlink : ∀ name traits, origin.kinds.get? name ≠ some (.stub traits)) (n : Nat)
    {s : Step} (atomic : s.isSection = true) : origin.Barren (t.step n s).2 := by
  have same {later : Session} (made : later = t) : origin.Barren later := made ▸ b
  cases s with
  | register domain name => exact b.register domain name
  | socket key domain type protocol => exact b.socket netlink key domain type protocol
  | descriptor key events number => exact b.descriptor key events number
  | tryWait key => exact b.tryWait key
  | release heldKey => exact b.release heldKey
  | duplicate key fresh =>
    have free : t.freshKey fresh = .ok () := by simp [freshKey, Table.has, b.sockets]
    simp only [Session.step, Session.duplicate, free, whenFound]
    exact same (b.withSocket key _)
  | disarm key fd =>
    have unknown : t.findUnpolled key = .error .noSuchSocket := by
      simp [findUnpolled, findSocket, b.sockets]
    simp only [Session.step, Session.disarm, unknown, whenFound]
    exact b
  | push target _ | take target | addReference target => exact same (b.withTarget target _)
  | send | sendTo | route | receive | poll | runWork | detach | attach | attachForeign | setup =>
    cases atomic
  | _ => exact same (b.withSocket _ _)

end Barren

end Session

namespace Session

/-! The build of a session is given once -/

theorem build_settle (t : Session) {α : Type} (reply : α → Reply) (result : Outcome α × World) :
    (t.settle reply result).2.build = t.build := by
  rcases result with ⟨_ | _, w⟩ <;> rfl

theorem build_settleFilling (t : Session) {α : Type} (reply : α → Reply)
    (result : Filling α × World) : (t.settleFilling reply result).2.build = t.build := by
  rcases result with ⟨_ | _, w⟩ <;> rfl

theorem build_whenFound (t : Session) {α : Type} (found : Except Refusal α) {next : α → Answer}
    (same : ∀ a, (next a).2.build = t.build) : (t.whenFound found next).2.build = t.build := by
  cases found with
  | error r => rfl
  | ok a => exact same a

theorem build_withIdleSocket (t : Session) (key : Int) {next : Handle Attachment → Answer}
    (same : ∀ h, (next h).2.build = t.build) : (t.withIdleSocket key next).2.build = t.build := by
  refine t.build_whenFound _ fun h => ?_
  split
  · rfl
  · exact same h

theorem build_step (t : Session) (n : Nat) {s : Step} (atomic : s.isSection = true) :
    (t.step n s).2.build = t.build := by
  cases s with
  | register domain name =>
    simp only [Session.step, register]
    split
    · rfl
    · split <;> rfl
  | socket key domain type protocol =>
    refine t.build_whenFound _ fun _ => ?_
    split <;> rfl
  | duplicate key fresh =>
    refine t.build_whenFound _ fun _ => t.build_whenFound _ fun h => ?_
    split <;> rfl
  | close key | discard key =>
    exact t.build_withIdleSocket key fun h => (t.endSocket key).build_settle _ _
  | setNonblocking key on =>
    exact t.build_withIdleSocket key fun h => (t.setSocket key _).build_settle _ _
  | describe key => exact t.build_whenFound _ fun h => rfl
  | bind | connect | listen => exact t.build_whenFound _ fun h => t.build_settle _ _
  | name | peerName | accept => exact t.build_whenFound _ fun h => t.build_settleFilling _ _
  | descriptor key events number =>
    simp only [Session.step, descriptor]
    split <;> rfl
  | tryWait key =>
    refine t.build_whenFound _ fun fd => ?_
    split <;> rfl
  | arm key fd | disarm key fd =>
    exact t.build_whenFound _ fun h => t.build_whenFound _ fun fd => t.build_settle _ _
  | push | take => exact t.build_whenFound _ fun place => rfl
  | addReference => exact t.build_whenFound _ fun place => t.build_settle _ _
  | hold key heldKey =>
    refine t.build_whenFound _ fun h => ?_
    split <;> rfl
  | release heldKey => rfl
  | send | sendTo | route | receive | poll | runWork | detach | attach | attachForeign | setup =>
    cases atomic

end Session

namespace Concurrent

structure Barren (origin t : Concurrent) : Prop where
  session : origin.session.Barren t.session
  calls : t.calls = []
  taken : t.taken = []

variable {t : Concurrent}

theorem barren_act {u : Concurrent} (fresh : t.IsFresh) (b : t.Barren u) (a : Action) :
    t.Barren (u.act a) := by
  have same {later : Concurrent} (made : later = u) : t.Barren later := made ▸ b
  have unattached (key : Int) : u.attached? key = none := by
    simp [Concurrent.attached?, b.session.sockets]
  cases a with
  | step s =>
    change t.Barren (u.step s)
    unfold Concurrent.step
    split
    · rename_i possible
      have taken := (Bool.and_eq_true _ _).mp possible |>.1
      exact ⟨b.session.step fresh.netlink _ taken, b.calls, b.taken⟩
    · exact b
  | receive key buffer flags sender =>
    exact same (by simp only [act, Concurrent.receive, unattached])
  | poll key events => exact same (by simp only [act, Concurrent.poll, unattached])
  | send key message flags destination =>
    exact same (by simp only [act, Concurrent.send, unattached])
  | get target =>
    obtain ⟨refusal, lost⟩ := b.session.findTarget target
    exact same (by simp only [act, Concurrent.get, lost])
  | route target message flags destination =>
    obtain ⟨refusal, lost⟩ := b.session.findTarget target
    exact same (by simp only [act, Concurrent.route, lost])
  | goOn n => exact same (by simp [act, goOn, b.calls])
  | take name =>
    obtain ⟨limits, handlers, made⟩ := fresh.nets name
    have net : u.net name = .create limits handlers := (congrFun b.session.net name).trans made
    exact same (by simp [act, Concurrent.take, net, Interface.create, WorkQueue.empty,
      WorkQueue.next?])
  | fire n => exact same (by simp [act, Concurrent.fire, b.taken])

theorem barren_run (fresh : t.IsFresh) (bare : t.session.build = .bare) (actions : List Action) :
    t.Barren (t.run actions) := by
  have start : t.Barren t :=
    ⟨⟨bare, rfl, rfl, by simp [fresh.sockets], by simp [fresh.held]⟩, fresh.calls, fresh.taken⟩
  exact run_induction (p := t.Barren) (fun _ a b => barren_act fresh b a) start actions

theorem build_act (t : Concurrent) (a : Action) : (t.act a).session.build = t.session.build := by
  cases a with
  | step s =>
    change (t.step s).session.build = _
    unfold Concurrent.step
    split
    · rename_i possible
      exact t.session.build_step _ ((Bool.and_eq_true _ _).mp possible).1
    · rfl
  | goOn n =>
    cases found : t.calls[n]? with
    | none => rw [goOn_of_none found]
    | some call =>
      rcases goOn_cases found with ⟨stuck, -⟩ | ⟨stage, w, moved, -⟩
      · rw [stuck]
      · rw [moved]
        rfl
  | receive key buffer flags sender =>
    change (t.receive key buffer flags sender).session.build = _
    unfold Concurrent.receive
    split
    · rfl
    · split
      · rfl
      · split <;> rfl
  | get target =>
    change (t.get target).session.build = _
    unfold Concurrent.get
    split <;> rfl
  | poll key events =>
    change (t.poll key events).session.build = _
    unfold Concurrent.poll
    split
    · rfl
    · split <;> rfl
  | send key message flags destination =>
    change (t.send key message flags destination).session.build = _
    unfold Concurrent.send
    split
    · rfl
    · split
      · rfl
      · split <;> rfl
  | route target message flags destination =>
    change (t.route target message flags destination).session.build = _
    unfold Concurrent.route
    split <;> rfl
  | take name =>
    change (t.take name).session.build = _
    unfold Concurrent.take
    split <;> rfl
  | fire n =>
    change (t.fire n).session.build = _
    unfold Concurrent.fire
    split <;> rfl

theorem build_run (t : Concurrent) (actions : List Action) :
    (t.run actions).session.build = t.session.build :=
  run_induction (p := fun u => u.session.build = t.session.build)
    (fun u a same => (u.build_act a).trans same) rfl actions

/-- Socket creation over a run. No socket call is left to a stub; the limit of an interface stays what
it was, and what is counted against it are the connections that have references. A build without the
routing protocol refuses every call, and its interfaces stay as they were made. -/
structure Admissions (t : Concurrent) (actions : List Action) : Prop where
  dispatches : ∀ domain, (t.run actions).session.Dispatches domain
  build : (t.run actions).session.build = t.session.build
  capacity : ∀ name, ((t.run actions).net name).pool.capacity = (t.net name).pool.capacity
  live : ∀ name, ((t.run actions).net name).connections.length < Interface.identities →
    ((t.run actions).net name).pool.count =
      ((t.run actions).net name).connections.countP fun k => 0 < k.references
  bare : t.session.build = .bare → t.Barren (t.run actions) ∧
    (∀ name, ((t.run actions).net name).connections = []) ∧
    ∀ domain type protocol, (t.run actions).session.refusal? domain type protocol ≠ none

theorem dispatches_run (fresh : t.IsFresh) (actions : List Action) (domain : Int32) :
    (t.run actions).session.Dispatches domain :=
  fun name traits _ => (fresh.isNetlink.run actions).1 name traits

theorem admissions :
    (∀ (t : Session) (domain type protocol : Int32), t.Dispatches domain →
      t.Admission domain type protocol) ∧
    ∀ t : Concurrent, t.IsFresh → ∀ actions, t.Admissions actions := by
  refine ⟨fun t domain type protocol => Session.admission, fun t fresh actions => ?_⟩
  constructor
  case dispatches => exact dispatches_run fresh actions
  case build => exact t.build_run actions
  case capacity => exact fun name => capacity_run fresh.isNetlink actions name
  case live => exact fun name few => (books_run fresh actions few).count_live
  case bare =>
    intro bare
    have barren := barren_run fresh bare actions
    refine ⟨barren, fun name => ?_, fun domain type protocol accepted => ?_⟩
    · obtain ⟨limits, handlers, made⟩ := fresh.nets name
      have net : (t.run actions).net name = .create limits handlers :=
        (congrFun barren.session.net name).trans made
      rw [net]
      rfl
    · have built := (Session.refusal?_eq_none.1 accepted).build
      rw [barren.session.build] at built
      cases built

def crowded : List Action :=
  [.step (.register 16 "nl"), .step (.register 1 "nl"), .step (.socket 0 16 0x90802 0)]

theorem admissions_crowded :
    (let t := start .withRoute [("nl", ⟨1, 16⟩, [])];
      t.session.Admission 16 2 0 ∧ t.Admissions crowded ∧
        (t.run crowded).session.Admission 16 3 0 ∧
        ((t.run crowded).session.sockets.get? 0).map Handle.nonblocking = some true ∧
        (t.run crowded).session.refusal? 16 3 0 = some .connectionsExhausted ∧
        (t.run crowded).session.refusal? 1 3 0 = some .kindUnsupported ∧
        (t.run crowded).session.refusal? 1 3 4 = some .protocolNotBuilt ∧
        (t.run crowded).session.refusal? 1 6 1 = some .unknownSocketType) ∧
      let t := start .bare [("nl", ⟨1, 16⟩, [])];
      t.Admissions crowded ∧ (t.run crowded).session.refusal? 16 3 0 = some .protocolNotBuilt :=
  have fresh (build : Build) := isFresh_start build [("nl", ⟨1, 16⟩, [])]
  ⟨⟨admissions.1 _ _ _ _ (dispatches_run (fresh .withRoute) [] _), admissions.2 _ (fresh _) _,
    admissions.1 _ _ _ _ (dispatches_run (fresh .withRoute) crowded _), by decide +kernel,
    by decide +kernel, by decide +kernel, by decide +kernel, by decide +kernel⟩,
    admissions.2 _ (fresh _) _, by decide +kernel⟩

end Concurrent

end NetlinkSocket
