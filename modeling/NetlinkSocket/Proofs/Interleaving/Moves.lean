import NetlinkSocket.Proofs.Effects
import NetlinkSocket.Proofs.Interleaving.View
import NetlinkSocket.Proofs.Table

/-!
The list of moves is complete: in a session of netlink interfaces, every action makes one of them.
-/

namespace NetlinkSocket

open Concurrent (Action)

theorem World.net_setNet (w : World) (name : String) (i : Interface) :
    (w.setNet name i).net = Function.update w.net name i := by
  funext other
  by_cases h : other = name
  · subst h; simp
  · simp [h, World.net_setNet_of_ne]

theorem World.net_setNet_signals (w : World) (name : String) (i : Interface)
    (signals : Signals) :
    World.net { w.setNet name i with signals } = Function.update w.net name i :=
  World.net_setNet w name i

theorem World.setNet_setNet (w : World) (name : String) (i j : Interface) :
    (w.setNet name i).setNet name j = w.setNet name j := by
  simp [setNet]

theorem World.setNet_net {w : World} {name : String} {c : Nat}
    (opened : c < (w.net name).connections.length) : w.setNet name (w.net name) = w := by
  unfold net at opened
  cases found : w.nets.get? name with
  | none =>
    rw [found] at opened
    exact absurd opened (Nat.not_lt_zero c)
  | some i => simp only [setNet, net, found, Option.getD_some, Table.insert_self_of_get? found]

namespace Concurrent

/-- All interfaces are netlink ones, and no call waits in the lock step of the session. -/
def IsNetlink (t : Concurrent) : Prop :=
  (∀ name traits, t.session.kinds.get? name ≠ some (.stub traits)) ∧ t.session.waiting = []

theorem IsNetlink.family {t : Concurrent} (netlink : t.IsNetlink) (name : String) :
    t.session.family name = Netlink.family t.session.build name := by
  unfold Session.family
  split
  · rename_i h; exact absurd h (netlink.1 _ _)
  · rfl

theorem IsFresh.isNetlink {t : Concurrent} (fresh : t.IsFresh) : t.IsNetlink :=
  ⟨fresh.netlink, fresh.waiting⟩

section

variable {t : Concurrent}

theorem attached?_eq_some {key : Int} {h : Handle Attachment} {c : Nat} :
    t.attached? key = some (h, c) ↔ t.view.Attached key h c := by
  simp only [attached?, View.Attached, view, Option.bind_eq_some_iff, Option.map_eq_some_iff,
    Prod.mk.injEq]
  constructor
  · rintro ⟨g, hg, d, hd, rfl, rfl⟩
    exact ⟨hg, hd⟩
  · rintro ⟨hg, hd⟩
    exact ⟨h, hg, c, hd, rfl, rfl⟩

theorem reaches_of_findTarget {target : Session.Target} {name : String} {c : Nat}
    (h : t.session.findTarget target = .ok (name, c)) : t.view.Reaches target name c := by
  cases target with
  | socket key =>
    simp only [Session.findTarget, Session.findSocket] at h
    cases hs : t.session.sockets.get? key with
    | none => simp [hs] at h
    | some g =>
      cases hg : Netlink.attached? g with
      | none => simp [hs, hg] at h
      | some d =>
        simp only [hs, hg, Except.ok.injEq, Prod.mk.injEq] at h
        obtain ⟨rfl, rfl⟩ := h
        exact ⟨g, ⟨hs, hg⟩, rfl⟩
  | held key =>
    simp only [Session.findTarget] at h
    cases hh : t.session.held.get? key with
    | none => simp [hh] at h
    | some held =>
      obtain ⟨interface, a⟩ := held
      cases a with
      | foreign => simp [hh] at h
      | netlink d =>
        simp only [hh, Except.ok.injEq, Prod.mk.injEq] at h
        obtain ⟨rfl, rfl⟩ := h
        exact hh

end

end Concurrent

/-! What operations of the netlink family leave -/

namespace Netlink

def SameNets (w later : World) : Prop :=
  later.net = w.net ∧ later.signals = w.signals

theorem sameNets_setNet (w : World) (name : String) : SameNets w (w.setNet name (w.net name)) :=
  ⟨(World.net_setNet w name _).trans (Function.update_eq_self name w.net), rfl⟩

theorem setup_cases (name : String) (build : Build) (h : Handle Attachment) (number : Int32)
    (w : World) :
    (∃ failure later, setup name build h number w = (.error (.failed failure), h, later) ∧
      SameNets w later) ∨
      ∃ p c i, build.contains p = true ∧ (w.net name).open? p = (some c, i) ∧
        setup name build h number w =
          (.ok (), { h with connection := some (.netlink c) },
            (w.setNet name i).log [.connectionReady (i.connection c)]) := by
  unfold setup
  split
  · exact .inl ⟨_, _, rfl, rfl, rfl⟩
  · rename_i p _
    split
    · exact .inl ⟨_, _, rfl, rfl, rfl⟩
    rename_i built
    split
    · exact .inl ⟨_, _, rfl, rfl, rfl⟩
    split
    · rename_i opened
      rw [(Interface.open?_eq_none opened).2]
      exact .inl ⟨_, _, rfl, sameNets_setNet w name⟩
    · rename_i c i opened
      exact .inr ⟨p, c, i, by simpa using built, opened, rfl⟩

theorem openSocket_cases {families : String → Family World Attachment} {build : Build}
    (netlink : ∀ name, families name = family build name)
    (registry : Table AddressFamily String) (domain type protocol : Int32) (w : World) :
    (∃ stop later, openSocket families registry domain type protocol w = (.error stop, later) ∧
      SameNets w later) ∨
      ∃ h later p c i, openSocket families registry domain type protocol w = (.ok h, later) ∧
        h.connection = some (.netlink c) ∧ build.contains p = true ∧
        (w.net h.family).open? p = (some c, i) ∧ SameNets (w.setNet h.family i) later := by
  unfold openSocket
  split
  · exact .inl ⟨_, _, rfl, rfl, rfl⟩
  rename_i domain _
  split
  · exact .inl ⟨_, _, rfl, rfl, rfl⟩
  rename_i name _
  split
  · exact .inl ⟨_, _, rfl, rfl, rfl⟩
  rename_i kind _
  simp only [netlink, family]
  generalize (Flags.truncate (type &&& ~~~SocketType.mask).toBitVec : SocketFlags) = flags
  rcases setup_cases name build ⟨domain, kind, flags, name, none⟩ protocol
      (w.log [.socketRequested domain kind flags protocol])
    with ⟨failure, later, refused, same⟩ | ⟨p, c, i, built, opened, ready⟩
  · rw [refused]
    exact .inl ⟨_, _, rfl, same⟩
  · rw [ready]
    exact .inr ⟨_, _, p, c, i, rfl, rfl, built, opened, rfl, rfl⟩

theorem duplicate_cases (build : Build) (h : Handle Attachment) (w : World) :
    (∃ stop later, h.duplicate (family build h.family) w = (.error stop, later) ∧
      SameNets w later) ∨
      ∃ c i, attached? h = some c ∧ (w.net h.family).addReference c = (.ok (), i) ∧
        h.duplicate (family build h.family) w = (.ok h, w.setNet h.family i) := by
  unfold Handle.duplicate
  split
  · exact .inl ⟨_, _, rfl, rfl, rfl⟩
  simp only [family, addReference]
  cases attached? h with
  | none => exact .inl ⟨_, _, rfl, rfl, rfl⟩
  | some c =>
    rcases counted : (w.net h.family).addReference c with ⟨fault | ⟨⟩, i⟩
    · obtain ⟨-, -, rfl⟩ := Interface.addReference_eq_error counted
      exact .inl ⟨.faulted fault, _, by simp only [counted]; rfl, sameNets_setNet w h.family⟩
    · exact .inr ⟨c, i, rfl, counted, by simp only [counted]; rfl⟩

theorem close_cases (name : String) (h : Handle Attachment) (w : World) :
    (∃ stop, close name h w = (.error stop, { h with connection := none }, w) ∧
      ∀ c, attached? h = some c → ((w.net name).connection c).references = 0) ∨
      ∃ c lines i, attached? h = some c ∧ (w.net name).release c = .ok (lines, i) ∧
        close name h w = (.ok (), { h with connection := none }, (w.setNet name i).log lines) := by
  unfold close attached?
  rcases h.connection with _ | c | _
  · exact .inl ⟨_, rfl, by simp⟩
  · cases given : (w.net name).release c with
    | error fault =>
      refine .inl ⟨.faulted fault, by simp [given], ?_⟩
      unfold Interface.release at given
      split at given <;> simp_all
    | ok r => exact .inr ⟨c, r.1, r.2, rfl, given, by simp [given]⟩
  · exact .inl ⟨_, rfl, by simp⟩

theorem setUpPoll_cases (build : Build) {h : Handle Attachment} {c : Nat} (events : Events)
    (w : World) (attached : attached? h = some c) :
    (∃ stop later, h.setUpPoll (family build h.family) events w = (.error stop, later) ∧
      SameNets w later) ∨
      ∃ i signals later,
        (w.net h.family).arm w.signals.newSlot.2.newSemaphore.2 c
          ⟨events, w.signals.newSlot.1, w.signals.newSemaphore.1⟩ = (.ok (), i, signals) ∧
        h.setUpPoll (family build h.family) events w =
          (.ok ⟨events, w.signals.newSlot.1, w.signals.newSemaphore.1⟩, later) ∧
        later.net = Function.update w.net h.family i ∧ later.signals = signals := by
  simp only [Handle.setUpPoll, family, arm, attached]
  have made : ((w.newSlot.2).newSemaphore.2).signals = w.signals.newSlot.2.newSemaphore.2 := rfl
  have nets : ((w.newSlot.2).newSemaphore.2).net h.family = w.net h.family := rfl
  have fresh : (⟨events, w.newSlot.1, w.newSlot.2.newSemaphore.1⟩ : PollDescriptor) =
      ⟨events, w.signals.newSlot.1, w.signals.newSemaphore.1⟩ := rfl
  rw [made, nets, fresh]
  rcases armed : (w.net h.family).arm w.signals.newSlot.2.newSemaphore.2 c
      ⟨events, w.signals.newSlot.1, w.signals.newSemaphore.1⟩ with ⟨refused | ⟨⟩, i, signals⟩
  · obtain ⟨-, rfl, rfl⟩ := Interface.arm_eq_error armed
    refine .inl ⟨_, _, rfl, (sameNets_setNet w h.family).1, ?_⟩
    exact w.signals.dropSlot_dropSemaphore_new
  · exact .inr ⟨i, signals, _, rfl, rfl, World.net_setNet_signals _ _ _ _, rfl⟩

theorem dispatch_sameNets (name : String) (c : Nat) (message : Bytes) (flags : TransferFlags)
    (destination : Address) (w : World) :
    SameNets w (dispatch name c message flags destination w).2 := by
  unfold dispatch
  split
  · exact ⟨rfl, rfl⟩
  · dsimp only
    split <;> exact ⟨rfl, rfl⟩

theorem enter_turns (name : String) (c : Nat) (w : World) :
    (∃ message i, (w.net name).pop? c = (some message, i) ∧
      enter name c w = (.took message, w.setNet name i)) ∨
    (∃ notifier, ((w.net name).connection c).responses = [] ∧
      (w.net name).notifier.register ((w.net name).connection c).id (.reader w.newSemaphore.1) =
        (.ok (w.net name).notifier.nextKey, notifier) ∧
      enter name c w = (.registered w.newSemaphore.1 (w.net name).notifier.nextKey,
        w.newSemaphore.2.setNet name { w.net name with notifier })) ∨
    ∃ failure, ((w.net name).connection c).responses = [] ∧
      (w.net name).notifier.capacity ≤ (w.net name).notifier.pending.length ∧
      enter name c w =
        (.refused, (w.setNet name (w.net name)).log [.waitNotSetUp failure]) := by
  unfold enter Interface.enter
  simp only [World.net_newSemaphore]
  rcases popped : (w.net name).pop? c with ⟨_ | message, i⟩
  · obtain ⟨empty, rfl⟩ := Interface.pop?_eq_none.1 popped
    rcases made : (w.net name).notifier.register ((w.net name).connection c).id
        (.reader w.newSemaphore.1) with ⟨failure | key, notifier⟩
    · obtain ⟨full, -, rfl⟩ := Notifier.register_eq_error.1 made
      exact .inr (.inr ⟨failure, empty, full, by simp [made]⟩)
    · obtain ⟨rfl, -⟩ := Notifier.register_eq_ok made
      exact .inr (.inl ⟨notifier, empty, rfl, by simp [made]⟩)
  · exact .inl ⟨message, i, rfl, by simp⟩

theorem enter_cases (name : String) (c : Nat) (w : World) :
    (∃ message i, (w.net name).pop? c = (some message, i) ∧
      enter name c w = (.took message, w.setNet name i)) ∨
    (∃ key notifier later, ((w.net name).connection c).responses = [] ∧
      (w.net name).notifier.register ((w.net name).connection c).id
        (.reader w.signals.newSemaphore.1) = (.ok key, notifier) ∧
      enter name c w = (.registered w.signals.newSemaphore.1 key, later) ∧
      later.net = Function.update w.net name { w.net name with notifier } ∧
      later.signals = w.signals.newSemaphore.2) ∨
    ∃ later, enter name c w = (.refused, later) ∧ SameNets w later := by
  rcases enter_turns name c w with taken | ⟨notifier, empty, made, entered⟩ | ⟨_, _, _, entered⟩
  · exact .inl taken
  · refine .inr (.inl ⟨_, notifier, _, empty, made, entered, ?_, rfl⟩)
    exact World.net_setNet w.newSemaphore.2 _ _
  · exact .inr (.inr ⟨_, entered, sameNets_setNet w name⟩)

end Netlink

namespace Concurrent

/-! Steps of the session -/

section

variable {t : Concurrent}

def inSession (t : Concurrent) (session : Session) : Concurrent :=
  { t with session }

theorem view_journal {later : World} (same : Netlink.SameNets t.session.world later) :
    (t.inSession { t.session with world := later }).view = t.view := by
  simp [inSession, view, net, signals, world, same.1, same.2]

theorem move_socket (netlink : t.IsNetlink) (key : Int) (domain type protocol : Int32) :
    Move t.view (.step (.socket key domain type protocol))
      (t.inSession (t.session.socket key domain type protocol).2).view := by
  unfold Session.socket Session.whenFound Session.freshKey Table.has
  cases fresh : t.session.sockets.get? key with
  | some h => exact .idle _
  | none =>
    simp only [Option.isSome_none, Bool.false_eq_true, if_false]
    rcases Netlink.openSocket_cases netlink.family t.session.registry domain type protocol
        t.session.world with
      ⟨stop, later, refused, same⟩ | ⟨h, later, p, c, i, made, attached, built, opened, same⟩
    · simpa only [refused, view_journal same] using Move.idle _
    · have : Move t.view (.step (.socket key domain type protocol)) _ :=
        .opened fresh opened attached ⟨_, built⟩
      simpa [made, inSession, view, net, signals, world, Session.setSocket, Session.answer,
        View.setNet, same.1, same.2, World.net_setNet] using this

theorem move_duplicate (netlink : t.IsNetlink) (key fresh : Int) :
    Move t.view (.step (.duplicate key fresh))
      (t.inSession (t.session.duplicate key fresh).2).view := by
  unfold Session.duplicate Session.withSocket Session.whenFound Session.freshKey
    Session.findSocket Table.has
  cases free : t.session.sockets.get? fresh with
  | some h => exact .idle _
  | none =>
    cases found : t.session.sockets.get? key with
    | none => exact .idle _
    | some h =>
      simp only [Option.isSome_none, Bool.false_eq_true, if_false, netlink.family]
      rcases Netlink.duplicate_cases t.session.build h t.session.world with
        ⟨stop, later, refused, same⟩ | ⟨c, i, attached, counted, made⟩
      · rw [refused]
        exact view_journal same ▸ .idle _
      · rw [made]
        have := Move.duplicated (v := t.view) free ⟨found, attached⟩ counted
        simpa [inSession, view, net, signals, world, Session.setSocket, Session.answer,
          View.setNet, World.net_setNet] using this

theorem close_sameNets {name : String} {build : Build} (h : Handle Attachment) (w : World) :
    Netlink.SameNets (Netlink.close name h w).2.2
      (h.close (Netlink.family build name) w).2 := by
  rcases Netlink.close_cases name h w with ⟨stop, closed, -⟩ | ⟨c, lines, i, -, -, closed⟩ <;>
    simp [Handle.close, Handle.discard, Netlink.family, closed, Netlink.SameNets]

theorem discard_sameNets {name : String} {build : Build} (h : Handle Attachment) (w : World) :
    Netlink.SameNets (Netlink.close name h w).2.2
      (h.discard (Netlink.family build name) w).2 := by
  unfold Handle.discard
  cases attached : h.connection with
  | none => simp [Netlink.close, attached, Netlink.SameNets]
  | some a =>
    simp only [Netlink.family]
    rcases Netlink.close_cases name h w with ⟨stop, closed, -⟩ | ⟨c, lines, i, -, -, closed⟩
    · cases stop with
      | failed failure =>
        simp only [closed, Netlink.SameNets]
        exact ⟨rfl, rfl⟩
      | faulted fault => simp [closed, Netlink.SameNets]
    · simp [closed, Netlink.SameNets]

theorem move_end {s : Session.Step} {key : Int} {h : Handle Attachment} {later : World}
    (ends : s = .close key ∨ s = .discard key) (free : t.isBorrowed key = false)
    (found : t.session.sockets.get? key = some h)
    (same : Netlink.SameNets (Netlink.close h.family h t.session.world).2.2 later) :
    Move t.view (.step s) (t.inSession { t.session.endSocket key with world := later }).view := by
  rcases Netlink.close_cases h.family h t.session.world with
    ⟨stop, closed, lost⟩ | ⟨c, lines, i, attached, given, closed⟩
  · have := Move.lost (v := t.view) ends free found lost
    rw [closed] at same
    simpa [inSession, view, net, signals, world, Session.endSocket, same.1, same.2] using this
  · have := Move.closed (v := t.view) ends free ⟨found, attached⟩ given
    rw [closed] at same
    have nets : later.net = Function.update t.session.world.net h.family i := by
      rw [same.1, ← World.net_setNet]; rfl
    have signals : later.signals = t.session.world.signals := same.2
    simpa [inSession, view, net, Concurrent.signals, world, Session.endSocket, View.setNet, nets,
      signals] using this

theorem settle_snd {α : Type} (session : Session) (reply : α → Session.Reply)
    (r : Outcome α × World) : (session.settle reply r).2 = { session with world := r.2 } := by
  obtain ⟨outcome, world⟩ := r
  cases outcome <;> rfl

theorem settleFilling_snd {α : Type} (session : Session) (reply : α → Session.Reply)
    (r : Filling α × World) :
    (session.settleFilling reply r).2 = { session with world := r.2 } := by
  obtain ⟨outcome, world⟩ := r
  cases outcome <;> rfl

theorem withIdleSocket_eq (netlink : t.IsNetlink) (key : Int)
    (next : Handle Attachment → Session.Answer) :
    t.session.withIdleSocket key next = t.session.withSocket key next := by
  simp [Session.withIdleSocket, netlink.2]

theorem withSocket_cases (key : Int) (next : Handle Attachment → Session.Answer) :
    (t.session.withSocket key next).2 = t.session ∨
      ∃ h, t.session.sockets.get? key = some h ∧ t.session.withSocket key next = next h := by
  unfold Session.withSocket Session.whenFound Session.findSocket
  cases found : t.session.sockets.get? key with
  | none => exact .inl rfl
  | some h => exact .inr ⟨h, rfl, rfl⟩

theorem withSocket_answer (key : Int) (reply : Handle Attachment → Session.Reply) :
    (t.session.withSocket key fun h => t.session.answer (reply h)).2 = t.session := by
  rcases withSocket_cases key _ with same | ⟨h, -, made⟩
  · exact same
  · rw [made]
    rfl

theorem move_close (netlink : t.IsNetlink) {key : Int} (free : t.isBorrowed key = false) :
    Move t.view (.step (.close key)) (t.inSession (t.session.close key).2).view := by
  unfold Session.close
  rw [withIdleSocket_eq netlink]
  rcases withSocket_cases key _ with same | ⟨h, found, made⟩
  · rw [same]
    exact .idle _
  · rw [made, settle_snd, netlink.family]
    exact move_end (.inl rfl) free found (close_sameNets h _)

theorem move_discard (netlink : t.IsNetlink) {key : Int} (free : t.isBorrowed key = false) :
    Move t.view (.step (.discard key)) (t.inSession (t.session.discard key).2).view := by
  unfold Session.discard
  rw [withIdleSocket_eq netlink]
  rcases withSocket_cases key _ with same | ⟨h, found, made⟩
  · rw [same]
    exact .idle _
  · rw [made, settle_snd, netlink.family]
    exact move_end (.inr rfl) free found (discard_sameNets h _)

theorem move_setNonblocking (netlink : t.IsNetlink) {key : Int} (nonblocking : Bool) :
    Move t.view (.step (.setNonblocking key nonblocking))
      (t.inSession (t.session.setNonblocking key nonblocking).2).view := by
  unfold Session.setNonblocking
  rw [withIdleSocket_eq netlink]
  rcases withSocket_cases key _ with same | ⟨h, found, made⟩
  · rw [same]
    exact .idle _
  · rw [made, netlink.family]
    have able : (Flags.single Capability.nonblocking).has .nonblocking = true := by decide
    simp only [Handle.setNonblocking, Netlink.family, able, if_true]
    exact Move.flagged (v := t.view) (h.flags.assign .nonblocking nonblocking) found

theorem move_settle {α : Type} {s : Session.Step} (key : Int)
    {next : Handle Attachment → Session.Answer}
    (operation : Handle Attachment → World → α × World)
    (settles : ∀ h, (next h).2 = { t.session with world := (operation h t.session.world).2 })
    (names : ∀ h w, t.session.sockets.get? key = some h → Netlink.SameNets w (operation h w).2 ∨
      ∃ c f, (∀ k, f k = { k with name := (f k).name, peer := (f k).peer }) ∧
        t.view.Renames h.family c s f ∧
        Netlink.SameNets (w.setNet h.family ((w.net h.family).update c f)) (operation h w).2) :
    Move t.view (.step s) (t.inSession (t.session.withSocket key next).2).view := by
  rcases withSocket_cases key _ with same | ⟨h, found, made⟩
  · rw [same]
    exact .idle _
  · rw [made, settles]
    rcases names h t.session.world found with same | ⟨c, f, ends, renames, same⟩
    · rw [view_journal same]
      exact .idle _
    · have := @Move.named t.view s h.family c f ends renames
      simpa [inSession, view, net, signals, world, View.setNet, same.1, same.2,
        World.net_setNet] using this

theorem bind_names {key : Int} {h : Handle Attachment} (address : Bytes) (pid : UInt32) (w : World)
    (found : t.session.sockets.get? key = some h) :
    Netlink.SameNets w (Netlink.bind h.family h address pid w).2 ∨
      ∃ c f, (∀ k, f k = { k with name := (f k).name, peer := (f k).peer }) ∧
        t.view.Renames h.family c (.bind key address pid) f ∧
        Netlink.SameNets (w.setNet h.family ((w.net h.family).update c f))
          (Netlink.bind h.family h address pid w).2 := by
  unfold Netlink.bind
  cases attached : Netlink.attached? h with
  | none => exact .inl ⟨rfl, rfl⟩
  | some c =>
    simp only
    split
    · exact .inl ⟨rfl, rfl⟩
    · rename_i decoded
      exact .inr ⟨c, _, fun _ => rfl, .bind ⟨found, attached⟩ rfl decoded, rfl, rfl⟩

theorem connect_names {key : Int} {h : Handle Attachment} (address : Bytes) (w : World)
    (found : t.session.sockets.get? key = some h) :
    Netlink.SameNets w (Netlink.connect h.family h address w).2 ∨
      ∃ c f, (∀ k, f k = { k with name := (f k).name, peer := (f k).peer }) ∧
        t.view.Renames h.family c (.connect key address) f ∧
        Netlink.SameNets (w.setNet h.family ((w.net h.family).update c f))
          (Netlink.connect h.family h address w).2 := by
  unfold Netlink.connect
  cases attached : Netlink.attached? h with
  | none => exact .inl ⟨rfl, rfl⟩
  | some c =>
    simp only
    split
    · exact .inl ⟨rfl, rfl⟩
    · rename_i decoded
      exact .inr ⟨c, _, fun _ => rfl, .connect ⟨found, attached⟩ rfl decoded, rfl, rfl⟩

theorem ownName_names (name : String) (h : Handle Attachment) (buffer : Bytes) (w : World) :
    Netlink.SameNets w (Netlink.ownName name h buffer w).2 := by
  unfold Netlink.ownName
  cases Netlink.attached? h <;> exact ⟨rfl, rfl⟩

theorem peerName_names (name : String) (h : Handle Attachment) (buffer : Bytes) (w : World) :
    Netlink.SameNets w (Netlink.peerName name h buffer w).2 := by
  unfold Netlink.peerName
  cases Netlink.attached? h <;> exact ⟨rfl, rfl⟩

theorem move_descriptor (key : Int) (events : Events) (number : Int) :
    Move t.view (.step (.descriptor key events number))
      (t.inSession (t.session.descriptor key events number).2).view := by
  unfold Session.descriptor
  cases known : t.session.semaphores.get? number with
  | some semaphore =>
    exact Move.described (v := t.view) known
  | none =>
    exact Move.describedAnew (v := t.view) known

theorem withDescriptor_cases (key : Int) (next : PollDescriptor → Session.Answer) :
    (t.session.withDescriptor key next).2 = t.session ∨
      ∃ fd, t.session.descriptors.get? key = some fd ∧
        t.session.withDescriptor key next = next fd := by
  unfold Session.withDescriptor Session.whenFound Session.findDescriptor
  cases found : t.session.descriptors.get? key with
  | none => exact .inl rfl
  | some fd => exact .inr ⟨fd, rfl, rfl⟩

theorem move_tryWait (key : Int) :
    Move t.view (.step (.tryWait key)) (t.inSession (t.session.tryWait key).2).view := by
  unfold Session.tryWait
  rcases withDescriptor_cases key _ with same | ⟨fd, found, made⟩
  · rw [same]
    exact .idle _
  · rw [made]
    cases taken : t.session.world.signals.take? fd.semaphore with
    | none => exact .idle _
    | some signals => exact Move.tried (v := t.view) found taken

theorem move_arm (netlink : t.IsNetlink) (key fdKey : Int) :
    Move t.view (.step (.arm key fdKey)) (t.inSession (t.session.arm key fdKey).2).view := by
  unfold Session.arm
  rcases withSocket_cases key _ with same | ⟨h, found, made⟩
  · rw [same]
    exact .idle _
  rw [made]
  rcases withDescriptor_cases fdKey _ with same | ⟨fd, described, made⟩
  · rw [same]
    exact .idle _
  rw [made, settle_snd, netlink.family]
  simp only [Netlink.family, Netlink.arm]
  cases attached : Netlink.attached? h with
  | none => exact .idle _
  | some c =>
    rcases armed : (t.session.world.net h.family).arm t.session.world.signals c fd with
      ⟨refused | ⟨⟩, i, told⟩
    · obtain ⟨-, rfl, rfl⟩ := Interface.arm_eq_error armed
      simp only [armed]
      exact view_journal (Netlink.sameNets_setNet t.session.world h.family) ▸ .idle _
    · simp only [armed]
      have := Move.armed (v := t.view) ⟨found, attached⟩ described armed
      simpa [inSession, view, net, signals, world, View.setNet,
        World.net_setNet_signals] using this

theorem findUnpolled_eq (netlink : t.IsNetlink) (key : Int) :
    t.session.findUnpolled key = t.session.findSocket key := by
  unfold Session.findUnpolled
  cases t.session.findSocket key with
  | error refusal => rfl
  | ok h => cases attached : Netlink.attached? h <;> simp [attached, Session.hasCall, netlink.2]

theorem move_disarm (netlink : t.IsNetlink) (key fdKey : Int) :
    Move t.view (.step (.disarm key fdKey))
      (t.inSession (t.session.disarm key fdKey).2).view := by
  unfold Session.disarm
  rw [findUnpolled_eq netlink]
  rcases withSocket_cases key _ with same | ⟨h, found, made⟩
  · rw [← Session.withSocket, same]
    exact .idle _
  rw [← Session.withSocket, made]
  rcases withDescriptor_cases fdKey _ with same | ⟨fd, described, made⟩
  · rw [same]
    exact .idle _
  rw [made, settle_snd, netlink.family]
  simp only [Netlink.family, Netlink.disarm]
  cases attached : Netlink.attached? h with
  | none => exact .idle _
  | some c =>
    have := Move.disarmed (v := t.view) ⟨found, attached⟩ described
    simpa [inSession, view, net, signals, world, View.setNet, World.net_setNet] using this

theorem withTarget_cases (target : Session.Target) (next : String → Nat → Session.Answer) :
    (t.session.withTarget target next).2 = t.session ∨
      ∃ name c, t.view.Reaches target name c ∧ t.session.withTarget target next = next name c := by
  unfold Session.withTarget Session.whenFound
  cases found : t.session.findTarget target with
  | error refusal => exact .inl rfl
  | ok place => exact .inr ⟨place.1, place.2, reaches_of_findTarget found, rfl⟩

theorem move_push (target : Session.Target) (message : Bytes) :
    Move t.view (.step (.push target message))
      (t.inSession (t.session.push target message).2).view := by
  unfold Session.push
  rcases withTarget_cases target _ with same | ⟨name, c, reached, made⟩
  · rw [same]
    exact .idle _
  · rw [made]
    have : Move t.view (.step (.push target message)) _ := .pushed reached
    simpa [Session.answer, inSession, view, net, signals, world, View.setNet,
      World.net_setNet] using this

theorem move_take (target : Session.Target) :
    Move t.view (.step (.take target)) (t.inSession (t.session.take target).2).view := by
  unfold Session.take
  rcases withTarget_cases target _ with same | ⟨name, c, reached, made⟩
  · rw [same]
    exact .idle _
  · rw [made]
    rcases popped : (t.session.world.net name).pop? c with ⟨_ | message, i⟩
    · obtain ⟨-, rfl⟩ := Interface.pop?_eq_none.1 popped
      exact view_journal (Netlink.sameNets_setNet t.session.world name) ▸ .idle _
    · have := Move.popped (v := t.view) reached popped
      simpa [Session.answer, inSession, view, net, signals, world, View.setNet,
        World.net_setNet] using this

theorem move_addReference (target : Session.Target) :
    Move t.view (.step (.addReference target))
      (t.inSession (t.session.addReference target).2).view := by
  unfold Session.addReference
  rcases withTarget_cases target _ with same | ⟨name, c, reached, made⟩
  · rw [same]
    exact .idle _
  · rw [made]
    rcases counted : (t.session.world.net name).addReference c with ⟨fault | ⟨⟩, i⟩
    · obtain ⟨-, -, rfl⟩ := Interface.addReference_eq_error counted
      exact view_journal (Netlink.sameNets_setNet t.session.world name) ▸ .idle _
    · rw [settle_snd]
      have := Move.counted (v := t.view) reached counted
      simpa [Session.answer, inSession, view, net, signals, world, View.setNet,
        World.net_setNet] using this

theorem move_hold (key heldKey : Int) :
    Move t.view (.step (.hold key heldKey)) (t.inSession (t.session.hold key heldKey).2).view := by
  unfold Session.hold
  rcases withSocket_cases key _ with same | ⟨h, found, made⟩
  · rw [same]
    exact .idle _
  · rw [made]
    cases attached : h.connection with
    | none => exact .idle _
    | some a => exact Move.kept (v := t.view) found attached

theorem move_register (domain : Int32) (interface : String) :
    (t.inSession (t.session.register domain interface).2).view = t.view := by
  unfold Session.register
  split
  · rfl
  · split <;> rfl

theorem move_step (netlink : t.IsNetlink) (s : Session.Step) :
    Move t.view (.step s) (t.step s).view := by
  unfold step
  split
  case isFalse => exact .idle _
  case isTrue allowed =>
    change Move t.view (.step s) (t.inSession (t.session.step t.calls.length s).2).view
    cases s with
    | register domain interface =>
      rw [show t.session.step t.calls.length (.register domain interface) =
        t.session.register domain interface from rfl, move_register]
      exact .idle _
    | socket key domain type protocol => exact move_socket netlink key domain type protocol
    | duplicate key fresh => exact move_duplicate netlink key fresh
    | close key =>
      refine move_close netlink ?_
      simpa [Session.Step.isSection, Session.Step.exclusive?] using allowed
    | discard key =>
      refine move_discard netlink ?_
      simpa [Session.Step.isSection, Session.Step.exclusive?] using allowed
    | describe key =>
      rw [show (t.session.step t.calls.length (.describe key)).2 = t.session from
        withSocket_answer key _]
      exact .idle _
    | setNonblocking key nonblocking => exact move_setNonblocking netlink nonblocking
    | bind key address pid =>
      refine move_settle key (fun h => Netlink.bind h.family h address pid)
        (fun h => ?_) fun h w => bind_names address pid w
      rw [netlink.family]
      exact settle_snd _ _ _
    | connect key address =>
      refine move_settle key (fun h => Netlink.connect h.family h address)
        (fun h => ?_) fun h w => connect_names address w
      rw [netlink.family]
      exact settle_snd _ _ _
    | name key buffer =>
      refine move_settle key (fun h => Netlink.ownName h.family h buffer)
        (fun h => ?_) fun h w _ => .inl (ownName_names h.family h buffer w)
      rw [netlink.family]
      exact settleFilling_snd _ _ _
    | peerName key buffer =>
      refine move_settle key (fun h => Netlink.peerName h.family h buffer)
        (fun h => ?_) fun h w _ => .inl (peerName_names h.family h buffer w)
      rw [netlink.family]
      exact settleFilling_snd _ _ _
    | listen key backlog =>
      refine move_settle key (fun _ => fails (α := Unit) .listenUnsupported)
        (fun h => ?_) fun h w _ => .inl ⟨rfl, rfl⟩
      rw [netlink.family]
      exact settle_snd _ _ _
    | accept key buffer =>
      refine move_settle key
        (fun _ => halts (α := Handle Attachment × Option (Nat × Bytes)) .acceptUnsupported
          buffer.toList)
        (fun h => ?_) fun h w _ => .inl ⟨rfl, rfl⟩
      rw [netlink.family]
      exact settleFilling_snd _ _ _
    | descriptor key events number => exact move_descriptor key events number
    | tryWait key => exact move_tryWait key
    | arm key fdKey => exact move_arm netlink key fdKey
    | disarm key fdKey => exact move_disarm netlink key fdKey
    | push target message => exact move_push target message
    | take target => exact move_take target
    | addReference target => exact move_addReference target
    | hold key heldKey => exact move_hold key heldKey
    | release heldKey => exact Move.dropped (v := t.view)
    | _ => simp [Session.Step.isSection] at allowed

/-! Calls -/

@[simp] theorem view_begin (call : Call) (w : World) :
    (t.begin call w).view =
      { t.view with net := w.net, signals := w.signals, calls := t.calls ++ [call] } := rfl

@[simp] theorem view_advance (n : Nat) (stage : Stage) (w : World) :
    (t.advance n stage w).view =
      { t.view with
        net := w.net, signals := w.signals
        calls := t.calls.modify n fun call => { call with stage } } := rfl

theorem move_begin {a : Action} {call : Call} {later : World}
    (section_ : ∀ s, a ≠ .step s)
    (offered : t.view.Offers call.socket call.interface call.connection)
    (silent : call.stage.waits = false) (unposted : ∀ fd, call.stage ≠ .posted fd)
    (same : Netlink.SameNets t.world later) : Move t.view a (t.begin call later).view := by
  rw [view_begin, same.1, same.2]
  exact .began section_ offered silent unposted

theorem move_receive (key : Int) (buffer : Bytes) (flags : TransferFlags)
    (sender : Option Bytes) :
    Move t.view (.receive key buffer flags sender) (t.receive key buffer flags sender).view := by
  unfold receive
  cases found : t.attached? key with
  | none => exact .idle _
  | some place =>
    obtain ⟨h, c⟩ := place
    have attached := attached?_eq_some.1 found
    have offered : t.view.Offers (some key) h.family c := ⟨h, attached, rfl⟩
    simp only
    rcases popped : (t.net h.family).pop? c with ⟨_ | message, i⟩
    · obtain ⟨-, rfl⟩ := Interface.pop?_eq_none.1 popped
      simp only
      split
      · exact move_begin (by simp) offered rfl (by simp) (Netlink.sameNets_setNet t.world h.family)
      · exact move_begin (by simp) offered rfl (by simp) (Netlink.sameNets_setNet t.world h.family)
    · rw [view_begin, World.net_setNet]
      exact Move.beganTaking attached popped

theorem move_get (target : Session.Target) :
    Move t.view (.get target) (t.get target).view := by
  unfold get
  cases found : t.session.findTarget target with
  | error refusal => exact .idle _
  | ok place =>
    exact move_begin (by simp) ⟨target, reaches_of_findTarget found⟩ rfl (by simp) ⟨rfl, rfl⟩

theorem move_poll (netlink : t.IsNetlink) (key : Int) (events : Events) :
    Move t.view (.poll key events) (t.poll key events).view := by
  unfold poll
  cases found : t.attached? key with
  | none => exact .idle _
  | some place =>
    obtain ⟨h, c⟩ := place
    have attached := attached?_eq_some.1 found
    simp only [netlink.family]
    rcases Netlink.setUpPoll_cases t.session.build events t.session.world attached.2 with
      ⟨stop, later, refused, same⟩ | ⟨i, signals, later, armed, made, nets, rfl⟩
    · rw [show t.world = t.session.world from rfl, refused]
      exact move_begin (by simp) ⟨h, attached, rfl⟩ rfl (by simp) same
    · rw [show t.world = t.session.world from rfl, made]
      simp only [view_begin, nets]
      exact Move.beganPoll attached rfl armed

theorem move_send (key : Int) (message : Bytes) (flags : TransferFlags)
    (destination : Option Bytes) :
    Move t.view (.send key message flags destination)
      (t.send key message flags destination).view := by
  unfold send
  cases found : t.attached? key with
  | none => exact .idle _
  | some place =>
    obtain ⟨h, c⟩ := place
    have offered : t.view.Offers (some key) h.family c := ⟨h, attached?_eq_some.1 found, rfl⟩
    simp only
    split
    · exact move_begin (by simp) offered rfl (by simp) ⟨rfl, rfl⟩
    rename_i goal _
    have same := Netlink.dispatch_sameNets h.family c message flags goal t.world
    split
    · rename_i answered
      rw [answered] at same
      exact move_begin (by simp) offered rfl (by simp) same
    · rename_i answered
      rw [answered] at same
      exact move_begin (by simp) offered rfl (by simp) same

theorem move_route (target : Session.Target) (message : Bytes) (flags : TransferFlags)
    (destination : Address) :
    Move t.view (.route target message flags destination)
      (t.route target message flags destination).view := by
  unfold route
  cases found : t.session.findTarget target with
  | error refusal => exact .idle _
  | ok place =>
    exact move_begin (by simp) ⟨target, reaches_of_findTarget found⟩ rfl (by simp) ⟨rfl, rfl⟩

theorem move_advance {n : Nat} {call : Call} {stage : Stage} {later : World}
    (found : t.calls[n]? = some call) (silent : call.stage.waits = false)
    (unposted : ∀ fd, call.stage ≠ .posted fd) (running : call.stage.isEnded = false)
    (later_silent : stage.waits = false) (later_unposted : ∀ fd, stage ≠ .posted fd)
    (same : Netlink.SameNets t.world later) :
    Move t.view (.goOn n) (t.advance n stage later).view := by
  rw [view_advance, same.1, same.2]
  exact .wentOn stage found silent later_silent later_unposted unposted running

theorem move_enter {n : Nat} {call : Call} {sink : Sink} (found : t.calls[n]? = some call)
    (here : call.stage = .entering sink) :
    Move t.view (.goOn n) (t.proceed n call (.entering sink)).view := by
  have running : call.stage.isEnded = false := by rw [here]; rfl
  have unposted : ∀ fd, call.stage ≠ .posted fd := by simp [here]
  have silent : call.stage.waits = false := by rw [here]; rfl
  unfold proceed
  rcases Netlink.enter_cases call.interface call.connection t.world with
    ⟨message, i, popped, made⟩ | ⟨key, notifier, later, empty, registered, made, nets, signals⟩ |
      ⟨later, made, same⟩
  · rw [made]
    cases sink with
    | buffers buffer sender =>
      simp only [view_advance, World.net_setNet]
      exact Move.took (v := t.view) (.handing message buffer sender) found here popped rfl
        (by simp)
    | direct =>
      simp only [view_advance, World.net_setNet]
      exact Move.took (v := t.view) (.ended (.message (some message))) found here popped rfl
        (by simp)
  · rw [made]
    simp only [view_advance, nets, signals]
    exact Move.registered (v := t.view) found here empty registered
  · rw [made]
    cases sink with
    | buffers buffer sender =>
      exact move_advance found silent unposted running rfl (by simp) ⟨same.1, same.2⟩
    | direct => exact move_advance found silent unposted running rfl (by simp) same

theorem move_posted (netlink : t.IsNetlink) {n : Nat} {call : Call} {fd : PollDescriptor}
    (found : t.calls[n]? = some call) (here : call.stage = .posted fd) :
    Move t.view (.goOn n) (t.proceed n call (.posted fd)).view := by
  unfold proceed
  cases borrowed : call.socket with
  | none => exact .idle _
  | some key =>
    cases socket : t.session.sockets.get? key with
    | none =>
      simp only [Option.bind_some, socket]
      exact .idle _
    | some h =>
      simp only [Option.bind_some, socket, netlink.family, Netlink.family, Netlink.disarm]
      cases attached : Netlink.attached? h with
      | none =>
        have bound : call.socket.bind t.view.sockets.get? = some h := by
          simp [borrowed, socket, view]
        exact Move.unattached (v := t.view) _ found here bound attached rfl
      | some c =>
        simp only [view_advance, World.net_setNet]
        exact Move.lowered (v := t.view) found here borrowed ⟨socket, attached⟩

theorem move_goOn (netlink : t.IsNetlink) (n : Nat) :
    Move t.view (.goOn n) (t.goOn n).view := by
  unfold goOn
  cases found : t.calls[n]? with
  | none => exact .idle _
  | some call =>
    simp only
    cases here : call.stage with
    | entering sink => exact move_enter found here
    | posted fd => exact move_posted netlink found here
    | ended result => exact .idle _
    | sleeping sink semaphore key =>
      simp only [proceed]
      cases taken : t.signals.take? semaphore with
      | none => exact .idle _
      | some signals => exact Move.woke (v := t.view) found here taken
    | woken sink key =>
      simp only [proceed, view_advance, World.net_setNet]
      exact Move.withdrew (v := t.view) found here
    | handing message buffer sender =>
      exact move_advance found (by simp [here, Stage.waits]) (by simp [here])
        (by simp [here, Stage.isEnded]) rfl (by simp) ⟨rfl, rfl⟩
    | polling fd =>
      simp only [proceed]
      cases taken : t.signals.take? fd.semaphore with
      | none => exact .idle _
      | some signals => exact Move.polled (v := t.view) found here taken
    | disarmed fd =>
      exact move_advance found (by simp [here, Stage.waits]) (by simp [here])
        (by simp [here, Stage.isEnded]) rfl (by simp) ⟨rfl, rfl⟩
    | replying replies outcome =>
      cases replies with
      | nil =>
        exact move_advance found (by simp [here, Stage.waits]) (by simp [here])
          (by simp [here, Stage.isEnded]) rfl (by simp) ⟨rfl, rfl⟩
      | cons reply replies =>
        simp only [proceed, view_advance, World.net_setNet]
        exact Move.replied (v := t.view) found here

theorem move_takeItem (name : String) : Move t.view (.take name) (t.take name).view := by
  unfold take
  cases next : (t.net name).queue.next? with
  | none => exact .idle _
  | some r =>
    have := Move.itemTaken (v := t.view) next
    simpa [view, net, signals, world, setWorld, View.setNet, World.net_setNet] using this

theorem view_fire {n : Nat} {name : String} {key : Nat} {wakeup : Wakeup}
    (found : t.taken[n]? = some (name, key, wakeup)) :
    (t.fire n).view = { t.view.setNet name
        ((t.net name).fire t.signals (t.isHeld name) key wakeup).2.1 with
      signals := ((t.net name).fire t.signals (t.isHeld name) key wakeup).2.2
      taken := t.taken.eraseIdx n } := by
  unfold fire
  rw [found]
  simp only
  let fired := (t.net name).fire t.signals (t.isHeld name) key wakeup
  have nets : World.net { (t.world.setNet name fired.2.1).log fired.1 with
      signals := fired.2.2 } = Function.update t.net name fired.2.1 := World.net_setNet _ _ _
  change { t.view with
    net := World.net { (t.world.setNet name fired.2.1).log fired.1 with signals := fired.2.2 }
    signals := fired.2.2
    taken := t.taken.eraseIdx n } = _
  rw [nets]
  rfl

theorem move_fire (n : Nat) : Move t.view (.fire n) (t.fire n).view := by
  cases found : t.taken[n]? with
  | none =>
    unfold fire
    rw [found]
    exact .idle _
  | some item =>
    rw [view_fire found]
    exact Move.itemFired (v := t.view) found

/-- Nothing but a move of the list comes of an action. -/
theorem act_move (netlink : t.IsNetlink) (a : Action) : Move t.view a (t.act a).view := by
  cases a with
  | step s => exact move_step netlink s
  | receive key buffer flags sender => exact move_receive key buffer flags sender
  | get target => exact move_get target
  | poll key events => exact move_poll netlink key events
  | send key message flags destination => exact move_send key message flags destination
  | route target message flags destination => exact move_route target message flags destination
  | goOn n => exact move_goOn netlink n
  | take name => exact move_takeItem name
  | fire n => exact move_fire n

end

end Concurrent

end NetlinkSocket
