import NetlinkSocket.Proofs.Effects
import NetlinkSocket.Proofs.Interleaving.Moves

/-!
What the steps that deal in references answer, and that a step which fails leaves the session as
it was.
-/

namespace NetlinkSocket.Concurrent

variable {t : Concurrent} {key : Int} {h : Handle Attachment} {c : Nat}

theorem withSocket_eq (found : t.session.sockets.get? key = some h)
    (next : Handle Attachment → Session.Answer) : t.session.withSocket key next = next h := by
  simp [Session.withSocket, Session.whenFound, Session.findSocket, found]

theorem close_eq_ok {lines : List LogLine} {i : Interface} (build : Build) (w : World)
    (attached : Netlink.attached? h = some c)
    (given : (w.net h.family).release c = .ok (lines, i)) :
    h.close (Netlink.family build h.family) w = (.ok (), (w.setNet h.family i).log lines) ∧
      h.discard (Netlink.family build h.family) w = (.ok (), (w.setNet h.family i).log lines) := by
  have connection : h.connection = some (.netlink c) := by
    unfold Netlink.attached? at attached
    split at attached
    · cases attached
      assumption
    · cases attached
  simp [Handle.close, Handle.discard, Netlink.family, Netlink.close, connection, given]

theorem net_of_tearsDown (netlink : t.IsNetlink) {a : Action} {name : String}
    (torn : t.view.TearsDown name c a) : (t.act a).net name = (t.net name).disarm c := by
  cases torn with
  | @step key fdKey h fd attached family described =>
    subst family
    have found : t.session.findDescriptor fdKey = .ok fd := by
      have described : t.session.descriptors.get? fdKey = some fd := described
      simp [Session.findDescriptor, described]
    have answered : (t.session.disarm key fdKey).2 =
        { t.session with world := t.world.setNet h.family ((t.net h.family).disarm c) } := by
      unfold Session.disarm
      rw [findUnpolled_eq netlink, ← Session.withSocket, withSocket_eq attached.1]
      simp only [Session.withDescriptor, found, Session.whenFound, netlink.family, Netlink.family,
        Netlink.disarm, attached.2, Session.settle]
      rfl
    have stepped : t.act (.step (.disarm key fdKey)) =
        t.inSession (t.session.disarm key fdKey).2 := by
      simp only [act, Concurrent.step, Session.Step.isSection, Session.Step.exclusive?]
      rfl
    rw [stepped, answered]
    exact World.net_setNet_self _ _ _
  | @call n call fd key h found here socket attached family =>
    subst family
    have found : t.calls[n]? = some call := found
    have attached_eq : t.session.sockets.get? key = some h := attached.1
    change ((t.goOn n).net h.family) = _
    unfold goOn
    rw [found]
    simp only [proceed, here, socket, Option.bind_some, attached_eq, netlink.family, Netlink.family,
      Netlink.disarm, attached.2]
    exact World.net_setNet_self _ _ _

/-- A handle that ends gives back its reference, whether it is closed or dropped. -/
theorem close_of_release (netlink : t.IsNetlink) (attached : t.view.Attached key h c)
    {lines : List LogLine} {i : Interface}
    (given : (t.net h.family).release c = .ok (lines, i)) :
    t.session.close key = (.ok .done,
        { t.session.endSocket key with world := (t.world.setNet h.family i).log lines }) ∧
      t.session.discard key = t.session.close key := by
  have ends := close_eq_ok t.session.build t.session.world attached.2 given
  unfold Session.close Session.discard
  simp only [withIdleSocket_eq netlink, withSocket_eq attached.1, netlink.family, ends]
  exact ⟨rfl, trivial⟩

theorem view_of_release (netlink : t.IsNetlink) {s : Session.Step}
    (ends : s = .close key ∨ s = .discard key) (free : t.isBorrowed key = false)
    (attached : t.view.Attached key h c) {lines : List LogLine} {i : Interface}
    (given : (t.net h.family).release c = .ok (lines, i)) :
    (t.act (.step s)).view =
      { t.view.setNet h.family i with sockets := t.view.sockets.erase key } := by
  obtain ⟨closed, discarded⟩ := close_of_release netlink attached given
  have session : (t.session.step t.calls.length s).2 =
      { t.session.endSocket key with world := (t.world.setNet h.family i).log lines } := by
    rcases ends with rfl | rfl
    · exact congrArg Prod.snd closed
    · exact congrArg Prod.snd (discarded.trans closed)
  have allowed : (s.isSection && !(s.exclusive?.any t.isBorrowed)) = true := by
    rcases ends with rfl | rfl <;> simp [Session.Step.isSection, Session.Step.exclusive?, free]
  have stepped : t.act (.step s) = t.inSession (t.session.step t.calls.length s).2 := by
    simp only [act, step, allowed, if_true]
    rfl
  rw [stepped, session]
  simp only [inSession, view, net, signals, world, Session.endSocket, View.setNet]
  congr 1
  exact World.net_setNet _ _ _

theorem duplicate_of_addReference (netlink : t.IsNetlink) {fresh : Int}
    (free : t.session.sockets.get? fresh = none) (attached : t.view.Attached key h c) :
    t.session.duplicate key fresh =
      match (t.net h.family).addReference c with
      | (.error fault, i) => (.error (.stopped (.faulted fault)),
        { t.session with world := t.world.setNet h.family i })
      | (.ok (), i) => (.ok .done,
        { t.session with world := t.world.setNet h.family i }.setSocket fresh h) := by
  have connection : h.connection.isSome = true := by
    have := attached.2
    unfold Netlink.attached? at this
    split at this <;> simp_all
  obtain ⟨a, ha⟩ := Option.isSome_iff_exists.1 connection
  have refers := attached.2
  unfold Session.duplicate Session.whenFound Session.freshKey Table.has
  simp only [free, Option.isSome_none, Bool.false_eq_true, if_false, withSocket_eq attached.1,
    netlink.family, Handle.duplicate, ha, Netlink.family, Netlink.addReference, refers]
  have same : t.session.world.net h.family = t.net h.family := rfl
  rw [same]
  rcases (t.net h.family).addReference c with ⟨fault | ⟨⟩, i⟩ <;> rfl

theorem findTarget_of_reaches {target : Session.Target} {name : String}
    (reached : t.view.Reaches target name c) : t.session.findTarget target = .ok (name, c) := by
  cases target with
  | socket key =>
    obtain ⟨h, ⟨found, attached⟩, rfl⟩ := reached
    have found : t.session.sockets.get? key = some h := found
    simp [Session.findTarget, Session.findSocket, found, attached]
  | held key =>
    have found : t.session.held.get? key = some ⟨name, .netlink c⟩ := reached
    simp [Session.findTarget, found]

theorem addReference_of_reaches {target : Session.Target} {name : String}
    (reached : t.view.Reaches target name c) :
    t.session.addReference target =
      t.session.settle (fun _ => .done)
        (((t.net name).addReference c).1.mapError .faulted,
          t.world.setNet name ((t.net name).addReference c).2) := by
  unfold Session.addReference Session.withTarget Session.whenFound
  simp only [findTarget_of_reaches reached]
  rfl

structure Passes (t : Concurrent) (name : String) (domain type protocol : Int32) : Prop where
  domain : AddressFamily.ofNumber? domain = some .netlink
  registered : t.session.registry.get? .netlink = some name
  type : SocketType.ofNumber? (type &&& SocketType.mask) = some .raw ∨
    SocketType.ofNumber? (type &&& SocketType.mask) = some .datagram
  protocol : ∃ p, Protocol.ofNumber? protocol = some p ∧ t.session.build.contains p = true

theorem setup_of_passes {name : String} {build : Build} {kind : SocketType} {number : Int32}
    {p : Protocol} (known : Protocol.ofNumber? number = some p) (built : build.contains p = true)
    (packets : kind = .raw ∨ kind = .datagram) (flags : SocketFlags) (w : World) :
    Netlink.setup name build ⟨.netlink, kind, flags, name, none⟩ number w =
      match (w.net name).open? p with
      | (none, i) => (.error (.failed .connectionsExhausted),
        ⟨.netlink, kind, flags, name, none⟩, w.setNet name i)
      | (some c, i) => (.ok (), ⟨.netlink, kind, flags, name, some (.netlink c)⟩,
        (w.setNet name i).log [.connectionReady (i.connection c)]) := by
  have checked : (decide (AddressFamily.netlink ≠ .netlink) ||
      (decide (kind ≠ .raw) && decide (kind ≠ .datagram))) = false := by
    rcases packets with rfl | rfl <;> decide
  simp only [Netlink.setup, known, built, checked]
  rfl

theorem open?_fst_eq_none {i : Interface} {p : Protocol} :
    (i.open? p).1 = none ↔ i.pool.capacity ≤ i.pool.count := by
  unfold Interface.open? Pool.allocate? Pool.count
  split <;> rename_i allocated <;> split at allocated <;> simp_all

theorem socket_of_passes (netlink : t.IsNetlink) {name : String} {domain type protocol : Int32}
    (free : t.session.sockets.get? key = none) (passes : t.Passes name domain type protocol) :
    (t.session.socket key domain type protocol).1 =
      if (t.net name).pool.capacity ≤ (t.net name).pool.count then
        .error (.stopped (.failed .connectionsExhausted))
      else .ok .done := by
  obtain ⟨p, known, built⟩ := passes.protocol
  obtain ⟨kind, type, packets⟩ : ∃ kind,
      SocketType.ofNumber? (type &&& SocketType.mask) = some kind ∧
        (kind = .raw ∨ kind = .datagram) := by
    rcases passes.type with raw | datagram
    · exact ⟨_, raw, .inl rfl⟩
    · exact ⟨_, datagram, .inr rfl⟩
  unfold Session.socket Session.whenFound Session.freshKey Table.has openSocket
  simp only [free, Option.isSome_none, Bool.false_eq_true, if_false, passes.domain,
    passes.registered, netlink.family, type, Netlink.family, setup_of_passes known built packets,
    World.net_log]
  rcases opened : (t.net name).open? p with ⟨_ | c, i⟩
  · rw [if_pos (open?_fst_eq_none.1 (congrArg Prod.fst opened))]
    have opened : (t.session.world.net name).open? p = (none, i) := opened
    simp [opened, Handle.discard]
  · have room : ¬(t.net name).pool.capacity ≤ (t.net name).pool.count := by
      rw [← open?_fst_eq_none (p := p), opened]
      simp
    rw [if_neg room]
    have opened : (t.session.world.net name).open? p = (some c, i) := opened
    simp [opened]
    rfl

end NetlinkSocket.Concurrent
