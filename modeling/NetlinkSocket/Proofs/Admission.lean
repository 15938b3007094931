import NetlinkSocket.Proofs.Interleaving.Answers
import NetlinkSocket.Proofs.Refusals
import NetlinkSocket.Proofs.Replies
import NetlinkSocket.Proofs.Watch

/-!
Which sockets a session creates. What speaks against a socket is a list in order of precedence, and
a call fails as the first of the list that applies says; if none does, there is one connection more.
-/

namespace NetlinkSocket

namespace AddressFamily

def numbers : List Int32 := [0, 1, 2, 10, 16, 17]

theorem number_mem (f : AddressFamily) : f.number ∈ numbers := by
  cases f <;> decide

theorem number_eq_netlink {f : AddressFamily} : f.number = 16 ↔ f = .netlink := by
  cases f <;> decide

theorem ofNumber?_eq_none {n : Int32} : ofNumber? n = none ↔ n ∉ numbers := by
  change _ ↔ n ∉ all.map number
  simp [ofNumber?]

end AddressFamily

namespace SocketType

def numbers : List Int32 := [1, 2, 3, 4, 5]

theorem number_mem (k : SocketType) : k.number ∈ numbers := by
  cases k <;> decide

theorem ofNumber?_eq_none {n : Int32} : ofNumber? n = none ↔ n ∉ numbers := by
  change _ ↔ n ∉ all.map number
  simp [ofNumber?]

def packets : List Int32 := [2, 3]

theorem number_mem_packets {k : SocketType} : k.number ∈ packets ↔ k = .raw ∨ k = .datagram := by
  cases k <;> decide

theorem nonblocking_truncate (type : Int32) :
    (Flags.truncate (type &&& ~~~mask).toBitVec : SocketFlags).has .nonblocking = true ↔
      type &&& 0x800 = 0x800 := by
  have apart : (~~~mask).toBitVec &&& FlagKind.mask SocketFlag.nonblocking = 0x800 := by decide
  have known : SocketFlag.nonblocking ∈ (FlagKind.members : List SocketFlag) := by decide
  rw [Flags.has_truncate known, beq_iff_eq, Int32.toBitVec_and, BitVec.and_assoc, apart,
    ← Int32.toBitVec_inj, Int32.toBitVec_and]
  rfl

end SocketType

namespace Protocol

def numbers : List Int32 := [0, 2, 3, 4, 5, 6, 7, 8, 9, 10, 11, 12, 13, 14, 15, 16]

theorem number_mem (p : Protocol) : p.number ∈ numbers := by
  cases p <;> decide

theorem ofNumber?_eq_none {n : Int32} : ofNumber? n = none ↔ n ∉ numbers := by
  change _ ↔ n ∉ all.map number
  simp [ofNumber?]

theorem contains_eq_false {build : Build} {p : Protocol} :
    build.contains p = false ↔ build = .bare ∨ p.number ≠ 0 := by
  cases build <;> cases p <;> decide

theorem eq_route_of_contains {build : Build} {p : Protocol} (built : build.contains p = true) :
    build ≠ .bare ∧ p = .route := by
  cases build <;> cases p <;> simp_all [Build.contains]

end Protocol

namespace Session

variable (t : Session) (domain type protocol : Int32)

def registered? : Option String :=
  (AddressFamily.ofNumber? domain).bind t.registry.get?

def isFull (name : String) : Bool :=
  (t.world.net name).pool.capacity ≤ (t.world.net name).pool.count

/-- What speaks against a socket, in the order in which it is told. -/
def objections : List (Bool × Failure) :=
  [(domain ∉ AddressFamily.numbers, .unknownFamily),
    ((t.registered? domain).isNone, .unregisteredFamily),
    (type &&& 0xf ∉ SocketType.numbers, .unknownSocketType),
    (protocol ∉ Protocol.numbers, .unknownProtocol),
    (t.build = .bare || protocol ≠ 0, .protocolNotBuilt),
    (domain ≠ 16 || type &&& 0xf ∉ SocketType.packets, .kindUnsupported),
    ((t.registered? domain).any t.isFull, .connectionsExhausted)]

def refusal? : Option Failure :=
  ((t.objections domain type protocol).find? Prod.fst).map Prod.snd

/-- A socket on a new connection, beside which nothing differs but the journal. -/
structure Opens (name : String) (h : Handle Attachment) (later : World) : Prop where
  netlink : h.domain = .netlink
  kind : h.type.number = type &&& 0xf
  nonblocking : h.nonblocking = true ↔ type &&& 0x800 = 0x800
  family : h.family = name
  place : h.connection = some (.netlink (t.world.net name).connections.length)
  opened : ∃ id next, later.net name =
    { t.world.net name with
      pool := ⟨(t.world.net name).pool.capacity, id :: (t.world.net name).pool.live, next⟩
      connections := (t.world.net name).connections ++
        [⟨id, .route, .unspecified, .unspecified, 1, none, []⟩] }
  others : ∀ other, other ≠ name → later.net other = t.world.net other
  signals : later.signals = t.world.signals

variable {t domain type protocol}

def Dispatches (t : Session) (domain : Int32) : Prop :=
  ∀ name traits, t.registered? domain = some name → t.kinds.get? name ≠ some (.stub traits)

theorem Dispatches.family (dispatches : t.Dispatches domain) {name : String}
    (registered : t.registered? domain = some name) :
    t.family name = Netlink.family t.build name := by
  rcases t.family_cases name with ⟨traits, stub, -⟩ | ⟨-, same⟩
  · exact absurd stub (dispatches name traits registered)
  · exact same

theorem of_requested {h : Handle Attachment}
    (requested : requested? t.registry domain type = some h) :
    h.domain.number = domain ∧ t.registered? domain = some h.family ∧
      h.type.number = type &&& 0xf ∧ h.connection = none ∧
      h.flags = Flags.truncate (type &&& ~~~SocketType.mask).toBitVec := by
  obtain ⟨d, known, requested⟩ := Option.bind_eq_some_iff.1 requested
  obtain ⟨name, registered, requested⟩ := Option.bind_eq_some_iff.1 requested
  obtain ⟨kind, typed, rfl⟩ := Option.map_eq_some_iff.1 requested
  exact ⟨AddressFamily.number_of_ofNumber? known, by simp [registered?, known, registered],
    SocketType.number_of_ofNumber? typed, rfl, rfl⟩

def Settles (t : Session) (domain type protocol : Int32) : Prop :=
  (∃ failure, t.refusal? domain type protocol = some failure ∧ ∃ later,
    openSocket t.family t.registry domain type protocol t.world =
      (.error (.failed failure), later) ∧ Netlink.SameNets t.world later) ∨
  (t.refusal? domain type protocol = none ∧ ∃ name h later, t.registered? domain = some name ∧
    openSocket t.family t.registry domain type protocol t.world = (.ok h, later) ∧
    t.Opens type name h later)

theorem opens_of_open? {h : Handle Attachment} {c : Nat} {i : Interface}
    (requested : requested? t.registry domain type = some h) (own : h.domain = .netlink)
    (opened : (t.world.net h.family).open? .route = (some c, i)) (before after : List LogLine) :
    t.Opens type h.family { h with connection := some (.netlink c) }
      (((t.world.log before).setNet h.family i).log after) := by
  obtain ⟨-, -, number, -, flags⟩ := of_requested requested
  obtain ⟨id, pool, allocated, rfl, rfl⟩ := Interface.open?_eq_some opened
  constructor
  case netlink => exact own
  case kind => exact number
  case nonblocking =>
    simp only [Handle.nonblocking, flags]
    exact SocketType.nonblocking_truncate type
  case family => rfl
  case place => rfl
  case opened =>
    unfold Pool.allocate? at allocated
    split at allocated
    · cases allocated
    · cases allocated
      exact ⟨_, _, World.net_setNet_self _ _ _⟩
  case others => exact fun other ne => World.net_setNet_of_ne _ ne _
  case signals => rfl

section Requested

variable {h : Handle Attachment} (requested : requested? t.registry domain type = some h)
  (netlink : t.family h.family = Netlink.family t.build h.family)
include requested netlink

theorem settles_of_refused (failure : Failure)
    (first : t.refusal? domain type protocol = some failure) {w : World}
    (failed : Netlink.setup h.family t.build h protocol (t.world.log [h.requestLine protocol]) =
      (.error (.failed failure), h, w)) (same : Netlink.SameNets t.world w) :
    t.Settles domain type protocol := by
  obtain ⟨-, -, -, detached, -⟩ := of_requested requested
  refine .inl ⟨failure, first, w, ?_, same.1, same.2⟩
  rw [openSocket_requested _ _ _ _ _ _ requested, netlink]
  simp only [Netlink.family, failed, Handle.discard, detached]

theorem settles_of_built (present : t.build ≠ .bare) : t.Settles domain type 0 := by
  obtain ⟨rfl, looked, number, -, -⟩ := of_requested requested
  have listed := h.domain.number_mem
  have told := number ▸ h.type.number_mem
  have known : (0 : Int32) ∈ Protocol.numbers := by decide
  have named : Protocol.ofNumber? 0 = some .route := by decide
  have built : t.build.contains .route = true := by
    cases build : t.build with
    | withRoute => rfl
    | bare => exact absurd build present
  by_cases packet : h.domain = .netlink ∧ (h.type = .raw ∨ h.type = .datagram)
  case neg =>
    have checked : (decide (h.domain ≠ .netlink) ||
        decide (h.type ≠ .raw) && decide (h.type ≠ .datagram)) = true := by
      simpa [Classical.or_iff_not_imp_left] using packet
    rw [← SocketType.number_mem_packets, ← AddressFamily.number_eq_netlink, number,
      Classical.not_and_iff_not_or_not] at packet
    refine settles_of_refused requested netlink .kindUnsupported
      (w := t.world.log [h.requestLine 0]) ?_ ?_ ⟨rfl, rfl⟩
    · simp [refusal?, objections, listed, looked, told, known, present, packet]
    · simp only [Netlink.setup, named, built, checked]
      rfl
  have checked : (decide (h.domain ≠ .netlink) ||
      decide (h.type ≠ .raw) && decide (h.type ≠ .datagram)) = false := by
    simpa [Classical.or_iff_not_imp_left] using packet
  obtain ⟨own, kind⟩ := packet
  rw [← SocketType.number_mem_packets, number] at kind
  have sixteen := AddressFamily.number_eq_netlink.2 own
  rw [sixteen] at listed looked
  rcases opened : (t.world.net h.family).open? .route with ⟨_ | c, i⟩
  · have full : t.isFull h.family = true := by
      simpa [isFull] using (Interface.open?_eq_none opened).1
    refine settles_of_refused requested netlink .connectionsExhausted
      (w := (t.world.log [h.requestLine 0]).setNet h.family i) ?_ ?_ ?_
    · simp [refusal?, objections, listed, looked, told, known, present, sixteen, kind, full]
    · simp only [Netlink.setup, named, built, checked, World.net_log, opened]
      rfl
    · rw [(Interface.open?_eq_none opened).2]
      exact Netlink.sameNets_setNet (t.world.log [h.requestLine 0]) h.family
  · have room : t.isFull h.family = false := by
      have some : ((t.world.net h.family).open? .route).1 ≠ none := by simp [opened]
      simpa [isFull] using mt Concurrent.open?_fst_eq_none.2 some
    refine .inr ⟨?_, h.family, _, _, sixteen ▸ looked, ?_,
      opens_of_open? requested own opened [h.requestLine 0] [.connectionReady (i.connection c)]⟩
    · simp [refusal?, objections, listed, looked, told, known, present, sixteen, kind, room]
    · rw [openSocket_requested _ _ _ _ _ _ requested, netlink]
      simp only [Netlink.family, Netlink.setup, named, built, checked, World.net_log, opened]
      rfl

theorem settles_of_requested : t.Settles domain type protocol := by
  obtain ⟨rfl, looked, number, -, -⟩ := of_requested requested
  have listed := h.domain.number_mem
  have told := number ▸ h.type.number_mem
  cases named : Protocol.ofNumber? protocol with
  | none =>
    have unlisted := Protocol.ofNumber?_eq_none.1 named
    refine settles_of_refused requested netlink .unknownProtocol
      (w := t.world.log [h.requestLine protocol]) ?_ ?_ ⟨rfl, rfl⟩
    · simp [refusal?, objections, listed, looked, told, unlisted]
    · simp [Netlink.setup, named]
  | some p =>
  obtain rfl := Protocol.number_of_ofNumber? named
  have numbered := p.number_mem
  cases built : t.build.contains p with
  | false =>
    have missing := Protocol.contains_eq_false.1 built
    refine settles_of_refused requested netlink .protocolNotBuilt
      (w := t.world.log [h.requestLine p.number]) ?_ ?_ ⟨rfl, rfl⟩
    · simp [refusal?, objections, listed, looked, told, numbered, missing]
    · simp [Netlink.setup, named, built]
  | true =>
    obtain ⟨present, rfl⟩ := Protocol.eq_route_of_contains built
    exact settles_of_built requested netlink present

end Requested

theorem settles (dispatches : t.Dispatches domain) : t.Settles domain type protocol := by
  cases known : AddressFamily.ofNumber? domain with
  | none =>
    have unlisted := AddressFamily.ofNumber?_eq_none.1 known
    refine .inl ⟨.unknownFamily, ?_, t.world, ?_, rfl, rfl⟩
    · simp [refusal?, objections, unlisted]
    · simp [openSocket, known, fails]
  | some d =>
  obtain rfl := AddressFamily.number_of_ofNumber? known
  have listed := d.number_mem
  have looked : t.registered? d.number = t.registry.get? d := by simp [registered?, known]
  cases registered : t.registry.get? d with
  | none =>
    refine .inl ⟨.unregisteredFamily, ?_, t.world, ?_, rfl, rfl⟩
    · simp [refusal?, objections, listed, looked, registered]
    · simp [openSocket, known, registered, fails]
  | some name =>
  rw [registered] at looked
  cases typed : SocketType.ofNumber? (type &&& SocketType.mask) with
  | none =>
    have unlisted : type &&& 0xf ∉ SocketType.numbers := SocketType.ofNumber?_eq_none.1 typed
    refine .inl ⟨.unknownSocketType, ?_, t.world, ?_, rfl, rfl⟩
    · simp [refusal?, objections, listed, looked, unlisted]
    · simp [openSocket, known, registered, typed, fails]
  | some kind =>
    let h : Handle Attachment :=
      ⟨d, kind, Flags.truncate (type &&& ~~~SocketType.mask).toBitVec, name, none⟩
    have requested : requested? t.registry d.number type = some h := by
      simp [requested?, known, registered, typed, h]
    exact settles_of_requested requested (dispatches.family looked)

structure Supports (t : Session) (domain type protocol : Int32) : Prop where
  build : t.build = .withRoute
  domain : domain = 16
  type : type &&& 0xf = 2 ∨ type &&& 0xf = 3
  protocol : protocol = 0
  room : ∃ name, t.registry.get? .netlink = some name ∧
    (t.world.net name).pool.count < (t.world.net name).pool.capacity

theorem refusal?_eq_none : t.refusal? domain type protocol = none ↔
    t.Supports domain type protocol := by
  have netlink : t.registered? 16 = t.registry.get? .netlink := rfl
  constructor
  · intro accepted
    simp only [refusal?, objections, Option.map_eq_none_iff, List.find?_eq_none, List.mem_cons,
      List.not_mem_nil, or_false, forall_eq_or_imp, forall_eq, Bool.or_eq_true, decide_eq_true_eq,
      not_or, Decidable.not_not] at accepted
    obtain ⟨-, registered, -, -, ⟨present, zero⟩, ⟨sixteen, packet⟩, room⟩ := accepted
    subst sixteen
    rw [netlink] at registered room
    obtain ⟨name, found⟩ := Option.ne_none_iff_exists'.1 (by simpa using registered)
    refine ⟨?_, rfl, by simpa [SocketType.packets] using packet, zero, name, found, ?_⟩
    · cases build : t.build with
      | withRoute => rfl
      | bare => exact absurd build present
    · simpa [found, isFull] using room
  · intro supported
    obtain ⟨build, rfl, packet, rfl, name, found, room⟩ := supported
    have domains : (16 : Int32) ∈ AddressFamily.numbers := by decide
    have protocols : (0 : Int32) ∈ Protocol.numbers := by decide
    have vacant : t.isFull name = false := by simpa [isFull] using room
    have types : type &&& 0xf ∈ SocketType.numbers ∧ type &&& 0xf ∈ SocketType.packets := by
      rcases packet with datagram | raw
      · rw [datagram]
        decide
      · rw [raw]
        decide
    simp [refusal?, objections, netlink, found, vacant, build, domains, protocols, types]

structure Admission (t : Session) (domain type protocol : Int32) : Prop where
  succeeds : (∃ h later, openSocket t.family t.registry domain type protocol t.world =
    (.ok h, later)) ↔ t.Supports domain type protocol
  opens : ∀ h later, openSocket t.family t.registry domain type protocol t.world =
    (.ok h, later) → ∃ name, t.registry.get? .netlink = some name ∧ t.Opens type name h later
  refuses : ∀ failure, t.refusal? domain type protocol = some failure → ∃ later,
    openSocket t.family t.registry domain type protocol t.world =
      (.error (.failed failure), later) ∧ Netlink.SameNets t.world later
  refused : t.refusal? domain type protocol = none ↔ t.Supports domain type protocol
  errnos : (t.objections domain type protocol).map (fun o => o.2.errno) =
    [.familyUnsupported, .familyUnsupported, .invalidArgument, .protocolUnsupported,
      .protocolUnsupported, .protocolUnsupported, .outOfMemory]

theorem admission (dispatches : t.Dispatches domain) : t.Admission domain type protocol := by
  have accepted : t.refusal? domain type protocol = none ↔ t.Supports domain type protocol :=
    refusal?_eq_none
  have settled : t.Settles domain type protocol := settles dispatches
  rcases settled with
    ⟨failure, first, later, refused, same⟩ | ⟨none, name, h, later, looked, opened, opens⟩
  · refine ⟨?_, ?_, ?_, accepted, rfl⟩
    · rw [← accepted, first, refused]
      simp
    · rw [refused]
      exact fun _ _ => nofun
    · intro other same
      rw [first] at same
      cases same
      exact ⟨later, refused, ‹_›⟩
  · have supported := accepted.1 none
    have sixteen := supported.domain
    subst sixteen
    refine ⟨?_, ?_, ?_, accepted, rfl⟩
    · rw [opened]
      simp [supported]
    · rintro _ _ same
      rw [opened] at same
      cases same
      exact ⟨name, looked, opens⟩
    · rw [none]
      exact nofun

end Session

end NetlinkSocket
