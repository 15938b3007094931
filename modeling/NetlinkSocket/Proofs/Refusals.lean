import NetlinkSocket.Proofs.Interleaving.Moves

/-!
Calls that fail leave nothing behind but what they logged. This holds of every operation of a
family, hence of the calls made of them, hence of the steps of a session.
-/

namespace NetlinkSocket

open Netlink (SameNets)

namespace World

variable {α : Type} (w : World)

def Spared (r : Outcome α × World) : Prop :=
  ∀ stop, r.1 = .error stop → SameNets w r.2

def Kept (buffers : List Bytes) (r : Filling α × World) : Prop :=
  ∀ halt, r.1 = .error halt → halt.buffers = buffers ∧ SameNets w r.2

theorem spared_fails (failure : Failure) : w.Spared (fails failure w : Outcome α × World) :=
  fun _ _ => ⟨rfl, rfl⟩

theorem spared_ok (later : World) (a : α) : w.Spared (.ok a, later) := nofun

theorem kept_halts (failure : Failure) (buffers : List Bytes) :
    w.Kept buffers (halts failure buffers w : Filling α × World) := by
  rintro _ ⟨⟩
  exact ⟨rfl, rfl, rfl⟩

end World

/-- A family that spares the world whenever it fails. A send is left out: what becomes of it is up
to a handler. -/
structure Family.Careful (f : Family World Attachment) : Prop where
  log : ∀ line w, SameNets w (f.log line w)
  setup : ∀ h number w stop, h.connection = none → (f.setup h number w).1 = .error stop →
    (f.setup h number w).2.1.connection = none ∧ SameNets w (f.setup h number w).2.2
  addReference : ∀ h (w : World), w.Spared (f.addReference h w)
  bind : ∀ h address pid (w : World), w.Spared (f.bind h address pid w)
  name : ∀ h buffer (w : World), w.Kept [buffer] (f.name h buffer w)
  peerName : ∀ h buffer (w : World), w.Kept [buffer] (f.peerName h buffer w)
  listen : ∀ h backlog (w : World), w.Spared (f.listen h backlog w)
  connect : ∀ h address (w : World), w.Spared (f.connect h address w)
  accept : ∀ h buffer (w : World), w.Kept buffer.toList (f.accept h buffer w)
  arm : ∀ h fd (w : World), w.Spared (f.arm h fd w)
  disarm : ∀ h fd (w : World), w.Spared (f.disarm h fd w)
  disarm_of_arm : ∀ h fd w, (f.arm h fd w).1 = .ok () → ∀ later, (f.disarm h fd later).1 = .ok ()
  receive : ∀ h buffer flags sender w halt,
    (f.receive h buffer flags sender w).1 = .finished (.error halt) →
      halt.buffers = buffer :: sender.toList ∧ SameNets w (f.receive h buffer flags sender w).2

namespace Netlink

variable (name : String)

theorem addReference_spared (h : Handle Attachment) (w : World) :
    w.Spared (addReference name h w) := by
  unfold addReference
  split
  · exact fun _ _ => ⟨rfl, rfl⟩
  · rename_i c _
    rcases counted : (w.net name).addReference c with ⟨fault | ⟨⟩, i⟩
    · obtain ⟨-, -, rfl⟩ := Interface.addReference_eq_error counted
      exact fun _ _ => sameNets_setNet w name
    · exact w.spared_ok _ _

theorem bind_spared (h : Handle Attachment) (address : Bytes) (pid : UInt32) (w : World) :
    w.Spared (bind name h address pid w) := by
  unfold bind
  split
  · exact w.spared_fails _
  · split
    · exact w.spared_fails _
    · exact w.spared_ok _ _

theorem connect_spared (h : Handle Attachment) (address : Bytes) (w : World) :
    w.Spared (connect name h address w) := by
  unfold connect
  split
  · exact w.spared_fails _
  · split
    · exact w.spared_fails _
    · exact w.spared_ok _ _

theorem ownName_kept (h : Handle Attachment) (buffer : Bytes) (w : World) :
    w.Kept [buffer] (ownName name h buffer w) := by
  unfold ownName
  split
  · exact w.kept_halts _ _
  · nofun

theorem peerName_kept (h : Handle Attachment) (buffer : Bytes) (w : World) :
    w.Kept [buffer] (peerName name h buffer w) := by
  unfold peerName
  split
  · exact w.kept_halts _ _
  · nofun

theorem arm_spared (h : Handle Attachment) (fd : PollDescriptor) (w : World) :
    w.Spared (arm name h fd w) := by
  unfold arm
  split
  · exact w.spared_fails _
  · rename_i c _
    rcases made : (w.net name).arm w.signals c fd with ⟨⟨line, failure⟩ | ⟨⟩, i, signals⟩
    · obtain ⟨-, rfl, rfl⟩ := Interface.arm_eq_error made
      exact fun _ _ => sameNets_setNet w name
    · exact w.spared_ok _ _

theorem disarm_spared (h : Handle Attachment) (w : World) : w.Spared (disarm name h w) := by
  unfold disarm
  split
  · exact w.spared_fails _
  · exact w.spared_ok _ _

theorem disarm_of_arm {h : Handle Attachment} {fd : PollDescriptor} {w : World}
    (armed : (arm name h fd w).1 = .ok ()) (later : World) : (disarm name h later).1 = .ok () := by
  unfold arm at armed
  unfold disarm
  cases attached : attached? h with
  | none =>
    rw [attached] at armed
    cases armed
  | some c => rfl

theorem receive_kept (h : Handle Attachment) (buffer : Bytes) (flags : TransferFlags)
    (sender : Option Bytes) (w : World) {halt : Halt}
    (failed : (receive name h buffer flags sender w).1 = .finished (.error halt)) :
    halt.buffers = buffer :: sender.toList ∧
      SameNets w (receive name h buffer flags sender w).2 := by
  unfold receive at failed ⊢
  cases attached : attached? h with
  | none =>
    rw [attached] at failed
    cases failed
    exact ⟨rfl, rfl, rfl⟩
  | some c =>
    rw [attached] at failed
    simp only at failed ⊢
    rcases popped : (w.net name).pop? c with ⟨_ | message, i⟩
    · obtain ⟨-, rfl⟩ := Interface.pop?_eq_none.1 popped
      rw [popped] at failed
      simp only at failed ⊢
      have looked := sameNets_setNet w name
      split
      · rw [if_pos ‹_›] at failed
        cases failed
        exact ⟨rfl, looked⟩
      · rw [if_neg ‹_›] at failed
        rw [turn_eq_enter] at failed ⊢
        rcases enter_cases name c (w.setNet name (w.net name)) with
          ⟨message, i, -, made⟩ | ⟨key, notifier, later, -, -, made, -⟩ | ⟨later, made, same⟩
        · rw [made] at failed
          cases failed
        · rw [made] at failed
          cases failed
        · rw [made] at failed ⊢
          cases failed
          exact ⟨rfl, same.1.trans looked.1, same.2.trans looked.2⟩
    · rw [popped] at failed
      cases failed

theorem careful (build : Build) : (family build name).Careful where
  log _ _ := ⟨rfl, rfl⟩
  setup h number w stop closed failed := by
    rcases setup_cases name build h number w with
      ⟨failure, later, refused, same⟩ | ⟨p, c, i, -, -, made⟩
    · change (setup name build h number w).2.1.connection = none ∧
        SameNets w (setup name build h number w).2.2
      rw [refused]
      exact ⟨closed, same⟩
    · have failed : (setup name build h number w).1 = .error stop := failed
      rw [made] at failed
      cases failed
  addReference := addReference_spared name
  bind := bind_spared name
  name := ownName_kept name
  peerName := peerName_kept name
  listen _ _ w := w.spared_fails _
  connect := connect_spared name
  accept _ buffer w := w.kept_halts _ _
  arm := arm_spared name
  disarm h _ := disarm_spared name h
  disarm_of_arm _ _ _ armed later := disarm_of_arm name armed later
  receive h buffer flags sender w _ := receive_kept name h buffer flags sender w

end Netlink

namespace Stub

theorem unsupported_spared {α : Type} (call : FamilyCall) (w : World) :
    w.Spared (unsupported call w : Outcome α × World) := fun _ _ => ⟨rfl, rfl⟩

theorem unsupportedOn_kept {α : Type} (call : FamilyCall) (buffers : List Bytes) (w : World) :
    w.Kept buffers (unsupportedOn call buffers w : Filling α × World) := by
  rintro _ ⟨⟩
  exact ⟨rfl, rfl, rfl⟩

theorem careful (traits : Options) : (family traits).Careful where
  log _ _ := ⟨rfl, rfl⟩
  setup _ _ _ _ _ := nofun
  addReference _ w := w.spared_ok _ _
  bind _ _ _ := unsupported_spared _
  name _ _ := unsupportedOn_kept _ _
  peerName _ _ := unsupportedOn_kept _ _
  listen _ _ w := w.spared_fails _
  connect _ _ := unsupported_spared _
  accept _ _ w := w.kept_halts _ _
  arm _ _ := unsupported_spared _
  disarm _ _ := unsupported_spared _
  disarm_of_arm _ _ _ := nofun
  receive _ _ _ _ _ _ := by
    rintro ⟨⟩
    exact ⟨rfl, rfl, rfl⟩

end Stub

/-! Calls on handles -/

theorem World.sameNets_dropDescriptor (w : World) {later : World} {events : Events}
    (same : SameNets w.newSlot.2.newSemaphore.2 later) :
    SameNets w (later.dropDescriptor ⟨events, w.newSlot.1, w.newSlot.2.newSemaphore.1⟩) := by
  refine ⟨same.1, ?_⟩
  change (later.signals.dropSemaphore _).dropSlot _ = w.signals
  rw [same.2]
  exact w.signals.dropSlot_dropSemaphore_new

section

variable {f : Family World Attachment} (careful : f.Careful)
include careful

theorem Handle.duplicate_spared (h : Handle Attachment) (w : World) :
    w.Spared (h.duplicate f w) := by
  unfold duplicate
  split
  · exact w.spared_fails _
  · have counted := careful.addReference h w
    split
    · rename_i stop later made
      rw [made] at counted
      exact fun _ _ => counted stop rfl
    · exact w.spared_ok _ _

theorem Handle.setUpPoll_spared (h : Handle Attachment) (events : Events) (w : World) :
    w.Spared (h.setUpPoll f events w) := by
  unfold setUpPoll
  have armed := careful.arm h ⟨events, w.newSlot.1, w.newSlot.2.newSemaphore.1⟩
    w.newSlot.2.newSemaphore.2
  dsimp only
  split
  · rename_i stop later made
    rw [made] at armed
    exact fun _ _ => w.sameNets_dropDescriptor (armed stop rfl)
  · exact w.spared_ok _ _

theorem Handle.poll_spared (h : Handle Attachment) (events : Events) (w : World) {stop : Stop}
    (failed : (h.poll f events w).1 = .finished (.error stop)) :
    SameNets w (h.poll f events w).2 := by
  unfold poll at failed ⊢
  dsimp only at failed ⊢
  generalize own : (⟨events, w.newSlot.1, w.newSlot.2.newSemaphore.1⟩ : PollDescriptor) = fd
    at failed ⊢
  have spared := careful.arm h fd w.newSlot.2.newSemaphore.2
  rcases made : f.arm h fd w.newSlot.2.newSemaphore.2 with ⟨refused | ⟨⟩, later⟩
  · rw [made] at spared
    subst own
    exact w.sameNets_dropDescriptor (spared refused rfl)
  · rw [made] at failed
    unfold awaitPoll at failed
    dsimp only at failed
    split at failed
    · cases failed
    · rename_i signals _
      have lowered := careful.disarm_of_arm h fd _ (congrArg Prod.fst made) { later with signals }
      split at failed
      · rename_i lost
        rw [lost] at lowered
        cases lowered
      · cases failed

end

theorem Handle.setNonblocking_spared (f : Family World Attachment) (h : Handle Attachment)
    (nonblocking : Bool) (w : World) {stop : Stop}
    (failed : (h.setNonblocking f nonblocking w).1 = .error stop) :
    (h.setNonblocking f nonblocking w).2 = (h, w) := by
  unfold setNonblocking at failed ⊢
  split
  · rw [if_pos ‹_›] at failed
    cases failed
  · rfl

theorem openSocket_spared {families : String → Family World Attachment}
    (careful : ∀ name, (families name).Careful) (registry : Table AddressFamily String)
    (domain type protocol : Int32) (w : World) :
    w.Spared (openSocket families registry domain type protocol w) := by
  unfold openSocket
  split
  · exact w.spared_fails _
  split
  · exact w.spared_fails _
  rename_i domain _ _ name _
  split
  · exact w.spared_fails _
  rename_i kind _
  dsimp only
  generalize (Flags.truncate (type &&& ~~~SocketType.mask).toBitVec : SocketFlags) = flags
  have logged := (careful name).log (.socketRequested domain kind flags protocol) w
  have setup := (careful name).setup ⟨domain, kind, flags, name, none⟩ protocol
    ((families name).log (.socketRequested domain kind flags protocol) w)
  split
  · exact w.spared_ok _ _
  · rename_i stop h later made
    rw [made] at setup
    have closed : h.connection = none := (setup stop rfl rfl).1
    have same := (setup stop rfl rfl).2
    have discarded : h.discard (families name) later = (.ok (), later) := by
      simp only [Handle.discard, closed]
    rw [discarded]
    exact fun _ _ => ⟨same.1.trans logged.1, same.2.trans logged.2⟩

/-! Sends -/

namespace Netlink

def isHandled (name : String) (h : Handle Attachment) (message : Bytes)
    (destination : Option Bytes) (w : World) : Bool :=
  match attached? h with
  | none => false
  | some c =>
    match destinationOf name c destination w, Header.parse message with
    | .ok _, .ok _ => (w.net name).handlers.has ((w.net name).connection c).protocol
    | _, _ => false

def sendVia (name : String) (h : Handle Attachment) (message : Bytes) (flags : TransferFlags) :
    Option Bytes → World → Outcome Nat × World
  | none => send name h message flags
  | some destination => sendTo name h message flags destination

variable {name : String}

theorem sendVia_eq {h : Handle Attachment} {c : Nat} (attached : attached? h = some c)
    (message : Bytes) (flags : TransferFlags) (destination : Option Bytes) (w : World) :
    sendVia name h message flags destination w =
      match destinationOf name c destination w with
      | .error failure => fails failure w
      | .ok address => transmit name c message flags address w := by
  cases destination with
  | none => simp only [sendVia, send, attached, destinationOf]
  | some bytes =>
    cases decoded : Address.decode bytes <;>
      simp only [sendVia, sendTo, attached, destinationOf, decoded]

theorem sendVia_of_not_isHandled {h : Handle Attachment} {message : Bytes}
    {destination : Option Bytes} {w : World}
    (unhandled : isHandled name h message destination w = false) (flags : TransferFlags) :
    ∃ failure later, sendVia name h message flags destination w = fails failure later ∧
      SameNets w later := by
  cases attached : attached? h with
  | none =>
    refine ⟨.noConnection, w, ?_, rfl, rfl⟩
    cases destination with
    | none => simp only [sendVia, send, attached]
    | some bytes => simp only [sendVia, sendTo, attached]
  | some c =>
    rw [sendVia_eq attached]
    cases goal : destinationOf name c destination w with
    | error failure => exact ⟨failure, w, rfl, rfl, rfl⟩
    | ok address =>
      dsimp only
      unfold transmit
      cases parsed : Header.parse message with
      | error failure => exact ⟨failure, w, rfl, rfl, rfl⟩
      | ok header =>
        have unknown : (w.net name).handlers.get? ((w.net name).connection c).protocol = none := by
          simpa [isHandled, attached, goal, parsed, Table.has] using unhandled
        simp only [World.net_log, unknown]
        exact ⟨.noHandler, _, rfl, rfl, rfl⟩

theorem sendVia_of_isHandled {h : Handle Attachment} {message : Bytes}
    {destination : Option Bytes} {w : World}
    (handled : isHandled name h message destination w = true) (flags : TransferFlags) :
    ∃ c address header handler, attached? h = some c ∧
      destinationOf name c destination w = .ok address ∧ Header.parse message = .ok header ∧
      (w.net name).handlers.get? ((w.net name).connection c).protocol = some handler ∧
      sendVia name h message flags destination w =
        callHandler name c handler message flags address
          (w.log [.sending ((w.net name).connection c).protocol header]) := by
  unfold isHandled at handled
  split at handled
  · cases handled
  rename_i c attached
  split at handled
  · rename_i address header goal parsed
    obtain ⟨handler, known⟩ := Option.isSome_iff_exists.1 handled
    refine ⟨c, address, header, handler, attached, goal, parsed, known, ?_⟩
    rw [sendVia_eq attached, goal]
    simp only [transmit, parsed, World.net_log, known]
  · cases handled

theorem replies_of_route {d : Delivery} {failure : Failure}
    (refused : (Handler.route d).result = .error failure) : (Handler.route d).replies = [] := by
  unfold Handler.route at refused ⊢
  split
  · rfl
  · rename_i header parsed
    rw [parsed] at refused
    cases refused

theorem route_spared (name : String) (c : Nat) (message : Bytes) (flags : TransferFlags)
    (destination : Address) (w : World) :
    w.Spared (callHandler name c Handler.route message flags destination w) := by
  intro stop failed
  unfold callHandler at failed ⊢
  dsimp only at failed ⊢
  cases answered : (Handler.route ⟨(w.net name).connection c, message, flags, destination⟩).result
    with
  | ok n =>
    rw [answered] at failed
    cases failed
  | error failure =>
    rw [replies_of_route answered]
    exact ⟨(World.net_setNet _ _ _).trans (Function.update_eq_self name w.net), rfl⟩

end Netlink

/-! Steps of a session -/

namespace Session

structure Alike (t later : Session) : Prop where
  build : later.build = t.build
  kinds : later.kinds = t.kinds
  registry : later.registry = t.registry
  net : later.world.net = t.world.net
  signals : later.world.signals = t.world.signals
  sockets : later.sockets = t.sockets
  held : later.held = t.held
  descriptors : later.descriptors = t.descriptors
  semaphores : later.semaphores = t.semaphores
  waiting : later.waiting = t.waiting

/-- What an obstacle leaves in the buffers that were given. No call is made by a step that is
refused. -/
def Obstacle.buffers (given : List Bytes) : Obstacle → List Bytes
  | .refused _ => given
  | .stopped _ left => left

/-- An error leaves the session as it is, and the buffers that were given. -/
def Spared (t : Session) (given : List Bytes) (answer : Answer) : Prop :=
  ∀ obstacle, answer.1 = .error obstacle →
    Alike t answer.2 ∧ obstacle.buffers given = given

variable (t : Session) {given : List Bytes}

theorem alike_world {w : World} (same : SameNets t.world w) : Alike t { t with world := w } :=
  ⟨rfl, rfl, rfl, same.1, same.2, rfl, rfl, rfl, rfl, rfl⟩

theorem Alike.refl : Alike t t := alike_world t ⟨rfl, rfl⟩

theorem spared_refuse (r : Refusal) : t.Spared given (t.refuse r) := by
  rintro _ ⟨⟩
  exact ⟨.refl t, rfl⟩

theorem spared_answer (later : Session) (r : Reply) : t.Spared given (later.answer r) := nofun

theorem spared_settle {α : Type} {reply : α → Reply} {r : Outcome α × World}
    (spared : t.world.Spared r) : t.Spared [] (t.settle reply r) := by
  rcases r with ⟨stop | a, w⟩
  · rintro _ ⟨⟩
    exact ⟨alike_world t (spared stop rfl), rfl⟩
  · exact nofun

theorem spared_settleFilling {α : Type} {reply : α → Reply} {r : Filling α × World}
    (kept : t.world.Kept given r) : t.Spared given (t.settleFilling reply r) := by
  rcases r with ⟨halt | a, w⟩
  · obtain ⟨buffers, same⟩ := kept halt rfl
    rintro _ ⟨⟩
    exact ⟨alike_world t same, buffers⟩
  · exact nofun

theorem alike_of_spared {α : Type} {r : Outcome α × World} (spared : t.world.Spared r)
    {stop : Stop} {w : World} (made : r = (.error stop, w)) : Alike t { t with world := w } := by
  rw [made] at spared
  exact alike_world t (spared stop rfl)

theorem spared_whenFound {α : Type} {found : Except Refusal α} {next : α → Answer}
    (spared : ∀ a, found = .ok a → t.Spared given (next a)) :
    t.Spared given (t.whenFound found next) := by
  cases found with
  | error r => exact t.spared_refuse r
  | ok a => exact spared a rfl

theorem spared_withSocket {key : Int} {next : Handle Attachment → Answer}
    (spared : ∀ h, t.sockets.get? key = some h → t.Spared given (next h)) :
    t.Spared given (t.withSocket key next) := by
  refine t.spared_whenFound fun h found => spared h ?_
  unfold findSocket at found
  split at found
  · cases found
  · cases found
    assumption

theorem family_cases (name : String) :
    (∃ traits, t.kinds.get? name = some (.stub traits) ∧ t.family name = Stub.family traits) ∨
      (∀ traits, t.kinds.get? name ≠ some (.stub traits)) ∧
        t.family name = Netlink.family t.build name := by
  unfold family
  split
  · exact .inl ⟨_, ‹_›, rfl⟩
  · exact .inr ⟨‹_›, rfl⟩

theorem careful_family (name : String) : (t.family name).Careful := by
  rcases t.family_cases name with ⟨traits, -, same⟩ | ⟨-, same⟩
  · exact same ▸ Stub.careful traits
  · exact same ▸ Netlink.careful name t.build

theorem spared_socket (key : Int) (domain type protocol : Int32) :
    t.Spared [] (t.socket key domain type protocol) := by
  refine t.spared_whenFound fun _ _ => ?_
  split
  · rename_i made
    rintro _ ⟨⟩
    exact ⟨t.alike_of_spared (openSocket_spared t.careful_family _ _ _ _ _) made, rfl⟩
  · exact t.spared_answer _ _

theorem spared_duplicate (key fresh : Int) : t.Spared [] (t.duplicate key fresh) := by
  refine t.spared_whenFound fun _ _ => t.spared_withSocket fun h _ => ?_
  split
  · rename_i made
    rintro _ ⟨⟩
    exact ⟨t.alike_of_spared (h.duplicate_spared (t.careful_family _) _) made, rfl⟩
  · exact t.spared_answer _ _

theorem spared_setNonblocking (key : Int) (nonblocking : Bool) :
    t.Spared [] (t.setNonblocking key nonblocking) := by
  refine t.spared_withSocket fun h found => ?_
  split
  · exact t.spared_refuse _
  dsimp only
  rcases made : h.setNonblocking (t.family h.family) nonblocking t.world with ⟨stop | ⟨⟩, g, w⟩
  · have kept := h.setNonblocking_spared (t.family h.family) nonblocking t.world
      (congrArg Prod.fst made)
    rw [made] at kept
    cases kept
    rintro _ ⟨⟩
    refine ⟨⟨rfl, rfl, rfl, rfl, rfl, ?_, rfl, rfl, rfl, rfl⟩, rfl⟩
    exact Table.insert_self_of_get? found
  · exact nofun

theorem spared_arm (key fdKey : Int) : t.Spared [] (t.arm key fdKey) :=
  t.spared_withSocket fun h _ => t.spared_whenFound fun fd _ =>
    t.spared_settle ((t.careful_family h.family).arm h fd t.world)

theorem spared_poll (number : Nat) (key : Int) (events : Events) :
    t.Spared [] (t.poll number key events) := by
  refine t.spared_withSocket fun h _ => ?_
  dsimp only
  rcases made : h.poll (t.family h.family) events t.world with ⟨outcome | fd, later⟩
  · have settled : t.Spared [] (t.settle .reported (outcome, later)) := by
      refine t.spared_settle fun stop failed => ?_
      have spared := h.poll_spared (t.careful_family h.family) events t.world
        ((congrArg Prod.fst made).trans (congrArg Polling.finished failed))
      rwa [made] at spared
    split
    · exact settled
    split
    · exact t.spared_refuse _
    split
    · exact t.spared_refuse _
    · exact settled
  · split
    · exact t.spared_answer _ _
    split
    · exact t.spared_refuse _
    split
    · exact t.spared_refuse _
    · exact t.spared_answer _ _

theorem spared_receive (number : Nat) (key : Int) (buffer : Bytes) (flags : TransferFlags)
    (sender : Option Bytes) :
    t.Spared (buffer :: sender.toList) (t.receive number key buffer flags sender) := by
  refine t.spared_withSocket fun h _ => ?_
  dsimp only
  rcases made : (t.family h.family).receive h buffer flags sender t.world with
    ⟨outcome | _, later⟩
  · have settled : t.Spared (buffer :: sender.toList)
        (t.settleFilling .received (outcome, later)) := by
      refine t.spared_settleFilling fun halt failed => ?_
      have kept := (t.careful_family h.family).receive h buffer flags sender t.world halt
        ((congrArg Prod.fst made).trans (congrArg Reception.finished failed))
      rwa [made] at kept
    split
    · exact settled
    split
    · exact t.spared_refuse _
    · exact settled
  · split
    · exact t.spared_answer _ _
    split
    · exact t.spared_refuse _
    · exact t.spared_answer _ _

theorem spared_route (target : Target) (message : Bytes) (flags : TransferFlags)
    (destination : Address) : t.Spared [] (t.route target message flags destination) := by
  unfold route
  split
  · exact t.spared_refuse _
  · exact t.spared_whenFound fun place _ =>
      t.spared_settle (Netlink.route_spared place.1 place.2 message flags destination t.world)

theorem spared_addReference (target : Target) : t.Spared [] (t.addReference target) := by
  refine t.spared_whenFound fun place _ => ?_
  obtain ⟨name, c⟩ := place
  rcases counted : (t.world.net name).addReference c with ⟨fault | ⟨⟩, i⟩
  · obtain ⟨-, -, rfl⟩ := Interface.addReference_eq_error counted
    simp only [counted]
    exact t.spared_settle fun _ _ => Netlink.sameNets_setNet t.world name
  · simp only [counted]
    exact t.spared_settle (t.world.spared_ok _ ())

def asksHandler (key : Int) (message : Bytes) (destination : Option Bytes) : Bool :=
  match t.sockets.get? key with
  | none => false
  | some h =>
    match t.kinds.get? h.family with
    | some (.stub _) => false
    | _ => Netlink.isHandled h.family h message destination t.world

def sendStep (key : Int) (message : Bytes) (flags : TransferFlags) : Option Bytes → Step
  | none => .send key message flags
  | some destination => .sendTo key message flags destination

theorem step_sendStep {key : Int} {h : Handle Attachment} (found : t.sockets.get? key = some h)
    (real : ∀ traits, t.kinds.get? h.family ≠ some (.stub traits)) (number : Nat) (message : Bytes)
    (flags : TransferFlags) (destination : Option Bytes) :
    t.step number (sendStep key message flags destination) =
      t.settle .sent (Netlink.sendVia h.family h message flags destination t.world) := by
  have netlink := (t.family_cases h.family).resolve_left fun ⟨traits, known, _⟩ => real traits known
  cases destination <;>
    simp only [sendStep, step, withSocket, findSocket, found, whenFound, netlink.2] <;> rfl

theorem rejects_send {key : Int} {message : Bytes} {destination : Option Bytes}
    (unasked : t.asksHandler key message destination = false) (number : Nat)
    (flags : TransferFlags) :
    ∃ obstacle later, t.step number (sendStep key message flags destination) =
      (.error obstacle, later) ∧ Alike t later ∧ obstacle.buffers [] = [] := by
  unfold asksHandler at unasked
  cases found : t.sockets.get? key with
  | none =>
    refine ⟨.refused .noSuchSocket, t, ?_, .refl t, rfl⟩
    cases destination <;>
      simp only [sendStep, step, withSocket, findSocket, found, whenFound, refuse]
  | some h =>
    rw [found] at unasked
    rcases t.family_cases h.family with ⟨traits, known, same⟩ | ⟨real, -⟩
    · cases destination <;>
      · simp only [sendStep, step, withSocket, findSocket, found, whenFound, same]
        exact ⟨_, _, rfl, t.alike_world ⟨rfl, rfl⟩, rfl⟩
    · have unhandled : Netlink.isHandled h.family h message destination t.world = false := by
        dsimp only at unasked
        split at unasked
        · exact absurd ‹_› (real _)
        · exact unasked
      obtain ⟨failure, later, sent, same⟩ := Netlink.sendVia_of_not_isHandled unhandled flags
      rw [t.step_sendStep found real, sent]
      exact ⟨.stopped (.failed failure), _, rfl, t.alike_world same, rfl⟩

theorem spared_send {key : Int} {message : Bytes} {destination : Option Bytes}
    (unasked : t.asksHandler key message destination = false) (number : Nat)
    (flags : TransferFlags) :
    t.Spared [] (t.step number (sendStep key message flags destination)) := by
  obtain ⟨obstacle, later, rejected, same⟩ := t.rejects_send unasked number flags
  rw [rejected]
  rintro _ ⟨⟩
  exact same

/-- A send that is well addressed and well framed is what the handler of its protocol makes of
it. -/
def LeftToHandler (number : Nat) (key : Int) (message : Bytes) (flags : TransferFlags)
    (destination : Option Bytes) : Prop :=
  ∃ h c address header handler, t.sockets.get? key = some h ∧ Netlink.attached? h = some c ∧
    ((t.world.net h.family).connection c).Destined destination address ∧
    Header.parse message = .ok header ∧
    (t.world.net h.family).handlers.get? ((t.world.net h.family).connection c).protocol =
      some handler ∧
    t.step number (sendStep key message flags destination) =
      t.settle .sent (Netlink.callHandler h.family c handler message flags address
        (t.world.log [.sending ((t.world.net h.family).connection c).protocol header]))

theorem leftToHandler {key : Int} {message : Bytes} {destination : Option Bytes}
    (asked : t.asksHandler key message destination = true) (number : Nat)
    (flags : TransferFlags) : t.LeftToHandler number key message flags destination := by
  unfold asksHandler at asked
  split at asked
  · cases asked
  rename_i h found
  split at asked
  · cases asked
  rename_i real
  obtain ⟨c, address, header, handler, attached, goal, parsed, known, sent⟩ :=
    Netlink.sendVia_of_isHandled asked flags
  refine ⟨h, c, address, header, handler, found, attached,
    Netlink.destinationOf_eq_ok.1 goal, parsed, known, ?_⟩
  rw [t.step_sendStep found real, sent]

def spares : Step → Bool
  | .socket .. | .duplicate .. | .setNonblocking .. | .bind .. | .connect .. | .name ..
  | .peerName .. | .listen .. | .accept .. | .arm .. | .poll .. | .route .. | .receive ..
  | .addReference .. => true
  | .send key message _ => !t.asksHandler key message none
  | .sendTo key message _ destination => !t.asksHandler key message (some destination)
  | _ => false

def Step.buffers : Step → List Bytes
  | name _ buffer | peerName _ buffer => [buffer]
  | accept _ buffer => buffer.toList
  | receive _ buffer _ sender => buffer :: sender.toList
  | _ => []

theorem spared_step (number : Nat) {s : Step} (spares : t.spares s = true) :
    t.Spared s.buffers (t.step number s) := by
  have on_socket {α : Type} {key : Int} {reply : α → Reply}
      {operation : Handle Attachment → Outcome α × World}
      (spared : ∀ h, t.world.Spared (operation h)) :
      t.Spared [] (t.withSocket key fun h => t.settle reply (operation h)) :=
    t.spared_withSocket fun h _ => t.spared_settle (spared h)
  have filling {α : Type} {key : Int} {reply : α → Reply} {given : List Bytes}
      {operation : Handle Attachment → Filling α × World}
      (kept : ∀ h, t.world.Kept given (operation h)) :
      t.Spared given (t.withSocket key fun h => t.settleFilling reply (operation h)) :=
    t.spared_withSocket fun h _ => t.spared_settleFilling (kept h)
  cases s with
  | socket key domain type protocol => exact t.spared_socket key domain type protocol
  | duplicate key fresh => exact t.spared_duplicate key fresh
  | setNonblocking key nonblocking => exact t.spared_setNonblocking key nonblocking
  | bind => exact on_socket fun h => (t.careful_family h.family).bind h _ _ _
  | connect => exact on_socket fun h => (t.careful_family h.family).connect h _ _
  | name => exact filling fun h => (t.careful_family h.family).name h _ _
  | peerName => exact filling fun h => (t.careful_family h.family).peerName h _ _
  | listen => exact on_socket fun h => (t.careful_family h.family).listen h _ _
  | accept => exact filling fun h => (t.careful_family h.family).accept h _ _
  | send key message flags =>
    have unasked : t.asksHandler key message none = false := by simpa [Session.spares] using spares
    exact t.spared_send unasked number flags
  | sendTo key message flags destination =>
    have unasked : t.asksHandler key message (some destination) = false := by
      simpa [Session.spares] using spares
    exact t.spared_send unasked number flags
  | route target message flags destination =>
    exact t.spared_route target message flags destination
  | receive key buffer flags sender => exact t.spared_receive number key buffer flags sender
  | poll key events => exact t.spared_poll number key events
  | arm key fdKey => exact t.spared_arm key fdKey
  | addReference target => exact t.spared_addReference target
  | _ => cases spares

/-- What is in these buffers after a step: what the reply or the error brings back, or what was in
them if the step brings back none. -/
def Step.buffersAfter (s : Step) : Except Obstacle Reply → List Bytes
  | .ok (.name _ buffer) => [buffer]
  | .ok (.received r) => r.buffer :: (r.sender.map Prod.snd).toList
  | .ok _ => s.buffers
  | .error obstacle => obstacle.buffers s.buffers

end Session

end NetlinkSocket
