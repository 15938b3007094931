import NetlinkSocket.Proofs.Interleaving.Moves

/-!
What is recorded of calls. In a session of netlink interfaces only payload handlers have anything to
record; no other operation adds to the record or takes from it.
-/

namespace NetlinkSocket

def SameRecord (w later : World) : Prop :=
  later.journal.calls = w.journal.calls

namespace SameRecord

variable {w later : World}

theorem refl (w : World) : SameRecord w w := Eq.refl _

theorem trans {last : World} (h : SameRecord w later) (h' : SameRecord later last) :
    SameRecord w last :=
  Eq.trans h' h

end SameRecord

/-! Operations of the netlink family -/

namespace Netlink

variable (name : String)

theorem record_setup (build : Build) (h : Handle Attachment) (number : Int32) (w : World) :
    SameRecord w (setup name build h number w).2.2 := by
  unfold setup
  split
  · rfl
  split
  · rfl
  split
  · rfl
  split <;> rfl

variable (h : Handle Attachment) (w : World)

theorem record_close : SameRecord w (close name h w).2.2 := by
  rcases close_cases name h w with ⟨_, made, -⟩ | ⟨_, _, _, -, -, made⟩ <;> rw [made] <;> rfl

theorem record_addReference : SameRecord w (addReference name h w).2 := by
  unfold addReference
  split <;> rfl

theorem record_bind (address : Bytes) (pid : UInt32) :
    SameRecord w (bind name h address pid w).2 := by
  unfold bind
  split
  · rfl
  · split <;> rfl

theorem record_connect (address : Bytes) : SameRecord w (connect name h address w).2 := by
  unfold connect
  split
  · rfl
  · split <;> rfl

theorem record_ownName (buffer : Bytes) : SameRecord w (ownName name h buffer w).2 := by
  unfold ownName
  split <;> rfl

theorem record_peerName (buffer : Bytes) : SameRecord w (peerName name h buffer w).2 := by
  unfold peerName
  split <;> rfl

theorem record_arm (fd : PollDescriptor) : SameRecord w (arm name h fd w).2 := by
  unfold arm
  split
  · rfl
  · split <;> rfl

theorem record_disarm : SameRecord w (disarm name h w).2 := by
  unfold disarm
  split <;> rfl

theorem record_enter (c : Nat) : SameRecord w (enter name c w).2 := by
  rcases enter_turns name c w with ⟨_, _, -, made⟩ | ⟨_, -, -, made⟩ | ⟨_, -, -, made⟩ <;>
    rw [made] <;> rfl

end Netlink

/-! Handles of the netlink family -/

namespace Handle

variable (name : String) (build : Build) (h : Handle Attachment) (w : World)

theorem record_duplicate :
    SameRecord w (h.duplicate (Netlink.family build name) w).2 := by
  unfold duplicate
  split
  · rfl
  · have counted := Netlink.record_addReference name h w
    simp only [Netlink.family]
    split
    all_goals
      rename_i made
      rwa [made] at counted

theorem record_discard : SameRecord w (h.discard (Netlink.family build name) w).2 := by
  unfold discard
  split
  · rfl
  · have closed := Netlink.record_close name h w
    simp only [Netlink.family]
    split
    all_goals
      rename_i made
      rwa [made] at closed

theorem record_close : SameRecord w (h.close (Netlink.family build name) w).2 := by
  unfold close
  split
  rename_i outcome ended later made
  have closed : SameRecord w later := by
    have := Netlink.record_close name h w
    rwa [show Netlink.close name h w = (outcome, ended, later) from made] at this
  have discarded := record_discard name build ended later
  split
  all_goals
    rename_i made
    rw [made] at discarded
    exact closed.trans discarded

theorem record_setNonblocking (on : Bool) :
    SameRecord w (h.setNonblocking (Netlink.family build name) on w).2.2 := by
  unfold setNonblocking
  split <;> rfl

theorem record_setUpPoll (events : Events) :
    SameRecord w (h.setUpPoll (Netlink.family build name) events w).2 := by
  unfold setUpPoll
  have armed := Netlink.record_arm name h w.newSlot.2.newSemaphore.2
    ⟨events, w.newSlot.1, w.newSlot.2.newSemaphore.1⟩
  simp only [Netlink.family]
  split
  all_goals
    rename_i made
    rw [made] at armed
    exact armed

end Handle

theorem record_openSocket {families : String → Family World Attachment} {build : Build}
    (netlink : ∀ name, families name = Netlink.family build name)
    (registry : Table AddressFamily String) (domain type protocol : Int32) (w : World) :
    SameRecord w (openSocket families registry domain type protocol w).2 := by
  unfold openSocket
  split
  · rfl
  rename_i domain _
  split
  · rfl
  rename_i name _
  split
  · rfl
  rename_i kind _
  simp only [netlink]
  generalize (Flags.truncate (type &&& ~~~SocketType.mask).toBitVec : SocketFlags) = flags
  let logged := (Netlink.family build name).log (.socketRequested domain kind flags protocol) w
  have made : SameRecord w ((Netlink.family build name).setup
      ⟨domain, kind, flags, name, none⟩ protocol logged).2.2 :=
    Netlink.record_setup name build _ protocol logged
  split
  · rename_i ready
    rwa [ready] at made
  · rename_i stop h later refused
    rw [refused] at made
    have ended := made.trans (Handle.record_discard name build h later)
    split
    all_goals
      rename_i same
      rwa [same] at ended

namespace Session

variable {t : Session}

theorem record_settle {α : Type} (reply : α → Reply) {result : Outcome α × World}
    (same : SameRecord t.world result.2) : SameRecord t.world (t.settle reply result).2.world := by
  obtain ⟨_ | _, w⟩ := result <;> exact same

theorem record_settleFilling {α : Type} (reply : α → Reply) {result : Filling α × World}
    (same : SameRecord t.world result.2) :
    SameRecord t.world (t.settleFilling reply result).2.world := by
  obtain ⟨_ | _, w⟩ := result <;> exact same

theorem record_whenFound {α : Type} (found : Except Refusal α) {next : α → Answer}
    (same : ∀ a, SameRecord t.world (next a).2.world) :
    SameRecord t.world (t.whenFound found next).2.world := by
  cases found with
  | error r => rfl
  | ok a => exact same a

theorem record_withIdleSocket (key : Int) {next : Handle Attachment → Answer}
    (same : ∀ h, SameRecord t.world (next h).2.world) :
    SameRecord t.world (t.withIdleSocket key next).2.world := by
  refine record_whenFound _ fun h => ?_
  split
  · rfl
  · exact same h

theorem record_register (domain : Int32) (name : String) :
    SameRecord t.world (t.register domain name).2.world := by
  unfold register
  split
  · rfl
  · split <;> rfl

theorem record_hold (key heldKey : Int) :
    SameRecord t.world (t.hold key heldKey).2.world := by
  refine record_whenFound _ fun h => ?_
  split <;> rfl

theorem record_descriptor (key : Int) (events : Events) (number : Int) :
    SameRecord t.world (t.descriptor key events number).2.world := by
  unfold descriptor
  dsimp only
  split <;> rfl

theorem record_tryWait (key : Int) : SameRecord t.world (t.tryWait key).2.world := by
  refine record_whenFound _ fun fd => ?_
  split <;> rfl

section

variable (netlink : ∀ name, t.family name = Netlink.family t.build name)
include netlink

theorem record_socket (key : Int) (domain type protocol : Int32) :
    SameRecord t.world (t.socket key domain type protocol).2.world := by
  refine record_whenFound _ fun _ => ?_
  have opened := record_openSocket netlink t.registry domain type protocol t.world
  split
  all_goals
    rename_i made
    rwa [made] at opened

theorem record_duplicate (key fresh : Int) :
    SameRecord t.world (t.duplicate key fresh).2.world := by
  refine record_whenFound _ fun _ => record_whenFound _ fun h => ?_
  have made := Handle.record_duplicate h.family t.build h t.world
  rw [← netlink] at made
  split
  all_goals
    rename_i same
    rwa [same] at made

theorem record_setNonblocking (key : Int) (on : Bool) :
    SameRecord t.world (t.setNonblocking key on).2.world := by
  refine record_withIdleSocket key fun h => ?_
  have made := Handle.record_setNonblocking h.family t.build h t.world on
  rw [← netlink] at made
  exact record_settle (t := t.setSocket key _) _ made

theorem record_step (n : Nat) {s : Step} (atomic : s.isSection = true) :
    SameRecord t.world (t.step n s).2.world := by
  cases s with
  | register domain name => exact record_register domain name
  | socket key domain type protocol => exact record_socket netlink key domain type protocol
  | duplicate key fresh => exact record_duplicate netlink key fresh
  | setNonblocking key on => exact record_setNonblocking netlink key on
  | hold key heldKey => exact record_hold key heldKey
  | descriptor key events number => exact record_descriptor key events number
  | tryWait key => exact record_tryWait key
  | release heldKey => rfl
  | describe | push | take => exact record_whenFound _ fun _ => .refl _
  | addReference => exact record_whenFound _ fun _ => record_settle _ (.refl _)
  | close key =>
    refine record_withIdleSocket key fun h => record_settle (t := t.endSocket key) _ ?_
    rw [netlink]
    exact Handle.record_close _ _ _ _
  | discard key =>
    refine record_withIdleSocket key fun h => record_settle (t := t.endSocket key) _ ?_
    rw [netlink]
    exact Handle.record_discard _ _ _ _
  | bind key address pid =>
    refine record_whenFound _ fun h => record_settle _ ?_
    rw [netlink]
    exact Netlink.record_bind _ _ _ _ _
  | connect key address =>
    refine record_whenFound _ fun h => record_settle _ ?_
    rw [netlink]
    exact Netlink.record_connect _ _ _ _
  | name key buffer =>
    refine record_whenFound _ fun h => record_settleFilling _ ?_
    rw [netlink]
    exact Netlink.record_ownName _ _ _ _
  | peerName key buffer =>
    refine record_whenFound _ fun h => record_settleFilling _ ?_
    rw [netlink]
    exact Netlink.record_peerName _ _ _ _
  | listen key backlog =>
    refine record_whenFound _ fun h => record_settle _ ?_
    rw [netlink]
    rfl
  | accept key buffer =>
    refine record_whenFound _ fun h => record_settleFilling _ ?_
    rw [netlink]
    rfl
  | arm key fdKey =>
    refine record_whenFound _ fun h => record_whenFound _ fun fd => record_settle _ ?_
    rw [netlink]
    exact Netlink.record_arm _ _ _ _
  | disarm key fdKey =>
    refine record_whenFound _ fun h => record_whenFound _ fun fd => record_settle _ ?_
    rw [netlink]
    exact Netlink.record_disarm _ _ _
  | send | sendTo | route | receive | poll | runWork | detach | attach | attachForeign | setup =>
    cases atomic

end

end Session

end NetlinkSocket
