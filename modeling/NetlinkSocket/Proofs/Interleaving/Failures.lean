import NetlinkSocket.Proofs.Refusals
import NetlinkSocket.Proofs.Interleaving.Deliveries

/-!
Failed calls change nothing. A step of a session that fails leaves the session as it was, and so
does the critical section in which a call of some thread fails.
-/

namespace NetlinkSocket

open Netlink (SameNets)

def Stage.fails : Stage → Bool
  | ended (.received (.error _)) | ended (.reported (.error _)) | ended (.sent (.error _)) => true
  | _ => false

namespace Concurrent

structure Alike (t later : Concurrent) (n : Nat) : Prop where
  session : t.session.Alike later.session
  taken : later.taken = t.taken
  calls : ∀ m, m ≠ n → later.calls[m]? = t.calls[m]?

def failed (t : Concurrent) (n : Nat) : Bool :=
  t.calls[n]?.any fun call => call.stage.fails

/-- A call that has failed meanwhile leaves nothing but its error. -/
def Spared (t later : Concurrent) : Prop :=
  ∀ n, t.failed n = false → later.failed n = true → Alike t later n

theorem Alike.refl (t : Concurrent) (n : Nat) : Alike t t n := ⟨.refl _, rfl, fun _ _ => rfl⟩

section

variable {t later : Concurrent}

theorem spared_of_calls (same : later.calls = t.calls) : t.Spared later := by
  intro n before after
  rw [failed, same] at after
  exact absurd (before.symm.trans after) Bool.false_ne_true

theorem alike_begin (call : Call) {w : World} (same : SameNets t.world w) :
    Alike t (t.begin call w) t.calls.length where
  session := t.session.alike_world same
  taken := rfl
  calls m other := by
    change (t.calls ++ [call])[m]? = t.calls[m]?
    rcases Nat.lt_or_gt_of_ne other with within | beyond
    · exact List.getElem?_append_left within
    · rw [List.getElem?_eq_none (Nat.le_of_lt beyond), List.getElem?_eq_none]
      simpa using Nat.succ_le_of_lt beyond

theorem spared_begin {call : Call} {w : World}
    (same : call.stage.fails = true → SameNets t.world w) : t.Spared (t.begin call w) := by
  intro n before after
  have after : ((t.calls ++ [call])[n]?.any fun call => call.stage.fails) = true := after
  by_cases within : n < t.calls.length
  · rw [List.getElem?_append_left within] at after
    exact absurd (before.symm.trans after) Bool.false_ne_true
  · have last : n = t.calls.length := by
      by_contra beyond
      rw [List.getElem?_eq_none (by simp; omega)] at after
      cases after
    subst last
    rw [List.getElem?_concat_length] at after
    exact alike_begin call (same after)

theorem spared_begin_of_fails {call : Call} (silent : call.stage.fails = false) (w : World) :
    t.Spared (t.begin call w) :=
  spared_begin fun fails => absurd (silent.symm.trans fails) Bool.false_ne_true

theorem alike_advance (n : Nat) (stage : Stage) {w : World} (same : SameNets t.world w) :
    Alike t (t.advance n stage w) n where
  session := t.session.alike_world same
  taken := rfl
  calls _ other := List.getElem?_modify_ne _ _ other.symm

theorem spared_advance {n : Nat} {stage : Stage} {w : World}
    (same : stage.fails = true → SameNets t.world w) : t.Spared (t.advance n stage w) := by
  intro m before after
  have after : ((t.calls.modify n fun call => { call with stage })[m]?.any
      fun call => call.stage.fails) = true := after
  by_cases here : m = n
  · subst here
    rw [List.getElem?_modify_eq] at after
    obtain ⟨call, changed, fails⟩ := (Option.any_eq_true _ _).1 after
    obtain ⟨old, -, rfl⟩ := Option.map_eq_some_iff.1 changed
    exact alike_advance m stage (same fails)
  · rw [List.getElem?_modify_ne _ _ (Ne.symm here)] at after
    exact absurd (before.symm.trans after) Bool.false_ne_true

theorem spared_advance_of_fails {stage : Stage} (silent : stage.fails = false) (n : Nat)
    (w : World) : t.Spared (t.advance n stage w) :=
  spared_advance fun fails => absurd (silent.symm.trans fails) Bool.false_ne_true

/-! What begins a call -/

variable (t)

theorem spared_receive (key : Int) (buffer : Bytes) (flags : TransferFlags)
    (sender : Option Bytes) : t.Spared (t.receive key buffer flags sender) := by
  unfold receive
  split
  · exact spared_of_calls rfl
  rename_i h c _
  rcases popped : (t.net h.family).pop? c with ⟨_ | message, i⟩
  · obtain ⟨-, rfl⟩ := Interface.pop?_eq_none.1 popped
    dsimp only
    exact spared_begin fun _ => Netlink.sameNets_setNet t.world h.family
  · dsimp only
    exact spared_begin_of_fails rfl _

theorem spared_get (target : Session.Target) : t.Spared (t.get target) := by
  unfold get
  split
  · exact spared_of_calls rfl
  · exact spared_begin_of_fails rfl _

theorem spared_poll (key : Int) (events : Events) : t.Spared (t.poll key events) := by
  unfold poll
  split
  · exact spared_of_calls rfl
  rename_i h _ _
  have spared := h.setUpPoll_spared (t.session.careful_family h.family) events t.world
  split
  · rename_i stop w made
    rw [made] at spared
    exact spared_begin fun _ => spared stop rfl
  · exact spared_begin_of_fails rfl _

theorem spared_send (key : Int) (message : Bytes) (flags : TransferFlags)
    (destination : Option Bytes) : t.Spared (t.send key message flags destination) := by
  unfold send
  split
  · exact spared_of_calls rfl
  rename_i h c _
  split
  · exact spared_begin fun _ => ⟨rfl, rfl⟩
  rename_i goal _
  have same := Netlink.dispatch_sameNets h.family c message flags goal t.world
  split
  · rename_i made
    rw [made] at same
    exact spared_begin fun _ => same
  · exact spared_begin_of_fails rfl _

theorem spared_route (target : Session.Target) (message : Bytes) (flags : TransferFlags)
    (destination : Address) : t.Spared (t.route target message flags destination) := by
  unfold route
  split
  · exact spared_of_calls rfl
  · exact spared_begin_of_fails rfl _

/-! What a call goes on with -/

theorem spared_enter (n : Nat) (call : Call) (sink : Sink) :
    t.Spared (t.proceed n call (.entering sink)) := by
  have entered := Netlink.enter_cases call.interface call.connection t.world
  unfold proceed
  rcases entered with
    ⟨message, i, -, made⟩ | ⟨key, notifier, later, -, -, made, -⟩ | ⟨later, made, same⟩
  all_goals
    rw [made]
    cases sink
  case inl.buffers | inl.direct => exact spared_advance_of_fails rfl _ _
  case inr.inl.buffers | inr.inl.direct => exact spared_advance_of_fails rfl _ _
  case inr.inr.buffers => exact spared_advance fun _ => same
  case inr.inr.direct => exact spared_advance_of_fails rfl _ _

theorem spared_posted (n : Nat) (call : Call) (fd : PollDescriptor) :
    t.Spared (t.proceed n call (.posted fd)) := by
  simp only [proceed]
  split
  · exact spared_of_calls rfl
  rename_i h _
  have spared := (t.session.careful_family h.family).disarm h fd t.world
  split
  · rename_i stop w made
    rw [made] at spared
    exact spared_advance fun _ => spared stop rfl
  · exact spared_advance_of_fails rfl _ _

theorem spared_goOn (n : Nat) : t.Spared (t.goOn n) := by
  unfold goOn
  split
  · exact spared_of_calls rfl
  rename_i call _
  cases call.stage with
  | entering sink => exact t.spared_enter n call sink
  | posted fd => exact t.spared_posted n call fd
  | sleeping sink semaphore key =>
    simp only [proceed]
    split
    · exact spared_of_calls rfl
    · exact spared_advance_of_fails rfl _ _
  | woken sink key => exact spared_advance_of_fails rfl _ _
  | handing message buffer sender => exact spared_advance_of_fails rfl _ _
  | polling fd =>
    simp only [proceed]
    split
    · exact spared_of_calls rfl
    · exact spared_advance_of_fails rfl _ _
  | disarmed fd => exact spared_advance_of_fails rfl _ _
  | replying replies outcome =>
    cases replies with
    | nil => exact spared_advance fun _ => ⟨rfl, rfl⟩
    | cons reply replies => exact spared_advance_of_fails rfl _ _
  | ended result => exact spared_of_calls rfl

theorem spared_act (a : Action) : t.Spared (t.act a) := by
  cases a with
  | step s =>
    refine spared_of_calls ?_
    change (t.step s).calls = t.calls
    unfold step
    split <;> rfl
  | receive key buffer flags sender => exact t.spared_receive key buffer flags sender
  | get target => exact t.spared_get target
  | poll key events => exact t.spared_poll key events
  | send key message flags destination => exact t.spared_send key message flags destination
  | route target message flags destination => exact t.spared_route target message flags destination
  | goOn n => exact t.spared_goOn n
  | take name =>
    refine spared_of_calls ?_
    change (t.take name).calls = t.calls
    unfold take
    split <;> rfl
  | fire n =>
    refine spared_of_calls ?_
    change (t.fire n).calls = t.calls
    unfold fire
    split <;> rfl

theorem alike_receive {key : Int} {buffer : Bytes} {flags : TransferFlags} {sender : Option Bytes}
    (untaken : takes (t, .receive key buffer flags sender) = none) :
    Alike t (t.act (.receive key buffer flags sender)) t.calls.length := by
  change Alike t (t.receive key buffer flags sender) t.calls.length
  have untaken : obtains t.calls.length (t, .receive key buffer flags sender) = none := untaken
  rw [obtains, inHand_of_le (Nat.le_refl _)] at untaken
  have untaken : (t.receive key buffer flags sender).inHand t.calls.length = none := untaken
  unfold receive at untaken ⊢
  split
  · exact .refl t _
  rename_i h c attached
  rw [attached] at untaken
  dsimp only at untaken
  rcases popped : (t.net h.family).pop? c with ⟨_ | message, i⟩
  · obtain ⟨-, rfl⟩ := Interface.pop?_eq_none.1 popped
    dsimp only
    exact alike_begin _ (Netlink.sameNets_setNet t.world h.family)
  · rw [popped] at untaken
    simp [inHand, begin, Stage.message?] at untaken

theorem alike_route {target : Session.Target} {message : Bytes} {flags : TransferFlags}
    {destination : Address} {call : Call} {replies : List Bytes} {stop : Stop}
    (begun : (t.act (.route target message flags destination)).calls[t.calls.length]? = some call)
    (refused : call.stage = .replying replies (.error stop)) :
    replies = [] ∧ Alike t (t.act (.route target message flags destination)) t.calls.length := by
  change (t.route target message flags destination).calls[t.calls.length]? = _ at begun
  change replies = [] ∧ Alike t (t.route target message flags destination) t.calls.length
  unfold route at begun ⊢
  cases found : t.session.findTarget target with
  | error refusal =>
    rw [found] at begun
    simp at begun
  | ok place =>
    obtain ⟨name, c⟩ := place
    rw [found] at begun
    simp only [begin, Netlink.consult, List.getElem?_concat_length, Option.some.injEq] at begun
    subst begun
    simp only [Stage.replying.injEq] at refused
    obtain ⟨rfl, failed⟩ := refused
    refine ⟨?_, alike_begin _ ⟨rfl, rfl⟩⟩
    cases answered : (Handler.route ⟨(t.world.net name).connection c, message, flags,
        destination⟩).result with
    | ok n =>
      rw [answered] at failed
      cases failed
    | error failure => exact Netlink.replies_of_route answered

theorem buffers_receive {key : Int} {buffer : Bytes} {flags : TransferFlags}
    {sender : Option Bytes} {call : Call} {halt : Halt}
    (new : (t.act (.receive key buffer flags sender)).calls = t.calls ++ [call])
    (failed : call.stage = .ended (.received (.error halt))) :
    halt.buffers = buffer :: sender.toList := by
  have begins := (begins_of_new new).1
  rw [failed] at begins
  cases begins
  rfl

variable {t}

theorem buffers_goOn {n : Nat} {call later : Call} {halt : Halt}
    (found : t.calls[n]? = some call) (after : (t.act (.goOn n)).calls[n]? = some later)
    (failed : later.stage = .ended (.received (.error halt))) :
    later = call ∨ ∃ buffer sender, call.stage = .entering (.buffers buffer sender) ∧
      halt.buffers = buffer :: sender.toList := by
  refine (precedes_goOn found after).imp_right fun next => ?_
  rw [failed] at next
  generalize call.stage = stage at next
  cases next
  exact ⟨_, _, rfl, rfl⟩

/-- A poll call that was set up does not fail: the handle that it borrows keeps its connection. -/
theorem Sound.calls_reported (s : t.Sound) {n : Nat} {call : Call} {stop : Stop}
    (after : (t.act (.goOn n)).calls[n]? = some call)
    (failed : call.stage = .ended (.reported (.error stop))) : t.calls[n]? = some call := by
  cases found : t.calls[n]? with
  | none =>
    rw [goOn_of_none found, found] at after
    exact after
  | some old =>
    rcases precedes_goOn found after with same | next
    · rw [same]
    · rw [failed] at next
      generalize here : old.stage = stage at next
      cases next with
      | unattached fd stop =>
        have goes : t.act (.goOn n) = t.proceed n old (.posted fd) := by
          simp only [Concurrent.act, goOn, found, here]
        rw [goes, proceed] at after
        split at after
        · exact found.symm.trans after
        rename_i h bound
        obtain ⟨key, borrowed, socket⟩ := Option.bind_eq_some_iff.1 bound
        obtain ⟨g, attached, -⟩ := s.watched.placed.borrowed old (List.mem_of_getElem? found)
          (by rw [here]; rfl) key borrowed
        have same : some h = some g := socket.symm.trans attached.1
        cases same
        simp only [s.netlink.family, Netlink.family, Netlink.disarm, attached.2] at after
        rw [calls_advance found] at after
        cases after
        cases failed

end

def Reachable (t : Concurrent) : Prop :=
  ∃ (origin : Concurrent) (actions : List Action), origin.IsFresh ∧ t = origin.run actions

theorem Reachable.sound {t : Concurrent} (reachable : t.Reachable) : t.Sound := by
  obtain ⟨origin, actions, fresh, rfl⟩ := reachable
  exact fresh.sound.run actions

/-- What holds of the calls that fail in a state, made as steps of the session or by threads. -/
structure Failures (t : Concurrent) : Prop where
  steps : ∀ (number : Nat) (s : Session.Step) (obstacle : Session.Obstacle),
    t.session.spares s = true → (t.session.step number s).1 = .error obstacle →
      t.session.Alike (t.session.step number s).2 ∧
        s.buffersAfter (t.session.step number s).1 = s.buffers
  rejected : ∀ (number : Nat) (key : Int) (message : Bytes) (flags : TransferFlags)
    (destination : Option Bytes), t.session.asksHandler key message destination = false →
      ∃ obstacle later, t.session.step number (Session.sendStep key message flags destination) =
        (.error obstacle, later) ∧ t.session.Alike later
  handled : ∀ (number : Nat) (key : Int) (message : Bytes) (flags : TransferFlags)
    (destination : Option Bytes), t.session.asksHandler key message destination = true →
      t.session.LeftToHandler number key message flags destination
  sections : ∀ a : Action, t.Spared (t.act a)
  buffers : ∀ (key : Int) (buffer : Bytes) (flags : TransferFlags) (sender : Option Bytes)
    (call : Call) (halt : Halt),
    (t.act (.receive key buffer flags sender)).calls = t.calls ++ [call] →
      call.stage = .ended (.received (.error halt)) → halt.buffers = buffer :: sender.toList
  entered : ∀ (n : Nat) (call later : Call) (halt : Halt), t.calls[n]? = some call →
    (t.act (.goOn n)).calls[n]? = some later →
      later.stage = .ended (.received (.error halt)) →
        later = call ∨ ∃ buffer sender, call.stage = .entering (.buffers buffer sender) ∧
          halt.buffers = buffer :: sender.toList
  received : ∀ (key : Int) (buffer : Bytes) (flags : TransferFlags) (sender : Option Bytes),
    takes (t, .receive key buffer flags sender) = none →
      Alike t (t.act (.receive key buffer flags sender)) t.calls.length
  routed : ∀ (target : Session.Target) (message : Bytes) (flags : TransferFlags)
    (destination : Address) (call : Call) (replies : List Bytes) (stop : Stop),
    (t.act (.route target message flags destination)).calls[t.calls.length]? = some call →
      call.stage = .replying replies (.error stop) →
        replies = [] ∧ Alike t (t.act (.route target message flags destination)) t.calls.length
  reported : t.Reachable → ∀ (n : Nat) (call : Call) (stop : Stop),
    (t.act (.goOn n)).calls[n]? = some call → call.stage = .ended (.reported (.error stop)) →
      t.calls[n]? = some call

theorem failures_everywhere (t : Concurrent) : Failures t where
  steps number s obstacle spares failed := by
    obtain ⟨same, kept⟩ := t.session.spared_step number spares obstacle failed
    rw [failed]
    exact ⟨same, kept⟩
  rejected number _ _ flags _ unasked := by
    obtain ⟨obstacle, later, rejected, same, -⟩ := t.session.rejects_send unasked number flags
    exact ⟨obstacle, later, rejected, same⟩
  handled number _ _ flags _ asked := t.session.leftToHandler asked number flags
  sections := t.spared_act
  buffers _ _ _ _ _ _ := t.buffers_receive
  entered _ _ _ _ := buffers_goOn
  received _ _ _ _ := t.alike_receive
  routed _ _ _ _ _ _ _ := t.alike_route
  reported reachable _ _ _ := reachable.sound.calls_reported

def polledTwice : List Action :=
  [.step (.register 16 "nl"), .step (.socket 0 16 3 0),
    .step (.descriptor 0 (Flags.single .readable) 0), .step (.arm 0 0)]

theorem failures_polledTwice :
    (let t := (start .withRoute [("nl", Interface.defaultLimits, [])]).run polledTwice;
      t.failed 0 = false ∧ (t.act (.poll 0 (Flags.single .readable))).failed 0 = true ∧
        (t.session.step 0 (.poll 0 (Flags.single .readable))).1 =
          .error (.stopped (.failed .pollAlreadyArmed)) ∧
        (t.session.step 0 (.receive 0 [9] (Flags.single .dontWait) (some [7]))).1 =
          .error (.stopped (.failed .nothingQueued) [[9], [7]])) ∧
      Failures ((start .withRoute [("nl", Interface.defaultLimits, [])]).run polledTwice) :=
  ⟨⟨by decide +kernel, by decide +kernel, by rfl, by rfl⟩, failures_everywhere _⟩

end Concurrent

end NetlinkSocket
