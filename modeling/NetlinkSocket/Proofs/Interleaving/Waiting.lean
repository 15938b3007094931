import NetlinkSocket.Proofs.Interleaving.Handles
import NetlinkSocket.Proofs.Readers

/-!
The moves that waiters take notice of. All others leave registrations, armed polls, semaphores and
waiting calls as they are.
-/

namespace NetlinkSocket

open Concurrent (Action)

namespace View

variable {v later : View} {a : Action}

structure Undisturbed (v later : View) : Prop where
  signals : later.signals = v.signals
  semaphores : later.semaphores = v.semaphores
  descriptors : later.descriptors = v.descriptors
  taken : later.taken = v.taken
  calls : ∀ (n : Nat) (call : Call), call.stage.waits = true →
    (later.calls[n]? = some call ↔ v.calls[n]? = some call)

/-- The moves by what they mean to waiters. -/
inductive Waiting (v : View) : Action → View → Prop
  | none {a : Action} {later : View} : Undisturbed v later →
      (∀ name, (v.net name).SameWaits (later.net name)) → Waiting v a later
  | disarmed {a : Action} {later : View} {name : String} {c : Nat} {i : Interface} :
      Undisturbed v later → v.TearsDown name c a ∨ v.EndsLast name c a →
      later.net = (v.setNet name i).net →
      ((v.net name).disarm c).SameWaits i → Waiting v a later
  | pushed {a : Action} {later : View} {name : String} {c : Nat} {message : Bytes} :
      Undisturbed v later → v.isHeld name c = true →
      later.net = (v.setNet name ((v.net name).push c message)).net → Waiting v a later
  | described {a : Action} {key number : Int} {events : Events} {semaphore : Nat} :
      v.semaphores.get? number = some semaphore →
      Waiting v a
        { v with
          signals := v.signals.newSlot.2
          descriptors := v.descriptors.insert key ⟨events, v.signals.newSlot.1, semaphore⟩ }
  | describedAnew {a : Action} {key number : Int} {events : Events} :
      v.semaphores.get? number = .none →
      Waiting v a
        { v with
          signals := v.signals.newSlot.2.newSemaphore.2
          semaphores := v.semaphores.insert number v.signals.newSemaphore.1
          descriptors :=
            v.descriptors.insert key ⟨events, v.signals.newSlot.1, v.signals.newSemaphore.1⟩ }
  | tried {key : Int} {fd : PollDescriptor} {signals : Signals} :
      v.descriptors.get? key = some fd → v.signals.take? fd.semaphore = some signals →
      Waiting v (.step (.tryWait key)) { v with signals }
  | armed {key fdKey : Int} {h : Handle Attachment} {c : Nat} {fd : PollDescriptor}
      {i : Interface} {signals : Signals} :
      v.Attached key h c → v.descriptors.get? fdKey = some fd →
      (v.net h.family).arm v.signals c fd = (.ok (), i, signals) →
      Waiting v (.step (.arm key fdKey)) { v.setNet h.family i with signals }
  | beganPoll {key : Int} {events : Events} {h : Handle Attachment} {c : Nat}
      {fd : PollDescriptor} {i : Interface} {signals : Signals} :
      v.Attached key h c →
      fd = ⟨events, v.signals.newSlot.1, v.signals.newSemaphore.1⟩ →
      (v.net h.family).arm v.signals.newSlot.2.newSemaphore.2 c fd = (.ok (), i, signals) →
      Waiting v (.poll key events)
        { v.setNet h.family i with
          signals, calls := v.calls ++ [⟨key, h.family, c, .polling fd⟩] }
  | registered {n : Nat} {call : Call} {sink : Sink} {key : Nat}
      {notifier : Notifier Wakeup} :
      v.calls[n]? = some call → call.stage = .entering sink →
      ((v.net call.interface).connection call.connection).responses = [] →
      (v.net call.interface).notifier.register
        ((v.net call.interface).connection call.connection).id
        (.reader v.signals.newSemaphore.1) = (.ok key, notifier) →
      Waiting v (.goOn n)
        { v.setNet call.interface { v.net call.interface with notifier } with
          signals := v.signals.newSemaphore.2
          calls := v.calls.modify n fun call =>
            { call with stage := .sleeping sink v.signals.newSemaphore.1 key } }
  | woke {n : Nat} {call : Call} {sink : Sink} {semaphore key : Nat}
      {signals : Signals} :
      v.calls[n]? = some call → call.stage = .sleeping sink semaphore key →
      v.signals.take? semaphore = some signals →
      Waiting v (.goOn n)
        { v with
          signals, calls := v.calls.modify n fun call => { call with stage := .woken sink key } }
  | withdrew {n : Nat} {call : Call} {sink : Sink} {key : Nat} :
      v.calls[n]? = some call → call.stage = .woken sink key →
      Waiting v (.goOn n)
        { v.setNet call.interface ((v.net call.interface).withdraw key) with
          calls := v.calls.modify n fun call => { call with stage := .entering sink } }
  | polled {n : Nat} {call : Call} {fd : PollDescriptor} {signals : Signals} :
      v.calls[n]? = some call → call.stage = .polling fd →
      v.signals.take? fd.semaphore = some signals →
      Waiting v (.goOn n)
        { v with
          signals, calls := v.calls.modify n fun call => { call with stage := .posted fd } }
  | itemTaken {name : String} {item : Nat × Wakeup}
      {queue : WorkQueue (Nat × Wakeup)} :
      (v.net name).queue.next? = some (item, queue) →
      Waiting v (.take name)
        { v.setNet name { v.net name with queue } with taken := v.taken ++ [(name, item)] }
  | itemFired {n : Nat} {name : String} {key : Nat} {wakeup : Wakeup} :
      v.taken[n]? = some (name, key, wakeup) →
      Waiting v (.fire n)
        { v.setNet name ((v.net name).fire v.signals (v.isHeld name) key wakeup).2.1 with
          signals := ((v.net name).fire v.signals (v.isHeld name) key wakeup).2.2
          taken := v.taken.eraseIdx n }

/-! The other moves -/

theorem undisturbed_same {later : View} (signals : later.signals = v.signals)
    (semaphores : later.semaphores = v.semaphores) (descriptors : later.descriptors = v.descriptors)
    (taken : later.taken = v.taken) (calls : later.calls = v.calls) : Undisturbed v later :=
  ⟨signals, semaphores, descriptors, taken, fun n call _ => by rw [calls]⟩

theorem undisturbed_append {later : View} {new : Call} (signals : later.signals = v.signals)
    (semaphores : later.semaphores = v.semaphores) (descriptors : later.descriptors = v.descriptors)
    (taken : later.taken = v.taken) (calls : later.calls = v.calls ++ [new])
    (passing : new.stage.waits = false) : Undisturbed v later := by
  refine ⟨signals, semaphores, descriptors, taken, fun n call waits => ?_⟩
  rw [calls, List.getElem?_append]
  split
  · rfl
  · rename_i beyond
    rw [List.getElem?_eq_none (l := v.calls) (Nat.le_of_not_lt beyond)]
    simp only [List.getElem?_singleton, reduceCtorEq, iff_false]
    split
    · rintro ⟨⟩
      rw [passing] at waits
      cases waits
    · exact nofun

theorem undisturbed_modify {later : View} {n : Nat} {call : Call} {stage : Stage}
    (signals : later.signals = v.signals) (semaphores : later.semaphores = v.semaphores)
    (descriptors : later.descriptors = v.descriptors) (taken : later.taken = v.taken)
    (calls : later.calls = v.calls.modify n fun call => { call with stage })
    (found : v.calls[n]? = some call) (before : call.stage.waits = false)
    (passing : stage.waits = false) : Undisturbed v later := by
  refine ⟨signals, semaphores, descriptors, taken, fun m other waits => ?_⟩
  rw [calls, List.getElem?_modify]
  by_cases same : n = m
  · subst same
    simp only [found, if_true, Option.map_eq_map, Option.map_some, Option.some.injEq]
    constructor
    · rintro rfl
      rw [passing] at waits
      cases waits
    · rintro rfl
      rw [before] at waits
      cases waits
  · simp [same]

theorem waiting_none {name : String} {i : Interface} (calm : Undisturbed v later)
    (net : later.net = (v.setNet name i).net) (same : (v.net name).SameWaits i) :
    Waiting v a later := by
  refine .none calm fun other => ?_
  rw [net]
  exact of_setNet (fun here => here ▸ same) fun _ => .refl _

theorem waits_of_isEnded {stage : Stage} (ended : stage.isEnded = true) : stage.waits = false := by
  cases stage <;> simp_all [Stage.isEnded, Stage.waits]

theorem waiting_of_move (p : v.Placed) (m : Move v a later) : Waiting v a later := by
  cases m with
  | opened _ made =>
    exact waiting_none (undisturbed_same rfl rfl rfl rfl rfl) rfl (Interface.sameWaits_open? made)
  | duplicated _ _ counted | counted _ counted =>
    exact waiting_none (undisturbed_same rfl rfl rfl rfl rfl) rfl
      (Interface.sameWaits_addReference counted)
  | closed ends free attached given =>
    rcases Interface.sameWaits_release given with same | ⟨last, same⟩
    · exact waiting_none (undisturbed_same rfl rfl rfl rfl rfl) rfl same
    · exact .disarmed (undisturbed_same rfl rfl rfl rfl rfl)
        (.inr ⟨_, _, _, rfl, ends, free, attached, rfl, last⟩) rfl same
  | named f names =>
    refine waiting_none (undisturbed_same rfl rfl rfl rfl rfl) rfl
      (Interface.sameWaits_update f fun k => ?_)
    rw [names k]
    exact ⟨rfl, rfl, fun empty => empty⟩
  | described known => exact .described known
  | describedAnew unknown => exact .describedAnew unknown
  | tried found taken => exact .tried found taken
  | armed attached found made => exact .armed attached found made
  | disarmed attached described =>
    exact .disarmed (undisturbed_same rfl rfl rfl rfl rfl) (.inl (.step attached rfl described)) rfl
      (.refl _)
  | pushed reached =>
    exact .pushed (undisturbed_same rfl rfl rfl rfl rfl) (p.of_reaches reached).2 rfl
  | popped _ taken =>
    exact waiting_none (undisturbed_same rfl rfl rfl rfl rfl) rfl (Interface.sameWaits_pop? taken)
  | began _ _ passing =>
    exact .none (undisturbed_append rfl rfl rfl rfl rfl passing) fun _ => .refl _
  | beganTaking _ taken =>
    exact waiting_none (undisturbed_append rfl rfl rfl rfl rfl rfl) rfl
      (Interface.sameWaits_pop? taken)
  | beganPoll attached own made => exact .beganPoll attached own made
  | wentOn stage found before passing =>
    exact .none (undisturbed_modify rfl rfl rfl rfl rfl found before passing) fun _ => .refl _
  | took stage found here taken passing =>
    have before := congrArg Stage.waits here
    exact waiting_none (undisturbed_modify rfl rfl rfl rfl rfl found before passing) rfl
      (Interface.sameWaits_pop? taken)
  | registered found here empty made => exact .registered found here empty made
  | woke found here taken => exact .woke found here taken
  | withdrew found here => exact .withdrew found here
  | polled found here taken => exact .polled found here taken
  | lowered found here socket attached =>
    have before := congrArg Stage.waits here
    exact .disarmed (undisturbed_modify rfl rfl rfl rfl rfl found before rfl)
      (.inl (.call found here socket attached rfl)) rfl (.refl _)
  | unattached stage found here _ _ ended =>
    have before := congrArg Stage.waits here
    exact .none (undisturbed_modify rfl rfl rfl rfl rfl found before (waits_of_isEnded ended))
      fun _ => .refl _
  | replied found here =>
    have before := congrArg Stage.waits here
    have running := congrArg Stage.isEnded here
    have held := isHeld_iff.2 (.inr (.inr ⟨_, List.mem_of_getElem? found, running, rfl, rfl⟩))
    exact .pushed (undisturbed_modify rfl rfl rfl rfl rfl found before rfl) held rfl
  | itemTaken next => exact .itemTaken next
  | itemFired found => exact .itemFired found
  | _ => exact .none (undisturbed_same rfl rfl rfl rfl rfl) fun _ => .refl _

end View

end NetlinkSocket
