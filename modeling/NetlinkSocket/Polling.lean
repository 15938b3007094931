import NetlinkSocket.World

/-!
A poll call: it sets a poll up on a descriptor of its own, waits to be posted, takes the poll
down again and returns what was reported.
-/

namespace NetlinkSocket

inductive Polling
  | finished (outcome : Outcome Events)
  | waiting (fd : PollDescriptor)

namespace Handle

variable {κ : Type}

def awaitPoll (family : Family World κ) (h : Handle κ) (fd : PollDescriptor) (w : World) :
    Polling × World :=
  match w.signals.take? fd.semaphore with
  | none => (.waiting fd, w)
  | some signals =>
    match family.disarm h fd { w with signals } with
    | (.error stop, w) => (.finished (.error stop), w)
    | (.ok (), w) => (.finished (.ok (w.signals.events fd.slot)), w)

/-- A poll call up to its end or its wait. If the setup fails, the descriptor goes with the call. -/
def poll (family : Family World κ) (h : Handle κ) (events : Events) (w : World) :
    Polling × World :=
  let (slot, w) := w.newSlot
  let (semaphore, w) := w.newSemaphore
  let fd : PollDescriptor := ⟨events, slot, semaphore⟩
  match family.arm h fd w with
  | (.error stop, w) => (.finished (.error stop), w.dropDescriptor fd)
  | (.ok (), w) => awaitPoll family h fd w

end Handle

end NetlinkSocket
