import NetlinkSocket.Events

/-!
What waiters look at: counting semaphores and event slots. Both are known by the number under
which they were made, so that a registration can outlive the descriptor it was made with.
-/

namespace NetlinkSocket

structure Semaphore where
  permits : Nat
  deriving DecidableEq, Repr, Inhabited

namespace Semaphore

def post (s : Semaphore) : Semaphore := ⟨s.permits + 1⟩

def take? (s : Semaphore) : Option Semaphore :=
  match s.permits with
  | 0 => none
  | n + 1 => some ⟨n⟩

end Semaphore

structure Signals where
  semaphores : List Semaphore
  slots : List Events

namespace Signals

def empty : Signals := ⟨[], []⟩

instance : Inhabited Signals := ⟨empty⟩

def newSemaphore (s : Signals) : Nat × Signals :=
  (s.semaphores.length, { s with semaphores := s.semaphores ++ [⟨0⟩] })

def newSlot (s : Signals) : Nat × Signals :=
  (s.slots.length, { s with slots := s.slots ++ [Flags.empty] })

/-- A semaphore that goes with the call that made it. The others keep their numbers, if it is the
last that was made. -/
def dropSemaphore (s : Signals) (n : Nat) : Signals :=
  { s with semaphores := s.semaphores.eraseIdx n }

def dropSlot (s : Signals) (n : Nat) : Signals :=
  { s with slots := s.slots.eraseIdx n }

theorem dropSemaphore_newSemaphore (s : Signals) :
    s.newSemaphore.2.dropSemaphore s.newSemaphore.1 = s := by
  simp [newSemaphore, dropSemaphore, List.eraseIdx_append_of_length_le]

theorem dropSlot_newSlot (s : Signals) : s.newSlot.2.dropSlot s.newSlot.1 = s := by
  simp [newSlot, dropSlot, List.eraseIdx_append_of_length_le]

theorem dropSlot_dropSemaphore_new (s : Signals) :
    (s.newSlot.2.newSemaphore.2.dropSemaphore s.newSemaphore.1).dropSlot s.newSlot.1 = s := by
  have slot := s.dropSlot_newSlot
  have semaphore := s.newSlot.2.dropSemaphore_newSemaphore
  rw [show s.newSemaphore.1 = s.newSlot.2.newSemaphore.1 from rfl, semaphore, slot]

def permits (s : Signals) (n : Nat) : Nat :=
  (s.semaphores[n]?.map Semaphore.permits).getD 0

def events (s : Signals) (n : Nat) : Events :=
  s.slots[n]?.getD Flags.empty

def post (s : Signals) (n : Nat) : Signals :=
  { s with semaphores := s.semaphores.modify n Semaphore.post }

theorem permits_post_self {s : Signals} {n : Nat} (h : n < s.semaphores.length) :
    (s.post n).permits n = s.permits n + 1 := by
  simp [permits, post, Semaphore.post, h]

theorem permits_post_of_ne (s : Signals) {n m : Nat} (h : m ≠ n) :
    (s.post n).permits m = s.permits m := by
  simp [permits, post, h.symm]

def take? (s : Signals) (n : Nat) : Option Signals :=
  match s.semaphores[n]? with
  | none => none
  | some semaphore => semaphore.take?.map fun left =>
    { s with semaphores := s.semaphores.set n left }

def setSlot (s : Signals) (n : Nat) (events : Events) : Signals :=
  { s with slots := s.slots.set n events }

def addToSlot (s : Signals) (n : Nat) (events : Events) : Signals :=
  { s with slots := s.slots.modify n (· ∪ events) }

end Signals

/-- A poll descriptor: the events asked for, the slot they are reported in, and the semaphore
that is posted when they are. -/
structure PollDescriptor where
  events : Events
  slot : Nat
  semaphore : Nat
  deriving DecidableEq

end NetlinkSocket
