import NetlinkSocket.Family
import NetlinkSocket.Interface

/-!
Several interfaces side by side, the signals their waiters look at, and the journal. A name
without an interface stands for one that has room for nothing.
-/

namespace NetlinkSocket

/-- What a handle refers to: a connection of its interface by its place there, or something that
is no netlink connection. -/
inductive Attachment
  | netlink (connection : Nat)
  | foreign
  deriving DecidableEq, Repr

structure World where
  nets : Table String Interface
  signals : Signals
  journal : Journal

namespace World

def empty : World := ⟨.empty, .empty, .empty⟩

instance : Inhabited World := ⟨empty⟩

def net (w : World) (name : String) : Interface :=
  (w.nets.get? name).getD default

def setNet (w : World) (name : String) (i : Interface) : World :=
  { w with nets := w.nets.insert name i }

@[simp] theorem net_setNet_self (w : World) (name : String) (i : Interface) :
    (w.setNet name i).net name = i := by
  simp [net, setNet]

theorem net_setNet_of_ne (w : World) {name other : String} (h : other ≠ name) (i : Interface) :
    (w.setNet name i).net other = w.net other := by
  simp [net, setNet, Table.get?_insert_of_ne _ h]

def log (w : World) (lines : List LogLine) : World :=
  { w with journal := w.journal.log lines }

def record (w : World) (calls : List CallRecord) : World :=
  { w with journal := w.journal.record calls }

@[simp] theorem net_log (w : World) (lines : List LogLine) (name : String) :
    (w.log lines).net name = w.net name := rfl

@[simp] theorem signals_setNet (w : World) (name : String) (i : Interface) :
    (w.setNet name i).signals = w.signals := rfl

@[simp] theorem signals_log (w : World) (lines : List LogLine) :
    (w.log lines).signals = w.signals := rfl

def newSemaphore (w : World) : Nat × World :=
  let (n, signals) := w.signals.newSemaphore
  (n, { w with signals })

def newSlot (w : World) : Nat × World :=
  let (n, signals) := w.signals.newSlot
  (n, { w with signals })

def dropSemaphore (w : World) (n : Nat) : World :=
  { w with signals := w.signals.dropSemaphore n }

def dropDescriptor (w : World) (fd : PollDescriptor) : World :=
  { w with signals := (w.signals.dropSemaphore fd.semaphore).dropSlot fd.slot }

@[simp] theorem net_newSemaphore (w : World) : w.newSemaphore.2.net = w.net := rfl

@[simp] theorem dropSemaphore_newSemaphore (w : World) (name : String) (i : Interface) :
    (w.newSemaphore.2.setNet name i).dropSemaphore w.newSemaphore.1 = w.setNet name i := by
  have dropped := w.signals.dropSemaphore_newSemaphore
  simp only [dropSemaphore, newSemaphore, setNet] at dropped ⊢
  rw [dropped]

end World

end NetlinkSocket
