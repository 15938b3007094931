import NetlinkSocket.Failure

/-!
Registrations that fire once. A registration names a connection and holds a worker; signalling
the connection takes all its registrations out, in the order in which they were made. Keys are
numbered from one and never used again.
-/

namespace NetlinkSocket

/-- Keys are numbers without a bound. They stand for numbers of 64 bits as long as fewer than
2 ^ 64 - 1 registrations are made. -/
structure Registration (ω : Type) where
  key : Nat
  subject : ConnectionId
  worker : ω

/-- The pending registrations stand in ascending order of their keys. -/
structure Notifier (ω : Type) where
  capacity : Nat
  nextKey : Nat
  pending : List (Registration ω)

namespace Notifier

variable {ω : Type}

def ofCapacity (capacity : Nat) : Notifier ω := ⟨capacity, 1, []⟩

instance : Inhabited (Notifier ω) := ⟨ofCapacity 0⟩

def register (n : Notifier ω) (subject : ConnectionId) (worker : ω) :
    Except Failure Nat × Notifier ω :=
  if n.capacity ≤ n.pending.length then (.error .slotsExhausted, n)
  else (.ok n.nextKey,
    { n with nextKey := n.nextKey + 1, pending := n.pending ++ [⟨n.nextKey, subject, worker⟩] })

def isPending (n : Notifier ω) (key : Nat) : Bool :=
  n.pending.any fun r => r.key == key

/-- Withdraws a registration; one that is not pending is left to its fate. -/
def withdraw (n : Notifier ω) (key : Nat) : Notifier ω :=
  { n with pending := n.pending.filter fun r => r.key != key }

def signal (n : Notifier ω) (subject : ConnectionId) : List (Registration ω) × Notifier ω :=
  (n.pending.filter fun r => r.subject = subject,
    { n with pending := n.pending.filter fun r => r.subject ≠ subject })

theorem register_eq_error {n later : Notifier ω} {subject : ConnectionId} {worker : ω}
    {f : Failure} :
    n.register subject worker = (.error f, later) ↔
      n.capacity ≤ n.pending.length ∧ f = .slotsExhausted ∧ later = n := by
  by_cases full : n.capacity ≤ n.pending.length
  · simp [register, full, eq_comm]
  · simp [register, full]

theorem mem_withdraw {n : Notifier ω} {key : Nat} {r : Registration ω} :
    r ∈ (n.withdraw key).pending ↔ r ∈ n.pending ∧ r.key ≠ key := by
  simp [withdraw]

theorem mem_fired {n : Notifier ω} {subject : ConnectionId} {r : Registration ω} :
    r ∈ (n.signal subject).1 ↔ r ∈ n.pending ∧ r.subject = subject := by
  simp [signal]

theorem mem_signal {n : Notifier ω} {subject : ConnectionId} {r : Registration ω} :
    r ∈ (n.signal subject).2.pending ↔ r ∈ n.pending ∧ r.subject ≠ subject := by
  simp [signal]

def count (n : Notifier ω) : Nat :=
  n.pending.length

def text (n : Notifier ω) : String :=
  "ResponseNotifier \x7b max_registrations: " ++ toString n.capacity ++
    ", num_registrations: " ++ toString n.count ++ ", .. \x7d"

end Notifier

end NetlinkSocket
