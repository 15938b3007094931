import NetlinkSocket.Connection.Id

/-!
The identities of live connections. Identities count up from one, skip zero when they wrap
around, and skip those in use.
-/

namespace NetlinkSocket

structure Pool where
  capacity : Nat
  live : List ConnectionId
  next : ConnectionId
  deriving DecidableEq, Repr

namespace Pool

def ofCapacity (capacity : Nat) : Pool := ⟨capacity, [], ⟨1⟩⟩

instance : Inhabited Pool := ⟨ofCapacity 0⟩

def after (id : ConnectionId) : ConnectionId :=
  if id.value + 1 = 0 then ⟨1⟩ else ⟨id.value + 1⟩

/-- The first identity from the given one on that is not in use. It has no more of them to skip
than there are. -/
def firstFree (live : List ConnectionId) (id : ConnectionId) : ConnectionId :=
  live.foldl (fun id _ => if id ∈ live then after id else id) id

def allocate? (p : Pool) : Option ConnectionId × Pool :=
  if p.capacity ≤ p.live.length then (none, p)
  else
    let id := firstFree p.live p.next
    (some id, { p with live := id :: p.live, next := after id })

def free (p : Pool) (id : ConnectionId) : Pool :=
  { p with live := p.live.filter (· ≠ id) }

def count (p : Pool) : Nat :=
  p.live.length

theorem firstFree_of_not_mem {live : List ConnectionId} {id : ConnectionId} (h : id ∉ live) :
    firstFree live id = id := by
  have skipped (xs : List ConnectionId) :
      xs.foldl (fun id _ => if id ∈ live then after id else id) id = id := by
    induction xs with
    | nil => rfl
    | cons _ xs ih => rw [List.foldl_cons, if_neg h, ih]
  exact skipped live

theorem not_mem_free (p : Pool) (id : ConnectionId) : id ∉ (p.free id).live := by
  simp [free]

end Pool

end NetlinkSocket
