import Mathlib.Data.List.Nodup
import Mathlib.Data.List.Perm.Lattice
import NetlinkSocket.Proofs.Effects

/-!
The books of an interface. As long as identities do not wrap around, the live identities of the
pool are those of the connections that have references.
-/

namespace NetlinkSocket.Interface

variable {i later : Interface} {c : Nat}

/-- The number of connections that can be opened before identities wrap around. -/
def identities : Nat := UInt32.size - 1

structure Books (i : Interface) : Prop where
  nodup : i.pool.live.Nodup
  live : ∀ id, id ∈ i.pool.live ↔ ∃ c, (i.connection c).id = id ∧ 0 < (i.connection c).references
  capacity : i.pool.live.length ≤ i.pool.capacity
  numbered : ∀ c, c < i.connections.length → (i.connection c).id.value.toNat = c + 1
  next : i.pool.next.value.toNat = i.connections.length + 1
  bounded : ∀ c, (i.connection c).references ≤ Connection.maxReferences

structure SameBooks (i later : Interface) : Prop where
  pool : later.pool = i.pool
  length : later.connections.length = i.connections.length
  id : ∀ d, (later.connection d).id = (i.connection d).id
  references : ∀ d, (later.connection d).references = (i.connection d).references

theorem SameBooks.refl (i : Interface) : SameBooks i i := ⟨rfl, rfl, fun _ => rfl, fun _ => rfl⟩

theorem sameBooks_update (f : Connection → Connection)
    (h : ∀ k, (f k).id = k.id ∧ (f k).references = k.references) :
    SameBooks i (i.update c f) := by
  refine ⟨rfl, length_update f, fun d => ?_, fun d => ?_⟩
  all_goals
    by_cases within : c < i.connections.length
    · rw [connection_update f within]
      split <;> simp [*]
    · simp [connection, update, Nat.le_of_not_lt within, List.modify_eq_self]

theorem sameBooks_disarm : SameBooks i (i.disarm c) := by
  refine ⟨pool_disarm, length_disarm, fun d => ?_, fun d => ?_⟩
  all_goals
    rw [connection_disarm]
    split <;> simp [*]

theorem sameBooks_push (message : Bytes) : SameBooks i (i.push c message) :=
  have queued := sameBooks_update (i := i) (c := c)
    (fun k => { k with responses := k.responses ++ [message] }) fun _ => ⟨rfl, rfl⟩
  ⟨queued.pool, queued.length, queued.id, queued.references⟩

theorem sameBooks_pop? {message : Bytes} (h : i.pop? c = (some message, later)) :
    SameBooks i later := by
  obtain ⟨rest, -, rfl⟩ := pop?_eq_some h
  exact sameBooks_update _ fun _ => ⟨rfl, rfl⟩

theorem sameBooks_arm {s signals : Signals} {fd : PollDescriptor}
    (h : i.arm s c fd = (.ok (), later, signals)) : SameBooks i later := by
  rcases arm_cases h with ⟨-, rfl, -⟩ | ⟨-, -, rfl, -⟩ | ⟨-, -, -, -, notifier, -, rfl⟩
  · exact .refl _
  · exact .refl _
  · have armed := sameBooks_update (i := i) (c := c)
      (fun k => { k with armed := some ⟨fd.slot, fd.semaphore, i.notifier.nextKey⟩ })
      fun _ => ⟨rfl, rfl⟩
    exact ⟨armed.pool, armed.length, armed.id, armed.references⟩

theorem sameBooks_fire (s : Signals) (isHeld : Nat → Bool) (key : Nat) (w : Wakeup) :
    SameBooks i (i.fire s isHeld key w).2.1 := by
  rcases fire_cases i s isHeld key w with same | ⟨c, poll, -, -, -, told⟩
  · rw [same]
    exact .refl _
  · rw [told]
    exact sameBooks_update _ fun _ => ⟨rfl, rfl⟩

namespace Books

theorem of_same (b : i.Books) (same : SameBooks i later) : later.Books where
  nodup := same.pool ▸ b.nodup
  live id := by
    rw [same.pool, b.live]
    simp only [same.id, same.references]
  capacity := same.pool ▸ b.capacity
  numbered d h := by
    rw [same.id]
    exact b.numbered d (same.length ▸ h)
  next := by rw [same.pool, same.length, b.next]
  bounded d := by
    rw [same.references]
    exact b.bounded d

theorem id_injective (b : i.Books) {c d : Nat} (hc : c < i.connections.length)
    (hd : d < i.connections.length) (h : (i.connection c).id = (i.connection d).id) : c = d := by
  have left := b.numbered c hc
  have right := b.numbered d hd
  rw [h] at left
  omega

theorem live_iff (b : i.Books) (h : c < i.connections.length) :
    (i.connection c).id ∈ i.pool.live ↔ 0 < (i.connection c).references := by
  rw [b.live]
  constructor
  · rintro ⟨d, same, counted⟩
    rwa [← b.id_injective (lt_of_references counted) h same]
  · exact fun counted => ⟨c, rfl, counted⟩

theorem next_not_live (b : i.Books) : i.pool.next ∉ i.pool.live := by
  rw [b.live]
  rintro ⟨d, same, counted⟩
  have within := lt_of_references counted
  have number := b.numbered d within
  rw [same, b.next] at number
  omega

theorem allocate?_eq_some (b : i.Books) {id : ConnectionId} {pool : Pool}
    (h : i.pool.allocate? = (some id, pool)) :
    id = i.pool.next ∧ i.pool.live.length < i.pool.capacity ∧
      pool = { i.pool with live := id :: i.pool.live, next := Pool.after id } := by
  unfold Pool.allocate? at h
  split at h
  · cases h
  · rename_i room
    rw [Pool.firstFree_of_not_mem b.next_not_live] at h
    cases h
    exact ⟨rfl, Nat.lt_of_not_le room, rfl⟩

theorem opened (b : i.Books) {p : Protocol} (h : i.open? p = (some c, later))
    (few : later.connections.length < identities) : later.Books := by
  obtain ⟨id, pool, allocated, rfl, made⟩ := open?_eq_some h
  obtain ⟨rfl, room, rfl⟩ := b.allocate?_eq_some allocated
  have number := b.next
  have connections : later.connections = i.connections ++ [.fresh i.pool.next p] := by rw [made]
  have length : later.connections.length = i.connections.length + 1 := by simp [connections]
  have live : later.pool.live = i.pool.next :: i.pool.live := by rw [made]
  simp only [length, identities, UInt32.size] at few
  have after : later.pool.next.value.toNat = i.pool.next.value.toNat + 1 := by
    have sum : (i.pool.next.value + 1).toNat = i.pool.next.value.toNat + 1 := by
      rw [UInt32.toNat_add]
      exact Nat.mod_eq_of_lt (by simp; omega)
    have wraps : i.pool.next.value + 1 ≠ 0 := by
      intro zero
      rw [zero] at sum
      simp at sum
    rw [made]
    simp only [Pool.after, wraps, if_false, sum]
  refine ⟨?_, fun id => ?_, ?_, fun d within => ?_, ?_, fun d => ?_⟩
  · rw [live]
    exact List.nodup_cons.2 ⟨b.next_not_live, b.nodup⟩
  · rw [live, List.mem_cons, b.live]
    simp only [connection_append connections]
    constructor
    · rintro (rfl | ⟨d, same, counted⟩)
      · exact ⟨i.connections.length, by simp [Connection.fresh]⟩
      · have within := lt_of_references counted
        exact ⟨d, by simp [Nat.ne_of_lt within, same, counted]⟩
    · rintro ⟨d, same, counted⟩
      by_cases new : d = i.connections.length
      · simp only [new, if_true, Connection.fresh] at same
        exact .inl same.symm
      · simp only [new, if_false] at same counted
        exact .inr ⟨d, same, counted⟩
  · rw [live, made]
    exact room
  · rw [connection_append connections]
    split
    · rename_i new
      rw [new]
      exact number
    · exact b.numbered d (by omega)
  · rw [after, number, length]
  · rw [connection_append connections]
    split
    · exact (by decide : 1 ≤ Connection.maxReferences)
    · exact b.bounded d

theorem shared (b : i.Books) (h : i.addReference c = (.ok (), later)) : later.Books := by
  obtain ⟨owned, room, rfl⟩ := addReference_eq_ok h
  have within := lt_of_references owned
  refine ⟨b.nodup, fun id => ?_, b.capacity, fun d hd => ?_, by simpa using b.next, fun d => ?_⟩
  · rw [pool_update, b.live]
    refine exists_congr fun d => ?_
    rw [connection_update _ within]
    split
    · rename_i same
      subst same
      simp [owned]
    · rfl
  · rw [connection_update _ within]
    have numbered := b.numbered d (by simpa using hd)
    split <;> simp_all
  · rw [connection_update _ within]
    split
    · exact room
    · exact b.bounded d

theorem closed (b : i.Books) {lines : List LogLine} (h : i.release c = .ok (lines, later)) :
    later.Books := by
  have owned := references_of_release h
  have within := lt_of_references owned
  have ids (d : Nat) : (later.connection d).id = (i.connection d).id := by
    rw [connection_release h]
    split
    · rename_i same
      rw [same, Connection.released]
      split <;> rfl
    · rfl
  have references (d : Nat) : (later.connection d).references =
      if d = c then (i.connection c).references - 1 else (i.connection d).references := by
    rw [connection_release h]
    split
    · rw [Connection.released]
      split <;> simp [*]
    · rfl
  refine ⟨?_, fun id => ?_, ?_, fun d hd => ?_, ?_, fun d => ?_⟩
  · rw [pool_release h]
    split
    · exact b.nodup.filter _
    · exact b.nodup
  · simp only [ids, references]
    rw [pool_release h]
    -- the identity goes with the last reference, and with no other
    by_cases last : (i.connection c).references = 1
    · simp only [last, if_true, Pool.free, List.mem_filter, b.live, decide_eq_true_eq]
      constructor
      · rintro ⟨⟨d, same, counted⟩, other⟩
        have ne : d ≠ c := by
          rintro rfl
          exact other same.symm
        exact ⟨d, same, by simpa [ne] using counted⟩
      · rintro ⟨d, same, counted⟩
        by_cases ne : d = c
        · simp [ne] at counted
        · simp only [ne, if_false] at counted
          refine ⟨⟨d, same, counted⟩, fun equal => ne ?_⟩
          exact b.id_injective (lt_of_references counted) within (same.trans equal)
    · simp only [last, if_false, b.live]
      refine exists_congr fun d => and_congr_right fun _ => ?_
      split
      · rename_i same
        rw [same]
        omega
      · rfl
  · rw [pool_release h]
    split
    · exact Nat.le_trans (List.length_filter_le _ _) b.capacity
    · exact b.capacity
  · rw [ids]
    exact b.numbered d (length_release h ▸ hd)
  · rw [length_release h, pool_release h]
    split <;> exact b.next
  · rw [references]
    split
    · exact Nat.le_trans (Nat.sub_le _ _) (b.bounded c)
    · exact b.bounded d

theorem count_live (b : i.Books) :
    i.pool.count = i.connections.countP fun k => 0 < k.references := by
  let owned := i.connections.filter fun k => 0 < k.references
  have distinct : (i.connections.map Connection.id).Nodup := by
    refine List.pairwise_iff_getElem.2 fun c d hc hd less same => ?_
    simp only [List.length_map, List.getElem_map] at hc hd same
    rw [← connection_eq_getElem hc, ← connection_eq_getElem hd] at same
    exact Nat.ne_of_lt less (b.id_injective hc hd same)
  have owned_distinct : (owned.map Connection.id).Nodup :=
    distinct.sublist (List.Sublist.map _ List.filter_sublist)
  have perm : i.pool.live.Perm (owned.map Connection.id) := by
    refine (List.perm_ext_iff_of_nodup b.nodup owned_distinct).2 fun id => ?_
    rw [b.live]
    simp only [owned, List.mem_map, List.mem_filter, decide_eq_true_eq]
    constructor
    · rintro ⟨c, same, counted⟩
      exact ⟨_, ⟨connection_mem (lt_of_references counted), counted⟩, same⟩
    · rintro ⟨k, ⟨mem, counted⟩, same⟩
      obtain ⟨c, within, rfl⟩ := List.getElem_of_mem mem
      rw [← connection_eq_getElem within] at counted same
      exact ⟨c, same, counted⟩
  rw [Pool.count, perm.length_eq, List.length_map, List.countP_eq_length_filter]

end Books

end NetlinkSocket.Interface
