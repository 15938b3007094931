import Mathlib.Data.List.Nodup
import Mathlib.Data.List.Perm.Subperm
import Mathlib.Logic.Function.Iterate
import NetlinkSocket.Proofs.Books

/-!
Identities that wrap around. As long as there are more identities than live ones the pool finds one
that is not in use, so connections that have references keep identities of their own.
-/

namespace NetlinkSocket

open Interface (identities)

namespace Pool

theorem after_ne_zero (id : ConnectionId) : (after id).value ≠ 0 := by
  unfold after
  split
  · decide
  · assumption

theorem toNat_after {id : ConnectionId} (nonzero : id.value ≠ 0) :
    (after id).value.toNat = id.value.toNat % identities + 1 := by
  have positive : id.value.toNat ≠ 0 := fun zero => nonzero (UInt32.toNat_inj.1 zero)
  have bound := id.value.toNat_lt
  have sum : (id.value + 1).toNat = (id.value.toNat + 1) % 2 ^ 32 := UInt32.toNat_add ..
  unfold after identities
  split
  · rename_i wraps
    rw [wraps] at sum
    have top : id.value.toNat = 4294967295 := by
      have sum : 0 = (id.value.toNat + 1) % 2 ^ 32 := sum
      omega
    rw [top]
    rfl
  · rename_i goes
    have below : id.value.toNat + 1 < 2 ^ 32 := by
      refine Nat.lt_of_le_of_ne bound fun top => goes (UInt32.toNat_inj.1 ?_)
      rw [sum, top]
      rfl
    simp only [sum, UInt32.size]
    omega

theorem iterate_ne_zero {id : ConnectionId} (nonzero : id.value ≠ 0) (k : Nat) :
    (after^[k] id).value ≠ 0 := by
  cases k with
  | zero => exact nonzero
  | succ k =>
    rw [Function.iterate_succ_apply']
    exact after_ne_zero _

theorem toNat_iterate {id : ConnectionId} (nonzero : id.value ≠ 0) (k : Nat) :
    (after^[k] id).value.toNat = (id.value.toNat - 1 + k) % identities + 1 := by
  have positive : id.value.toNat ≠ 0 := fun zero => nonzero (UInt32.toNat_inj.1 zero)
  have bound := id.value.toNat_lt
  induction k with
  | zero =>
    simp only [Function.iterate_zero, id_eq, identities, UInt32.size]
    omega
  | succ k ih =>
    rw [Function.iterate_succ_apply', toNat_after (iterate_ne_zero nonzero k), ih]
    simp only [identities, UInt32.size]
    omega

theorem iterate_injective {id : ConnectionId} (nonzero : id.value ≠ 0) {k l : Nat}
    (hk : k < identities) (hl : l < identities) (same : after^[k] id = after^[l] id) : k = l := by
  have left := toNat_iterate nonzero k
  rw [same, toNat_iterate nonzero l] at left
  simp only [identities, UInt32.size] at left hk hl
  omega

/-- The search goes through the cycle as long as it meets live identities. -/
theorem firstFree_eq (live : List ConnectionId) (id : ConnectionId) :
    ∃ k, firstFree live id = after^[k] id ∧ (∀ j, j < k → after^[j] id ∈ live) ∧
      (firstFree live id ∈ live → k = live.length) := by
  have search (xs : List ConnectionId) (id : ConnectionId) : ∃ k,
      xs.foldl (fun id _ => if id ∈ live then after id else id) id = after^[k] id ∧
        (∀ j, j < k → after^[j] id ∈ live) ∧
        (xs.foldl (fun id _ => if id ∈ live then after id else id) id ∈ live →
          k = xs.length) := by
    induction xs generalizing id with
    | nil => exact ⟨0, rfl, nofun, fun _ => rfl⟩
    | cons x xs ih =>
      rw [List.foldl_cons]
      by_cases used : id ∈ live
      · obtain ⟨k, found, before, all⟩ := ih (after id)
        rw [if_pos used]
        refine ⟨k + 1, found, fun j less => ?_, fun still => by rw [all still]; rfl⟩
        cases j with
        | zero => exact used
        | succ j => exact before j (Nat.lt_of_succ_lt_succ less)
      -- the rest of the search leaves an identity that is free
      · have stays : xs.foldl (fun id _ => if id ∈ live then after id else id) id = id := by
          clear ih
          induction xs with
          | nil => rfl
          | cons _ xs ih => rw [List.foldl_cons, if_neg used, ih]
        rw [if_neg used, stays]
        exact ⟨0, rfl, nofun, fun mem => absurd mem used⟩
  exact search live id

theorem firstFree_not_mem {live : List ConnectionId} {id : ConnectionId} (nonzero : id.value ≠ 0)
    (room : live.length < identities) : firstFree live id ∉ live := by
  obtain ⟨k, found, before, all⟩ := firstFree_eq live id
  intro mem
  have whole := all mem
  have passed : ∀ other ∈ (List.range (k + 1)).map fun j => after^[j] id, other ∈ live := by
    intro other listed
    obtain ⟨j, less, rfl⟩ := List.mem_map.1 listed
    rcases Nat.lt_succ_iff_lt_or_eq.1 (List.mem_range.1 less) with earlier | rfl
    · exact before j earlier
    · exact found ▸ mem
  have distinct : ((List.range (k + 1)).map fun j => after^[j] id).Nodup := by
    refine List.Nodup.map_on (fun i hi j hj same => ?_) List.nodup_range
    have hi := List.mem_range.1 hi
    have hj := List.mem_range.1 hj
    exact iterate_injective nonzero (by omega) (by omega) same
  have fits := (List.subperm_of_subset distinct passed).length_le
  simp only [List.length_map, List.length_range] at fits
  omega

end Pool

namespace Interface

variable {i later : Interface} {c : Nat}

structure Living (i : Interface) : Prop where
  next : i.pool.next.value ≠ 0
  live : ∀ c, 0 < (i.connection c).references → (i.connection c).id ∈ i.pool.live
  distinct : ∀ c d, 0 < (i.connection c).references → 0 < (i.connection d).references →
    (i.connection c).id = (i.connection d).id → c = d

namespace Living

theorem of_same (l : i.Living) (same : SameBooks i later) : later.Living where
  next := same.pool ▸ l.next
  live d counted := by
    rw [same.references] at counted
    rw [same.id, same.pool]
    exact l.live d counted
  distinct d e hd he equal := by
    rw [same.references] at hd he
    rw [same.id, same.id] at equal
    exact l.distinct d e hd he equal

theorem opened (l : i.Living) {p : Protocol} (h : i.open? p = (some c, later))
    (room : i.pool.live.length < identities) : later.Living := by
  obtain ⟨id, pool, allocated, rfl, made⟩ := open?_eq_some h
  have appended : later.connections = i.connections ++ [.fresh id p] := by rw [made]
  have connection (d : Nat) := connection_append appended d
  have fresh : id ∉ i.pool.live ∧ later.pool.live = id :: i.pool.live ∧
      later.pool.next = Pool.after id := by
    unfold Pool.allocate? at allocated
    split at allocated
    · cases allocated
    · cases allocated
      rw [made]
      exact ⟨Pool.firstFree_not_mem l.next room, rfl, rfl⟩
  obtain ⟨unused, live, next⟩ := fresh
  have cases_of {d : Nat} (counted : 0 < (later.connection d).references) :
      d = i.connections.length ∧ (later.connection d).id = id ∨
        0 < (i.connection d).references ∧ (later.connection d).id = (i.connection d).id := by
    rw [connection] at counted ⊢
    split at counted
    · rename_i new
      exact .inl ⟨new, by simp [new, Connection.fresh]⟩
    · rename_i old
      exact .inr ⟨counted, by simp [old]⟩
  constructor
  · rw [next]
    exact Pool.after_ne_zero id
  · intro d counted
    rw [live]
    rcases cases_of counted with ⟨-, same⟩ | ⟨before, same⟩
    · exact same ▸ List.mem_cons_self
    · exact same ▸ List.mem_cons_of_mem _ (l.live d before)
  · intro d e hd he equal
    rcases cases_of hd with ⟨one, same⟩ | ⟨before, same⟩ <;>
      rcases cases_of he with ⟨two, same'⟩ | ⟨before', same'⟩
    · exact one.trans two.symm
    · exact absurd (l.live e before') (by rwa [← same', ← equal, same])
    · exact absurd (l.live d before) (by rwa [← same, equal, same'])
    · exact l.distinct d e before before' (by rw [← same, equal, same'])

theorem shared (l : i.Living) (h : i.addReference c = (.ok (), later)) : later.Living := by
  obtain ⟨owned, -, rfl⟩ := addReference_eq_ok h
  have within := lt_of_references owned
  have before {d : Nat} (counted : 0 < ((i.update c fun k =>
      { k with references := (i.connection c).references + 1 }).connection d).references) :
      0 < (i.connection d).references := by
    rw [connection_update _ within] at counted
    split at counted
    · rename_i same
      exact same ▸ owned
    · exact counted
  have id (d : Nat) : ((i.update c fun k =>
      { k with references := (i.connection c).references + 1 }).connection d).id =
      (i.connection d).id := by
    rw [connection_update _ within]
    split <;> simp [*]
  refine ⟨l.next, fun d counted => ?_, fun d e hd he equal => ?_⟩
  · rw [id]
    exact l.live d (before counted)
  · rw [id, id] at equal
    exact l.distinct d e (before hd) (before he) equal

theorem closed (l : i.Living) {lines : List LogLine} (h : i.release c = .ok (lines, later)) :
    later.Living := by
  have owned := references_of_release h
  have id (d : Nat) : (later.connection d).id = (i.connection d).id := by
    rw [connection_release h]
    split
    · rename_i same
      rw [same, Connection.released]
      split <;> rfl
    · rfl
  have before {d : Nat} (counted : 0 < (later.connection d).references) :
      0 < (i.connection d).references ∧ (d = c → (i.connection c).references ≠ 1) := by
    rw [connection_release h] at counted
    split at counted
    · rename_i same
      subst same
      refine ⟨owned, fun _ last => ?_⟩
      simp [Connection.released, last] at counted
    · rename_i other
      exact ⟨counted, fun same => absurd same other⟩
  refine ⟨?_, fun d counted => ?_, fun d e hd he equal => ?_⟩
  · rw [pool_release h]
    split <;> exact l.next
  · obtain ⟨counted, kept⟩ := before counted
    rw [id, pool_release h]
    split
    · rename_i last
      refine List.mem_filter.2 ⟨l.live d counted, decide_eq_true fun equal => ?_⟩
      exact kept (l.distinct d c counted owned equal) last
    · exact l.live d counted
  · rw [id, id] at equal
    exact l.distinct d e (before hd).1 (before he).1 equal

end Living

end Interface

end NetlinkSocket
