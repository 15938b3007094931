import Mathlib.Data.List.Nodup
import NetlinkSocket.Table

/-!
The entries of a table. A table whose keys are distinct holds exactly what can be found in it, and
its entries can be counted.
-/

namespace NetlinkSocket.Table

variable {κ α : Type}

def Distinct (t : Table κ α) : Prop :=
  (t.entries.map Prod.fst).Nodup

theorem distinct_empty : (empty : Table κ α).Distinct := List.nodup_nil

variable [DecidableEq κ]

theorem mem_erase {t : Table κ α} {k : κ} {e : κ × α} :
    e ∈ (t.erase k).entries ↔ e ∈ t.entries ∧ e.1 ≠ k := by
  simp [erase]

theorem mem_insert {t : Table κ α} {k : κ} {a : α} {e : κ × α}
    (h : e ∈ (t.insert k a).entries) : e = (k, a) ∨ e ∈ t.entries := by
  have put (es : List (κ × α)) (h : e ∈ put k a es) : e = (k, a) ∨ e ∈ es := by
    induction es with
    | nil => exact .inl (List.mem_singleton.1 h)
    | cons d es ih =>
      unfold Table.put at h
      split at h
      · exact (List.mem_cons.1 h).imp_right (List.mem_cons_of_mem d)
      · rcases List.mem_cons.1 h with rfl | later
        · exact .inr List.mem_cons_self
        · exact (ih later).imp_right (List.mem_cons_of_mem d)
  exact put t.entries h

theorem mem_of_get? {t : Table κ α} {k : κ} {a : α} (h : t.get? k = some a) :
    (k, a) ∈ t.entries := by
  obtain ⟨e, found, rfl⟩ := Option.map_eq_some_iff.1 h
  have key : e.1 = k := by simpa using List.find?_some found
  exact key ▸ List.mem_of_find?_eq_some found

theorem ne_of_get?_eq_none {t : Table κ α} {k : κ} (h : t.get? k = none) {e : κ × α}
    (he : e ∈ t.entries) : e.1 ≠ k := by
  simp only [get?, Option.map_eq_none_iff, List.find?_eq_none, decide_eq_true_eq] at h
  exact h e he

theorem insert_of_get?_eq_none {t : Table κ α} {k : κ} (h : t.get? k = none) (a : α) :
    t.insert k a = ⟨t.entries ++ [(k, a)]⟩ := by
  have absent (es : List (κ × α)) (none : ∀ e ∈ es, e.1 ≠ k) : put k a es = es ++ [(k, a)] := by
    induction es with
    | nil => rfl
    | cons e es ih =>
      rw [put, if_neg (none e List.mem_cons_self), ih fun d hd => none d (List.mem_cons_of_mem e hd)]
      rfl
  exact congrArg Table.mk (absent t.entries fun _ => ne_of_get?_eq_none h)

theorem insert_of_get? {t : Table κ α} {k : κ} {b : α} (h : t.get? k = some b) (a : α) :
    ∃ xs ys, t.entries = xs ++ (k, b) :: ys ∧ (t.insert k a).entries = xs ++ (k, a) :: ys := by
  have found (es : List (κ × α)) (h : (es.find? fun e => e.1 = k).map Prod.snd = some b) :
      ∃ xs ys, es = xs ++ (k, b) :: ys ∧ put k a es = xs ++ (k, a) :: ys := by
    induction es with
    | nil => cases h
    | cons e es ih =>
      by_cases key : e.1 = k
      · obtain ⟨l, d⟩ := e
        obtain rfl : l = k := key
        obtain rfl : d = b := by simpa using h
        exact ⟨[], es, rfl, by simp [put]⟩
      · obtain ⟨xs, ys, split, replaced⟩ := ih (by simpa [List.find?_cons, key] using h)
        exact ⟨e :: xs, ys, by rw [split]; rfl, by rw [put, if_neg key, replaced]; rfl⟩
  exact found t.entries h

@[simp] theorem insert_insert (t : Table κ α) (k : κ) (a b : α) :
    (t.insert k a).insert k b = t.insert k b := by
  have again (es : List (κ × α)) : put k b (put k a es) = put k b es := by
    induction es with
    | nil => simp [put]
    | cons e es ih => by_cases own : e.1 = k <;> simp [put, own, ih]
  exact congrArg Table.mk (again t.entries)

theorem insert_self_of_get? {t : Table κ α} {k : κ} {a : α} (h : t.get? k = some a) :
    t.insert k a = t := by
  obtain ⟨xs, ys, split, replaced⟩ := insert_of_get? h a
  exact congrArg Table.mk (replaced.trans split.symm)

namespace Distinct

variable {t : Table κ α} (h : t.Distinct)
include h

theorem erase (k : κ) : (t.erase k).Distinct :=
  List.Nodup.sublist (List.Sublist.map _ List.filter_sublist) h

theorem insert (k : κ) (a : α) : (t.insert k a).Distinct := by
  unfold Distinct at h ⊢
  cases found : t.get? k with
  | none =>
    have absent : k ∉ t.entries.map Prod.fst := fun mem => by
      obtain ⟨e, he, key⟩ := List.mem_map.1 mem
      exact ne_of_get?_eq_none found he key
    rw [insert_of_get?_eq_none found, List.map_append]
    refine List.Nodup.append h (List.nodup_singleton k) fun l old new => absent ?_
    rwa [List.mem_singleton.1 new] at old
  | some b =>
    obtain ⟨xs, ys, split, replaced⟩ := insert_of_get? found a
    rw [replaced]
    rw [split] at h
    simpa using h

theorem perm_erase {k : κ} {a : α} (found : t.get? k = some a) :
    t.entries.Perm ((k, a) :: (t.erase k).entries) := by
  obtain ⟨xs, ys, split⟩ := List.append_of_mem (mem_of_get? found)
  have keys : k ∉ (xs ++ ys).map Prod.fst := by
    unfold Distinct at h
    rw [split, List.map_append, List.map_cons, List.nodup_middle] at h
    simpa using (List.nodup_cons.1 h).1
  have others : (xs ++ ys).filter (fun e => e.1 ≠ k) = xs ++ ys := by
    refine List.filter_eq_self.2 fun e he => ?_
    have other : e.1 ≠ k := fun key => keys (key ▸ List.mem_map_of_mem he)
    simpa using other
  have rest : (t.erase k).entries = xs ++ ys := by
    rw [← others]
    simp [Table.erase, split]
  rw [rest, split]
  exact List.perm_middle

theorem countP_erase {k : κ} {a : α} (found : t.get? k = some a) (p : κ × α → Bool) :
    t.entries.countP p = (t.erase k).entries.countP p + if p (k, a) then 1 else 0 := by
  rw [(h.perm_erase found).countP_eq, List.countP_cons]

end Distinct

theorem countP_insert {t : Table κ α} {k : κ} (h : t.get? k = none) (a : α)
    (p : κ × α → Bool) :
    (t.insert k a).entries.countP p = t.entries.countP p + if p (k, a) then 1 else 0 := by
  rw [insert_of_get?_eq_none h, List.countP_append, List.countP_singleton]

theorem countP_replace {t : Table κ α} {k : κ} {a b : α} (h : t.get? k = some b)
    {p : κ × α → Bool} (alike : p (k, a) = p (k, b)) :
    (t.insert k a).entries.countP p = t.entries.countP p := by
  obtain ⟨xs, ys, split, replaced⟩ := insert_of_get? h a
  rw [replaced, split, List.countP_append, List.countP_append, List.countP_cons,
    List.countP_cons, alike]

end NetlinkSocket.Table
