import NetlinkSocket.Events

/-!
Sets of events by their members. Every event has a bit of its own, so a set is known by what it
has.
-/

namespace NetlinkSocket.Events

open FlagKind

variable {s t : Events}

def place : Event → Nat
  | .readable => 0
  | .urgent => 1
  | .writable => 2
  | .error => 3
  | .hangUp => 4
  | .invalid => 5
  | .readHangUp => 13

theorem mask_eq (e : Event) : mask e = BitVec.twoPow 32 (place e) := by
  cases e <;> rfl

theorem has_eq (s : Events) (e : Event) : s.has e = s.bits.getLsbD (place e) := by
  have one : BitVec.twoPow 32 (place e) ≠ 0 := by cases e <;> decide
  rw [Flags.has, mask_eq, BitVec.and_twoPow]
  cases s.bits.getLsbD (place e) with
  | false => simpa using Ne.symm one
  | true => simp

theorem has_inter (s t : Events) (e : Event) : (s ∩ t).has e = (s.has e && t.has e) := by
  simp [has_eq, Flags.bits_inter]

theorem has_union (s t : Events) (e : Event) : (s ∪ t).has e = (s.has e || t.has e) := by
  simp [has_eq, Flags.bits_union]

@[simp] theorem has_empty (e : Event) : (Flags.empty : Events).has e = false := by
  cases e <;> rfl

@[simp] theorem has_single (e f : Event) : (Flags.single e).has f = decide (f = e) := by
  cases e <;> cases f <;> rfl

theorem has_ready (queued : Bool) (e : Event) :
    (ready queued).has e = (decide (e = .writable) || (queued && decide (e = .readable))) := by
  cases queued <;> cases e <;> rfl

theorem exists_place : ∀ i < 32, (all Event).getLsbD i = true → ∃ e, place e = i := by
  intro i within set
  have mem : i ∈ (members : List Event).map place := by
    revert i
    decide
  obtain ⟨e, -, here⟩ := List.mem_map.1 mem
  exact ⟨e, here⟩

theorem ext_has (same : ∀ e, s.has e = t.has e) : s = t := by
  ext i within
  rw [← BitVec.getLsbD_eq_getElem, ← BitVec.getLsbD_eq_getElem, ← s.bits_and_all, ← t.bits_and_all,
    BitVec.getLsbD_and, BitVec.getLsbD_and]
  cases known : (all Event).getLsbD i with
  | false => rw [Bool.and_false, Bool.and_false]
  | true =>
    obtain ⟨e, rfl⟩ := exists_place i within known
    rw [← has_eq, ← has_eq, same]

theorem isEmpty_eq_true : s.isEmpty = true ↔ ∀ e, s.has e = false := by
  have none : s.isEmpty = true ↔ s = Flags.empty := by
    rw [Flags.isEmpty, beq_iff_eq]
    exact ⟨fun empty => Flags.ext empty, fun empty => congrArg Flags.bits empty⟩
  rw [none]
  constructor
  · rintro rfl e
    exact has_empty e
  · intro none
    exact ext_has fun e => by rw [none, has_empty]

theorem isEmpty_eq_false : s.isEmpty = false ↔ ∃ e, s.has e = true := by
  rw [← Bool.not_eq_true, isEmpty_eq_true]
  simp

end NetlinkSocket.Events
