import NetlinkSocket.Bytes

/-!
Words as numbers, and data laid over a buffer. A word is written with its lowest byte first, and
bytes of a given length stand for one number each.
-/

namespace NetlinkSocket.Bytes

def value (b : Bytes) : Nat :=
  b.foldr (fun byte n => byte.toNat + 256 * n) 0

def field (b : Bytes) (start width : Nat) : Nat :=
  value ((b.drop start).take width)

@[simp] theorem value_nil : value [] = 0 := rfl

@[simp] theorem value_cons (byte : UInt8) (b : Bytes) :
    value (byte :: b) = byte.toNat + 256 * value b := rfl

theorem value_ofWord16 (w : UInt16) : value (ofWord16 w) = w.toNat := by
  have bound := w.toNat_lt
  simp only [ofWord16, value_cons, value_nil, UInt8.toNat_ofNat']
  omega

theorem value_ofWord32 (w : UInt32) : value (ofWord32 w) = w.toNat := by
  have bound := w.toNat_lt
  simp only [ofWord32, value_cons, value_nil, UInt8.toNat_ofNat']
  omega

theorem exists_takeWord16 {b : Bytes} (room : 2 ≤ b.length) :
    ∃ w rest, takeWord16 b = some (w, rest) ∧ b.length = 2 + rest.length := by
  cases taken : takeWord16 b with
  | none => exact absurd (takeWord16_eq_none.1 taken) (Nat.not_lt_of_le room)
  | some r =>
    have split := congrArg List.length (eq_of_takeWord16 taken)
    rw [List.length_append, length_ofWord16] at split
    exact ⟨r.1, r.2, rfl, split⟩

theorem exists_takeWord32 {b : Bytes} (room : 4 ≤ b.length) :
    ∃ w rest, takeWord32 b = some (w, rest) ∧ b.length = 4 + rest.length := by
  cases taken : takeWord32 b with
  | none => exact absurd (takeWord32_eq_none.1 taken) (Nat.not_lt_of_le room)
  | some r =>
    have split := congrArg List.length (eq_of_takeWord32 taken)
    rw [List.length_append, length_ofWord32] at split
    exact ⟨r.1, r.2, rfl, split⟩

theorem exists_ofWord32 {b : Bytes} (length : b.length = 4) : ∃ w, b = ofWord32 w := by
  obtain ⟨w, rest, taken, long⟩ := exists_takeWord32 (Nat.le_of_eq length.symm)
  have none_left : rest = [] := List.length_eq_zero_iff.1 (by omega)
  refine ⟨w, ?_⟩
  rw [eq_of_takeWord32 taken, none_left, List.append_nil]

/-- The number with a sign in four bytes of a message: the upper half of the words is negative. -/
def signedField (b : Bytes) (start : Nat) : Int :=
  (b.field start 4 : Int).bmod UInt32.size

theorem bmod_toNat (w : UInt32) : (w.toNat : Int).bmod UInt32.size = w.toInt32.toInt :=
  (BitVec.toInt_eq_toNat_bmod w.toBitVec).symm

theorem eq_of_toInt {v w : UInt32} (same : v.toInt32.toInt = w.toInt32.toInt) : v = w :=
  UInt32.toBitVec_inj.1 (BitVec.eq_of_toInt_eq same)

theorem ofWord32_inj {v w : UInt32} : ofWord32 v = ofWord32 w ↔ v = w := by
  constructor
  · intro same
    have values := congrArg value same
    rw [value_ofWord32, value_ofWord32] at values
    exact UInt32.toNat_inj.1 values
  · intro same
    rw [same]

theorem signedField_eq_iff {b : Bytes} {start : Nat} (room : start + 4 ≤ b.length) (w : UInt32) :
    b.signedField start = w.toInt32.toInt ↔ (b.drop start).take 4 = ofWord32 w := by
  have four : ((b.drop start).take 4).length = 4 := by
    rw [List.length_take, List.length_drop]
    omega
  obtain ⟨v, word⟩ := exists_ofWord32 four
  have signed : b.signedField start = v.toInt32.toInt := by
    unfold signedField field
    rw [word, value_ofWord32]
    exact bmod_toNat v
  rw [signed, word, ofWord32_inj]
  exact ⟨eq_of_toInt, fun same => same ▸ rfl⟩

/-- As much of the data as fits is laid over the front of a buffer, and the rest is as it was. -/
structure Covers (data buffer later : Bytes) : Prop where
  length : later.length = buffer.length
  front : later.take (min buffer.length data.length) = data.take (min buffer.length data.length)
  rest : later.drop (min buffer.length data.length) = buffer.drop (min buffer.length data.length)

theorem covers_overwrite (data buffer : Bytes) : data.Covers buffer (overwrite buffer data) := by
  have front : (data.take buffer.length).length = min buffer.length data.length :=
    List.length_take
  constructor
  · exact length_overwrite buffer data
  · rw [overwrite, List.take_left' front, ← List.take_eq_take_min]
  · rw [overwrite, List.drop_left' front]
    rcases Nat.le_total buffer.length data.length with small | large
    · rw [Nat.min_eq_left small, List.drop_length, List.drop_eq_nil_of_le small]
    · rw [Nat.min_eq_right large]

theorem overwrite_of_le {data buffer : Bytes} (room : data.length ≤ buffer.length) :
    overwrite buffer data = data ++ buffer.drop data.length := by
  rw [overwrite, List.take_of_length_le room]

end NetlinkSocket.Bytes
