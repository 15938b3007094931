/-!
Byte strings, words in little-endian order, and writing into a buffer of fixed size. Reading a
word undoes writing it, and nothing else reads as that word.
-/

namespace NetlinkSocket

abbrev Bytes := List UInt8

namespace Bytes

def ofWord16 (w : UInt16) : Bytes :=
  [UInt8.ofNat w.toNat, UInt8.ofNat (w.toNat / 256)]

def ofWord32 (w : UInt32) : Bytes :=
  [UInt8.ofNat w.toNat, UInt8.ofNat (w.toNat / 256), UInt8.ofNat (w.toNat / 65536),
    UInt8.ofNat (w.toNat / 16777216)]

theorem length_ofWord16 (w : UInt16) : (ofWord16 w).length = 2 := rfl

theorem length_ofWord32 (w : UInt32) : (ofWord32 w).length = 4 := rfl

def takeWord16 : Bytes → Option (UInt16 × Bytes)
  | a :: b :: rest => some (UInt16.ofNat (a.toNat + 256 * b.toNat), rest)
  | _ => none

def takeWord32 : Bytes → Option (UInt32 × Bytes)
  | a :: b :: c :: d :: rest =>
    some (UInt32.ofNat (a.toNat + 256 * b.toNat + 65536 * c.toNat + 16777216 * d.toNat), rest)
  | _ => none

@[simp] theorem takeWord16_ofWord16 (w : UInt16) (rest : Bytes) :
    takeWord16 (ofWord16 w ++ rest) = some (w, rest) := by
  have hw := w.toNat_lt
  simp only [takeWord16, ofWord16, List.cons_append, List.nil_append, UInt8.toNat_ofNat']
  congr 2
  apply UInt16.toNat_inj.mp
  rw [UInt16.toNat_ofNat']
  omega

@[simp] theorem takeWord32_ofWord32 (w : UInt32) (rest : Bytes) :
    takeWord32 (ofWord32 w ++ rest) = some (w, rest) := by
  have hw := w.toNat_lt
  simp only [takeWord32, ofWord32, List.cons_append, List.nil_append, UInt8.toNat_ofNat']
  congr 2
  apply UInt32.toNat_inj.mp
  rw [UInt32.toNat_ofNat']
  omega

theorem eq_of_takeWord16 {b rest : Bytes} {w : UInt16} (h : takeWord16 b = some (w, rest)) :
    b = ofWord16 w ++ rest := by
  match b, h with
  | x :: y :: _, h =>
    simp only [takeWord16, Option.some.injEq, Prod.mk.injEq] at h
    obtain ⟨rfl, rfl⟩ := h
    have hx := x.toNat_lt
    have hy := y.toNat_lt
    simp only [ofWord16, List.cons_append, List.nil_append, List.cons.injEq, and_true]
    constructor <;> apply UInt8.toNat_inj.mp <;>
      simp only [UInt8.toNat_ofNat', UInt16.toNat_ofNat'] <;> omega

theorem eq_of_takeWord32 {b rest : Bytes} {w : UInt32} (h : takeWord32 b = some (w, rest)) :
    b = ofWord32 w ++ rest := by
  match b, h with
  | x :: y :: z :: t :: _, h =>
    simp only [takeWord32, Option.some.injEq, Prod.mk.injEq] at h
    obtain ⟨rfl, rfl⟩ := h
    have hx := x.toNat_lt
    have hy := y.toNat_lt
    have hz := z.toNat_lt
    have ht := t.toNat_lt
    simp only [ofWord32, List.cons_append, List.nil_append, List.cons.injEq, and_true]
    refine ⟨?_, ?_, ?_, ?_⟩ <;> apply UInt8.toNat_inj.mp <;>
      simp only [UInt8.toNat_ofNat', UInt32.toNat_ofNat'] <;> omega

theorem takeWord16_eq_none {b : Bytes} : takeWord16 b = none ↔ b.length < 2 := by
  match b with
  | [] | [_] | _ :: _ :: _ => simp [takeWord16]

theorem takeWord32_eq_none {b : Bytes} : takeWord32 b = none ↔ b.length < 4 := by
  match b with
  | [] | [_] | [_, _] | [_, _, _] | _ :: _ :: _ :: _ :: _ => simp [takeWord32]

/-- Writes as much of the data as fits over the front of a buffer. -/
def overwrite (buffer data : Bytes) : Bytes :=
  data.take buffer.length ++ buffer.drop data.length

@[simp] theorem length_overwrite (buffer data : Bytes) :
    (overwrite buffer data).length = buffer.length := by
  simp only [overwrite, List.length_append, List.length_take, List.length_drop]
  omega

end Bytes

end NetlinkSocket
