/-!
Sets of flags in a word of 32 bits. A kind of flags lists its members with their masks; a set of
that kind holds no bit outside the masks.
-/

namespace NetlinkSocket

class FlagKind (κ : Type) where
  members : List κ
  mask : κ → BitVec 32
  label : κ → String

namespace FlagKind

def unionOf (words : List (BitVec 32)) : BitVec 32 :=
  words.foldr (· ||| ·) 0

theorem and_unionOf_of_mem {w : BitVec 32} {words : List (BitVec 32)} (h : w ∈ words) :
    w &&& unionOf words = w := by
  induction words with
  | nil => cases h
  | cons x xs ih =>
    simp only [unionOf, List.foldr_cons] at ih ⊢
    rcases List.mem_cons.mp h with rfl | h
    · ext i; simp; grind
    · have := ih h
      rw [← this]
      ext i; simp; grind

def all (κ : Type) [FlagKind κ] : BitVec 32 :=
  unionOf ((members : List κ).map mask)

theorem mask_and_all {κ : Type} [FlagKind κ] {f : κ} (h : f ∈ (members : List κ)) :
    mask f &&& all κ = mask f :=
  and_unionOf_of_mem (List.mem_map_of_mem h)

end FlagKind

open FlagKind

structure Flags (κ : Type) [FlagKind κ] where
  bits : BitVec 32
  bits_and_all : bits &&& all κ = bits
  deriving DecidableEq

namespace Flags

variable {κ : Type} [FlagKind κ]

@[ext] theorem ext {s t : Flags κ} (h : s.bits = t.bits) : s = t := by
  cases s; cases t; cases h; rfl

def truncate (word : BitVec 32) : Flags κ where
  bits := word &&& all κ
  bits_and_all := by rw [BitVec.and_assoc, BitVec.and_self]

def exact (κ : Type) [FlagKind κ] (word : BitVec 32) : Bool :=
  word &&& all κ == word

def empty : Flags κ where
  bits := 0
  bits_and_all := BitVec.zero_and

def full : Flags κ where
  bits := all κ
  bits_and_all := BitVec.and_self

def single (f : κ) : Flags κ :=
  truncate (mask f)

instance : Inhabited (Flags κ) := ⟨empty⟩

def union (s t : Flags κ) : Flags κ where
  bits := s.bits ||| t.bits
  bits_and_all := by
    have hs := s.bits_and_all
    have ht := t.bits_and_all
    rw [← hs, ← ht]
    ext i; simp; grind

def inter (s t : Flags κ) : Flags κ where
  bits := s.bits &&& t.bits
  bits_and_all := by rw [BitVec.and_assoc, t.bits_and_all]

def diff (s t : Flags κ) : Flags κ where
  bits := s.bits &&& ~~~t.bits
  bits_and_all := by
    have hs := s.bits_and_all
    rw [← hs]
    ext i; simp; grind

instance : Union (Flags κ) := ⟨union⟩

instance : Inter (Flags κ) := ⟨inter⟩

theorem bits_union (s t : Flags κ) : (s ∪ t).bits = s.bits ||| t.bits := rfl

theorem bits_inter (s t : Flags κ) : (s ∩ t).bits = s.bits &&& t.bits := rfl

def isEmpty (s : Flags κ) : Bool :=
  s.bits == 0

def has (s : Flags κ) (f : κ) : Bool :=
  s.bits &&& mask f == mask f

def assign (s : Flags κ) (f : κ) (present : Bool) : Flags κ :=
  if present then s.union (single f) else s.diff (single f)

def toList (s : Flags κ) : List κ :=
  members.filter s.has

def text (s : Flags κ) : String :=
  match s.toList with
  | [] => "(empty)"
  | fs => String.intercalate " | " (fs.map label)

end Flags

end NetlinkSocket
