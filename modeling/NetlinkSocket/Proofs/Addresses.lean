import NetlinkSocket.Address
import NetlinkSocket.Proofs.Words

/-!
Addresses as bytes. Writing an address and reading it back are exact in both directions: every byte
of a written address is determined, and reading looks at all of them but the padding.
-/

namespace NetlinkSocket.Address

/-- The twelve bytes of an address, by the numbers in them. -/
structure LaidOut (a : Address) (b : Bytes) : Prop where
  length : b.length = 12
  family : b.field 0 2 = 16
  padding : b.field 2 2 = 0
  portId : b.field 4 4 = a.portId.toNat
  groups : b.field 8 4 = a.groups.toNat

def Refused (b : Bytes) (errno : Errno) : Prop :=
  ∃ failure, decode b = .error failure ∧ failure.errno = errno

/-! What is laid out before an address is looked at -/

def laid (layout : Layout) (padding : UInt16) : Bytes :=
  Bytes.ofWord16 layout.family ++ (Bytes.ofWord16 padding ++
    (Bytes.ofWord32 layout.address.portId ++ Bytes.ofWord32 layout.address.groups))

theorem length_laid (layout : Layout) (padding : UInt16) : (laid layout padding).length = 12 := rfl

theorem encode_eq_laid (a : Address) : a.encode = laid ⟨familyWord, a⟩ 0 := by
  simp only [encode, laid, List.append_assoc]

theorem readLayout_laid (layout : Layout) (padding : UInt16) (rest : Bytes) :
    readLayout (laid layout padding ++ rest) = some layout := by
  simp [readLayout, laid, List.append_assoc]

theorem eq_of_readLayout {b : Bytes} {layout : Layout} (read : readLayout b = some layout) :
    ∃ padding rest, b = laid layout padding ++ rest := by
  simp only [readLayout, Option.bind_eq_bind, Option.bind_eq_some_iff, Prod.exists,
    Option.pure_def, Option.some.injEq] at read
  obtain ⟨family, b₁, first, padding, b₂, second, portId, b₃, third, groups, rest, fourth, rfl⟩ :=
    read
  refine ⟨padding, rest, ?_⟩
  rw [Bytes.eq_of_takeWord16 first, Bytes.eq_of_takeWord16 second, Bytes.eq_of_takeWord32 third,
    Bytes.eq_of_takeWord32 fourth]
  simp only [laid, List.append_assoc]

theorem exists_readLayout {b : Bytes} (long : 12 ≤ b.length) :
    ∃ layout, readLayout b = some layout := by
  obtain ⟨family, b₁, first, rest₁⟩ := Bytes.exists_takeWord16 (b := b) (by omega)
  obtain ⟨padding, b₂, second, rest₂⟩ := Bytes.exists_takeWord16 (b := b₁) (by omega)
  obtain ⟨portId, b₃, third, rest₃⟩ := Bytes.exists_takeWord32 (b := b₂) (by omega)
  obtain ⟨groups, b₄, fourth, -⟩ := Bytes.exists_takeWord32 (b := b₃) (by omega)
  exact ⟨⟨family, portId, groups⟩, by simp [readLayout, first, second, third, fourth]⟩

theorem readLayout_eq_none {b : Bytes} : readLayout b = none ↔ b.length < 12 := by
  constructor
  · intro unread
    refine Nat.lt_of_not_le fun long => ?_
    obtain ⟨layout, read⟩ := exists_readLayout long
    rw [unread] at read
    cases read
  · intro short
    cases read : readLayout b with
    | none => rfl
    | some layout =>
      obtain ⟨padding, rest, rfl⟩ := eq_of_readLayout read
      rw [List.length_append, length_laid] at short
      omega

/-! The numbers in a layout -/

section

variable (layout : Layout) (padding : UInt16) (rest : Bytes)

theorem field_family : (laid layout padding ++ rest).field 0 2 = layout.family.toNat :=
  Bytes.value_ofWord16 layout.family

theorem field_padding : (laid layout padding ++ rest).field 2 2 = padding.toNat :=
  Bytes.value_ofWord16 padding

theorem field_portId : (laid layout padding ++ rest).field 4 4 = layout.address.portId.toNat :=
  Bytes.value_ofWord32 layout.address.portId

theorem field_groups : (laid layout padding ++ rest).field 8 4 = layout.address.groups.toNat :=
  Bytes.value_ofWord32 layout.address.groups

theorem decode_laid : decode (laid layout padding ++ rest) =
    if layout.family = familyWord then .ok layout.address else .error .addressOfOtherFamily := by
  rw [decode, readLayout_laid]

end

theorem laidOut_encode (a : Address) : a.LaidOut a.encode := by
  have fields := And.intro (field_portId ⟨familyWord, a⟩ 0 []) (field_groups ⟨familyWord, a⟩ 0 [])
  rw [List.append_nil, ← encode_eq_laid] at fields
  exact ⟨rfl, rfl, rfl, fields.1, fields.2⟩

theorem eq_encode_of_laidOut {a : Address} {b : Bytes} (laidOut : a.LaidOut b) : b = a.encode := by
  obtain ⟨layout, read⟩ := exists_readLayout (Nat.le_of_eq laidOut.length.symm)
  obtain ⟨padding, rest, rfl⟩ := eq_of_readLayout read
  have none_left : rest = [] := by
    have length := laidOut.length
    rw [List.length_append, length_laid] at length
    exact List.length_eq_zero_iff.1 (by omega)
  have family : layout.family = familyWord :=
    UInt16.toNat_inj.1 ((field_family layout padding rest).symm.trans laidOut.family)
  have zero : padding = 0 :=
    UInt16.toNat_inj.1 ((field_padding layout padding rest).symm.trans laidOut.padding)
  have portId : layout.address.portId = a.portId :=
    UInt32.toNat_inj.1 ((field_portId layout padding rest).symm.trans laidOut.portId)
  have groups : layout.address.groups = a.groups :=
    UInt32.toNat_inj.1 ((field_groups layout padding rest).symm.trans laidOut.groups)
  rw [none_left, List.append_nil, encode_eq_laid, laid, laid, family, zero, portId, groups]

theorem decode_cases (b : Bytes) :
    (b.length < 12 ∧ decode b = .error .addressTooShort) ∨
      (12 ≤ b.length ∧ b.field 0 2 ≠ 16 ∧ decode b = .error .addressOfOtherFamily) ∨
      ∃ a padding rest, b = laid ⟨familyWord, a⟩ padding ++ rest ∧ decode b = .ok a := by
  rcases Nat.lt_or_ge b.length 12 with short | long
  · left
    exact ⟨short, by rw [decode, readLayout_eq_none.2 short]⟩
  right
  obtain ⟨⟨family, a⟩, read⟩ := exists_readLayout long
  obtain ⟨padding, rest, rfl⟩ := eq_of_readLayout read
  rw [field_family, decode_laid]
  by_cases own : family = familyWord
  · subst own
    exact .inr ⟨a, padding, rest, rfl, if_pos rfl⟩
  · refine .inl ⟨long, fun same => own ?_, if_neg own⟩
    exact UInt16.toNat_inj.1 same

section

variable {a : Address} {b : Bytes}

theorem refused_short : Refused b .invalidArgument ↔ b.length < 12 := by
  rcases decode_cases b with ⟨short, decoded⟩ | ⟨long, -, decoded⟩ | ⟨a, padding, rest, rfl, decoded⟩
  · simp [Refused, decoded, short, Failure.errno]
  · simp [Refused, decoded, long, Failure.errno]
  · simp [Refused, decoded, length_laid]

theorem refused_foreign :
    Refused b .familyUnsupported ↔ 12 ≤ b.length ∧ b.field 0 2 ≠ 16 := by
  rcases decode_cases b with
    ⟨short, decoded⟩ | ⟨long, other, decoded⟩ | ⟨a, padding, rest, rfl, decoded⟩
  · simp [Refused, decoded, Failure.errno, Nat.not_le_of_lt short]
  · simp [Refused, decoded, Failure.errno, long, other]
  · have own : (laid ⟨familyWord, a⟩ padding ++ rest).field 0 2 = 16 := field_family _ padding rest
    simp [Refused, decoded, own]

theorem exists_decode (long : 12 ≤ b.length) (own : b.field 0 2 = 16) :
    ∃ a, decode b = .ok a := by
  rcases decode_cases b with ⟨short, -⟩ | ⟨-, other, -⟩ | ⟨a, padding, rest, -, decoded⟩
  · exact absurd long (Nat.not_le_of_lt short)
  · exact absurd own other
  · exact ⟨a, decoded⟩

theorem laid_of_decode (decoded : decode b = .ok a) :
    ∃ padding rest, b = laid ⟨familyWord, a⟩ padding ++ rest := by
  rcases decode_cases b with
    ⟨-, refused⟩ | ⟨-, -, refused⟩ | ⟨found, padding, rest, laid, read⟩
  · cases refused.symm.trans decoded
  · cases refused.symm.trans decoded
  · cases read.symm.trans decoded
    exact ⟨padding, rest, laid⟩

theorem encode_of_decode (decoded : decode b = .ok a) :
    a.encode = b.take 2 ++ [0, 0] ++ (b.drop 4).take 8 := by
  obtain ⟨padding, rest, rfl⟩ := laid_of_decode decoded
  rfl

theorem decode_own (a : Address) : decode a.encode = .ok a := by
  have read := decode_encode a []
  rwa [List.append_nil] at read

theorem eq_of_encode {other : Address} (same : other.encode = a.encode) : other = a := by
  have read := decode_own other
  rw [same, decode_own] at read
  cases read
  rfl

theorem decode_eq_iff (decoded : decode b = .ok a) (other : Bytes) :
    decode other = .ok a ↔
      other.take 2 = b.take 2 ∧ (other.drop 4).take 8 = (b.drop 4).take 8 := by
  obtain ⟨padding, rest, rfl⟩ := laid_of_decode decoded
  constructor
  · intro same
    obtain ⟨padding', rest', rfl⟩ := laid_of_decode same
    exact ⟨rfl, rfl⟩
  · intro agree
    obtain ⟨family, address⟩ := agree
    have long : 12 ≤ other.length := by
      have eight := congrArg List.length address
      simp only [List.length_take, List.length_drop, List.length_append, length_laid] at eight
      omega
    have own : other.field 0 2 = 16 := by
      rw [Bytes.field, List.drop_zero, family]
      exact field_family ⟨familyWord, a⟩ padding rest
    obtain ⟨found, read⟩ := exists_decode long own
    have written := encode_of_decode read
    rw [family, address, ← encode_of_decode decoded] at written
    rw [read, eq_of_encode written]

end

theorem decode_of_writeTo {a : Address} {buffer b : Bytes} (room : 12 ≤ buffer.length)
    (starts : (a.writeTo buffer).2.take 12 <+: b) : decode b = .ok a := by
  have fits : a.encode.length ≤ buffer.length := room
  have front : (a.writeTo buffer).2.take 12 = a.encode := by
    rw [writeTo, Bytes.overwrite_of_le fits]
    exact List.take_left' (length_encode a)
  obtain ⟨rest, rfl⟩ := starts
  rw [front, decode_encode]

/-- How an address is written: every byte of it, and what becomes of a buffer it is written to. -/
structure Encoding (a : Address) : Prop where
  bytes : ∀ b, a.LaidOut b ↔ b = a.encode
  written : ∀ buffer, (a.writeTo buffer).1 = 12 ∧ a.encode.Covers buffer (a.writeTo buffer).2
  readBack : ∀ buffer rest, 12 ≤ buffer.length → decode ((a.writeTo buffer).2 ++ rest) = .ok a
  injective : ∀ other : Address, decode other.encode = decode a.encode → other.encode = a.encode

structure Decoding (b : Bytes) : Prop where
  short : Refused b .invalidArgument ↔ b.length < 12
  foreign : Refused b .familyUnsupported ↔ 12 ≤ b.length ∧ b.field 0 2 ≠ 16
  read : 12 ≤ b.length → b.field 0 2 = 16 → ∃ a, decode b = .ok a
  encoded : ∀ a, decode b = .ok a → a.encode = b.take 2 ++ [0, 0] ++ (b.drop 4).take 8
  same : ∀ a other, decode b = .ok a →
    (decode other = .ok a ↔ other.take 2 = b.take 2 ∧ (other.drop 4).take 8 = (b.drop 4).take 8)

theorem codec_exact : (∀ a, Encoding a) ∧ ∀ b, Decoding b := by
  constructor
  · intro a
    constructor
    case bytes =>
      intro b
      exact ⟨eq_encode_of_laidOut, fun same => same ▸ laidOut_encode a⟩
    case written =>
      intro buffer
      exact ⟨rfl, Bytes.covers_overwrite a.encode buffer⟩
    case readBack =>
      intro buffer rest room
      exact decode_of_writeTo room ((List.take_prefix 12 _).trans (List.prefix_append _ rest))
    case injective =>
      intro other same
      rw [decode_own, decode_own] at same
      cases same
      rfl
  · intro b
    constructor
    case short => exact refused_short
    case foreign => exact refused_foreign
    case read => exact exists_decode
    case encoded => exact fun a => encode_of_decode
    case same => exact fun a other decoded => decode_eq_iff decoded other

end NetlinkSocket.Address
