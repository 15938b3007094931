import NetlinkSocket.Proofs.Replies
import NetlinkSocket.Proofs.Words

/-!
Headers as bytes, and which bytes a message is read from. A header is read exactly where it is
written, and then only if the length it declares reaches from the header into the bytes there are.
-/

namespace NetlinkSocket.Header

/-- The sixteen bytes of a header, by the numbers in them. -/
structure LaidOut (h : Header) (b : Bytes) : Prop where
  length : b.length = 16
  declared : b.field 0 4 = h.length.toNat
  type : b.field 4 2 = h.type.toNat
  flagWord : b.field 6 2 = h.flagWord.toNat
  sequence : b.field 8 4 = h.sequence.toNat
  portId : b.field 12 4 = h.portId.toNat

def Refused (b : Bytes) : Prop :=
  ∃ failure, parse b = .error failure ∧ failure.errno = .invalidArgument

theorem refused_iff {b : Bytes} : Refused b ↔ ∀ h, parse b ≠ .ok h := by
  constructor
  · intro refused h parsed
    obtain ⟨failure, failed, -⟩ := refused
    cases failed.symm.trans parsed
  · intro unread
    cases parsed : parse b with
    | ok h => exact absurd parsed (unread h)
    | error failure => exact ⟨failure, parsed, errno_of_parse parsed⟩

theorem exists_read? {b : Bytes} (long : 16 ≤ b.length) : ∃ h rest, read? b = some (h, rest) := by
  obtain ⟨length, b₁, first, rest₁⟩ := Bytes.exists_takeWord32 (b := b) (by omega)
  obtain ⟨type, b₂, second, rest₂⟩ := Bytes.exists_takeWord16 (b := b₁) (by omega)
  obtain ⟨flagWord, b₃, third, rest₃⟩ := Bytes.exists_takeWord16 (b := b₂) (by omega)
  obtain ⟨sequence, b₄, fourth, rest₄⟩ := Bytes.exists_takeWord32 (b := b₃) (by omega)
  obtain ⟨portId, rest, fifth, -⟩ := Bytes.exists_takeWord32 (b := b₄) (by omega)
  exact ⟨⟨length, type, flagWord, sequence, portId⟩, rest, by
    simp [read?, first, second, third, fourth, fifth]⟩

/-! The numbers in a header -/

section

variable (h : Header) (rest : Bytes)

theorem field_length : (h.encode ++ rest).field 0 4 = h.length.toNat :=
  Bytes.value_ofWord32 h.length

theorem field_type : (h.encode ++ rest).field 4 2 = h.type.toNat :=
  Bytes.value_ofWord16 h.type

theorem field_flagWord : (h.encode ++ rest).field 6 2 = h.flagWord.toNat :=
  Bytes.value_ofWord16 h.flagWord

theorem field_sequence : (h.encode ++ rest).field 8 4 = h.sequence.toNat :=
  Bytes.value_ofWord32 h.sequence

theorem field_portId : (h.encode ++ rest).field 12 4 = h.portId.toNat :=
  Bytes.value_ofWord32 h.portId

end

theorem laidOut_encode (h : Header) : h.LaidOut h.encode where
  length := rfl
  declared := field_length h []
  type := field_type h []
  flagWord := field_flagWord h []
  sequence := field_sequence h []
  portId := field_portId h []

theorem eq_encode_of_laidOut {h : Header} {b : Bytes} (laidOut : h.LaidOut b) : b = h.encode := by
  obtain ⟨k, rest, read⟩ := exists_read? (Nat.le_of_eq laidOut.length.symm)
  obtain rfl := eq_of_read? read
  have none_left : rest = [] := by
    have length := laidOut.length
    rw [List.length_append, length_encode, size] at length
    exact List.length_eq_zero_iff.1 (by omega)
  have length := UInt32.toNat_inj.1 ((field_length k rest).symm.trans laidOut.declared)
  have type := UInt16.toNat_inj.1 ((field_type k rest).symm.trans laidOut.type)
  have flagWord := UInt16.toNat_inj.1 ((field_flagWord k rest).symm.trans laidOut.flagWord)
  have sequence := UInt32.toNat_inj.1 ((field_sequence k rest).symm.trans laidOut.sequence)
  have portId := UInt32.toNat_inj.1 ((field_portId k rest).symm.trans laidOut.portId)
  have same : k = h := by
    cases k
    cases h
    simp_all
  rw [none_left, List.append_nil, same]

theorem parse_eq_ok_iff {b : Bytes} {h : Header} :
    parse b = .ok h ↔ h.encode <+: b ∧ 16 ≤ h.length.toNat ∧ h.length.toNat ≤ b.length := by
  constructor
  · intro parsed
    obtain ⟨reaches, within, front⟩ := parse_eq_ok parsed
    exact ⟨front ▸ List.take_prefix size b, reaches, within⟩
  · intro whole
    obtain ⟨⟨rest, rfl⟩, reaches, within⟩ := whole
    have above : ¬h.length.toNat < size := Nat.not_lt_of_le reaches
    have inside : ¬(h.encode ++ rest).length < h.length.toNat := Nat.not_lt_of_le within
    simp only [parse, read?_encode, if_neg above, if_neg inside]

section

variable {b : Bytes} {h : Header}

theorem parse_take (parsed : parse b = .ok h) : parse (b.take h.length.toNat) = .ok h := by
  obtain ⟨front, reaches, within⟩ := parse_eq_ok_iff.1 parsed
  have whole : (b.take h.length.toNat).length = h.length.toNat := by
    rw [List.length_take, Nat.min_eq_left within]
  refine parse_eq_ok_iff.2 ⟨?_, reaches, Nat.le_of_eq whole.symm⟩
  exact List.prefix_take_iff.2 ⟨front, reaches⟩

theorem parse_append (parsed : parse b = .ok h) (more : Bytes) : parse (b ++ more) = .ok h := by
  obtain ⟨front, reaches, within⟩ := parse_eq_ok_iff.1 parsed
  refine parse_eq_ok_iff.2 ⟨front.trans (List.prefix_append b more), reaches, ?_⟩
  rw [List.length_append]
  omega

theorem exists_parse_iff :
    (∃ h, parse b = .ok h) ↔ 16 ≤ b.length ∧ 16 ≤ b.field 0 4 ∧ b.field 0 4 ≤ b.length := by
  constructor
  · intro read
    obtain ⟨h, parsed⟩ := read
    obtain ⟨⟨rest, rfl⟩, reaches, within⟩ := parse_eq_ok_iff.1 parsed
    rw [field_length]
    exact ⟨Nat.le_trans reaches within, reaches, within⟩
  · intro whole
    obtain ⟨long, reaches, within⟩ := whole
    obtain ⟨h, rest, read⟩ := exists_read? long
    obtain rfl := eq_of_read? read
    rw [field_length] at reaches within
    exact ⟨h, parse_eq_ok_iff.2 ⟨List.prefix_append h.encode rest, reaches, within⟩⟩

end

section

variable (h : Header) (payload : Bytes)

theorem length_encode_append : (h.encode ++ payload).length = 16 + payload.length :=
  List.length_append

theorem parse_encode_iff : parse (h.encode ++ payload) = .ok h ↔
    16 ≤ h.length.toNat ∧ h.length.toNat ≤ 16 + payload.length := by
  rw [parse_eq_ok_iff, length_encode_append]
  exact and_iff_right (List.prefix_append h.encode payload)

theorem refused_encode
    (outside : ¬(16 ≤ h.length.toNat ∧ h.length.toNat ≤ 16 + payload.length)) :
    Refused (h.encode ++ payload) := by
  refine refused_iff.2 fun other parsed => outside ?_
  obtain ⟨-, declared⟩ := exists_parse_iff.1 ⟨other, parsed⟩
  rw [field_length, length_encode_append] at declared
  exact declared

end

structure Written (h : Header) : Prop where
  bytes : ∀ b, h.LaidOut b ↔ b = h.encode
  accepted : ∀ payload, parse (h.encode ++ payload) = .ok h ↔
    16 ≤ h.length.toNat ∧ h.length.toNat ≤ 16 + payload.length
  refused : ∀ payload, ¬(16 ≤ h.length.toNat ∧ h.length.toNat ≤ 16 + payload.length) →
    Refused (h.encode ++ payload)

structure Framed (b : Bytes) : Prop where
  front : ∀ h, parse b = .ok h → h.encode = b.take 16
  within : ∀ h, parse b = .ok h → h.length.toNat ≤ b.length
  cut : ∀ h, parse b = .ok h → parse (b.take h.length.toNat) = .ok h
  extended : ∀ h more, parse b = .ok h → parse (b ++ more) = .ok h
  short : b.length < 16 → Refused b
  read : (∃ h, parse b = .ok h) ↔ 16 ≤ b.length ∧ 16 ≤ b.field 0 4 ∧ b.field 0 4 ≤ b.length

theorem framing_exact : (∀ h, Written h) ∧ ∀ b, Framed b := by
  constructor
  · intro h
    constructor
    case bytes =>
      intro b
      exact ⟨eq_encode_of_laidOut, fun same => same ▸ laidOut_encode h⟩
    case accepted => exact parse_encode_iff h
    case refused => exact refused_encode h
  · intro b
    constructor
    case front =>
      intro h parsed
      exact (parse_eq_ok parsed).2.2
    case within =>
      intro h parsed
      exact (parse_eq_ok parsed).2.1
    case cut => exact fun h => parse_take
    case extended => exact fun h more parsed => parse_append parsed more
    case short =>
      intro short
      refine refused_iff.2 fun h parsed => ?_
      obtain ⟨reaches, within, -⟩ := parse_eq_ok parsed
      exact absurd (Nat.le_trans reaches within) (Nat.not_le_of_lt short)
    case read => exact exists_parse_iff

end NetlinkSocket.Header
