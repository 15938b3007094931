import NetlinkSocket.Handler

/-!
What the routing handler answers. A request that is framed well gets one reply, which is a message
in its own right and names the request it belongs to; a request that is not framed well gets none.
-/

namespace NetlinkSocket

namespace Flags

variable {κ : Type} [FlagKind κ]

theorem has_truncate {f : κ} (known : f ∈ (FlagKind.members : List κ)) (word : BitVec 32) :
    (truncate word : Flags κ).has f = (word &&& FlagKind.mask f == FlagKind.mask f) := by
  have within : FlagKind.all κ &&& FlagKind.mask f = FlagKind.mask f := by
    rw [BitVec.and_comm, FlagKind.mask_and_all known]
  unfold has truncate
  rw [BitVec.and_assoc, within]

theorem has_of_union {f g h : κ}
    (union : FlagKind.mask h = FlagKind.mask f ||| FlagKind.mask g) (s : Flags κ) :
    s.has h = true ↔ s.has f = true ∧ s.has g = true := by
  simp only [has, union, beq_iff_eq]
  constructor
  · intro both
    refine ⟨?_, ?_⟩
    · have own : (FlagKind.mask f ||| FlagKind.mask g) &&& FlagKind.mask f = FlagKind.mask f := by
        ext i; simp; grind
      rw [← own, ← BitVec.and_assoc, both]
    · have own : (FlagKind.mask f ||| FlagKind.mask g) &&& FlagKind.mask g = FlagKind.mask g := by
        ext i; simp; grind
      rw [← own, ← BitVec.and_assoc, both]
  · intro each
    obtain ⟨first, second⟩ := each
    rw [BitVec.and_or_distrib_left, first, second]

end Flags

namespace Header

theorem eq_of_read? {b rest : Bytes} {h : Header} (read : read? b = some (h, rest)) :
    b = h.encode ++ rest := by
  simp only [read?, Option.bind_eq_bind, Option.bind_eq_some_iff, Prod.exists, Option.pure_def,
    Option.some.injEq, Prod.mk.injEq] at read
  obtain ⟨length, b₁, first, type, b₂, second, flagWord, b₃, third, sequence, b₄, fourth, portId,
    b₅, fifth, made, rfl⟩ := read
  subst made
  rw [Bytes.eq_of_takeWord32 first, Bytes.eq_of_takeWord16 second, Bytes.eq_of_takeWord16 third,
    Bytes.eq_of_takeWord32 fourth, Bytes.eq_of_takeWord32 fifth]
  simp only [encode, List.append_assoc]

theorem parse_eq_ok {b : Bytes} {h : Header} (parsed : parse b = .ok h) :
    size ≤ h.length.toNat ∧ h.length.toNat ≤ b.length ∧ h.encode = b.take size := by
  unfold parse at parsed
  cases read : read? b with
  | none => simp [read] at parsed
  | some r =>
    obtain ⟨k, rest⟩ := r
    simp only [read] at parsed
    split at parsed
    · cases parsed
    rename_i reaches
    split at parsed
    · cases parsed
    rename_i within
    cases parsed
    refine ⟨Nat.le_of_not_lt reaches, Nat.le_of_not_lt within, ?_⟩
    rw [eq_of_read? read, ← length_encode h, List.take_left]

theorem parse_encode {h : Header} {body : Bytes} (length : h.length.toNat = size + body.length) :
    parse (h.encode ++ body) = .ok h := by
  have whole : (h.encode ++ body).length = h.length.toNat := by
    rw [List.length_append, length_encode, length]
  have reaches : ¬h.length.toNat < size := by omega
  have within : ¬(h.encode ++ body).length < h.length.toNat := by omega
  simp only [parse, read?_encode, if_neg reaches, if_neg within]

theorem errno_of_parse {b : Bytes} {failure : Failure} (refused : parse b = .error failure) :
    failure.errno = .invalidArgument := by
  unfold parse at refused
  split at refused
  · cases refused
    rfl
  · split at refused
    · cases refused
      rfl
    · split at refused
      · cases refused
        rfl
      · cases refused

theorem has_flags {f : HeaderFlag} (known : f ∈ (FlagKind.members : List HeaderFlag))
    (bit : UInt16) (mask : FlagKind.mask f = bit.toBitVec.setWidth 32) (h : Header) :
    h.flags.has f = true ↔ h.flagWord &&& bit = bit := by
  unfold flags
  rw [Flags.has_truncate known, beq_iff_eq, mask, ← BitVec.setWidth_and, ← UInt16.toBitVec_inj]
  constructor
  · intro same
    have narrow := congrArg (BitVec.setWidth 16) same
    simpa using narrow
  · exact congrArg (BitVec.setWidth 32)

/-- Whether a request asks for all entries of a kind: it is a get request of links, addresses,
routes or neighbours, and names both the root of the table and all that matches. -/
def AsksForAll (h : Header) : Prop :=
  h.type ∈ ([18, 22, 26, 30] : List UInt16) ∧ h.flagWord &&& 0x100 = 0x100 ∧
    h.flagWord &&& 0x200 = 0x200

instance (h : Header) : Decidable h.AsksForAll := inferInstanceAs (Decidable (_ ∧ _))

end Header

namespace SegmentType

theorem isGet_iff (n : UInt16) : (∃ type, ofNumber? n = some type ∧ type.isGet = true) ↔
    n ∈ ([18, 22, 26, 30] : List UInt16) := by
  constructor
  · intro found
    obtain ⟨type, known, get⟩ := found
    have number := number_of_ofNumber? known
    rw [← number]
    cases type with
    | getLink | getAddress | getRoute | getNeighbour => decide
    | _ => cases get
  · intro listed
    simp only [List.mem_cons, List.not_mem_nil, or_false] at listed
    obtain rfl | rfl | rfl | rfl := listed
    · exact ⟨.getLink, by decide, rfl⟩
    · exact ⟨.getAddress, by decide, rfl⟩
    · exact ⟨.getRoute, by decide, rfl⟩
    · exact ⟨.getNeighbour, by decide, rfl⟩

end SegmentType

namespace Handler

theorem isDump_iff (h : Header) : isDump h = true ↔ h.AsksForAll := by
  have both : h.flags.has .dump = true ↔
      h.flagWord &&& 0x100 = 0x100 ∧ h.flagWord &&& 0x200 = 0x200 := by
    rw [Flags.has_of_union (f := .root) (g := .matching) (by decide),
      Header.has_flags (by decide) 0x100 (by decide),
      Header.has_flags (by decide) 0x200 (by decide)]
  unfold Header.AsksForAll
  rw [← SegmentType.isGet_iff, ← both]
  unfold isDump
  cases SegmentType.ofNumber? h.type with
  | none => simp
  | some type => simp

end Handler

/-- A reply is one message, whose header names the request and the port. It ends a list for a
request that asks for all entries; any other request is refused and gets its own header back. -/
structure Header.RepliedBy (request : Header) (portId : UInt32) (reply : Bytes) (head : Header) :
    Prop where
  parsed : Header.parse reply = .ok head
  whole : head.length.toNat = reply.length
  sequence : head.sequence = request.sequence
  portId : head.portId = portId
  listed : request.AsksForAll → head.type = SegmentType.done.number ∧ head.flagWord = 0x2 ∧
    reply.drop Header.size = [0, 0, 0, 0]
  refused : ¬request.AsksForAll → head.type = SegmentType.error.number ∧ head.flagWord = 0 ∧
    reply.drop Header.size = Bytes.ofWord32 (-95) ++ request.encode

namespace Handler

theorem repliedBy_routeReply (request : Header) (portId : UInt32) :
    ∃ head, request.RepliedBy portId (routeReply request portId) head := by
  unfold routeReply
  by_cases all : request.AsksForAll
  · rw [if_pos ((isDump_iff request).mpr all)]
    exact ⟨request.doneHeader portId, Header.parse_encode rfl, rfl, rfl, rfl,
      fun _ => ⟨rfl, rfl, rfl⟩, fun other => absurd all other⟩
  · rw [if_neg fun dump => all ((isDump_iff request).mp dump)]
    exact ⟨request.errorHeader portId, Header.parse_encode rfl, rfl, rfl, rfl,
      fun asks => absurd asks all, fun _ => ⟨rfl, rfl, rfl⟩⟩

theorem route_of_parse {d : Delivery} {request : Header}
    (parsed : Header.parse d.message = .ok request) :
    (route d).result = .ok request.length.toNat ∧
      (route d).replies = [routeReply request d.connection.name.portId] := by
  unfold route
  rw [parsed]
  exact ⟨rfl, rfl⟩

end Handler

end NetlinkSocket
