import NetlinkSocket.Proofs.Framing

/-!
The two replies as their receiver sees them. Each is one message, which ends where the next may
start, and all that it was built from is read off it again; so replies are the same only if they
answer the same.
-/

namespace NetlinkSocket

theorem toInt_negated (errno : Errno) :
    (negated errno).toInt32.toInt = -(errno.number : Int) := by
  have small : errno.number < 2 ^ 31 := Nat.lt_trans errno.number_lt (by decide)
  calc (negated errno).toInt32.toInt
      = (0 - Int32.ofNat errno.number).toInt := by
        rw [negated, UInt32.toInt32_sub, UInt32.toInt32_ofNat']
        rfl
    _ = (0 - (errno.number : Int)).bmod (2 ^ 32) := by
        rw [Int32.toInt_sub, Int32.toInt_ofNat_of_lt small]
        rfl
    _ = -(errno.number : Int) := by
        rw [Int.zero_sub, Int.bmod_eq_of_le (by omega) (by omega)]

theorem eq_of_negated {errno other : Errno} (same : negated other = negated errno) :
    other = errno := by
  have numbers : -(other.number : Int) = -(errno.number : Int) := by
    rw [← toInt_negated, ← toInt_negated, same]
  exact Errno.number_injective (by omega)

namespace Header

theorem eq_of_encode {h other : Header} (same : other.encode = h.encode) : other = h := by
  have read := read?_encode other []
  rw [same, read?_encode] at read
  cases read
  rfl

/-- A header, a word, and what comes after: both replies are laid out like this. -/
def segment (head : Header) (code : UInt32) (rest : Bytes) : Bytes :=
  head.encode ++ (Bytes.ofWord32 code ++ rest)

section

variable {head other : Header} {code number : UInt32} {rest more : Bytes}

theorem length_segment : (segment head code rest).length = 20 + rest.length := by
  rw [segment, List.length_append, List.length_append, length_encode, size, Bytes.length_ofWord32]
  omega

theorem segment_inj :
    segment other number more = segment head code rest ↔
      other = head ∧ number = code ∧ more = rest := by
  constructor
  · intro same
    -- reading undoes writing, so equal bytes give equal parts, whatever the parts say
    have front := congrArg read? same
    rw [segment, segment, read?_encode, read?_encode, Option.some.injEq, Prod.mk.injEq] at front
    obtain ⟨heads, bodies⟩ := front
    have body := congrArg Bytes.takeWord32 bodies
    rw [Bytes.takeWord32_ofWord32, Bytes.takeWord32_ofWord32, Option.some.injEq,
      Prod.mk.injEq] at body
    exact ⟨heads, body⟩
  · rintro ⟨rfl, rfl, rfl⟩
    rfl

theorem eq_segment_iff {b : Bytes} (long : 20 ≤ b.length) : b = segment head code rest ↔
    head.LaidOut (b.take 16) ∧ b.signedField 16 = code.toInt32.toInt ∧ b.drop 20 = rest := by
  rw [Bytes.signedField_eq_iff long]
  constructor
  · rintro rfl
    exact ⟨laidOut_encode head, rfl, rfl⟩
  · rintro ⟨front, word, rfl⟩
    calc b = b.take 16 ++ ((b.drop 16).take 4 ++ (b.drop 16).drop 4) := by
          rw [List.take_append_drop, List.take_append_drop]
      _ = segment head code (b.drop 20) := by
          rw [eq_encode_of_laidOut front, word, List.drop_drop, segment]

end

/-- A reply as its receiver takes it: one message, which is as long as its header declares and ends
where the next may start. The header tells what kind of reply it is and names the request by its
sequence number. -/
structure Heads (head : Header) (type : SegmentType) (flags : HeaderFlags) (request : Header)
    (portId : UInt32) (reply : Bytes) : Prop where
  parsed : parse reply = .ok head
  whole : head.length.toNat = reply.length
  aligned : alignment ∣ reply.length
  type : head.type = type.number
  flags : head.flags = flags
  sequence : head.sequence = request.sequence
  portId : head.portId = portId

structure EndsList (request : Header) (portId : UInt32) (b : Bytes) : Prop where
  length : b.length = 20
  head : LaidOut ⟨20, 3, 2, request.sequence, portId⟩ (b.take 16)
  code : b.signedField 16 = 0

structure CarriesError (request : Header) (portId : UInt32) (errno : Errno) (b : Bytes) :
    Prop where
  length : b.length = 36
  head : LaidOut ⟨36, 2, 0, request.sequence, portId⟩ (b.take 16)
  code : b.signedField 16 = -(errno.number : Int)
  echo : request.LaidOut (b.drop 20)

section

variable (request : Header) (portId : UInt32) (errno : Errno)

theorem doneReply_eq : request.doneReply portId = segment (request.doneHeader portId) 0 [] := rfl

theorem errorReply_eq : request.errorReply portId errno =
    segment (request.errorHeader portId) (negated errno) request.encode := rfl

theorem length_doneReply : (request.doneReply portId).length = 20 := by
  rw [doneReply_eq, length_segment, List.length_nil]

theorem length_errorReply : (request.errorReply portId errno).length = 36 := by
  rw [errorReply_eq, length_segment, length_encode, size]

theorem endsList_iff (b : Bytes) :
    request.EndsList portId b ↔ b = request.doneReply portId := by
  constructor
  · intro ends
    have nothing : b.drop 20 = [] := List.drop_eq_nil_of_le (Nat.le_of_eq ends.length)
    exact (eq_segment_iff (Nat.le_of_eq ends.length.symm)).2 ⟨ends.head, ends.code, nothing⟩
  · intro same
    have length : b.length = 20 := by rw [same, length_doneReply]
    obtain ⟨head, code, -⟩ := (eq_segment_iff (Nat.le_of_eq length.symm)).1 same
    exact ⟨length, head, code⟩

theorem carriesError_iff (b : Bytes) :
    request.CarriesError portId errno b ↔ b = request.errorReply portId errno := by
  constructor
  · intro carries
    have long : 20 ≤ b.length := by rw [carries.length]; decide
    refine (eq_segment_iff long).2 ⟨carries.head, ?_, eq_encode_of_laidOut carries.echo⟩
    rw [carries.code, toInt_negated]
  · intro same
    have length : b.length = 36 := by rw [same, length_errorReply]
    obtain ⟨head, code, echo⟩ := (eq_segment_iff (by omega)).1 same
    refine ⟨length, head, ?_, ?_⟩
    · rw [code, toInt_negated]
    · rw [echo]
      exact laidOut_encode request

example : (⟨16, 18, 1, 9, 0⟩ : Header).errorReply 5 .operationUnsupported =
    [36, 0, 0, 0, 2, 0, 0, 0, 9, 0, 0, 0, 5, 0, 0, 0, 161, 255, 255, 255,
      16, 0, 0, 0, 18, 0, 1, 0, 9, 0, 0, 0, 0, 0, 0, 0] := by
  decide

theorem heads_doneReply : (request.doneHeader portId).Heads .done (Flags.single .multi) request
    portId (request.doneReply portId) where
  parsed := parse_encode rfl
  whole := rfl
  aligned := by
    rw [length_doneReply]
    decide
  type := rfl
  flags := rfl
  sequence := rfl
  portId := rfl

theorem heads_errorReply : (request.errorHeader portId).Heads .error Flags.empty request portId
    (request.errorReply portId errno) where
  parsed := parse_encode rfl
  whole := rfl
  aligned := by
    rw [length_errorReply]
    decide
  type := rfl
  flags := Flags.ext BitVec.zero_and
  sequence := rfl
  portId := rfl

theorem read?_errorReply : ErrorBody.read? ((request.errorReply portId errno).drop size) =
    some (⟨negated errno, request⟩, []) := by
  have read := ErrorBody.read?_encode ⟨negated errno, request⟩ []
  rwa [List.append_nil] at read

end

section

variable {request other : Header} {portId port : UInt32} {errno number : Errno}

theorem errorReply_inj : other.errorReply port number = request.errorReply portId errno ↔
    other = request ∧ port = portId ∧ number = errno := by
  rw [errorReply_eq, errorReply_eq, segment_inj]
  constructor
  · rintro ⟨heads, codes, echoes⟩
    -- the echo is the whole request, of which the head names the sequence number only
    exact ⟨eq_of_encode echoes, congrArg Header.portId heads, eq_of_negated codes⟩
  · rintro ⟨rfl, rfl, rfl⟩
    exact ⟨rfl, rfl, rfl⟩

theorem doneReply_inj : other.doneReply port = request.doneReply portId ↔
    other.sequence = request.sequence ∧ port = portId := by
  rw [doneReply_eq, doneReply_eq, segment_inj]
  constructor
  · rintro ⟨heads, -⟩
    have sequences : (other.doneHeader port).sequence = (request.doneHeader portId).sequence := by
      rw [heads]
    exact ⟨sequences, congrArg Header.portId heads⟩
  · rintro ⟨sequence, rfl⟩
    refine ⟨?_, rfl, rfl⟩
    rw [doneHeader, doneHeader, sequence]

theorem errorReply_ne_doneReply : other.errorReply port errno ≠ request.doneReply portId := by
  rw [errorReply_eq, doneReply_eq]
  intro same
  obtain ⟨heads, -⟩ := segment_inj.1 same
  have types : SegmentType.error.number = SegmentType.done.number := congrArg Header.type heads
  exact absurd types (by decide)

end

structure ErrorSegment (request : Header) (portId : UInt32) (errno : Errno) : Prop where
  bytes : ∀ b, request.CarriesError portId errno b ↔ b = request.errorReply portId errno
  framed : ∃ head : Header,
    head.Heads .error Flags.empty request portId (request.errorReply portId errno)
  body : ∃ code, code.toInt32.toInt = -(errno.number : Int) ∧
    ErrorBody.read? ((request.errorReply portId errno).drop size) = some (⟨code, request⟩, [])
  same : ∀ (other : Header) port number,
    other.errorReply port number = request.errorReply portId errno ↔
      other = request ∧ port = portId ∧ number = errno

structure DoneSegment (request : Header) (portId : UInt32) : Prop where
  bytes : ∀ b, request.EndsList portId b ↔ b = request.doneReply portId
  framed : ∃ head : Header,
    head.Heads .done (Flags.single .multi) request portId (request.doneReply portId)
  body : ∃ code, code.toInt32.toInt = 0 ∧
    Bytes.takeWord32 ((request.doneReply portId).drop size) = some (code, [])
  same : ∀ (other : Header) port, other.doneReply port = request.doneReply portId ↔
    other.sequence = request.sequence ∧ port = portId
  distinct : ∀ (other : Header) port errno,
    other.errorReply port errno ≠ request.doneReply portId

theorem segments_exact :
    (∀ request portId errno, ErrorSegment request portId errno) ∧
      ∀ request portId, DoneSegment request portId := by
  constructor
  · intro request portId errno
    constructor
    case bytes => exact carriesError_iff request portId errno
    case framed => exact ⟨_, heads_errorReply request portId errno⟩
    case body => exact ⟨_, toInt_negated errno, read?_errorReply request portId errno⟩
    case same => exact fun other port number => errorReply_inj
  · intro request portId
    constructor
    case bytes => exact endsList_iff request portId
    case framed => exact ⟨_, heads_doneReply request portId⟩
    case body => exact ⟨0, rfl, rfl⟩
    case same => exact fun other port => doneReply_inj
    case distinct => exact fun other port errno => errorReply_ne_doneReply

end Header

end NetlinkSocket
