import NetlinkSocket.Bytes
import NetlinkSocket.Failure
import NetlinkSocket.Flags

/-!
The header in front of every netlink message: length, type, flags, sequence number, portId.
-/

namespace NetlinkSocket

inductive HeaderFlag
  | request
  | multi
  | ack
  | echo
  | dumpInterrupted
  | dumpFiltered
  | root
  | matching
  | atomic
  | dump
  deriving DecidableEq, Repr

instance : FlagKind HeaderFlag where
  members := [.request, .multi, .ack, .echo, .dumpInterrupted, .dumpFiltered, .root, .matching,
    .atomic, .dump]
  mask
    | .request => 0x001
    | .multi => 0x002
    | .ack => 0x004
    | .echo => 0x008
    | .dumpInterrupted => 0x010
    | .dumpFiltered => 0x020
    | .root => 0x100
    | .matching => 0x200
    | .atomic => 0x400
    | .dump => 0x300
  label
    | .request => "REQUEST"
    | .multi => "MULTI"
    | .ack => "ACK"
    | .echo => "ECHO"
    | .dumpInterrupted => "DUMP_INTR"
    | .dumpFiltered => "DUMP_FILTERED"
    | .root => "ROOT"
    | .matching => "MATCH"
    | .atomic => "ATOMIC"
    | .dump => "DUMP"

abbrev HeaderFlags := Flags HeaderFlag

structure Header where
  length : UInt32
  type : UInt16
  flagWord : UInt16
  sequence : UInt32
  portId : UInt32
  deriving DecidableEq, Repr, Inhabited

namespace Header

def size : Nat := 16

def alignment : Nat := 4

def flags (h : Header) : HeaderFlags :=
  Flags.truncate (h.flagWord.toBitVec.setWidth 32)

def encode (h : Header) : Bytes :=
  Bytes.ofWord32 h.length ++ Bytes.ofWord16 h.type ++ Bytes.ofWord16 h.flagWord ++
    Bytes.ofWord32 h.sequence ++ Bytes.ofWord32 h.portId

theorem length_encode (h : Header) : h.encode.length = size := rfl

def read? (b : Bytes) : Option (Header × Bytes) := do
  let (length, b) ← Bytes.takeWord32 b
  let (type, b) ← Bytes.takeWord16 b
  let (flagWord, b) ← Bytes.takeWord16 b
  let (sequence, b) ← Bytes.takeWord32 b
  let (portId, b) ← Bytes.takeWord32 b
  return (⟨length, type, flagWord, sequence, portId⟩, b)

theorem read?_encode (h : Header) (rest : Bytes) : read? (h.encode ++ rest) = some (h, rest) := by
  simp [read?, encode, List.append_assoc]

/-- Reads the header of a message that lies whole in the bytes. -/
def parse (b : Bytes) : Except Failure Header :=
  match read? b with
  | none => .error .headerTruncated
  | some (h, _) =>
    if h.length.toNat < size then .error .lengthBelowHeader
    else if b.length < h.length.toNat then .error .lengthBeyondBuffer
    else .ok h

end Header

end NetlinkSocket
