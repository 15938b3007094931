import NetlinkSocket.Bytes
import NetlinkSocket.SocketKind

/-!
Netlink addresses and their twelve bytes: family, padding, portId, groups.
-/

namespace NetlinkSocket

structure Address where
  portId : UInt32
  groups : UInt32
  deriving DecidableEq, Repr, Inhabited

namespace Address

def unspecifiedPort : UInt32 := 0

def unspecified : Address := ⟨unspecifiedPort, 0⟩

def familyWord : UInt16 := 16

def size : Nat := 12

def encode (a : Address) : Bytes :=
  Bytes.ofWord16 familyWord ++ Bytes.ofWord16 0 ++ Bytes.ofWord32 a.portId ++
    Bytes.ofWord32 a.groups

theorem length_encode (a : Address) : a.encode.length = size := rfl

structure Layout where
  family : UInt16
  address : Address

def readLayout (b : Bytes) : Option Layout := do
  let (family, b) ← Bytes.takeWord16 b
  let (_, b) ← Bytes.takeWord16 b
  let (portId, b) ← Bytes.takeWord32 b
  let (groups, _) ← Bytes.takeWord32 b
  return ⟨family, portId, groups⟩

/-- Reads an address, ignoring the padding and what follows. -/
def decode (b : Bytes) : Except Failure Address :=
  match readLayout b with
  | none => .error .addressTooShort
  | some layout =>
    if layout.family = familyWord then .ok layout.address else .error .addressOfOtherFamily

def writeTo (a : Address) (buffer : Bytes) : Nat × Bytes :=
  (a.encode.length, Bytes.overwrite buffer a.encode)

theorem decode_encode (a : Address) (rest : Bytes) : decode (a.encode ++ rest) = .ok a := by
  simp [decode, readLayout, encode, List.append_assoc]

def text (a : Address) : String :=
  "NetlinkSocketAddr \x7b port: " ++ toString a.portId.toNat ++ ", groups: GroupIdSet(" ++
    toString a.groups.toNat ++ ") \x7d"

end Address

end NetlinkSocket
