import NetlinkSocket.Message.Header
import NetlinkSocket.Message.SegmentType

/-!
The two replies to a request: the segment that ends a list of entries, and the segment that
carries an error number and the request's header back.
-/

namespace NetlinkSocket

def negated (errno : Errno) : UInt32 :=
  0 - UInt32.ofNat errno.number

structure ErrorBody where
  code : UInt32
  request : Header
  deriving DecidableEq, Repr

namespace ErrorBody

def size : Nat := 4 + Header.size

def encode (body : ErrorBody) : Bytes :=
  Bytes.ofWord32 body.code ++ body.request.encode

def read? (b : Bytes) : Option (ErrorBody × Bytes) := do
  let (code, b) ← Bytes.takeWord32 b
  let (request, b) ← Header.read? b
  return (⟨code, request⟩, b)

theorem read?_encode (body : ErrorBody) (rest : Bytes) :
    read? (body.encode ++ rest) = some (body, rest) := by
  simp [read?, encode, List.append_assoc, Header.read?_encode]

end ErrorBody

namespace Header

def doneHeader (request : Header) (portId : UInt32) : Header where
  length := UInt32.ofNat (size + 4)
  type := SegmentType.done.number
  flagWord := 0x2
  sequence := request.sequence
  portId := portId

def doneReply (request : Header) (portId : UInt32) : Bytes :=
  (doneHeader request portId).encode ++ Bytes.ofWord32 0

def errorHeader (request : Header) (portId : UInt32) : Header where
  length := UInt32.ofNat (size + ErrorBody.size)
  type := SegmentType.error.number
  flagWord := 0
  sequence := request.sequence
  portId := portId

def errorReply (request : Header) (portId : UInt32) (errno : Errno) : Bytes :=
  (errorHeader request portId).encode ++ ErrorBody.encode ⟨negated errno, request⟩

end Header

end NetlinkSocket
