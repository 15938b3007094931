/-!
The identity of a connection, by which waiters name what they wait for.
-/

namespace NetlinkSocket

structure ConnectionId where
  value : UInt32
  deriving DecidableEq, Repr, Inhabited

def ConnectionId.text (id : ConnectionId) : String :=
  "ConnId(" ++ toString id.value.toNat ++ ")"

end NetlinkSocket
