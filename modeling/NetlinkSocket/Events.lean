import NetlinkSocket.Flags

/-!
The events a poll asks for and reports.
-/

namespace NetlinkSocket

inductive Event
  | readable
  | urgent
  | writable
  | error
  | hangUp
  | invalid
  | readHangUp
  deriving DecidableEq, Repr

instance : FlagKind Event where
  members := [.readable, .urgent, .writable, .error, .hangUp, .invalid, .readHangUp]
  mask
    | .readable => 0x0001
    | .urgent => 0x0002
    | .writable => 0x0004
    | .error => 0x0008
    | .hangUp => 0x0010
    | .invalid => 0x0020
    | .readHangUp => 0x2000
  label
    | .readable => "IN"
    | .urgent => "PRI"
    | .writable => "OUT"
    | .error => "ERR"
    | .hangUp => "HUP"
    | .invalid => "NVAL"
    | .readHangUp => "RDHUP"

abbrev Events := Flags Event

namespace Events

/-- What a connection can report: it can always be written to, and read from while a response
is queued. -/
def ready (queued : Bool) : Events :=
  if queued then Flags.single .readable ∪ Flags.single .writable else Flags.single .writable

end Events

end NetlinkSocket
