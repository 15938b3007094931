import NetlinkSocket.Failure
import NetlinkSocket.Flags

/-!
What a socket is created as: its address family, its type, the flags that ride along with the
type, and what a family is capable of.
-/

namespace NetlinkSocket

inductive AddressFamily
  | unspecified
  | unix
  | inet
  | inet6
  | netlink
  | packet
  deriving DecidableEq, Repr

namespace AddressFamily

def number : AddressFamily → Int32
  | unspecified => 0
  | unix => 1
  | inet => 2
  | inet6 => 10
  | netlink => 16
  | packet => 17

def name : AddressFamily → String
  | unspecified => "AF_UNSPEC"
  | unix => "AF_UNIX"
  | inet => "AF_INET"
  | inet6 => "AF_INET6"
  | netlink => "AF_NETLINK"
  | packet => "AF_PACKET"

def all : List AddressFamily :=
  [unspecified, unix, inet, inet6, netlink, packet]

def ofNumber? (n : Int32) : Option AddressFamily :=
  all.find? fun f => f.number == n

theorem ofNumber?_number (f : AddressFamily) : ofNumber? f.number = some f := by
  cases f <;> decide

theorem number_of_ofNumber? {n : Int32} {f : AddressFamily} (h : ofNumber? n = some f) :
    f.number = n := by
  simpa using List.find?_some h

end AddressFamily

inductive SocketType
  | stream
  | datagram
  | raw
  | reliable
  | sequenced
  deriving DecidableEq, Repr

namespace SocketType

def number : SocketType → Int32
  | stream => 1
  | datagram => 2
  | raw => 3
  | reliable => 4
  | sequenced => 5

def name : SocketType → String
  | stream => "SOCK_STREAM"
  | datagram => "SOCK_DGRAM"
  | raw => "SOCK_RAW"
  | reliable => "SOCK_RDM"
  | sequenced => "SOCK_SEQPACKET"

def all : List SocketType :=
  [stream, datagram, raw, reliable, sequenced]

def ofNumber? (n : Int32) : Option SocketType :=
  all.find? fun t => t.number == n

theorem ofNumber?_number (t : SocketType) : ofNumber? t.number = some t := by
  cases t <;> decide

theorem number_of_ofNumber? {n : Int32} {t : SocketType} (h : ofNumber? n = some t) :
    t.number = n := by
  simpa using List.find?_some h

/-- The part of the type argument that names the type; the rest holds flags. -/
def mask : Int32 := 0xf

end SocketType

inductive SocketFlag
  | nonblocking
  | closeOnExec
  deriving DecidableEq, Repr

instance : FlagKind SocketFlag where
  members := [.nonblocking, .closeOnExec]
  mask
    | .nonblocking => 0x00000800
    | .closeOnExec => 0x00080000
  label
    | .nonblocking => "SOCK_NONBLOCK"
    | .closeOnExec => "SOCK_CLOEXEC"

abbrev SocketFlags := Flags SocketFlag

inductive Capability
  | nonblocking
  deriving DecidableEq, Repr

instance : FlagKind Capability where
  members := [.nonblocking]
  mask _ := 1
  label _ := "NONBLOCKING"

abbrev Capabilities := Flags Capability

inductive TransferFlag
  | outOfBand
  | peek
  | dontRoute
  | controlTruncated
  | probe
  | truncated
  | dontWait
  | endOfRecord
  | waitAll
  | confirm
  | errorQueue
  | noSignal
  | more
  deriving DecidableEq, Repr

instance : FlagKind TransferFlag where
  members := [.outOfBand, .peek, .dontRoute, .controlTruncated, .probe, .truncated, .dontWait,
    .endOfRecord, .waitAll, .confirm, .errorQueue, .noSignal, .more]
  mask
    | .outOfBand => 0x0001
    | .peek => 0x0002
    | .dontRoute => 0x0004
    | .controlTruncated => 0x0008
    | .probe => 0x0010
    | .truncated => 0x0020
    | .dontWait => 0x0040
    | .endOfRecord => 0x0080
    | .waitAll => 0x0100
    | .confirm => 0x0800
    | .errorQueue => 0x2000
    | .noSignal => 0x4000
    | .more => 0x8000
  label
    | .outOfBand => "MSG_OOB"
    | .peek => "MSG_PEEK"
    | .dontRoute => "MSG_DONTROUTE"
    | .controlTruncated => "MSG_CTRUNC"
    | .probe => "MSG_PROBE"
    | .truncated => "MSG_TRUNC"
    | .dontWait => "MSG_DONTWAIT"
    | .endOfRecord => "MSG_EOR"
    | .waitAll => "MSG_WAITALL"
    | .confirm => "MSG_CONFIRM"
    | .errorQueue => "MSG_ERRQUEUE"
    | .noSignal => "MSG_NOSIGNAL"
    | .more => "MSG_MORE"

abbrev TransferFlags := Flags TransferFlag

end NetlinkSocket
