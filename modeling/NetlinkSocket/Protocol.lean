/-!
Netlink protocols, and which of them a build of the library contains.
-/

namespace NetlinkSocket

inductive Protocol
  | route
  | userSocket
  | firewall
  | socketDiagnosis
  | netfilterLog
  | transform
  | selinux
  | iscsi
  | audit
  | fibLookup
  | connector
  | netfilter
  | ip6Firewall
  | decnetRouting
  | kobjectEvent
  | generic
  deriving DecidableEq, Repr, Inhabited

namespace Protocol

def number : Protocol → Int32
  | route => 0
  | userSocket => 2
  | firewall => 3
  | socketDiagnosis => 4
  | netfilterLog => 5
  | transform => 6
  | selinux => 7
  | iscsi => 8
  | audit => 9
  | fibLookup => 10
  | connector => 11
  | netfilter => 12
  | ip6Firewall => 13
  | decnetRouting => 14
  | kobjectEvent => 15
  | generic => 16

def name : Protocol → String
  | route => "NETLINK_ROUTE"
  | userSocket => "NETLINK_USERSOCK"
  | firewall => "NETLINK_FIREWALL"
  | socketDiagnosis => "NETLINK_SOCK_DIAG"
  | netfilterLog => "NETLINK_NFLOG"
  | transform => "NETLINK_XFRM"
  | selinux => "NETLINK_SELINUX"
  | iscsi => "NETLINK_ISCSI"
  | audit => "NETLINK_AUDIT"
  | fibLookup => "NETLINK_FIB_LOOKUP"
  | connector => "NETLINK_CONNECTOR"
  | netfilter => "NETLINK_NETFILTER"
  | ip6Firewall => "NETLINK_IP6_FW"
  | decnetRouting => "NETLINK_DNRTMSG"
  | kobjectEvent => "NETLINK_KOBJECT_UEVENT"
  | generic => "NETLINK_GENERIC"

def all : List Protocol :=
  [route, userSocket, firewall, socketDiagnosis, netfilterLog, transform, selinux, iscsi, audit,
    fibLookup, connector, netfilter, ip6Firewall, decnetRouting, kobjectEvent, generic]

def ofNumber? (n : Int32) : Option Protocol :=
  all.find? fun p => p.number == n

theorem ofNumber?_number (p : Protocol) : ofNumber? p.number = some p := by
  cases p <;> decide

theorem number_of_ofNumber? {n : Int32} {p : Protocol} (h : ofNumber? n = some p) :
    p.number = n := by
  simpa using List.find?_some h

end Protocol

/-- What a build contains: the routing protocol or nothing. -/
inductive Build
  | withRoute
  | bare
  deriving DecidableEq, Repr

def Build.contains : Build → Protocol → Bool
  | .withRoute, .route => true
  | _, _ => false

end NetlinkSocket
