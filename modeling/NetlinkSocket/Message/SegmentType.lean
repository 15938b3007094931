/-!
The segment types known to the routing protocol. Some of them ask for a list of entries.
-/

namespace NetlinkSocket

inductive SegmentType
  | noop
  | error
  | done
  | overrun
  | newLink
  | deleteLink
  | getLink
  | setLink
  | newAddress
  | deleteAddress
  | getAddress
  | newRoute
  | deleteRoute
  | getRoute
  | getNeighbour
  deriving DecidableEq, Repr

namespace SegmentType

def number : SegmentType → UInt16
  | noop => 1
  | error => 2
  | done => 3
  | overrun => 4
  | newLink => 16
  | deleteLink => 17
  | getLink => 18
  | setLink => 19
  | newAddress => 20
  | deleteAddress => 21
  | getAddress => 22
  | newRoute => 24
  | deleteRoute => 25
  | getRoute => 26
  | getNeighbour => 30

def name : SegmentType → String
  | noop => "NOOP"
  | error => "ERROR"
  | done => "DONE"
  | overrun => "OVERRUN"
  | newLink => "NEWLINK"
  | deleteLink => "DELLINK"
  | getLink => "GETLINK"
  | setLink => "SETLINK"
  | newAddress => "NEWADDR"
  | deleteAddress => "DELADDR"
  | getAddress => "GETADDR"
  | newRoute => "NEWROUTE"
  | deleteRoute => "DELROUTE"
  | getRoute => "GETROUTE"
  | getNeighbour => "GETNEIGH"

def all : List SegmentType :=
  [noop, error, done, overrun, newLink, deleteLink, getLink, setLink, newAddress, deleteAddress,
    getAddress, newRoute, deleteRoute, getRoute, getNeighbour]

def ofNumber? (n : UInt16) : Option SegmentType :=
  all.find? fun t => t.number == n

theorem ofNumber?_number (t : SegmentType) : ofNumber? t.number = some t := by
  cases t <;> decide

theorem number_of_ofNumber? {n : UInt16} {t : SegmentType} (h : ofNumber? n = some t) :
    t.number = n := by
  simpa using List.find?_some h

def isGet : SegmentType → Bool
  | getLink | getAddress | getRoute | getNeighbour => true
  | _ => false

end SegmentType

end NetlinkSocket
