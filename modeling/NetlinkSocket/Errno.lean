import NetlinkSocket.Text.Quoted

/-!
Error numbers of the socket layer, in ascending order, and the two texts of an error: the one
shown to a user and the one shown to a developer.
-/

namespace NetlinkSocket

inductive Errno
  | badDescriptor
  | tryAgain
  | outOfMemory
  | busy
  | invalidArgument
  | brokenPipe
  | protocolUnsupported
  | operationUnsupported
  | familyUnsupported
  deriving DecidableEq, Repr, Inhabited

namespace Errno

def number : Errno → Nat
  | badDescriptor => 9
  | tryAgain => 11
  | outOfMemory => 12
  | busy => 16
  | invalidArgument => 22
  | brokenPipe => 32
  | protocolUnsupported => 93
  | operationUnsupported => 95
  | familyUnsupported => 97

def name : Errno → String
  | badDescriptor => "EBADF"
  | tryAgain => "EAGAIN"
  | outOfMemory => "ENOMEM"
  | busy => "EBUSY"
  | invalidArgument => "EINVAL"
  | brokenPipe => "EPIPE"
  | protocolUnsupported => "EPROTONOSUPPORT"
  | operationUnsupported => "EOPNOTSUPP"
  | familyUnsupported => "EAFNOSUPPORT"

def all : List Errno :=
  [badDescriptor, tryAgain, outOfMemory, busy, invalidArgument, brokenPipe, protocolUnsupported,
    operationUnsupported, familyUnsupported]

def ofName? (s : String) : Option Errno :=
  all.find? fun e => e.name == s

instance : Ord Errno where
  compare a b := compare a.number b.number

theorem number_injective {a b : Errno} (h : a.number = b.number) : a = b := by
  cases a <;> cases b <;> simp_all [number]

theorem number_lt (e : Errno) : e.number < 98 := by
  cases e <;> decide

def describe (e : Errno) : Option String → String
  | none => e.name
  | some message => e.name ++ ": " ++ message

def inspect (e : Errno) (message : Option String) : String :=
  let text := match message with
    | none => "None"
    | some message => "Some(" ++ Text.quote message ++ ")"
  "Error \x7b errno: " ++ e.name ++ ", msg: " ++ text ++ " \x7d"

end Errno

end NetlinkSocket
