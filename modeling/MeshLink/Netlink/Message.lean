import MeshLink.Netlink.Attribute
set_option autoImplicit false

/-! # Messages

Every message starts with sixteen octets: its length, its type, its flags, its sequence number and
the number of its sender. -/

namespace MeshLink.Netlink

/-- The length of the header of a message. -/
def headerLength : Nat := 16

/-! ## The types of message that the library sends or reads -/

namespace MessageType

/-- The kernel's `NLMSG_NOOP`. -/
def noop : UInt16 := 1

/-- The kernel's `NLMSG_ERROR`. -/
def error : UInt16 := 2

/-- The kernel's `NLMSG_DONE`. -/
def done : UInt16 := 3

/-- The kernel's `NLMSG_OVERRUN`. -/
def overrun : UInt16 := 4

/-- The kernel's `RTM_NEWADDR`. -/
def newAddress : UInt16 := 20

/-- The kernel's `RTM_DELADDR`. -/
def delAddress : UInt16 := 21

/-- The kernel's `RTM_GETADDR`. -/
def getAddress : UInt16 := 22

end MessageType

/-! ## The flags of a message -/

namespace MessageFlag

/-- The kernel's `NLM_F_REQUEST`. -/
def request : UInt16 := 0x1

/-- The kernel's `NLM_F_ACK`. -/
def acknowledge : UInt16 := 0x4

/-- The kernel's `NLM_F_REPLACE`. -/
def replace : UInt16 := 0x100

/-- The kernel's `NLM_F_CREATE`. -/
def create : UInt16 := 0x400

/-- The reply quotes no more than the header of the request. -/
def capped : UInt16 := 0x100

end MessageFlag

/-- A message of a type, with the number of the sender left zero; the length counts all of it. -/
def message (type flags : UInt16) (seq : UInt32) (payload : List UInt8) : List UInt8 :=
  bytes32 (UInt32.ofNat (headerLength + payload.length)) ++ bytes16 type ++ bytes16 flags ++
    bytes32 seq ++ bytes32 0 ++ payload

end MeshLink.Netlink
