import MeshLink.Netlink.AddressRequest
set_option autoImplicit false

/-! # Replies

What the kernel answers to a request, as far as the sender of the request looks into it: the number
of the request, and whether the reply is an error message, with its code. An error message without a
code is an acknowledgement.

Any message of the kernel may be read from the socket for requests, so a decoder has to know all of
them. Nothing here depends on how it does that: the decoder is a parameter (`Decoder`), and what it
is documented to make of the octets is said apart from it (`Decoder.Documented`). -/

namespace MeshLink.Netlink

/-- An error code of a reply. It is not zero, which stands for success. -/
abbrev ErrorCode := { code : Int32 // code ≠ 0 }

/-- The code that a word of an error message stands for, unless it is zero. -/
def ErrorCode.of? (code : Int32) : Option ErrorCode :=
  if nonzero : code ≠ 0 then some ⟨code, nonzero⟩ else none

/-- What a message carries behind its header. -/
inductive Payload
  | error (code : Option ErrorCode)
  /-- A message of any other type. -/
  | other
deriving DecidableEq

/-- A message that could be read: the sequence number in its header, and its payload. -/
structure Reply where
  seq : UInt32
  payload : Payload
deriving DecidableEq

/-- A decoder of the messages of a route socket. -/
class Decoder where
  /-- Reads a datagram, unless it is no message. -/
  decode? : List UInt8 → Option Reply

/-- What a decoder is documented to do with a datagram that it reads: it takes the sequence number
    from the third word, and it reads a message of the type of errors, and no other, as an error
    message whose code is the word behind the header. -/
structure Decoder.Documented [Decoder] : Prop where
  seq : ∀ {content : List UInt8} {r : Reply}, decode? content = some r →
    word32? (content.drop 8) = some r.seq
  error : ∀ {content : List UInt8} {r : Reply}, decode? content = some r →
    word16? (content.drop 4) = some MessageType.error →
      ∃ code : Int32, word32? (content.drop headerLength) = some code.toUInt32 ∧
        r.payload = .error (ErrorCode.of? code)
  other : ∀ {content : List UInt8} {r : Reply}, decode? content = some r →
    word16? (content.drop 4) ≠ some MessageType.error → r.payload = .other

/-- The acknowledgement of a request: the code, zero or a negated error number, and the header of
    the request, whose sequence number and sender it repeats. -/
def acknowledgement (request : List UInt8) (code : Int32) : List UInt8 :=
  bytes32 36 ++ bytes16 MessageType.error ++ bytes16 MessageFlag.capped ++
    (request.drop 8).take 8 ++ bytes32 code.toUInt32 ++ request.take headerLength

end MeshLink.Netlink
