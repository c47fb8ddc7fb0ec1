import MeshLink.Kernel.Host
import MeshLink.Netlink.Reply
set_option autoImplicit false

/-! # Waiting for an acknowledgement

The kernel handles a request before the write returns, so its reply is already queued when it is
read. Replies to earlier requests may be queued before it; they are passed over, and so is what
cannot be read. At most sixteen datagrams are looked at for one request. -/

namespace MeshLink

/-- What a read of the socket for requests gives: a datagram, or the error number of its failure. -/
inductive Datagram
  | bytes (content : List UInt8)
  | failure (e : Errno)
deriving DecidableEq

namespace Acknowledgement

/-- How many reads a request may take. -/
def maxReads : Nat := 16

/-- How much of a datagram is read. -/
def bufferSize : Nat := 4096

/-- The outcome that a reply to a request tells: a code is a negated error number, and any reply
    without one means success. -/
def verdict : Netlink.Payload → KernelResult
  | .error (some code) => .error (.ofErrno (-code.val))
  | _ => .ok ()

variable [Netlink.Decoder]

/-- What a datagram says about a request: nothing, or its outcome. -/
def outcome? (seq : UInt32) : Datagram → Option KernelResult
  | .failure e => some (if e = Errno.wouldBlock then .ok () else .error (.ofErrno e))
  | .bytes [] => some (.ok ())
  | .bytes content =>
    match Netlink.Decoder.decode? (content.take bufferSize) with
    | none => none
    | some reply => if reply.seq ≠ seq then none else some (verdict reply.payload)

/-- Reads until a datagram tells the outcome of a request, the queue is empty or the reads are used
    up; the latter two count as success. Gives the outcome, the number of reads and what is left. -/
def await (seq : UInt32) : Nat → List Datagram → KernelResult × Nat × List Datagram
  | 0, queue => (.ok (), 0, queue)
  | _ + 1, [] => (.ok (), 1, [])
  | reads + 1, d :: queue =>
    match outcome? seq d with
    | some result => (result, 1, queue)
    | none =>
      let (result, n, rest) := await seq reads queue
      (result, n + 1, rest)

end Acknowledgement
end MeshLink
