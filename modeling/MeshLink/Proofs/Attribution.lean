import Mathlib.Data.List.Forall2
import MeshLink.Machine.Session
import MeshLink.Proofs.SideBySide
set_option autoImplicit false

/-! # Which request a reply answers

A socket for requests has a queue of replies, and what one request leaves there is found by the next
one. Requests are told apart by their sequence numbers: a reply is taken for the answer to a request
only if it carries its number (`Netlink.IsReply`), and all that stands before it in the queue is
passed over. This is shown of one wait by induction on the reads that are left
(`Acknowledgement.await_of_own`, `await_of_foreign`, `await_error`).

The decoder is any that reads replies as documented (`Netlink.Decoder.Documented`). It decides which
datagrams can be read; what they are then taken for is said of their octets.

Over a run the queue has to stay one of datagrams that were received, with no failed read and no
end of the stream among them (`Machine.Clean`). Whatever is done about a request, all it puts into
the queue is the kernel's acknowledgement (`Machine.write_replies`), so it does. -/

namespace MeshLink

/-! ## What a reply tells -/

namespace Netlink

/-- The octets can be read and carry the number of a request. -/
def IsReply [Decoder] (seq : UInt32) (content : List UInt8) : Prop :=
  (Decoder.decode? content).isSome = true ∧ word32? (content.drop 8) = some seq

instance [Decoder] (seq : UInt32) (content : List UInt8) : Decidable (IsReply seq content) :=
  inferInstanceAs (Decidable (_ ∧ _))

/-- The octets are those of an error message with this code. -/
def IsError (content : List UInt8) (code : Int32) : Prop :=
  word16? (content.drop 4) = some MessageType.error ∧
    word32? (content.drop headerLength) = some code.toUInt32

/-- The result is the one that a reply tells by its octets. It is a success unless they are an error
    message with a code other than zero, and the code is a negated error number. -/
structure Tells (content : List UInt8) (result : KernelResult) : Prop where
  success : (∀ code, IsError content code → code = 0) → result = .ok ()
  failure : ∀ code : Int32, IsError content code → code ≠ 0 →
    ∀ e : Errno, e.toInt = -code.toInt → result = .error (.ofErrno e)

theorem neg_eq_of_toInt {code e : Int32} (negated : e.toInt = -code.toInt) : -code = e := by
  apply Int32.toInt_inj.1
  rw [Int32.toInt_neg, ← negated]
  exact e.toInt_bmod

variable [Decoder]

/-- What a reply is taken for is what its octets tell. -/
theorem Decoder.Documented.tells (documented : Decoder.Documented) {content : List UInt8}
    {r : Reply} (read : Decoder.decode? content = some r) :
    Tells content (Acknowledgement.verdict r.payload) where
  success uncoded := by
    by_cases isError : word16? (content.drop 4) = some MessageType.error
    · obtain ⟨code, word, carries⟩ := documented.error read isError
      have zero : code = 0 := uncoded code ⟨isError, word⟩
      rw [carries, ErrorCode.of?, dif_neg (not_not_intro zero)]
      rfl
    · rw [documented.other read isError]
      rfl
  failure := by
    rintro code ⟨isError, word⟩ nonzero e negated
    obtain ⟨code', word', carries⟩ := documented.error read isError
    obtain rfl : code' = code := by
      have same := congrArg UInt32.toInt32 (Option.some.inj (word'.symm.trans word))
      rwa [Int32.toInt32_toUInt32, Int32.toInt32_toUInt32] at same
    rw [carries, ErrorCode.of?, dif_pos nonzero, Acknowledgement.verdict, neg_eq_of_toInt negated]

end Netlink

open Netlink (Decoder IsReply)

/-! ## Datagrams -/

namespace Datagram

/-- It was received: it is not empty and fits into the buffer. -/
def Received : Datagram → Prop
  | .bytes content => content ≠ [] ∧ content.length ≤ Acknowledgement.bufferSize
  | .failure _ => False

instance : DecidablePred Received
  | .bytes content =>
    inferInstanceAs (Decidable (content ≠ [] ∧ content.length ≤ Acknowledgement.bufferSize))
  | .failure _ => inferInstanceAs (Decidable False)

theorem received_acknowledgement (request : List UInt8) (code : Int32) :
    (Datagram.bytes (Netlink.acknowledgement request code)).Received := by
  constructor
  · exact List.cons_ne_nil _ _
  · simp [Netlink.acknowledgement, Acknowledgement.bufferSize, Netlink.headerLength]
    omega

variable [Decoder]

/-- It says nothing about the request of a number: it cannot be read, or it carries another one. -/
def IsForeign (seq : UInt32) : Datagram → Prop
  | .bytes content => ¬ IsReply seq content
  | .failure _ => False

instance (seq : UInt32) : DecidablePred (IsForeign seq)
  | .bytes content => inferInstanceAs (Decidable (¬ IsReply seq content))
  | .failure _ => inferInstanceAs (Decidable False)

/-- Both are the same, or neither says anything about the request. -/
def Alike (seq : UInt32) (d d' : Datagram) : Prop :=
  d = d' ∨ d.IsForeign seq ∧ d'.IsForeign seq

theorem Received.cases {d : Datagram} (received : d.Received) (seq : UInt32) :
    d.IsForeign seq ∨ ∃ content, d = .bytes content ∧ IsReply seq content := by
  match d, received with
  | .bytes content, _ =>
      by_cases own : IsReply seq content
      · exact .inr ⟨content, rfl, own⟩
      · exact .inl own

end Datagram

/-! ## Waiting -/

namespace Acknowledgement

variable [Decoder] {seq : UInt32} {queue : List Datagram}

theorem outcome?_of_received {content : List UInt8} (received : (Datagram.bytes content).Received) :
    outcome? seq (.bytes content) = (Decoder.decode? content).bind fun r =>
      if r.seq ≠ seq then none else some (verdict r.payload) := by
  rw [outcome?, List.take_of_length_le received.2]
  · cases Decoder.decode? content <;> rfl
  · exact received.1

theorem outcome?_of_foreign (documented : Decoder.Documented) {d : Datagram}
    (received : d.Received) (foreign : d.IsForeign seq) : outcome? seq d = none := by
  match d, received with
  | .bytes content, received =>
      rw [outcome?_of_received received]
      cases read : Decoder.decode? content with
      | none => rfl
      | some r =>
          have other : r.seq ≠ seq := by
            rintro rfl
            exact foreign ⟨Option.isSome_iff_exists.2 ⟨r, read⟩, documented.seq read⟩
          exact if_pos other

theorem outcome?_of_own (documented : Decoder.Documented) {content : List UInt8}
    (received : (Datagram.bytes content).Received) (own : IsReply seq content) :
    ∃ result, outcome? seq (.bytes content) = some result ∧ Netlink.Tells content result := by
  obtain ⟨readable, number⟩ := own
  obtain ⟨r, read⟩ := Option.isSome_iff_exists.1 readable
  have same : r.seq = seq := Option.some.inj ((documented.seq read).symm.trans number)
  refine ⟨verdict r.payload, ?_, documented.tells read⟩
  rw [outcome?_of_received received, read]
  exact if_neg (not_not_intro same)

theorem await_of_foreign (documented : Decoder.Documented) (reads : Nat)
    (received : ∀ d ∈ queue, d.Received) (foreign : ∀ d ∈ queue.take reads, d.IsForeign seq) :
    await seq reads queue = (.ok (), min reads (queue.length + 1), queue.drop reads) := by
  induction reads generalizing queue with
  | zero => rw [Nat.zero_min]; rfl
  | succ reads ih =>
      cases queue with
      | nil => simp [await]
      | cons d queue =>
          obtain ⟨first, others⟩ := List.forall_mem_cons.1 received
          rw [List.take_succ_cons] at foreign
          obtain ⟨passed, foreign⟩ := List.forall_mem_cons.1 foreign
          rw [await, outcome?_of_foreign documented first passed, ih others foreign]
          simp

theorem await_of_own (documented : Decoder.Documented) {passed rest : List Datagram}
    {content : List UInt8} {reads : Nat} (within : passed.length < reads)
    (received : ∀ d ∈ passed ++ .bytes content :: rest, d.Received)
    (foreign : ∀ d ∈ passed, d.IsForeign seq) (own : IsReply seq content) :
    ∃ result, await seq reads (passed ++ .bytes content :: rest) =
      (result, passed.length + 1, rest) ∧ Netlink.Tells content result := by
  obtain ⟨reads, rfl⟩ := Nat.exists_eq_succ_of_ne_zero (Nat.ne_zero_of_lt within)
  induction passed generalizing reads with
  | nil =>
      have last : (Datagram.bytes content).Received := received _ (List.mem_cons_self ..)
      obtain ⟨result, outcome, tells⟩ := outcome?_of_own documented last own
      refine ⟨result, ?_, tells⟩
      rw [List.nil_append, await, outcome]
      rfl
  | cons d passed ih =>
      -- Each reply that is passed over takes one of the reads.
      obtain ⟨first, others⟩ := List.forall_mem_cons.1 received
      obtain ⟨passes, foreign⟩ := List.forall_mem_cons.1 foreign
      rw [List.length_cons] at within
      have left : reads ≠ 0 := by omega
      obtain ⟨reads, rfl⟩ := Nat.exists_eq_succ_of_ne_zero left
      obtain ⟨result, later, tells⟩ := ih others foreign reads (by omega)
      refine ⟨result, ?_, tells⟩
      rw [List.cons_append, await, outcome?_of_foreign documented first passes, later]
      rfl

/-- Only a reply to the request itself makes it fail. -/
theorem await_error (documented : Decoder.Documented) {reads : Nat} {e : KernelError}
    (received : ∀ d ∈ queue, d.Received) (failed : (await seq reads queue).1 = .error e) :
    ∃ content, .bytes content ∈ queue.take reads ∧ IsReply seq content ∧
      Netlink.Tells content (.error e) := by
  induction reads generalizing queue with
  | zero => cases failed
  | succ reads ih =>
      cases queue with
      | nil => cases failed
      | cons d queue =>
          obtain ⟨first, others⟩ := List.forall_mem_cons.1 received
          rw [List.take_succ_cons]
          rcases first.cases seq with foreign | ⟨content, rfl, own⟩
          · rw [await, outcome?_of_foreign documented first foreign] at failed
            obtain ⟨content, there, tells⟩ := ih others failed
            exact ⟨content, List.mem_cons_of_mem _ there, tells⟩
          · obtain ⟨result, outcome, tells⟩ := outcome?_of_own documented first own
            rw [await, outcome] at failed
            exact ⟨content, List.mem_cons_self .., own, failed ▸ tells⟩

theorem outcome?_alike (documented : Decoder.Documented) {d d' : Datagram} (received : d.Received)
    (received' : d'.Received) (alike : d.Alike seq d') : outcome? seq d = outcome? seq d' := by
  rcases alike with rfl | ⟨foreign, foreign'⟩
  · rfl
  · rw [outcome?_of_foreign documented received foreign,
      outcome?_of_foreign documented received' foreign']

/-- What the other replies say makes no difference. -/
theorem await_alike (documented : Decoder.Documented) (reads : Nat) {queue' : List Datagram}
    (received : ∀ d ∈ queue, d.Received) (received' : ∀ d ∈ queue', d.Received)
    (alike : List.Forall₂ (Datagram.Alike seq) queue queue') :
    (await seq reads queue).1 = (await seq reads queue').1 ∧
      (await seq reads queue).2.1 = (await seq reads queue').2.1 := by
  induction reads generalizing queue queue' with
  | zero => exact ⟨rfl, rfl⟩
  | succ reads ih =>
      cases alike with
      | nil => exact ⟨rfl, rfl⟩
      | @cons d d' queue queue' like likes =>
          obtain ⟨first, others⟩ := List.forall_mem_cons.1 received
          obtain ⟨first', others'⟩ := List.forall_mem_cons.1 received'
          have same := ih others others' likes
          rw [await, await, outcome?_alike documented first first' like]
          cases outcome? seq d' with
          | none => exact ⟨same.1, congrArg (· + 1) same.2⟩
          | some result => exact ⟨rfl, rfl⟩

theorem await_suffix (seq : UInt32) (reads : Nat) (queue : List Datagram) :
    (await seq reads queue).2.2 <:+ queue := by
  induction reads generalizing queue with
  | zero => exact List.suffix_rfl
  | succ reads ih =>
      cases queue with
      | nil => exact List.suffix_rfl
      | cons d queue =>
          rw [await]
          cases outcome? seq d with
          | none => exact (ih queue).trans (List.suffix_cons d queue)
          | some result => exact List.suffix_cons d queue

/-- How a wait ends, by the queue that it finds: with the first reply to the request if it stands
    among those that may be read, and all that stands up to it is used up; otherwise with success,
    after as many reads as there may be or at the end of the queue. No other reply makes it fail,
    and none makes a difference. -/
structure Attributed (seq : UInt32) (queue : List Datagram) (answer : KernelResult × Nat)
    (left : List Datagram) : Prop where
  own : ∀ (passed : List Datagram) (content : List UInt8) (rest : List Datagram),
    queue = passed ++ .bytes content :: rest → passed.length < maxReads →
    (∀ d ∈ passed, d.IsForeign seq) → IsReply seq content →
    Netlink.Tells content answer.1 ∧ answer.2 = passed.length + 1 ∧ left = rest
  foreign : (∀ d ∈ queue.take maxReads, d.IsForeign seq) →
    answer = (.ok (), min maxReads (queue.length + 1)) ∧ left = queue.drop maxReads
  failure : ∀ e, answer.1 = .error e → ∃ content, .bytes content ∈ queue.take maxReads ∧
    IsReply seq content ∧ Netlink.Tells content (.error e)
  alike : ∀ queue' : List Datagram, (∀ d ∈ queue', d.Received) →
    List.Forall₂ (Datagram.Alike seq) queue queue' →
    ∃ left', await seq maxReads queue' = (answer.1, answer.2, left')

theorem attributed_await (documented : Decoder.Documented) (received : ∀ d ∈ queue, d.Received) :
    Attributed seq queue ((await seq maxReads queue).1, (await seq maxReads queue).2.1)
      (await seq maxReads queue).2.2 where
  own passed content rest split within foreign own := by
    subst split
    obtain ⟨result, waited, tells⟩ := await_of_own documented within received foreign own
    rw [waited]
    exact ⟨tells, rfl, rfl⟩
  foreign foreign := by
    rw [await_of_foreign documented maxReads received foreign]
    exact ⟨rfl, rfl⟩
  failure _ failed := await_error documented received failed
  alike queue' received' alike := by
    obtain ⟨result, reads⟩ := await_alike documented maxReads received received' alike
    exact ⟨(await seq maxReads queue').2.2, Prod.ext result.symm (Prod.ext reads.symm rfl)⟩

end Acknowledgement

/-! ## Sending -/

namespace Machine

theorem bind_run {α β : Type} (x : StateM Machine α) (f : α → StateM Machine β) (m : Machine) :
    (x >>= f).run m = (f (x.run m).1).run (x.run m).2 := rfl

/-- What comes of a request: the write fails, or it is too short, or a reply is awaited. -/
theorem send_run [Decoder] (message : List UInt8) (seq : UInt32) (m : Machine) :
    (send message seq).run m =
      match (write message).run.run m with
      | (.error e, m') => ((.error (.ofCallError e), 0), m')
      | (.ok n, m') =>
        if n = message.length then (awaitReply seq).run m'
        else ((.error (.partialWrite n message.length), 0), m') := by
  rw [send, bind_run]
  match (write message).run.run m with
  | (.error e, m') => rfl
  | (.ok n, m') =>
      by_cases whole : n = message.length
      · simp only [if_pos whole]
      · simp only [if_neg whole]
        rfl

/-- An action that leaves the queue of replies alone. -/
def KeepsReplies (action : SystemM Unit) : Prop :=
  ∀ m, (action.run.run m).2.replies = m.replies

theorem KeepsReplies.ofState {f : Machine → SystemM Unit} (h : ∀ s, KeepsReplies (f s)) :
    KeepsReplies (get >>= f) :=
  fun m => h m m

theorem act_keepsReplies (a : Netlink.AddressMessage) : KeepsReplies (act a) := by
  unfold act
  split
  · exact fun _ => rfl
  · refine .ofState fun s => ?_
    dsimp only
    split
    · split
      · exact fun _ => rfl
      · split
        exacts [fun _ => rfl, fun _ => rfl]
    · split
      · split
        exacts [fun _ => rfl, fun _ => rfl]
      · exact fun _ => rfl

/-- The kernel queues nothing but an acknowledgement. -/
theorem receive_replies (message : List UInt8) (m : Machine) :
    ∃ answers : List Datagram,
      (∀ d ∈ answers, ∃ code, d = .bytes (Netlink.acknowledgement message code)) ∧
      ((receive message).run m).2.replies = m.replies ++ answers := by
  have current : StateT.run (get : StateM Machine Machine) m = (m, m) := rfl
  rw [receive, bind_run, current]
  by_cases responsive : m.responsive = true
  · rw [if_pos responsive]
    dsimp only
    cases Netlink.AddressMessage.decode? message with
    | none => exact ⟨[_], List.forall_mem_singleton.2 ⟨_, rfl⟩, rfl⟩
    | some a =>
        exact ⟨[_], List.forall_mem_singleton.2 ⟨_, rfl⟩, congrArg (· ++ _) (act_keepsReplies a m)⟩
  · rw [if_neg responsive]
    exact ⟨[], List.forall_mem_nil _, (List.append_nil _).symm⟩

/-- The machine once a write has been noted and its scripted outcome taken. -/
def noted (message : List UInt8) (m : Machine) : Machine :=
  { m with writes := m.writes.tail, events := .send message :: m.events }

theorem write_run (message : List UInt8) (m : Machine) :
    (write message).run.run m =
      match m.writes.head?.join with
      | some (.errno e) => (.error (.os e), m.noted message)
      | some (.written n) => (.ok n, m.noted message)
      | none => (.ok message.length, ((receive message).run (m.noted message)).2) := by
  show (match m.writes.head?.join with
    | some (.errno e) => refuse e
    | some (.written n) => pure n
    | none => do
      receive message
      pure message.length : SystemM Nat).run.run (m.noted message) = _
  match m.writes.head?.join with
  | some (.errno e) => rfl
  | some (.written n) => rfl
  | none => rfl

theorem write_replies (message : List UInt8) (m : Machine) :
    ∃ answers : List Datagram,
      (∀ d ∈ answers, ∃ code, d = .bytes (Netlink.acknowledgement message code)) ∧
      ((write message).run.run m).2.replies = m.replies ++ answers := by
  have silent : m.replies = m.replies ++ [] := (List.append_nil _).symm
  rw [write_run]
  match m.writes.head?.join with
  | some (.errno e) => exact ⟨[], List.forall_mem_nil _, silent⟩
  | some (.written n) => exact ⟨[], List.forall_mem_nil _, silent⟩
  | none => exact receive_replies message (m.noted message)

/-- All that is queued was received. -/
def Clean (m : Machine) : Prop :=
  ∀ d ∈ m.replies, d.Received

end Machine

/-! ## Runs -/

/-- A request that is sent, and what happens to the machine before that. -/
structure RouteTurn where
  change : MachineChange
  message : List UInt8
  seq : UInt32

namespace RouteTurn

variable {m : Machine} {turn : RouteTurn}

/-- How much of the request is written, and the machine after that. -/
def written (turn : RouteTurn) (m : Machine) : Except CallError Nat × Machine :=
  (Machine.write turn.message).run.run (turn.change.apply m)

theorem written_replies (m : Machine) (turn : RouteTurn) :
    ∃ answers : List Datagram,
      (∀ d ∈ answers, ∃ code, d = .bytes (Netlink.acknowledgement turn.message code)) ∧
      (turn.written m).2.replies = m.replies ++ turn.change.replies ++ answers :=
  Machine.write_replies turn.message (turn.change.apply m)

theorem clean_written (clean : m.Clean) (received : ∀ d ∈ turn.change.replies, d.Received) :
    (turn.written m).2.Clean := by
  obtain ⟨answers, acknowledge, queued⟩ := turn.written_replies m
  rw [Machine.Clean, queued, List.forall_mem_append, List.forall_mem_append]
  refine ⟨⟨clean, received⟩, fun d there => ?_⟩
  obtain ⟨code, rfl⟩ := acknowledge d there
  exact Datagram.received_acknowledgement turn.message code

variable [Decoder]

/-- The request is sent. -/
def take (m : Machine) (turn : RouteTurn) : (KernelResult × Nat) × Machine :=
  (Machine.send turn.message turn.seq).run (turn.change.apply m)

theorem take_eq (m : Machine) (turn : RouteTurn) :
    take m turn =
      match turn.written m with
      | (.error e, m') => ((.error (.ofCallError e), 0), m')
      | (.ok n, m') =>
        if n = turn.message.length then (Machine.awaitReply turn.seq).run m'
        else ((.error (.partialWrite n turn.message.length), 0), m') :=
  Machine.send_run turn.message turn.seq (turn.change.apply m)

/-- What comes of a request: nothing is read if it was not written as a whole, and else a reply is
    awaited from the queue that the write leaves. -/
structure Ends (turn : RouteTurn) (m : Machine) (answer : KernelResult × Nat) (m' : Machine) :
    Prop where
  failed : ∀ e, (turn.written m).1 = .error e →
    answer = (.error (.ofCallError e), 0) ∧ m'.replies = (turn.written m).2.replies
  short : ∀ n, (turn.written m).1 = .ok n → n ≠ turn.message.length →
    answer = (.error (.partialWrite n turn.message.length), 0) ∧
      m'.replies = (turn.written m).2.replies
  awaited : (turn.written m).1 = .ok turn.message.length →
    Acknowledgement.Attributed turn.seq (turn.written m).2.replies answer m'.replies

theorem ends_take (documented : Decoder.Documented) (clean : m.Clean)
    (received : ∀ d ∈ turn.change.replies, d.Received) :
    turn.Ends m (take m turn).1 (take m turn).2 where
  failed e fails := by
    rw [take_eq]
    match turn.written m, fails with
    | (.error _, m'), rfl => exact ⟨rfl, rfl⟩
  short n writes short := by
    rw [take_eq]
    match turn.written m, writes with
    | (.ok _, m'), rfl =>
        dsimp only
        rw [if_neg short]
        exact ⟨rfl, rfl⟩
  awaited writes := by
    have queue := clean_written clean received
    rw [take_eq]
    match turn.written m, writes, queue with
    | (.ok _, m'), rfl, queue =>
        dsimp only
        rw [if_pos rfl]
        exact Acknowledgement.attributed_await documented queue

theorem clean_take (clean : m.Clean) (received : ∀ d ∈ turn.change.replies, d.Received) :
    (take m turn).2.Clean := by
  have queue := clean_written clean received
  rw [take_eq]
  match turn.written m, queue with
  | (.error e, m'), queue => exact queue
  | (.ok n, m'), queue =>
      dsimp only
      split
      · exact fun d left => queue d ((Acknowledgement.await_suffix _ _ m'.replies).mem left)
      · exact queue

end RouteTurn

/-- **A reply answers the request whose number it carries.** Requests are sent one after another
    over one socket, and between them anything may happen to the machine as long as what arrives was
    received. A request that is not written as a whole fails and reads nothing. Any other one waits
    (`Acknowledgement.Attributed`) on the queue that was there before, followed by what arrived and
    by the kernel's acknowledgement of this very request; and what a reply tells is told by its
    octets (`Netlink.Tells`), whatever decoder reads them as documented. -/
theorem replies_attributed [Decoder] (documented : Decoder.Documented) (m : Machine)
    (turns : List RouteTurn) (clean : m.Clean)
    (received : ∀ turn ∈ turns, ∀ d ∈ turn.change.replies, d.Received) :
    ∀ t ∈ moments RouteTurn.take m turns,
      (∃ answers : List Datagram,
        (∀ d ∈ answers, ∃ code, d = .bytes (Netlink.acknowledgement t.input.message code)) ∧
        (t.input.written t.before).2.replies =
          t.before.replies ++ t.input.change.replies ++ answers) ∧
      t.input.Ends t.before t.answer t.after := by
  intro t there
  obtain ⟨before, input, made⟩ := of_mem_moments clean
    (fun turn htn m clean => RouteTurn.clean_take clean (received turn htn)) there
  have ends := RouteTurn.ends_take documented before (received t.input input)
  rw [← made] at ends
  exact ⟨t.input.written_replies t.before, ends⟩

/-- The first request is cut short, and a failure that is told about it arrives all the same. The
    second request passes it over, takes its own answer and leaves what comes after that. -/
theorem replies_attributed_after_short_write :
    let request (seq : UInt32) := Netlink.delAddress seq (.padded [0xfd, 0x22]) 64 2
    let reply (seq : UInt32) (code : Int32) := Netlink.acknowledgement (request seq) code
    let change (n : Nat) (replies : List Datagram) : MachineChange :=
      ⟨none, none, none, some [some (.written n)], replies, false⟩
    let first : RouteTurn := ⟨change 3 [.bytes (reply 7 (-17))], request 7, 7⟩
    let second : RouteTurn :=
      ⟨change 44 [.bytes [1, 2], .bytes (reply 8 (-99)), .bytes (reply 9 0)], request 8, 8⟩
    let m : Machine := .idle []
    Decoder.Documented ∧ m.Clean ∧
      (∀ turn ∈ [first, second], ∀ d ∈ turn.change.replies, d.Received) ∧
      ∃ t ∈ moments RouteTurn.take m [first, second], t.input = second ∧
        t.answer = (.error .notPresent, 3) ∧ t.after.replies = [.bytes (reply 9 0)] := by
  intro request reply change first second m
  have clean : m.Clean := List.forall_mem_nil _
  have received : ∀ turn ∈ [first, second], ∀ d ∈ turn.change.replies, d.Received := by
    decide
  let t : Moment Machine RouteTurn (KernelResult × Nat) :=
    let m' := (RouteTurn.take m first).2
    ⟨m', second, (RouteTurn.take m' second).1, (RouteTurn.take m' second).2⟩
  have there : t ∈ moments RouteTurn.take m [first, second] :=
    List.mem_cons_of_mem _ (List.mem_cons_self ..)
  have attributed :=
    (replies_attributed Machine.documented m [first, second] clean received t there).2.awaited rfl
  obtain ⟨tells, reads, left⟩ := attributed.own [.bytes (reply 7 (-17)), .bytes [1, 2]]
    (reply 8 (-99)) [.bytes (reply 9 0)] rfl (by decide) (by decide) (by decide)
  have result : t.answer.1 = .error (.ofErrno 99) :=
    tells.failure (-99) ⟨by decide, by decide⟩ (by decide) 99 (by decide)
  exact ⟨Machine.documented, clean, received, t, there, rfl, Prod.ext result reads, left⟩

end MeshLink
