import Mathlib.Data.List.Nodup
import MeshLink.Proofs.Transition
import MeshLink.Proofs.Wire
set_option autoImplicit false

/-! # Answers in a log

What a log of calls tells about one address and length. `answers` looks only at the octets that
were sent: a call counts if its message reads as a request of the given type about the given key.
The requests of a controller are found there one for one (`answers_requests`), so a statement about
a log needs nothing that the controller knows about itself. -/

namespace MeshLink

/-- The outcome of a call, if its message is a request of a type about a key. -/
def Call.answer? (type : UInt16) (key : Ipv6 × UInt8) : Call → Option KernelResult
  | .send octets _ outcome =>
    match Netlink.AddressMessage.decode? octets with
    | some m =>
      if m.type = type ∧ m.address = some key.1 ∧ m.length = key.2 then some outcome else none
    | none => none
  | _ => none

/-- The outcomes of the requests of a type about a key, in order. -/
def answers (type : UInt16) (key : Ipv6 × UInt8) (calls : List Call) : List KernelResult :=
  calls.filterMap (Call.answer? type key)

theorem answers_append (type : UInt16) (key : Ipv6 × UInt8) (cs ds : List Call) :
    answers type key (cs ++ ds) = answers type key cs ++ answers type key ds :=
  List.filterMap_append

/-- An answer is the outcome of a request that was sent. -/
theorem mem_answers {type : UInt16} {key : Ipv6 × UInt8} {calls : List Call}
    {outcome : KernelResult} (h : outcome ∈ answers type key calls) :
    ∃ octets seq, .send octets seq outcome ∈ calls := by
  obtain ⟨c, hc, told⟩ := List.mem_filterMap.1 h
  cases c with
  | send octets seq o =>
      have same : o = outcome := by
        dsimp only [Call.answer?] at told
        split at told
        · split at told
          · exact Option.some.inj told
          · exact absurd told (Option.some_ne_none outcome).symm
        · exact absurd told (Option.some_ne_none outcome).symm
      exact ⟨octets, seq, same ▸ hc⟩
  | _ => cases told

/-! ## Requests of a controller -/

namespace Request

/-- The type of the message that makes the request. -/
def type (q : Request) : UInt16 :=
  if q.isRemoval then Netlink.MessageType.delAddress else Netlink.MessageType.newAddress

/-- Whether the request is of a type and about a key. -/
def isAbout (type : UInt16) (key : Ipv6 × UInt8) (q : Request) : Bool :=
  q.type = type && q.address.key = key

/-- What the octets of the request say. -/
def reading (ifIndex seq : UInt32) (q : Request) : Netlink.AddressMessage :=
  match q with
  | .addition a time _ => {
      type := Netlink.MessageType.newAddress
      flags := Netlink.addFlags
      seq := seq
      family := Netlink.familyIpv6
      length := a.length
      addressFlags := a.flags.toUInt8
      scope := a.scope.code
      ifIndex := ifIndex
      address := some a.address
      lifetimes := some (a.deprecation.remaining time, a.expiration.remaining time)
      extendedFlags := some a.flags }
  | .removal a _ => {
      type := Netlink.MessageType.delAddress
      flags := Netlink.removeFlags
      seq := seq
      family := Netlink.familyIpv6
      length := a.length
      addressFlags := 0
      scope := 0
      ifIndex := ifIndex
      address := some a.address
      lifetimes := none
      extendedFlags := none }

theorem decode?_message (ifIndex seq : UInt32) (q : Request) :
    Netlink.AddressMessage.decode? (q.message ifIndex seq) = some (q.reading ifIndex seq) := by
  cases q with
  | addition a time outcome => exact Netlink.AddressMessage.decode?_newAddress seq _
  | removal a outcome => exact Netlink.AddressMessage.decode?_delAddress seq _ _ ifIndex

@[simp] theorem reading_type (ifIndex seq : UInt32) (q : Request) :
    (q.reading ifIndex seq).type = q.type := by
  cases q <;> rfl

@[simp] theorem reading_address (ifIndex seq : UInt32) (q : Request) :
    (q.reading ifIndex seq).address = some q.address.address := by
  cases q <;> rfl

@[simp] theorem reading_length (ifIndex seq : UInt32) (q : Request) :
    (q.reading ifIndex seq).length = q.address.length := by
  cases q <;> rfl

@[simp] theorem reading_ifIndex (ifIndex seq : UInt32) (q : Request) :
    (q.reading ifIndex seq).ifIndex = ifIndex := by
  cases q <;> rfl

@[simp] theorem reading_seq (ifIndex seq : UInt32) (q : Request) :
    (q.reading ifIndex seq).seq = seq := by
  cases q <;> rfl

theorem answer?_call (type : UInt16) (key : Ipv6 × UInt8) (ifIndex seq : UInt32) (q : Request) :
    (q.call ifIndex seq).answer? type key =
      if q.isAbout type key = true then some q.outcome else none := by
  have same : ((q.reading ifIndex seq).type = type ∧
      (q.reading ifIndex seq).address = some key.1 ∧ (q.reading ifIndex seq).length = key.2) ↔
      q.isAbout type key = true := by
    simp [isAbout, LinkAddress.key, Prod.ext_iff]
  rw [call, Call.answer?, decode?_message]
  exact if_congr same rfl rfl

/-- The answers to a list of requests are their outcomes. -/
theorem answers_requests (type : UInt16) (key : Ipv6 × UInt8) (ifIndex seq : UInt32)
    (qs : List Request) :
    answers type key (calls ifIndex seq qs) = (qs.filter (isAbout type key)).map outcome := by
  induction qs generalizing seq with
  | nil => rfl
  | cons q qs ih =>
      have rest := ih (seq + 1)
      rw [calls, answers, List.filterMap_cons, answer?_call, List.filter_cons]
      by_cases h : q.isAbout type key = true
      · rw [if_pos h, if_pos h, List.map_cons, ← rest]
        rfl
      · rw [if_neg h, if_neg h, ← rest]
        rfl

/-- With unique keys a request is the only one of its kind about its key. -/
theorem filter_isAbout_self {qs : List Request} (kind : Bool)
    (same : ∀ q ∈ qs, q.isRemoval = kind)
    (unique : LinkAddress.KeysUnique (qs.map address)) {q : Request} (hq : q ∈ qs) :
    qs.filter (isAbout q.type q.address.key) = [q] := by
  induction qs with
  | nil => exact absurd hq List.not_mem_nil
  | cons p ps ih =>
      obtain ⟨hp, hps⟩ := List.nodup_cons.1
        (show (p.address.key :: (ps.map address).map LinkAddress.key).Nodup from unique)
      have alike : ∀ o ∈ p :: ps, o.type = q.type := by
        intro o ho
        rw [type, type, same o ho, same q hq]
      rcases List.mem_cons.1 hq with rfl | hq
      · have others : ps.filter (isAbout q.type q.address.key) = [] := by
          refine List.filter_eq_nil_iff.2 fun o ho hk => hp ?_
          simp only [isAbout, Bool.and_eq_true, decide_eq_true_eq] at hk
          rw [← hk.2]
          exact List.mem_map_of_mem (List.mem_map_of_mem ho)
        rw [List.filter_cons_of_pos (by simp [isAbout]), others]
      · have other : p.isAbout q.type q.address.key = false := by
          refine Bool.eq_false_iff.2 fun hk => hp ?_
          simp only [isAbout, Bool.and_eq_true, decide_eq_true_eq] at hk
          rw [hk.2]
          exact List.mem_map_of_mem (List.mem_map_of_mem hq)
        rw [List.filter_cons_of_neg (by simp [other])]
        exact ih (fun o ho => same o (List.mem_cons_of_mem _ ho)) hps hq

end Request

theorem Reconciliation.answers_groupCalls (type : UInt16) (key : Ipv6 × UInt8)
    (t : Reconciliation) : answers type key t.groupCalls = [] := by
  refine List.filterMap_eq_nil_iff.2 ?_
  intro c hc
  rcases List.mem_append.1 hc with hc | hc
  · obtain ⟨l, -, rfl⟩ := List.mem_map.1 hc
    rfl
  · obtain ⟨j, -, rfl⟩ := List.mem_map.1 hc
    rfl

end MeshLink
