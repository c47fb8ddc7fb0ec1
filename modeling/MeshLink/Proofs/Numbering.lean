import MeshLink.Proofs.Course
import MeshLink.Proofs.Lifecycle
import MeshLink.Proofs.Repetition
set_option autoImplicit false

/-! # Numbers of requests

Every request takes the next number of its controller's counter, and nothing else takes one. So the
requests that are sent with the numbers of one counter count themselves, modulo 2^32, whatever is
answered.

`Numbered` relates the number before some calls to the number after them, as two stretches of a log
follow one another. An operation is such a stretch (`Transition.advances`), and an empty one where
it has nothing to ask for about addresses (`Transition.advances_silently`). -/

namespace MeshLink

/-! ## Numbers in a log -/

namespace Call

/-- Whether a call is a request, which takes a number. -/
def isRequest : Call → Bool
  | .send .. => true
  | _ => false

/-- The number of a request: the one that its octets carry and that it is answered under. -/
def number? : Call → Option UInt32
  | .send octets seq _ =>
    (Netlink.AddressMessage.decode? octets).bind fun m => if m.seq = seq then some seq else none
  | _ => none

theorem isRequest_of_quiet {c : Call} (quiet : (Exchange.call c).isQuiet = true) :
    c.isRequest = false := by
  cases c with
  | send octets seq outcome => exact absurd quiet Bool.false_ne_true
  | _ => rfl

end Call

/-- The requests about addresses in a log, in order. -/
def requestsIn (log : List Call) : List Call :=
  log.filter Call.isRequest

@[simp] theorem requestsIn_append (log calls : List Call) :
    requestsIn (log ++ calls) = requestsIn log ++ requestsIn calls :=
  List.filter_append log calls

theorem requestsIn_eq_nil {log : List Call} (none : ∀ c ∈ log, c.isRequest = false) :
    requestsIn log = [] := by
  refine List.filter_eq_nil_iff.2 fun c hc => ?_
  rw [none c hc]
  exact Bool.false_ne_true

/-- The requests of a log carry consecutive numbers from the first one on, and the last number is
    the one after them. -/
structure Numbered (first : UInt32) (log : List Call) (last : UInt32) : Prop where
  numbers : (requestsIn log).map Call.number? =
    (List.range (requestsIn log).length).map fun k => some (first + UInt32.ofNat k)
  last_eq : last = first + UInt32.ofNat (requestsIn log).length

namespace Numbered

variable {first middle last : UInt32} {log calls : List Call}

theorem of_silent (n : UInt32) (none : requestsIn log = []) : Numbered n log n where
  numbers := by rw [none]; rfl
  last_eq := by rw [none]; exact (UInt32.add_zero n).symm

theorem append (start : Numbered first log middle) (next : Numbered middle calls last) :
    Numbered first (log ++ calls) last where
  numbers := by
    rw [requestsIn_append, List.map_append, start.numbers, next.numbers, List.length_append,
      List.range_add, List.map_append, List.map_map, start.last_eq]
    simp only [Function.comp_def, UInt32.ofNat_add, UInt32.add_assoc]
  last_eq := by
    rw [next.last_eq, start.last_eq, requestsIn_append, List.length_append, UInt32.ofNat_add,
      UInt32.add_assoc]

theorem eq_of_silent (h : Numbered first log last) (none : requestsIn log = []) :
    last = first := by
  rw [h.last_eq, none]
  exact UInt32.add_zero first

/-- Counted from zero on, each number is that of the requests before it modulo 2^32. -/
theorem toNat_numbers (h : Numbered 0 log last) :
    (requestsIn log).map (fun c => c.number?.map UInt32.toNat) =
      (List.range (requestsIn log).length).map fun k => some (k % 2 ^ 32) := by
  have split : (fun c : Call => c.number?.map UInt32.toNat) =
      Option.map UInt32.toNat ∘ Call.number? := rfl
  rw [split, ← List.map_map, h.numbers, List.map_map]
  refine List.map_congr_left fun k _ => ?_
  simp only [Function.comp_apply, Option.map_some, UInt32.zero_add, UInt32.toNat_ofNat']

/-- The first 2^32 numbers are those from zero on, without gaps and repetitions. -/
theorem take_numbers (h : Numbered 0 log last) :
    ((requestsIn log).take (2 ^ 32)).map (fun c => c.number?.map UInt32.toNat) =
      (List.range (min (requestsIn log).length (2 ^ 32))).map some := by
  rw [List.map_take, h.toNat_numbers, ← List.map_take, List.take_range, Nat.min_comm]
  refine List.map_congr_left fun k hk => ?_
  have small : k < 2 ^ 32 := by
    have := List.mem_range.1 hk
    omega
  rw [Nat.mod_eq_of_lt small]

end Numbered

/-! ## Numbers of one operation -/

theorem Request.number?_call (ifIndex seq : UInt32) (q : Request) :
    (q.call ifIndex seq).number? = some seq := by
  simp only [call, Call.number?, q.decode?_message, Option.bind_some, reading_seq, if_true]

/-- Every request takes the next number. -/
theorem Request.numbered_calls (ifIndex seq : UInt32) (qs : List Request) :
    Numbered seq (calls ifIndex seq qs) (seq + UInt32.ofNat qs.length) := by
  induction qs generalizing seq with
  | nil => exact (UInt32.add_zero seq).symm ▸ Numbered.of_silent seq rfl
  | cons q qs ih =>
      have one : Numbered seq [q.call ifIndex seq] (seq + 1) := {
        numbers := by
          show [(q.call ifIndex seq).number?] = [some (seq + UInt32.ofNat 0)]
          rw [number?_call]
          exact congrArg (fun n => [some n]) (UInt32.add_zero seq).symm
        last_eq := rfl }
      rw [List.length_cons, ← number_succ]
      exact one.append (ih (seq + 1))

theorem Reconciliation.requestsIn_groupCalls (t : Reconciliation) :
    requestsIn t.groupCalls = [] := by
  refine requestsIn_eq_nil fun c hc => ?_
  rcases List.mem_append.1 hc with hc | hc
  · obtain ⟨l, -, rfl⟩ := List.mem_map.1 hc
    rfl
  · obtain ⟨j, -, rfl⟩ := List.mem_map.1 hc
    rfl

namespace Controller

variable {σ : Type} {c c' : Controller} {s s' s'' : Shared (Recorded σ)} {op : Operation}
  {result : ControllerResult} {log calls : List Call}

/-- The shared part moves on with these calls, whose requests take the next numbers. -/
structure Advances (s : Shared (Recorded σ)) (log : List Call) (s' : Shared (Recorded σ)) :
    Prop where
  calls_eq : s'.host.calls = s.host.calls ++ log
  numbered : Numbered s.sequence log s'.sequence

namespace Advances

theorem append (first : Advances s log s') (next : Advances s' calls s'') :
    Advances s (log ++ calls) s'' where
  calls_eq := by rw [next.calls_eq, first.calls_eq, List.append_assoc]
  numbered := first.numbered.append next.numbered

end Advances

variable [Host σ]

theorem Rests.advances {es : List Exchange} (rest : Rests s es s') :
    ∃ log, Advances s log s' ∧ requestsIn log = [] := by
  obtain ⟨log, calls, quiet⟩ := rest.exists_calls
  have silent : requestsIn log = [] :=
    requestsIn_eq_nil fun c hc => Call.isRequest_of_quiet (quiet c hc)
  refine ⟨log, ⟨calls, ?_⟩, silent⟩
  rw [rest.sequence]
  exact .of_silent _ silent

theorem Strips.advances {ifIndex : UInt32} {qs : List Request} (strip : c.Strips ifIndex s qs s') :
    Advances s (Request.calls ifIndex s.sequence qs) s' where
  calls_eq := strip.calls_eq
  numbered := by
    rw [strip.issues.sequence]
    exact Request.numbered_calls ifIndex s.sequence qs

theorem Reconciles.advances {snapshot : List AddressReport} {t : Reconciliation}
    (step : c.Reconciles snapshot s t s') : Advances s (t.calls s.sequence) s' where
  calls_eq := step.calls_eq
  numbered := by
    rw [step.sequence]
    exact (Request.numbered_calls t.ifIndex s.sequence t.requests).append
      (.of_silent _ t.requestsIn_groupCalls)

/-- An operation takes one number for each request that it sends. -/
theorem Transition.advances (t : c.Transition s op result c' s') : ∃ log, Advances s log s' := by
  cases t.deals with
  | rests rest =>
      obtain ⟨log, step, -⟩ := rest.advances
      exact ⟨log, step⟩
  | strips _ strip rest =>
      obtain ⟨log, step, -⟩ := rest.advances
      exact ⟨_, strip.advances.append step⟩
  | reconciles step => exact ⟨_, step.advances⟩

/-! ## Operations that take no number -/

/-- Operations that have nothing to ask for about addresses, at a time and with a result. -/
inductive Spares (c : Controller) (now : Int64) : Operation → ControllerResult → Prop
  | start {device : Device} {result : ControllerResult} : Spares c now (.start device) result
  | raise {result : ControllerResult} : Spares c now (.setUp true) result
  | prefixes {snapshot : List PrefixReport} {result : ControllerResult} :
      Spares c now (.prefixes snapshot) result
  | refused {op : Operation} {result : ControllerResult} :
      c.Refuses op result → Spares c now op result
  /-- The snapshot asks for what is mirrored; its groups may be others. -/
  | unchanged {snapshot : List AddressReport} {result : ControllerResult} :
      (∀ a, a ∈ desired snapshot now ↔ a ∈ c.inventory.addresses) →
      Spares c now (.addresses snapshot) result
  /-- Nothing is mirrored that would have to be removed. -/
  | bare {op : Operation} {result : ControllerResult} :
      c.inventory.addresses = [] → op = .setUp false ∨ op = .daemonDied ∨ op = .destroy →
      Spares c now op result

/-- Nothing is asked for where what is wanted is what is mirrored. -/
theorem Reconciles.requests_eq_nil {snapshot : List AddressReport} {t : Reconciliation}
    (step : c.Reconciles snapshot s t s')
    (unchanged : ∀ a, a ∈ desired snapshot (Host.now s.host).1 ↔ a ∈ c.inventory.addresses) :
    t.requests = [] := by
  rw [step.clock] at unchanged
  have removals : t.removals = [] := by
    rw [← List.map_eq_nil_iff (f := Request.address), step.removed, Diff.without_eq_nil]
    exact fun a mirrored => (unchanged a).2 mirrored
  have additions : t.additions = [] := by
    rw [← List.map_eq_nil_iff (f := Request.address), step.added, Diff.without_eq_nil]
    exact fun a wanted => (unchanged a).1 wanted
  rw [Reconciliation.requests, removals, additions, List.append_nil]

/-- An operation that has nothing to ask for sends no request. -/
theorem Transition.advances_silently (t : c.Transition s op result c' s') (staged : c.IsStaged)
    (spares : c.Spares (Host.now s.host).1 op result) :
    ∃ log, Advances s log s' ∧ requestsIn log = [] := by
  cases spares with
  | refused refused =>
      obtain ⟨-, es, rest⟩ := t.eq_of_refuses staged refused
      exact rest.advances
  | unchanged unchanged =>
      cases t.deals with
      | rests rest => exact rest.advances
      | strips teardown => simp at teardown
      | @reconciles _ t _ step =>
          refine ⟨_, step.advances, ?_⟩
          rw [Reconciliation.calls, step.requests_eq_nil unchanged]
          exact t.requestsIn_groupCalls
  | bare bare teardown =>
      cases t.deals with
      | rests rest => exact rest.advances
      | strips _ strip rest =>
          obtain ⟨log, step, silent⟩ := rest.advances
          have strips := strip.advances
          rw [List.map_eq_nil_iff.1 (strip.removed.trans bare)] at strips
          exact ⟨log, strips.append step, silent⟩
      | reconciles => simp at teardown
  | _ =>
      -- To start, to raise and to take on networks is not about addresses.
      cases t.deals with
      | rests rest => exact rest.advances
      | strips teardown => simp at teardown

end Controller
end MeshLink
