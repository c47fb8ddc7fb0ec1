import MeshLink.Controller.Operation
import MeshLink.Proofs.Dialogue
set_option autoImplicit false

/-! # Requests of a controller

The operations of a controller are made of two kinds of request about an address. A `Request` says
what was asked, what the host answered and, for an addition, what the clock showed. What a list of
requests means has two sides: what the controller remembers afterwards (`Controller.after`), and
the dialogue with the host (`Request.dialogue`), in which every request takes the next number.
`foldlM_removeAddress` and `foldlM_addAddress` say that the loops of the controller are such lists,
whatever the host answers. -/

namespace MeshLink

/-! ## Running actions on what is shared -/

namespace LinkM

variable {σ α β : Type}

theorem pure_run (a : α) (s : Shared σ) : (pure a : LinkM σ α) s = (a, s) := rfl

theorem bind_run (x : LinkM σ α) (f : α → LinkM σ β) (s : Shared σ) :
    (x >>= f) s = f (x s).1 (x s).2 := rfl

theorem onHost_run (action : StateM σ α) (s : Shared σ) :
    onHost action s = ((action s.host).1, { s with host := (action s.host).2 }) := rfl

end LinkM

/-! ## Requests -/

/-- A request about an address, as it went. -/
inductive Request
  /-- An addition, made when the clock showed a time. -/
  | addition (address : LinkAddress) (time : Int64) (outcome : KernelResult)
  | removal (address : LinkAddress) (outcome : KernelResult)

namespace Request

/-- What the request is about. -/
def address : Request → LinkAddress
  | .addition a .. => a
  | .removal a _ => a

/-- What the host answered. -/
def outcome : Request → KernelResult
  | .addition _ _ o => o
  | .removal _ o => o

/-- Whether the request asks for a removal. -/
def isRemoval : Request → Bool
  | .addition .. => false
  | .removal .. => true

theorem eq_removal {q : Request} (h : q.isRemoval = true) : ∃ a o, q = .removal a o := by
  cases q with
  | addition a time o => exact absurd h Bool.false_ne_true
  | removal a o => exact ⟨a, o, rfl⟩

theorem eq_addition {q : Request} (h : q.isRemoval = false) :
    ∃ a time o, q = .addition a time o := by
  cases q with
  | addition a time o => exact ⟨a, time, o, rfl⟩
  | removal a o => exact absurd h.symm Bool.false_ne_true

/-- Whether the request is an addition after which the address is there. -/
def isGranted : Request → Bool
  | .addition _ _ o => Controller.isAccepted o
  | .removal .. => false

/-- An addition is granted if it succeeds or the address is there already. -/
theorem isGranted_iff {q : Request} (addition : q.isRemoval = false) :
    q.isGranted = true ↔ q.outcome = .ok () ∨ q.outcome = .error .alreadyPresent := by
  obtain ⟨a, time, o, rfl⟩ := eq_addition addition
  match o with
  | .ok () => simp [isGranted, outcome, Controller.isAccepted]
  | .error e => cases e <;> simp [isGranted, outcome, Controller.isAccepted]

/-- The octets of the request. -/
def message (ifIndex seq : UInt32) : Request → List UInt8
  | .addition a time _ => Netlink.newAddress seq (.of a ifIndex time)
  | .removal a _ => Netlink.delAddress seq a.address a.length ifIndex

/-- The call that makes the request. -/
def call (ifIndex seq : UInt32) (q : Request) : Call :=
  .send (q.message ifIndex seq) seq q.outcome

/-- What the host sees of the request; before an addition the clock is read. -/
def exchanges (ifIndex seq : UInt32) : Request → List Exchange
  | .addition a time o => [.clock time, .call ((addition a time o).call ifIndex seq)]
  | .removal a o => [.call ((removal a o).call ifIndex seq)]

/-- The calls of requests that are made one after another, the first with the given number. -/
def calls (ifIndex : UInt32) : UInt32 → List Request → List Call
  | _, [] => []
  | seq, q :: qs => q.call ifIndex seq :: calls ifIndex (seq + 1) qs

/-- What the host sees of requests that are made one after another. -/
def dialogue (ifIndex : UInt32) : UInt32 → List Request → List Exchange
  | _, [] => []
  | seq, q :: qs => q.exchanges ifIndex seq ++ dialogue ifIndex (seq + 1) qs

theorem filterMap_dialogue (ifIndex seq : UInt32) (qs : List Request) :
    (dialogue ifIndex seq qs).filterMap Exchange.call? = calls ifIndex seq qs := by
  induction qs generalizing seq with
  | nil => rfl
  | cons q qs ih => cases q <;> exact congrArg (_ :: ·) (ih (seq + 1))

theorem number_succ (seq : UInt32) (n : Nat) :
    seq + 1 + UInt32.ofNat n = seq + UInt32.ofNat (n + 1) := by
  rw [UInt32.ofNat_add, UInt32.add_comm (UInt32.ofNat n), ← UInt32.add_assoc]
  rfl

theorem dialogue_append (ifIndex seq : UInt32) (ps qs : List Request) :
    dialogue ifIndex seq (ps ++ qs) =
      dialogue ifIndex seq ps ++ dialogue ifIndex (seq + UInt32.ofNat ps.length) qs := by
  induction ps generalizing seq with
  | nil => simp [dialogue]
  | cons p ps ih =>
      rw [List.cons_append, dialogue, dialogue, ih, List.append_assoc, List.length_cons,
        number_succ]

theorem calls_append (ifIndex seq : UInt32) (ps qs : List Request) :
    calls ifIndex seq (ps ++ qs) =
      calls ifIndex seq ps ++ calls ifIndex (seq + UInt32.ofNat ps.length) qs := by
  rw [← filterMap_dialogue, dialogue_append, List.filterMap_append, filterMap_dialogue,
    filterMap_dialogue]

end Request

/-- Requests are made one after another: each takes the next number, and the host answers as they
    say. -/
structure Issues {σ : Type} [Host σ] (ifIndex : UInt32) (s : Shared σ) (qs : List Request)
    (s' : Shared σ) : Prop where
  sequence : s'.sequence = s.sequence + UInt32.ofNat qs.length
  dialogue : Dialogue s.host (Request.dialogue ifIndex s.sequence qs) s'.host

namespace Issues

variable {σ : Type} [Host σ] {ifIndex : UInt32} {s s' s'' : Shared σ} {ps qs : List Request}

theorem nil (s : Shared σ) : Issues ifIndex s [] s where
  sequence := (UInt32.add_zero _).symm
  dialogue := .nil _

theorem append (first : Issues ifIndex s ps s') (second : Issues ifIndex s' qs s'') :
    Issues ifIndex s (ps ++ qs) s'' where
  sequence := by
    rw [second.sequence, first.sequence, List.length_append, UInt32.ofNat_add, UInt32.add_assoc]
  dialogue := by
    rw [Request.dialogue_append, ← first.sequence]
    exact first.dialogue.append second.dialogue

end Issues

namespace Controller

/-! ## What is remembered after requests -/

/-- The controller after a request; an addition is remembered only if it was granted. -/
def afterRequest (c : Controller) : Request → Controller
  | .addition a _ o => if isAccepted o then c.remember a else c
  | .removal a _ => c.forget a

/-- The controller after requests that are made one after another. -/
def after (c : Controller) (qs : List Request) : Controller :=
  qs.foldl afterRequest c

@[simp] theorem after_nil (c : Controller) : c.after [] = c := rfl

theorem after_cons (c : Controller) (q : Request) (qs : List Request) :
    c.after (q :: qs) = (c.afterRequest q).after qs := rfl

theorem after_append (c : Controller) (ps qs : List Request) :
    c.after (ps ++ qs) = (c.after ps).after qs :=
  List.foldl_append

theorem resources_after (c : Controller) (qs : List Request) :
    (c.after qs).resources = c.resources := by
  induction qs generalizing c with
  | nil => rfl
  | cons q qs ih =>
      rw [after_cons, ih]
      cases q with
      | addition a time o => rw [afterRequest]; split <;> rfl
      | removal a o => rfl

/-! ## The loops of the controller -/

variable {σ : Type} [Host σ] {r : Resources}

theorem addAddress_spec {c : Controller} (hr : c.resources = some r) (a : LinkAddress)
    (s : Shared σ) :
    ∃ q : Request, q.address = a ∧ q.isRemoval = false ∧
      (c.addAddress a s).1 = c.after [q] ∧ Issues r.ifIndex s [q] (c.addAddress a s).2 := by
  let read := Host.now s.host
  let answer := Host.send (Netlink.newAddress s.sequence (.of a r.ifIndex read.1)) s.sequence read.2
  have run : c.addAddress a s =
      (if isAccepted answer.1 then c.remember a else c, ⟨s.sequence + 1, answer.2⟩) := by
    rw [addAddress, hr]
    rfl
  rw [run]
  refine ⟨.addition a read.1 answer.1, rfl, rfl, rfl, rfl, ?_⟩
  exact .cons rfl (.single rfl)

theorem removeAddress_spec {c : Controller} (hr : c.resources = some r) (a : LinkAddress)
    (s : Shared σ) :
    ∃ q : Request, q.address = a ∧ q.isRemoval = true ∧
      (c.removeAddress a s).1 = c.after [q] ∧ Issues r.ifIndex s [q] (c.removeAddress a s).2 := by
  let answer := Host.send (Netlink.delAddress s.sequence a.address a.length r.ifIndex) s.sequence
    s.host
  have run : c.removeAddress a s = (c.forget a, ⟨s.sequence + 1, answer.2⟩) := by
    have hr' : (c.forget a).resources = some r := hr
    rw [removeAddress, hr']
    rfl
  rw [run]
  exact ⟨.removal a answer.1, rfl, rfl, rfl, rfl, .single rfl⟩

/-- A loop whose every round is a request of one kind is a list of requests of that kind. -/
theorem foldlM_spec {round : Controller → LinkAddress → LinkM σ Controller} {removal : Bool}
    (spec : ∀ {c : Controller}, c.resources = some r → ∀ (a : LinkAddress) (s : Shared σ),
      ∃ q : Request, q.address = a ∧ q.isRemoval = removal ∧
        (round c a s).1 = c.after [q] ∧ Issues r.ifIndex s [q] (round c a s).2)
    {c : Controller} (hr : c.resources = some r) (as : List LinkAddress) (s : Shared σ) :
    ∃ qs : List Request, qs.map Request.address = as ∧ (∀ q ∈ qs, q.isRemoval = removal) ∧
      (as.foldlM round c s).1 = c.after qs ∧ Issues r.ifIndex s qs (as.foldlM round c s).2 := by
  induction as generalizing c s with
  | nil => exact ⟨[], rfl, by simp, rfl, .nil s⟩
  | cons a as ih =>
      obtain ⟨q, rfl, hq, hc, first⟩ := spec hr a s
      -- A request leaves the resources, so the next round is one too.
      have hr' : (round c q.address s).1.resources = some r := by rw [hc, resources_after, hr]
      obtain ⟨qs, rfl, hqs, hcs, rest⟩ := ih hr' (round c q.address s).2
      have run : (q.address :: qs.map Request.address).foldlM round c s =
          (qs.map Request.address).foldlM round (round c q.address s).1 (round c q.address s).2 :=
        rfl
      rw [run]
      refine ⟨q :: qs, rfl, ?_, ?_, first.append rest⟩
      · intro p hp
        rcases List.mem_cons.1 hp with rfl | hp
        · exact hq
        · exact hqs p hp
      · rw [hcs, hc, ← after_append]
        rfl

theorem foldlM_addAddress {c : Controller} (hr : c.resources = some r) (as : List LinkAddress)
    (s : Shared σ) :
    ∃ qs : List Request, qs.map Request.address = as ∧ (∀ q ∈ qs, q.isRemoval = false) ∧
      (as.foldlM addAddress c s).1 = c.after qs ∧
      Issues r.ifIndex s qs (as.foldlM addAddress c s).2 :=
  foldlM_spec addAddress_spec hr as s

theorem foldlM_removeAddress {c : Controller} (hr : c.resources = some r) (as : List LinkAddress)
    (s : Shared σ) :
    ∃ qs : List Request, qs.map Request.address = as ∧ (∀ q ∈ qs, q.isRemoval = true) ∧
      (as.foldlM removeAddress c s).1 = c.after qs ∧
      Issues r.ifIndex s qs (as.foldlM removeAddress c s).2 :=
  foldlM_spec removeAddress_spec hr as s

end Controller
end MeshLink
