import MeshLink.Controller.Operation
set_option autoImplicit false

/-! # Controllers and hosts that are alike

A controller knows its host by the answers it gets. Two hosts whose states are related in such a way
that they answer alike and stay related lead a controller to the same results, whatever it is asked
to do. Not all of an answer matters: of an addition only whether the address is there afterwards,
and of a removal, a join or a leave nothing at all (`Alike`).

Neither does all of a controller matter to what it does. Controllers that agree in what their
operations look at, and that no operation drives apart (`Controller.Congruence`), stay alike on
hosts that are alike (`Alike.apply`). -/

namespace MeshLink

/-! ## Actions in step -/

/-- Started in related states, two actions give related values and end in related states. -/
def InStep {σ τ α β : Type} (Q : σ → τ → Prop) (A : α → β → Prop) (x : StateM σ α)
    (y : StateM τ β) : Prop :=
  ∀ s t, Q s t → A (x s).1 (y t).1 ∧ Q (x s).2 (y t).2

namespace InStep

variable {σ τ α β γ δ ι : Type} {Q : σ → τ → Prop} {A : α → β → Prop} {B : γ → δ → Prop}

theorem pure {a : α} {b : β} (h : A a b) : InStep Q A (Pure.pure a) (Pure.pure b) :=
  fun _ _ related => ⟨h, related⟩

theorem bind {x : StateM σ α} {y : StateM τ β} {f : α → StateM σ γ} {g : β → StateM τ δ}
    (first : InStep Q A x y) (next : ∀ a b, A a b → InStep Q B (f a) (g b)) :
    InStep Q B (x >>= f) (y >>= g) := by
  intro s t related
  obtain ⟨values, states⟩ := first s t related
  exact next _ _ values _ _ states

/-- Loops whose rounds are in step are in step. -/
theorem foldlM {f : α → ι → StateM σ α} {g : β → ι → StateM τ β}
    (round : ∀ a b i, A a b → InStep Q A (f a i) (g b i)) (is : List ι) {a : α} {b : β}
    (h : A a b) : InStep Q A (is.foldlM f a) (is.foldlM g b) := by
  induction is generalizing a b with
  | nil => exact pure h
  | cons i is ih =>
      rw [List.foldlM_cons, List.foldlM_cons]
      exact (round a b i h).bind fun _ _ => ih

theorem forM {f : ι → StateM σ Unit} {g : ι → StateM τ Unit}
    (round : ∀ i, InStep Q Eq (f i) (g i)) (is : List ι) :
    InStep Q Eq (is.forM f) (is.forM g) := by
  induction is with
  | nil => exact pure rfl
  | cons i is ih => exact (round i).bind fun _ _ _ => ih

end InStep

/-! ## Requests as one action -/

namespace LinkM

variable {σ : Type} [Host σ]

/-- Asks for an address under the next number. -/
def addition (a : LinkAddress) (ifIndex : UInt32) : LinkM σ KernelResult := do
  let seq ← takeSequence
  let now ← onHost Host.now
  onHost (Host.send (Netlink.newAddress seq (.of a ifIndex now)) seq)

/-- Asks for the removal of an address under the next number. -/
def removal (a : LinkAddress) (ifIndex : UInt32) : LinkM σ KernelResult := do
  let seq ← takeSequence
  onHost (Host.send (Netlink.delAddress seq a.address a.length ifIndex) seq)

end LinkM

namespace Controller

/-- Related controllers agree in all that their operations look at, and whatever an operation does
    to both of them leaves them related. Routes and on-mesh networks are not looked at. -/
structure Congruence (A : Controller → Controller → Prop) : Prop where
  config {c d : Controller} : A c d → c.config = d.config
  state {c d : Controller} : A c d → c.state = d.state
  resources {c d : Controller} : A c d → c.resources = d.resources
  addresses {c d : Controller} : A c d → c.inventory.addresses = d.inventory.addresses
  groups {c d : Controller} : A c d → c.groups = d.groups
  remember {c d : Controller} (a : LinkAddress) : A c d → A (c.remember a) (d.remember a)
  forget {c d : Controller} (a : LinkAddress) : A c d → A (c.forget a) (d.forget a)
  /-- All routes and on-mesh networks are forgotten. -/
  unroute {c d : Controller} : A c d →
    A { c.inventory.routes.foldl forgetRoute c with onMesh := [] }
      { d.inventory.routes.foldl forgetRoute d with onMesh := [] }
  enter {c d : Controller} (state : Lifecycle) : A c d →
    A { c with state := state } { d with state := state }
  hold {c d : Controller} (resources : Option Resources) : A c d →
    A { c with resources := resources } { d with resources := resources }
  regroup {c d : Controller} (groups : List Ipv6) : A c d →
    A { c with groups := groups } { d with groups := groups }
  prefixes {c d : Controller} (snapshot : List PrefixReport) : A c d →
    A (c.updatePrefixes snapshot) (d.updatePrefixes snapshot)

theorem Congruence.refl : Congruence Eq := by
  constructor
  all_goals
    intros
    subst_vars
    rfl

/-- Two operations end with the same result, in controllers that are related. -/
def Concur (A : Controller → Controller → Prop) (x y : ControllerResult × Controller) : Prop :=
  x.1 = y.1 ∧ A x.2 y.2

end Controller

open Controller in
/-- What two controllers share is related so that it answers them alike. -/
structure Alike {σ τ : Type} [Host σ] [Host τ] (Q : Shared σ → Shared τ → Prop) : Prop where
  now : InStep Q Eq (LinkM.onHost Host.now) (LinkM.onHost Host.now)
  lookup (name : String) : InStep Q Eq (LinkM.onHost (Host.interfaceIndex name))
    (LinkM.onHost (Host.interfaceIndex name))
  openRoutes : InStep Q Eq (LinkM.onHost Host.openRoutes) (LinkM.onHost Host.openRoutes)
  openGroups (ifIndex : UInt32) : InStep Q Eq (LinkM.onHost (Host.openGroups ifIndex))
    (LinkM.onHost (Host.openGroups ifIndex))
  addition (a : LinkAddress) (ifIndex : UInt32) :
    InStep Q (fun o p => isAccepted o = isAccepted p) (LinkM.addition a ifIndex)
      (LinkM.addition a ifIndex)
  removal (a : LinkAddress) (ifIndex : UInt32) :
    InStep Q (fun _ _ => True) (LinkM.removal a ifIndex) (LinkM.removal a ifIndex)
  join (g : Ipv6) (ifIndex : UInt32) : InStep Q (fun _ _ => True)
    (LinkM.onHost (Membership.join ⟨ifIndex⟩ g)) (LinkM.onHost (Membership.join ⟨ifIndex⟩ g))
  leave (g : Ipv6) (ifIndex : UInt32) : InStep Q (fun _ _ => True)
    (LinkM.onHost (Membership.leave ⟨ifIndex⟩ g)) (LinkM.onHost (Membership.leave ⟨ifIndex⟩ g))
  setLink (name : String) (up : Bool) : InStep Q Eq (LinkM.onHost (Host.setLink name up))
    (LinkM.onHost (Host.setLink name up))
  close (h : Handle) : InStep Q Eq (LinkM.onHost (Host.close h)) (LinkM.onHost (Host.close h))

theorem Alike.refl {σ : Type} [Host σ] : Alike (σ := σ) Eq := by
  have same : ∀ {α : Type} {A : α → α → Prop} (x : LinkM σ α), (∀ a, A a a) →
      InStep Eq A x x := by
    rintro α A x holds s _ rfl
    exact ⟨holds _, rfl⟩
  constructor
  all_goals
    intros
    exact same _ fun _ => by trivial

namespace Alike

open Controller

variable {σ τ : Type} [Host σ] [Host τ] {Q : Shared σ → Shared τ → Prop} (alike : Alike Q)
  {A : Controller → Controller → Prop} (cong : Congruence A) {c d : Controller}
include alike cong

theorem addAddress (h : A c d) (a : LinkAddress) :
    InStep Q A (c.addAddress a) (d.addAddress a) := by
  have same := cong.resources h
  cases held : d.resources with
  | none =>
      rw [held] at same
      simp only [Controller.addAddress, held, same]
      exact .pure h
  | some r =>
      rw [held] at same
      have asked := (alike.addition a r.ifIndex).bind (B := A)
        (f := fun o => return if isAccepted o then c.remember a else c)
        (g := fun o => return if isAccepted o then d.remember a else d) ?_
      · simpa only [Controller.addAddress, held, same, LinkM.addition, bind_assoc] using asked
      · intro o p accepted
        refine .pure ?_
        rw [accepted]
        split
        · exact cong.remember a h
        · exact h

theorem removeAddress (h : A c d) (a : LinkAddress) :
    InStep Q A (c.removeAddress a) (d.removeAddress a) := by
  have kept : ∀ c : Controller, (c.forget a).resources = c.resources := fun _ => rfl
  have same := cong.resources h
  cases held : d.resources with
  | none =>
      rw [held] at same
      simp only [Controller.removeAddress, kept, held, same]
      exact .pure (cong.forget a h)
  | some r =>
      rw [held] at same
      have asked := (alike.removal a r.ifIndex).bind (B := A)
        (f := fun _ => return c.forget a) (g := fun _ => return d.forget a)
        fun _ _ _ => .pure (cong.forget a h)
      simpa only [Controller.removeAddress, kept, held, same, LinkM.removal, bind_assoc]
        using asked

theorem joinGroup (h : A c d) (g : Ipv6) : InStep Q Eq (c.joinGroup g) (d.joinGroup g) := by
  rw [Controller.joinGroup, Controller.joinGroup, cong.resources h]
  split
  · exact .pure rfl
  · exact (alike.join g _).bind fun _ _ _ => .pure rfl

theorem leaveGroup (h : A c d) (g : Ipv6) : InStep Q Eq (c.leaveGroup g) (d.leaveGroup g) := by
  rw [Controller.leaveGroup, Controller.leaveGroup, cong.resources h]
  split
  · exact .pure rfl
  · exact (alike.leave g _).bind fun _ _ _ => .pure rfl

theorem strip (h : A c d) : InStep Q A c.strip d.strip := by
  rw [Controller.strip, Controller.strip, cong.addresses h]
  refine (InStep.foldlM (fun _ _ a h => alike.removeAddress cong h a) _ h).bind ?_
  exact fun _ _ h => .pure (cong.unroute h)

theorem release (h : A c d) : InStep Q A c.release d.release := by
  rw [Controller.release, Controller.release, cong.resources h]
  split
  · exact .pure h
  · exact (alike.close _).bind fun _ _ _ => (alike.close _).bind fun _ _ _ =>
      (alike.close _).bind fun _ _ _ => .pure (cong.hold none h)

omit cong in
theorem abandon (h : A c d) (held : List Handle) (e : ControllerError) :
    InStep Q (Concur A) (c.abandon held e) (d.abandon held e) :=
  (InStep.forM alike.close held).bind fun _ _ _ => .pure ⟨rfl, h⟩

theorem start (h : A c d) (device : Device) :
    InStep Q (Concur A) (c.start device) (d.start device) := by
  obtain ⟨config, state, resources, inventory, groups, onMesh⟩ := c
  obtain ⟨config', state', resources', inventory', groups', onMesh'⟩ := d
  obtain rfl : config = config' := cong.config h
  obtain rfl : state = state' := cong.state h
  rw [Controller.start, Controller.start]
  split
  · exact alike.abandon h _ _
  split
  · exact alike.abandon h _ _
  refine (alike.lookup _).bind ?_
  rintro (e | ifIndex) _ rfl
  · exact alike.abandon h _ _
  refine alike.openRoutes.bind ?_
  rintro (e | _) _ rfl
  · exact alike.abandon h _ _
  refine (alike.openGroups _).bind ?_
  rintro (e | _) _ rfl
  · exact alike.abandon h _ _
  · exact .pure ⟨rfl, cong.hold (some ⟨device, ifIndex⟩) (cong.enter .initialized h)⟩

/-- Switching the link, which counts if the host goes along. -/
theorem switch (h : A c d) (up : Bool) (state : Lifecycle) : InStep Q (Concur A)
    (do
      match ← LinkM.onHost (Host.setLink c.config.interface up) with
      | .error e => return (.error (.linkState c.config.interface up e), c)
      | .ok () => return (.ok (), { c with state := state }))
    (do
      match ← LinkM.onHost (Host.setLink d.config.interface up) with
      | .error e => return (.error (.linkState d.config.interface up e), d)
      | .ok () => return (.ok (), { d with state := state })) := by
  have entered := cong.enter state h
  rw [cong.config h] at *
  refine (alike.setLink _ _).bind ?_
  rintro (e | _) _ rfl
  · exact .pure ⟨rfl, h⟩
  · exact .pure ⟨rfl, entered⟩

theorem setUp (h : A c d) (up : Bool) : InStep Q (Concur A) (c.setUp up) (d.setUp up) := by
  rw [Controller.setUp, Controller.setUp, cong.state h]
  split
  · exact .pure ⟨rfl, h⟩
  cases up with
  | true => exact alike.switch cong h true .up
  | false =>
      refine (alike.strip cong h).bind fun _ _ h => ?_
      exact (InStep.pure (cong.enter .down h)).bind fun _ _ h => alike.switch cong h false .down

theorem updateAddresses (h : A c d) (snapshot : List AddressReport) :
    InStep Q A (c.updateAddresses snapshot) (d.updateAddresses snapshot) := by
  rw [Controller.updateAddresses, Controller.updateAddresses, cong.resources h, cong.addresses h]
  split
  · exact .pure h
  refine alike.now.bind ?_
  rintro now _ rfl
  refine (InStep.foldlM (fun _ _ a h => alike.removeAddress cong h a) _ h).bind fun c d h => ?_
  refine (InStep.foldlM (fun _ _ a h => alike.addAddress cong h a) _ h).bind fun c d h => ?_
  rw [cong.groups h]
  refine (InStep.forM (alike.leaveGroup cong h) _).bind fun _ _ _ => ?_
  exact (InStep.forM (alike.joinGroup cong h) _).bind fun _ _ _ => .pure (cong.regroup _ h)

theorem destroy (h : A c d) : InStep Q A c.destroy d.destroy := by
  have released : ∀ {c d : Controller}, A c d → InStep Q A
      (do let c ← c.release; return { c with state := .destroyed })
      (do let d ← d.release; return { d with state := .destroyed }) := by
    intro c d h
    exact (alike.release cong h).bind fun _ _ h => .pure (cong.enter _ h)
  rw [Controller.destroy, Controller.destroy, cong.state h, cong.resources h]
  split
  · exact .pure h
  split
  · exact (alike.strip cong h).bind fun _ _ => released
  · exact released h

/-- **Controllers that are alike** come to the same on hosts that answer alike, and stay alike,
    whatever they are asked to do. -/
theorem apply (h : A c d) (op : Operation) : InStep Q (Concur A) (c.apply op) (d.apply op) := by
  have succeeding : ∀ {x : LinkM σ Controller} {y : LinkM τ Controller}, InStep Q A x y →
      InStep Q (Concur A) (do return (.ok (), ← x)) (do return (.ok (), ← y)) := by
    intro x y same
    exact same.bind fun _ _ h => .pure ⟨rfl, h⟩
  cases op with
  | start device => exact alike.start cong h device
  | setUp up => exact alike.setUp cong h up
  | addresses snapshot => exact succeeding (alike.updateAddresses cong h snapshot)
  | prefixes snapshot => exact .pure ⟨rfl, cong.prefixes snapshot h⟩
  | daemonDied =>
      exact succeeding ((alike.setUp cong h false).bind fun _ _ same => .pure same.2)
  | destroy => exact succeeding (alike.destroy cong h)

omit cong in
/-- **Hosts that answer alike** lead a controller to the same, whatever it is asked to do. -/
theorem apply_self (c : Controller) (op : Operation) : InStep Q Eq (c.apply op) (c.apply op) := by
  intro s t related
  obtain ⟨same, states⟩ := alike.apply .refl (rfl : c = c) op s t related
  exact ⟨Prod.ext same.1 same.2, states⟩

end Alike
end MeshLink
