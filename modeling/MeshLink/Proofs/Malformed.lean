import MeshLink.Proofs.Prefixes
set_option autoImplicit false

/-! # Malformed entries

An entry of a snapshot that cannot be used is dropped before anything else looks at the snapshot. So
malformed entries, wherever they are put in and whatever flags they carry, leave the usable entries
as they are, in their order (`Cluttered.filterMap_eq`), and an operation on a cluttered snapshot is
the operation on the tidy one (`Controller.apply_cluttered`). What a run does, it does with and
without them. -/

namespace MeshLink

/-! ## Cluttered lists -/

/-- The second list is the first one with bad things put in between. -/
inductive Cluttered {α : Type} (bad : α → Prop) : List α → List α → Prop
  | nil : Cluttered bad [] []
  | keep {x : α} {xs ys : List α} : Cluttered bad xs ys → Cluttered bad (x :: xs) (x :: ys)
  | clutter {y : α} {xs ys : List α} : bad y → Cluttered bad xs ys → Cluttered bad xs (y :: ys)

/-- What is made of the things of a list only is not disturbed by things that nothing is made of. -/
theorem Cluttered.filterMap_eq {α β : Type} {bad : α → Prop} {f : α → Option β} {xs ys : List α}
    (cluttered : Cluttered bad xs ys) (unused : ∀ y, bad y → f y = none) :
    ys.filterMap f = xs.filterMap f := by
  induction cluttered with
  | nil => rfl
  | keep _ ih => rw [List.filterMap_cons, List.filterMap_cons, ih]
  | clutter isBad _ ih => rw [List.filterMap_cons, unused _ isBad, ih]

/-- The entry has more octets than an address, or its length is not that of a prefix. -/
def PrefixReport.Malformed (r : PrefixReport) : Prop :=
  16 < r.octets.length ∨ 128 < r.length.toNat

theorem PrefixReport.net_eq_none_iff {r : PrefixReport} :
    r.net.toOption = none ↔ r.Malformed := by
  rw [net, Malformed]
  by_cases many : 16 < r.octets.length
  · rw [if_pos many]
    exact iff_of_true rfl (.inl many)
  · rw [if_neg many]
    by_cases long : Net.maxLength < r.length
    · rw [if_pos long]
      exact iff_of_true rfl (.inr long)
    · rw [if_neg long]
      exact iff_of_false nofun fun malformed => malformed.elim many long

theorem AddressReport.entries_cluttered {snapshot snapshot' : List AddressReport}
    (cluttered : Cluttered AddressReport.Malformed snapshot snapshot') :
    entries snapshot' = entries snapshot :=
  cluttered.filterMap_eq fun _ => AddressReport.validate_eq_none_iff.2

theorem PrefixReport.nets_cluttered {snapshot snapshot' : List PrefixReport}
    (cluttered : Cluttered PrefixReport.Malformed snapshot snapshot') :
    nets snapshot' = nets snapshot :=
  cluttered.filterMap_eq fun _ => net_eq_none_iff.2

/-! ## Operations and steps -/

/-- The second operation is the first one, with malformed entries put into its snapshot if it has
    one. -/
inductive Operation.Cluttered : Operation → Operation → Prop
  | same (op : Operation) : Operation.Cluttered op op
  | addresses {snapshot snapshot' : List AddressReport} :
      MeshLink.Cluttered AddressReport.Malformed snapshot snapshot' →
      Operation.Cluttered (.addresses snapshot) (.addresses snapshot')
  | prefixes {snapshot snapshot' : List PrefixReport} :
      MeshLink.Cluttered PrefixReport.Malformed snapshot snapshot' →
      Operation.Cluttered (.prefixes snapshot) (.prefixes snapshot')

/-- Malformed entries make no difference to an operation. -/
theorem Controller.apply_cluttered {σ : Type} [Host σ] {op op' : Operation}
    (cluttered : op.Cluttered op') (c : Controller) :
    (c.apply op' : LinkM σ (ControllerResult × Controller)) = c.apply op := by
  cases cluttered with
  | same => rfl
  | addresses clutter =>
      rw [apply, apply, updateAddresses, updateAddresses,
        AddressReport.entries_cluttered clutter]
  | prefixes clutter =>
      rw [apply, apply, updatePrefixes, updatePrefixes, PrefixReport.nets_cluttered clutter]

/-- Malformed entries may have been put into the snapshot of the step. -/
inductive FleetStep.Cluttered {σ : Type} : FleetStep σ → FleetStep σ → Prop
  | same (step : FleetStep σ) : FleetStep.Cluttered step step
  | operate (member : Nat) {op op' : Operation} : op.Cluttered op' →
      FleetStep.Cluttered (.operate member op) (.operate member op')

theorem Fleet.act_cluttered {σ : Type} [Host σ] {step step' : FleetStep σ}
    (cluttered : step.Cluttered step') (f : Fleet σ) : f.act step' = f.act step := by
  cases cluttered with
  | same => rfl
  | operate member clutter =>
      have same := fun c : Controller =>
        Controller.apply_cluttered (σ := Recorded σ) clutter c
      simp only [act, answer, Fleet.step, Fleet.operate, same]

/-- Malformed entries may have been put into the snapshot of the step. -/
inductive SessionStep.Cluttered : SessionStep → SessionStep → Prop
  | same (step : SessionStep) : SessionStep.Cluttered step step
  | operate (target : Nat) {op op' : Operation} : op.Cluttered op' →
      SessionStep.Cluttered (.operate target op) (.operate target op')

theorem Session.step_cluttered {step step' : SessionStep} (cluttered : step.Cluttered step')
    (s : Session) : s.step step' = s.step step := by
  cases cluttered with
  | same => rfl
  | operate target clutter =>
      have same := fun c : Controller =>
        Controller.apply_cluttered (σ := SessionHost) clutter c
      simp only [Session.step, Session.operate, same]

/-- **Malformed entries are invisible.** Putting them into the snapshots of a run, of however many
    controllers, whatever else is done and whatever the host answers, changes no answer and no
    state: no stage of life, no mirror and not its order, no counter and no call in the log. -/
theorem malformed_entries_invisible :
    (∀ {σ : Type} [Host σ] (f : Fleet σ) (steps steps' : List (FleetStep σ)),
      List.Forall₂ FleetStep.Cluttered steps steps' →
      List.Forall₂ (Moment.Matches FleetStep.Cluttered)
        (moments Fleet.act f steps) (moments Fleet.act f steps')) ∧
    ∀ (s : Session) (steps steps' : List SessionStep),
      List.Forall₂ SessionStep.Cluttered steps steps' →
      List.Forall₂ (Moment.Matches SessionStep.Cluttered)
        (moments Session.step s steps) (moments Session.step s steps') := by
  constructor
  · intro σ _ f steps steps' cluttered
    exact moments_matches Fleet.act (fun _ _ like f => Fleet.act_cluttered like f) cluttered f
  · intro s steps steps' cluttered
    exact moments_matches Session.step (fun _ _ like s => Session.step_cluttered like s) cluttered s

/-- A malformed entry that claims to be an active OMR address does not deprecate the mesh-local one
    next to it. -/
theorem malformed_entries_invisible_beside_mesh_local :
    let meshLocal : AddressReport := ⟨List.replicate 16 0xfd, 64, true, false, true⟩
    let short : AddressReport := ⟨[0x20, 0x01], 64, false, true, true⟩
    let long : AddressReport := ⟨List.replicate 16 0x20, 129, false, true, true⟩
    let s := Session.new [(.default, 3)] 1000
    let steps : List SessionStep := [.start 0 none, .operate 0 (.addresses [meshLocal])]
    let steps' : List SessionStep :=
      [.start 0 none, .operate 0 (.addresses [short, meshLocal, long])]
    List.Forall₂ SessionStep.Cluttered steps steps' ∧
      List.Forall₂ (Moment.Matches SessionStep.Cluttered)
        (moments Session.step s steps) (moments Session.step s steps') ∧
      ((moments Session.step s steps').map fun m =>
        m.after.members.map (·.controller.inventory.addresses.map (·.deprecation))) =
          [[[]], [[.permanent]]] := by
  intro meshLocal short long s steps steps'
  have cluttered : List.Forall₂ SessionStep.Cluttered steps steps' :=
    .cons (.same _) (.cons (.operate 0 (.addresses
      (.clutter (.inl (by decide)) (.keep (.clutter (.inr (by decide)) .nil))))) .nil)
  exact ⟨cluttered, malformed_entries_invisible.2 s steps steps' cluttered, by decide +kernel⟩

end MeshLink
