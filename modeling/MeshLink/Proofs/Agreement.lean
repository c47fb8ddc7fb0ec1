import MeshLink.Proofs.MemoryKernel
set_option autoImplicit false

/-! # Mirror and kernel

What a controller remembers and what its kernel holds, when nobody else changes the kernel. Adding
is remembered after the kernel has accepted it and removing before the kernel is asked, so the
mirror never claims too much, and what the kernel holds beyond it is what it failed to remove.

The invariant is `Agrees`. Each request keeps it (`Agrees.addition`, `Agrees.removal`), a removal
because it is about an address that is mirrored, the only one under its key; a change of an address
is a removal and an addition of one key, and either may fail. -/

namespace MeshLink

namespace Controller

/-- The mirror and the kernel agree up to removals that failed. -/
structure Agrees (c : Controller) (r : Recorded MemoryKernel) : Prop where
  carried : ∀ a ∈ c.inventory.addresses, a.key ∈ r.host.addresses
  /-- What the kernel holds beyond the mirror it was asked to remove, in vain the last time. -/
  leftBehind : ∀ key ∈ r.host.addresses, key ∉ c.inventory.addresses.map LinkAddress.key →
    ∃ e, (answers Netlink.MessageType.delAddress key r.calls).getLast? = some (.error e)
  groups : ∀ g, g ∈ r.host.groups ↔ g ∈ c.groups

namespace Agrees

variable {c c' : Controller} {r r' : Recorded MemoryKernel} {ifIndex seq : UInt32}

/-- The agreement is about addresses, groups and answers only. -/
theorem of_undisturbed (h : c.Agrees r) (same : Undisturbed r r')
    (addresses : c'.inventory.addresses = c.inventory.addresses) (groups : c'.groups = c.groups) :
    c'.Agrees r' where
  carried := by
    rw [addresses, same.addresses]
    exact h.carried
  leftBehind := by
    intro key
    rw [addresses, same.addresses, same.answers]
    exact h.leftBehind key
  groups := by
    rw [groups, same.groups]
    exact h.groups

/-- An addition keeps the agreement, granted or not. -/
theorem addition (h : c.Agrees r) (unique : LinkAddress.KeysUnique c.inventory.addresses)
    {a : LinkAddress} {time : Int64} {outcome : KernelResult}
    (d : Dialogue r ((Request.addition a time outcome).exchanges ifIndex seq) r') :
    (c.afterRequest (.addition a time outcome)).Agrees r' := by
  obtain ⟨groups, told, addresses⟩ := Request.addition_effect d
  rw [afterRequest]
  cases accepted : isAccepted outcome with
  | false =>
      rw [if_neg Bool.false_ne_true]
      have same : ∀ key, key ∈ r'.host.addresses ↔ key ∈ r.host.addresses := by
        simpa [accepted] using addresses
      refine ⟨fun b hb => (same _).2 (h.carried b hb), ?_, ?_⟩
      · intro key hk new
        rw [told]
        exact h.leftBehind key ((same key).1 hk) new
      · rw [groups]
        exact h.groups
  | true =>
      rw [if_pos rfl, remember_eq]
      refine ⟨?_, ?_, ?_⟩
      · intro b hb
        rw [addresses]
        rcases unique.mem_upsert.1 hb with rfl | ⟨hb, -⟩
        · exact .inr ⟨accepted, rfl⟩
        · exact .inl (h.carried b hb)
      · intro key hk new
        -- A key that is not mirrored now is not the one that was just put in.
        obtain ⟨old, other⟩ := not_or.1 (mt LinkAddress.mem_map_key_upsert.2 new)
        rw [told]
        exact h.leftBehind key (((addresses key).1 hk).resolve_right fun he => other he.2) old
      · rw [groups]
        exact h.groups

/-- A removal of the only address under its key keeps the agreement; if it fails, its key is left
    behind. -/
theorem removal (h : c.Agrees r) {a : LinkAddress} {outcome : KernelResult}
    (sole : ∀ b ∈ c.inventory.addresses, b.key = a.key → b = a)
    (d : Dialogue r ((Request.removal a outcome).exchanges ifIndex seq) r') :
    (c.afterRequest (.removal a outcome)).Agrees r' := by
  obtain ⟨groups, told, addresses⟩ := Request.removal_effect d
  rw [afterRequest, forget_eq]
  have others : ∀ b ∈ c.inventory.addresses.filter (· ≠ a),
      b ∈ c.inventory.addresses ∧ b.key ≠ a.key := by
    intro b hb
    obtain ⟨hb, ne⟩ := List.mem_filter.1 hb
    exact ⟨hb, fun key => of_decide_eq_true ne (sole b hb key)⟩
  refine ⟨?_, ?_, ?_⟩
  · intro b hb
    obtain ⟨hb, ne⟩ := others b hb
    rcases addresses with gone | ⟨-, same⟩
    · exact (gone b.key).2 ⟨h.carried b hb, ne⟩
    · rw [same]
      exact h.carried b hb
  · intro key hk new
    by_cases own : a.key = key
    · -- The kernel still holds the key, so this very removal failed.
      subst own
      rcases addresses with gone | ⟨⟨e, rfl⟩, -⟩
      · exact absurd rfl ((gone a.key).1 hk).2
      · exact ⟨e, by rw [told, if_pos rfl, List.getLast?_concat]⟩
    · have before : key ∈ r.host.addresses := by
        rcases addresses with gone | ⟨-, same⟩
        · exact ((gone key).1 hk).1
        · rwa [same] at hk
      have unmirrored : key ∉ c.inventory.addresses.map LinkAddress.key := by
        intro mirrored
        obtain ⟨b, hb, rfl⟩ := List.mem_map.1 mirrored
        refine new (List.mem_map_of_mem (List.mem_filter.2 ⟨hb, decide_eq_true ?_⟩))
        rintro rfl
        exact own rfl
      rw [told, if_neg own, List.append_nil]
      exact h.leftBehind key before unmirrored
  · rw [groups]
    exact h.groups

/-- Removals of addresses that are each the only one under their key keep the agreement. -/
theorem removals {qs : List Request} (kind : ∀ q ∈ qs, q.isRemoval = true) (h : c.Agrees r)
    (sole : ∀ q ∈ qs, ∀ b ∈ c.inventory.addresses, b.key = q.address.key → b = q.address)
    (d : Dialogue r (Request.dialogue ifIndex seq qs) r') : (c.after qs).Agrees r' := by
  induction qs generalizing c r seq with
  | nil =>
      cases d
      exact h
  | cons q qs ih =>
      obtain ⟨m, first, rest⟩ := Dialogue.split d
      obtain ⟨a, outcome, rfl⟩ := Request.eq_removal (kind _ List.mem_cons_self)
      have next := h.removal (sole _ List.mem_cons_self) first
      refine ih (fun q hq => kind q (List.mem_cons_of_mem _ hq)) next ?_ rest
      -- There are fewer addresses now.
      intro q hq b hb
      exact sole q (List.mem_cons_of_mem _ hq) b (List.mem_of_mem_filter hb)

theorem additions {qs : List Request} (kind : ∀ q ∈ qs, q.isRemoval = false) (h : c.Agrees r)
    (unique : LinkAddress.KeysUnique c.inventory.addresses)
    (d : Dialogue r (Request.dialogue ifIndex seq qs) r') : (c.after qs).Agrees r' := by
  induction qs generalizing c r seq with
  | nil =>
      cases d
      exact h
  | cons q qs ih =>
      obtain ⟨m, first, rest⟩ := Dialogue.split d
      obtain ⟨a, time, outcome, rfl⟩ := Request.eq_addition (kind _ List.mem_cons_self)
      exact ih (fun q hq => kind q (List.mem_cons_of_mem _ hq)) (h.addition unique first)
        (keysUnique_after unique [.addition a time outcome]) rest

theorem removals_of_mirrored {qs : List Request} (kind : ∀ q ∈ qs, q.isRemoval = true)
    (h : c.Agrees r) (unique : LinkAddress.KeysUnique c.inventory.addresses)
    (mirrored : ∀ q ∈ qs, q.address ∈ c.inventory.addresses)
    (d : Dialogue r (Request.dialogue ifIndex seq qs) r') : (c.after qs).Agrees r' :=
  h.removals kind (fun q hq _ hb => unique.eq_of_key_eq hb (mirrored q hq)) d

/-! ### Operations -/

variable {s s' : Shared (Recorded MemoryKernel)}

theorem rests (h : c.Agrees s.host) {es : List Exchange} (rest : Rests s es s')
    (addresses : c'.inventory.addresses = c.inventory.addresses) (groups : c'.groups = c.groups) :
    c'.Agrees s'.host :=
  h.of_undisturbed (.of_dialogue rest.quiet rest.dialogue) addresses groups

theorem strips (h : c.Agrees s.host) (unique : LinkAddress.KeysUnique c.inventory.addresses)
    {qs : List Request} (strip : c.Strips ifIndex s qs s') : c.stripped.Agrees s'.host := by
  have mirrored : ∀ q ∈ qs, q.address ∈ c.inventory.addresses := by
    intro q hq
    rw [← strip.removed]
    exact List.mem_map_of_mem hq
  have after := h.removals_of_mirrored strip.removals unique mirrored strip.issues.dialogue
  refine after.of_undisturbed (.refl _) ?_ ?_
  · exact (addresses_after_all strip.removals strip.removed).symm
  · rw [after_eq]
    rfl

theorem reconciles (h : c.Agrees s.host)
    (unique : LinkAddress.KeysUnique c.inventory.addresses)
    {snapshot : List AddressReport} {t : Reconciliation} (step : c.Reconciles snapshot s t s') :
    (c.reconciled snapshot t).Agrees s'.host := by
  -- The dialogue in its parts: clock, removals, additions, leaves, joins.
  obtain ⟨g, main, calls⟩ := Dialogue.split step.dialogue
  obtain ⟨r₀, clock, requests⟩ : ∃ r₀, Exchange.Leads (.clock t.now) s.host r₀ ∧
      Dialogue r₀ (Request.dialogue t.ifIndex s.sequence t.requests) g := by
    cases main with
    | cons clock requests => exact ⟨_, clock, requests⟩
  rw [Reconciliation.requests, Request.dialogue_append] at requests
  obtain ⟨r₁, removals, additions⟩ := Dialogue.split requests
  rw [Reconciliation.groupCalls, List.map_append] at calls
  obtain ⟨r₂, leaves, joins⟩ := Dialogue.split calls
  have mirrored : ∀ q ∈ t.removals, q.address ∈ c.inventory.addresses := by
    intro q hq
    have removed : q.address ∈ t.removals.map Request.address := List.mem_map_of_mem hq
    rw [step.removed, Diff.mem_without] at removed
    exact removed.1
  have read : c.Agrees r₀ := h.of_undisturbed (.of_quiet rfl clock) rfl rfl
  have removed := read.removals_of_mirrored step.removals unique mirrored removals
  have after := removed.additions step.additions (keysUnique_after unique _) additions
  rw [← after_append] at after
  obtain ⟨addresses₁, told₁, left⟩ := Recorded.leaves_effect leaves
  obtain ⟨addresses₂, told₂, joined⟩ := Recorded.joins_effect joins
  refine ⟨?_, ?_, ?_⟩
  · intro a ha
    rw [addresses₂, addresses₁]
    exact after.carried a ha
  · intro key hk new
    rw [told₂, told₁]
    rw [addresses₂, addresses₁] at hk
    exact after.leftBehind key hk new
  · intro x
    have before : x ∈ g.host.groups ↔ x ∈ c.groups := by
      rw [after.groups, after_eq]
    rw [joined, left, before, step.left, step.joined]
    show _ ↔ x ∈ Diff.distinct (desiredGroups snapshot)
    rw [Diff.mem_distinct, Diff.mem_without, Diff.mem_without]
    tauto

end Agrees

/-- Every operation keeps the agreement. -/
theorem Transition.agrees {c c' : Controller} {s s' : Shared (Recorded MemoryKernel)}
    {op : Operation} {result : ControllerResult} (t : c.Transition s op result c' s')
    (h : c.Agrees s.host) (unique : LinkAddress.KeysUnique c.inventory.addresses) :
    c'.Agrees s'.host := by
  induction t with
  | notStarted _ rest => exact h.rests rest rfl rfl
  | started _ _ rest => exact h.rests rest rfl rfl
  | notSwitched => exact h
  | notRaised _ rest => exact h.rests rest rfl rfl
  | raised _ rest => exact h.rests rest rfl rfl
  | lowered _ strip rest => exact (h.strips unique strip).rests rest rfl rfl
  | ignored => exact h
  | reconciled step => exact h.reconciles unique step
  | prefixes =>
      refine h.of_undisturbed (.refl _) ?_ ?_ <;> rw [updatePrefixes_eq]
  | died _ ih => exact ih
  | destroyedBefore => exact h
  | destroyedUnused => exact h.of_undisturbed (.refl _) rfl rfl
  | destroyed _ strip rest => exact (h.strips unique strip).rests rest rfl rfl

/-- **Mirror and kernel agree up to failed removals.** For a controller on a kernel that starts
    empty and whose addresses and groups nobody else changes: what is mirrored is there, what is
    there beyond it is what the kernel failed to remove the last time, and both have the same
    groups. The requests that fail, the other failures and the time are arbitrary and may change
    between operations. -/
theorem Reaches.mirror_agrees {config : Config} {start s : Shared (Recorded MemoryKernel)}
    {c : Controller}
    (reach : Reaches (fun s s' => Undisturbed s.host s'.host) config start c s)
    (addresses : start.host.host.addresses = []) (groups : start.host.host.groups = []) :
    (∀ a ∈ c.inventory.addresses, a.key ∈ s.host.host.addresses) ∧
      (∀ key ∈ s.host.host.addresses, key ∉ c.inventory.addresses.map LinkAddress.key →
        ∃ e, (answers Netlink.MessageType.delAddress key s.host.calls).getLast? =
          some (.error e)) ∧
      ((∀ octets seq outcome, .send octets seq outcome ∈ s.host.calls → outcome = .ok ()) →
        ∀ key, key ∈ s.host.host.addresses ↔ key ∈ c.inventory.addresses.map LinkAddress.key) ∧
      ∀ g, g ∈ s.host.host.groups ↔ g ∈ c.groups := by
  obtain ⟨-, agrees⟩ : LinkAddress.KeysUnique c.inventory.addresses ∧ c.Agrees s.host := by
    refine reach.invariant
      (P := fun c s => LinkAddress.KeysUnique c.inventory.addresses ∧ c.Agrees s.host) ?_
      (fun t h => ⟨t.keysUnique h.1, t.agrees h.2 h.1⟩)
      fun same h => ⟨h.1, h.2.of_undisturbed same rfl rfl⟩
    exact ⟨List.nodup_nil, by simp [Controller.new, Inventory.empty], by simp [addresses],
      by simp [groups, Controller.new]⟩
  refine ⟨agrees.carried, agrees.leftBehind, ?_, agrees.groups⟩
  intro succeeded key
  constructor
  · intro hk
    by_contra new
    obtain ⟨e, last⟩ := agrees.leftBehind key hk new
    obtain ⟨octets, seq, sent⟩ := mem_answers (List.mem_of_getLast? last)
    exact absurd (succeeded _ _ _ sent) (by simp)
  · intro hk
    obtain ⟨a, ha, rfl⟩ := List.mem_map.1 hk
    exact agrees.carried a ha

/-- An address is replaced by another, but the kernel fails to remove it: it is left behind. -/
theorem agrees_after_failed_removal :
    let start : Shared (Recorded MemoryKernel) :=
      ⟨0, { MemoryKernel.idle 0 with failingSends := [1] }, []⟩
    let ops : List Operation := [.start ⟨Config.defaultInterface⟩,
      .addresses [.numbered 1 true], .addresses [.numbered 2 true]]
    let c := ((new .default).run start ops).1
    let s := ((new .default).run start ops).2
    Reaches (fun s s' => Undisturbed s.host s'.host) .default start c s ∧
      start.host.host.addresses = [] ∧ start.host.host.groups = [] ∧
      c.inventory.addresses = [.numbered 2] ∧
      s.host.host.addresses = [(.numbered 1, 64), (.numbered 2, 64)] ∧
      (∀ a ∈ c.inventory.addresses, a.key ∈ s.host.host.addresses) ∧
      (∀ key ∈ s.host.host.addresses, key ∉ c.inventory.addresses.map LinkAddress.key →
        ∃ e, (answers Netlink.MessageType.delAddress key s.host.calls).getLast? =
          some (.error e)) ∧
      ((∀ octets seq outcome, .send octets seq outcome ∈ s.host.calls → outcome = .ok ()) →
        ∀ key, key ∈ s.host.host.addresses ↔ key ∈ c.inventory.addresses.map LinkAddress.key) ∧
      ∀ g, g ∈ s.host.host.groups ↔ g ∈ c.groups := by
  intro start ops c s
  have reach : Reaches (fun s s' => Undisturbed s.host s'.host) .default start c s :=
    Reaches.run ops .new
  exact ⟨reach, rfl, rfl, by decide +kernel, by decide +kernel, reach.mirror_agrees rfl rfl⟩

end Controller
end MeshLink
