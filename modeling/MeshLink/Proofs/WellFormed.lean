import MeshLink.Proofs.Routes
import MeshLink.Proofs.Wanted
set_option autoImplicit false

/-! # What a controller can remember

Snapshots come unchecked from outside, and four lists are fed from them: addresses, routes, groups
and on-mesh networks. What gets into the lists was wanted by some snapshot, so it was checked and
built on the way in (`Transition.wanted_of_mem`, `Transition.groups_eq`, `Transition.onMesh_eq`):
an address is unicast and its flags and scope follow from the rest, a group is multicast, and a
network is masked. Routes only repeat networks of addresses and of the mesh.

So every controller is well-formed, whatever it was asked to do (`Reaches.lists_wellFormed`).
Looking up by key and taking out by value rely on it. -/

namespace MeshLink

/-! ## Single entries -/

/-- The length is one of an IPv6 network, and the bits past it are zero. -/
structure Net.IsCanonical (n : Net) : Prop where
  length_le : n.length ≤ Net.maxLength
  bit_eq_false : ∀ i, n.length.toNat ≤ i → n.base.bit i = false

theorem Net.isCanonical_of (a : Ipv6) (length : UInt8) : (Net.of a length).IsCanonical where
  length_le := by
    show min length maxLength ≤ maxLength
    simp only [UInt8.le_iff_toNat_le, UInt8.min_def]
    split
    · assumption
    · exact Nat.le_refl _
  bit_eq_false := by
    intro i past
    have outside : ¬ i < (min length maxLength).toNat := Nat.not_lt.2 past
    show (a.mask (min length maxLength).toNat).bit i = false
    rw [Ipv6.bit_mask, decide_eq_false outside, Bool.false_and]

/-- An entry of the kind that snapshots ask for: never expiring, deprecated at a time or not at all,
    and with the flags and the scope that follow from its address and its lifetimes. -/
structure LinkAddress.WellFormed (a : LinkAddress) : Prop where
  unicast : a.address.isMulticast = false
  length_le : a.length ≤ Net.maxLength
  expiration : a.expiration = .permanent
  deprecation : a.deprecation = .permanent ∨ a.deprecation.isFinite = true
  flags : a.flags = flagsFor a.deprecation a.expiration
  scope : a.scope = Scope.ofAddress a.address

/-- A route through the interface of a setting to a canonical network. -/
structure Route.WellFormed (config : Config) (r : Route) : Prop where
  interface : r.interface = config.interface
  mtu : r.mtu = config.mtu
  destination : r.destination.IsCanonical

/-! ## What snapshots ask for -/

theorem AddressReport.length_le {r : AddressReport} {e : AddressEntry}
    (h : r.validate.toOption = some e) : e.length ≤ Net.maxLength := by
  unfold validate at h
  split at h
  · exact absurd h (by simp [Except.toOption])
  · split at h
    · exact absurd h (by simp [Except.toOption])
    · next fits =>
        obtain rfl := Option.some.inj h
        exact UInt8.not_lt.1 fits

theorem AddressReport.length_le_of_mem {snapshot : List AddressReport} {e : AddressEntry}
    (h : e ∈ entries snapshot) : e.length ≤ Net.maxLength := by
  obtain ⟨r, -, valid⟩ := List.mem_filterMap.1 h
  exact length_le valid

theorem PrefixReport.isCanonical_of_mem {snapshot : List PrefixReport} {n : Net}
    (h : n ∈ nets snapshot) : n.IsCanonical := by
  obtain ⟨r, -, valid⟩ := List.mem_filterMap.1 h
  unfold net at valid
  split at valid
  · exact absurd valid (by simp [Except.toOption])
  · split at valid
    · exact absurd valid (by simp [Except.toOption])
    · obtain rfl := Option.some.inj valid
      exact Net.isCanonical_of _ _

namespace Controller

theorem wellFormed_of_mem_desired {snapshot : List AddressReport} {now : Int64} {a : LinkAddress}
    (h : a ∈ desired snapshot now) : a.WellFormed := by
  obtain ⟨e, he, unicast, rfl⟩ := Desired.exists_entry h
  exact {
    unicast := unicast
    length_le := AddressReport.length_le_of_mem he
    expiration := rfl
    deprecation := by
      unfold Desired.linkAddress
      split
      · exact .inl rfl
      · exact .inr rfl
    flags := rfl
    scope := rfl }

theorem isMulticast_of_mem_desiredGroups {snapshot : List AddressReport} {g : Ipv6}
    (h : g ∈ desiredGroups snapshot) : g.isMulticast = true := by
  obtain ⟨e, he, rfl⟩ := List.mem_map.1 h
  exact (List.mem_filter.1 he).2

variable {σ : Type} [Host σ] {c c' : Controller} {s s' : Shared σ} {op : Operation}
  {result : ControllerResult}

theorem wellFormed_routeTo (c : Controller) {n : Net} (h : n.IsCanonical) :
    (c.routeTo n).WellFormed c.config where
  interface := rfl
  mtu := rfl
  destination := h

/-! ## Where what is remembered comes from -/

/-- A mirrored address was mirrored before, or a snapshot wanted it. -/
theorem Transition.wanted_of_mem (t : c.Transition s op result c' s') {a : LinkAddress}
    (ha : a ∈ c'.inventory.addresses) :
    a ∈ c.inventory.addresses ∨ ∃ snapshot now, a ∈ desired snapshot now := by
  induction t with
  | lowered => exact absurd ha List.not_mem_nil
  | reconciled h => exact .inr ⟨_, _, ((h.mem_addresses a).1 ha).1⟩
  | prefixes =>
      rw [addresses_updatePrefixes] at ha
      exact .inl ha
  | died _ ih => exact ih ha
  | destroyed => exact absurd ha List.not_mem_nil
  | _ => exact .inl ha

theorem Transition.groups_eq (t : c.Transition s op result c' s') :
    c'.groups = c.groups ∨ ∃ snapshot, c'.groups = Diff.distinct (desiredGroups snapshot) := by
  induction t with
  | reconciled => exact .inr ⟨_, rfl⟩
  | prefixes =>
      rw [updatePrefixes_eq]
      exact .inl rfl
  | died _ ih => exact ih
  | _ => exact .inl rfl

theorem Transition.onMesh_eq (t : c.Transition s op result c' s') :
    c'.onMesh = c.onMesh ∨
      ∃ snapshot, c'.onMesh = Diff.distinct ((PrefixReport.nets snapshot).map c.routeTo) := by
  induction t with
  | lowered => exact .inr ⟨[], rfl⟩
  | reconciled => exact .inl (onMesh_reconciled ..)
  | @prefixes snapshot =>
      by_cases ended : c.state = .destroyed
      · rw [updatePrefixes, if_pos ended]
        exact .inl rfl
      · exact .inr ⟨snapshot, (updatePrefixes_spec ended snapshot).1⟩
  | died _ ih => exact ih
  | destroyed => exact .inr ⟨[], rfl⟩
  | _ => exact .inl rfl

theorem Transition.needed_of_mem (t : c.Transition s op result c' s') {x : Route}
    (hx : x ∈ c'.inventory.routes) : x ∈ c.inventory.routes ∨ x ∈ c'.needed := by
  rcases t.mem_routes with ⟨-, none⟩ | routes
  · rw [none] at hx
    exact absurd hx List.not_mem_nil
  · exact ((routes x).1 hx).imp And.left dropped_subset

/-! ## Well-formed controllers -/

/-- The lists of a controller hold each thing once, and only things of their kind. -/
structure WellFormed (c : Controller) : Prop where
  keysUnique : LinkAddress.KeysUnique c.inventory.addresses
  nodup_routes : c.inventory.routes.Nodup
  nodup_groups : c.groups.Nodup
  nodup_onMesh : c.onMesh.Nodup
  addresses : ∀ a ∈ c.inventory.addresses, a.WellFormed
  groups : ∀ g ∈ c.groups, g.isMulticast = true
  routes : ∀ r ∈ c.inventory.routes, r.WellFormed c.config
  onMesh : ∀ r ∈ c.onMesh, r.WellFormed c.config

theorem wellFormed_new (config : Config) : (new config).WellFormed where
  keysUnique := List.nodup_nil
  nodup_routes := List.nodup_nil
  nodup_groups := List.nodup_nil
  nodup_onMesh := List.nodup_nil
  addresses := fun _ ha => absurd ha List.not_mem_nil
  groups := fun _ hg => absurd hg List.not_mem_nil
  routes := fun _ hr => absurd hr List.not_mem_nil
  onMesh := fun _ hr => absurd hr List.not_mem_nil

theorem Transition.wellFormed (t : c.Transition s op result c' s') (h : c.WellFormed) :
    c'.WellFormed := by
  have addresses : ∀ a ∈ c'.inventory.addresses, a.WellFormed := by
    intro a ha
    rcases t.wanted_of_mem ha with before | ⟨snapshot, now, wanted⟩
    · exact h.addresses a before
    · exact wellFormed_of_mem_desired wanted
  have onMesh : c'.onMesh.Nodup ∧ ∀ r ∈ c'.onMesh, r.WellFormed c.config := by
    rcases t.onMesh_eq with same | ⟨snapshot, replaced⟩
    · rw [same]
      exact ⟨h.nodup_onMesh, h.onMesh⟩
    · rw [replaced]
      refine ⟨Diff.nodup_distinct _, ?_⟩
      intro r hr
      obtain ⟨n, hn, rfl⟩ := List.mem_map.1 (Diff.mem_distinct.1 hr)
      exact c.wellFormed_routeTo (PrefixReport.isCanonical_of_mem hn)
  exact {
    keysUnique := t.keysUnique h.keysUnique
    nodup_routes := t.nodup_routes h.nodup_routes
    nodup_groups := t.nodup_groups h.nodup_groups
    nodup_onMesh := onMesh.1
    addresses := addresses
    groups := by
      rcases t.groups_eq with same | ⟨snapshot, replaced⟩
      · rw [same]
        exact h.groups
      · intro g hg
        rw [replaced, Diff.mem_distinct] at hg
        exact isMulticast_of_mem_desiredGroups hg
    routes := by
      -- What is not there from before is the route of an address or an on-mesh network.
      intro r hr
      rw [t.config_eq]
      rcases t.needed_of_mem hr with before | needed
      · exact h.routes r before
      · rcases mem_needed.1 needed with ⟨a, -, rfl⟩ | network
        · rw [routeOf_eq t.config_eq]
          exact c.wellFormed_routeTo (Net.isCanonical_of _ _)
        · exact onMesh.2 r network
    onMesh := by
      rw [t.config_eq]
      exact onMesh.2 }

variable {between : Shared σ → Shared σ → Prop} {config : Config} {start : Shared σ}

/-- **Every controller is well-formed.** Whatever a controller was asked to do, with whatever
    snapshots and clocks and whatever its host has answered, its lists hold each thing once and only
    things of their kind, and its routes carry the setting that it was created with. -/
theorem Reaches.lists_wellFormed (reach : Reaches between config start c s) :
    c.config = config ∧ c.WellFormed :=
  reach.invariant (P := fun c _ => c.config = config ∧ c.WellFormed)
    ⟨rfl, wellFormed_new config⟩ (fun t h => ⟨t.config_eq.trans h.1, t.wellFormed h.2⟩)
    fun _ h => h

/-- Networks with bits past their length, an address that is reported twice in different ways, a
    group that is reported twice, and a report without octets. -/
theorem wellFormed_of_mixed_reports :
    let start : Shared MemoryKernel := ⟨0, .idle 7⟩
    let ops : List Operation := [.prefixes [⟨[0xfe, 0x8f], 9⟩, ⟨[0xfe, 0x80], 9⟩],
      .start ⟨Config.defaultInterface⟩,
      .addresses [.numbered 1 true, .numberedGroup 1, ⟨[], 64, true, true, true⟩,
        .numbered 1 false, .numberedGroup 1]]
    let c := ((new .default).run start ops).1
    Reaches (fun s s' => s' = s) .default start c ((new .default).run start ops).2 ∧
      c.inventory.addresses = [.of (.numbered 1) 64 (.at 7) .permanent] ∧
      c.groups = [.numberedGroup 1] ∧ c.onMesh.length = 1 ∧ c.inventory.routes.length = 2 ∧
      c.config = .default ∧ c.WellFormed := by
  intro start ops c
  have reach : Reaches (fun s s' => s' = s) .default start c ((new .default).run start ops).2 :=
    Reaches.run ops .new
  exact ⟨reach, by decide +kernel, by decide +kernel, by decide +kernel, by decide +kernel,
    reach.lists_wellFormed⟩

end Controller
end MeshLink
