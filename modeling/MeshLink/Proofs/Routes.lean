import MeshLink.Kernel.Memory
import MeshLink.Proofs.Mirror
set_option autoImplicit false

/-! # Routes and what they are for

A route is there for an address, for an on-mesh network, or for several of them at once, but the
inventory holds it once and does not count what it is for. So an operation takes out the routes of
everything that it drops, puts in the routes of everything that it brings, and touches no other
(`Transition.mem_routes`). Two facts about whole runs follow from that one.

No route stays without a reason. The converse fails: what is dropped takes its route with it even if
something else still needs it, and `covered_states_iff` says that nothing else can go wrong. -/

namespace MeshLink

namespace Controller

variable {σ : Type} [Host σ] {c c' : Controller} {s s' : Shared σ} {op : Operation}
  {result : ControllerResult}

/-- The routes of the mirrored addresses and of the on-mesh networks. -/
def needed (c : Controller) : List Route :=
  c.inventory.addresses.map c.routeOf ++ c.onMesh

/-- The routes of the addresses and networks that the first controller has and the second has
    not. -/
def dropped (c c' : Controller) : List Route :=
  (c.inventory.addresses.filter (· ∉ c'.inventory.addresses)).map c.routeOf ++
    c.onMesh.filter (· ∉ c'.onMesh)

theorem mem_needed {x : Route} :
    x ∈ c.needed ↔ (∃ a ∈ c.inventory.addresses, c.routeOf a = x) ∨ x ∈ c.onMesh := by
  rw [needed, List.mem_append, List.mem_map]

theorem mem_dropped {x : Route} :
    x ∈ dropped c c' ↔
      (∃ a, (a ∈ c.inventory.addresses ∧ a ∉ c'.inventory.addresses) ∧ c.routeOf a = x) ∨
        (x ∈ c.onMesh ∧ x ∉ c'.onMesh) := by
  simp [dropped]

theorem dropped_subset {x : Route} (h : x ∈ dropped c c') : x ∈ c.needed := by
  rcases mem_dropped.1 h with ⟨a, ⟨ha, -⟩, hx⟩ | ⟨hx, -⟩
  · exact mem_needed.2 (.inl ⟨a, ha, hx⟩)
  · exact mem_needed.2 (.inr hx)

theorem dropped_eq_nil (addresses : c'.inventory.addresses = c.inventory.addresses)
    (onMesh : c'.onMesh = c.onMesh) : dropped c c' = [] := by
  refine List.eq_nil_iff_forall_not_mem.2 ?_
  intro x hx
  rw [mem_dropped, addresses, onMesh] at hx
  rcases hx with ⟨a, ⟨ha, hn⟩, -⟩ | ⟨hx, hn⟩
  · exact hn ha
  · exact hn hx

/-! ## What an operation does to routes -/

/-- No operation changes the setting, so routes are built alike throughout. -/
theorem Transition.config_eq (t : c.Transition s op result c' s') : c'.config = c.config := by
  induction t with
  | reconciled => rw [reconciled_eq]
  | prefixes => rw [updatePrefixes_eq]
  | died _ ih => exact ih
  | _ => rfl

theorem routeOf_eq (h : c'.config = c.config) : c'.routeOf = c.routeOf := by
  funext a
  rw [routeOf, routeOf, routeTo, routeTo, h]

namespace Reconciles

variable {snapshot : List AddressReport} {t : Reconciliation}

theorem mem_removed_iff (h : c.Reconciles snapshot s t s') (a : LinkAddress) :
    (a ∈ c.inventory.addresses ∧ a ∉ (c.reconciled snapshot t).inventory.addresses) ↔
      a ∈ t.removals.map Request.address := by
  rw [h.mem_addresses, h.removed, Diff.mem_without]
  refine and_congr_right ?_
  intro ha
  simp [ha]

theorem mem_granted_iff (h : c.Reconciles snapshot s t s') (a : LinkAddress) :
    (a ∈ (c.reconciled snapshot t).inventory.addresses ∧ a ∉ c.inventory.addresses) ↔
      ∃ q ∈ t.additions, q.isGranted = true ∧ q.address = a := by
  have granted : a ∈ (t.additions.filter Request.isGranted).map Request.address ↔
      ∃ q ∈ t.additions, q.isGranted = true ∧ q.address = a := by
    simp [and_assoc]
  rw [← granted, h.addresses_eq, List.mem_append, List.mem_filter]
  constructor
  · rintro ⟨⟨ha, -⟩ | ha, new⟩
    · exact absurd ha new
    · exact ha
  · intro ha
    refine ⟨.inr ha, ?_⟩
    rw [h.granted_eq, List.mem_filter] at ha
    exact (of_decide_eq_true ha.2).1

theorem mem_routes (h : c.Reconciles snapshot s t s') (x : Route) :
    x ∈ (c.reconciled snapshot t).inventory.routes ↔
      (x ∈ c.inventory.routes ∧ x ∉ dropped c (c.reconciled snapshot t)) ∨
        x ∈ dropped (c.reconciled snapshot t) c := by
  have onMesh := onMesh_reconciled c snapshot t
  have same : (c.reconciled snapshot t).routeOf = c.routeOf :=
    routeOf_eq (by rw [reconciled_eq])
  have removed : x ∈ dropped c (c.reconciled snapshot t) ↔
      x ∈ (t.removals.map Request.address).map c.routeOf := by
    simp only [mem_dropped, h.mem_removed_iff, onMesh, and_not_self, or_false, List.mem_map]
  have brought : x ∈ dropped (c.reconciled snapshot t) c ↔
      ∃ q ∈ t.additions, q.isGranted = true ∧ x = c.routeOf q.address := by
    simp only [mem_dropped, h.mem_granted_iff, onMesh, and_not_self, or_false, same]
    constructor
    · rintro ⟨a, ⟨q, hq, granted, rfl⟩, rfl⟩
      exact ⟨q, hq, granted, rfl⟩
    · rintro ⟨q, hq, granted, rfl⟩
      exact ⟨_, ⟨q, hq, granted, rfl⟩, rfl⟩
  show x ∈ (c.after (t.removals ++ t.additions)).inventory.routes ↔ _
  rw [after_append, mem_routes_after_additions h.additions, routes_after_removals h.removals,
    removed, brought, List.mem_filter]
  simp only [routeOf_after, decide_eq_true_eq]

end Reconciles

/-- A snapshot of networks replaces the on-mesh routes, by value. -/
theorem updatePrefixes_spec (alive : c.state ≠ .destroyed) (snapshot : List PrefixReport) :
    (c.updatePrefixes snapshot).onMesh =
        Diff.distinct ((PrefixReport.nets snapshot).map c.routeTo) ∧
      ∀ x, x ∈ (c.updatePrefixes snapshot).inventory.routes ↔
        (x ∈ c.inventory.routes ∧
            x ∉ Diff.without c.onMesh ((PrefixReport.nets snapshot).map c.routeTo)) ∨
          x ∈ Diff.without ((PrefixReport.nets snapshot).map c.routeTo) c.onMesh := by
  rw [updatePrefixes, if_neg alive]
  refine ⟨rfl, ?_⟩
  intro x
  dsimp only [Diff.between]
  rw [mem_routes_foldl_rememberRoute, foldl_forgetRoute, List.mem_filter]
  simp only [decide_eq_true_eq]

/-- **What an operation does to routes.** Unless it leaves nothing at all, it takes out the routes
    of what it drops and puts in the routes of what it brings. -/
theorem Transition.mem_routes (t : c.Transition s op result c' s') :
    (c'.needed = [] ∧ c'.inventory.routes = []) ∨
      ∀ x, x ∈ c'.inventory.routes ↔
        (x ∈ c.inventory.routes ∧ x ∉ dropped c c') ∨ x ∈ dropped c' c := by
  -- Where addresses, networks and routes stay, nothing is dropped and nothing brought.
  have still : ∀ {c' : Controller}, c'.inventory = c.inventory → c'.onMesh = c.onMesh →
      ∀ x, x ∈ c'.inventory.routes ↔
        (x ∈ c.inventory.routes ∧ x ∉ dropped c c') ∨ x ∈ dropped c' c := by
    intro c' inventory onMesh x
    rw [dropped_eq_nil (congrArg Inventory.addresses inventory) onMesh,
      dropped_eq_nil (congrArg Inventory.addresses inventory.symm) onMesh.symm, inventory]
    simp
  induction t with
  | notStarted => exact .inr (still rfl rfl)
  | started => exact .inr (still rfl rfl)
  | notSwitched => exact .inr (still rfl rfl)
  | notRaised => exact .inr (still rfl rfl)
  | raised => exact .inr (still rfl rfl)
  | lowered => exact .inl ⟨rfl, rfl⟩
  | ignored => exact .inr (still rfl rfl)
  | reconciled h => exact .inr h.mem_routes
  | @prefixes snapshot =>
      refine .inr ?_
      intro x
      by_cases alive : c.state = .destroyed
      · have same : c.updatePrefixes snapshot = c := by rw [updatePrefixes, if_pos alive]
        rw [same]
        exact still rfl rfl x
      · obtain ⟨onMesh, routes⟩ := updatePrefixes_spec alive snapshot
        rw [routes, mem_dropped, mem_dropped, addresses_updatePrefixes, onMesh]
        simp
  | died _ ih => exact ih
  | destroyedBefore => exact .inr (still rfl rfl)
  | destroyedUnused => exact .inr (still rfl rfl)
  | destroyed => exact .inl ⟨rfl, rfl⟩

theorem Transition.nodup_routes (t : c.Transition s op result c' s')
    (h : c.inventory.routes.Nodup) : c'.inventory.routes.Nodup := by
  induction t with
  | lowered => exact List.nodup_nil
  | reconciled => exact nodup_routes_after h _
  | prefixes =>
      rw [updatePrefixes]
      split
      · exact h
      · refine nodup_routes_foldl_rememberRoute ?_ _
        rw [foldl_forgetRoute]
        exact h.filter _
  | died _ ih => exact ih
  | destroyed => exact List.nodup_nil
  | _ => exact h

/-! ## No route without a reason -/

/-- Every route is needed. -/
def Justified (c : Controller) : Prop :=
  ∀ x ∈ c.inventory.routes, x ∈ c.needed

theorem Transition.justified (t : c.Transition s op result c' s') (h : c.Justified) :
    c'.Justified := by
  intro x hx
  rcases t.mem_routes with ⟨-, none⟩ | routes
  · rw [none] at hx
    exact absurd hx List.not_mem_nil
  rcases (routes x).1 hx with ⟨hx, kept⟩ | brought
  swap
  · exact dropped_subset brought
  -- What the route was for was not dropped, so it is still there.
  rcases mem_needed.1 (h x hx) with ⟨a, ha, rfl⟩ | onMesh
  · refine mem_needed.2 (.inl ⟨a, ?_, congrFun (routeOf_eq t.config_eq) a⟩)
    by_contra gone
    exact kept (mem_dropped.2 (.inl ⟨a, ⟨ha, gone⟩, rfl⟩))
  · refine mem_needed.2 (.inr ?_)
    by_contra gone
    exact kept (mem_dropped.2 (.inr ⟨onMesh, gone⟩))

variable {between : Shared σ → Shared σ → Prop} {config : Config} {start : Shared σ}

theorem Reaches.config_eq (reach : Reaches between config start c s) : c.config = config :=
  reach.invariant (P := fun c _ => c.config = config) rfl (fun t h => t.config_eq.trans h)
    fun _ h => h

/-- **No orphan routes.** Whatever operations a controller has been through and whatever its host
    has answered, each of its routes is that of a mirrored address or of an on-mesh network, and is
    there once. -/
theorem Reaches.routes_justified (reach : Reaches between config start c s) :
    (∀ x ∈ c.inventory.routes,
      (∃ a ∈ c.inventory.addresses, x = ⟨a.network, config.interface, config.mtu⟩) ∨
        x ∈ c.onMesh) ∧
      c.inventory.routes.Nodup := by
  have config_eq := reach.config_eq
  obtain ⟨justified, unique⟩ : c.Justified ∧ c.inventory.routes.Nodup :=
    reach.invariant (P := fun c _ => c.Justified ∧ c.inventory.routes.Nodup)
      ⟨fun _ hx => absurd hx List.not_mem_nil, List.nodup_nil⟩
      (fun t h => ⟨t.justified h.1, t.nodup_routes h.2⟩) fun _ h => h
  refine ⟨?_, unique⟩
  intro x hx
  rcases mem_needed.1 (justified x hx) with ⟨a, ha, rfl⟩ | onMesh
  · exact .inl ⟨a, ha, by rw [routeOf, routeTo, config_eq]⟩
  · exact .inr onMesh

/-- A started controller with an on-mesh network and two addresses of one network, the second of
    which the kernel refuses: both routes have their reason. -/
theorem routes_justified_of_two :
    let start : Shared MemoryKernel := ⟨0, { MemoryKernel.idle 0 with failingSends := [1] }⟩
    let ops : List Operation := [.start ⟨Config.defaultInterface⟩, .prefixes [⟨[0xfe], 8⟩],
      .addresses [.numbered 1 true, .numbered 2 true]]
    let c := ((new .default).run start ops).1
    Reaches (fun s s' => s' = s) .default start c ((new .default).run start ops).2 ∧
      c.inventory.routes.length = 2 ∧
      (∀ x ∈ c.inventory.routes,
        (∃ a ∈ c.inventory.addresses,
          x = ⟨a.network, Config.defaultInterface, Config.defaultMtu⟩) ∨ x ∈ c.onMesh) ∧
      c.inventory.routes.Nodup := by
  intro start ops c
  have reach : Reaches (fun s s' => s' = s) .default start c ((new .default).run start ops).2 :=
    Reaches.run ops .new
  exact ⟨reach, by decide +kernel, reach.routes_justified⟩

/-! ## Routes that are missing -/

/-- Every route that is needed is there. -/
def Covered (c : Controller) : Prop :=
  ∀ x ∈ c.needed, x ∈ c.inventory.routes

/-- From the first state to the second something is dropped whose route is needed in the second,
    and nothing brings the route back. -/
def TakesAway (c c' : Controller) : Prop :=
  ∃ x ∈ c'.needed, x ∈ dropped c c' ∧ x ∉ dropped c' c

/-- Where every route is there, an operation makes one missing exactly by taking it away. -/
theorem Transition.covered_iff (t : c.Transition s op result c' s') (h : c.Covered) :
    c'.Covered ↔ ¬ c.TakesAway c' := by
  rcases t.mem_routes with ⟨none, -⟩ | routes
  · simp [Covered, TakesAway, none]
  constructor
  · rintro covered ⟨x, needed, gone, notBrought⟩
    rcases (routes x).1 (covered x needed) with ⟨-, kept⟩ | brought
    · exact kept gone
    · exact notBrought brought
  · intro kept x needed
    rw [routes]
    by_cases brought : x ∈ dropped c' c
    · exact .inr brought
    refine .inl ⟨h x ?_, fun gone => kept ⟨x, needed, gone, brought⟩⟩
    -- What is needed now and was not brought was needed before.
    rcases mem_needed.1 needed with ⟨a, ha, rfl⟩ | onMesh
    · refine mem_needed.2 (.inl ⟨a, ?_, (congrFun (routeOf_eq t.config_eq) a).symm⟩)
      by_contra new
      exact brought (mem_dropped.2 (.inl ⟨a, ⟨ha, new⟩, rfl⟩))
    · refine mem_needed.2 (.inr ?_)
      by_contra new
      exact brought (mem_dropped.2 (.inr ⟨onMesh, new⟩))

/-- The states of a controller over operations, its first one included. Each operation comes with
    what is shared when it starts, which may be anything. -/
def states (c : Controller) : List (Shared σ × Operation) → List Controller
  | [] => [c]
  | (s, op) :: run => c :: states (c.apply op s).1.2 run

theorem states_eq_cons (c : Controller) (run : List (Shared σ × Operation)) :
    ∃ later, c.states run = c :: later := by
  cases run with
  | nil => exact ⟨[], rfl⟩
  | cons step run => exact ⟨_, rfl⟩

theorem covered_states_iff_of_covered (staged : c.IsStaged) (covered : c.Covered)
    (run : List (Shared σ × Operation)) :
    (∀ d ∈ c.states run, d.Covered) ↔
      (c.states run).IsChain fun d d' => ¬ d.TakesAway d' := by
  induction run generalizing c with
  | nil => simpa [states] using covered
  | cons step run ih =>
      obtain ⟨s, op⟩ := step
      -- The first state is covered, so the next one is exactly if the step takes nothing away.
      have t := apply_transition staged op s
      obtain ⟨later, run_eq⟩ := (c.apply op s).1.2.states_eq_cons run
      have next : (c.apply op s).1.2.Covered →
          ((∀ d ∈ (c.apply op s).1.2.states run, d.Covered) ↔
            ((c.apply op s).1.2.states run).IsChain fun d d' => ¬ d.TakesAway d') :=
        fun h => ih (t.isStaged staged) h
      rw [run_eq] at next
      rw [states, run_eq, List.forall_mem_cons, List.isChain_cons_cons, ← t.covered_iff covered]
      constructor
      · rintro ⟨-, rest⟩
        have h := rest _ List.mem_cons_self
        exact ⟨h, (next h).1 rest⟩
      · rintro ⟨h, chain⟩
        exact ⟨covered, (next h).2 chain⟩

/-- **When routes go missing.** Over operations of a new controller every needed route is there in
    every state exactly if no operation takes one away: none drops an address or an on-mesh network
    whose route something else still needs. -/
theorem covered_states_iff (config : Config) (run : List (Shared σ × Operation)) :
    (∀ c ∈ (new config).states run, c.Covered) ↔
      ((new config).states run).IsChain fun c c' => ¬ c.TakesAway c' :=
  covered_states_iff_of_covered (c := new config) rfl (fun _ hx => absurd hx List.not_mem_nil) run

/-- Two addresses share the route of their network; when one of them goes, the other is left without
    it. -/
theorem route_missing_after_removal :
    let start : Shared MemoryKernel := ⟨0, .idle 0⟩
    let c := ((new .default).run start [.start ⟨Config.defaultInterface⟩,
      .addresses [.numbered 1 true, .numbered 2 true], .addresses [.numbered 1 true]]).1
    c.inventory.addresses = [.numbered 1] ∧
      c.routeOf (.numbered 1) ∉ c.inventory.routes := by
  decide +kernel

end Controller
end MeshLink
