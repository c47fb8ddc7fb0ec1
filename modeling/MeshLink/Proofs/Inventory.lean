import MeshLink.Proofs.Keyed
import MeshLink.Proofs.Request
set_option autoImplicit false

/-! # What an interface carries after requests

The effect of the requests and of the route loops on the inventory of a controller, one lemma for
addresses and one for routes. Removals take out by value, whatever the host answers. Granted
additions put in by key; under new keys they go to the end in their order. A route is there at
most once, so taking it out takes it from everything that needs it. -/

namespace MeshLink

theorem filter_ne_filter_notMem {α : Type} [DecidableEq α] (a : α) (as xs : List α) :
    (xs.filter (· ≠ a)).filter (· ∉ as) = xs.filter (· ∉ a :: as) := by
  rw [List.filter_filter]
  refine List.filter_congr ?_
  intro x _
  simp [Bool.and_comm]

namespace Inventory

theorem addRoute_fst (inv : Inventory) (r : Route) :
    (inv.addRoute r).1 =
      { inv with routes := if r ∈ inv.routes then inv.routes else inv.routes ++ [r] } := by
  rw [addRoute]
  by_cases h : r ∈ inv.routes <;> simp [h]

theorem mem_routes_addRoute {inv : Inventory} {r x : Route} :
    x ∈ (inv.addRoute r).1.routes ↔ x ∈ inv.routes ∨ x = r := by
  rw [addRoute_fst]
  dsimp only
  split
  · next h => exact ⟨.inl, fun hx => hx.elim id fun he => he ▸ h⟩
  · rw [List.mem_append, List.mem_singleton]

theorem nodup_routes_addRoute {inv : Inventory} (h : inv.routes.Nodup) (r : Route) :
    (inv.addRoute r).1.routes.Nodup := by
  rw [addRoute_fst]
  dsimp only
  split
  · exact h
  · next hr =>
      rw [← List.concat_eq_append]
      exact List.Nodup.concat hr h

end Inventory

namespace Controller

/-- The route that an address brings with it. -/
def routeOf (c : Controller) (a : LinkAddress) : Route :=
  c.routeTo a.network

/-! ## One address -/

theorem remember_eq (c : Controller) (a : LinkAddress) :
    c.remember a = { c with inventory := { c.inventory with
      addresses := a.upsert c.inventory.addresses
      routes := (c.remember a).inventory.routes } } := by
  rw [remember, Inventory.addRoute_fst]
  rfl

theorem mem_routes_remember {c : Controller} {a : LinkAddress} {x : Route} :
    x ∈ (c.remember a).inventory.routes ↔ x ∈ c.inventory.routes ∨ x = c.routeOf a :=
  Inventory.mem_routes_addRoute

theorem forget_eq (c : Controller) (a : LinkAddress) :
    c.forget a = { c with inventory := { c.inventory with
      addresses := c.inventory.addresses.filter (· ≠ a)
      routes := c.inventory.routes.filter (· ≠ c.routeOf a) } } :=
  rfl

/-! ## Loops over routes -/

theorem foldl_forgetRoute (c : Controller) (rs : List Route) :
    rs.foldl forgetRoute c = { c with inventory := { c.inventory with
      routes := c.inventory.routes.filter (· ∉ rs) } } := by
  induction rs generalizing c with
  | nil => simp
  | cons r rs ih =>
      rw [List.foldl_cons, ih, ← filter_ne_filter_notMem]
      rfl

theorem foldl_rememberRoute (c : Controller) (rs : List Route) :
    rs.foldl rememberRoute c = { c with inventory := { c.inventory with
      routes := (rs.foldl rememberRoute c).inventory.routes } } := by
  induction rs generalizing c with
  | nil => rfl
  | cons r rs ih =>
      have one : c.rememberRoute r = { c with inventory := { c.inventory with
          routes := (c.rememberRoute r).inventory.routes } } := by
        rw [rememberRoute, Inventory.addRoute_fst]
      rw [List.foldl_cons, ih, one]

theorem mem_routes_foldl_rememberRoute {c : Controller} {rs : List Route} {x : Route} :
    x ∈ (rs.foldl rememberRoute c).inventory.routes ↔ x ∈ c.inventory.routes ∨ x ∈ rs := by
  induction rs generalizing c with
  | nil => simp
  | cons r rs ih =>
      rw [List.foldl_cons, ih, List.mem_cons, ← or_assoc]
      exact or_congr_left Inventory.mem_routes_addRoute

theorem nodup_routes_foldl_rememberRoute {c : Controller} (h : c.inventory.routes.Nodup)
    (rs : List Route) : (rs.foldl rememberRoute c).inventory.routes.Nodup := by
  induction rs generalizing c with
  | nil => exact h
  | cons r rs ih => exact ih (Inventory.nodup_routes_addRoute h r)

/-! ## Requests -/

/-- Requests change nothing but the addresses and routes of the interface. -/
theorem after_eq (c : Controller) (qs : List Request) :
    c.after qs = { c with inventory := { c.inventory with
      addresses := (c.after qs).inventory.addresses
      routes := (c.after qs).inventory.routes } } := by
  induction qs generalizing c with
  | nil => rfl
  | cons q qs ih =>
      have one : c.afterRequest q = { c with inventory := { c.inventory with
          addresses := (c.afterRequest q).inventory.addresses
          routes := (c.afterRequest q).inventory.routes } } := by
        cases q with
        | addition a time o =>
            rw [afterRequest]
            split
            · rw [remember_eq]
            · rfl
        | removal a o => rfl
      rw [after_cons, ih, one]

theorem routeOf_after (c : Controller) (qs : List Request) (a : LinkAddress) :
    (c.after qs).routeOf a = c.routeOf a := by
  rw [after_eq]
  rfl

theorem nodup_routes_after {c : Controller} (h : c.inventory.routes.Nodup) (qs : List Request) :
    (c.after qs).inventory.routes.Nodup := by
  induction qs generalizing c with
  | nil => exact h
  | cons q qs ih =>
      refine ih ?_
      cases q with
      | addition a time o =>
          rw [afterRequest]
          split
          · exact Inventory.nodup_routes_addRoute (show (c.inventory.addAddress a).1.routes.Nodup
              from h) _
          · exact h
      | removal a o => exact h.filter _

theorem keysUnique_after {c : Controller} (h : LinkAddress.KeysUnique c.inventory.addresses)
    (qs : List Request) : LinkAddress.KeysUnique (c.after qs).inventory.addresses := by
  induction qs generalizing c with
  | nil => exact h
  | cons q qs ih =>
      refine ih ?_
      cases q with
      | addition a time o =>
          rw [afterRequest]
          split
          · rw [remember_eq]
            exact h.upsert a
          · exact h
      | removal a o => exact h.filter _

/-- Removals take out exactly the addresses they are about. -/
theorem addresses_after_removals {qs : List Request} (h : ∀ q ∈ qs, q.isRemoval = true)
    (c : Controller) :
    (c.after qs).inventory.addresses =
      c.inventory.addresses.filter (· ∉ qs.map Request.address) := by
  induction qs generalizing c with
  | nil => simp
  | cons q qs ih =>
      obtain ⟨a, o, rfl⟩ := Request.eq_removal (h _ List.mem_cons_self)
      rw [after_cons, ih fun q hq => h q (List.mem_cons_of_mem _ hq), List.map_cons,
        ← filter_ne_filter_notMem]
      rfl

theorem addresses_after_all {qs : List Request} (h : ∀ q ∈ qs, q.isRemoval = true)
    {c : Controller} (all : qs.map Request.address = c.inventory.addresses) :
    (c.after qs).inventory.addresses = [] := by
  rw [addresses_after_removals h, all]
  exact List.filter_eq_nil_iff.2 fun a ha => by simp [ha]

/-- Removals take out the routes of the addresses they are about, whoever else needs them. -/
theorem routes_after_removals {qs : List Request} (h : ∀ q ∈ qs, q.isRemoval = true)
    (c : Controller) :
    (c.after qs).inventory.routes =
      c.inventory.routes.filter (· ∉ (qs.map Request.address).map c.routeOf) := by
  induction qs generalizing c with
  | nil => simp
  | cons q qs ih =>
      obtain ⟨a, o, rfl⟩ := Request.eq_removal (h _ List.mem_cons_self)
      rw [after_cons, ih fun q hq => h q (List.mem_cons_of_mem _ hq), List.map_cons,
        List.map_cons, ← filter_ne_filter_notMem]
      rfl

/-- Additions bring the routes of the addresses that were granted. -/
theorem mem_routes_after_additions {qs : List Request} (h : ∀ q ∈ qs, q.isRemoval = false)
    (c : Controller) {x : Route} :
    x ∈ (c.after qs).inventory.routes ↔ x ∈ c.inventory.routes ∨
      ∃ q ∈ qs, q.isGranted = true ∧ x = c.routeOf q.address := by
  induction qs generalizing c with
  | nil => simp
  | cons q qs ih =>
      obtain ⟨a, time, o, rfl⟩ := Request.eq_addition (h _ List.mem_cons_self)
      rw [after_cons, ih fun q hq => h q (List.mem_cons_of_mem _ hq), List.exists_mem_cons_iff,
        ← or_assoc, afterRequest]
      cases ho : isAccepted o with
      | false => simp [Request.isGranted, ho]
      | true =>
          have same : (c.remember a).routeOf = c.routeOf := by
            rw [remember_eq]
            rfl
          rw [if_pos rfl, mem_routes_remember, same]
          simp [Request.isGranted, Request.address, ho]

/-- Additions under new keys go to the end in their order, except those that were not granted. -/
theorem addresses_after_additions {qs : List Request} (h : ∀ q ∈ qs, q.isRemoval = false)
    (c : Controller) (unique : LinkAddress.KeysUnique (qs.map Request.address))
    (new : ∀ q ∈ qs, q.address.key ∉ c.inventory.addresses.map LinkAddress.key) :
    (c.after qs).inventory.addresses =
      c.inventory.addresses ++ (qs.filter Request.isGranted).map Request.address := by
  induction qs generalizing c with
  | nil => simp
  | cons q qs ih =>
      obtain ⟨a, time, o, rfl⟩ := Request.eq_addition (h _ List.mem_cons_self)
      obtain ⟨ha, hqs⟩ := List.nodup_cons.1
        (show (a.key :: (qs.map Request.address).map LinkAddress.key).Nodup from unique)
      have rest := ih fun q hq => h q (List.mem_cons_of_mem _ hq)
      rw [after_cons, afterRequest]
      cases ho : isAccepted o with
      | false =>
          rw [if_neg (by simp), rest c hqs fun q hq => new q (List.mem_cons_of_mem _ hq)]
          simp [Request.isGranted, ho]
      | true =>
          have last : (c.remember a).inventory.addresses = c.inventory.addresses ++ [a] := by
            rw [remember_eq]
            exact LinkAddress.upsert_of_new (new _ List.mem_cons_self)
          -- What comes later has another key than the address that was just put in.
          have later : ∀ q ∈ qs,
              q.address.key ∉ (c.remember a).inventory.addresses.map LinkAddress.key := by
            intro q hq hk
            rw [last, List.map_append, List.mem_append] at hk
            rcases hk with hk | hk
            · exact new q (List.mem_cons_of_mem _ hq) hk
            · rw [List.map_singleton, List.mem_singleton] at hk
              rw [← hk] at ha
              exact ha (List.mem_map_of_mem (List.mem_map_of_mem hq))
          rw [if_pos rfl, rest _ hqs later, last]
          simp [Request.isGranted, Request.address, ho]

end Controller
end MeshLink
