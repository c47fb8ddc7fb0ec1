import MeshLink.Proofs.Alike
import MeshLink.Proofs.Fleet
import MeshLink.Proofs.SideBySide
set_option autoImplicit false

/-! # Snapshots of networks stay in memory

A snapshot of on-mesh networks changes the remembered routes and nothing else, and no operation
reads a route or an on-mesh network to find out what to ask for: addresses are compared with
addresses, and stripping the interface goes through the addresses first and forgets the routes
without a call. So controllers that differ in routes and networks only stay like that
(`Controller.congruence_unrouted`), ask the same and are answered the same.

A run without the snapshots of networks is therefore the same run, seen from the kernel. -/

namespace MeshLink

namespace Controller

/-- A controller without its routes and its on-mesh networks. -/
def unrouted (c : Controller) : Controller :=
  { c with
    inventory := { c.inventory with routes := [] }
    onMesh := [] }

theorem unrouted_remember (c : Controller) (a : LinkAddress) :
    (c.remember a).unrouted = (c.unrouted.remember a).unrouted := by
  rw [remember_eq c, remember_eq c.unrouted]
  rfl

theorem unrouted_unroute (c : Controller) :
    ({ c.inventory.routes.foldl forgetRoute c with onMesh := [] } : Controller).unrouted =
      c.unrouted := by
  rw [foldl_forgetRoute]
  rfl

theorem unrouted_updatePrefixes (c : Controller) (snapshot : List PrefixReport) :
    (c.updatePrefixes snapshot).unrouted = c.unrouted := by
  rw [updatePrefixes_eq]
  rfl

/-- No operation makes anything of routes and on-mesh networks. -/
theorem congruence_unrouted : Congruence fun c d => c.unrouted = d.unrouted where
  config := congrArg config
  state := congrArg state
  resources := congrArg resources
  addresses same := congrArg (·.inventory.addresses) same
  groups := congrArg groups
  remember {c d} a same := by rw [unrouted_remember c, unrouted_remember d, same]
  forget a same := congrArg (fun c => (c.forget a).unrouted) same
  unroute {c d} same := by rw [unrouted_unroute c, unrouted_unroute d, same]
  enter state same := congrArg (fun c => { c with state := state }) same
  hold resources same := congrArg (fun c => { c with resources := resources }) same
  regroup groups same := congrArg (fun c => { c with groups := groups }) same
  prefixes {c d} snapshot same := by
    rw [unrouted_updatePrefixes c, unrouted_updatePrefixes d, same]

end Controller

/-- **Controllers that differ in routes and on-mesh networks only** do the same, and still differ in
    these only. -/
theorem Controller.apply_unrouted {σ : Type} [Host σ] {c d : Controller}
    (same : c.unrouted = d.unrouted) (op : Operation) (s : Shared σ) :
    (c.apply op s).1.1 = (d.apply op s).1.1 ∧
      (c.apply op s).1.2.unrouted = (d.apply op s).1.2.unrouted ∧
      (c.apply op s).2 = (d.apply op s).2 := by
  obtain ⟨⟨result, controllers⟩, states⟩ :=
    Alike.refl.apply Controller.congruence_unrouted same op s s rfl
  exact ⟨result, controllers, states⟩

section

variable {α β : Type} {f : α → β} {xs ys : List α}

theorem getElem?_of_map_eq (same : xs.map f = ys.map f) (i : Nat) :
    (xs[i]? = none ∧ ys[i]? = none) ∨
      ∃ x y, xs[i]? = some x ∧ ys[i]? = some y ∧ f x = f y := by
  have here : xs[i]?.map f = ys[i]?.map f := by
    rw [← List.getElem?_map, ← List.getElem?_map, same]
  cases hx : xs[i]? <;> cases hy : ys[i]? <;> simp_all

theorem map_set_congr {x y : α} (same : xs.map f = ys.map f) (seen : f x = f y) (i : Nat) :
    (xs.set i x).map f = (ys.set i y).map f := by
  rw [List.map_set, List.map_set, same, seen]

theorem map_set_of_eq {i : Nat} {x y : α} (present : xs[i]? = some x) (same : f x = f y) :
    (xs.set i y).map f = xs.map f := by
  rw [List.map_set, ← same, ← List.map_set, set_of_getElem?_eq present]

end

/-! ## Fleets -/

/-- A member without its routes and on-mesh networks. -/
def FleetMember.unrouted (m : FleetMember) : FleetMember :=
  { m with controller := m.controller.unrouted }

/-- The step hands a snapshot of networks to a controller. -/
def FleetStep.isPrefixes {σ : Type} : FleetStep σ → Bool
  | .operate _ (.prefixes _) => true
  | _ => false

theorem FleetStep.eq_of_isPrefixes {σ : Type} {step : FleetStep σ} (h : step.isPrefixes = true) :
    ∃ m snapshot, step = .operate m (.prefixes snapshot) := by
  unfold isPrefixes at h
  split at h
  · exact ⟨_, _, rfl⟩
  · cases h

namespace Fleet

variable {σ : Type} {f g : Fleet σ}

/-- Fleets that differ in routes and on-mesh networks only. -/
structure SameUnrouted (f g : Fleet σ) : Prop where
  counters_eq : f.counters = g.counters
  members_eq : f.members.map (·.unrouted) = g.members.map (·.unrouted)
  host_eq : f.host = g.host
  log_eq : f.log = g.log

theorem SameUnrouted.trans {e : Fleet σ} (first : e.SameUnrouted f) (next : f.SameUnrouted g) :
    e.SameUnrouted g where
  counters_eq := first.counters_eq.trans next.counters_eq
  members_eq := first.members_eq.trans next.members_eq
  host_eq := first.host_eq.trans next.host_eq
  log_eq := first.log_eq.trans next.log_eq

variable [Host σ]

/-- The result of the operation of a step, where there is one and it is carried out. -/
def answer (f : Fleet σ) : FleetStep σ → Option ControllerResult
  | .operate m op =>
    match f.members[m]? with
    | none => none
    | some ⟨place, c⟩ => f.counters.next[place]?.map fun n =>
        (c.apply op (⟨n, f.host, []⟩ : Shared (Recorded σ))).1.1
  | _ => none

/-- A step with its result. -/
def act (f : Fleet σ) (step : FleetStep σ) : Option ControllerResult × Fleet σ :=
  (f.answer step, f.step step)

theorem SameUnrouted.operate (same : f.SameUnrouted g) (m : Nat) (op : Operation) :
    f.answer (.operate m op) = g.answer (.operate m op) ∧
      (f.operate m op).SameUnrouted (g.operate m op) := by
  obtain ⟨counters, ms, h, log⟩ := f
  obtain ⟨_, ns, _, _⟩ := g
  obtain ⟨rfl, members, rfl, rfl⟩ := same
  have unchanged : SameUnrouted (⟨counters, ms, h, log⟩ : Fleet σ) ⟨counters, ns, h, log⟩ :=
    ⟨rfl, members, rfl, rfl⟩
  -- Both fleets have such a member or neither has, and their counters are the same.
  rcases getElem?_of_map_eq members m with ⟨hm, hn⟩ | ⟨⟨place, c⟩, ⟨_, d⟩, hm, hn, seen⟩
  · simp only [answer, Fleet.operate, hm, hn]
    exact ⟨trivial, unchanged⟩
  obtain rfl : place = _ := congrArg FleetMember.place seen
  cases next : counters.next[place]? with
  | none =>
      simp only [answer, Fleet.operate, hm, hn, next]
      exact ⟨rfl, unchanged⟩
  | some n =>
      obtain ⟨result, controllers, states⟩ :=
        Controller.apply_unrouted (congrArg FleetMember.controller seen) op
          (⟨n, h, []⟩ : Shared (Recorded σ))
      simp only [answer, Fleet.operate, hm, hn, next]
      refine ⟨congrArg some result, ?_, ?_, ?_, ?_⟩
      · rw [states]
      · have later : FleetMember.unrouted ⟨place, _⟩ = FleetMember.unrouted ⟨place, _⟩ :=
          congrArg (FleetMember.mk place) controllers
        exact map_set_congr members later m
      · rw [states]
      · rw [states]

/-- A snapshot of networks leaves a fleet as it is but for the routes and networks of a member. -/
theorem operate_prefixes (f : Fleet σ) (m : Nat) (snapshot : List PrefixReport) :
    (f.operate m (.prefixes snapshot)).SameUnrouted f := by
  rw [Fleet.operate]
  split
  · exact ⟨rfl, rfl, rfl, rfl⟩
  next place c present =>
    split
    · exact ⟨rfl, rfl, rfl, rfl⟩
    next n next =>
      refine ⟨?_, ?_, rfl, List.append_nil _⟩
      · show ({ f.counters with next := f.counters.next.set place n } : Counters) = f.counters
        rw [set_of_getElem?_eq next]
      · refine map_set_of_eq present ?_
        exact congrArg (FleetMember.mk place) (c.unrouted_updatePrefixes snapshot).symm

theorem SameUnrouted.act (same : f.SameUnrouted g) (step : FleetStep σ) :
    f.answer step = g.answer step ∧ (f.step step).SameUnrouted (g.step step) := by
  obtain ⟨counters, members, host, log⟩ := same
  cases step with
  | fresh => exact ⟨rfl, congrArg Counters.fresh counters, members, host, log⟩
  | clone i => exact ⟨rfl, congrArg (·.clone i) counters, members, host, log⟩
  | enlist config i =>
      refine ⟨rfl, ?_⟩
      rw [Fleet.step, Fleet.step, counters]
      split
      · exact ⟨counters, members, host, log⟩
      · refine ⟨rfl, ?_, host, log⟩
        rw [List.map_append, List.map_append, members]
  | operate m op => exact SameUnrouted.operate ⟨counters, members, host, log⟩ m op
  | change change => exact ⟨rfl, counters, members, congrArg change host, log⟩

end Fleet

/-! ## Sessions -/

/-- A member without its routes and on-mesh networks. -/
def Member.unrouted (m : Member) : Member :=
  { m with controller := m.controller.unrouted }

/-- The step hands a snapshot of networks to a controller. -/
def SessionStep.isPrefixes : SessionStep → Bool
  | .operate _ (.prefixes _) => true
  | _ => false

theorem SessionStep.eq_of_isPrefixes {step : SessionStep} (h : step.isPrefixes = true) :
    ∃ target snapshot, step = .operate target (.prefixes snapshot) := by
  unfold isPrefixes at h
  split at h
  · exact ⟨_, _, rfl⟩
  · cases h

namespace Session

variable {s t : Session}

/-- Sessions that differ in routes and on-mesh networks only. The number of the next request, the
    kernel with its clock and its scripted failures, and the log of its calls are the same, whoever
    was the last to ask. -/
structure SameUnrouted (s t : Session) : Prop where
  shared_eq : (s.facing 0).shared = (t.facing 0).shared
  members_eq : s.members.map (·.unrouted) = t.members.map (·.unrouted)

theorem SameUnrouted.trans {r : Session} (first : r.SameUnrouted s) (next : s.SameUnrouted t) :
    r.SameUnrouted t where
  shared_eq := first.shared_eq.trans next.shared_eq
  members_eq := first.members_eq.trans next.members_eq

theorem SameUnrouted.facing (same : s.SameUnrouted t) (ifIndex : UInt32) :
    (s.facing ifIndex).shared = (t.facing ifIndex).shared := by
  show (Session.facing ⟨(s.facing 0).shared, []⟩ ifIndex).shared =
    (Session.facing ⟨(t.facing 0).shared, []⟩ ifIndex).shared
  rw [same.shared_eq]

theorem SameUnrouted.operate (same : s.SameUnrouted t) (target : Nat) (op : Operation) :
    (s.operate target op).1 = (t.operate target op).1 ∧
      (s.operate target op).2.SameUnrouted (t.operate target op).2 := by
  rcases getElem?_of_map_eq same.members_eq target with
    ⟨hs, ht⟩ | ⟨⟨c, ifIndex⟩, ⟨d, _⟩, hs, ht, seen⟩
  · rw [operate_of_none hs, operate_of_none ht]
    exact ⟨rfl, same⟩
  obtain rfl : ifIndex = _ := congrArg Member.ifIndex seen
  obtain ⟨result, controllers, states⟩ :=
    Controller.apply_unrouted (congrArg Member.controller seen) op (t.facing ifIndex).shared
  rw [operate_eq hs, operate_eq ht, same.facing ifIndex]
  refine ⟨result, ?_, ?_⟩
  · exact congrArg (fun shared => (Session.facing ⟨shared, []⟩ 0).shared) states
  · have later : Member.unrouted ⟨_, ifIndex⟩ = Member.unrouted ⟨_, ifIndex⟩ :=
      congrArg (Member.mk · ifIndex) controllers
    exact map_set_congr same.members_eq later target

theorem SameUnrouted.changeHost (same : s.SameUnrouted t)
    (f : Scripted MemoryKernel → Scripted MemoryKernel)
    (passes : ∀ s : Session, (s.changeHost f).facing 0 = ((s.facing 0).changeHost f).facing 0) :
    (s.changeHost f).SameUnrouted (t.changeHost f) where
  shared_eq := by
    rw [passes s, passes t]
    show ((Session.changeHost ⟨(s.facing 0).shared, []⟩ f).facing 0).shared =
      ((Session.changeHost ⟨(t.facing 0).shared, []⟩ f).facing 0).shared
    rw [same.shared_eq]
  members_eq := same.members_eq

theorem SameUnrouted.step (same : s.SameUnrouted t) (step : SessionStep) :
    (s.step step).1 = (t.step step).1 ∧ (s.step step).2.SameUnrouted (t.step step).2 := by
  cases step with
  | start target device =>
      have name : s.deviceName target device = t.deviceName target device := by
        rcases getElem?_of_map_eq same.members_eq target with ⟨hs, ht⟩ | ⟨m, n, hs, ht, seen⟩
        · rw [deviceName, deviceName, hs, ht]
        · have config : m.controller.config = n.controller.config :=
            congrArg (·.controller.config) seen
          simp only [deviceName, hs, ht, Option.map_some, config]
      rw [Session.step, Session.step, name]
      split
      · exact ⟨rfl, same⟩
      · exact same.operate target _
  | operate target op => exact same.operate target op
  | advance ms =>
      exact ⟨rfl, same.changeHost (fun h => { h with host.time := h.host.time + ms }) fun _ => rfl⟩
  | change change => exact ⟨rfl, same.changeHost change.apply fun _ => rfl⟩

/-- A snapshot of networks leaves a session as it is but for the routes and networks of a member. -/
theorem operate_prefixes (s : Session) (target : Nat) (snapshot : List PrefixReport) :
    (s.operate target (.prefixes snapshot)).2.SameUnrouted s := by
  cases present : s.members[target]? with
  | none =>
      rw [operate_of_none present]
      exact ⟨rfl, rfl⟩
  | some m =>
      rw [operate_eq present]
      refine ⟨rfl, map_set_of_eq present ?_⟩
      exact congrArg (Member.mk · m.ifIndex) (m.controller.unrouted_updatePrefixes snapshot).symm

end Session

/-- **Snapshots of networks stay in memory.** Leaving them out of a run, of however many
    controllers, whatever else is done and whatever the host answers, changes no result, no counter
    and no call, nothing of the host and nothing of any controller but its routes and its on-mesh
    networks, at any of the other steps. -/
theorem prefixes_stay_in_memory :
    (∀ {σ : Type} [Host σ] (f : Fleet σ) (steps : List (FleetStep σ)),
      List.Forall₂
        (fun m n => m.input = n.input ∧ m.answer = n.answer ∧ m.after.SameUnrouted n.after)
        ((moments Fleet.act f steps).filter (!·.input.isPrefixes))
        (moments Fleet.act f (steps.filter (!·.isPrefixes)))) ∧
    ∀ (s : Session) (steps : List SessionStep),
      List.Forall₂
        (fun m n => m.input = n.input ∧ m.answer = n.answer ∧ m.after.SameUnrouted n.after)
        ((moments Session.step s steps).filter (!·.input.isPrefixes))
        (moments Session.step s (steps.filter (!·.isPrefixes))) := by
  constructor
  · intro σ _ f steps
    have same : f.SameUnrouted f := ⟨rfl, rfl, rfl, rfl⟩
    refine moments_filter (fun step : FleetStep σ => !step.isPrefixes) same ?_ ?_
    · intro step _ out f g same
      obtain ⟨m, snapshot, rfl⟩ := FleetStep.eq_of_isPrefixes (by simpa using out)
      exact (f.operate_prefixes m snapshot).trans same
    · intro step _ _ f g same
      obtain ⟨answers, after⟩ := same.act step
      exact ⟨after, rfl, answers, after⟩
  · intro s steps
    have same : s.SameUnrouted s := ⟨rfl, rfl⟩
    refine moments_filter (fun step : SessionStep => !step.isPrefixes) same ?_ ?_
    · intro step _ out s t same
      obtain ⟨target, snapshot, rfl⟩ := SessionStep.eq_of_isPrefixes (by simpa using out)
      exact (s.operate_prefixes target snapshot).trans same
    · intro step _ _ s t same
      obtain ⟨answers, after⟩ := same.step step
      exact ⟨after, rfl, answers, after⟩

end MeshLink
