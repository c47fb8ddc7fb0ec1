import MeshLink.Proofs.Mirror
import MeshLink.Proofs.Turns
set_option autoImplicit false

/-! # The discipline of calls

What a controller asks about one address and length over its whole life, and about one group. It
never asks for the removal of what it does not mirror, never adds what it mirrors, and drops nothing
from the mirror without a request. So the log tells what is mirrored: a key exactly if the last
request about it was a granted addition, a group exactly if the last call about it was a join.

The invariant is `Disciplined`: the words that the log tells are words of a switch, and the switch
is on exactly while the mirror has the entry. A request that fits the mirror (`Fits`) is one more
letter, and each kind of operation is made of such requests and of calls about groups. -/

open scoped Computability

namespace MeshLink

/-- A request turns the switch of its key: a removal finds it on, and it is on after a granted
    addition. -/
theorem Request.turn_switch {q : Request} {w : List Turn}
    (h : Switch ({[.refused]} : Language Turn) .granted .removed q.isRemoval w) :
    Switch ({[.refused]} : Language Turn) .granted .removed q.isGranted (w ++ [q.turn]) := by
  cases q with
  | addition a time outcome =>
      rw [isGranted, turn]
      cases Controller.isAccepted outcome with
      | false => exact .idle rfl h
      | true => exact .on h
  | removal a outcome => exact .off h

namespace Controller

/-- A request that fits the mirror: a removal is about a mirrored address, an addition about a key
    that is not mirrored. -/
def Fits (c : Controller) (q : Request) : Prop :=
  if q.isRemoval then q.address ∈ c.inventory.addresses
  else q.address.key ∉ c.inventory.addresses.map LinkAddress.key

/-- After a request that fits, the other keys are mirrored as before, and its own key if the request
    was granted. -/
theorem Fits.mem_addresses {c : Controller} {q : Request} (fits : c.Fits q)
    (unique : LinkAddress.KeysUnique c.inventory.addresses) (a : LinkAddress) :
    a ∈ (c.afterRequest q).inventory.addresses ↔
      (a ∈ c.inventory.addresses ∧ a.key ≠ q.address.key) ∨
        (q.isGranted = true ∧ a = q.address) := by
  cases q with
  | addition b time outcome =>
      have new : b.key ∉ c.inventory.addresses.map LinkAddress.key := fits
      have others : a ∈ c.inventory.addresses → a.key ≠ b.key := fun ha same =>
        new (same ▸ List.mem_map_of_mem ha)
      rw [afterRequest, Request.isGranted]
      cases accepted : isAccepted outcome with
      | false => simpa [Request.address] using others
      | true =>
          rw [if_pos rfl, remember_eq]
          show a ∈ b.upsert c.inventory.addresses ↔ _
          rw [LinkAddress.upsert_of_new new, List.mem_append, List.mem_singleton]
          exact or_congr (iff_self_and.2 others) (and_iff_right rfl).symm
  | removal b outcome =>
      have mirrored : b ∈ c.inventory.addresses := fits
      rw [afterRequest, forget_eq]
      show a ∈ c.inventory.addresses.filter (· ≠ b) ↔ _
      rw [List.mem_filter, decide_eq_true_iff]
      have same : a ∈ c.inventory.addresses → (a ≠ b ↔ a.key ≠ b.key) := fun ha =>
        not_congr ⟨fun he => congrArg _ he, unique.eq_of_key_eq ha mirrored⟩
      simpa [Request.isGranted, Request.address] using same

/-- A request that fits finds its key mirrored exactly if it is a removal. -/
theorem Fits.key_mem_iff {c : Controller} {q : Request} (fits : c.Fits q) :
    q.address.key ∈ c.inventory.addresses.map LinkAddress.key ↔ q.isRemoval = true := by
  rw [Fits] at fits
  cases kind : q.isRemoval with
  | false => exact iff_of_false (by simpa [kind] using fits) Bool.false_ne_true
  | true => exact iff_of_true (List.mem_map_of_mem (by simpa [kind] using fits)) rfl

theorem Fits.mem_keys {c : Controller} {q : Request} (fits : c.Fits q)
    (unique : LinkAddress.KeysUnique c.inventory.addresses) (key : Ipv6 × UInt8) :
    key ∈ (c.afterRequest q).inventory.addresses.map LinkAddress.key ↔
      if q.address.key = key then q.isGranted = true
      else key ∈ c.inventory.addresses.map LinkAddress.key := by
  have mem := fits.mem_addresses unique
  rw [List.mem_map, List.mem_map]
  split
  · next own =>
      subst own
      constructor
      · rintro ⟨a, ha, same⟩
        exact (((mem a).1 ha).resolve_left fun old => old.2 same).1
      · intro granted
        exact ⟨_, (mem _).2 (.inr ⟨granted, rfl⟩), rfl⟩
  · next other =>
      constructor
      · rintro ⟨a, ha, rfl⟩
        rcases (mem a).1 ha with old | ⟨-, rfl⟩
        · exact ⟨a, old.1, rfl⟩
        · exact absurd rfl other
      · rintro ⟨a, ha, rfl⟩
        exact ⟨a, (mem a).2 (.inl ⟨ha, fun same => other same.symm⟩), rfl⟩

/-- A request still fits after one about another key. -/
theorem Fits.afterRequest {c : Controller} {p q : Request} (fits : c.Fits p)
    (unique : LinkAddress.KeysUnique c.inventory.addresses) (first : c.Fits q)
    (other : p.address.key ≠ q.address.key) : (c.afterRequest q).Fits p := by
  rw [Fits] at fits ⊢
  cases kind : p.isRemoval with
  | false =>
      rw [kind, if_neg Bool.false_ne_true] at fits
      rwa [if_neg Bool.false_ne_true, first.mem_keys unique, if_neg other.symm]
  | true =>
      rw [kind, if_pos rfl] at fits
      rw [if_pos rfl]
      exact (first.mem_addresses unique _).2 (.inl ⟨fits, other⟩)

/-- What a snapshot calls about a group follows from whether it is mirrored and whether it is
    wanted, and turns its switch from the one to the other. -/
theorem Reconciles.groups_switch {σ : Type} [Host σ] {c : Controller}
    {snapshot : List AddressReport} {s s' : Shared σ} {t : Reconciliation}
    (step : c.Reconciles snapshot s t s') {g : Ipv6} {w : List GroupTurn}
    (before : Switch (0 : Language GroupTurn) .joined .left (decide (g ∈ c.groups)) w)
    (seq : UInt32) :
    Switch (0 : Language GroupTurn) .joined .left (decide (g ∈ desiredGroups snapshot))
      (w ++ (groupTurns g (t.calls seq)).map Prod.fst) := by
  by_cases old : g ∈ c.groups <;> by_cases new : g ∈ desiredGroups snapshot
  · rw [step.groupTurns_kept (iff_of_true old new), decide_eq_true new]
    rw [decide_eq_true old] at before
    simpa using before
  · obtain ⟨outcome, once⟩ := step.groupTurns_left old new seq
    rw [once, decide_eq_false new]
    rw [decide_eq_true old] at before
    exact .off before
  · obtain ⟨outcome, -, once⟩ := step.groupTurns_joined old new seq
    rw [once, decide_eq_true new]
    rw [decide_eq_false old] at before
    exact .on before
  · rw [step.groupTurns_kept (iff_of_false old new), decide_eq_false new]
    rw [decide_eq_false old] at before
    simpa using before

/-- The log and the mirror tell the same. -/
structure Disciplined (c : Controller) (calls : List Call) : Prop where
  keys : ∀ key, Switch ({[.refused]} : Language Turn) .granted .removed
    (decide (key ∈ c.inventory.addresses.map LinkAddress.key))
    ((askedAbout key calls).map Asked.turn)
  flags : ∀ a ∈ c.inventory.addresses, ∃ q, (askedAbout a.key calls).getLast? = some q ∧
    q.message.extendedFlags = some a.flags
  groups : ∀ g, Switch (0 : Language GroupTurn) .joined .left (decide (g ∈ c.groups))
    ((groupTurns g calls).map Prod.fst)

namespace Disciplined

variable {c c' : Controller} {calls calls' : List Call}

/-- The discipline is about addresses, groups and what is asked about them. -/
theorem of_same (h : c.Disciplined calls)
    (addresses : c'.inventory.addresses = c.inventory.addresses) (groups : c'.groups = c.groups)
    (asked : ∀ key, askedAbout key calls' = askedAbout key calls)
    (turns : ∀ g, groupTurns g calls' = groupTurns g calls) : c'.Disciplined calls' where
  keys key := by
    rw [addresses, asked]
    exact h.keys key
  flags a ha := by
    rw [asked]
    rw [addresses] at ha
    exact h.flags a ha
  groups g := by
    rw [groups, turns]
    exact h.groups g

/-! ### Requests -/

/-- A request that fits keeps the discipline, whatever comes of it. -/
theorem request (h : c.Disciplined calls) (unique : LinkAddress.KeysUnique c.inventory.addresses)
    {q : Request} (fits : c.Fits q) (ifIndex seq : UInt32) :
    (c.afterRequest q).Disciplined (calls ++ [q.call ifIndex seq]) := by
  have mem := fits.mem_addresses unique
  refine ⟨?_, ?_, ?_⟩
  · intro key
    have keys := fits.mem_keys unique key
    rw [Request.askedAbout_concat]
    by_cases own : q.address.key = key
    · subst own
      -- The switch was on exactly if this is a removal, and is on now exactly if it is granted.
      rw [if_pos rfl] at keys
      have before := Bool.eq_iff_iff.2 (decide_eq_true_iff.trans fits.key_mem_iff)
      have after := Bool.eq_iff_iff.2 (decide_eq_true_iff.trans keys)
      have turn := h.keys q.address.key
      rw [before] at turn
      rw [after, if_pos rfl, List.map_append, List.map_singleton, Request.turn_asked]
      exact Request.turn_switch turn
    · rw [if_neg own] at keys
      rw [decide_eq_decide.2 keys, if_neg own, List.append_nil]
      exact h.keys key
  · intro a ha
    rw [Request.askedAbout_concat]
    rcases (mem a).1 ha with ⟨old, other⟩ | ⟨granted, rfl⟩
    · rw [if_neg other.symm, List.append_nil]
      exact h.flags a old
    · refine ⟨q.asked ifIndex seq, ?_, ?_⟩
      · rw [if_pos rfl, List.getLast?_concat]
      · cases q with
        | addition b time outcome => rfl
        | removal b outcome => exact absurd granted Bool.false_ne_true
  · intro g
    have groups : (c.afterRequest q).groups = c.groups := by
      show (c.after [q]).groups = c.groups
      rw [after_eq]
    have turns : groupTurns g (calls ++ [q.call ifIndex seq]) = groupTurns g calls := by
      rw [groupTurns_append]
      exact List.append_nil _
    rw [groups, turns]
    exact h.groups g

/-- Requests about different keys that all fit keep the discipline. -/
theorem requests {qs : List Request} (h : c.Disciplined calls)
    (unique : LinkAddress.KeysUnique c.inventory.addresses) (fits : ∀ q ∈ qs, c.Fits q)
    (distinct : LinkAddress.KeysUnique (qs.map Request.address)) (ifIndex seq : UInt32) :
    (c.after qs).Disciplined (calls ++ Request.calls ifIndex seq qs) := by
  induction qs generalizing c calls seq with
  | nil =>
      rw [Request.calls, List.append_nil]
      exact h
  | cons q qs ih =>
      obtain ⟨others, distinct⟩ := List.nodup_cons.1
        (show (q.address.key :: (qs.map Request.address).map LinkAddress.key).Nodup from distinct)
      obtain ⟨first, rest⟩ := List.forall_mem_cons.1 fits
      have next := h.request unique first ifIndex seq
      have later : ∀ p ∈ qs, (c.afterRequest q).Fits p := by
        intro p hp
        refine (rest p hp).afterRequest unique first ?_
        intro same
        exact others (same ▸ List.mem_map_of_mem (List.mem_map_of_mem hp))
      have done := ih next (keysUnique_after unique [q]) later distinct (seq + 1)
      rw [List.append_assoc] at done
      exact done

/-! ### Operations -/

variable {σ : Type} [Host σ] {s s' : Shared (Recorded σ)}

theorem rests (h : c.Disciplined s.host.calls) {es : List Exchange} (rest : Rests s es s')
    (addresses : c'.inventory.addresses = c.inventory.addresses) (groups : c'.groups = c.groups) :
    c'.Disciplined s'.host.calls := by
  obtain ⟨asked, turns⟩ := untold_of_quiet rest.quiet
  refine h.of_same addresses groups ?_ ?_
  · intro key
    rw [rest.dialogue.calls_eq, askedAbout_append, asked, List.append_nil]
  · intro g
    rw [rest.dialogue.calls_eq, groupTurns_append, turns, List.append_nil]

theorem strips (h : c.Disciplined s.host.calls)
    (unique : LinkAddress.KeysUnique c.inventory.addresses) {ifIndex : UInt32}
    {qs : List Request} (strip : c.Strips ifIndex s qs s') :
    c.stripped.Disciplined s'.host.calls := by
  have fits : ∀ q ∈ qs, c.Fits q := by
    intro q hq
    rw [Fits, if_pos (strip.removals q hq), ← strip.removed]
    exact List.mem_map_of_mem hq
  have distinct : LinkAddress.KeysUnique (qs.map Request.address) := by
    rw [strip.removed]
    exact unique
  have after := h.requests unique fits distinct ifIndex s.sequence
  rw [strip.calls_eq]
  refine after.of_same ?_ ?_ (fun _ => rfl) fun _ => rfl
  · exact (addresses_after_all strip.removals strip.removed).symm
  · rw [after_eq]
    rfl

theorem reconciles (h : c.Disciplined s.host.calls)
    (unique : LinkAddress.KeysUnique c.inventory.addresses) {snapshot : List AddressReport}
    {t : Reconciliation} (step : c.Reconciles snapshot s t s') :
    (c.reconciled snapshot t).Disciplined s'.host.calls := by
  have removed : (c.after t.removals).Disciplined
      (s.host.calls ++ Request.calls t.ifIndex s.sequence t.removals) := by
    refine h.requests unique ?_ ?_ _ _
    · intro q hq
      have mirrored : q.address ∈ t.removals.map Request.address := List.mem_map_of_mem hq
      rw [step.removed_eq unique] at mirrored
      rw [Fits, if_pos (step.removals q hq)]
      exact List.mem_of_mem_filter mirrored
    · rw [step.removed_eq unique]
      exact unique.filter _
  have asked : (c.after t.requests).Disciplined
      (s.host.calls ++ Request.calls t.ifIndex s.sequence t.requests) := by
    have added := removed.requests (keysUnique_after unique _) ?_ step.keysUnique_added t.ifIndex
      (s.sequence + UInt32.ofNat t.removals.length)
    · rw [← after_append, List.append_assoc, ← Request.calls_append] at added
      exact added
    · intro q hq
      rw [Fits, if_neg (ne_true_of_eq_false (step.additions q hq))]
      exact step.key_notMem q hq
  have calls : s'.host.calls =
      s.host.calls ++ Request.calls t.ifIndex s.sequence t.requests ++ t.groupCalls := by
    rw [step.calls_eq, Reconciliation.calls, List.append_assoc]
  have untold : ∀ key, askedAbout key s'.host.calls =
      askedAbout key (s.host.calls ++ Request.calls t.ifIndex s.sequence t.requests) := by
    intro key
    rw [calls, askedAbout_append, t.askedAbout_groupCalls, List.append_nil]
  refine ⟨?_, ?_, ?_⟩
  · intro key
    rw [untold]
    exact asked.keys key
  · intro a ha
    rw [untold]
    exact asked.flags a ha
  · intro g
    have wanted : g ∈ (c.reconciled snapshot t).groups ↔ g ∈ desiredGroups snapshot :=
      Diff.mem_distinct
    rw [step.calls_eq, groupTurns_append, List.map_append, decide_eq_decide.2 wanted]
    exact step.groups_switch (h.groups g) s.sequence

end Disciplined

variable {σ : Type} [Host σ] {c c' : Controller} {s s' : Shared (Recorded σ)}

/-- Every operation keeps the discipline. -/
theorem Transition.disciplined {op : Operation} {result : ControllerResult}
    (t : c.Transition s op result c' s') (h : c.Disciplined s.host.calls)
    (unique : LinkAddress.KeysUnique c.inventory.addresses) : c'.Disciplined s'.host.calls := by
  induction t with
  | notStarted _ rest => exact h.rests rest rfl rfl
  | started _ _ rest => exact h.rests rest rfl rfl
  | notSwitched => exact h
  | notRaised _ rest => exact h.rests rest rfl rfl
  | raised _ rest => exact h.rests rest rfl rfl
  | lowered _ strip rest => exact (h.strips unique strip).rests rest rfl rfl
  | ignored => exact h
  | reconciled step => exact h.reconciles unique step
  | prefixes =>
      refine h.of_same ?_ ?_ (fun _ => rfl) fun _ => rfl <;> rw [updatePrefixes_eq]
  | died _ ih => exact ih
  | destroyedBefore => exact h
  | destroyedUnused => exact h.of_same rfl rfl (fun _ => rfl) fun _ => rfl
  | destroyed _ strip rest => exact (h.strips unique strip).rests rest rfl rfl

theorem disciplined_new (config : Config) : (new config).Disciplined [] where
  keys _ := .start
  flags _ ha := absurd ha List.not_mem_nil
  groups _ := .start

variable {config : Config} {start : Shared (Recorded σ)}

/-- A run keeps the discipline as long as nobody else makes calls. -/
theorem Reaches.disciplined {between : Shared (Recorded σ) → Shared (Recorded σ) → Prop}
    (alone : ∀ {s s'}, between s s' → s'.host.calls = s.host.calls)
    (silent : start.host.calls = []) (reach : Reaches between config start c s) :
    c.Disciplined s.host.calls := by
  have both : LinkAddress.KeysUnique c.inventory.addresses ∧ c.Disciplined s.host.calls := by
    refine reach.invariant
      (P := fun c s => LinkAddress.KeysUnique c.inventory.addresses ∧ c.Disciplined s.host.calls)
      ⟨List.nodup_nil, ?_⟩ (fun t h => ⟨t.keysUnique h.1, t.disciplined h.2 h.1⟩) ?_
    · rw [silent]
      exact disciplined_new config
    · intro c s s' change h
      rw [alone change]
      exact h
  exact both.2

namespace Disciplined

variable {calls : List Call}

/-- A key is mirrored exactly if the last request about it was a granted addition. -/
theorem mem_keys_iff (h : c.Disciplined calls) (key : Ipv6 × UInt8) :
    key ∈ c.inventory.addresses.map LinkAddress.key ↔
      ∃ q, (askedAbout key calls).getLast? = some q ∧ q.turn = .granted := by
  have busy : [Turn.granted] ∉ ({[.refused]} : Language Turn) := fun same =>
    absurd (show [Turn.granted] = [.refused] from same) (by decide)
  have last := (h.keys key).getLast?_eq_on_iff busy (by decide)
  rw [decide_eq_true_iff, List.getLast?_map, Option.map_eq_some_iff] at last
  exact last.symm

/-- A group is mirrored exactly if the last call about it was a join. -/
theorem mem_groups_iff (h : c.Disciplined calls) (g : Ipv6) :
    g ∈ c.groups ↔ ∃ outcome, (groupTurns g calls).getLast? = some (.joined, outcome) := by
  have last := (h.groups g).getLast?_eq_on_iff (Language.notMem_zero _) (by decide)
  rw [decide_eq_true_iff, List.getLast?_map, Option.map_eq_some_iff] at last
  rw [← last]
  constructor
  · rintro ⟨⟨turn, outcome⟩, told, rfl⟩
    exact ⟨outcome, told⟩
  · rintro ⟨outcome, told⟩
    exact ⟨_, told, rfl⟩

end Disciplined

/-- **The discipline of calls.** Over the whole life of a controller, whatever operations it goes
    through and whatever its host answers: what it asks about one key is additions that are refused,
    then one that is granted, then a removal, and so on; the key is mirrored exactly while the last
    request about it is a granted addition, under the flags that this request carried. What it asks
    about one group is joins and leaves in turn, and the group is mirrored exactly while the last
    call about it is a join. -/
theorem Reaches.calls_take_turns
    (reach : Reaches (fun s s' => s'.host.calls = s.host.calls) config start c s)
    (silent : start.host.calls = []) :
    (∀ key,
      (∃ rest, (askedAbout key s.host.calls).map Asked.turn ++ rest ∈
        ({[.refused]}∗ * {[.granted]} * {[.removed]} : Language Turn)∗) ∧
      (key ∈ c.inventory.addresses.map LinkAddress.key ↔
        ∃ q, (askedAbout key s.host.calls).getLast? = some q ∧ q.turn = .granted) ∧
      ∀ a ∈ c.inventory.addresses, a.key = key →
        ∃ q, (askedAbout key s.host.calls).getLast? = some q ∧
          q.message.extendedFlags = some a.flags) ∧
    ∀ g,
      (∃ rest, (groupTurns g s.host.calls).map Prod.fst ++ rest ∈
        ({[.joined]} * {[.left]} : Language GroupTurn)∗) ∧
      (g ∈ c.groups ↔
        ∃ outcome, (groupTurns g s.host.calls).getLast? = some (.joined, outcome)) := by
  have h := reach.disciplined id silent
  refine ⟨?_, ?_⟩
  · intro key
    refine ⟨(h.keys key).exists_append_mem_turns, h.mem_keys_iff key, ?_⟩
    rintro a ha rfl
    exact h.flags a ha
  · intro g
    refine ⟨?_, h.mem_groups_iff g⟩
    have turns := (h.groups g).exists_append_mem_turns
    rw [Switch.turns, kstar_zero, one_mul] at turns
    exact turns

/-- An address is refused at first, is granted, loses its preference, goes with the mesh daemon,
    though the kernel fails to remove it, and comes back; a group is joined, left and joined
    again. -/
theorem calls_take_turns_of_returning :
    let start : Shared (Recorded MemoryKernel) :=
      ⟨0, { MemoryKernel.idle 0 with failingSends := [0, 4] }, []⟩
    let ops : List Operation := [.start ⟨Config.defaultInterface⟩,
      .addresses [.numbered 1 true, .numberedGroup 1], .setUp true,
      .addresses [.numbered 1 true, .numberedGroup 2], .addresses [.numbered 1 false],
      .daemonDied, .addresses [.numbered 1 false, .numberedGroup 2]]
    let c := ((new .default).run start ops).1
    let s := ((new .default).run start ops).2
    let key := (LinkAddress.numbered 1).key
    Reaches (fun s s' => s'.host.calls = s.host.calls) .default start c s ∧
      start.host.calls = [] ∧
      (askedAbout key s.host.calls).map Asked.turn =
        [.refused, .granted, .removed, .granted, .removed, .granted] ∧
      (groupTurns (.numberedGroup 2) s.host.calls).map Prod.fst = [.joined, .left, .joined] ∧
      (∀ key,
        (∃ rest, (askedAbout key s.host.calls).map Asked.turn ++ rest ∈
          ({[.refused]}∗ * {[.granted]} * {[.removed]} : Language Turn)∗) ∧
        (key ∈ c.inventory.addresses.map LinkAddress.key ↔
          ∃ q, (askedAbout key s.host.calls).getLast? = some q ∧ q.turn = .granted) ∧
        ∀ a ∈ c.inventory.addresses, a.key = key →
          ∃ q, (askedAbout key s.host.calls).getLast? = some q ∧
            q.message.extendedFlags = some a.flags) ∧
      ∀ g,
        (∃ rest, (groupTurns g s.host.calls).map Prod.fst ++ rest ∈
          ({[.joined]} * {[.left]} : Language GroupTurn)∗) ∧
        (g ∈ c.groups ↔
          ∃ outcome, (groupTurns g s.host.calls).getLast? = some (.joined, outcome)) := by
  intro start ops c s key
  have reach : Reaches (fun s s' => s'.host.calls = s.host.calls) .default start c s :=
    Reaches.run ops .new
  exact ⟨reach, rfl, by decide +kernel, by decide +kernel, reach.calls_take_turns rfl⟩

end Controller
end MeshLink
