import MeshLink.Proofs.Inventory
set_option autoImplicit false

/-! # Changes of what an interface carries

Addresses go in by key, routes by value, and both go out by value. Going in by value is going in by
the key that is the value itself, so two relations say what happens to a list: `Puts`, where an
entry takes the place of the one under its key, and `Takes`, where a value leaves the place at
which it stands. Both leave the rest of the list as it is, which is said of the relations once.

The lists start empty, and no change brings a key or a value in twice (`Inventory.Distinct.after`).
So what a change does to the one place that it is about, it does to all entries under a key. -/

namespace MeshLink

/-! ## One place in a list -/

section

variable {α κ : Type} {key : α → κ} {a b : α} {as bs : List α}

/-- An entry goes in: in the place of one under its key, or at the end if there is none. -/
inductive Puts (key : α → κ) (a : α) : List α → List α → Prop
  | inPlace (before after : List α) {old : α} :
      key old = key a → Puts key a (before ++ old :: after) (before ++ a :: after)
  | atEnd {as : List α} : key a ∉ as.map key → Puts key a as (as ++ [a])

/-- A value goes out of its place, if it has one. -/
inductive Takes (a : α) : List α → List α → Prop
  | out (before after : List α) : Takes a (before ++ a :: after) (before ++ after)
  | absent {as : List α} : a ∉ as → Takes a as as

theorem filter_key_of_mem [DecidableEq κ] (unique : (bs.map key).Nodup) (h : a ∈ bs) :
    bs.filter (key · = key a) = [a] := by
  induction bs with
  | nil => exact absurd h List.not_mem_nil
  | cons b bs ih =>
      obtain ⟨new, unique⟩ := List.nodup_cons.1 unique
      rcases List.mem_cons.1 h with rfl | later
      · have others : bs.filter (key · = key a) = [] := by
          refine List.filter_eq_nil_iff.2 fun x hx same => ?_
          rw [← of_decide_eq_true same] at new
          exact new (List.mem_map_of_mem hx)
        rw [List.filter_cons_of_pos (by simp), others]
      · have other : key b ≠ key a := fun same => new (same ▸ List.mem_map_of_mem later)
        rw [List.filter_cons_of_neg (by simpa using other), ih unique later]

namespace Puts

theorem cons (h : Puts key a as bs) (other : key b ≠ key a) : Puts key a (b :: as) (b :: bs) := by
  cases h with
  | inPlace before after same => exact inPlace (b :: before) after same
  | atEnd new =>
      refine atEnd ?_
      rw [List.map_cons, List.mem_cons, not_or]
      exact ⟨other.symm, new⟩

theorem nodup (h : Puts key a as bs) (unique : (as.map key).Nodup) : (bs.map key).Nodup := by
  cases h with
  | inPlace before after same =>
      rw [List.map_append, List.map_cons] at unique ⊢
      rwa [← same]
  | atEnd new =>
      rw [List.map_append, List.map_singleton, ← List.concat_eq_append]
      exact List.Nodup.concat new unique

theorem mem (h : Puts key a as bs) : a ∈ bs := by
  cases h with
  | inPlace => exact List.mem_append_right _ List.mem_cons_self
  | atEnd => exact List.mem_append_right _ (List.mem_singleton_self _)

variable [DecidableEq κ]

theorem filter_same (h : Puts key a as bs) (unique : (as.map key).Nodup) :
    bs.filter (key · = key a) = [a] :=
  filter_key_of_mem (h.nodup unique) h.mem

theorem filter_other (h : Puts key a as bs) :
    bs.filter (key · ≠ key a) = as.filter (key · ≠ key a) := by
  cases h with
  | inPlace before after same => simp [List.filter_append, same]
  | atEnd => simp [List.filter_append]

end Puts

theorem filter_ne_eq_self_iff [DecidableEq α] : as.filter (· ≠ a) = as ↔ a ∉ as := by
  rw [List.filter_eq_self]
  constructor
  · intro others there
    exact of_decide_eq_true (others a there) rfl
  · intro absent x there
    exact decide_eq_true fun same => absent (same ▸ there)

namespace Takes

theorem notMem (h : Takes a as bs) (unique : as.Nodup) : a ∉ bs := by
  cases h with
  | out => exact (List.nodup_middle.1 unique).notMem
  | absent new => exact new

variable [DecidableEq α]

theorem filter_other (h : Takes a as bs) : bs.filter (· ≠ a) = as.filter (· ≠ a) := by
  cases h with
  | out => simp [List.filter_append]
  | absent => rfl

/-- Without duplicates, dropping every entry that equals a value takes it out of its one place. -/
theorem of_filter (unique : as.Nodup) (a : α) : Takes a as (as.filter (· ≠ a)) := by
  by_cases there : a ∈ as
  · obtain ⟨before, after, rfl⟩ := List.append_of_mem there
    have alone : a ∉ before ++ after := (List.nodup_middle.1 unique).notMem
    have rest : (before ++ a :: after).filter (· ≠ a) = before ++ after := by
      rw [List.filter_append, List.filter_cons_of_neg (by simp), ← List.filter_append]
      exact filter_ne_eq_self_iff.2 alone
    rw [rest]
    exact out before after
  · rw [filter_ne_eq_self_iff.2 there]
    exact absent there

end Takes

end

/-! ## Addresses -/

namespace LinkAddress

theorem puts_upsert (a : LinkAddress) (as : List LinkAddress) : Puts key a as (a.upsert as) := by
  induction as with
  | nil => exact .atEnd List.not_mem_nil
  | cons b bs ih =>
      rw [upsert]
      by_cases same : b.key = a.key
      · rw [if_pos (sameKey_iff.2 same)]
        exact .inPlace [] bs same
      · rw [if_neg (mt sameKey_iff.1 same)]
        exact ih.cons same

/-- Putting an entry in changes nothing exactly if it is what is found under its key. -/
theorem upsert_eq_self_iff {a : LinkAddress} {as : List LinkAddress} :
    a.upsert as = as ↔ as.find? (·.sameKey a) = some a := by
  induction as with
  | nil => simp [upsert]
  | cons b bs ih =>
      rw [upsert, List.find?_cons]
      cases same : b.sameKey a with
      | true => simp [eq_comm]
      | false => simpa using ih

end LinkAddress

/-! ## Inventories -/

namespace Inventory

/-- What can be done to an inventory. -/
inductive Change
  | addAddress (a : LinkAddress)
  | removeAddress (a : LinkAddress)
  | addRoute (r : Route)
  | removeRoute (r : Route)
deriving DecidableEq

/-- Makes a change and tells whether it changed anything. -/
def apply (inv : Inventory) : Change → Inventory × Bool
  | .addAddress a => inv.addAddress a
  | .removeAddress a => inv.removeAddress a
  | .addRoute r => inv.addRoute r
  | .removeRoute r => inv.removeRoute r

/-- The inventory after some changes, one after another. -/
def after (inv : Inventory) (cs : List Change) : Inventory :=
  cs.foldl (fun inv c => (inv.apply c).1) inv

/-- No two addresses are under one key, and no route is there twice. -/
structure Distinct (inv : Inventory) : Prop where
  addresses : LinkAddress.KeysUnique inv.addresses
  routes : inv.routes.Nodup

variable {inv : Inventory}

theorem puts_addRoute (inv : Inventory) (r : Route) :
    Puts id r inv.routes (inv.addRoute r).1.routes := by
  rw [addRoute_fst]
  dsimp only
  split
  · next there =>
      obtain ⟨before, after, split⟩ := List.append_of_mem there
      rw [split]
      exact .inPlace before after rfl
  · next new => exact .atEnd (by rwa [List.map_id])

namespace Distinct

theorem empty (interface : String) (mtu : UInt32) : (Inventory.empty interface mtu).Distinct :=
  ⟨List.nodup_nil, List.nodup_nil⟩

theorem apply (h : inv.Distinct) (c : Change) : (inv.apply c).1.Distinct := by
  cases c with
  | addAddress a => exact ⟨h.addresses.upsert a, h.routes⟩
  | removeAddress a => exact ⟨h.addresses.filter _, h.routes⟩
  | addRoute r =>
      refine ⟨?_, nodup_routes_addRoute h.routes r⟩
      show LinkAddress.KeysUnique (inv.addRoute r).1.addresses
      rw [addRoute_fst]
      exact h.addresses
  | removeRoute r => exact ⟨h.addresses, h.routes.filter _⟩

theorem after (h : inv.Distinct) (cs : List Change) : (inv.after cs).Distinct := by
  induction cs generalizing inv with
  | nil => exact h
  | cons c cs ih => exact ih (h.apply c)

end Distinct

theorem with_addresses_ne_iff {as : List LinkAddress} :
    { inv with addresses := as } ≠ inv ↔ as ≠ inv.addresses := by
  cases inv
  simp

theorem with_routes_ne_iff {rs : List Route} :
    { inv with routes := rs } ≠ inv ↔ rs ≠ inv.routes := by
  cases inv
  simp

theorem filter_ne_iff_contains {α : Type} [DecidableEq α] {a : α} {as : List α} :
    as.filter (· ≠ a) ≠ as ↔ as.contains a = true := by
  rw [Ne, filter_ne_eq_self_iff, not_not, List.contains_iff_mem]

/-- A change tells that it changed something exactly if it did. -/
theorem told_iff (inv : Inventory) (c : Change) :
    (inv.apply c).2 = true ↔ (inv.apply c).1 ≠ inv := by
  cases c with
  | addAddress a =>
      refine Iff.trans ?_ with_addresses_ne_iff.symm
      exact bne_iff_ne.trans (not_congr LinkAddress.upsert_eq_self_iff.symm)
  | removeAddress a => exact (with_addresses_ne_iff.trans filter_ne_iff_contains).symm
  | addRoute r =>
      show (inv.addRoute r).2 = true ↔ (inv.addRoute r).1 ≠ inv
      rw [addRoute]
      split
      · simp
      · simp [with_routes_ne_iff]
  | removeRoute r => exact (with_routes_ne_iff.trans filter_ne_iff_contains).symm

/-- **Changes are exact.** After any changes of an empty inventory, addresses are unique by address
    and length and routes by value, and the next change tells exactly if it changes something. An
    address goes into the place of the one under its key, or to the end, and is alone under its key;
    a route goes to the end unless it is there; what is taken out by value leaves its place. All
    other addresses and routes stay, in their order. -/
theorem changes_are_exact (interface : String) (mtu : UInt32) (cs : List Change) :
    let inv := (empty interface mtu).after cs
    inv.Distinct ∧
    (∀ c, (inv.apply c).2 = true ↔ (inv.apply c).1 ≠ inv) ∧
    (∀ a, ∃ as, (inv.addAddress a).1 = { inv with addresses := as } ∧
      Puts LinkAddress.key a inv.addresses as ∧ as.filter (·.key = a.key) = [a] ∧
      as.filter (·.key ≠ a.key) = inv.addresses.filter (·.key ≠ a.key)) ∧
    (∀ a, ∃ as, (inv.removeAddress a).1 = { inv with addresses := as } ∧
      Takes a inv.addresses as ∧ a ∉ as ∧ as.filter (· ≠ a) = inv.addresses.filter (· ≠ a)) ∧
    (∀ r, ∃ rs, (inv.addRoute r).1 = { inv with routes := rs } ∧
      Puts id r inv.routes rs ∧ rs.filter (· = r) = [r] ∧
      rs.filter (· ≠ r) = inv.routes.filter (· ≠ r)) ∧
    (∀ r, ∃ rs, (inv.removeRoute r).1 = { inv with routes := rs } ∧
      Takes r inv.routes rs ∧ r ∉ rs ∧ rs.filter (· ≠ r) = inv.routes.filter (· ≠ r)) := by
  intro inv
  have distinct : inv.Distinct := (Distinct.empty interface mtu).after cs
  have routes : (inv.routes.map id).Nodup := by
    rw [List.map_id]
    exact distinct.routes
  refine ⟨distinct, told_iff inv, ?_, ?_, ?_, ?_⟩
  · intro a
    have puts := LinkAddress.puts_upsert a inv.addresses
    exact ⟨_, rfl, puts, puts.filter_same distinct.addresses, puts.filter_other⟩
  · intro a
    have unique := distinct.addresses.nodup
    have takes := Takes.of_filter unique a
    exact ⟨_, rfl, takes, takes.notMem unique, takes.filter_other⟩
  · intro r
    -- A route is its own key.
    have puts := puts_addRoute inv r
    refine ⟨_, ?_, puts, puts.filter_same routes, puts.filter_other⟩
    rw [addRoute_fst]
  · intro r
    have takes := Takes.of_filter distinct.routes r
    exact ⟨_, rfl, takes, takes.notMem distinct.routes, takes.filter_other⟩

/-- An address replaces the one under its key; to take that one out is then to change nothing. -/
example :
    let a := LinkAddress.of (.padded [0xfd]) 64 .permanent .permanent
    let b := LinkAddress.of (.padded [0xfd]) 64 (.at 10) .permanent
    let c := LinkAddress.of (.padded [0xfd]) 128 .permanent .permanent
    let inv := (empty "wpan0" 1280).after [.addAddress a, .addAddress c, .addAddress b]
    inv.addresses = [b, c] ∧ inv.apply (.removeAddress a) = (inv, false) := by
  decide

end Inventory
end MeshLink
