import Mathlib.Data.List.Induction
import Mathlib.Data.List.Nodup
import MeshLink.Controller.Desired
import MeshLink.Diff
set_option autoImplicit false

/-! # Entries by key

An interface carries at most one entry for an address and a length, which together are the key of
an entry. Entries are put in by key (`LinkAddress.upsert`) but taken out by value, and the two
agree only while keys are unique (`LinkAddress.KeysUnique`): then a value is the only one under its
key, and an entry whose key is new goes to the end.

`Desired.addresses_eq` says what the fold over a snapshot builds: for each key, in order of first
occurrence, the entry of its last occurrence. -/

namespace MeshLink

/-! ## Lists without later duplicates -/

namespace Diff

variable {α : Type} [DecidableEq α]

theorem distinct_concat (xs : List α) (a : α) :
    distinct (xs ++ [a]) = if a ∈ xs then distinct xs else distinct xs ++ [a] := by
  induction xs with
  | nil => rfl
  | cons x xs ih =>
      rw [List.cons_append, distinct, ih, distinct]
      by_cases hx : a = x
      · subst hx
        by_cases ha : a ∈ xs <;> simp [ha]
      · by_cases ha : a ∈ xs <;> simp [ha, hx]

theorem distinct_of_nodup {xs : List α} (h : xs.Nodup) : distinct xs = xs := by
  induction xs with
  | nil => rfl
  | cons x xs ih =>
      obtain ⟨hx, hxs⟩ := List.nodup_cons.1 h
      rw [distinct, ih hxs, List.filter_eq_self.2]
      intro y hy
      exact decide_eq_true fun he => hx (he ▸ hy)

end Diff

/-! ## Keys -/

namespace LinkAddress

/-- The address and the length of an entry. -/
def key (a : LinkAddress) : Ipv6 × UInt8 :=
  (a.address, a.length)

theorem sameKey_iff {a b : LinkAddress} : a.sameKey b = true ↔ a.key = b.key := by
  simp [sameKey, key]

/-- No two entries are about the same address and length. -/
def KeysUnique (as : List LinkAddress) : Prop :=
  (as.map key).Nodup

/-- With unique keys an entry is the only one under its key. -/
theorem KeysUnique.eq_of_key_eq {as : List LinkAddress} (h : KeysUnique as) {a b : LinkAddress}
    (ha : a ∈ as) (hb : b ∈ as) (hk : a.key = b.key) : a = b :=
  List.inj_on_of_nodup_map h ha hb hk

theorem KeysUnique.nodup {as : List LinkAddress} (h : KeysUnique as) : as.Nodup :=
  List.Nodup.of_map key h

theorem KeysUnique.filter {as : List LinkAddress} (h : KeysUnique as) (p : LinkAddress → Bool) :
    KeysUnique (as.filter p) :=
  List.Nodup.sublist (List.filter_sublist.map key) h

theorem upsert_of_new {a : LinkAddress} {as : List LinkAddress} (h : a.key ∉ as.map key) :
    a.upsert as = as ++ [a] := by
  induction as with
  | nil => rfl
  | cons b bs ih =>
      rw [List.map_cons, List.mem_cons, not_or] at h
      have hb : ¬ b.sameKey a = true := fun hs => h.1 (sameKey_iff.1 hs).symm
      rw [upsert, if_neg hb, ih h.2, List.cons_append]

theorem map_key_upsert (a : LinkAddress) (as : List LinkAddress) :
    (a.upsert as).map key = if a.key ∈ as.map key then as.map key else as.map key ++ [a.key] := by
  induction as with
  | nil => rfl
  | cons b bs ih =>
      rw [upsert]
      by_cases hb : b.key = a.key
      · simp [sameKey_iff.2 hb, hb]
      · have hs : ¬ b.sameKey a = true := fun hs => hb (sameKey_iff.1 hs)
        rw [if_neg hs, List.map_cons, ih]
        by_cases ha : a.key ∈ bs.map key <;> simp [ha, Ne.symm hb]

theorem mem_map_key_upsert {a : LinkAddress} {as : List LinkAddress} {k : Ipv6 × UInt8} :
    k ∈ (a.upsert as).map key ↔ k ∈ as.map key ∨ k = a.key := by
  rw [map_key_upsert]
  split
  · next h => exact ⟨.inl, fun hk => hk.elim id fun he => he ▸ h⟩
  · rw [List.mem_append, List.mem_singleton]

theorem KeysUnique.upsert {as : List LinkAddress} (h : KeysUnique as) (a : LinkAddress) :
    KeysUnique (a.upsert as) := by
  rw [KeysUnique, map_key_upsert]
  split
  · exact h
  · next ha =>
      rw [← List.concat_eq_append]
      exact List.Nodup.concat ha h

/-- With unique keys, putting an entry in replaces what was under its key and nothing else. -/
theorem KeysUnique.mem_upsert {as : List LinkAddress} (h : KeysUnique as) {a x : LinkAddress} :
    x ∈ a.upsert as ↔ x = a ∨ (x ∈ as ∧ x.key ≠ a.key) := by
  induction as with
  | nil => simp [LinkAddress.upsert]
  | cons b bs ih =>
      obtain ⟨hb, hbs⟩ := List.nodup_cons.1 (show (b.key :: bs.map key).Nodup from h)
      rw [LinkAddress.upsert]
      by_cases hk : b.key = a.key
      -- The entry in front has the key, so none of the others has it.
      · have other : ∀ y ∈ bs, y.key ≠ a.key := fun y hy he =>
          hb (List.mem_map.2 ⟨y, hy, he.trans hk.symm⟩)
        rw [if_pos (sameKey_iff.2 hk), List.mem_cons, List.mem_cons]
        constructor
        · rintro (rfl | hx)
          · exact .inl rfl
          · exact .inr ⟨.inr hx, other x hx⟩
        · rintro (rfl | ⟨rfl | hx, hne⟩)
          · exact .inl rfl
          · exact absurd hk hne
          · exact .inr hx
      · have hs : ¬ b.sameKey a = true := fun hs => hk (sameKey_iff.1 hs)
        rw [if_neg hs, List.mem_cons, List.mem_cons, ih hbs]
        constructor
        · rintro (rfl | rfl | ⟨hx, hne⟩)
          · exact .inr ⟨.inl rfl, hk⟩
          · exact .inl rfl
          · exact .inr ⟨.inr hx, hne⟩
        · rintro (rfl | ⟨rfl | hx, hne⟩)
          · exact .inr (.inl rfl)
          · exact .inl rfl
          · exact .inr (.inr ⟨hx, hne⟩)

/-- The last entry about a key. -/
def lastAbout (as : List LinkAddress) (k : Ipv6 × UInt8) : Option LinkAddress :=
  as.reverse.find? (·.key = k)

/-- For each key, in order of first occurrence, the last entry about it. -/
def lastOfEach (as : List LinkAddress) : List LinkAddress :=
  (Diff.distinct (as.map key)).filterMap (lastAbout as)

/-- A table of entries in which an entry takes the place under its key. -/
def overlay (a : LinkAddress) (table : Ipv6 × UInt8 → Option LinkAddress) :
    Ipv6 × UInt8 → Option LinkAddress :=
  fun k => if a.key = k then some a else table k

theorem lastAbout_concat (as : List LinkAddress) (a : LinkAddress) :
    lastAbout (as ++ [a]) = overlay a (lastAbout as) := by
  funext k
  rw [lastAbout, List.reverse_concat, List.find?_cons, overlay]
  by_cases h : a.key = k
  · simp [h]
  · simp [h, lastAbout]

theorem key_of_lastAbout {as : List LinkAddress} {a : LinkAddress} {k : Ipv6 × UInt8}
    (h : lastAbout as k = some a) : a.key = k := by
  simpa using List.find?_some h

theorem lastAbout_isSome {as : List LinkAddress} {k : Ipv6 × UInt8} (h : k ∈ as.map key) :
    (lastAbout as k).isSome := by
  obtain ⟨a, ha, hk⟩ := List.mem_map.1 h
  exact List.find?_isSome.2 ⟨a, List.mem_reverse.2 ha, decide_eq_true hk⟩

/-- Putting an entry into the entries of a table, listed in the order of some keys. -/
theorem upsert_filterMap (table : Ipv6 × UInt8 → Option LinkAddress)
    (keyed : ∀ {k a}, table k = some a → a.key = k) {ks : List (Ipv6 × UInt8)} (unique : ks.Nodup)
    (full : ∀ k ∈ ks, (table k).isSome) (a : LinkAddress) :
    a.upsert (ks.filterMap table) =
      (if a.key ∈ ks then ks else ks ++ [a.key]).filterMap (overlay a table) := by
  induction ks with
  | nil => simp [upsert, overlay]
  | cons k ks ih =>
      obtain ⟨hk, hks⟩ := List.nodup_cons.1 unique
      obtain ⟨b, hb⟩ := Option.isSome_iff_exists.1 (full k List.mem_cons_self)
      rw [List.filterMap_cons_some hb, upsert]
      by_cases ha : a.key = k
      · -- The entry takes the place of the first one; no later key is its own.
        have head : overlay a table k = some a := if_pos ha
        have rest : ks.filterMap (overlay a table) = ks.filterMap table := by
          refine List.filterMap_congr fun j hj => if_neg ?_
          rintro rfl
          exact hk (ha ▸ hj)
        rw [if_pos (sameKey_iff.2 ((keyed hb).trans ha.symm)), if_pos (by simp [ha]),
          List.filterMap_cons_some head, rest]
      · -- The first entry stays, and the rest is the induction hypothesis.
        have hs : ¬ b.sameKey a = true := fun hs =>
          ha ((sameKey_iff.1 hs).symm.trans (keyed hb))
        have head : overlay a table k = some b := (if_neg ha).trans hb
        rw [if_neg hs, ih hks fun j hj => full j (List.mem_cons_of_mem _ hj)]
        by_cases hm : a.key ∈ ks
        · rw [if_pos hm, if_pos (List.mem_cons_of_mem _ hm), List.filterMap_cons_some head]
        · rw [if_neg hm, if_neg (by simp [ha, hm]), List.cons_append,
            List.filterMap_cons_some head]

theorem upsert_lastOfEach (as : List LinkAddress) (a : LinkAddress) :
    a.upsert (lastOfEach as) = lastOfEach (as ++ [a]) := by
  rw [lastOfEach, upsert_filterMap (lastAbout as) key_of_lastAbout (Diff.nodup_distinct _)
    (fun k hk => lastAbout_isSome (Diff.mem_distinct.1 hk)), lastOfEach, lastAbout_concat,
    List.map_append, List.map_singleton, Diff.distinct_concat]
  by_cases h : a.key ∈ as.map key <;> simp [h]

/-- Putting entries in one after another leaves the last one about each key, in the place of the
    first. -/
theorem foldl_upsert (as : List LinkAddress) :
    as.foldl (fun bs a => a.upsert bs) [] = lastOfEach as := by
  induction as using List.reverseRecOn with
  | nil => rfl
  | append_singleton as a ih => rw [List.foldl_concat, ih, upsert_lastOfEach]

theorem keysUnique_lastOfEach (as : List LinkAddress) : KeysUnique (lastOfEach as) := by
  rw [← foldl_upsert]
  induction as using List.reverseRecOn with
  | nil => exact List.nodup_nil
  | append_singleton as a ih => rw [List.foldl_concat]; exact ih.upsert a

theorem mem_map_key_lastOfEach {as : List LinkAddress} {k : Ipv6 × UInt8} :
    k ∈ (lastOfEach as).map key ↔ k ∈ as.map key := by
  rw [← foldl_upsert]
  induction as using List.reverseRecOn with
  | nil => rfl
  | append_singleton as a ih =>
      rw [List.foldl_concat, mem_map_key_upsert, ih, List.map_append, List.mem_append,
        List.map_singleton, List.mem_singleton]

end LinkAddress

/-! ## What a snapshot asks for -/

namespace Desired

/-- The addresses of the entries that are no groups, in order and with repetitions. -/
def unicast (entries : List AddressEntry) (now : Int64) : List LinkAddress :=
  (entries.filter (!·.isMulticast)).map (linkAddress (hasActiveOmr entries) now)

/-- A snapshot asks for one entry for each address and length: the last one, in the place of the
    first. -/
theorem addresses_eq (entries : List AddressEntry) (now : Int64) :
    addresses entries now = LinkAddress.lastOfEach (unicast entries now) := by
  rw [← LinkAddress.foldl_upsert, unicast, List.foldl_map]
  rfl

/-- The addresses and lengths of the entries that are no groups. -/
def keys (entries : List AddressEntry) : List (Ipv6 × UInt8) :=
  (entries.filter (!·.isMulticast)).map fun e => (e.address, e.length)

/-- Every address and length that is reported is asked for, and no other. -/
theorem mem_map_key_addresses {entries : List AddressEntry} {now : Int64} {k : Ipv6 × UInt8} :
    k ∈ (addresses entries now).map LinkAddress.key ↔ k ∈ keys entries := by
  rw [addresses_eq, LinkAddress.mem_map_key_lastOfEach, unicast, List.map_map]
  rfl

theorem keysUnique_addresses (entries : List AddressEntry) (now : Int64) :
    LinkAddress.KeysUnique (addresses entries now) := by
  rw [addresses_eq]
  exact LinkAddress.keysUnique_lastOfEach _

end Desired
end MeshLink
