import MeshLink.Kernel.Memory
import MeshLink.Proofs.Answers
set_option autoImplicit false

/-! # How the kernel in memory takes calls

What each kind of call does to the addresses and the groups of a kernel in memory, and to what its
log tells about addresses. A request that fails changes nothing, one that succeeds changes its own
key, and everything else that a controller does leaves addresses and groups alone. -/

namespace MeshLink

namespace MemoryKernel

theorem mem_insertNew {α : Type} [DecidableEq α] {a b : α} {as : List α} :
    b ∈ insertNew a as ↔ b ∈ as ∨ b = a := by
  unfold insertNew
  split
  · next h => exact ⟨.inl, fun hb => hb.elim id fun he => he ▸ h⟩
  · rw [List.mem_append, List.mem_singleton]

/-- A request that succeeds adds or removes the key that it is about; one that fails changes
    nothing, and nothing fails for being there already. -/
theorem send_cases (octets : List UInt8) (k : MemoryKernel) :
    (∃ m a, Netlink.AddressMessage.decode? octets = some m ∧ m.address = some a ∧
        (send octets k).1 = .ok () ∧
        (m.type = Netlink.MessageType.newAddress ∧
            (send octets k).2.addresses = insertNew (a, m.length) k.addresses ∨
          m.type = Netlink.MessageType.delAddress ∧
            (send octets k).2.addresses = k.addresses.filter (· ≠ (a, m.length)))) ∨
      (∃ e, (send octets k).1 = .error e ∧ e ≠ .alreadyPresent) ∧
        (send octets k).2.addresses = k.addresses := by
  unfold send
  split
  · exact .inr ⟨⟨_, rfl, by decide⟩, rfl⟩
  next m read =>
    dsimp only
    split
    · exact .inr ⟨⟨_, rfl, by decide⟩, rfl⟩
    split
    · exact .inr ⟨⟨_, rfl, by decide⟩, rfl⟩
    next a about =>
      split
      · next add => exact .inl ⟨m, a, read, about, rfl, .inl ⟨add, rfl⟩⟩
      split
      · next remove =>
          split
          · exact .inl ⟨m, a, read, about, rfl, .inr ⟨remove, rfl⟩⟩
          · exact .inr ⟨⟨_, rfl, by decide⟩, rfl⟩
      · exact .inr ⟨⟨_, rfl, by decide⟩, rfl⟩

theorem groups_send (octets : List UInt8) (k : MemoryKernel) :
    (send octets k).2.groups = k.groups := by
  unfold send
  split
  · rfl
  dsimp only
  repeat' split
  all_goals rfl

/-- A request to add an address puts it in, or fails and leaves everything. -/
theorem send_newAddress (seq : UInt32) (r : Netlink.AddressRequest) (k : MemoryKernel) :
    (send (Netlink.newAddress seq r) k).1 = .ok () ∧
        (send (Netlink.newAddress seq r) k).2.addresses =
          insertNew (r.address, r.length) k.addresses ∨
      (∃ e, (send (Netlink.newAddress seq r) k).1 = .error e ∧ e ≠ .alreadyPresent) ∧
        (send (Netlink.newAddress seq r) k).2.addresses = k.addresses := by
  rcases send_cases (Netlink.newAddress seq r) k with ⟨m, a, read, about, ok, effect⟩ | failed
  · rw [Netlink.AddressMessage.decode?_newAddress] at read
    cases read
    cases about
    rcases effect with ⟨-, addresses⟩ | ⟨remove, -⟩
    · exact .inl ⟨ok, addresses⟩
    · exact absurd remove Netlink.MessageType.newAddress_ne_delAddress
  · exact .inr failed

/-- A request to remove an address takes it out, or fails and leaves everything. -/
theorem send_delAddress (seq : UInt32) (a : Ipv6) (length : UInt8) (ifIndex : UInt32)
    (k : MemoryKernel) :
    (send (Netlink.delAddress seq a length ifIndex) k).1 = .ok () ∧
        (send (Netlink.delAddress seq a length ifIndex) k).2.addresses =
          k.addresses.filter (· ≠ (a, length)) ∨
      (∃ e, (send (Netlink.delAddress seq a length ifIndex) k).1 = .error e ∧
          e ≠ .alreadyPresent) ∧
        (send (Netlink.delAddress seq a length ifIndex) k).2.addresses = k.addresses := by
  rcases send_cases (Netlink.delAddress seq a length ifIndex) k with
    ⟨m, b, read, about, ok, effect⟩ | failed
  · rw [Netlink.AddressMessage.decode?_delAddress] at read
    cases read
    cases about
    rcases effect with ⟨add, -⟩ | ⟨-, addresses⟩
    · exact absurd add Netlink.MessageType.newAddress_ne_delAddress.symm
    · exact .inl ⟨ok, addresses⟩
  · exact .inr failed

theorem mem_groups_joinGroup (g h : Ipv6) (k : MemoryKernel) :
    h ∈ (joinGroup g k).2.groups ↔ h ∈ k.groups ∨ h = g := by
  unfold joinGroup
  split
  · next member => exact ⟨.inl, fun hg => hg.elim id fun he => he ▸ member⟩
  · exact List.mem_append.trans (or_congr_right List.mem_singleton)

theorem mem_groups_leaveGroup (g h : Ipv6) (k : MemoryKernel) :
    h ∈ (leaveGroup g k).2.groups ↔ h ∈ k.groups ∧ h ≠ g := by
  unfold leaveGroup
  split
  · exact List.mem_filter.trans (and_congr_right fun _ => decide_eq_true_iff)
  · next absent => exact ⟨fun hg => ⟨hg, fun he => absent (he ▸ hg)⟩, And.left⟩

theorem addresses_joinGroup (g : Ipv6) (k : MemoryKernel) :
    (joinGroup g k).2.addresses = k.addresses := by
  unfold joinGroup
  split <;> rfl

theorem addresses_leaveGroup (g : Ipv6) (k : MemoryKernel) :
    (leaveGroup g k).2.addresses = k.addresses := by
  unfold leaveGroup
  split <;> rfl

theorem setLink_eq (up : Bool) (k : MemoryKernel) :
    (setLink up k).2 = { k with linkUp := (setLink up k).2.linkUp } := by
  unfold setLink
  split <;> rfl

/-- What is about neither an address nor a group changes neither. -/
theorem of_quiet {e : Exchange} (quiet : e.isQuiet = true) {k k' : MemoryKernel}
    (leads : e.Leads k k') : k'.addresses = k.addresses ∧ k'.groups = k.groups := by
  cases e with
  | clock time =>
      have after : k = k' := congrArg Prod.snd leads
      rw [after]
      exact ⟨rfl, rfl⟩
  | call c =>
      cases c with
      | send | join | leave => exact absurd quiet Bool.false_ne_true
      | setLink name up outcome =>
          have after : (setLink up k).2 = k' := congrArg Prod.snd leads
          rw [← after, setLink_eq]
          exact ⟨rfl, rfl⟩
      | lookup | openRoutes | openGroups | close =>
          have after : k = k' := congrArg Prod.snd leads
          rw [after]
          exact ⟨rfl, rfl⟩

end MemoryKernel

/-- Addresses and groups are as before, and the log tells the same about addresses. -/
structure Undisturbed (r r' : Recorded MemoryKernel) : Prop where
  addresses : r'.host.addresses = r.host.addresses
  groups : r'.host.groups = r.host.groups
  answers : ∀ type key, answers type key r'.calls = answers type key r.calls

namespace Undisturbed

variable {r r' r'' : Recorded MemoryKernel}

theorem refl (r : Recorded MemoryKernel) : Undisturbed r r :=
  ⟨rfl, rfl, fun _ _ => rfl⟩

theorem trans (first : Undisturbed r r') (second : Undisturbed r' r'') : Undisturbed r r'' :=
  ⟨second.addresses.trans first.addresses, second.groups.trans first.groups,
    fun type key => (second.answers type key).trans (first.answers type key)⟩

/-- An exchange that is about neither an address nor a group disturbs neither. -/
theorem of_quiet {e : Exchange} (quiet : e.isQuiet = true) (leads : e.Leads r r') :
    Undisturbed r r' := by
  obtain ⟨addresses, groups⟩ := MemoryKernel.of_quiet quiet leads.unrecorded
  refine ⟨addresses, groups, ?_⟩
  intro type key
  have none : MeshLink.answers type key e.call?.toList = [] := by
    cases e with
    | clock time => rfl
    | call c =>
        cases c with
        | send => exact absurd quiet Bool.false_ne_true
        | _ => rfl
  rw [leads.calls_eq, answers_append, none, List.append_nil]

theorem of_dialogue {es : List Exchange} (quiet : ∀ e ∈ es, e.isQuiet = true)
    (d : Dialogue r es r') : Undisturbed r r' :=
  d.keeps (P := Undisturbed r) (fun e he _ _ leads h => h.trans (of_quiet (quiet e he) leads))
    (.refl r)

end Undisturbed

/-! ## Requests -/

namespace Request

variable {r r' : Recorded MemoryKernel} {ifIndex seq : UInt32}

/-- The call of a request adds its outcome to the answers that it is one of. -/
theorem answers_of_leads {q : Request} (leads : Exchange.Leads (.call (q.call ifIndex seq)) r r')
    (type : UInt16) (key : Ipv6 × UInt8) :
    answers type key r'.calls =
      answers type key r.calls ++ if q.isAbout type key = true then [q.outcome] else [] := by
  have one := answers_requests type key ifIndex seq [q]
  rw [leads.calls_eq, answers_append]
  show _ ++ answers type key (calls ifIndex seq [q]) = _
  rw [one, List.filter_cons]
  split <;> rfl

/-- An addition puts its key in if it is granted. No answer to a removal comes of it. -/
theorem addition_effect {a : LinkAddress} {time : Int64} {outcome : KernelResult}
    (d : Dialogue r ((addition a time outcome).exchanges ifIndex seq) r') :
    r'.host.groups = r.host.groups ∧
      (∀ key, answers Netlink.MessageType.delAddress key r'.calls =
        answers Netlink.MessageType.delAddress key r.calls) ∧
      ∀ key, key ∈ r'.host.addresses ↔
        key ∈ r.host.addresses ∨ (Controller.isAccepted outcome = true ∧ key = a.key) := by
  cases d with
  | cons clock rest =>
      -- Reading the clock changes nothing.
      cases (congrArg Prod.snd clock : r = _)
      cases rest with
      | cons leads rest =>
          cases rest
          have sent : MemoryKernel.send (Netlink.newAddress seq (.of a ifIndex time)) r.host =
              (outcome, r'.host) := leads.unrecorded
          have groups := MemoryKernel.groups_send
            (Netlink.newAddress seq (.of a ifIndex time)) r.host
          have effect := MemoryKernel.send_newAddress seq (.of a ifIndex time) r.host
          rw [sent] at groups effect
          refine ⟨groups, ?_, ?_⟩
          · intro key
            rw [answers_of_leads leads]
            simp [isAbout, type, isRemoval, Netlink.MessageType.newAddress,
              Netlink.MessageType.delAddress]
          · intro key
            rcases effect with ⟨granted, addresses⟩ | ⟨⟨e, refused, other⟩, addresses⟩
            · rw [show outcome = .ok () from granted, show r'.host.addresses = _ from addresses,
                MemoryKernel.mem_insertNew]
              exact or_congr_right (and_iff_right rfl).symm
            · have failed : Controller.isAccepted outcome = false := by
                rw [show outcome = .error e from refused]
                cases e with
                | alreadyPresent => exact absurd rfl other
                | _ => rfl
              rw [failed, show r'.host.addresses = _ from addresses]
              exact (or_iff_left fun h => Bool.false_ne_true h.1).symm

/-- A removal takes its key out, or fails. -/
theorem removal_effect {a : LinkAddress} {outcome : KernelResult}
    (d : Dialogue r ((removal a outcome).exchanges ifIndex seq) r') :
    r'.host.groups = r.host.groups ∧
      (∀ key, answers Netlink.MessageType.delAddress key r'.calls =
        answers Netlink.MessageType.delAddress key r.calls ++
          if a.key = key then [outcome] else []) ∧
      ((∀ key, key ∈ r'.host.addresses ↔ key ∈ r.host.addresses ∧ key ≠ a.key) ∨
        (∃ e, outcome = .error e) ∧ r'.host.addresses = r.host.addresses) := by
  cases d with
  | cons leads rest =>
      cases rest
      have sent : MemoryKernel.send (Netlink.delAddress seq a.address a.length ifIndex) r.host =
          (outcome, r'.host) := leads.unrecorded
      have groups := MemoryKernel.groups_send
        (Netlink.delAddress seq a.address a.length ifIndex) r.host
      have effect := MemoryKernel.send_delAddress seq a.address a.length ifIndex r.host
      rw [sent] at groups effect
      refine ⟨groups, ?_, ?_⟩
      · intro key
        rw [answers_of_leads leads]
        by_cases same : a.key = key <;>
          simp [isAbout, type, isRemoval, address, Request.outcome, same]
      · rcases effect with ⟨-, addresses⟩ | ⟨⟨e, failed, -⟩, addresses⟩
        · left
          intro key
          rw [show r'.host.addresses = _ from addresses, List.mem_filter]
          exact and_congr_right fun _ => decide_eq_true_iff
        · exact .inr ⟨⟨e, failed⟩, addresses⟩

end Request

/-! ## Group calls -/

namespace Recorded

variable {r r' : Recorded MemoryKernel} {ifIndex : UInt32}

/-- Leaving groups takes exactly them out. -/
theorem leaves_effect {ls : List (Ipv6 × CallResult)}
    (d : Dialogue r ((ls.map fun l => Call.leave l.1 ifIndex l.2).map Exchange.call) r') :
    r'.host.addresses = r.host.addresses ∧
      (∀ type key, answers type key r'.calls = answers type key r.calls) ∧
      ∀ g, g ∈ r'.host.groups ↔ g ∈ r.host.groups ∧ g ∉ ls.map Prod.fst := by
  induction ls generalizing r with
  | nil =>
      cases d
      exact ⟨rfl, fun _ _ => rfl, by simp⟩
  | cons l ls ih =>
      cases d with
      | @cons _ m _ _ _ leads rest =>
          obtain ⟨addresses, told, groups⟩ := ih rest
          have left : (MemoryKernel.leaveGroup l.1 r.host).2 = m.host :=
            congrArg Prod.snd leads.unrecorded
          refine ⟨?_, ?_, ?_⟩
          · rw [addresses, ← left, MemoryKernel.addresses_leaveGroup]
          · intro type key
            rw [told, leads.calls_eq, answers_append]
            exact List.append_nil _
          · intro g
            rw [groups, ← left, MemoryKernel.mem_groups_leaveGroup, List.map_cons, List.mem_cons,
              not_or, and_assoc]

/-- Joining groups puts exactly them in. -/
theorem joins_effect {js : List (Ipv6 × CallResult)}
    (d : Dialogue r ((js.map fun j => Call.join j.1 ifIndex j.2).map Exchange.call) r') :
    r'.host.addresses = r.host.addresses ∧
      (∀ type key, answers type key r'.calls = answers type key r.calls) ∧
      ∀ g, g ∈ r'.host.groups ↔ g ∈ r.host.groups ∨ g ∈ js.map Prod.fst := by
  induction js generalizing r with
  | nil =>
      cases d
      exact ⟨rfl, fun _ _ => rfl, by simp⟩
  | cons j js ih =>
      cases d with
      | @cons _ m _ _ _ leads rest =>
          obtain ⟨addresses, told, groups⟩ := ih rest
          have joined : (MemoryKernel.joinGroup j.1 r.host).2 = m.host :=
            congrArg Prod.snd leads.unrecorded
          refine ⟨?_, ?_, ?_⟩
          · rw [addresses, ← joined, MemoryKernel.addresses_joinGroup]
          · intro type key
            rw [told, leads.calls_eq, answers_append]
            exact List.append_nil _
          · intro g
            rw [groups, ← joined, MemoryKernel.mem_groups_joinGroup, List.map_cons, List.mem_cons,
              or_assoc]

end Recorded
end MeshLink
