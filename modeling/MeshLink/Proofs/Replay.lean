import MeshLink.Proofs.MemoryKernel
import MeshLink.Proofs.Turns
import MeshLink.Session
set_option autoImplicit false

/-! # What a kernel holds, by its log

A kernel that nobody else changes holds what the log of its calls says: a key is there exactly if
the last request about it that succeeded was an addition, a group exactly if the last call about it
that succeeded was a join. This is so for every call that can be made and whatever fails, on its
own or on demand: a call that fails changes nothing, and one that succeeds decides.

Each exchange tells how the kernel changes (`MemoryKernel.Told`), and so does the log of a run
(`Controller.Reaches.endsDone_iff`). -/

namespace MeshLink

/-! ## Turns that succeed -/

section

variable {α : Type} {on : α} {w v : List (α × Bool)}

/-- The last turn is an `on`, whether it succeeded or not. -/
def Ends (on : α) (w : List (α × Bool)) : Prop :=
  (w.map Prod.fst).getLast? = some on

/-- The last turn that succeeded is an `on`. -/
def EndsDone (on : α) (w : List (α × Bool)) : Prop :=
  ((w.filter Prod.snd).map Prod.fst).getLast? = some on

theorem endsDone_append_of_failed (failed : ∀ x ∈ v, x.2 = false) :
    EndsDone on (w ++ v) ↔ EndsDone on w := by
  have none : v.filter Prod.snd = [] :=
    List.filter_eq_nil_iff.2 fun x hx => ne_true_of_eq_false (failed x hx)
  rw [EndsDone, List.filter_append, none, List.append_nil, EndsDone]

theorem endsDone_concat (a : α) : EndsDone on (w ++ [(a, true)]) ↔ a = on := by
  rw [EndsDone, List.filter_append, List.map_append]
  show (_ ++ [a]).getLast? = some on ↔ a = on
  rw [List.getLast?_concat, Option.some.injEq]

/-- If all turns at the end succeed, the last one is the last that succeeded. -/
theorem endsDone_append_of_done (done : ∀ x ∈ v, x.2 = true) (some : v ≠ []) :
    EndsDone on (w ++ v) ↔ Ends on (w ++ v) := by
  obtain ⟨u, ⟨a, success⟩, rfl⟩ := List.eq_nil_or_concat v |>.resolve_left some
  have success : success = true := done (a, success) (by simp)
  subst success
  rw [List.concat_eq_append, ← List.append_assoc, endsDone_concat, Ends, List.map_append]
  show _ ↔ (_ ++ [a]).getLast? = .some on
  rw [List.getLast?_concat, Option.some.injEq]

/-- Turns say how something that was there or not is there or not afterwards: one that succeeds
    decides, and where none does everything stays. -/
def Tells (on : α) (before after : Prop) (v : List (α × Bool)) : Prop :=
  (∃ a, v = [(a, true)] ∧ (after ↔ a = on)) ∨ ((∀ x ∈ v, x.2 = false) ∧ (after ↔ before))

theorem Tells.endsDone {before after : Prop} (tells : Tells on before after v)
    (h : before ↔ EndsDone on w) : after ↔ EndsDone on (w ++ v) := by
  rcases tells with ⟨a, rfl, decided⟩ | ⟨failed, same⟩
  · rw [endsDone_concat, decided]
  · rw [endsDone_append_of_failed failed, same, h]

end

/-- The requests about a key and whether they succeeded. -/
def keyTurns (key : Ipv6 × UInt8) (calls : List Call) : List (Turn × Bool) :=
  (askedAbout key calls).map fun q => (q.turn, q.outcome.isOk)

/-- The calls about a group and whether they succeeded. -/
def groupSteps (g : Ipv6) (calls : List Call) : List (GroupTurn × Bool) :=
  (groupTurns g calls).map fun t => (t.1, t.2.isOk)

theorem keyTurns_append (key : Ipv6 × UInt8) (cs ds : List Call) :
    keyTurns key (cs ++ ds) = keyTurns key cs ++ keyTurns key ds := by
  rw [keyTurns, askedAbout_append, List.map_append]
  rfl

theorem groupSteps_append (g : Ipv6) (cs ds : List Call) :
    groupSteps g (cs ++ ds) = groupSteps g cs ++ groupSteps g ds := by
  rw [groupSteps, groupTurns_append, List.map_append]
  rfl

theorem keyTurns_send {octets : List UInt8} {m : Netlink.AddressMessage}
    (read : Netlink.AddressMessage.decode? octets = some m) (key : Ipv6 × UInt8) (seq : UInt32)
    (outcome : KernelResult) :
    keyTurns key [.send octets seq outcome] =
      if m.address = some key.1 ∧ m.length = key.2 then
        [((⟨m, outcome⟩ : Asked).turn, outcome.isOk)]
      else [] := by
  unfold keyTurns askedAbout
  rw [List.filterMap_cons, Call.asked?, read]
  by_cases own : m.address = some key.1 ∧ m.length = key.2 <;> simp [own]

theorem keyTurns_of_failed (key : Ipv6 × UInt8) (octets : List UInt8) (seq : UInt32)
    (e : KernelError) : ∀ x ∈ keyTurns key [.send octets seq (.error e)], x.2 = false := by
  intro x hx
  obtain ⟨q, hq, rfl⟩ := List.mem_map.1 hx
  obtain ⟨octets', seq', sent, -⟩ := mem_askedAbout hq
  obtain ⟨-, -, answer⟩ := Call.send.inj (List.mem_singleton.1 sent)
  show q.outcome.isOk = false
  rw [answer]
  rfl

theorem groupSteps_join (g h : Ipv6) (ifIndex : UInt32) (outcome : CallResult) :
    groupSteps g [.join h ifIndex outcome] = if h = g then [(.joined, outcome.isOk)] else [] := by
  by_cases own : h = g <;> simp [groupSteps, groupTurns, Call.groupTurn?, own]

theorem groupSteps_leave (g h : Ipv6) (ifIndex : UInt32) (outcome : CallResult) :
    groupSteps g [.leave h ifIndex outcome] = if h = g then [(.left, outcome.isOk)] else [] := by
  by_cases own : h = g <;> simp [groupSteps, groupTurns, Call.groupTurn?, own]

/-! ## The kernel in memory -/

namespace MemoryKernel

/-- A request says how the kernel's addresses change. -/
theorem tells_send (octets : List UInt8) (seq : UInt32) (k : MemoryKernel) (key : Ipv6 × UInt8) :
    Tells .granted (key ∈ k.addresses) (key ∈ (send octets k).2.addresses)
      (keyTurns key [.send octets seq (send octets k).1]) := by
  rcases send_cases octets k with ⟨m, a, read, about, ok, effect⟩ | ⟨⟨e, failed, -⟩, same⟩
  · have same : (m.address = some key.1 ∧ m.length = key.2) ↔ (a, m.length) = key := by
      rw [about, Prod.ext_iff, Option.some.injEq]
    rw [ok, keyTurns_send read]
    by_cases own : (a, m.length) = key
    · rw [if_pos (same.2 own)]
      refine .inl ⟨_, rfl, ?_⟩
      rcases effect with ⟨add, addresses⟩ | ⟨remove, addresses⟩
      · rw [addresses, mem_insertNew]
        exact iff_of_true (.inr own.symm) (by rw [Asked.turn, if_pos add]; rfl)
      · rw [addresses, List.mem_filter, decide_eq_true_iff]
        refine iff_of_false (fun h => h.2 own.symm) ?_
        rw [(Asked.turn_eq_removed_iff _).2 remove]
        decide
    · rw [if_neg (mt same.1 own)]
      refine .inr ⟨List.forall_mem_nil _, ?_⟩
      rcases effect with ⟨-, addresses⟩ | ⟨-, addresses⟩
      · rw [addresses, mem_insertNew]
        exact or_iff_left fun h => own h.symm
      · rw [addresses, List.mem_filter, decide_eq_true_iff]
        exact and_iff_left fun h => own h.symm
  · refine .inr ⟨?_, by rw [same]⟩
    rw [failed]
    exact keyTurns_of_failed key octets seq e

/-- Calls tell how a kernel changes, for every key and every group. -/
structure Told (calls : List Call) (k k' : MemoryKernel) : Prop where
  addresses : ∀ key,
    Tells .granted (key ∈ k.addresses) (key ∈ k'.addresses) (keyTurns key calls)
  groups : ∀ g, Tells .joined (g ∈ k.groups) (g ∈ k'.groups) (groupSteps g calls)

theorem Told.of_failed {calls : List Call} {k k' : MemoryKernel}
    (addresses : k'.addresses = k.addresses) (groups : k'.groups = k.groups)
    (keys : ∀ key, ∀ x ∈ keyTurns key calls, x.2 = false)
    (steps : ∀ g, ∀ x ∈ groupSteps g calls, x.2 = false) : Told calls k k' where
  addresses key := .inr ⟨keys key, by rw [addresses]⟩
  groups g := .inr ⟨steps g, by rw [groups]⟩

theorem tells_joinGroup (g h : Ipv6) (ifIndex : UInt32) (k : MemoryKernel) :
    Tells .joined (g ∈ k.groups) (g ∈ (joinGroup h k).2.groups)
      (groupSteps g [.join h ifIndex (joinGroup h k).1]) := by
  rw [groupSteps_join, mem_groups_joinGroup]
  by_cases own : h = g
  · subst own
    rw [if_pos rfl]
    by_cases member : h ∈ k.groups
    · refine .inr ⟨?_, or_iff_left_of_imp fun _ => member⟩
      rw [List.forall_mem_singleton, joinGroup, if_pos member]
      rfl
    · refine .inl ⟨.joined, ?_, iff_of_true (.inr rfl) rfl⟩
      rw [joinGroup, if_neg member]
      rfl
  · rw [if_neg own]
    exact .inr ⟨List.forall_mem_nil _, or_iff_left fun he => own he.symm⟩

theorem tells_leaveGroup (g h : Ipv6) (ifIndex : UInt32) (k : MemoryKernel) :
    Tells .joined (g ∈ k.groups) (g ∈ (leaveGroup h k).2.groups)
      (groupSteps g [.leave h ifIndex (leaveGroup h k).1]) := by
  rw [groupSteps_leave, mem_groups_leaveGroup]
  by_cases own : h = g
  · subst own
    rw [if_pos rfl]
    by_cases member : h ∈ k.groups
    · refine .inl ⟨.left, ?_, iff_of_false (fun left => left.2 rfl) (by decide)⟩
      rw [leaveGroup, if_pos member]
      rfl
    · refine .inr ⟨?_, and_iff_left_of_imp fun present => absurd present member⟩
      rw [List.forall_mem_singleton, leaveGroup, if_neg member]
      rfl
  · rw [if_neg own]
    exact .inr ⟨List.forall_mem_nil _, and_iff_left fun he => own he.symm⟩

/-- The call of an exchange tells how the kernel changes. -/
theorem told_of_leads {e : Exchange} {k k' : MemoryKernel} (leads : e.Leads k k') :
    Told e.call?.toList k k' := by
  by_cases quiet : e.isQuiet = true
  · obtain ⟨addresses, groups⟩ := of_quiet quiet leads
    obtain ⟨asked, turns⟩ := untold_of_quiet (List.forall_mem_singleton.2 quiet)
    have alone : e.call?.toList = [e].filterMap Exchange.call? := by cases e <;> rfl
    rw [alone]
    refine .of_failed addresses groups ?_ ?_
    · intro key
      rw [keyTurns, asked]
      exact List.forall_mem_nil _
    · intro g
      rw [groupSteps, turns]
      exact List.forall_mem_nil _
  cases e with
  | clock time => exact absurd rfl quiet
  | call c =>
      cases c with
      | send octets seq outcome =>
          obtain ⟨rfl, rfl⟩ := Prod.ext_iff.1 (show send octets k = (outcome, k') from leads)
          refine ⟨tells_send octets seq k, ?_⟩
          intro g
          exact .inr ⟨List.forall_mem_nil _, by rw [groups_send]⟩
      | join g ifIndex outcome =>
          obtain ⟨rfl, rfl⟩ := Prod.ext_iff.1 (show joinGroup g k = (outcome, k') from leads)
          refine ⟨?_, fun h => tells_joinGroup h g ifIndex k⟩
          intro key
          exact .inr ⟨List.forall_mem_nil _, by rw [addresses_joinGroup]⟩
      | leave g ifIndex outcome =>
          obtain ⟨rfl, rfl⟩ := Prod.ext_iff.1 (show leaveGroup g k = (outcome, k') from leads)
          refine ⟨?_, fun h => tells_leaveGroup h g ifIndex k⟩
          intro key
          exact .inr ⟨List.forall_mem_nil _, by rw [addresses_leaveGroup]⟩
      | _ => exact absurd rfl quiet

end MemoryKernel

/-! ## Failures on demand -/

namespace Scripted

variable {σ : Type} [Host σ]

theorem send_eq (octets : List UInt8) (seq : UInt32) (h : Scripted σ) :
    Host.send octets seq h =
      (h.sends.head?.join.elim (through (Host.send octets seq)) fun fault =>
        pure (.error (fault.outcome octets.length))) { h with sends := h.sends.tail } := by
  show (nextSend >>= _) h = _
  cases fault : h.sends.head?.join <;> simp [nextSend, bind, StateT.bind, fault]

theorem send_cases (octets : List UInt8) (seq : UInt32) (h : Scripted σ) :
    ((∃ e, (Host.send octets seq h).1 = .error e) ∧ (Host.send octets seq h).2.host = h.host) ∨
      ((Host.send octets seq h).1, (Host.send octets seq h).2.host) =
        Host.send octets seq h.host := by
  rw [send_eq]
  cases h.sends.head?.join with
  | some fault => exact .inl ⟨⟨_, rfl⟩, rfl⟩
  | none => exact .inr rfl

omit [Host σ] in
theorem groupCall_eq (action : StateM σ CallResult) (h : Scripted σ) :
    groupCall action h =
      (h.groupCalls.head?.join.elim (through action) fun e => pure (.error (.os e)))
        { h with groupCalls := h.groupCalls.tail } := by
  cases fault : h.groupCalls.head?.join <;>
    simp [groupCall, nextGroupCall, bind, StateT.bind, fault]

omit [Host σ] in
theorem groupCall_cases (action : StateM σ CallResult) (h : Scripted σ) :
    ((∃ e, (groupCall action h).1 = .error e) ∧ (groupCall action h).2.host = h.host) ∨
      ((groupCall action h).1, (groupCall action h).2.host) = action h.host := by
  rw [groupCall_eq]
  cases h.groupCalls.head?.join with
  | some e => exact .inl ⟨⟨_, rfl⟩, rfl⟩
  | none => exact .inr rfl

end Scripted

namespace Exchange

/-- Whether an exchange is about an address or a group and fails. -/
def isRefused : Exchange → Bool
  | .call (.send _ _ (.error _)) | .call (.join _ _ (.error _)) | .call (.leave _ _ (.error _)) =>
    true
  | _ => false

/-- An exchange with a host with scripted failures is one with the wrapped host, or it fails and
    does not reach that one. -/
theorem Leads.unscripted {σ : Type} [Host σ] {e : Exchange} {h h' : Scripted σ}
    (leads : e.Leads h h') :
    e.Leads h.host h'.host ∨ (e.isRefused = true ∧ h'.host = h.host) := by
  cases e with
  | clock time =>
      cases leads
      exact .inl rfl
  | call c =>
      cases c with
      | send octets seq outcome =>
          have answer : Host.send octets seq h = (outcome, h') := leads
          have taken := Scripted.send_cases octets seq h
          rw [answer] at taken
          rcases taken with ⟨⟨e, rfl⟩, same⟩ | passed
          · exact .inr ⟨rfl, same⟩
          · exact .inl passed.symm
      | join g ifIndex outcome =>
          have answer : Scripted.groupCall (Host.joinGroup g ifIndex) h = (outcome, h') := leads
          have taken := Scripted.groupCall_cases (Host.joinGroup g ifIndex) h
          rw [answer] at taken
          rcases taken with ⟨⟨e, rfl⟩, same⟩ | passed
          · exact .inr ⟨rfl, same⟩
          · exact .inl passed.symm
      | leave g ifIndex outcome =>
          have answer : Scripted.groupCall (Host.leaveGroup g ifIndex) h = (outcome, h') := leads
          have taken := Scripted.groupCall_cases (Host.leaveGroup g ifIndex) h
          rw [answer] at taken
          rcases taken with ⟨⟨e, rfl⟩, same⟩ | passed
          · exact .inr ⟨rfl, same⟩
          · exact .inl passed.symm
      | _ =>
          cases leads
          exact .inl rfl

/-- An exchange that is refused tells of no success. -/
theorem told_of_isRefused {e : Exchange} (refused : e.isRefused = true) (k : MemoryKernel) :
    MemoryKernel.Told e.call?.toList k k := by
  unfold isRefused at refused
  split at refused
  · next octets seq e =>
      exact .of_failed rfl rfl (fun key => keyTurns_of_failed key octets seq e) fun _ =>
        List.forall_mem_nil _
  · next h ifIndex e =>
      refine .of_failed rfl rfl (fun _ => List.forall_mem_nil _) ?_
      intro g
      show ∀ x ∈ groupSteps g [.join h ifIndex (.error e)], x.2 = false
      rw [groupSteps_join]
      split <;> simp [Except.isOk, Except.toBool]
  · next h ifIndex e =>
      refine .of_failed rfl rfl (fun _ => List.forall_mem_nil _) ?_
      intro g
      show ∀ x ∈ groupSteps g [.leave h ifIndex (.error e)], x.2 = false
      rw [groupSteps_leave]
      split <;> simp [Except.isOk, Except.toBool]
  · exact absurd refused Bool.false_ne_true

end Exchange

/-! ## What is held -/

/-- The kernel of a host whose failures are scripted and whose calls are written down. -/
abbrev SessionHost.kernel (h : SessionHost) : MemoryKernel :=
  h.host.host

/-- An exchange with such a host tells how its kernel changes. -/
theorem SessionHost.told_of_leads {e : Exchange} {h h' : SessionHost} (leads : e.Leads h h') :
    MemoryKernel.Told e.call?.toList h.kernel h'.kernel := by
  rcases leads.unrecorded.unscripted with passed | ⟨refused, same⟩
  · exact MemoryKernel.told_of_leads passed
  · rw [kernel, kernel, same]
    exact Exchange.told_of_isRefused refused _

namespace Controller

variable {between : Shared SessionHost → Shared SessionHost → Prop} {config : Config}
  {start s : Shared SessionHost} {c : Controller}

/-- What calls tell of, at the start and at every exchange, the log of a run tells of. -/
theorem Reaches.endsDone_iff {α : Type} {on : α} {P : MemoryKernel → Prop}
    {turns : List Call → List (α × Bool)}
    (turns_append : ∀ cs ds, turns (cs ++ ds) = turns cs ++ turns ds)
    (told : ∀ {calls k k'}, MemoryKernel.Told calls k k' →
      Tells on (P k) (P k') (turns calls))
    (alone : ∀ {s s'}, between s s' → (P s'.host.kernel ↔ P s.host.kernel) ∧
      s'.host.calls = s.host.calls)
    (initial : P start.host.kernel ↔ EndsDone on (turns start.host.calls))
    (reach : Reaches between config start c s) :
    P s.host.kernel ↔ EndsDone on (turns s.host.calls) := by
  refine reach.invariant
    (P := fun _ s => P s.host.kernel ↔ EndsDone on (turns s.host.calls)) initial ?_ ?_
  · intro c s op result c' s' t holds
    obtain ⟨es, d⟩ := t.dialogue
    refine d.keeps (P := fun h => P (SessionHost.kernel h) ↔ EndsDone on (turns h.calls))
      ?_ holds
    intro e _ h h' leads holds
    rw [leads.calls_eq, turns_append]
    exact (told (SessionHost.told_of_leads leads)).endsDone holds
  · intro c s s' change holds
    obtain ⟨same, calls⟩ := alone change
    rw [same, calls]
    exact holds

/-- The addresses of a kernel that starts without any and that nobody else changes. -/
theorem Reaches.mem_addresses_iff
    (alone : ∀ {s s'}, between s s' → s'.host.kernel.addresses = s.host.kernel.addresses ∧
      s'.host.calls = s.host.calls)
    (empty : start.host.kernel.addresses = []) (silent : start.host.calls = [])
    (reach : Reaches between config start c s) (key : Ipv6 × UInt8) :
    key ∈ s.host.kernel.addresses ↔ EndsDone .granted (keyTurns key s.host.calls) := by
  refine reach.endsDone_iff (P := fun k => key ∈ k.addresses) (keyTurns_append key)
    (fun told => told.addresses key) ?_ ?_
  · intro s s' change
    obtain ⟨addresses, calls⟩ := alone change
    exact ⟨by rw [addresses], calls⟩
  · rw [empty, silent]
    simp [EndsDone, keyTurns, askedAbout]

/-- The groups of a kernel that starts without any and that nobody else changes. -/
theorem Reaches.mem_groups_iff
    (alone : ∀ {s s'}, between s s' → s'.host.kernel.groups = s.host.kernel.groups ∧
      s'.host.calls = s.host.calls)
    (empty : start.host.kernel.groups = []) (silent : start.host.calls = [])
    (reach : Reaches between config start c s) (g : Ipv6) :
    g ∈ s.host.kernel.groups ↔ EndsDone .joined (groupSteps g s.host.calls) := by
  refine reach.endsDone_iff (P := fun k => g ∈ k.groups) (groupSteps_append g)
    (fun told => told.groups g) ?_ ?_
  · intro s s' change
    obtain ⟨groups, calls⟩ := alone change
    exact ⟨by rw [groups], calls⟩
  · rw [empty, silent]
    simp [EndsDone, groupSteps, groupTurns]

end Controller
end MeshLink
