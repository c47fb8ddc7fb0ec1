import Mathlib.Data.Finset.Dedup
import Mathlib.Data.Finset.Erase
import Mathlib.Data.Finset.Insert
import MeshLink.Proofs.Replay
set_option autoImplicit false

/-! # Runs of joins and leaves

A membership keeps no list of groups, so what its calls come to is up to the kernel, which refuses
a second join and a leave of what is not joined, and to the failures on demand. The kernel is seen
as a set of groups: a call that reaches it inserts or erases one group, and its outcome depends on
whether that group is in the set (`GroupCall.outcome`). What is told about the outcome differs: a
refused join counts as joined, a refused leave does not count as left.

A run is then a list of calls with their outcomes (`GroupCall.answered`), one call of the host each
(`Membership.askAll_run`). Calls that ask for what is so already leave the set (`replay_repeats`),
and calls about other groups leave whether a group is in it (`filter_answered`), so neither shows
in any other call. -/

namespace MeshLink

/-- A call about a group. If it has a fault, the host fails with it and the kernel is not asked. -/
structure GroupCall where
  turn : GroupTurn
  group : Ipv6
  fault : Option Errno
deriving DecidableEq

namespace GroupCall

/-- The groups that are joined after a call that reaches the kernel. -/
def applyTo (joined : Finset Ipv6) (c : GroupCall) : Finset Ipv6 :=
  match c.turn with
  | .joined => insert c.group joined
  | .left => joined.erase c.group

/-- The groups that are joined after calls of which some reach the kernel. -/
def replay (joined : Finset Ipv6) (cs : List GroupCall) : Finset Ipv6 :=
  (cs.filter (·.fault.isNone)).foldl applyTo joined

/-- What the host answers when some groups are joined. -/
def outcome (joined : Finset Ipv6) (c : GroupCall) : CallResult :=
  match c.fault, c.turn with
  | some e, _ => MemoryKernel.refusal e
  | none, .joined => if c.group ∈ joined then MemoryKernel.refusal Errno.addressInUse else .ok ()
  | none, .left =>
    if c.group ∈ joined then .ok () else MemoryKernel.refusal Errno.addressNotAvailable

/-- What the caller is told about an outcome. -/
def told (c : GroupCall) : CallResult → KernelResult :=
  match c.turn with
  | .joined => Membership.joinOutcome
  | .left => Membership.leaveOutcome

/-- The call that the host gets. -/
def call (ifIndex : UInt32) (c : GroupCall) (outcome : CallResult) : Call :=
  match c.turn with
  | .joined => .join c.group ifIndex outcome
  | .left => .leave c.group ifIndex outcome

/-- Asks for what is so already. -/
def Repeats (joined : Finset Ipv6) (c : GroupCall) : Prop :=
  c.turn = .joined ↔ c.group ∈ joined

instance (joined : Finset Ipv6) (c : GroupCall) : Decidable (c.Repeats joined) :=
  inferInstanceAs (Decidable (_ ↔ _))

/-- The rules for what a caller is told when some groups are joined. -/
structure Obeys (joined : Finset Ipv6) (c : GroupCall) (told : KernelResult) : Prop where
  join_ok : c.turn = .joined → c.fault = none → told = .ok ()
  join_ne : c.turn = .joined → told ≠ .error .alreadyPresent
  leave_eq : c.turn = .left → c.fault = none →
    told = if c.group ∈ joined then .ok () else .error .notPresent

/-! ## The set of joined groups -/

variable {joined others : Finset Ipv6} {g : Ipv6}

theorem replay_append (joined : Finset Ipv6) (before after : List GroupCall) :
    replay joined (before ++ after) = replay (replay joined before) after := by
  rw [replay, List.filter_append, List.foldl_append]
  rfl

theorem replay_cons (joined : Finset Ipv6) (c : GroupCall) (cs : List GroupCall) :
    replay joined (c :: cs) = replay (replay joined [c]) cs :=
  replay_append joined [c] cs

/-- One call changes at most whether its own group is joined. -/
theorem mem_replay_singleton {c : GroupCall} :
    g ∈ replay joined [c] ↔
      if c.fault = none ∧ c.group = g then c.turn = .joined else g ∈ joined := by
  obtain ⟨turn, group, fault⟩ := c
  cases fault with
  | some e => simp [replay]
  | none =>
      by_cases own : group = g
      · cases turn <;> simp [replay, applyTo, own]
      · cases turn <;> simp [replay, applyTo, own, Ne.symm own]

theorem mem_replay_of_ne {c : GroupCall} (other : c.group ≠ g) :
    g ∈ replay joined [c] ↔ g ∈ joined := by
  rw [mem_replay_singleton, if_neg fun h => other h.2]

theorem mem_replay_congr (same : g ∈ joined ↔ g ∈ others) (c : GroupCall) :
    g ∈ replay joined [c] ↔ g ∈ replay others [c] := by
  rw [mem_replay_singleton, mem_replay_singleton, same]

/-- Whether a group is joined is decided by the calls about it. -/
theorem mem_replay_filter (same : g ∈ joined ↔ g ∈ others) (cs : List GroupCall) :
    g ∈ replay joined cs ↔ g ∈ replay others (cs.filter (·.group = g)) := by
  induction cs generalizing joined others with
  | nil => exact same
  | cons c cs ih =>
      rw [replay_cons joined]
      by_cases own : c.group = g
      · rw [List.filter_cons_of_pos (by simpa using own), replay_cons others]
        exact ih (mem_replay_congr same c)
      · rw [List.filter_cons_of_neg (by simpa using own)]
        exact ih ((mem_replay_of_ne own).trans same)

/-- Calls that ask for what is so already change nothing, whether they reach the kernel or not. -/
theorem replay_repeats {cs : List GroupCall} (repeats : ∀ c ∈ cs, c.Repeats joined) :
    replay joined cs = joined := by
  induction cs with
  | nil => rfl
  | cons c cs ih =>
      have same : replay joined [c] = joined := by
        ext g
        rw [mem_replay_singleton]
        split
        · next own =>
            rw [← own.2]
            exact repeats c List.mem_cons_self
        · rfl
      rw [replay_cons, same]
      exact ih fun d hd => repeats d (List.mem_cons_of_mem _ hd)

/-! ## Outcomes -/

theorem outcome_congr {c : GroupCall} (same : c.group ∈ joined ↔ c.group ∈ others) :
    c.outcome joined = c.outcome others := by
  simp only [outcome, same]

/-- A join is never told that the group is joined already, whatever the host answers. -/
theorem joinOutcome_ne (outcome : CallResult) :
    Membership.joinOutcome outcome ≠ .error .alreadyPresent := by
  unfold Membership.joinOutcome
  split
  · simp
  · split
    · simp
    · next other => simpa using other

theorem obeys_outcome (joined : Finset Ipv6) (c : GroupCall) :
    c.Obeys joined (c.told (c.outcome joined)) where
  join_ok := by
    intro join reaches
    simp only [told, outcome, join, reaches]
    split <;> rfl
  join_ne := by
    intro join
    simp only [told, join]
    exact joinOutcome_ne _
  leave_eq := by
    intro leave reaches
    simp only [told, outcome, leave, reaches]
    split <;> rfl

/-! ## Calls with their outcomes -/

/-- The calls of a run with what comes of them. -/
def answered : Finset Ipv6 → List GroupCall → List (GroupCall × CallResult)
  | _, [] => []
  | joined, c :: cs => (c, c.outcome joined) :: answered (replay joined [c]) cs

theorem map_fst_answered (joined : Finset Ipv6) (cs : List GroupCall) :
    (answered joined cs).map Prod.fst = cs := by
  induction cs generalizing joined with
  | nil => rfl
  | cons c cs ih => rw [answered, List.map_cons, ih]

theorem length_answered (joined : Finset Ipv6) (cs : List GroupCall) :
    (answered joined cs).length = cs.length := by
  rw [← List.length_map Prod.fst, map_fst_answered]

theorem answered_append (joined : Finset Ipv6) (before after : List GroupCall) :
    answered joined (before ++ after) =
      answered joined before ++ answered (replay joined before) after := by
  induction before generalizing joined with
  | nil => rfl
  | cons c before ih =>
      rw [List.cons_append, answered, ih, ← replay_cons, answered, List.cons_append]

/-- A call of a run has the outcome that belongs to the groups joined before it. -/
theorem getElem?_answered {cs : List GroupCall} {i : Nat} {c : GroupCall} (h : cs[i]? = some c) :
    (answered joined cs)[i]? = some (c, c.outcome (replay joined (cs.take i))) := by
  induction cs generalizing joined i with
  | nil => cases h
  | cons d cs ih =>
      cases i with
      | zero =>
          obtain rfl : d = c := Option.some.inj h
          rfl
      | succ i =>
          rw [List.take_succ_cons, replay_cons]
          exact ih h

/-- What comes of the calls about a group is what comes of them alone. -/
theorem filter_answered (same : g ∈ joined ↔ g ∈ others) (cs : List GroupCall) :
    (answered joined cs).filter (·.1.group = g) = answered others (cs.filter (·.group = g)) := by
  induction cs generalizing joined others with
  | nil => rfl
  | cons c cs ih =>
      rw [answered]
      by_cases own : c.group = g
      · subst own
        rw [List.filter_cons_of_pos (by simp), List.filter_cons_of_pos (by simp), answered,
          outcome_congr same, ih (mem_replay_congr same c)]
      · rw [List.filter_cons_of_neg (by simpa using own),
          List.filter_cons_of_neg (by simpa using own), ih ((mem_replay_of_ne own).trans same)]

/-! ## The kernel -/

/-- What the kernel makes of a call. -/
def reach (c : GroupCall) (k : MemoryKernel) : CallResult × MemoryKernel :=
  match c.fault, c.turn with
  | some e, _ => (MemoryKernel.refusal e, k)
  | none, .joined => MemoryKernel.joinGroup c.group k
  | none, .left => MemoryKernel.leaveGroup c.group k

theorem fst_reach (c : GroupCall) (k : MemoryKernel) :
    (c.reach k).1 = c.outcome k.groups.toFinset := by
  obtain ⟨turn, group, fault⟩ := c
  cases fault with
  | some e => rfl
  | none =>
      cases turn with
      | joined =>
          simp only [reach, outcome, MemoryKernel.joinGroup, List.mem_toFinset]
          split <;> rfl
      | left =>
          simp only [reach, outcome, MemoryKernel.leaveGroup, List.mem_toFinset]
          split <;> rfl

theorem groups_reach (c : GroupCall) (k : MemoryKernel) :
    (c.reach k).2.groups.toFinset = replay k.groups.toFinset [c] := by
  ext g
  rw [mem_replay_singleton, List.mem_toFinset, List.mem_toFinset]
  obtain ⟨turn, group, fault⟩ := c
  cases fault with
  | some e => simp [reach]
  | none =>
      cases turn with
      | joined =>
          rw [reach, MemoryKernel.mem_groups_joinGroup]
          by_cases own : group = g
          · simp [own]
          · simp [own, Ne.symm own]
      | left =>
          rw [reach, MemoryKernel.mem_groups_leaveGroup]
          by_cases own : group = g
          · simp [own]
          · simp [own, Ne.symm own]

end GroupCall

/-! ## Runs -/

namespace Membership

/-- Makes a call. -/
def ask {σ : Type} [Host σ] (m : Membership) (c : GroupCall) : StateM σ KernelResult :=
  match c.turn with
  | .joined => m.join c.group
  | .left => m.leave c.group

/-- Makes calls one after another and collects what is told. -/
def askAll {σ : Type} [Host σ] (m : Membership) (cs : List GroupCall) :
    StateM σ (List KernelResult) :=
  cs.mapM m.ask

theorem askAll_cons (m : Membership) (c : GroupCall) (cs : List GroupCall) (h : SessionHost) :
    m.askAll (c :: cs) h =
      ((m.ask c h).1 :: (m.askAll cs (m.ask c h).2).1, (m.askAll cs (m.ask c h).2).2) := by
  rw [askAll, List.mapM_cons]
  rfl

/-- A call makes one call of the host, which is written down, and takes one turn of the script. -/
theorem ask_run (m : Membership) (c : GroupCall) (k : MemoryKernel)
    (sends : List (Option SendFault)) (faults : List (Option Errno)) (calls : List Call) :
    m.ask c (⟨⟨k, sends, c.fault :: faults⟩, calls⟩ : SessionHost) =
      (c.told (c.reach k).1,
        ⟨⟨(c.reach k).2, sends, faults⟩, calls ++ [c.call m.ifIndex (c.reach k).1]⟩) := by
  obtain ⟨turn, group, fault⟩ := c
  cases fault <;> cases turn <;> rfl

/-- A run tells and writes down its calls with what comes of them, and leaves the groups that
    replaying them leaves. -/
theorem askAll_run (m : Membership) (cs : List GroupCall) (k : MemoryKernel)
    (sends : List (Option SendFault)) (faults : List (Option Errno)) (calls : List Call) :
    ∃ k' : MemoryKernel,
      m.askAll cs (⟨⟨k, sends, cs.map GroupCall.fault ++ faults⟩, calls⟩ : SessionHost) =
        ((GroupCall.answered k.groups.toFinset cs).map fun x => x.1.told x.2,
          ⟨⟨k', sends, faults⟩, calls ++
            (GroupCall.answered k.groups.toFinset cs).map fun x => x.1.call m.ifIndex x.2⟩) ∧
      k'.groups.toFinset = GroupCall.replay k.groups.toFinset cs := by
  induction cs generalizing k calls with
  | nil =>
      refine ⟨k, ?_, rfl⟩
      simp only [GroupCall.answered, List.map_nil, List.nil_append, List.append_nil]
      rfl
  | cons c cs ih =>
      obtain ⟨k', run, groups⟩ :=
        ih (c.reach k).2 (calls ++ [c.call m.ifIndex (c.reach k).1])
      refine ⟨k', ?_, ?_⟩
      · rw [List.map_cons, List.cons_append, askAll_cons, ask_run]
        dsimp only
        rw [run, GroupCall.groups_reach, GroupCall.fst_reach, GroupCall.answered]
        simp
      · rw [groups, GroupCall.groups_reach, ← GroupCall.replay_cons]

/-- Calls on a kernel, each of which reaches it or fails with its own fault. -/
def run (m : Membership) (k : MemoryKernel) (cs : List GroupCall) :
    List KernelResult × SessionHost :=
  m.askAll cs ⟨⟨k, [], cs.map GroupCall.fault⟩, []⟩

section

variable (m : Membership) (k : MemoryKernel) (cs : List GroupCall)

theorem fst_run : (m.run k cs).1 =
    (GroupCall.answered k.groups.toFinset cs).map fun x => x.1.told x.2 := by
  obtain ⟨k', run, -⟩ := m.askAll_run cs k [] [] []
  rw [List.append_nil] at run
  exact congrArg Prod.fst run

theorem calls_run : (m.run k cs).2.calls =
    (GroupCall.answered k.groups.toFinset cs).map fun x => x.1.call m.ifIndex x.2 := by
  obtain ⟨k', run, -⟩ := m.askAll_run cs k [] [] []
  rw [List.append_nil] at run
  exact congrArg (fun x => x.2.calls) run

theorem groups_run : (m.run k cs).2.kernel.groups.toFinset =
    GroupCall.replay k.groups.toFinset cs := by
  obtain ⟨k', run, groups⟩ := m.askAll_run cs k [] [] []
  rw [List.append_nil] at run
  rw [← groups]
  exact congrArg (fun x => (SessionHost.kernel x.2).groups.toFinset) run

theorem zip_run : cs.zip (m.run k cs).1 =
    (GroupCall.answered k.groups.toFinset cs).map fun x => (x.1, x.1.told x.2) := by
  conv => lhs; arg 1; rw [← GroupCall.map_fst_answered k.groups.toFinset cs]
  rw [fst_run, List.zip_map']

end

/-- **Joins and leaves do what the kernel allows.** Over any calls, of which any fail on demand with
    any error, each makes one call of the host with the index of the membership, and the groups are
    those that inserting and erasing leaves. A join that reaches the kernel succeeds, and none is
    told that the group is joined already; a leave that reaches it succeeds if the group is joined
    and is told otherwise that it is not. Any number of calls that ask for what is so already change
    neither the groups nor what another call is told, and so do calls about another group. -/
theorem calls_meet_kernel (m : Membership) (k : MemoryKernel) :
    (∀ cs : List GroupCall, (∃ outcomes : List CallResult, outcomes.length = cs.length ∧
        (m.run k cs).2.calls = List.zipWith (GroupCall.call m.ifIndex) cs outcomes) ∧
      (m.run k cs).2.kernel.groups.toFinset = GroupCall.replay k.groups.toFinset cs ∧
      (m.run k cs).1.length = cs.length ∧
      ∀ (i : Nat) (c : GroupCall), cs[i]? = some c →
        ∃ told, (m.run k cs).1[i]? = some told ∧
          c.Obeys (GroupCall.replay k.groups.toFinset (cs.take i)) told) ∧
    (∀ before extra after : List GroupCall,
      (∀ c ∈ extra, c.Repeats (GroupCall.replay k.groups.toFinset before)) →
      (m.run k (before ++ extra ++ after)).2.kernel.groups.toFinset =
        (m.run k (before ++ after)).2.kernel.groups.toFinset ∧
      ∃ first more last, first.length = before.length ∧ more.length = extra.length ∧
        (m.run k (before ++ extra ++ after)).1 = first ++ more ++ last ∧
        (m.run k (before ++ after)).1 = first ++ last) ∧
    ∀ (cs : List GroupCall) (g : Ipv6), let about := cs.filter (·.group = g)
      (cs.zip (m.run k cs).1).filter (·.1.group = g) = about.zip (m.run k about).1 ∧
      (g ∈ (m.run k cs).2.kernel.groups ↔ g ∈ (m.run k about).2.kernel.groups) := by
  refine ⟨fun cs => ⟨?_, m.groups_run k cs, ?_, ?_⟩, ?_, ?_⟩
  · refine ⟨(GroupCall.answered k.groups.toFinset cs).map Prod.snd, ?_, ?_⟩
    · rw [List.length_map, GroupCall.length_answered]
    · rw [calls_run]
      conv => rhs; arg 2; rw [← GroupCall.map_fst_answered k.groups.toFinset cs]
      rw [List.zipWith_map, List.zipWith_self]
  · rw [fst_run, List.length_map, GroupCall.length_answered]
  · intro i c call
    refine ⟨_, ?_, GroupCall.obeys_outcome _ c⟩
    rw [fst_run, List.getElem?_map, GroupCall.getElem?_answered call, Option.map_some]
  · intro before extra after repeats
    -- Calls that repeat leave the groups, so what follows them finds what it would have found.
    have same := GroupCall.replay_repeats repeats
    refine ⟨?_, ?_⟩
    · rw [groups_run, groups_run, GroupCall.replay_append, GroupCall.replay_append, same,
        ← GroupCall.replay_append]
    · rw [fst_run, fst_run, GroupCall.answered_append, GroupCall.answered_append,
        GroupCall.answered_append, GroupCall.replay_append, same, List.map_append,
        List.map_append, List.map_append]
      refine ⟨_, _, _, ?_, ?_, rfl, rfl⟩ <;> rw [List.length_map, GroupCall.length_answered]
  · intro cs g about
    refine ⟨?_, ?_⟩
    · rw [zip_run, zip_run, List.filter_map]
      exact congrArg _ (GroupCall.filter_answered Iff.rfl cs)
    · rw [← List.mem_toFinset, ← List.mem_toFinset (l := (m.run k about).2.kernel.groups),
        groups_run, groups_run]
      exact GroupCall.mem_replay_filter Iff.rfl cs

/-- A group is joined twice more and one that was never joined left once more, before the first one
    is left twice. One call of each part fails on demand, the last one with the error of a group
    that is joined. -/
theorem calls_meet_kernel_with_repeats :
    let m : Membership := ⟨4⟩
    let k := MemoryKernel.idle 0
    let join (n : UInt8) (fault : Option Errno) : GroupCall :=
      ⟨.joined, .numberedGroup n, fault⟩
    let leave (n : UInt8) (fault : Option Errno) : GroupCall :=
      ⟨.left, .numberedGroup n, fault⟩
    let before := [join 1 none, leave 2 none, join 2 (some Errno.operationNotPermitted)]
    let extra := [join 1 none, leave 2 none, join 1 (some Errno.inputOutput), join 1 none]
    let after := [leave 1 none, leave 1 none, join 2 (some Errno.addressInUse)]
    let failed (e : Errno) : KernelResult := .error (.failed (.os e))
    let absent : KernelResult := .error .notPresent
    (∀ c ∈ extra, c.Repeats (GroupCall.replay k.groups.toFinset before)) ∧
    (before ++ after)[3]? = some (leave 1 none) ∧
    (m.run k (before ++ extra ++ after)).1 =
      [.ok (), absent, failed Errno.operationNotPermitted] ++
        [.ok (), absent, failed Errno.inputOutput, .ok ()] ++ [.ok (), absent, .ok ()] ∧
    (m.run k (before ++ after)).1 =
      [.ok (), absent, failed Errno.operationNotPermitted] ++ [.ok (), absent, .ok ()] ∧
    (∃ told, (m.run k (before ++ after)).1[3]? = some told ∧
      (leave 1 none).Obeys
        (GroupCall.replay k.groups.toFinset ((before ++ after).take 3)) told) ∧
    (m.run k (before ++ extra ++ after)).2.kernel.groups.toFinset =
      (m.run k (before ++ after)).2.kernel.groups.toFinset ∧
    ∃ first more last, first.length = before.length ∧ more.length = extra.length ∧
      (m.run k (before ++ extra ++ after)).1 = first ++ more ++ last ∧
      (m.run k (before ++ after)).1 = first ++ last := by
  intro m k join leave before extra after failed absent
  have repeats : ∀ c ∈ extra, c.Repeats (GroupCall.replay k.groups.toFinset before) := by
    decide +kernel
  have call : (before ++ after)[3]? = some (leave 1 none) := rfl
  obtain ⟨each, repeated, -⟩ := calls_meet_kernel m k
  exact ⟨repeats, call, by decide +kernel, by decide +kernel,
    (each (before ++ after)).2.2.2 3 (leave 1 none) call, repeated before extra after repeats⟩

end Membership
end MeshLink
