import MeshLink.Proofs.Numbering
import MeshLink.Session
set_option autoImplicit false

/-! # Fleets of controllers

Any number of controllers on one host. Each draws the numbers of its requests from a counter, which
is a fresh one or a clone. What the controllers of one counter send, in whatever order they act, is
numbered from zero on; where another counter is used does not matter, and neither does what happens
to the host in between.

One operation is one stretch of the log of its place (`Transition.advances`), so a run is a sequence
of stretches (`Fleet.Sound.step`). -/

namespace MeshLink

theorem set_of_getElem?_eq {α : Type} {as : List α} {i : Nat} {a : α} (h : as[i]? = some a) :
    as.set i a = as := by
  obtain ⟨bound, rfl⟩ := List.getElem?_eq_some_iff.1 h
  exact List.set_getElem_self bound

/-- A controller with the counter that it draws from. -/
structure FleetMember where
  /-- The place of the numbers that its requests take. -/
  place : Nat
  controller : Controller

/-- Controllers on one host, with their counters. -/
structure Fleet (σ : Type) where
  counters : Counters
  members : List FleetMember
  host : σ
  /-- The calls so far, each with the place of the numbers of its controller. -/
  log : List (Nat × Call)

/-- What can happen to a fleet: a counter is made or cloned, a controller is created or used. -/
inductive FleetStep (σ : Type)
  | fresh
  | clone (counter : Nat)
  /-- A controller is created and given a clone of a counter. -/
  | enlist (config : Config) (counter : Nat)
  | operate (member : Nat) (op : Operation)
  /-- Anything happens to the host. -/
  | change (f : σ → σ)

/-- The calls in a log that are made with the numbers of a place. -/
def callsAt (place : Nat) (log : List (Nat × Call)) : List Call :=
  (log.filter (·.1 == place)).map (·.2)

@[simp] theorem callsAt_append (place : Nat) (log calls : List (Nat × Call)) :
    callsAt place (log ++ calls) = callsAt place log ++ callsAt place calls := by
  rw [callsAt, List.filter_append, List.map_append]
  rfl

theorem callsAt_same (place : Nat) (calls : List Call) :
    callsAt place (calls.map (place, ·)) = calls := by
  have all : (calls.map (place, ·)).filter (·.1 == place) = calls.map (place, ·) :=
    List.filter_eq_self.2 fun e he => by
      obtain ⟨c, -, rfl⟩ := List.mem_map.1 he
      exact beq_self_eq_true place
  rw [callsAt, all, List.map_map]
  exact List.map_id calls

theorem callsAt_eq_nil {place : Nat} {log : List (Nat × Call)} (other : ∀ e ∈ log, e.1 ≠ place) :
    callsAt place log = [] := by
  have none : log.filter (·.1 == place) = [] :=
    List.filter_eq_nil_iff.2 fun e he same => other e he (eq_of_beq same)
  rw [callsAt, none]
  rfl

/-- The requests of a log count themselves modulo 2^32, from zero on, and the next number is that
    of the next one. Up to 2^32 of them this is plain counting: no gap and no number twice. -/
structure Counts (log : List Call) (next : UInt32) : Prop where
  numbers : (requestsIn log).map (fun c => c.number?.map UInt32.toNat) =
    (List.range (requestsIn log).length).map fun k => some (k % 2 ^ 32)
  first : ((requestsIn log).take (2 ^ 32)).map (fun c => c.number?.map UInt32.toNat) =
    (List.range (min (requestsIn log).length (2 ^ 32))).map some
  next : next.toNat = (requestsIn log).length % 2 ^ 32

theorem Numbered.counts {log : List Call} {next : UInt32} (h : Numbered 0 log next) :
    Counts log next where
  numbers := h.toNat_numbers
  first := h.take_numbers
  next := by rw [h.last_eq, UInt32.zero_add, UInt32.toNat_ofNat']

namespace Fleet

variable {σ : Type}

/-- A counter and no controller yet. -/
def new (h : σ) : Fleet σ :=
  ⟨.single, [], h, []⟩

variable [Host σ]

/-- A member acts with the next number of its place. -/
def operate (f : Fleet σ) (m : Nat) (op : Operation) : Fleet σ :=
  match f.members[m]? with
  | none => f
  | some ⟨place, c⟩ =>
    match f.counters.next[place]? with
    | none => f
    | some n =>
      let after := c.apply op (⟨n, f.host, []⟩ : Shared (Recorded σ))
      { counters := { f.counters with next := f.counters.next.set place after.2.sequence }
        members := f.members.set m ⟨place, after.1.2⟩
        host := after.2.host.host
        log := f.log ++ after.2.host.calls.map (place, ·) }

/-- What cannot be done leaves the fleet as it is. -/
def step (f : Fleet σ) : FleetStep σ → Fleet σ
  | .fresh => { f with counters := f.counters.fresh }
  | .clone i => { f with counters := f.counters.clone i }
  | .enlist config i =>
    match f.counters.places[i]? with
    | none => f
    | some place => { f with members := f.members ++ [⟨place, .new config⟩] }
  | .operate m op => f.operate m op
  | .change g => { f with host := g f.host }

/-- Steps one after another. -/
def run (f : Fleet σ) (steps : List (FleetStep σ)) : Fleet σ :=
  steps.foldl step f

/-- The controllers are staged, the places are there, and the requests of each place are numbered
    from zero on. -/
structure Sound (f : Fleet σ) : Prop where
  staged : ∀ m ∈ f.members, m.controller.IsStaged
  placed : ∀ m ∈ f.members, m.place < f.counters.next.length
  known : ∀ place ∈ f.counters.places, place < f.counters.next.length
  logged : ∀ e ∈ f.log, e.1 < f.counters.next.length
  numbered : ∀ place n, f.counters.next[place]? = some n → Numbered 0 (callsAt place f.log) n

variable {f : Fleet σ}

omit [Host σ] in
theorem new_sound (h : σ) : (new h).Sound where
  staged := by simp [new]
  placed := by simp [new]
  known := by simp [new, Counters.single]
  logged := by simp [new]
  numbered := by
    intro place n next
    have zero : n = 0 := by
      cases place with
      | zero => exact (Option.some.inj next).symm
      | succ place => cases next
    rw [zero]
    exact .of_silent 0 rfl

theorem operate_eq {m : Nat} {member : FleetMember} {n : UInt32}
    (present : f.members[m]? = some member) (next : f.counters.next[member.place]? = some n)
    (op : Operation) :
    f.operate m op =
      let after := member.controller.apply op (⟨n, f.host, []⟩ : Shared (Recorded σ))
      { counters :=
          { f.counters with next := f.counters.next.set member.place after.2.sequence }
        members := f.members.set m ⟨member.place, after.1.2⟩
        host := after.2.host.host
        log := f.log ++ after.2.host.calls.map (member.place, ·) } := by
  simp only [operate, present, next]

/-- The calls of a member's operation are a stretch of numbered requests. -/
theorem Sound.advances (sound : f.Sound) {m : Nat} {member : FleetMember}
    (present : f.members[m]? = some member) (n : UInt32) (op : Operation) :
    Numbered n
      (member.controller.apply op (⟨n, f.host, []⟩ : Shared (Recorded σ))).2.host.calls
      (member.controller.apply op (⟨n, f.host, []⟩ : Shared (Recorded σ))).2.sequence := by
  have staged := sound.staged member (List.mem_of_getElem? present)
  obtain ⟨log, step⟩ := (Controller.apply_transition staged op
    (⟨n, f.host, []⟩ : Shared (Recorded σ))).advances
  rw [step.calls_eq]
  exact step.numbered

theorem Sound.operate (sound : f.Sound) (m : Nat) (op : Operation) : (f.operate m op).Sound := by
  cases present : f.members[m]? with
  | none =>
      rw [Fleet.operate, present]
      exact sound
  | some member =>
      have mem := List.mem_of_getElem? present
      obtain ⟨n, next⟩ : ∃ n, f.counters.next[member.place]? = some n :=
        ⟨_, List.getElem?_eq_getElem (sound.placed member mem)⟩
      have stretch := sound.advances present n op
      have staged := (Controller.apply_transition (sound.staged member mem) op
        (⟨n, f.host, []⟩ : Shared (Recorded σ))).isStaged (sound.staged member mem)
      rw [operate_eq present next]
      -- From here on it only counts that the calls are a stretch of numbered requests.
      generalize member.controller.apply op (⟨n, f.host, []⟩ : Shared (Recorded σ)) = after
        at stretch staged
      refine ⟨?_, ?_, ?_, ?_, ?_⟩
      · intro m' hm'
        rcases List.mem_or_eq_of_mem_set hm' with old | rfl
        · exact sound.staged m' old
        · exact staged
      · intro m' hm'
        rw [List.length_set]
        rcases List.mem_or_eq_of_mem_set hm' with old | rfl
        · exact sound.placed m' old
        · exact sound.placed member mem
      · intro place hp
        rw [List.length_set]
        exact sound.known place hp
      · intro e he
        rw [List.length_set]
        rcases List.mem_append.1 he with old | new
        · exact sound.logged e old
        · obtain ⟨c, -, rfl⟩ := List.mem_map.1 new
          exact sound.placed member mem
      · intro place n' next'
        rw [callsAt_append]
        by_cases same : place = member.place
        · rw [same, List.getElem?_set_self (sound.placed member mem)] at next'
          rw [same, callsAt_same, ← Option.some.inj next']
          exact (sound.numbered _ n next).append stretch
        · -- The log of another place gets nothing.
          rw [List.getElem?_set_ne (Ne.symm same)] at next'
          have nothing : callsAt place (after.2.host.calls.map (member.place, ·)) = [] := by
            refine callsAt_eq_nil fun e he => ?_
            obtain ⟨c, -, rfl⟩ := List.mem_map.1 he
            exact Ne.symm same
          rw [nothing, List.append_nil]
          exact sound.numbered place n' next'

omit [Host σ] in
theorem Sound.fresh (sound : f.Sound) : { f with counters := f.counters.fresh }.Sound where
  staged := sound.staged
  placed m hm := Nat.lt_of_lt_of_le (sound.placed m hm) (by simp [Counters.fresh])
  known place hp := by
    have longer : f.counters.fresh.next.length = f.counters.next.length + 1 := by
      simp [Counters.fresh]
    rw [longer]
    rcases List.mem_append.1 hp with old | new
    · exact Nat.lt_succ_of_lt (sound.known place old)
    · rw [List.mem_singleton.1 new]
      exact Nat.lt_succ_self _
  logged e he := Nat.lt_of_lt_of_le (sound.logged e he) (by simp [Counters.fresh])
  numbered := by
    intro place n next
    rcases Nat.lt_trichotomy place f.counters.next.length with old | new | beyond
    · refine sound.numbered place n ?_
      rw [← next]
      exact (List.getElem?_append_left old).symm
    · -- Nothing was logged for the new place yet.
      have zero : n = 0 := by
        rw [new] at next
        exact (Option.some.inj (List.getElem?_concat_length.symm.trans next)).symm
      have unused : callsAt place f.log = [] := by
        refine callsAt_eq_nil fun e he => ?_
        rw [new]
        exact (sound.logged e he).ne
      rw [zero]
      show Numbered 0 (callsAt place f.log) 0
      rw [unused]
      exact .of_silent 0 rfl
    · have none : f.counters.fresh.next[place]? = none := by
        refine List.getElem?_eq_none ?_
        simp only [Counters.fresh, List.length_append, List.length_singleton]
        exact beyond
      rw [none] at next
      cases next

omit [Host σ] in
theorem Sound.clone (sound : f.Sound) (i : Nat) :
    { f with counters := f.counters.clone i }.Sound := by
  rw [Counters.clone]
  split
  · next place counter =>
      refine ⟨sound.staged, sound.placed, ?_, sound.logged, sound.numbered⟩
      intro place' hp
      rcases List.mem_append.1 hp with old | new
      · exact sound.known place' old
      · rw [List.mem_singleton.1 new]
        exact sound.known place (List.mem_of_getElem? counter)
  · exact sound

theorem Sound.step (sound : f.Sound) (step : FleetStep σ) : (f.step step).Sound := by
  cases step with
  | fresh => exact sound.fresh
  | clone i => exact sound.clone i
  | enlist config i =>
      rw [Fleet.step]
      split
      · exact sound
      · next place counter =>
          refine ⟨?_, ?_, sound.known, sound.logged, sound.numbered⟩
          · intro m hm
            rcases List.mem_append.1 hm with old | new
            · exact sound.staged m old
            · rw [List.mem_singleton.1 new]
              rfl
          · intro m hm
            rcases List.mem_append.1 hm with old | new
            · exact sound.placed m old
            · rw [List.mem_singleton.1 new]
              exact sound.known place (List.mem_of_getElem? counter)
  | operate m op => exact sound.operate m op
  | change g => exact ⟨sound.staged, sound.placed, sound.known, sound.logged, sound.numbered⟩

theorem Sound.run (sound : f.Sound) (steps : List (FleetStep σ)) : (f.run steps).Sound := by
  induction steps generalizing f with
  | nil => exact sound
  | cons step steps ih => exact ih (sound.step step)

/-- An operation that sends no request leaves the counters, and one that has nothing to ask for
    sends none. -/
theorem Sound.counters_eq (sound : f.Sound) {m : Nat} {member : FleetMember} {n : UInt32}
    (present : f.members[m]? = some member) (next : f.counters.next[member.place]? = some n)
    (op : Operation) :
    ∃ calls, (f.operate m op).log = f.log ++ calls.map (member.place, ·) ∧
      (requestsIn calls = [] → (f.operate m op).counters = f.counters) ∧
      (member.controller.Spares (Host.now f.host).1 op
          (member.controller.apply op (⟨n, f.host, []⟩ : Shared (Recorded σ))).1.1 →
        requestsIn calls = []) := by
  have staged := sound.staged member (List.mem_of_getElem? present)
  have stretch := sound.advances present n op
  have t := Controller.apply_transition staged op (⟨n, f.host, []⟩ : Shared (Recorded σ))
  rw [operate_eq present next]
  refine ⟨_, rfl, ?_, ?_⟩
  · intro silent
    show ({ f.counters with next := f.counters.next.set member.place _ } : Counters) = f.counters
    rw [stretch.eq_of_silent silent, set_of_getElem?_eq next]
  · intro spares
    obtain ⟨log, step, silent⟩ := t.advances_silently staged spares
    rw [step.calls_eq]
    exact silent

end Fleet

/-! ## Sessions

The controllers of a session share one counter. -/

namespace Session

/-- Steps one after another, without their results. -/
def run (s : Session) (steps : List SessionStep) : Session :=
  steps.foldl (fun s step => (s.step step).2) s

/-- The session when it is asked about an interface with this index: the kernel answers with the
    index of the interface of whoever asks. -/
def facing (s : Session) (ifIndex : UInt32) : Session :=
  s.changeHost fun h => { h with host.ifIndex := ifIndex }

theorem operate_eq {s : Session} {target : Nat} {m : Member}
    (present : s.members[target]? = some m) (op : Operation) :
    s.operate target op =
      let done := m.controller.apply op (s.facing m.ifIndex).shared
      (done.1.1, ⟨done.2, s.members.set target ⟨done.1.2, m.ifIndex⟩⟩) := by
  simp only [operate, present]
  rfl

theorem operate_of_none {s : Session} {target : Nat} (absent : s.members[target]? = none)
    (op : Operation) : s.operate target op = (.ok (), s) := by
  simp only [operate, absent]

/-- The controllers are staged, and the requests of the session are numbered from zero on. -/
structure Sound (s : Session) : Prop where
  staged : ∀ m ∈ s.members, m.controller.IsStaged
  numbered : Numbered 0 s.shared.host.calls s.shared.sequence

variable {s : Session}

theorem new_sound (configs : List (Config × UInt32)) (time : Int64) : (new configs time).Sound where
  staged := by
    intro m hm
    obtain ⟨config, -, rfl⟩ := List.mem_map.1 hm
    rfl
  numbered := .of_silent 0 rfl

theorem Sound.operate (sound : s.Sound) (target : Nat) (op : Operation) :
    (s.operate target op).2.Sound := by
  cases present : s.members[target]? with
  | none =>
      rw [operate_of_none present]
      exact sound
  | some m =>
      have mem := List.mem_of_getElem? present
      have t := Controller.apply_transition (sound.staged m mem) op (s.facing m.ifIndex).shared
      obtain ⟨log, step⟩ := t.advances
      have staged := t.isStaged (sound.staged m mem)
      rw [operate_eq present]
      refine ⟨?_, ?_⟩
      · intro m' hm'
        rcases List.mem_or_eq_of_mem_set hm' with old | rfl
        · exact sound.staged m' old
        · exact staged
      · show Numbered 0 (m.controller.apply op (s.facing m.ifIndex).shared).2.host.calls _
        rw [step.calls_eq]
        exact sound.numbered.append step.numbered

theorem Sound.step (sound : s.Sound) (step : SessionStep) : (s.step step).2.Sound := by
  cases step with
  | start target device =>
      rw [Session.step]
      split
      · exact sound
      · exact sound.operate target _
  | operate target op => exact sound.operate target op
  | advance ms => exact ⟨sound.staged, sound.numbered⟩
  | change change => exact ⟨sound.staged, sound.numbered⟩

theorem Sound.run (sound : s.Sound) (steps : List SessionStep) : (s.run steps).Sound := by
  induction steps generalizing s with
  | nil => exact sound
  | cons step steps ih => exact ih (sound.step step)

end Session

/-- **Requests count themselves.** However many controllers draw from a counter through whatever
    clones, in whatever order they act and whatever the host answers, the requests that they send
    carry the numbers from zero on. Every counter of a fleet has such numbers, and every member
    draws from them; an operation that sends no request takes none, and nothing is sent where there
    is nothing to ask for. -/
theorem requests_count_themselves :
    (∀ {σ : Type} [Host σ] (h : σ) (steps : List (FleetStep σ)),
      let f := (Fleet.new h).run steps
      (∀ place n, f.counters.next[place]? = some n → Counts (callsAt place f.log) n) ∧
      (∀ e ∈ f.log, e.1 < f.counters.next.length) ∧
      (∀ place ∈ f.counters.places, place < f.counters.next.length) ∧
      ∀ m member, f.members[m]? = some member →
        ∃ n, f.counters.next[member.place]? = some n ∧
          ∀ op, ∃ calls, (f.operate m op).log = f.log ++ calls.map (member.place, ·) ∧
            (requestsIn calls = [] → (f.operate m op).counters = f.counters) ∧
            (member.controller.Spares (Host.now f.host).1 op
                (member.controller.apply op (⟨n, f.host, []⟩ : Shared (Recorded σ))).1.1 →
              requestsIn calls = [])) ∧
    ∀ (configs : List (Config × UInt32)) (time : Int64) (steps : List SessionStep),
      let s := (Session.new configs time).run steps
      Counts s.shared.host.calls s.shared.sequence := by
  refine ⟨?_, fun configs time steps => ?_⟩
  · intro σ _ h steps f
    have sound : f.Sound := (Fleet.new_sound h).run steps
    refine ⟨fun place n next => (sound.numbered place n next).counts, sound.logged, sound.known, ?_⟩
    intro m member present
    have next : f.counters.next[member.place]? = some _ :=
      List.getElem?_eq_getElem (sound.placed member (List.mem_of_getElem? present))
    exact ⟨_, next, sound.counters_eq present next⟩
  · exact ((Session.new_sound configs time).run steps).numbered.counts

/-- Two controllers with clones of one counter and a third with a counter of its own act in turn,
    and a request fails: the numbers of the first two are those from zero to four. -/
theorem requests_count_themselves_of_clones :
    let steps : List (FleetStep MemoryKernel) :=
      [.clone 0, .fresh, .enlist .default 0, .enlist .default 1, .enlist .default 2,
        .operate 0 (.start ⟨Config.defaultInterface⟩),
        .operate 1 (.start ⟨Config.defaultInterface⟩),
        .operate 2 (.start ⟨Config.defaultInterface⟩),
        .operate 0 (.addresses [.numbered 1 true, .numbered 2 true]),
        .operate 2 (.addresses [.numbered 3 true]), .operate 1 (.addresses [.numbered 4 true]),
        .operate 0 (.prefixes [⟨[0xfe], 8⟩]), .operate 0 (.addresses []), .operate 1 .destroy]
    let f := (Fleet.new { MemoryKernel.idle 0 with failingSends := [1] }).run steps
    f.counters.next = [5, 1] ∧
      (requestsIn (callsAt 0 f.log)).map (fun c => c.number?.map UInt32.toNat) =
        [some 0, some 1, some 2, some 3, some 4] ∧
      Counts (callsAt 0 f.log) 5 := by
  intro steps f
  have next : f.counters.next = [5, 1] := by decide +kernel
  have length : (requestsIn (callsAt 0 f.log)).length = 5 := by decide +kernel
  have counts : Counts (callsAt 0 f.log) 5 :=
    (requests_count_themselves.1 _ steps).1 0 5 (by rw [next]; rfl)
  refine ⟨next, ?_, counts⟩
  rw [counts.numbers, length]
  rfl

end MeshLink
