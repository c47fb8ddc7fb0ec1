import Mathlib.Computability.Language
import MeshLink.Proofs.Answers
set_option autoImplicit false

/-! # Turns in a log

What a log of calls tells about one address and length is a word with one letter for each request,
and so is what it tells about one group. A key or a group that is put in and taken out in turn has
a word of a fixed shape: that of a switch, which is off at first, may idle while it is off, and goes
on and off (`Switch`). Every such word starts a word of the regular language
`(idle∗ * {[on]} * {[off]})∗`, and its last letter tells whether the switch is on. -/

open scoped Computability

namespace MeshLink

/-! ## Words of a switch -/

/-- A word that a switch has gone through, and whether the switch is on after it. -/
inductive Switch {α : Type} (idle : Language α) (on off : α) : Bool → List α → Prop
  | start : Switch idle on off false []
  | idle {w : List α} {a : α} :
      [a] ∈ idle → Switch idle on off false w → Switch idle on off false (w ++ [a])
  | on {w : List α} : Switch idle on off false w → Switch idle on off true (w ++ [on])
  | off {w : List α} : Switch idle on off true w → Switch idle on off false (w ++ [off])

namespace Switch

variable {α : Type} {idle : Language α} {on off : α} {b : Bool} {w : List α}

/-- The words of full turns: idling, on, off. -/
def turns (idle : Language α) (on off : α) : Language α :=
  (idle∗ * {[on]} * {[off]})∗

/-- The words after which the switch is on, or off. -/
def words (idle : Language α) (on off : α) : Bool → Language α
  | false => turns idle on off * idle∗
  | true => turns idle on off * (idle∗ * {[on]})

theorem mem_words (h : Switch idle on off b w) : w ∈ words idle on off b := by
  induction h with
  | start => exact Language.append_mem_mul (Language.nil_mem_kstar _) (Language.nil_mem_kstar _)
  | @idle w a ha _ ih =>
      have more : turns idle on off * idle∗ * idle ≤ turns idle on off * idle∗ := by
        rw [mul_assoc]
        exact mul_le_mul_right kstar_mul_le_kstar _
      exact more (Language.append_mem_mul ih ha)
  | @on w _ ih =>
      show w ++ [on] ∈ turns idle on off * (idle∗ * {[on]})
      rw [← mul_assoc]
      exact Language.append_mem_mul ih rfl
  | @off w _ ih =>
      -- The turn is full, so it is one more of them, and nothing follows yet.
      have full : turns idle on off * (idle∗ * {[on]}) * {[off]} ≤ turns idle on off := by
        rw [mul_assoc]
        exact kstar_mul_le_kstar
      rw [← List.append_nil (w ++ [off])]
      exact Language.append_mem_mul (full (Language.append_mem_mul ih rfl))
        (Language.nil_mem_kstar _)

/-- The turn that a switch is in can be brought to its end. -/
theorem exists_append_mem_turns (h : Switch idle on off b w) :
    ∃ rest, w ++ rest ∈ turns idle on off := by
  have full : turns idle on off * (idle∗ * {[on]} * {[off]}) ≤ turns idle on off :=
    kstar_mul_le_kstar
  cases b with
  | false =>
      refine ⟨[on] ++ [off], full ?_⟩
      rw [← List.append_assoc, ← mul_assoc, ← mul_assoc]
      exact Language.append_mem_mul (Language.append_mem_mul h.mem_words rfl) rfl
  | true =>
      refine ⟨[off], full ?_⟩
      rw [← mul_assoc]
      exact Language.append_mem_mul h.mem_words rfl

/-- The last letter tells whether a switch is on. -/
theorem getLast?_eq_on_iff (h : Switch idle on off b w) (busy : [on] ∉ idle) (ne : on ≠ off) :
    w.getLast? = some on ↔ b = true := by
  cases h with
  | start => simp
  | idle ha =>
      rw [List.getLast?_concat, Option.some.injEq]
      refine iff_of_false ?_ Bool.false_ne_true
      rintro rfl
      exact busy ha
  | on => simp
  | off => simp [ne.symm]

end Switch

/-! ## Requests about a key -/

/-- A request about an address as a log shows it: what it said and what came of it. -/
structure Asked where
  message : Netlink.AddressMessage
  outcome : KernelResult

/-- How a request went. -/
inductive Turn
  /-- An addition that failed. -/
  | refused
  /-- An addition after which the address is there. -/
  | granted
  /-- A removal, whatever came of it. -/
  | removed
  /-- Neither an addition nor a removal. -/
  | foreign
deriving DecidableEq

/-- How a request went, by its type and its outcome. -/
def Asked.turn (q : Asked) : Turn :=
  if q.message.type = Netlink.MessageType.newAddress then
    if Controller.isAccepted q.outcome then .granted else .refused
  else if q.message.type = Netlink.MessageType.delAddress then .removed
  else .foreign

/-- The request that a call makes, if it is about a key. -/
def Call.asked? (key : Ipv6 × UInt8) : Call → Option Asked
  | .send octets _ outcome =>
    match Netlink.AddressMessage.decode? octets with
    | some m => if m.address = some key.1 ∧ m.length = key.2 then some ⟨m, outcome⟩ else none
    | none => none
  | _ => none

/-- The requests about a key, in order. -/
def askedAbout (key : Ipv6 × UInt8) (calls : List Call) : List Asked :=
  calls.filterMap (Call.asked? key)

theorem askedAbout_append (key : Ipv6 × UInt8) (cs ds : List Call) :
    askedAbout key (cs ++ ds) = askedAbout key cs ++ askedAbout key ds :=
  List.filterMap_append

/-- A request about a key was sent, and says what its octets say. -/
theorem mem_askedAbout {key : Ipv6 × UInt8} {calls : List Call} {q : Asked}
    (h : q ∈ askedAbout key calls) :
    ∃ octets seq, .send octets seq q.outcome ∈ calls ∧
      Netlink.AddressMessage.decode? octets = some q.message := by
  obtain ⟨c, hc, told⟩ := List.mem_filterMap.1 h
  cases c with
  | send octets seq o =>
      dsimp only [Call.asked?] at told
      split at told
      · next m read =>
          split at told
          · obtain rfl := Option.some.inj told
            exact ⟨octets, seq, hc, read⟩
          · exact absurd told (Option.some_ne_none q).symm
      · exact absurd told (Option.some_ne_none q).symm
  | _ => cases told

theorem Asked.turn_eq_removed_iff (q : Asked) :
    q.turn = .removed ↔ q.message.type = Netlink.MessageType.delAddress := by
  unfold Asked.turn
  split
  · next add =>
      rw [add]
      split <;> simp [Netlink.MessageType.newAddress_ne_delAddress]
  · split <;> simp [*]

theorem Asked.of_granted {q : Asked} (granted : q.turn = .granted) :
    q.message.type = Netlink.MessageType.newAddress ∧
      Controller.isAccepted q.outcome = true := by
  unfold Asked.turn at granted
  split_ifs at granted with add accepted
  exact ⟨add, accepted⟩

namespace Request

/-- How the request went. -/
def turn : Request → Turn
  | .addition _ _ o => if Controller.isAccepted o then .granted else .refused
  | .removal .. => .removed

/-- What a log shows of the request. -/
def asked (ifIndex seq : UInt32) (q : Request) : Asked :=
  ⟨q.reading ifIndex seq, q.outcome⟩

theorem turn_asked (ifIndex seq : UInt32) (q : Request) : (q.asked ifIndex seq).turn = q.turn := by
  cases q <;> rfl

theorem asked?_call (key : Ipv6 × UInt8) (ifIndex seq : UInt32) (q : Request) :
    (q.call ifIndex seq).asked? key =
      if q.address.key = key then some (q.asked ifIndex seq) else none := by
  have same : ((q.reading ifIndex seq).address = some key.1 ∧
      (q.reading ifIndex seq).length = key.2) ↔ q.address.key = key := by
    simp [LinkAddress.key, Prod.ext_iff]
  rw [call, Call.asked?, decode?_message]
  exact if_congr same rfl rfl

/-- The call of a request adds it to the requests about its own key. -/
theorem askedAbout_concat (key : Ipv6 × UInt8) (ifIndex seq : UInt32) (q : Request)
    (calls : List Call) :
    askedAbout key (calls ++ [q.call ifIndex seq]) =
      askedAbout key calls ++ if q.address.key = key then [q.asked ifIndex seq] else [] := by
  rw [askedAbout_append]
  congr 1
  rw [askedAbout, List.filterMap_cons, asked?_call]
  by_cases own : q.address.key = key <;> simp [own]

/-- Nothing is asked about a key exactly if no request is about it. -/
theorem askedAbout_calls_eq_nil_iff {key : Ipv6 × UInt8} {ifIndex seq : UInt32}
    {qs : List Request} :
    askedAbout key (calls ifIndex seq qs) = [] ↔ ∀ q ∈ qs, q.address.key ≠ key := by
  induction qs generalizing seq with
  | nil => simp [calls, askedAbout]
  | cons q qs ih =>
      rw [List.forall_mem_cons, ← @ih (seq + 1), calls, askedAbout, List.filterMap_cons,
        asked?_call]
      by_cases own : q.address.key = key
      · simp [own]
      · simp [own, askedAbout]

end Request

/-! ## Calls about a group -/

/-- What a call does to a group. -/
inductive GroupTurn
  | joined
  | left
deriving DecidableEq

/-- What a call asks about a group, and what came of it. -/
def Call.groupTurn? (g : Ipv6) : Call → Option (GroupTurn × CallResult)
  | .join h _ outcome => if h = g then some (.joined, outcome) else none
  | .leave h _ outcome => if h = g then some (.left, outcome) else none
  | _ => none

/-- The calls about a group, in order. -/
def groupTurns (g : Ipv6) (calls : List Call) : List (GroupTurn × CallResult) :=
  calls.filterMap (Call.groupTurn? g)

theorem groupTurns_append (g : Ipv6) (cs ds : List Call) :
    groupTurns g (cs ++ ds) = groupTurns g cs ++ groupTurns g ds :=
  List.filterMap_append

/-- Calls of one kind about several groups, each with its outcome. -/
def GroupTurn.calls (ifIndex : UInt32) (ls : List (Ipv6 × CallResult)) : GroupTurn → List Call
  | .joined => ls.map fun l => .join l.1 ifIndex l.2
  | .left => ls.map fun l => .leave l.1 ifIndex l.2

theorem GroupTurn.groupTurns_calls (turn : GroupTurn) (g : Ipv6) (ifIndex : UInt32)
    (ls : List (Ipv6 × CallResult)) :
    groupTurns g (turn.calls ifIndex ls) =
      (ls.filter (·.1 = g)).map fun l => (turn, l.2) := by
  induction ls with
  | nil => cases turn <;> rfl
  | cons l ls ih =>
      cases turn <;>
        by_cases own : l.1 = g <;>
          simpa [calls, groupTurns, Call.groupTurn?, own] using ih

theorem GroupTurn.groupTurns_calls_of_notMem (turn : GroupTurn) {g : Ipv6} (ifIndex : UInt32)
    {ls : List (Ipv6 × CallResult)} (h : g ∉ ls.map Prod.fst) :
    groupTurns g (turn.calls ifIndex ls) = [] := by
  have none : ls.filter (·.1 = g) = [] := by
    refine List.filter_eq_nil_iff.2 ?_
    intro l hl own
    rw [← of_decide_eq_true own] at h
    exact h (List.mem_map_of_mem hl)
  rw [groupTurns_calls, none, List.map_nil]

theorem GroupTurn.groupTurns_calls_of_mem (turn : GroupTurn) {g : Ipv6} (ifIndex : UInt32)
    {ls : List (Ipv6 × CallResult)} (unique : (ls.map Prod.fst).Nodup)
    (h : g ∈ ls.map Prod.fst) :
    ∃ outcome, (g, outcome) ∈ ls ∧ groupTurns g (turn.calls ifIndex ls) = [(turn, outcome)] := by
  induction ls with
  | nil => exact absurd h List.not_mem_nil
  | cons l ls ih =>
      obtain ⟨new, unique⟩ := List.nodup_cons.1 unique
      have split : turn.calls ifIndex (l :: ls) =
          turn.calls ifIndex [l] ++ turn.calls ifIndex ls := by
        cases turn <;> rfl
      rw [split, groupTurns_append]
      rcases List.mem_cons.1 h with rfl | later
      · refine ⟨l.2, List.mem_cons_self, ?_⟩
        rw [turn.groupTurns_calls_of_notMem ifIndex new, groupTurns_calls]
        simp
      · have other : l.1 ≠ g := fun own => new (own ▸ later)
        obtain ⟨outcome, mem, once⟩ := ih unique later
        refine ⟨outcome, List.mem_cons_of_mem _ mem, ?_⟩
        rw [once, groupTurns_calls]
        simp [other]

/-! ## What tells nothing -/

/-- The calls of exchanges that are about neither an address nor a group. -/
theorem untold_of_quiet {es : List Exchange} (quiet : ∀ e ∈ es, e.isQuiet = true) :
    (∀ key, askedAbout key (es.filterMap Exchange.call?) = []) ∧
      ∀ g, groupTurns g (es.filterMap Exchange.call?) = [] := by
  have untold : ∀ c ∈ es.filterMap Exchange.call?,
      (∀ key, c.asked? key = none) ∧ ∀ g, c.groupTurn? g = none := by
    intro c hc
    obtain ⟨e, he, same⟩ := List.mem_filterMap.1 hc
    have still := quiet e he
    cases e with
    | clock time => cases same
    | call d =>
        cases same
        cases c with
        | send | join | leave => exact absurd still Bool.false_ne_true
        | _ => exact ⟨fun _ => rfl, fun _ => rfl⟩
  exact ⟨fun key => List.filterMap_eq_nil_iff.2 fun c hc => (untold c hc).1 key,
    fun g => List.filterMap_eq_nil_iff.2 fun c hc => (untold c hc).2 g⟩

theorem groupTurns_requests (g : Ipv6) (ifIndex seq : UInt32) (qs : List Request) :
    groupTurns g (Request.calls ifIndex seq qs) = [] := by
  induction qs generalizing seq with
  | nil => rfl
  | cons q qs ih => exact ih (seq + 1)

theorem Reconciliation.groupCalls_eq (t : Reconciliation) :
    t.groupCalls = GroupTurn.left.calls t.ifIndex t.leaves ++
      GroupTurn.joined.calls t.ifIndex t.joins :=
  rfl

theorem Reconciliation.askedAbout_groupCalls (key : Ipv6 × UInt8) (t : Reconciliation) :
    askedAbout key t.groupCalls = [] := by
  refine List.filterMap_eq_nil_iff.2 ?_
  intro c hc
  rcases List.mem_append.1 hc with hc | hc
  · obtain ⟨l, -, rfl⟩ := List.mem_map.1 hc
    rfl
  · obtain ⟨j, -, rfl⟩ := List.mem_map.1 hc
    rfl

/-! ## What a snapshot tells -/

namespace Controller.Reconciles

variable {σ : Type} [Host σ] {c : Controller} {snapshot : List AddressReport}
  {s s' : Shared σ} {t : Reconciliation} {g : Ipv6}

/-- Nothing is asked about a key exactly if what is mirrored under it is what is wanted. -/
theorem askedAbout_eq_nil_iff (h : c.Reconciles snapshot s t s') (key : Ipv6 × UInt8)
    (seq : UInt32) :
    askedAbout key (t.calls seq) = [] ↔
      ∀ a : LinkAddress, a.key = key →
        (a ∈ c.inventory.addresses ↔ a ∈ desired snapshot t.now) := by
  have removed : ∀ a, a ∈ t.removals.map Request.address ↔
      a ∈ c.inventory.addresses ∧ a ∉ desired snapshot t.now := by
    intro a
    rw [h.removed, Diff.mem_without]
  have added : ∀ a, a ∈ t.additions.map Request.address ↔
      a ∈ desired snapshot t.now ∧ a ∉ c.inventory.addresses := by
    intro a
    rw [h.added, Diff.mem_without]
  rw [Reconciliation.calls, askedAbout_append, t.askedAbout_groupCalls, List.append_nil,
    Request.askedAbout_calls_eq_nil_iff]
  constructor
  · intro unasked a about
    constructor
    · intro mirrored
      by_contra unwanted
      obtain ⟨q, hq, rfl⟩ := List.mem_map.1 ((removed a).2 ⟨mirrored, unwanted⟩)
      exact unasked q (List.mem_append_left _ hq) about
    · intro wanted
      by_contra new
      obtain ⟨q, hq, rfl⟩ := List.mem_map.1 ((added a).2 ⟨wanted, new⟩)
      exact unasked q (List.mem_append_right _ hq) about
  · intro same q hq about
    rcases List.mem_append.1 hq with hq | hq
    · obtain ⟨mirrored, unwanted⟩ := (removed _).1 (List.mem_map_of_mem hq)
      exact unwanted ((same _ about).1 mirrored)
    · obtain ⟨wanted, new⟩ := (added _).1 (List.mem_map_of_mem hq)
      exact new ((same _ about).2 wanted)

theorem groupTurns_eq (t : Reconciliation) (seq : UInt32) (g : Ipv6) :
    groupTurns g (t.calls seq) = groupTurns g (GroupTurn.left.calls t.ifIndex t.leaves) ++
      groupTurns g (GroupTurn.joined.calls t.ifIndex t.joins) := by
  rw [Reconciliation.calls, groupTurns_append, groupTurns_requests, List.nil_append,
    t.groupCalls_eq, groupTurns_append]

theorem mem_left_iff (h : c.Reconciles snapshot s t s') :
    g ∈ t.leaves.map Prod.fst ↔ g ∈ c.groups ∧ g ∉ desiredGroups snapshot := by
  rw [h.left, Diff.mem_without]

theorem mem_joined_iff (h : c.Reconciles snapshot s t s') :
    g ∈ t.joins.map Prod.fst ↔ g ∈ desiredGroups snapshot ∧ g ∉ c.groups := by
  rw [h.joined, Diff.mem_without]

theorem groupTurns_kept (h : c.Reconciles snapshot s t s')
    (same : g ∈ c.groups ↔ g ∈ desiredGroups snapshot) (seq : UInt32) :
    groupTurns g (t.calls seq) = [] := by
  have notLeft : g ∉ t.leaves.map Prod.fst := fun hg =>
    (h.mem_left_iff.1 hg).2 (same.1 (h.mem_left_iff.1 hg).1)
  have notJoined : g ∉ t.joins.map Prod.fst := fun hg =>
    (h.mem_joined_iff.1 hg).2 (same.2 (h.mem_joined_iff.1 hg).1)
  rw [groupTurns_eq, GroupTurn.groupTurns_calls_of_notMem _ _ notLeft,
    GroupTurn.groupTurns_calls_of_notMem _ _ notJoined, List.append_nil]

theorem groupTurns_left (h : c.Reconciles snapshot s t s') (mirrored : g ∈ c.groups)
    (unwanted : g ∉ desiredGroups snapshot) (seq : UInt32) :
    ∃ outcome, groupTurns g (t.calls seq) = [(.left, outcome)] := by
  have unique : (t.leaves.map Prod.fst).Nodup := by
    rw [h.left]
    exact Diff.nodup_without _ _
  obtain ⟨outcome, -, once⟩ := GroupTurn.left.groupTurns_calls_of_mem t.ifIndex unique
    (h.mem_left_iff.2 ⟨mirrored, unwanted⟩)
  have notJoined : g ∉ t.joins.map Prod.fst := fun hg => unwanted (h.mem_joined_iff.1 hg).1
  refine ⟨outcome, ?_⟩
  rw [groupTurns_eq, once, GroupTurn.groupTurns_calls_of_notMem _ _ notJoined, List.append_nil]

theorem groupTurns_joined (h : c.Reconciles snapshot s t s') (new : g ∉ c.groups)
    (wanted : g ∈ desiredGroups snapshot) (seq : UInt32) :
    ∃ outcome, .join g t.ifIndex outcome ∈ t.calls seq ∧
      groupTurns g (t.calls seq) = [(.joined, outcome)] := by
  have unique : (t.joins.map Prod.fst).Nodup := by
    rw [h.joined]
    exact Diff.nodup_without _ _
  obtain ⟨outcome, made, once⟩ := GroupTurn.joined.groupTurns_calls_of_mem t.ifIndex unique
    (h.mem_joined_iff.2 ⟨wanted, new⟩)
  have notLeft : g ∉ t.leaves.map Prod.fst := fun hg => new (h.mem_left_iff.1 hg).1
  refine ⟨outcome, ?_, ?_⟩
  · exact List.mem_append_right _
      (List.mem_append_right _ (List.mem_map.2 ⟨(g, outcome), made, rfl⟩))
  · rw [groupTurns_eq, once, GroupTurn.groupTurns_calls_of_notMem _ _ notLeft, List.nil_append]

end Controller.Reconciles

end MeshLink
