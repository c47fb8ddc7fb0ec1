import MeshLink.Proofs.Remaining
import MeshLink.Proofs.Transcript
import MeshLink.Proofs.WellFormed
set_option autoImplicit false

/-! # What is sent is consistent

An address takes a long way into a message: a snapshot asks for it, its scope and flags are derived,
its lifetimes are turned into seconds, and all of it is written out. The time of its deprecation
stems from the reading of the clock at the start of the snapshot, while the seconds that remain are
counted from a later reading. As long as the clock does not go back in between, nothing remains, at
both ends of the range of times (`Lifetime.remaining_eq_zero_iff`).

So whatever a controller sends as an addition reads back as one of two kinds, an address that is
valid and preferred for ever or one that is valid for ever and deprecated (`Origin.consistent`). -/

namespace MeshLink

namespace Netlink.AddressMessage

/-- The address is preferred for as long as it is valid, which is for ever. -/
def SaysPermanent (m : AddressMessage) : Prop :=
  m.lifetimes = some (0xffffffff, 0xffffffff) ∧ m.extendedFlags = some 0x80 ∧ m.addressFlags = 0x80

/-- The address is valid for ever and not preferred. -/
def SaysDeprecated (m : AddressMessage) : Prop :=
  m.lifetimes = some (0, 0xffffffff) ∧ m.extendedFlags = some 0x20 ∧ m.addressFlags = 0x20

/-- The message is about a unicast IPv6 address on an interface, its scope is that of the address,
    and its flags and lifetimes say the same. -/
structure Consistent (m : AddressMessage) (ifIndex : UInt32) : Prop where
  family : m.family = 10
  length_le : m.length ≤ 128
  index : m.ifIndex = ifIndex
  address : ∃ a, m.address = some a ∧ a.isMulticast = false ∧
    m.scope = if a.isLoopback then 254 else if a.isLinkLocal then 253 else 0
  lifetimes : m.SaysPermanent ∨ m.SaysDeprecated

/-- The address is preferred no longer than it is valid, and the flag of deprecation is there
    exactly if it is not preferred at all. -/
theorem Consistent.deprecated_iff {m : AddressMessage} {ifIndex : UInt32}
    (h : m.Consistent ifIndex) :
    ∃ preferred valid flags, m.lifetimes = some (preferred, valid) ∧
      m.extendedFlags = some flags ∧ preferred ≤ valid ∧
      (flags &&& LinkAddress.deprecatedFlag ≠ 0 ↔ preferred = 0) := by
  rcases h.lifetimes with ⟨lifetimes, flags, -⟩ | ⟨lifetimes, flags, -⟩
  · exact ⟨_, _, _, lifetimes, flags, by decide, by decide⟩
  · exact ⟨_, _, _, lifetimes, flags, by decide, by decide⟩

end Netlink.AddressMessage

/-! ## Readings of the clock -/

/-- The time that an exchange reads off the clock. -/
def Exchange.reading? : Exchange → Option Int64
  | .clock time => some time
  | .call _ => none

/-- What the clock showed, in order. -/
def readings (es : List Exchange) : List Int64 :=
  es.filterMap Exchange.reading?

theorem mem_readings {es : List Exchange} {time : Int64} (h : .clock time ∈ es) :
    time ∈ readings es :=
  List.mem_filterMap.2 ⟨_, h, rfl⟩

/-- The clock does not go back behind its first reading. -/
def Steady (es : List Exchange) : Prop :=
  ∀ first ∈ (readings es).head?, ∀ later ∈ readings es, first ≤ later

instance (es : List Exchange) : Decidable (Steady es) :=
  decidable_of_iff
    (((readings es).head?.all fun first => (readings es).all (first ≤ ·)) = true)
    (by simp [Steady, Option.all_eq_true])

/-! ## Requests in a dialogue -/

theorem Request.mem_dialogue {ifIndex seq : UInt32} {qs : List Request} {e : Exchange}
    (h : e ∈ dialogue ifIndex seq qs) :
    ∃ q ∈ qs, ∃ n, e ∈ q.exchanges ifIndex n ∧
      ∀ f ∈ q.exchanges ifIndex n, f ∈ dialogue ifIndex seq qs := by
  induction qs generalizing seq with
  | nil => exact absurd h List.not_mem_nil
  | cons q qs ih =>
      rcases List.mem_append.1 h with here | there
      · exact ⟨q, List.mem_cons_self, seq, here, fun f hf => List.mem_append_left _ hf⟩
      · obtain ⟨p, hp, n, he, all⟩ := ih there
        exact ⟨p, List.mem_cons_of_mem _ hp, n, he, fun f hf => List.mem_append_right _ (all f hf)⟩

/-- The octets of a request are its message, and an addition has the clock read for it. -/
theorem Request.of_mem_exchanges {ifIndex n seq : UInt32} {q : Request} {octets : List UInt8}
    {outcome : KernelResult} (h : .call (.send octets seq outcome) ∈ q.exchanges ifIndex n) :
    octets = q.message ifIndex n ∧
      ∀ a time o, q = .addition a time o → .clock time ∈ q.exchanges ifIndex n := by
  cases q with
  | addition a time o =>
      have sent : Exchange.call (.send octets seq outcome) =
          .call ((addition a time o).call ifIndex n) := by
        simpa [exchanges] using h
      cases sent
      refine ⟨rfl, fun a' time' o' same => ?_⟩
      cases same
      exact List.mem_cons_self
  | removal a o =>
      have sent : Exchange.call (.send octets seq outcome) =
          .call ((removal a o).call ifIndex n) := by
        simpa [exchanges] using h
      cases sent
      exact ⟨rfl, nofun⟩

/-! ## Additions -/

theorem LinkAddress.flagsFor_permanent : flagsFor .permanent .permanent = permanentFlag := by
  decide

theorem LinkAddress.flagsFor_at (time : Int64) :
    flagsFor (.at time) .permanent = deprecatedFlag := by
  simp [flagsFor, Lifetime.isFinite]

/-- Where a request comes from that is made among these exchanges: an address that is added is
    wanted at the first reading of the clock, and its lifetimes are counted from another one. -/
inductive Request.Origin (es : List Exchange) : Request → Prop
  | removal (a : LinkAddress) (o : KernelResult) : Origin es (.removal a o)
  | addition {snapshot : List AddressReport} {first time : Int64} {a : LinkAddress}
      (o : KernelResult) :
      (readings es).head? = some first → time ∈ readings es →
      a ∈ Controller.desired snapshot first → Origin es (.addition a time o)

namespace Controller

/-- What is wanted is consistent as it is sent, unless the clock has gone back. -/
theorem consistent_of_mem_desired {snapshot : List AddressReport} {first time : Int64}
    {a : LinkAddress} (wanted : a ∈ desired snapshot first) (steady : first ≤ time)
    (o : KernelResult) (ifIndex n : UInt32) :
    ((Request.addition a time o).reading ifIndex n).Consistent ifIndex := by
  have formed := wellFormed_of_mem_desired wanted
  refine ⟨rfl, formed.length_le, rfl, ⟨a.address, rfl, formed.unicast, ?_⟩, ?_⟩
  · simp only [Request.reading, formed.scope, Scope.ofAddress]
    split
    · rfl
    · split <;> rfl
  · simp only [Netlink.AddressMessage.SaysPermanent, Netlink.AddressMessage.SaysDeprecated,
      Request.reading, formed.flags, formed.expiration, Lifetime.remaining_permanent]
    rcases formed.deprecation with preferred | deprecated
    · left
      rw [preferred, Lifetime.remaining_permanent, LinkAddress.flagsFor_permanent]
      decide
    · right
      -- The time in it is that of the snapshot, which is over by now.
      have elapsed : (Lifetime.at first).remaining time = 0 := by
        rw [Lifetime.remaining_eq_zero_iff]
        have := Int64.le_iff_toInt_le.1 steady
        omega
      rw [Desired.deprecation_eq wanted deprecated, elapsed, LinkAddress.flagsFor_at]
      decide

end Controller

theorem Request.Origin.consistent {es : List Exchange} {q : Request} (origin : q.Origin es)
    (steady : Steady es) (addition : q.isRemoval = false) (ifIndex n : UInt32) :
    (q.reading ifIndex n).Consistent ifIndex := by
  cases origin with
  | removal => simp [isRemoval] at addition
  | addition o first time wanted =>
      exact Controller.consistent_of_mem_desired wanted (steady _ first _ time) o ifIndex n

/-! ## Operations -/

namespace Controller

variable {σ : Type} [Host σ] {c c' : Controller} {s s' : Shared (Transcribed σ)} {op : Operation}
  {result : ControllerResult} {es : List Exchange} {seq n : UInt32} {octets : List UInt8}
  {outcome : KernelResult}

/-- The octets are those of a request of the controller that comes from these exchanges. -/
def Asks (c : Controller) (es : List Exchange) (octets : List UInt8) : Prop :=
  ∃ q ifIndex n, c.ifIndex = some ifIndex ∧ octets = Request.message ifIndex n q ∧ q.Origin es

theorem Strips.asks {σ : Type} [Host σ] {s s' : Shared σ} {ifIndex : UInt32} {qs : List Request}
    (strip : c.Strips ifIndex s qs s')
    (sent : .call (.send octets n outcome) ∈ Request.dialogue ifIndex seq qs) :
    c.Asks es octets := by
  obtain ⟨q, hq, k, he, -⟩ := Request.mem_dialogue sent
  obtain ⟨a, o, rfl⟩ := Request.eq_removal (strip.removals q hq)
  exact ⟨_, ifIndex, k, strip.index, (Request.of_mem_exchanges he).1, .removal a o⟩

theorem Reconciles.asks {σ : Type} [Host σ] {s s' : Shared σ} {snapshot : List AddressReport}
    {t : Reconciliation} (step : c.Reconciles snapshot s t s')
    (sent : .call (.send octets n outcome) ∈ t.dialogue seq) :
    c.Asks (t.dialogue seq) octets := by
  have inside : Exchange.call (.send octets n outcome) ∈
      Request.dialogue t.ifIndex seq t.requests := by
    simpa [Reconciliation.dialogue, Reconciliation.groupCalls] using sent
  obtain ⟨q, hq, k, he, all⟩ := Request.mem_dialogue inside
  obtain ⟨message, clock⟩ := Request.of_mem_exchanges he
  refine ⟨q, t.ifIndex, k, step.index, message, ?_⟩
  rcases List.mem_append.1 hq with removal | addition
  · obtain ⟨a, o, rfl⟩ := Request.eq_removal (step.removals q removal)
    exact .removal a o
  · obtain ⟨a, time, o, rfl⟩ := Request.eq_addition (step.additions q addition)
    have wanted : a ∈ Diff.without (desired snapshot t.now) c.inventory.addresses :=
      step.added ▸ List.mem_map_of_mem addition
    have read : .clock time ∈ t.dialogue seq := by
      simp [Reconciliation.dialogue, all _ (clock a time o rfl)]
    exact .addition o rfl (mem_readings read) (Diff.mem_without.1 wanted).1

/-- Whatever an operation sends comes from its exchanges. -/
theorem Transition.asks (t : c.Transition s op result c' s')
    (seen : s'.host.exchanges = s.host.exchanges ++ es)
    (sent : .call (.send octets n outcome) ∈ es) : c.Asks es octets := by
  have silent : ∀ {s s' : Shared (Transcribed σ)} {fs : List Exchange}, Rests s fs s' →
      .call (.send octets n outcome) ∉ fs := by
    intro s s' fs rest sent
    simpa [Exchange.isQuiet] using rest.quiet _ sent
  cases t.deals with
  | rests rest =>
      rw [rest.dialogue.exchanges_eq] at seen
      rw [← List.append_cancel_left seen] at sent
      exact absurd sent (silent rest)
  | strips _ strip rest =>
      rw [rest.dialogue.exchanges_eq, strip.issues.dialogue.exchanges_eq, List.append_assoc] at seen
      rw [← List.append_cancel_left seen] at sent ⊢
      exact strip.asks ((List.mem_append.1 sent).resolve_right (silent rest))
  | reconciles step =>
      rw [step.dialogue.exchanges_eq] at seen
      rw [← List.append_cancel_left seen] at sent ⊢
      exact step.asks sent

end Controller

/-- What a controller asks reads back, and if it is an addition it is consistent, unless the clock
    has gone back. -/
theorem Controller.Asks.reads {c : Controller} {es : List Exchange} {octets : List UInt8}
    (asks : c.Asks es octets) :
    ∃ m ifIndex, Netlink.AddressMessage.decode? octets = some m ∧ c.ifIndex = some ifIndex ∧
      (m.type = Netlink.MessageType.newAddress → Steady es → m.Consistent ifIndex) := by
  obtain ⟨q, ifIndex, n, index, rfl, origin⟩ := asks
  refine ⟨q.reading ifIndex n, ifIndex, q.decode?_message ifIndex n, index, fun type steady => ?_⟩
  have addition : q.isRemoval = false := by
    by_contra removal
    rw [Request.reading_type, Request.type, if_pos (by simpa using removal)] at type
    exact absurd type (by decide)
  exact origin.consistent steady addition ifIndex n

/-- **Additions are consistent.** Whatever controllers do on what they share, whatever their
    snapshots ask for and their host answers, and whatever the clock shows: everything that one of
    them sends reads back, after the one start that resolved its index. If it is an addition, and
    the clock did not go back behind the start of the operation, it is about a unicast address on
    the interface of that index, with the scope of the address, and either permanent or deprecated
    in every respect. -/
theorem Crew.additions_consistent {σ : Type} [Host σ] {ks : List Career} {s : Shared σ}
    (crew : Crew ks s) {k : Career} (member : k ∈ ks) {before : List Deed} {d : Deed}
    (deed : before ++ [d] <+: k.deeds) {octets : List UInt8} {seq : UInt32}
    {outcome : KernelResult} (sent : .call (.send octets seq outcome) ∈ d.exchanges) :
    ∃ m ifIndex, Netlink.AddressMessage.decode? octets = some m ∧
      Career.indices before = [ifIndex] ∧
      (m.type = 20 → Steady d.exchanges → m.Consistent ifIndex ∧
        ∃ preferred valid flags, m.lifetimes = some (preferred, valid) ∧
          m.extendedFlags = some flags ∧ preferred ≤ valid ∧
          (flags &&& 0x20 ≠ 0 ↔ preferred = 0)) := by
  obtain ⟨c, c', s, s', placed, t, seen⟩ := crew.done member deed
  obtain ⟨m, ifIndex, read, index, consistent⟩ := (t.asks seen sent).reads
  refine ⟨m, ifIndex, read, placed.resolved ifIndex index, fun type steady => ?_⟩
  have consistent := consistent type steady
  exact ⟨consistent, consistent.deprecated_iff⟩

/-! ## Concrete cases

A host whose clock follows a script. Transcripts can be compared. -/

deriving instance DecidableEq for Exchange, Deed

/-- A host with what its clock shows next; once that is used up the clock stands at zero. -/
structure Timed (σ : Type) where
  host : σ
  times : List Int64

namespace Timed

variable {σ : Type}

/-- The wrapped host does something; what the clock shows next stays. -/
def through {α : Type} (action : StateM σ α) : StateM (Timed σ) α := fun s =>
  let (a, host) := action s.host
  (a, { s with host := host })

instance [Host σ] : Host (Timed σ) where
  now s := (s.times.headD 0, { s with times := s.times.tail })
  interfaceIndex name := through (Host.interfaceIndex name)
  openRoutes := through Host.openRoutes
  openGroups ifIndex := through (Host.openGroups ifIndex)
  send message seq := through (Host.send message seq)
  joinGroup group ifIndex := through (Host.joinGroup group ifIndex)
  leaveGroup group ifIndex := through (Host.leaveGroup group ifIndex)
  setLink name up := through (Host.setLink name up)
  close handle := through (Host.close handle)

end Timed

/-- The loopback address and a deprecated address of the link are added while the clock moves from
    one end of its range to the other. -/
theorem additions_consistent_across_range :
    let start : Shared (Timed MemoryKernel) :=
      ⟨0, .idle 0, [Int64.minValue, Int64.minValue, Int64.maxValue]⟩
    let first := (Career.new .default).act (.start ⟨Config.defaultInterface⟩) start
    let linkLocal : Ipv6 := .padded [0xfe, 0x80, 0x01]
    let snapshot : List AddressReport := [⟨Ipv6.loopback.octets, 128, false, false, true⟩,
      ⟨linkLocal.octets, 64, false, false, false⟩]
    let second := first.1.act (.addresses snapshot) first.2
    let octets := Netlink.newAddress 1 ⟨linkLocal, 64, 0x20, 253, 42, 0xffffffff, 0⟩
    let d : Deed := ⟨.addresses snapshot, .ok (), [.clock Int64.minValue, .clock Int64.minValue,
      .call (.send (Netlink.newAddress 0 ⟨.loopback, 128, 0x80, 254, 42, 0xffffffff, 0xffffffff⟩) 0
        (.ok ())),
      .clock Int64.maxValue, .call (.send octets 1 (.ok ()))]⟩
    first.1.deeds ++ [d] = second.1.deeds ∧ Steady d.exchanges ∧
      ∃ m ifIndex, Netlink.AddressMessage.decode? octets = some m ∧
        Career.indices first.1.deeds = [ifIndex] ∧
        (m.type = 20 → Steady d.exchanges → m.Consistent ifIndex ∧
          ∃ preferred valid flags, m.lifetimes = some (preferred, valid) ∧
            m.extendedFlags = some flags ∧ preferred ≤ valid ∧
            (flags &&& 0x20 ≠ 0 ↔ preferred = 0)) := by
  intro start first linkLocal snapshot second octets d
  have enlisted : Crew [.new .default] start := (Crew.empty start).enlist .default
  have started : Crew [first.1] first.2 := enlisted.act (m := 0) (k := .new .default) _ rfl
  have crew : Crew [second.1] second.2 := started.act (m := 0) (k := first.1) _ rfl
  have deeds : first.1.deeds ++ [d] = second.1.deeds := by decide +kernel
  have sent : .call (.send octets 1 (.ok ())) ∈ d.exchanges := by simp [d]
  exact ⟨deeds, by decide +kernel,
    crew.additions_consistent List.mem_cons_self (deeds ▸ List.prefix_refl _) sent⟩

end MeshLink
