import MeshLink.Proofs.Alike
import MeshLink.Proofs.Lifecycle
set_option autoImplicit false

/-! # Transcripts of controllers

A log of calls does not tell what the clock showed, nor where one operation ends and the next one
starts. Here both are kept: a transcribed host writes down every exchange, readings of the clock
included, and a career is a controller with its deeds, each of which is an operation with what came
of it and what the host saw of it.

Any number of controllers make a `Crew`: they act on what they share, one at a time. What one of
them does is read off its own career: every deed is a transition of the controller as its earlier
deeds left it (`Crew.done`), and the index that it holds is the one that the only start
among them resolved (`Career.Placed`). -/

namespace MeshLink

/-! ## Transcribed hosts -/

/-- A host together with the exchanges it took part in, the earliest first. -/
structure Transcribed (σ : Type) where
  host : σ
  exchanges : List Exchange

namespace Transcribed

variable {σ : Type}

/-- Takes part in an exchange and writes it down. -/
def transcribe {α : Type} (action : StateM σ α) (note : α → Exchange) :
    StateM (Transcribed σ) α := fun r =>
  let (a, host) := action r.host
  (a, ⟨host, r.exchanges ++ [note a]⟩)

instance [Host σ] : Host (Transcribed σ) where
  now := transcribe Host.now .clock
  interfaceIndex name := transcribe (Host.interfaceIndex name) fun o => .call (.lookup name o)
  openRoutes := transcribe Host.openRoutes fun o => .call (.openRoutes o)
  openGroups ifIndex := transcribe (Host.openGroups ifIndex) fun o => .call (.openGroups ifIndex o)
  send message seq := transcribe (Host.send message seq) fun o => .call (.send message seq o)
  joinGroup group ifIndex :=
    transcribe (Host.joinGroup group ifIndex) fun o => .call (.join group ifIndex o)
  leaveGroup group ifIndex :=
    transcribe (Host.leaveGroup group ifIndex) fun o => .call (.leave group ifIndex o)
  setLink name up := transcribe (Host.setLink name up) fun o => .call (.setLink name up o)
  close handle := transcribe (Host.close handle) fun _ => .call (.close handle)

end Transcribed

variable {σ : Type} [Host σ]

theorem Exchange.Leads.exchanges_eq {e : Exchange} {r r' : Transcribed σ} (leads : e.Leads r r') :
    r'.exchanges = r.exchanges ++ [e] := by
  unfold Leads at leads
  split at leads <;> cases leads <;> rfl

/-- A transcribed host writes down a dialogue as it is. -/
theorem Dialogue.exchanges_eq {es : List Exchange} {r r' : Transcribed σ} (d : Dialogue r es r') :
    r'.exchanges = r.exchanges ++ es := by
  induction d with
  | nil => exact (List.append_nil _).symm
  | cons leads _ ih => rw [ih, leads.exchanges_eq, List.append_assoc, List.singleton_append]

/-- A controller cannot tell a transcribed host from the host itself. -/
theorem Transcribed.alike :
    Alike fun (s : Shared (Transcribed σ)) (t : Shared σ) => t = ⟨s.sequence, s.host.host⟩ := by
  constructor
  all_goals
    intros
    rintro s _ rfl
    exact ⟨by trivial, rfl⟩

/-- A recorded host sees the calls that a transcribed one sees. -/
theorem Recorded.alike (calls : List Call) :
    Alike fun (s : Shared (Recorded σ)) (t : Shared (Transcribed σ)) =>
      s.sequence = t.sequence ∧ s.host.host = t.host.host ∧
        s.host.calls = calls ++ t.host.exchanges.filterMap Exchange.call? := by
  have seen : ∀ (es : List Exchange) (e : Exchange),
      calls ++ es.filterMap Exchange.call? ++ e.call?.toList =
        calls ++ (es ++ [e]).filterMap Exchange.call? := by
    intro es e
    rw [List.filterMap_append, List.append_assoc]
    cases e <;> rfl
  have unseen : ∀ (es : List Exchange) (time : Int64),
      calls ++ es.filterMap Exchange.call? =
        calls ++ (es ++ [Exchange.clock time]).filterMap Exchange.call? :=
    fun es time => (List.append_nil _).symm.trans (seen es (.clock time))
  constructor
  all_goals
    intros
    rintro ⟨_, _, cs⟩ ⟨_, _, es⟩ ⟨rfl, rfl, same⟩
    obtain rfl : cs = calls ++ es.filterMap Exchange.call? := same
    refine ⟨by trivial, rfl, rfl, ?_⟩
  case now => exact unseen es _
  case addition =>
    -- The clock is read before the request is made.
    exact (congrArg (· ++ [_]) (unseen es _)).trans (seen (es ++ [.clock _]) (.call _))
  all_goals exact seen es (.call _)

namespace Controller

/-- What the host sees of an operation. -/
def transcript (c : Controller) (op : Operation) (s : Shared σ) : List Exchange :=
  (c.apply op (⟨s.sequence, s.host, []⟩ : Shared (Transcribed σ))).2.host.exchanges

/-- An operation is a transition of what is shared with a transcribed host, too. -/
theorem exists_transcribed {c : Controller} (staged : c.IsStaged) (op : Operation) (s : Shared σ) :
    ∃ t t' : Shared (Transcribed σ),
      c.Transition t op (c.apply op s).1.1 (c.apply op s).1.2 t' ∧
        t'.host.exchanges = t.host.exchanges ++ c.transcript op s := by
  let t : Shared (Transcribed σ) := ⟨s.sequence, s.host, []⟩
  obtain ⟨same, -⟩ := Transcribed.alike.apply_self c op t s rfl
  refine ⟨t, (c.apply op t).2, ?_, rfl⟩
  rw [← same]
  exact apply_transition staged op t

end Controller

/-! ## Careers -/

/-- An operation as it went: what came of it, and what the host saw of it. -/
structure Deed where
  op : Operation
  result : ControllerResult
  exchanges : List Exchange

/-- The index that was resolved, if the deed is a start that went through. -/
def Deed.index? : Deed → Option UInt32
  | ⟨.start _, .ok (), .call (.lookup _ (.ok ifIndex)) :: _⟩ => some ifIndex
  | _ => none

/-- A controller with its deeds, the earliest first. -/
structure Career where
  controller : Controller
  deeds : List Deed

namespace Career

/-- A new controller, which has done nothing yet. -/
def new (config : Config) : Career :=
  ⟨.new config, []⟩

/-- The controller carries out an operation on what is shared. -/
def act (k : Career) (op : Operation) (s : Shared σ) : Career × Shared σ :=
  let done := k.controller.apply op s
  (⟨done.1.2, k.deeds ++ [⟨op, done.1.1, k.controller.transcript op s⟩]⟩, done.2)

/-- The indices that were resolved by starts that went through. -/
def indices (deeds : List Deed) : List UInt32 :=
  deeds.filterMap Deed.index?

/-- A controller that has not started has resolved no index, and one that holds an index has
    resolved that one and no other. -/
structure Placed (k : Career) : Prop where
  staged : k.controller.IsStaged
  unresolved : k.controller.state = .created → indices k.deeds = []
  resolved : ∀ i, k.controller.ifIndex = some i → indices k.deeds = [i]

theorem placed_new (config : Config) : (new config).Placed where
  staged := rfl
  unresolved _ := rfl
  resolved _ index := absurd index.symm (Option.some_ne_none _)

end Career

namespace Controller

variable {c c' : Controller} {s s' : Shared (Transcribed σ)} {op : Operation}
  {result : ControllerResult}

/-- An operation resolves an index if it is the start, and otherwise it gains none. -/
theorem Transition.index?_eq (t : c.Transition s op result c' s') {es : List Exchange}
    (seen : s'.host.exchanges = s.host.exchanges ++ es) :
    (c.state = .created ∧ c'.state ≠ .created ∧
      ∃ i, Deed.index? ⟨op, result, es⟩ = some i ∧ c'.ifIndex = some i) ∨
    (Deed.index? ⟨op, result, es⟩ = none ∧ (c'.state = .created → c.state = .created) ∧
      ∀ i, c'.ifIndex = some i → c.ifIndex = some i) := by
  induction t with
  | notStarted => exact .inr ⟨rfl, id, fun _ => id⟩
  | @started _ ifIndex _ created _ rest =>
      -- Only a start looks up an index, and does so before all else.
      have resolving := List.append_cancel_left (seen.symm.trans rest.dialogue.exchanges_eq)
      rw [resolving]
      exact .inl ⟨created, by simp, ifIndex, rfl, rfl⟩
  | notSwitched => exact .inr ⟨rfl, id, fun _ => id⟩
  | notRaised => exact .inr ⟨rfl, id, fun _ => id⟩
  | raised => exact .inr ⟨rfl, by simp, fun _ => id⟩
  | lowered => exact .inr ⟨rfl, by simp, fun _ => id⟩
  | ignored => exact .inr ⟨rfl, id, fun _ => id⟩
  | reconciled =>
      refine .inr ⟨rfl, ?_, ?_⟩
      · rw [state_reconciled]
        exact id
      · rw [ifIndex, resources_reconciled]
        exact fun _ => id
  | prefixes =>
      refine .inr ⟨rfl, ?_, ?_⟩
      · rw [state_updatePrefixes]
        exact id
      · rw [ifIndex, resources_updatePrefixes]
        exact fun _ => id
  | died _ ih =>
      rcases ih seen with ⟨-, -, i, resolving, -⟩ | ⟨-, kept⟩
      · exact absurd resolving.symm (Option.some_ne_none i)
      · exact .inr ⟨rfl, kept⟩
  | destroyedBefore => exact .inr ⟨rfl, id, fun _ => id⟩
  | destroyedUnused => exact .inr ⟨rfl, by simp, fun _ => id⟩
  | destroyed => exact .inr ⟨rfl, by simp, fun _ index => absurd index.symm (Option.some_ne_none _)⟩

end Controller

namespace Career

open Controller

/-- A deed was done by a controller with these deeds before it. -/
def Done (σ : Type) [Host σ] (before : List Deed) (d : Deed) : Prop :=
  ∃ (c c' : Controller) (s s' : Shared (Transcribed σ)),
    (Career.mk c before).Placed ∧ c.Transition s d.op d.result c' s' ∧
      s'.host.exchanges = s.host.exchanges ++ d.exchanges

variable {k : Career}

theorem indices_append (deeds : List Deed) (d : Deed) :
    indices (deeds ++ [d]) = indices deeds ++ d.index?.toList := by
  rw [indices, List.filterMap_append, List.filterMap_cons]
  cases d.index? <;> rfl

/-- One more deed: the controller stays placed, and the deed is a transition of it. -/
theorem Placed.act (placed : k.Placed) (op : Operation) (s : Shared σ) :
    (k.act op s).1.Placed ∧ ∃ d, (k.act op s).1.deeds = k.deeds ++ [d] ∧ Done σ k.deeds d := by
  obtain ⟨_, _, t, seen⟩ := exists_transcribed placed.staged op s
  refine ⟨?_, _, rfl, k.controller, _, _, _, placed, t, seen⟩
  rcases t.index?_eq seen with ⟨created, started, i, resolving, held⟩ | ⟨none, kept, held⟩
  · refine ⟨t.isStaged placed.staged, fun state => absurd state started, ?_⟩
    intro j index
    rw [Career.act, indices_append, placed.unresolved created, resolving,
      Option.some.inj (index.symm.trans held)]
    rfl
  · have gained : indices (k.act op s).1.deeds = indices k.deeds := by
      rw [Career.act, indices_append, none]
      exact List.append_nil _
    refine ⟨t.isStaged placed.staged, ?_, ?_⟩
    · intro state
      rw [gained]
      exact placed.unresolved (kept state)
    · intro j index
      rw [gained]
      exact placed.resolved j (held j index)

end Career

/-! ## Crews -/

/-- What controllers come to that act on what they share, one at a time and in any order. New ones
    may join at any time, and between two operations anything may happen to what is shared. -/
inductive Crew : List Career → Shared σ → Prop
  | empty (s : Shared σ) : Crew [] s
  | enlist {ks : List Career} {s : Shared σ} (config : Config) :
      Crew ks s → Crew (ks ++ [.new config]) s
  | act {ks : List Career} {s : Shared σ} {m : Nat} {k : Career} (op : Operation) :
      Crew ks s → ks[m]? = some k → Crew (ks.set m (k.act op s).1) (k.act op s).2
  | change {ks : List Career} {s : Shared σ} (s' : Shared σ) : Crew ks s → Crew ks s'

namespace Crew

variable {ks : List Career} {s : Shared σ} {k : Career} {before : List Deed} {d : Deed}

/-- What holds of a new career and is kept by every deed holds of every career. -/
theorem invariant {P : Career → Prop} (crew : Crew ks s) (new : ∀ config, P (.new config))
    (act : ∀ (k : Career) (op : Operation) (s : Shared σ), P k → P (k.act op s).1) :
    ∀ k ∈ ks, P k := by
  induction crew with
  | empty => simp
  | enlist config _ ih =>
      intro k hk
      rcases List.mem_append.1 hk with old | joined
      · exact ih k old
      · rw [List.mem_singleton.1 joined]
        exact new config
  | @act _ s _ actor op _ present ih =>
      intro k hk
      rcases List.mem_or_eq_of_mem_set hk with old | rfl
      · exact ih k old
      · exact act actor op s (ih actor (List.mem_of_getElem? present))
  | change _ _ ih => exact ih

/-- Every deed was done by the controller as its earlier deeds left it. -/
theorem done (crew : Crew ks s) (hk : k ∈ ks) (deed : before ++ [d] <+: k.deeds) :
    Career.Done σ before d := by
  let P : Career → Prop := fun k =>
    k.Placed ∧ ∀ before d, before ++ [d] <+: k.deeds → Career.Done σ before d
  have new : ∀ config, P (.new config) := by
    refine fun config => ⟨Career.placed_new config, fun before d deed => ?_⟩
    exact absurd (List.prefix_nil.1 deed) (by simp)
  have act : ∀ (k : Career) (op : Operation) (s : Shared σ), P k → P (k.act op s).1 := by
    rintro k op s ⟨placed, earlier⟩
    obtain ⟨placed', last, deeds, done⟩ := placed.act op s
    refine ⟨placed', fun before d deed => ?_⟩
    rw [deeds, List.prefix_concat_iff] at deed
    rcases deed with whole | old
    · obtain ⟨rfl, one⟩ := List.append_inj' whole rfl
      rw [List.singleton_inj.1 one]
      exact done
    · exact earlier before d old
  exact (crew.invariant new act k hk).2 before d deed

end Crew
end MeshLink
