import MeshLink.Proofs.Alike
import MeshLink.Proofs.Fleet
import MeshLink.Proofs.SideBySide
set_option autoImplicit false

/-! # Controllers that share a kernel

Controllers on one kernel come in each other's way: what one removes is not there when the other
removes it, and a group that one has joined cannot be joined by the other. But a removal and a
group call count whatever comes of them, and where no request fails an address is accepted whether
it was there or not. All else that a kernel answers, it answers from what no request changes
(`MemoryKernel.face`).

So two kernels that show the same face answer alike (`Abreast.alike`), however different the
addresses and groups are that they hold, and what the other controllers do to a kernel does not
show. A controller that is left alone with the kernel asks for the same things in the same order,
and comes to the same state, as among the others. -/

namespace MeshLink

/-! ## What shows of a kernel -/

namespace MemoryKernel

/-- A kernel without what requests leave there. -/
def face (k : MemoryKernel) : MemoryKernel :=
  { k with messages := [], addresses := [], groups := [], linkUp := false }

theorem face_send (octets : List UInt8) (k : MemoryKernel) :
    (send octets k).2.face = k.face := by
  unfold send
  split
  · rfl
  dsimp only
  repeat' split
  all_goals rfl

theorem face_joinGroup (g : Ipv6) (k : MemoryKernel) : (joinGroup g k).2.face = k.face := by
  unfold joinGroup
  split <;> rfl

theorem face_leaveGroup (g : Ipv6) (k : MemoryKernel) : (leaveGroup g k).2.face = k.face := by
  unfold leaveGroup
  split <;> rfl

theorem face_setLink (up : Bool) (k : MemoryKernel) : (setLink up k).2.face = k.face := by
  unfold setLink
  split <;> rfl

theorem setLink_face (up : Bool) (k : MemoryKernel) : (setLink up k).1 = (setLink up k.face).1 := by
  unfold setLink
  show _ = (if k.failLink then _ else _ : CallResult × MemoryKernel).1
  split <;> rfl

theorem send_newAddress_of_calm {k : MemoryKernel} (calm : k.failingSends = []) (seq : UInt32)
    (r : Netlink.AddressRequest) : (send (Netlink.newAddress seq r) k).1 = .ok () := by
  unfold send
  rw [Netlink.AddressMessage.decode?_newAddress]
  simp [calm]

end MemoryKernel

/-- No request and no group call is told to fail. -/
structure KernelChange.IsUnscripted (c : KernelChange) : Prop where
  sends : ∀ fault ∈ c.sends.getD [], fault = none
  groupCalls : ∀ errno ∈ c.groupCalls.getD [], errno = none

/-- What is done to the kernel makes no request and no group call fail. -/
def SessionStep.IsUnscripted : SessionStep → Prop
  | .change c => c.IsUnscripted
  | _ => True

namespace Scripted

variable {k : MemoryKernel} {h : Scripted MemoryKernel}

/-- No request and no group call will fail on demand, and the kernel shows a face on which none is
    to fail either. -/
structure Shows (k : MemoryKernel) (h : Scripted MemoryKernel) : Prop where
  face_eq : h.host.face = k
  calm : k.failingSends = []
  sends : ∀ fault ∈ h.sends, fault = none
  groupCalls : ∀ errno ∈ h.groupCalls, errno = none

theorem join_head?_eq_none {α : Type} {script : List (Option α)} (none : ∀ x ∈ script, x = none) :
    script.head?.join = .none := by
  cases script with
  | nil => rfl
  | cons x xs => exact none x (List.mem_cons_self ..)

namespace Shows

theorem send_eq (shows : Shows k h) (octets : List UInt8) (seq : UInt32) :
    Host.send octets seq h = ((MemoryKernel.send octets h.host).1,
      ⟨(MemoryKernel.send octets h.host).2, h.sends.tail, h.groupCalls⟩) := by
  rw [Scripted.send_eq, join_head?_eq_none shows.sends]
  rfl

theorem groupCall_eq (shows : Shows k h) (action : StateM MemoryKernel CallResult) :
    groupCall action h = ((action h.host).1, ⟨(action h.host).2, h.sends, h.groupCalls.tail⟩) := by
  rw [Scripted.groupCall_eq, join_head?_eq_none shows.groupCalls]
  rfl

theorem send (shows : Shows k h) (octets : List UInt8) (seq : UInt32) :
    Shows k (Host.send octets seq h).2 := by
  rw [shows.send_eq]
  exact ⟨(MemoryKernel.face_send octets h.host).trans shows.face_eq, shows.calm,
    fun fault there => shows.sends fault (List.mem_of_mem_tail there), shows.groupCalls⟩

theorem groupCall (shows : Shows k h) (action : StateM MemoryKernel CallResult)
    (face : (action h.host).2.face = h.host.face) : Shows k (groupCall action h).2 := by
  rw [shows.groupCall_eq]
  exact ⟨face.trans shows.face_eq, shows.calm, shows.sends,
    fun errno there => shows.groupCalls errno (List.mem_of_mem_tail there)⟩

theorem facing (shows : Shows k h) (ifIndex : UInt32) :
    Shows { k with ifIndex := ifIndex } { h with host.ifIndex := ifIndex } where
  face_eq := congrArg (fun k : MemoryKernel => { k with ifIndex := ifIndex }) shows.face_eq
  calm := shows.calm
  sends := shows.sends
  groupCalls := shows.groupCalls

theorem advance (shows : Shows k h) (ms : Int64) :
    Shows { k with time := k.time + ms } { h with host.time := h.host.time + ms } where
  face_eq := congrArg (fun k : MemoryKernel => { k with time := k.time + ms }) shows.face_eq
  calm := shows.calm
  sends := shows.sends
  groupCalls := shows.groupCalls

theorem change (shows : Shows k h) {c : KernelChange} (unscripted : c.IsUnscripted) :
    Shows (c.onKernel k).face (c.apply h) where
  face_eq := by
    show (c.onKernel h.host.face).face = _
    rw [shows.face_eq]
  calm := shows.calm
  sends := by
    rw [KernelChange.apply]
    have new := unscripted.sends
    cases given : c.sends with
    | none => exact shows.sends
    | some faults =>
        rw [given] at new
        exact new
  groupCalls := by
    rw [KernelChange.apply]
    have new := unscripted.groupCalls
    cases given : c.groupCalls with
    | none => exact shows.groupCalls
    | some errnos =>
        rw [given] at new
        exact new

theorem send_newAddress (shows : Shows k h) (seq : UInt32) (r : Netlink.AddressRequest) :
    (Host.send (Netlink.newAddress seq r) seq h).1 = .ok () := by
  have calm : h.host.failingSends = [] :=
    (congrArg MemoryKernel.failingSends shows.face_eq).trans shows.calm
  rw [shows.send_eq]
  exact MemoryKernel.send_newAddress_of_calm calm seq r

theorem joinGroup (shows : Shows k h) (g : Ipv6) (ifIndex : UInt32) :
    Shows k (Host.joinGroup g ifIndex h).2 :=
  shows.groupCall (Host.joinGroup g ifIndex) (MemoryKernel.face_joinGroup g h.host)

theorem leaveGroup (shows : Shows k h) (g : Ipv6) (ifIndex : UInt32) :
    Shows k (Host.leaveGroup g ifIndex h).2 :=
  shows.groupCall (Host.leaveGroup g ifIndex) (MemoryKernel.face_leaveGroup g h.host)

theorem setLink (shows : Shows k h) (name : String) (up : Bool) :
    Shows k (Host.setLink name up h).2 :=
  ⟨(MemoryKernel.face_setLink up h.host).trans shows.face_eq, shows.calm, shows.sends,
    shows.groupCalls⟩

end Shows
end Scripted

/-! ## Calls without what others have to do with -/

/-- The octets of a message, but not those of its sequence number. -/
def Netlink.unnumbered (message : List UInt8) : List UInt8 :=
  message.take 8 ++ message.drop 12

theorem Netlink.unnumbered_newAddress (seq seq' : UInt32) (r : AddressRequest) :
    unnumbered (newAddress seq r) = unnumbered (newAddress seq' r) :=
  rfl

theorem Netlink.unnumbered_delAddress (seq seq' : UInt32) (a : Ipv6) (length : UInt8)
    (ifIndex : UInt32) :
    unnumbered (delAddress seq a length ifIndex) = unnumbered (delAddress seq' a length ifIndex) :=
  rfl

/-- What a call asks for: of a request and of a group call neither the number nor the outcome. -/
def Call.gist : Call → Call
  | .send message _ _ => .send (Netlink.unnumbered message) 0 (.ok ())
  | .join g ifIndex _ => .join g ifIndex (.ok ())
  | .leave g ifIndex _ => .leave g ifIndex (.ok ())
  | c => c

/-- Two logs go on with calls that ask for the same. -/
def GoOnAlike (cs ds cs' ds' : List Call) : Prop :=
  ∃ xs ys, cs' = cs ++ xs ∧ ds' = ds ++ ys ∧ xs.map Call.gist = ys.map Call.gist

namespace GoOnAlike

variable {cs ds cs' ds' : List Call}

theorem refl (cs ds : List Call) : GoOnAlike cs ds cs ds :=
  ⟨[], [], (List.append_nil cs).symm, (List.append_nil ds).symm, rfl⟩

theorem concat (alike : GoOnAlike cs ds cs' ds') {c d : Call} (same : c.gist = d.gist) :
    GoOnAlike cs ds (cs' ++ [c]) (ds' ++ [d]) := by
  obtain ⟨xs, ys, rfl, rfl, gists⟩ := alike
  refine ⟨xs ++ [c], ys ++ [d], List.append_assoc .., List.append_assoc .., ?_⟩
  rw [List.map_append, List.map_append, gists]
  exact congrArg (_ ++ [·]) same

theorem drop (alike : GoOnAlike cs ds cs' ds') :
    (cs'.drop cs.length).map Call.gist = (ds'.drop ds.length).map Call.gist := by
  obtain ⟨xs, ys, rfl, rfl, gists⟩ := alike
  rw [List.drop_left, List.drop_left, gists]

end GoOnAlike

/-! ## Kernels that answer alike -/

/-- Two hosts show the same face, and their logs have gone on alike since they were these. -/
structure Abreast (k : MemoryKernel) (cs ds : List Call) (s t : Shared SessionHost) : Prop where
  left : Scripted.Shows k s.host.host
  right : Scripted.Shows k t.host.host
  calls : GoOnAlike cs ds s.host.calls t.host.calls

namespace Abreast

variable {k : MemoryKernel} {cs ds : List Call}

/-- A call that hosts with the same face answer in related ways, and after which they show the same
    face, is in step. -/
theorem record {α : Type} {A : α → α → Prop} {x y : StateM (Scripted MemoryKernel) α}
    {note note' : α → Call}
    (call : ∀ h g, Scripted.Shows k h → Scripted.Shows k g → A (x h).1 (y g).1 ∧
      Scripted.Shows k (x h).2 ∧ Scripted.Shows k (y g).2 ∧
      (note (x h).1).gist = (note' (y g).1).gist) :
    InStep (Abreast k cs ds) A (LinkM.onHost (Recorded.record x note))
      (LinkM.onHost (Recorded.record y note')) := by
  rintro s t ⟨left, right, calls⟩
  obtain ⟨answers, left', right', same⟩ := call s.host.host t.host.host left right
  exact ⟨answers, left', right', calls.concat same⟩

theorem record_faced {α : Type} {x : StateM (Scripted MemoryKernel) α} {note : α → Call}
    (answer : MemoryKernel → α) (faced : ∀ h, (x h).1 = answer h.host.face)
    (shows : ∀ h, Scripted.Shows k h → Scripted.Shows k (x h).2) :
    InStep (Abreast k cs ds) Eq (LinkM.onHost (Recorded.record x note))
      (LinkM.onHost (Recorded.record x note)) := by
  refine record fun h g left right => ?_
  have same : (x h).1 = (x g).1 := by rw [faced, faced, left.face_eq, right.face_eq]
  exact ⟨same, shows h left, shows g right, by rw [same]⟩

theorem takeSequence :
    InStep (Abreast k cs ds) (fun _ _ => True) LinkM.takeSequence LinkM.takeSequence := by
  intro s t abreast
  exact ⟨trivial, abreast.left, abreast.right, abreast.calls⟩

theorem now : InStep (Abreast k cs ds) Eq (LinkM.onHost Host.now) (LinkM.onHost Host.now) := by
  intro s t abreast
  refine ⟨?_, abreast.left, abreast.right, abreast.calls⟩
  show s.host.host.host.face.time = t.host.host.host.face.time
  rw [abreast.left.face_eq, abreast.right.face_eq]

/-- **Kernels that show the same face** answer alike, whatever addresses and groups they hold. -/
theorem alike : Alike (Abreast k cs ds) where
  now := now
  lookup name := record_faced (fun k => (Host.interfaceIndex name k).1) (fun _ => rfl) fun _ => id
  openRoutes := record_faced (fun k => (Host.openRoutes k).1) (fun _ => rfl) fun _ => id
  openGroups ifIndex :=
    record_faced (fun k => (Host.openGroups ifIndex k).1) (fun _ => rfl) fun _ => id
  addition a ifIndex := by
    -- The numbers on the two sides differ, but what is asked for without them does not.
    refine takeSequence.bind fun seq seq' _ => now.bind ?_
    rintro now _ rfl
    refine record fun h g left right => ⟨?_, left.send _ _, right.send _ _, ?_⟩
    · rw [left.send_newAddress, right.send_newAddress]
    · exact congrArg (Call.send · 0 (.ok ())) (Netlink.unnumbered_newAddress ..)
  removal a ifIndex := by
    refine takeSequence.bind fun seq seq' _ => ?_
    refine record fun h g left right => ⟨trivial, left.send _ _, right.send _ _, ?_⟩
    exact congrArg (Call.send · 0 (.ok ())) (Netlink.unnumbered_delAddress ..)
  join group ifIndex := by
    have call : InStep (Abreast k cs ds) (fun _ _ => True)
        (LinkM.onHost (Host.joinGroup group ifIndex))
        (LinkM.onHost (Host.joinGroup group ifIndex)) :=
      record fun h g left right =>
        ⟨trivial, left.joinGroup group ifIndex, right.joinGroup group ifIndex, rfl⟩
    exact fun s t abreast => ⟨trivial, (call s t abreast).2⟩
  leave group ifIndex := by
    have call : InStep (Abreast k cs ds) (fun _ _ => True)
        (LinkM.onHost (Host.leaveGroup group ifIndex))
        (LinkM.onHost (Host.leaveGroup group ifIndex)) :=
      record fun h g left right =>
        ⟨trivial, left.leaveGroup group ifIndex, right.leaveGroup group ifIndex, rfl⟩
    exact fun s t abreast => ⟨trivial, (call s t abreast).2⟩
  setLink name up :=
    record_faced (fun k => (Host.setLink name up k).1)
      (fun h => MemoryKernel.setLink_face up h.host) fun _ shows => shows.setLink name up
  close h := record_faced (fun _ => ()) (fun _ => rfl) fun _ => id

end Abreast

/-! ## Sessions -/

/-- The step is one of a controller, or it is of nobody. -/
def SessionStep.concerns (target : Nat) : SessionStep → Bool
  | .start i _ | .operate i _ => i == target
  | .advance _ | .change _ => true

namespace Session

variable {s t : Session} {k : MemoryKernel} {target : Nat}

/-- No request and no group call is to fail. -/
structure IsCalm (s : Session) : Prop where
  failingSends_eq : s.kernel.failingSends = []
  sends : ∀ fault ∈ s.shared.host.host.sends, fault = none
  groupCalls : ∀ errno ∈ s.shared.host.host.groupCalls, errno = none

/-- The calls that are made in a step. -/
def callsIn (m : Moment Session SessionStep ControllerResult) : List Call :=
  m.after.shared.host.calls.drop m.before.shared.host.calls.length

/-- Two sessions show the same face, whoever asks, and have the same member at one place. -/
structure Level (target : Nat) (k : MemoryKernel) (s t : Session) : Prop where
  left : Scripted.Shows { k with ifIndex := 0 } (s.facing 0).shared.host.host
  right : Scripted.Shows { k with ifIndex := 0 } (t.facing 0).shared.host.host
  member_eq : s.members[target]? = t.members[target]?

theorem Level.abreast (level : Level target k s t) (ifIndex : UInt32) :
    Abreast { k with ifIndex := ifIndex } s.shared.host.calls t.shared.host.calls
      (s.facing ifIndex).shared (t.facing ifIndex).shared where
  left := level.left.facing ifIndex
  right := level.right.facing ifIndex
  calls := .refl ..

/-- A controller does the same on both sides. -/
theorem Level.operate (level : Level target k s t) (op : Operation) :
    (s.operate target op).1 = (t.operate target op).1 ∧
      Level target k (s.operate target op).2 (t.operate target op).2 ∧
      GoOnAlike s.shared.host.calls t.shared.host.calls
        (s.operate target op).2.shared.host.calls (t.operate target op).2.shared.host.calls := by
  have here := level.member_eq
  cases present : t.members[target]? with
  | none =>
      rw [present] at here
      rw [operate_of_none here, operate_of_none present]
      exact ⟨rfl, level, .refl ..⟩
  | some m =>
      rw [present] at here
      obtain ⟨same, after⟩ :=
        Abreast.alike.apply_self m.controller op _ _ (level.abreast m.ifIndex)
      rw [operate_eq here, operate_eq present]
      refine ⟨(Prod.ext_iff.1 same).1, ⟨after.left.facing 0, after.right.facing 0, ?_⟩,
        after.calls⟩
      show (s.members.set target _)[target]? = (t.members.set target _)[target]?
      rw [List.getElem?_set_self', List.getElem?_set_self', here, present, same]

/-- What another controller does is not seen. -/
theorem Level.others (level : Level target k s t) {i : Nat} (other : i ≠ target) (op : Operation) :
    Level target k (s.operate i op).2 t := by
  cases present : s.members[i]? with
  | none =>
      rw [operate_of_none present]
      exact level
  | some m =>
      have self : Level i k s s := ⟨level.left, level.left, rfl⟩
      obtain ⟨-, after⟩ := Abreast.alike.apply_self m.controller op _ _ (self.abreast m.ifIndex)
      rw [operate_eq present]
      refine ⟨after.left.facing 0, level.right, ?_⟩
      rw [List.getElem?_set_ne other]
      exact level.member_eq

theorem Level.changeHost (level : Level target k s t) {k' : MemoryKernel}
    (f : Scripted MemoryKernel → Scripted MemoryKernel)
    (shows : ∀ u : Session, Scripted.Shows { k with ifIndex := 0 } (u.facing 0).shared.host.host →
      Scripted.Shows { k' with ifIndex := 0 } ((u.changeHost f).facing 0).shared.host.host) :
    Level target k' (s.changeHost f) (t.changeHost f) where
  left := shows s level.left
  right := shows t level.right
  member_eq := level.member_eq

theorem Level.start (level : Level target k s t) (device : Option String) :
    (s.step (.start target device)).1 = (t.step (.start target device)).1 ∧
      Level target k (s.step (.start target device)).2 (t.step (.start target device)).2 ∧
      GoOnAlike s.shared.host.calls t.shared.host.calls
        (s.step (.start target device)).2.shared.host.calls
        (t.step (.start target device)).2.shared.host.calls := by
  have name : s.deviceName target device = t.deviceName target device := by
    rw [deviceName, deviceName, level.member_eq]
  rw [Session.step, Session.step, name]
  split
  · exact ⟨rfl, level, .refl ..⟩
  · exact level.operate _

/-- A step of the controller, or one of nobody, goes the same on both sides. -/
theorem Level.step (level : Level target k s t) {step : SessionStep}
    (unscripted : step.IsUnscripted) (kept : step.concerns target = true) :
    (s.step step).1 = (t.step step).1 ∧
      (∃ k', Level target k' (s.step step).2 (t.step step).2) ∧
      GoOnAlike s.shared.host.calls t.shared.host.calls
        (s.step step).2.shared.host.calls (t.step step).2.shared.host.calls := by
  cases step with
  | start i device =>
      obtain rfl : i = target := eq_of_beq kept
      obtain ⟨result, level, calls⟩ := level.start device
      exact ⟨result, ⟨k, level⟩, calls⟩
  | operate i op =>
      obtain rfl : i = target := eq_of_beq kept
      obtain ⟨result, level, calls⟩ := level.operate op
      exact ⟨result, ⟨k, level⟩, calls⟩
  | advance ms =>
      refine ⟨rfl, ⟨{ k with time := k.time + ms }, ?_⟩, .refl ..⟩
      exact level.changeHost (fun h => { h with host.time := h.host.time + ms })
        fun u shows => shows.advance ms
  | change change =>
      refine ⟨rfl, ⟨(change.onKernel k).face, ?_⟩, .refl ..⟩
      exact level.changeHost change.apply fun u shows => shows.change unscripted

/-- A step of another controller is not seen. -/
theorem Level.left_out (level : Level target k s t) {step : SessionStep}
    (out : step.concerns target = false) : Level target k (s.step step).2 t := by
  cases step with
  | start i device =>
      rw [Session.step]
      split
      · exact level
      · exact level.others (ne_of_beq_false out) _
  | operate i op => exact level.others (ne_of_beq_false out) op
  | advance ms => cases out
  | change change => cases out

end Session

/-- **Controllers on one kernel do not notice each other.** Where no request and no group call is to
    fail, leaving out all steps of all the other controllers changes nothing for a controller: not
    its results, not the requests and group calls that it makes, in their order and but for the
    numbers of the requests, and nothing that it holds, at any of its own steps and whenever
    something happens to the kernel. -/
theorem Session.controllers_isolated {s : Session} (calm : s.IsCalm) {steps : List SessionStep}
    (unscripted : ∀ step ∈ steps, step.IsUnscripted) (target : Nat) :
    List.Forall₂
      (fun m n => m.input = n.input ∧ m.answer = n.answer ∧
        (Session.callsIn m).map Call.gist = (Session.callsIn n).map Call.gist ∧
        m.after.members[target]? = n.after.members[target]?)
      ((moments Session.step s steps).filter (·.input.concerns target))
      (moments Session.step s (steps.filter (·.concerns target))) := by
  have shows : Scripted.Shows s.kernel.face s.shared.host.host :=
    ⟨rfl, calm.failingSends_eq, calm.sends, calm.groupCalls⟩
  have level : ∃ k, Session.Level target k s s := ⟨_, shows.facing 0, shows.facing 0, rfl⟩
  refine moments_filter (R := fun s t => ∃ k, Session.Level target k s t)
    (fun step : SessionStep => step.concerns target) level ?_ ?_
  · rintro step - out s t ⟨k, level⟩
    exact ⟨k, level.left_out out⟩
  · rintro step there kept s t ⟨k, level⟩
    obtain ⟨answers, ⟨k', after⟩, calls⟩ := level.step (unscripted step there) kept
    exact ⟨⟨k', after⟩, rfl, answers, calls.drop, after.member_eq⟩

/-- Two controllers want the same address and the same group and give both up again. The second one
    finds the group joined, and later nothing to remove and nothing to leave; alone it is refused
    nothing. It does the same and holds the same either way. -/
theorem Session.controllers_isolated_of_common_wishes :
    let s := Session.new [(.default, 42), (.default, 7)] 0
    let steps : List SessionStep :=
      [.start 0 none, .start 1 none, .operate 0 (.addresses [.numbered 1 true, .numberedGroup 1]),
        .operate 1 (.addresses [.numbered 1 true, .numberedGroup 1]), .operate 0 (.addresses []),
        .advance 1000, .operate 1 (.addresses []), .operate 0 .destroy]
    let refusals (steps : List SessionStep) :=
      (s.run steps).shared.host.calls.countP fun c => (Exchange.call c).isRefused
    s.IsCalm ∧ (∀ step ∈ steps, step.IsUnscripted) ∧
      refusals steps = 3 ∧ refusals (steps.filter (·.concerns 1)) = 0 ∧
      List.Forall₂
        (fun m n => m.input = n.input ∧ m.answer = n.answer ∧
          (Session.callsIn m).map Call.gist = (Session.callsIn n).map Call.gist ∧
          m.after.members[1]? = n.after.members[1]?)
        ((moments Session.step s steps).filter (·.input.concerns 1))
        (moments Session.step s (steps.filter (·.concerns 1))) := by
  intro s steps refusals
  have calm : s.IsCalm := ⟨rfl, List.forall_mem_nil _, List.forall_mem_nil _⟩
  have unscripted : ∀ step ∈ steps, step.IsUnscripted := by simp [steps, SessionStep.IsUnscripted]
  have some : refusals steps = 3 := by decide +kernel
  have none : refusals (steps.filter (·.concerns 1)) = 0 := by decide +kernel
  exact ⟨calm, unscripted, some, none, Session.controllers_isolated calm unscripted 1⟩

end MeshLink
