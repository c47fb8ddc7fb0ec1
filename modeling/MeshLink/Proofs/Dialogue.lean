import MeshLink.Kernel.Recorded
set_option autoImplicit false

/-! # Dialogues with a host

What a controller does is seen by its host as a sequence of exchanges: it reads the clock, or it
makes a call and learns the outcome. A `Dialogue` is such a sequence together with the host states
it leads from and to. The outcomes are whatever the host answers, so a statement about every
dialogue is a statement about every assignment of outcomes.

A recorded host writes down exactly the calls of its dialogue, in order (`Dialogue.calls_eq`). -/

namespace MeshLink

/-- One exchange with a host. -/
inductive Exchange
  /-- The clock is read. -/
  | clock (time : Int64)
  /-- A call is made. -/
  | call (call : Call)

namespace Exchange

/-- The call of an exchange, if it is one. -/
def call? : Exchange → Option Call
  | .clock _ => none
  | .call c => some c

theorem filterMap_call (calls : List Call) : (calls.map call).filterMap call? = calls := by
  induction calls with
  | nil => rfl
  | cons c calls ih => exact congrArg (c :: ·) ih

/-- Whether an exchange is about neither an address nor a group. -/
def isQuiet : Exchange → Bool
  | .call (.send ..) | .call (.join ..) | .call (.leave ..) => false
  | _ => true

variable {σ : Type} [Host σ]

/-- The exchange takes place: the host, asked in the first state, answers so and is in the second
    state afterwards. -/
def Leads : Exchange → σ → σ → Prop
  | .clock time, h, h' => Host.now h = (time, h')
  | .call (.lookup name outcome), h, h' => Host.interfaceIndex name h = (outcome, h')
  | .call (.openRoutes outcome), h, h' => Host.openRoutes h = (outcome, h')
  | .call (.openGroups ifIndex outcome), h, h' => Host.openGroups ifIndex h = (outcome, h')
  | .call (.send message seq outcome), h, h' => Host.send message seq h = (outcome, h')
  | .call (.join group ifIndex outcome), h, h' => Host.joinGroup group ifIndex h = (outcome, h')
  | .call (.leave group ifIndex outcome), h, h' => Host.leaveGroup group ifIndex h = (outcome, h')
  | .call (.setLink name up outcome), h, h' => Host.setLink name up h = (outcome, h')
  | .call (.close handle), h, h' => Host.close handle h = ((), h')

end Exchange

/-- Exchanges that take place one after another. -/
inductive Dialogue {σ : Type} [Host σ] : σ → List Exchange → σ → Prop
  | nil (h : σ) : Dialogue h [] h
  | cons {h h' h'' : σ} {e : Exchange} {es : List Exchange} :
      e.Leads h h' → Dialogue h' es h'' → Dialogue h (e :: es) h''

namespace Dialogue

variable {σ : Type} [Host σ]

theorem single {h h' : σ} {e : Exchange} (leads : e.Leads h h') : Dialogue h [e] h' :=
  .cons leads (.nil h')

theorem append {h h' h'' : σ} {es fs : List Exchange} (first : Dialogue h es h')
    (second : Dialogue h' fs h'') : Dialogue h (es ++ fs) h'' := by
  induction first with
  | nil => exact second
  | cons leads _ ih => exact .cons leads (ih second)

/-- A dialogue of two parts passes through a state between them. -/
theorem split {h h'' : σ} {es fs : List Exchange} (d : Dialogue h (es ++ fs) h'') :
    ∃ h', Dialogue h es h' ∧ Dialogue h' fs h'' := by
  induction es generalizing h with
  | nil => exact ⟨h, .nil h, d⟩
  | cons e es ih =>
      cases d with
      | cons leads rest =>
          obtain ⟨h', first, second⟩ := ih rest
          exact ⟨h', .cons leads first, second⟩

/-- What every exchange of a dialogue keeps, the dialogue keeps. -/
theorem keeps {P : σ → Prop} {h h' : σ} {es : List Exchange} (d : Dialogue h es h')
    (step : ∀ e ∈ es, ∀ g g' : σ, Exchange.Leads e g g' → P g → P g') (start : P h) : P h' := by
  induction d with
  | nil => exact start
  | cons leads _ ih =>
      exact ih (fun e he => step e (List.mem_cons_of_mem _ he))
        (step _ List.mem_cons_self _ _ leads start)

end Dialogue

/-! ## Recorded hosts -/

/-- A recorded host writes down the call of an exchange, and nothing when its clock is read. -/
theorem Exchange.Leads.calls_eq {σ : Type} [Host σ] {e : Exchange} {r r' : Recorded σ}
    (leads : e.Leads r r') : r'.calls = r.calls ++ e.call?.toList := by
  unfold Leads at leads
  split at leads <;> cases leads <;> simp [Exchange.call?]

/-- Recording changes no answer: the wrapped host takes part in the same exchange. -/
theorem Exchange.Leads.unrecorded {σ : Type} [Host σ] {e : Exchange} {r r' : Recorded σ}
    (leads : e.Leads r r') : e.Leads r.host r'.host := by
  unfold Leads at leads ⊢
  split at leads <;> cases leads <;> rfl

/-- A recorded host writes down the calls of a dialogue in order. -/
theorem Dialogue.calls_eq {σ : Type} [Host σ] {es : List Exchange} {r r' : Recorded σ}
    (d : Dialogue r es r') : r'.calls = r.calls ++ es.filterMap Exchange.call? := by
  induction d with
  | nil => simp
  | @cons _ _ _ e _ leads _ ih =>
      rw [ih, leads.calls_eq, List.append_assoc]
      cases e <;> rfl

end MeshLink
