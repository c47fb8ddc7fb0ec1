import Mathlib.Data.List.Induction
import Mathlib.Data.List.TakeWhile
import Mathlib.Logic.Relation
import MeshLink.Daemon.Input
import MeshLink.Proofs.Direct
set_option autoImplicit false

/-! # Messages as direct calls

What a message of the mesh daemon means to a controller: a call that is made at once. The messages
that count are those of the lines in front of the first event that ends the input
(`InputEvent.messages`).

The daemon makes a command of each message and leaves it to the dispatcher. A command that was made
of a message is carried out as the call that the message means (`Controller.obey_command`), so what
a controller comes to by such commands it comes to by heeding the messages
(`Controller.Obeys.heeds`). -/

namespace MeshLink

/-! ## The messages of an input -/

theorem dropWhile_isWhiteSpace_append {blanks core : List Char}
    (blank : ∀ c ∈ blanks, isWhiteSpace c = true)
    (first : ∀ c ∈ core.head?, isWhiteSpace c = false) :
    (blanks ++ core).dropWhile isWhiteSpace = core := by
  rw [List.dropWhile_append_of_pos blank]
  cases core with
  | nil => rfl
  | cons c core => rw [List.dropWhile_cons_of_neg (ne_true_of_eq_false (first c rfl))]

/-- What starts and ends with no blank is left when the blanks around it are dropped. -/
theorem trim_append {before core after : List Char}
    (left : ∀ c ∈ before, isWhiteSpace c = true) (right : ∀ c ∈ after, isWhiteSpace c = true)
    (first : ∀ c ∈ core.head?, isWhiteSpace c = false)
    (last : ∀ c ∈ core.getLast?, isWhiteSpace c = false) :
    trim (before ++ core ++ after) = core := by
  cases core with
  | nil =>
      have dropped : (before ++ [] ++ after).dropWhile isWhiteSpace = [] := by
        rw [List.append_nil, List.dropWhile_append_of_pos left]
        exact List.dropWhile_eq_nil_iff.2 right
      rw [trim, dropped]
      rfl
  | cons c core =>
      have front : (before ++ (c :: core ++ after)).dropWhile isWhiteSpace = c :: core ++ after :=
        dropWhile_isWhiteSpace_append left first
      have ends : ∀ a ∈ (c :: core).reverse.head?, isWhiteSpace a = false := by
        rwa [List.head?_reverse]
      rw [trim, List.append_assoc, front, List.reverse_append,
        dropWhile_isWhiteSpace_append (by simpa using right) ends, List.reverse_reverse]

namespace InputEvent

/-- The message of an event: the one that a line is without the blanks around it. -/
def message? : InputEvent → Option DaemonMessage
  | .line text => DaemonMessage.ofText? (String.ofList (trim text.toList))
  | _ => none

/-- The messages of the lines before the first event that ends the input. -/
def messages (events : List InputEvent) : List DaemonMessage :=
  (events.takeWhile (!·.isFinal)).filterMap message?

theorem messages_of_final {e : InputEvent} (final : e.isFinal = true) (events : List InputEvent) :
    messages (e :: events) = [] := by
  simp [messages, final]

theorem messages_cons {e : InputEvent} (later : e.isFinal = false) (events : List InputEvent) :
    messages (e :: events) = e.message?.toList ++ messages events := by
  cases told : e.message? <;> simp [messages, later, told]

theorem messages_of_silent {text : String} (silent : (line text).message? = none)
    (events : List InputEvent) : messages (.line text :: events) = messages events := by
  rw [messages_cons rfl, silent]
  rfl

theorem messages_of_message {text : String} {m : DaemonMessage}
    (told : (line text).message? = some m) (events : List InputEvent) :
    messages (.line text :: events) = m :: messages events := by
  rw [messages_cons rfl, told]
  rfl

theorem messages_append_silent {text : String} (silent : (line text).message? = none)
    (before after : List InputEvent) :
    messages (before ++ .line text :: after) = messages (before ++ after) := by
  induction before with
  | nil => exact messages_of_silent silent after
  | cons e before ih =>
      rw [List.cons_append, List.cons_append]
      cases final : e.isFinal with
      | true => rw [messages_of_final final, messages_of_final final]
      | false => rw [messages_cons final, messages_cons final, ih]

theorem message?_of_blank {text : String} (blank : ∀ c ∈ text.toList, isWhiteSpace c = true) :
    (line text).message? = none := by
  have trimmed : trim (text.toList ++ [] ++ []) = [] :=
    trim_append blank (List.forall_mem_nil _) nofun nofun
  rw [List.append_nil, List.append_nil] at trimmed
  rw [message?, trimmed]
  rfl

/-- The blanks around a line make no difference. -/
theorem message?_of_surrounded {before core after : List Char}
    (left : ∀ c ∈ before, isWhiteSpace c = true) (right : ∀ c ∈ after, isWhiteSpace c = true)
    (first : ∀ c ∈ core.head?, isWhiteSpace c = false)
    (last : ∀ c ∈ core.getLast?, isWhiteSpace c = false) :
    (line (String.ofList (before ++ core ++ after))).message? =
      DaemonMessage.ofText? (String.ofList core) := by
  rw [message?, String.toList_ofList, trim_append left right first last]

end InputEvent

/-- The dispatcher is told what a line says. -/
theorem Service.message?_eq (text : String) : message? text = (InputEvent.line text).message? :=
  rfl

theorem Service.destroy_notMem_map_command (messages : List DaemonMessage) :
    .destroy ∉ messages.map command := by
  intro found
  obtain ⟨m, -, same⟩ := List.mem_map.1 found
  cases m <;> cases same

/-! ## Heeding messages -/

namespace Controller

variable {σ : Type} [Host σ]

/-- A message as a direct call. -/
def heed (c : Controller) : DaemonMessage → LinkM σ Controller
  | .addresses snapshot => c.updateAddresses snapshot
  | .prefixes snapshot => return c.updatePrefixes snapshot
  | .died => c.daemonDied

/-- Messages as direct calls, one after another, and the end behind the last. -/
def heedAll (c : Controller) (messages : List DaemonMessage) : LinkM σ Controller := do
  let c ← messages.foldlM heed c
  c.destroy

/-- What a controller comes to by heeding messages. Between two of them the shared part may change
    as `between` says. -/
inductive Heeds (between : Shared σ → Shared σ → Prop) (c : Controller) (start : Shared σ) :
    List DaemonMessage → Controller → Shared σ → Prop
  | nil : Heeds between c start [] c start
  | heed {messages : List DaemonMessage} {c' : Controller} {s : Shared σ} (m : DaemonMessage) :
      Heeds between c start messages c' s →
      Heeds between c start (messages ++ [m]) (c'.heed m s).1 (c'.heed m s).2
  | pass {messages : List DaemonMessage} {c' : Controller} {s s' : Shared σ} :
      Heeds between c start messages c' s → between s s' → Heeds between c start messages c' s'

variable {between : Shared σ → Shared σ → Prop} {c c' : Controller} {start s : Shared σ}
  {messages : List DaemonMessage} {answers : List (Option Answer)}

/-- The command that is made of a message is the call that the message means, and nobody waits for
    its answer. -/
theorem obey_command (c : Controller) (m : DaemonMessage) (s : Shared σ) :
    c.obey (Service.command m) s = ((none, (c.heed m s).1), (c.heed m s).2) := by
  cases m <;> rfl

/-- Commands that are made of messages come to what the messages come to. -/
theorem Obeys.heeds (h : Obeys between c start (messages.map Service.command) answers c' s) :
    Heeds between c start messages c' s := by
  generalize made : messages.map Service.command = commands at h
  induction h generalizing messages with
  | nil =>
      rw [List.map_eq_nil_iff.1 made]
      exact .nil
  | obey command _ ih =>
      -- The last command was made of the last message.
      obtain ⟨before, last, rfl, earlier, single⟩ := List.map_eq_append_iff.1 made
      obtain ⟨m, rfl, rfl⟩ := List.map_eq_singleton_iff.1 single
      rw [obey_command]
      exact (ih earlier).heed m
  | pass _ change ih => exact (ih made).pass change

theorem Heeds.obeys (h : Heeds between c start messages c' s) :
    ∃ answers, Obeys between c start (messages.map Service.command) answers c' s := by
  induction h with
  | nil => exact ⟨[], .nil⟩
  | heed m _ ih =>
      obtain ⟨answers, before⟩ := ih
      have next := before.obey (Service.command m)
      rw [obey_command] at next
      rw [List.map_append]
      exact ⟨_, next⟩
  | pass _ change ih =>
      obtain ⟨answers, before⟩ := ih
      exact ⟨answers, before.pass change⟩

/-- A message neither starts nor ends a controller. -/
theorem Heeds.resources_eq (staged : c.IsStaged) (h : Heeds between c start messages c' s) :
    c'.IsStaged ∧ c'.resources = c.resources := by
  obtain ⟨answers, obeys⟩ := h.obeys
  exact obeys.resources_eq staged (Service.destroy_notMem_map_command messages)

theorem heeds_foldlM (c : Controller) (start : Shared σ) (messages : List DaemonMessage) :
    Heeds between c start messages (messages.foldlM heed c start).1
      (messages.foldlM heed c start).2 := by
  induction messages using List.reverseRecOn with
  | nil => exact .nil
  | append_singleton messages m ih =>
      rw [List.foldlM_append]
      exact ih.heed m

/-- Where no command is carried out, only the shared part changes. -/
theorem Obeys.reflTransGen (h : Obeys between c start [] answers c' s) :
    Relation.ReflTransGen between start s := by
  generalize none : ([] : List Command) = commands at h
  induction h with
  | nil => exact .refl
  | obey => exact absurd none (List.append_ne_nil_of_right_ne_nil _ (List.cons_ne_nil _ _)).symm
  | pass _ change ih => exact (ih none).tail change

/-- Messages and an end as direct calls at once are those of their commands. -/
theorem heedAll_eq (c : Controller) (messages : List DaemonMessage) (s : Shared σ) :
    c.heedAll messages s = (c.obeyAll s (messages.map Service.command ++ [.destroy])).2 := by
  induction messages generalizing c s with
  | nil => rfl
  | cons m messages ih =>
      rw [List.map_cons, List.cons_append, obeyAll, obey_command, ← ih]
      rfl

end Controller
end MeshLink
