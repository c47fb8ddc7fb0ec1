import Mathlib.Data.List.Forall2
import Mathlib.Logic.Relation
import MeshLink.Proofs.RoundTrip
set_option autoImplicit false

/-! # Which documents are messages

What a JSON document has to look like to be a message is said here without a reader
(`DaemonMessage.Spelling`), and the reader accepts exactly these documents and takes them for that
message (`DaemonMessage.ofJson?_eq_some_iff`).

A field is looked up by its name, and only the values under that name count (`Json.valuesOf`). So an
entry can be spelled in many ways: its members in any order and others between them, a flag left out
or written as false, or all of it as an array. Such changes (`Json.Respelled`) can be undone and put
together, and none of them makes a difference to what is read, nor to whether anything is. -/

namespace MeshLink

namespace Json

/-! ## Single values -/

theorem byte?_eq_some_iff {j : Json} {b : UInt8} : byte? j = some b ↔ j = ofByte b := by
  constructor
  · intro read
    unfold byte? at read
    split at read
    · next n =>
        by_cases small : n < 256
        · rw [if_pos small, Option.some.injEq] at read
          rw [← read, ofByte, UInt8.toNat_ofNat', Nat.mod_eq_of_lt small]
        · rw [if_neg small] at read
          cases read
    · cases read
  · rintro rfl
    exact byte?_ofByte b

theorem bool?_eq_some_iff {j : Json} {b : Bool} : bool? j = some b ↔ j = .bool b := by
  cases j <;> simp [bool?]

theorem mapM_eq_some_iff {α : Type} {read : Json → Option α} {items : List Json} {as : List α} :
    items.mapM read = some as ↔ List.Forall₂ (fun item a => read item = some a) items as := by
  induction items generalizing as with
  | nil => simp [List.forall₂_nil_left_iff, eq_comm]
  | cons item items ih =>
      rw [List.mapM_cons, List.forall₂_cons_left_iff]
      simp only [Option.bind_eq_bind, Option.bind_eq_some_iff, Option.pure_def, Option.some.injEq,
        ih]
      exact ⟨fun ⟨a, first, as', others, whole⟩ => ⟨a, as', first, others, whole.symm⟩,
        fun ⟨a, as', first, others, whole⟩ => ⟨a, first, as', others, whole.symm⟩⟩

theorem mapM_eq_some_iff_map {α : Type} {read : Json → Option α} {write : α → Json}
    (only : ∀ {j a}, read j = some a ↔ j = write a) {items : List Json} {as : List α} :
    items.mapM read = some as ↔ items = as.map write := by
  simp only [mapM_eq_some_iff, only]
  rw [← List.forall₂_map_right_iff, List.forall₂_eq_eq_eq]

theorem list?_eq_some_iff {α : Type} {read : Json → Option α} {j : Json} {as : List α} :
    list? read j = some as ↔ ∃ items, j = .array items ∧ items.mapM read = some as := by
  cases j with
  | array items =>
      exact ⟨fun read => ⟨items, rfl, read⟩, fun ⟨_, same, read⟩ => by cases same; exact read⟩
  | _ => exact iff_of_false nofun fun ⟨_, same, _⟩ => nomatch same

theorem bytes?_eq_some_iff {j : Json} {bs : List UInt8} :
    list? byte? j = some bs ↔ j = ofBytes bs := by
  simp only [list?_eq_some_iff, mapM_eq_some_iff_map byte?_eq_some_iff]
  exact ⟨fun ⟨_, whole, items⟩ => by rw [whole, items, ofBytes], fun same => ⟨_, same, rfl⟩⟩

/-! ## Fields by name -/

/-- The values under a name, in their order. -/
def valuesOf (name : String) (members : Members) : List Json :=
  (members.filter (·.1 == some name)).map Prod.snd

theorem field?_eq_some_iff {name : String} {members : Members} {value : Option Json} :
    field? name members = some value ↔ valuesOf name members = value.toList := by
  rw [field?, valuesOf]
  generalize members.filter (·.1 == some name) = found
  rcases found with _ | ⟨_, _ | _⟩ <;> cases value <;> simp

/-- A field that has to occur stands there once. -/
theorem required?_eq_some_iff {α : Type} {read : Json → Option α} {write : α → Json}
    (only : ∀ {j a}, read j = some a ↔ j = write a) {name : String} {members : Members} {a : α} :
    required? name read members = some a ↔ valuesOf name members = [write a] := by
  simp only [required?, Option.bind_eq_bind, Option.bind_eq_some_iff, field?_eq_some_iff, only]
  constructor
  · rintro ⟨_, found, _, rfl, rfl⟩
    exact found
  · exact fun found => ⟨some (write a), found, _, rfl, rfl⟩

/-- The values under the name of a flag: the flag, or nothing if it is false. -/
def IsFlag (b : Bool) (values : List Json) : Prop :=
  values = [.bool b] ∨ values = [] ∧ b = false

theorem flag?_eq_some_iff {name : String} {members : Members} {b : Bool} :
    flag? name members = some b ↔ IsFlag b (valuesOf name members) := by
  simp only [flag?, Option.bind_eq_bind, Option.bind_eq_some_iff, field?_eq_some_iff]
  constructor
  · rintro ⟨_ | value, found, read⟩
    · exact .inr ⟨found, (Option.some.inj read).symm⟩
    · rw [bool?_eq_some_iff.1 read] at found
      exact .inl found
  · rintro (found | ⟨found, rfl⟩)
    · exact ⟨some (.bool b), found, bool?_eq_some_iff.2 rfl⟩
    · exact ⟨none, found, rfl⟩

theorem namesAreTexts_iff {members : Members} :
    namesAreTexts members = true ↔ ∀ m ∈ members, m.1.isSome = true :=
  List.all_eq_true

end Json

open Json

/-! ## Spellings of entries -/

namespace AddressReport

/-- The members spell the entry: each of its fields stands there once, but that flags that are false
    may be missing. There may be anything under other names; but every name has to be a text, which
    one with half of a surrogate pair is not. -/
structure InMembers (r : AddressReport) (members : Members) : Prop where
  names : ∀ m ∈ members, m.1.isSome = true
  address : valuesOf FieldName.address members = [ofBytes r.address]
  length : valuesOf FieldName.length members = [ofByte r.length]
  meshLocal : IsFlag r.meshLocal (valuesOf FieldName.meshLocal members)
  activeOmr : IsFlag r.activeOmr (valuesOf FieldName.activeOmr members)
  preferred : IsFlag r.preferred (valuesOf FieldName.preferred members)

/-- The items spell the entry: they are its fields in their order, but that flags at the end that
    are false may be missing. -/
def InItems (r : AddressReport) (items : List Json) : Prop :=
  ∃ flags : List Bool, flags.length ≤ 3 ∧
    items = ofBytes r.address :: ofByte r.length :: flags.map .bool ∧
    r.meshLocal = flags.getD 0 false ∧ r.activeOmr = flags.getD 1 false ∧
    r.preferred = flags.getD 2 false

/-- A document that says what the entry says: by names, or by position. -/
inductive Spelling (r : AddressReport) : Json → Prop
  | object {members : Members} : r.InMembers members → Spelling r (.object members)
  | array {items : List Json} : r.InItems items → Spelling r (.array items)

theorem ofMembers?_eq_some_iff {members : Members} {r : AddressReport} :
    ofMembers? members = some r ↔ r.InMembers members := by
  simp only [ofMembers?, Option.bind_eq_bind, Option.bind_eq_some_iff, Option.guard_eq_some',
    required?_eq_some_iff bytes?_eq_some_iff, required?_eq_some_iff byte?_eq_some_iff,
    flag?_eq_some_iff, namesAreTexts_iff, Option.pure_def, Option.some.injEq]
  constructor
  · rintro ⟨-, names, address, h₁, length, h₂, meshLocal, h₃, activeOmr, h₄, preferred, h₅, rfl⟩
    exact ⟨names, h₁, h₂, h₃, h₄, h₅⟩
  · rintro ⟨names, h₁, h₂, h₃, h₄, h₅⟩
    exact ⟨(), names, _, h₁, _, h₂, _, h₃, _, h₄, _, h₅, rfl⟩

theorem ofItems?_eq_some_iff {items : List Json} {r : AddressReport} :
    ofItems? items = some r ↔ r.InItems items := by
  have fields (address length : Json) (flags : List Json) :
      ofItems? (address :: length :: flags) = some r ↔
        flags.length ≤ 3 ∧ address = ofBytes r.address ∧ length = ofByte r.length ∧
          ∃ given : List Bool, flags = given.map .bool ∧ r.meshLocal = given.getD 0 false ∧
            r.activeOmr = given.getD 1 false ∧ r.preferred = given.getD 2 false := by
    simp only [ofItems?, Option.bind_eq_bind, Option.bind_eq_some_iff, Option.guard_eq_some',
      bytes?_eq_some_iff, byte?_eq_some_iff, mapM_eq_some_iff_map bool?_eq_some_iff,
      Option.pure_def, Option.some.injEq]
    constructor
    · rintro ⟨-, few, _, first, _, second, given, others, rfl⟩
      exact ⟨few, first, second, given, others, rfl, rfl, rfl⟩
    · rintro ⟨few, first, second, given, others, meshLocal, activeOmr, preferred⟩
      refine ⟨(), few, _, first, _, second, given, others, ?_⟩
      rw [← meshLocal, ← activeOmr, ← preferred]
  match items with
  | [] | [_] => exact iff_of_false nofun fun ⟨_, _, same, _⟩ => nomatch same
  | address :: length :: flags =>
      rw [fields]
      constructor
      · rintro ⟨few, rfl, rfl, given, rfl, said⟩
        exact ⟨given, by simpa using few, rfl, said⟩
      · rintro ⟨given, few, same, said⟩
        cases same
        exact ⟨by simpa using few, rfl, rfl, given, rfl, said⟩

theorem ofJson?_eq_some_iff {j : Json} {r : AddressReport} :
    ofJson? j = some r ↔ r.Spelling j := by
  cases j with
  | object members =>
      exact ofMembers?_eq_some_iff.trans ⟨.object, fun | .object inside => inside⟩
  | array items => exact ofItems?_eq_some_iff.trans ⟨.array, fun | .array inside => inside⟩
  | _ => exact iff_of_false nofun nofun

end AddressReport

namespace PrefixReport

/-- The members spell the entry: each of its fields stands there once, and there may be anything
    under other names. -/
structure InMembers (r : PrefixReport) (members : Members) : Prop where
  names : ∀ m ∈ members, m.1.isSome = true
  octets : valuesOf FieldName.octets members = [ofBytes r.octets]
  length : valuesOf FieldName.length members = [ofByte r.length]

/-- A document that says what the entry says: by names, or by position. -/
inductive Spelling (r : PrefixReport) : Json → Prop
  | object {members : Members} : r.InMembers members → Spelling r (.object members)
  | array : Spelling r (.array [ofBytes r.octets, ofByte r.length])

theorem ofMembers?_eq_some_iff {members : Members} {r : PrefixReport} :
    ofMembers? members = some r ↔ r.InMembers members := by
  simp only [ofMembers?, Option.bind_eq_bind, Option.bind_eq_some_iff, Option.guard_eq_some',
    required?_eq_some_iff bytes?_eq_some_iff, required?_eq_some_iff byte?_eq_some_iff,
    namesAreTexts_iff, Option.pure_def, Option.some.injEq]
  constructor
  · rintro ⟨-, names, octets, h₁, length, h₂, rfl⟩
    exact ⟨names, h₁, h₂⟩
  · rintro ⟨names, h₁, h₂⟩
    exact ⟨(), names, _, h₁, _, h₂, rfl⟩

theorem ofItems?_eq_some_iff {items : List Json} {r : PrefixReport} :
    ofItems? items = some r ↔ items = [ofBytes r.octets, ofByte r.length] := by
  match items with
  | [] | [_] | _ :: _ :: _ :: _ => exact iff_of_false nofun nofun
  | [octets, length] =>
      simp only [ofItems?, Option.bind_eq_bind, Option.bind_eq_some_iff, bytes?_eq_some_iff,
        byte?_eq_some_iff, Option.pure_def, Option.some.injEq]
      constructor
      · rintro ⟨_, rfl, _, rfl, rfl⟩
        rfl
      · rintro same
        cases same
        exact ⟨_, rfl, _, rfl, rfl⟩

theorem ofJson?_eq_some_iff {j : Json} {r : PrefixReport} :
    ofJson? j = some r ↔ r.Spelling j := by
  cases j with
  | object members =>
      exact ofMembers?_eq_some_iff.trans ⟨.object, fun | .object inside => inside⟩
  | array items =>
      refine ofItems?_eq_some_iff.trans ⟨?_, fun | .array => rfl⟩
      rintro rfl
      exact .array
  | _ => exact iff_of_false nofun nofun

end PrefixReport

/-! ## Spellings of messages -/

namespace DaemonMessage

/-- The documents that are the message: an object with one member, which is named after the kind of
    the message and lists the entries, or the bare word for the message without entries. -/
inductive Spelling : DaemonMessage → Json → Prop
  | addresses {items : List Json} {snapshot : List AddressReport} :
      List.Forall₂ (fun item (r : AddressReport) => r.Spelling item) items snapshot →
      Spelling (.addresses snapshot) (.object [member FieldName.addresses (.array items)])
  | prefixes {items : List Json} {snapshot : List PrefixReport} :
      List.Forall₂ (fun item (r : PrefixReport) => r.Spelling item) items snapshot →
      Spelling (.prefixes snapshot) (.object [member FieldName.prefixes (.array items)])
  | died : Spelling .died (.object [member FieldName.died .null])
  | word : Spelling .died (.string (some FieldName.died))

theorem spelling_of_ofMember? {name : String} {value : Json} {m : DaemonMessage}
    (read : ofMember? name value = some m) : m.Spelling (.object [member name value]) := by
  unfold ofMember? at read
  split at read
  · next kind =>
      obtain ⟨snapshot, listed, rfl⟩ := Option.map_eq_some_iff.1 read
      obtain ⟨items, rfl, each⟩ := list?_eq_some_iff.1 listed
      rw [kind]
      exact .addresses ((mapM_eq_some_iff.1 each).imp fun _ _ =>
        AddressReport.ofJson?_eq_some_iff.1)
  split at read
  · next kind =>
      obtain ⟨snapshot, listed, rfl⟩ := Option.map_eq_some_iff.1 read
      obtain ⟨items, rfl, each⟩ := list?_eq_some_iff.1 listed
      rw [kind]
      exact .prefixes ((mapM_eq_some_iff.1 each).imp fun _ _ =>
        PrefixReport.ofJson?_eq_some_iff.1)
  split at read
  · next kind =>
      split at read
      · cases read
        rw [kind]
        exact .died
      · cases read
  · cases read

theorem ofJson?_of_spelling {m : DaemonMessage} {j : Json} (spelling : m.Spelling j) :
    ofJson? j = some m := by
  cases spelling with
  | addresses each =>
      have read := mapM_eq_some_iff.2 (each.imp fun _ _ => AddressReport.ofJson?_eq_some_iff.2)
      exact congrArg (Option.map DaemonMessage.addresses) read
  | prefixes each =>
      have read := mapM_eq_some_iff.2 (each.imp fun _ _ => PrefixReport.ofJson?_eq_some_iff.2)
      exact congrArg (Option.map DaemonMessage.prefixes) read
  | died => rfl
  | word => rfl

/-- **A document is a message exactly if it spells it.** -/
theorem ofJson?_eq_some_iff {j : Json} {m : DaemonMessage} :
    ofJson? j = some m ↔ m.Spelling j := by
  refine ⟨fun read => ?_, ofJson?_of_spelling⟩
  unfold DaemonMessage.ofJson? at read
  split at read
  · split at read
    · next kind =>
        cases read
        rw [kind]
        exact .word
    · cases read
  · exact spelling_of_ofMember? read
  · cases read

end DaemonMessage

/-! ## Other spellings -/

namespace Json

/-- Changes of the members of an object that leave alone what stands under certain names, some of
    which are those of flags. -/
inductive Rearranged (required flags : List String) : Members → Members → Prop
  | order {members members' : Members} : members.Perm members' →
      Rearranged required flags members members'
  | unknown (before after : Members) {name : String} (value : Json) : name ∉ required ++ flags →
      Rearranged required flags (before ++ after) (before ++ member name value :: after)
  /-- A flag that is not there is false. -/
  | unsaid {members : Members} {name : String} : name ∈ flags → valuesOf name members = [] →
      Rearranged required flags members (member name (.bool false) :: members)

/-- Changes in the spelling of an entry: of its members, if it is an object, or from an array to an
    object with the same values in the same order. -/
inductive Respelled (required flags : List String) : Json → Json → Prop
  | members {members members' : Members} : Rearranged required flags members members' →
      Respelled required flags (.object members) (.object members')
  | positional {items : List Json} : items.length ≤ (required ++ flags).length →
      Respelled required flags (.array items)
        (.object (List.zipWith member (required ++ flags) items))

section

variable {required flags : List String} {members members' : Members} {name : String}

theorem valuesOf_perm (perm : members.Perm members') (name : String) :
    (valuesOf name members).Perm (valuesOf name members') :=
  (perm.filter _).map _

theorem valuesOf_insert {other : String} (different : other ≠ name) (before after : Members)
    (value : Json) :
    valuesOf name (before ++ member other value :: after) = valuesOf name (before ++ after) := by
  simp [valuesOf, member, different]

/-- Only which values stand under a name counts, not their order: several are refused. -/
theorem field?_congr (perm : (valuesOf name members).Perm (valuesOf name members')) :
    field? name members = field? name members' := by
  refine Option.ext fun value => ?_
  have alone (values : List Json) : values = value.toList ↔ values.Perm value.toList := by
    cases value with
    | none => exact List.perm_nil.symm
    | some value => exact List.perm_singleton.symm
  rw [field?_eq_some_iff, field?_eq_some_iff, alone, alone]
  exact perm.congr_left value.toList

theorem flag?_congr (perm : (valuesOf name members).Perm (valuesOf name members')) :
    flag? name members = flag? name members' := by
  rw [flag?, flag?, field?_congr perm]

/-- What an entry is made of is the same in both. -/
structure SameFields (required flags : List String) (members members' : Members) : Prop where
  names : namesAreTexts members = namesAreTexts members'
  required : ∀ name ∈ required, field? name members = field? name members'
  flags : ∀ name ∈ flags, flag? name members = flag? name members'

theorem Rearranged.sameFields (apart : ∀ name ∈ required, name ∉ flags)
    (changed : Rearranged required flags members members') :
    SameFields required flags members members' := by
  cases changed with
  | order perm =>
      exact ⟨perm.all_eq, fun name _ => field?_congr (valuesOf_perm perm name),
        fun name _ => flag?_congr (valuesOf_perm perm name)⟩
  | @unknown before after other value stranger =>
      rw [List.mem_append, not_or] at stranger
      -- A stranger stands under none of the names that are read.
      have values (name : String) (different : other ≠ name) :
          (valuesOf name (before ++ after)).Perm
            (valuesOf name (before ++ member other value :: after)) := by
        rw [valuesOf_insert different]
      refine ⟨by simp [namesAreTexts, member], fun name known => field?_congr (values name ?_),
        fun name known => flag?_congr (values name ?_)⟩
      · rintro rfl
        exact stranger.1 known
      · rintro rfl
        exact stranger.2 known
  | @unsaid members flag known absent =>
      -- Only this flag is read in another way, and what is written is its default.
      have values (name : String) (different : flag ≠ name) :
          (valuesOf name members).Perm (valuesOf name (member flag (.bool false) :: members)) := by
        rw [← List.nil_append (member flag _ :: members), valuesOf_insert different]
        rfl
      refine ⟨by simp [namesAreTexts, member], fun name needed => field?_congr (values name ?_),
        fun name other => ?_⟩
      · rintro rfl
        exact apart _ needed known
      · by_cases same : flag = name
        · subst same
          have written : valuesOf flag (member flag (.bool false) :: members) = [.bool false] := by
            rw [valuesOf, List.filter_cons_of_pos (by simp [member]), List.map_cons]
            exact congrArg (_ :: ·) absent
          rw [flag?_eq_some_iff.2 (.inr ⟨absent, rfl⟩), flag?_eq_some_iff.2 (.inl written)]
        · exact flag?_congr (values name same)

end
end Json

namespace AddressReport

/-- The fields that an entry about an address has to have. -/
def required : List String :=
  [FieldName.address, FieldName.length]

/-- The fields that may be missing. -/
def flags : List String :=
  [FieldName.meshLocal, FieldName.activeOmr, FieldName.preferred]

theorem ofMembers?_congr {members members' : Members}
    (same : SameFields required flags members members') :
    ofMembers? members = ofMembers? members' := by
  have address := same.required FieldName.address (by decide)
  have length := same.required FieldName.length (by decide)
  have meshLocal := same.flags FieldName.meshLocal (by decide)
  have activeOmr := same.flags FieldName.activeOmr (by decide)
  have preferred := same.flags FieldName.preferred (by decide)
  simp only [ofMembers?, required?, same.names, address, length, meshLocal, activeOmr, preferred]

/-- Items in their order are read like members in that order. -/
theorem ofMembers?_positional {items : List Json}
    (few : items.length ≤ (required ++ flags).length) :
    ofMembers? (List.zipWith member (required ++ flags) items) = ofItems? items := by
  match items, few with
  | [], _ | [_], _ | [_, _], _ | [_, _, _], _ | [_, _, _, _], _ | [_, _, _, _, _], _ =>
      simp [ofMembers?, ofItems?, namesAreTexts, required?, flag?, field?, member, required, flags,
        FieldName.address, FieldName.length, FieldName.meshLocal, FieldName.activeOmr,
        FieldName.preferred, Option.bind_assoc]

theorem ofJson?_respelled {j j' : Json} (respelled : Respelled required flags j j') :
    ofJson? j = ofJson? j' := by
  cases respelled with
  | members changed => exact ofMembers?_congr (changed.sameFields (by decide))
  | positional few => exact (ofMembers?_positional few).symm

end AddressReport

namespace PrefixReport

/-- The fields that an entry about a network has to have. -/
def required : List String :=
  [FieldName.octets, FieldName.length]

theorem ofMembers?_congr {members members' : Members}
    (same : SameFields required [] members members') :
    ofMembers? members = ofMembers? members' := by
  have octets := same.required FieldName.octets (by decide)
  have length := same.required FieldName.length (by decide)
  simp only [ofMembers?, required?, same.names, octets, length]

theorem ofMembers?_positional {items : List Json} (few : items.length ≤ (required ++ []).length) :
    ofMembers? (List.zipWith member (required ++ []) items) = ofItems? items := by
  match items, few with
  | [], _ | [_], _ | [_, _], _ =>
      simp [ofMembers?, ofItems?, namesAreTexts, required?, field?, member, required,
        FieldName.octets, FieldName.length]

theorem ofJson?_respelled {j j' : Json} (respelled : Respelled required [] j j') :
    ofJson? j = ofJson? j' := by
  cases respelled with
  | members changed => exact ofMembers?_congr (changed.sameFields (by decide))
  | positional few => exact (ofMembers?_positional few).symm

end PrefixReport

namespace Json

theorem eq_of_eqvGen {α β : Type} {R : α → α → Prop} (f : α → β)
    (step : ∀ a b, R a b → f a = f b) {a b : α} (chain : Relation.EqvGen R a b) : f a = f b :=
  congrArg (Quot.lift f step) (Quot.eqvGen_sound chain)

/-- A list of entries that are spelled in other ways is read as the same list. -/
theorem list?_respelled {α : Type} (read : Json → Option α) {R : Json → Json → Prop}
    (step : ∀ j j', R j j' → read j = read j') {items items' : List Json}
    (each : List.Forall₂ (Relation.EqvGen R) items items') :
    list? read (.array items) = list? read (.array items') := by
  show items.mapM read = items'.mapM read
  induction each with
  | nil => rfl
  | cons first _ ih => rw [List.mapM_cons, List.mapM_cons, eq_of_eqvGen read step first, ih]

end Json

namespace DaemonMessage

/-- Documents whose entries are spelled in other ways, one by one and as often as one likes, and the
    two spellings of the message without entries. -/
inductive Respelled : Json → Json → Prop
  | addresses {items items' : List Json} :
      List.Forall₂ (Relation.EqvGen (Json.Respelled AddressReport.required AddressReport.flags))
        items items' →
      Respelled (.object [member FieldName.addresses (.array items)])
        (.object [member FieldName.addresses (.array items')])
  | prefixes {items items' : List Json} :
      List.Forall₂ (Relation.EqvGen (Json.Respelled PrefixReport.required [])) items items' →
      Respelled (.object [member FieldName.prefixes (.array items)])
        (.object [member FieldName.prefixes (.array items')])
  | died : Respelled (.object [member FieldName.died .null]) (.string (some FieldName.died))

theorem ofJson?_respelled {j j' : Json} (respelled : Respelled j j') : ofJson? j = ofJson? j' := by
  cases respelled with
  | addresses each =>
      exact congrArg (Option.map DaemonMessage.addresses)
        (list?_respelled AddressReport.ofJson? (fun _ _ => AddressReport.ofJson?_respelled) each)
  | prefixes each =>
      exact congrArg (Option.map DaemonMessage.prefixes)
        (list?_respelled PrefixReport.ofJson? (fun _ _ => PrefixReport.ofJson?_respelled) each)
  | died => rfl

/-- **Which documents are messages.** A text is read as a message exactly if it is the text of a
    document that spells the message, and so is every document by itself. Other spellings of the
    entries of a document are read as the same message, or not at all either. -/
theorem documents_are_messages :
    (∀ (text : String) (m : DaemonMessage),
      ofText? text = some m ↔ ∃ j, Json.ofText? text = some j ∧ m.Spelling j) ∧
    (∀ (j : Json) (m : DaemonMessage), ofJson? j = some m ↔ m.Spelling j) ∧
    ∀ j j' : Json, Respelled j j' → ofJson? j = ofJson? j' := by
  refine ⟨fun text m => ?_, fun j m => ofJson?_eq_some_iff, fun j j' => ofJson?_respelled⟩
  rw [ofText?, Option.bind_eq_bind, Option.bind_eq_some_iff]
  simp only [ofJson?_eq_some_iff]

/-- An entry as an array without its last flags, and as an object that says one of them, has its
    members in another order and a member that nobody asked for. -/
theorem documents_are_messages_spelled_apart :
    let address : List UInt8 := List.replicate 16 0xfd
    let note : Json := .array [.null, .number ⟨true, 1, ['.', '5']⟩]
    let document (entry : Json) : Json := .object [member FieldName.addresses (.array [entry])]
    let listed : Json := .array [ofBytes address, ofByte 64, .bool true]
    let named : Json := .object [
      member FieldName.activeOmr (.bool false), member "note" note,
      member FieldName.length (ofByte 64), member FieldName.meshLocal (.bool true),
      member FieldName.address (ofBytes address)]
    Respelled (document listed) (document named) ∧
      ofJson? (document listed) = ofJson? (document named) ∧
      Spelling (.addresses [⟨address, 64, true, false, false⟩]) (document named) := by
  intro address note document listed named
  let a := member FieldName.address (ofBytes address)
  let l := member FieldName.length (ofByte 64)
  let m := member FieldName.meshLocal (.bool true)
  let o := member FieldName.activeOmr (.bool false)
  let R := Relation.EqvGen (Json.Respelled AddressReport.required AddressReport.flags)
  have positional : R listed (.object [a, l, m]) := .rel _ _ (.positional (by decide))
  have unsaid : R (.object [a, l, m]) (.object [o, a, l, m]) :=
    .rel _ _ (.members (.unsaid (by decide) rfl))
  have order : R (.object [o, a, l, m]) (.object [o, l, m, a]) :=
    .rel _ _ (.members (.order (.cons o (List.perm_append_comm : ([a] ++ [l, m]).Perm _))))
  have unknown : R (.object [o, l, m, a]) named :=
    .rel _ _ (.members (.unknown [o] [l, m, a] note (by decide)))
  have entries : R listed named :=
    positional.trans _ _ _ (unsaid.trans _ _ _ (order.trans _ _ _ unknown))
  have respelled : Respelled (document listed) (document named) :=
    .addresses (.cons entries .nil)
  refine ⟨respelled, documents_are_messages.2.2 _ _ respelled, ?_⟩
  rw [← documents_are_messages.2.1]
  decide +kernel

end DaemonMessage
end MeshLink
