import Mathlib.Data.Option.Basic
import MeshLink.Message.Format
import MeshLink.Proofs.Reading
set_option autoImplicit false

/-! # Messages read back

A message of the daemon is read back from its JSON form, and from its text with any blanks between
the tokens. Bytes are numbers below 256, lists are read item by item, and an entry has all its
fields, each of them once. -/

namespace MeshLink

namespace Json

@[simp] theorem byte?_ofByte (b : UInt8) : byte? (ofByte b) = some b := by
  show (if b.toNat < 256 then some (UInt8.ofNat b.toNat) else none) = some b
  rw [if_pos b.toNat_lt, UInt8.ofNat_toNat]

theorem list?_map {α : Type} {read : Json → Option α} {write : α → Json}
    (back : ∀ a, read (write a) = some a) (as : List α) :
    list? read (.array (as.map write)) = some as := by
  show (as.map write).mapM read = some as
  induction as with
  | nil => rfl
  | cons a as ih => simp [List.mapM_cons, back, ih]

@[simp] theorem list?_ofBytes (bs : List UInt8) : list? byte? (ofBytes bs) = some bs :=
  list?_map byte?_ofByte bs

theorem isWhole_ofByte (b : UInt8) : (ofByte b).IsWhole :=
  List.forall_mem_singleton.2 rfl

theorem isWhole_ofBytes (bs : List UInt8) : (ofBytes bs).IsWhole :=
  isWhole_array (List.forall_mem_map.2 fun b _ => isWhole_ofByte b)

theorem isWhole_bool (b : Bool) : (bool b).IsWhole :=
  List.forall_mem_singleton.2 trivial

end Json

open Json

namespace AddressReport

theorem ofJson?_toJson (r : AddressReport) : ofJson? r.toJson = some r := by
  simp [ofJson?, toJson, ofMembers?, namesAreTexts, required?, flag?, field?, member, bool?,
    FieldName.address, FieldName.length, FieldName.meshLocal, FieldName.activeOmr,
    FieldName.preferred]

theorem isWhole_toJson (r : AddressReport) : r.toJson.IsWhole := by
  refine isWhole_object ?_
  simp only [List.forall_mem_cons, member, isWhole_ofBytes, isWhole_ofByte, isWhole_bool]
  exact ⟨trivial, trivial, trivial, trivial, trivial, List.forall_mem_nil _⟩

end AddressReport

namespace PrefixReport

theorem ofJson?_toJson (r : PrefixReport) : ofJson? r.toJson = some r := by
  simp [ofJson?, toJson, ofMembers?, namesAreTexts, required?, field?, member, FieldName.octets,
    FieldName.length]

theorem isWhole_toJson (r : PrefixReport) : r.toJson.IsWhole := by
  refine isWhole_object ?_
  simp only [List.forall_mem_cons, member, isWhole_ofBytes, isWhole_ofByte]
  exact ⟨trivial, trivial, List.forall_mem_nil _⟩

end PrefixReport

namespace DaemonMessage

theorem ofJson?_toJson (m : DaemonMessage) : ofJson? m.toJson = some m := by
  cases m with
  | addresses snapshot =>
      simp [ofJson?, toJson, member, ofMember?, list?_map AddressReport.ofJson?_toJson]
  | prefixes snapshot =>
      simp [ofJson?, toJson, member, ofMember?, list?_map PrefixReport.ofJson?_toJson,
        FieldName.addresses, FieldName.prefixes]
  | died => simp [ofJson?, toJson]

theorem isWhole_toJson (m : DaemonMessage) : m.toJson.IsWhole := by
  cases m with
  | addresses snapshot =>
      exact isWhole_object (List.forall_mem_singleton.2 (isWhole_array
        (List.forall_mem_map.2 fun r _ => r.isWhole_toJson)))
  | prefixes snapshot =>
      exact isWhole_object (List.forall_mem_singleton.2 (isWhole_array
        (List.forall_mem_map.2 fun r _ => r.isWhole_toJson)))
  | died => exact List.forall_mem_singleton.2 trivial

/-- **Messages are read back** from their text, whatever octets, lengths and flags they carry, and
    from every text that has any blanks between the tokens, or before or after them. -/
theorem text_reads_back (m : DaemonMessage) :
    ofText? m.text = some m ∧
      ∀ text : String, Spaced m.toJson.tokens text.toList → ofText? text = some m := by
  have back : ∀ text : String, Spaced m.toJson.tokens text.toList → ofText? text = some m := by
    intro text spaced
    rw [ofText?, ofText?_of_spaced m.isWhole_toJson spaced]
    exact ofJson?_toJson m
  refine ⟨back m.text ?_, back⟩
  rw [text, Json.text, String.toList_ofList]
  exact spaced_render _

/-- Two networks, one of them without octets, with a space before every token and a line's end
    behind it. -/
theorem text_reads_back_line_by_line :
    let m : DaemonMessage := .prefixes [⟨[0xfe, 0x80], 10⟩, ⟨[], 0⟩]
    let text := String.ofList (m.toJson.tokens.flatMap fun t => [' '] ++ (t.text ++ ['\r', '\n']))
    Spaced m.toJson.tokens text.toList ∧ ofText? text = some m := by
  intro m text
  have spaced : Spaced m.toJson.tokens text.toList := by
    rw [String.toList_ofList]
    exact spaced_flatMap (List.all_eq_true.1 rfl) (List.all_eq_true.1 rfl) m.toJson.tokens
  exact ⟨spaced, (text_reads_back m).2 text spaced⟩

end DaemonMessage
end MeshLink
