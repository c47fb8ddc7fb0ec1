set_option autoImplicit false

/-! # Words on the wire

Netlink messages carry 16-bit and 32-bit words in little-endian order: the least significant octet
comes first. Both directions are written as arithmetic on the value of the word, so that a word
that was written is read back (`word16?_bytes16_append`, `word32?_bytes32_append`), and any octets
are those of a word (`exists_bytes16`, `exists_bytes32`). -/

namespace MeshLink.Netlink

/-- The octets of a 16-bit word. -/
def bytes16 (w : UInt16) : List UInt8 :=
  [UInt8.ofNat w.toNat, UInt8.ofNat (w.toNat / 0x100)]

/-- The octets of a 32-bit word. -/
def bytes32 (w : UInt32) : List UInt8 :=
  [UInt8.ofNat w.toNat, UInt8.ofNat (w.toNat / 0x100), UInt8.ofNat (w.toNat / 0x10000),
    UInt8.ofNat (w.toNat / 0x1000000)]

/-- The 16-bit word at the start of some octets. -/
def word16? : List UInt8 → Option UInt16
  | a :: b :: _ => some (UInt16.ofNat (a.toNat + 0x100 * b.toNat))
  | _ => none

/-- The 32-bit word at the start of some octets. -/
def word32? : List UInt8 → Option UInt32
  | a :: b :: c :: d :: _ =>
    some (UInt32.ofNat (a.toNat + 0x100 * b.toNat + 0x10000 * c.toNat + 0x1000000 * d.toNat))
  | _ => none

@[simp] theorem length_bytes16 (w : UInt16) : (bytes16 w).length = 2 := rfl

@[simp] theorem length_bytes32 (w : UInt32) : (bytes32 w).length = 4 := rfl

theorem word16?_bytes16_append (w : UInt16) (rest : List UInt8) :
    word16? (bytes16 w ++ rest) = some w := by
  have h := w.toNat_lt
  simp only [bytes16, word16?, List.cons_append, List.nil_append, Option.some.injEq]
  apply UInt16.toNat_inj.1
  simp only [UInt16.toNat_ofNat', UInt8.toNat_ofNat']
  omega

theorem word32?_bytes32_append (w : UInt32) (rest : List UInt8) :
    word32? (bytes32 w ++ rest) = some w := by
  have h := w.toNat_lt
  simp only [bytes32, word32?, List.cons_append, List.nil_append, Option.some.injEq]
  apply UInt32.toNat_inj.1
  simp only [UInt32.toNat_ofNat', UInt8.toNat_ofNat']
  omega

/-- Any two octets are those of a word. -/
theorem exists_bytes16 {bs : List UInt8} (h : 2 ≤ bs.length) :
    ∃ w rest, bs = bytes16 w ++ rest := by
  match bs, h with
  | low :: high :: rest, _ =>
      have hl := low.toNat_lt
      have hh := high.toNat_lt
      refine ⟨UInt16.ofNat (low.toNat + 0x100 * high.toNat), rest, ?_⟩
      have first : UInt8.ofNat ((low.toNat + 0x100 * high.toNat) % 2 ^ 16) = low :=
        UInt8.toNat_inj.1 (by rw [UInt8.toNat_ofNat']; omega)
      have second : UInt8.ofNat ((low.toNat + 0x100 * high.toNat) % 2 ^ 16 / 0x100) = high :=
        UInt8.toNat_inj.1 (by rw [UInt8.toNat_ofNat']; omega)
      rw [bytes16, UInt16.toNat_ofNat', first, second]
      rfl

/-- The two octets of a word, put together again. -/
theorem toNat_bytes16 (w : UInt16) :
    (UInt8.ofNat w.toNat).toNat + 0x100 * (UInt8.ofNat (w.toNat / 0x100)).toNat = w.toNat := by
  have bound := w.toNat_lt
  rw [UInt8.toNat_ofNat', UInt8.toNat_ofNat']
  omega

/-- Any four octets are those of a word. -/
theorem exists_bytes32 {bs : List UInt8} (h : 4 ≤ bs.length) :
    ∃ w rest, bs = bytes32 w ++ rest := by
  match bs, h with
  | a :: b :: c :: d :: rest, _ =>
      have ha := a.toNat_lt
      have hb := b.toNat_lt
      have hc := c.toNat_lt
      have hd := d.toNat_lt
      let n := a.toNat + 0x100 * b.toNat + 0x10000 * c.toNat + 0x1000000 * d.toNat
      have bound : n % 2 ^ 32 = n := Nat.mod_eq_of_lt (by omega)
      refine ⟨UInt32.ofNat n, rest, ?_⟩
      have first : UInt8.ofNat n = a := UInt8.toNat_inj.1 (by rw [UInt8.toNat_ofNat']; omega)
      have second : UInt8.ofNat (n / 0x100) = b :=
        UInt8.toNat_inj.1 (by rw [UInt8.toNat_ofNat']; omega)
      have third : UInt8.ofNat (n / 0x10000) = c :=
        UInt8.toNat_inj.1 (by rw [UInt8.toNat_ofNat']; omega)
      have fourth : UInt8.ofNat (n / 0x1000000) = d :=
        UInt8.toNat_inj.1 (by rw [UInt8.toNat_ofNat']; omega)
      rw [bytes32, UInt32.toNat_ofNat', bound, first, second, third, fourth]
      rfl

theorem word32?_eq_none_iff {bs : List UInt8} : word32? bs = none ↔ bs.length < 4 := by
  refine ⟨fun unread => Nat.lt_of_not_le fun long => ?_, fun short => ?_⟩
  · obtain ⟨w, rest, rfl⟩ := exists_bytes32 long
    rw [word32?_bytes32_append] at unread
    cases unread
  · match bs, short with
    | [], _ | [_], _ | [_, _], _ | [_, _, _], _ => rfl

end MeshLink.Netlink
