import Mathlib.Data.List.Chain
import MeshLink.Json.Lexer
set_option autoImplicit false

/-! # Reading tokens back

Tokens that are written one after another, with blanks wherever one likes between them, are read
back as they are (`lex_of_spaced`). Every token tells its end by its own last character but for a
number, which is still open when its digits are over and is closed by whatever comes next. So the
machine has read its tokens either way (`Lexer.HasRead`), and two numbers must not touch.

A number is read digit by digit as it is written (`foldlM_toDigits`), a string character by
character, each of which may be escaped (`foldlM_escaped`). -/

namespace MeshLink.Json

section

variable {α β : Type} {f : β → α → Option β} {b b' : β}

theorem foldlM_cons_of_eq_some {a : α} (step : f b a = some b') (as : List α) :
    (a :: as).foldlM f b = as.foldlM f b' := by
  rw [List.foldlM_cons, step]
  rfl

theorem foldlM_append_of_eq_some {xs : List α} (run : xs.foldlM f b = some b') (ys : List α) :
    (xs ++ ys).foldlM f b = ys.foldlM f b' := by
  rw [List.foldlM_append, run]
  rfl

end

/-- Characters are these tokens, each as it is written, and blanks before, between and after
    them. -/
inductive Spaced : List Token → List Char → Prop
  | nil : Spaced [] []
  | blank {ts : List Token} {c : Char} {cs : List Char} :
      isBlank c = true → Spaced ts cs → Spaced ts (c :: cs)
  | token (t : Token) {ts : List Token} {cs : List Char} :
      Spaced ts cs → Spaced (t :: ts) (t.text ++ cs)

theorem Spaced.blanks {ts : List Token} {cs bs : List Char} (blank : ∀ c ∈ bs, isBlank c = true)
    (spaced : Spaced ts cs) : Spaced ts (bs ++ cs) := by
  induction bs with
  | nil => exact spaced
  | cons c bs ih =>
      obtain ⟨first, others⟩ := List.forall_mem_cons.1 blank
      exact .blank first (ih others)

/-- Tokens with the same blanks before each of them, and the same behind. -/
theorem spaced_flatMap {left right : List Char} (before : ∀ c ∈ left, isBlank c = true)
    (behind : ∀ c ∈ right, isBlank c = true) (ts : List Token) :
    Spaced ts (ts.flatMap fun t => left ++ (t.text ++ right)) := by
  induction ts with
  | nil => exact .nil
  | cons t ts ih =>
      rw [List.flatMap_cons, List.append_assoc, List.append_assoc]
      exact .blanks before (.token t (.blanks behind ih))

theorem spaced_render (ts : List Token) : Spaced ts (render ts) := by
  simpa [render] using spaced_flatMap (List.forall_mem_nil _) (List.forall_mem_nil _) ts

namespace Token

/-- Whether a token is a number, which only what follows it ends. -/
def isNumber : Token → Bool
  | .number _ => true
  | _ => false

/-- The two can be written without a blank between them: they are not both numbers. -/
def Apart (t u : Token) : Prop :=
  t.isNumber = false ∨ u.isNumber = false

/-- A number is a whole one, without fraction and exponent. -/
def IsWhole : Token → Prop
  | .number n => n.tail = []
  | _ => True

end Token

/-! ## Digits -/

theorem digit?_digitChar {d : Nat} (h : d < 10) : digit? (Nat.digitChar d) = some d := by
  have all : ∀ d < 10, digit? (Nat.digitChar d) = some d := by decide
  exact all d h

theorem exists_toDigits_eq_cons (n : Nat) :
    ∃ d ds, d < 10 ∧ Nat.toDigits 10 n = Nat.digitChar d :: ds := by
  induction n using Nat.strongRecOn with
  | ind n ih =>
      by_cases small : n < 10
      · exact ⟨n, [], small, Nat.toDigits_of_lt_base small⟩
      · obtain ⟨d, ds, h, digits⟩ := ih (n / 10) (by omega)
        refine ⟨d, ds ++ [Nat.digitChar (n % 10)], h, ?_⟩
        rw [Nat.toDigits_of_base_le (by decide) (Nat.le_of_not_lt small), digits]
        rfl

/-- The whole part of a number that was read digit by digit. -/
def OpenNumber.ofWhole (negative : Bool) (n : Nat) : OpenNumber :=
  ⟨if n = 0 then .zero else .whole, negative, n, []⟩

theorem OpenNumber.push?_first (negative : Bool) {d : Nat} (h : d < 10) :
    push? ⟨.sign, negative, 0, []⟩ (Nat.digitChar d) = some (ofWhole negative d) := by
  rw [push?, digit?_digitChar h]
  cases d with
  | zero => rfl
  | succ d => simp [NumberPart.onDigit, ofWhole]

theorem OpenNumber.ofWhole_of_ne_zero (negative : Bool) {n : Nat} (positive : n ≠ 0) :
    ofWhole negative n = ⟨.whole, negative, n, []⟩ := by
  rw [ofWhole, if_neg positive]

theorem OpenNumber.push?_digit (negative : Bool) {n d : Nat} (positive : n ≠ 0) (h : d < 10) :
    (ofWhole negative n).push? (Nat.digitChar d) = some (ofWhole negative (n * 10 + d)) := by
  have still : n * 10 + d ≠ 0 := by omega
  rw [ofWhole_of_ne_zero negative positive, ofWhole_of_ne_zero negative still, push?,
    digit?_digitChar h]
  rfl

theorem foldlM_toDigits (tokens : List Token) (negative : Bool) (n : Nat) :
    (Nat.toDigits 10 n).foldlM Lexer.step ⟨tokens, .number ⟨.sign, negative, 0, []⟩⟩ =
      some ⟨tokens, .number (.ofWhole negative n)⟩ := by
  induction n using Nat.strongRecOn with
  | ind n ih =>
      by_cases small : n < 10
      · rw [Nat.toDigits_of_lt_base small]
        simp [Lexer.step, OpenNumber.push?_first negative small, Lexer.enter]
      · have large : 10 ≤ n := Nat.le_of_not_lt small
        have last : n % 10 < 10 := Nat.mod_lt n (by decide)
        have first : n / 10 ≠ 0 := by omega
        rw [Nat.toDigits_of_base_le (by decide) large,
          foldlM_append_of_eq_some (ih (n / 10) (by omega))]
        simp [Lexer.step, OpenNumber.push?_digit negative first last, Lexer.enter,
          Nat.div_add_mod']

/-! ## Strings -/

/-- A string of which these characters were read, the latest first, without half pairs. -/
def OpenString.ofChars (chars : List Char) : OpenString :=
  ⟨chars, true, none⟩

theorem hexValue?_hexDigit (n : Nat) : hexValue? (hexDigit n) = some (n % 16) := by
  have all : ∀ d < 16, hexValue? (Nat.digitChar d) = some d := by decide
  exact all _ (Nat.mod_lt n (by decide))

theorem OpenString.pushUnit_control (chars : List Char) {c : Char} (control : isControl c = true) :
    (ofChars chars).pushUnit c.toNat = ofChars (c :: chars) := by
  have small : c.toNat < 0x20 := of_decide_eq_true control
  have first : isFirstHalf c.toNat = false := by simp [isFirstHalf]; omega
  have second : isSecondHalf c.toNat = false := by simp [isSecondHalf]; omega
  simp [pushUnit, first, second, push, ofChars, Char.ofNat_toNat]

/-- A character of a string is read as it is written, escaped or not. -/
theorem foldlM_escaped (tokens : List Token) (chars : List Char) (c : Char) :
    (escaped c).foldlM Lexer.step ⟨tokens, .string (.ofChars chars)⟩ =
      some ⟨tokens, .string (.ofChars (c :: chars))⟩ := by
  unfold escaped
  iterate 7
    split
    · next h => rw [h]; rfl
  split
  · next control =>
      have opened : ['\\', 'u', '0', '0'].foldlM Lexer.step ⟨tokens, .string (.ofChars chars)⟩ =
          some ⟨tokens, .unit (.ofChars chars) 2 0⟩ := rfl
      have code : c.toNat / 16 % 16 * 16 + c.toNat % 16 = c.toNat := by
        have small : c.toNat < 0x20 := of_decide_eq_true control
        omega
      show (['\\', 'u', '0', '0'] ++ [hexDigit (c.toNat / 16), hexDigit c.toNat]).foldlM _ _ = _
      rw [foldlM_append_of_eq_some opened]
      simp [Lexer.step, Lexer.unit?, hexValue?_hexDigit, code,
        OpenString.pushUnit_control chars control]
  · next quote escape _ _ _ _ _ control =>
      simp [Lexer.step, Lexer.string?, quote, escape, control, Lexer.enter, OpenString.push,
        OpenString.ofChars]

/-- The characters of a string are read as they are written. -/
theorem foldlM_flatMap_escaped (tokens : List Token) (chars cs : List Char) :
    (cs.flatMap escaped).foldlM Lexer.step ⟨tokens, .string (.ofChars chars)⟩ =
      some ⟨tokens, .string (.ofChars (cs.reverse ++ chars))⟩ := by
  induction cs generalizing chars with
  | nil => rfl
  | cons c cs ih =>
      rw [List.flatMap_cons, foldlM_append_of_eq_some (foldlM_escaped tokens chars c),
        List.reverse_cons, List.append_assoc]
      exact ih (c :: chars)

/-! ## Tokens -/

/-- No number goes on with the character. -/
def EndsNumber (c : Char) : Prop :=
  digit? c = none ∧ c ∉ ['.', 'e', 'E', '+', '-']

instance (c : Char) : Decidable (EndsNumber c) :=
  inferInstanceAs (Decidable (_ ∧ _))

theorem EndsNumber.push?_eq {c : Char} (ends : EndsNumber c) (n : OpenNumber) :
    n.push? c = none := by
  have mark : n.part.onMark c = none := by
    have other := ends.2
    unfold NumberPart.onMark
    split <;> simp_all
  simp only [OpenNumber.push?, ends.1, mark, Option.map_none]

theorem endsNumber_of_isBlank {c : Char} (blank : isBlank c = true) : EndsNumber c := by
  have blanks : c = ' ' ∨ c = '\t' ∨ c = '\n' ∨ c = '\r' := by
    simpa [isBlank, or_assoc] using blank
  rcases blanks with rfl | rfl | rfl | rfl <;> decide

namespace Lexer

/-- The machine has read these tokens, the latest first; if that is a number, it may not know yet
    that the number is over. -/
inductive HasRead : List Token → Lexer → Prop
  | between (tokens : List Token) : HasRead tokens ⟨tokens, .between⟩
  | number {tokens : List Token} {n : OpenNumber} {value : Numeral} :
      n.close? = some value → HasRead (.number value :: tokens) ⟨tokens, .number n⟩

variable {tokens : List Token} {l : Lexer}

theorem HasRead.finish (read : HasRead tokens l) : l.finish = some tokens.reverse := by
  cases read with
  | between => rfl
  | number closed => simp [Lexer.finish, closed]

/-- A character that no number goes on with is read as the start of something. -/
theorem HasRead.step {c : Char} (read : HasRead tokens l) (ends : EndsNumber c) :
    l.step c = start? ⟨tokens, .between⟩ c := by
  cases read with
  | between => rfl
  | number closed => simp only [Lexer.step, ends.push?_eq, closed]; rfl

theorem HasRead.blank {c : Char} (read : HasRead tokens l) (blank : isBlank c = true) :
    l.step c = some ⟨tokens, .between⟩ := by
  rw [read.step (endsNumber_of_isBlank blank)]
  unfold start?
  rw [if_pos blank]

/-- A token that is no number is read from its first character to its last one. -/
theorem HasRead.foldlM {c : Char} {cs : List Char} {t : Token} (read : HasRead tokens l)
    (ends : EndsNumber c)
    (closes : (c :: cs).foldlM Lexer.step ⟨tokens, .between⟩ = some ⟨t :: tokens, .between⟩) :
    ∃ l', (c :: cs).foldlM Lexer.step l = some l' ∧ HasRead (t :: tokens) l' := by
  refine ⟨_, ?_, .between (t :: tokens)⟩
  rw [← closes, List.foldlM_cons, List.foldlM_cons, read.step ends]
  rfl

theorem start?_digit (tokens : List Token) {d : Nat} (h : d < 10) :
    start? ⟨tokens, .between⟩ (Nat.digitChar d) =
      Lexer.step ⟨tokens, .number ⟨.sign, false, 0, []⟩⟩ (Nat.digitChar d) := by
  obtain rfl | rfl | rfl | rfl | rfl | rfl | rfl | rfl | rfl | rfl : d = 0 ∨ d = 1 ∨ d = 2 ∨
      d = 3 ∨ d = 4 ∨ d = 5 ∨ d = 6 ∨ d = 7 ∨ d = 8 ∨ d = 9 := by omega
  all_goals rfl

theorem foldlM_number (tokens : List Token) (negative : Bool) (n : Nat) :
    (Numeral.text ⟨negative, n, []⟩).foldlM Lexer.step ⟨tokens, .between⟩ =
      some ⟨tokens, .number (.ofWhole negative n)⟩ := by
  rw [Numeral.text, List.append_nil]
  cases negative with
  | true => exact foldlM_toDigits tokens true n
  | false =>
      obtain ⟨d, ds, h, digits⟩ := exists_toDigits_eq_cons n
      rw [← foldlM_toDigits tokens false n, digits]
      show (start? ⟨tokens, .between⟩ (Nat.digitChar d) >>= fun l => ds.foldlM Lexer.step l) = _
      rw [start?_digit tokens h]
      rfl

theorem close?_ofWhole (negative : Bool) (n : Nat) :
    (OpenNumber.ofWhole negative n).close? = some ⟨negative, n, []⟩ := by
  unfold OpenNumber.ofWhole OpenNumber.close?
  by_cases zero : n = 0 <;> simp [zero, NumberPart.isComplete]

theorem foldlM_string (tokens : List Token) (s : String) :
    ('"' :: (s.toList.flatMap escaped ++ ['"'])).foldlM Lexer.step ⟨tokens, .between⟩ =
      some ⟨.string (some s) :: tokens, .between⟩ := by
  have opened : Lexer.step ⟨tokens, .between⟩ '"' =
      some ⟨tokens, .string (.ofChars [])⟩ := rfl
  have closed : Lexer.step ⟨tokens, .string (.ofChars (s.toList.reverse ++ []))⟩ '"' =
      some ⟨.string (some s) :: tokens, .between⟩ := by
    simp [Lexer.step, string?, emit, OpenString.close, OpenString.ofChars]
  rw [foldlM_cons_of_eq_some opened,
    foldlM_append_of_eq_some (foldlM_flatMap_escaped tokens [] s.toList),
    foldlM_cons_of_eq_some closed]
  rfl

theorem HasRead.token {t : Token} (read : HasRead tokens l) (whole : t.IsWhole)
    (apart : ∀ last ∈ tokens.head?, last.Apart t) :
    ∃ l', t.text.foldlM Lexer.step l = some l' ∧ HasRead (t :: tokens) l' := by
  cases t with
  | number n =>
      obtain ⟨negative, n, tail⟩ := n
      obtain rfl : tail = [] := whole
      cases read with
      | between => exact ⟨_, foldlM_number tokens negative n, .number (close?_ofWhole negative n)⟩
      | number closed => rcases apart _ rfl with h | h <;> cases h
  | string text =>
      cases text with
      | none => exact read.foldlM (by decide) rfl
      | some s => exact read.foldlM (by decide) (foldlM_string tokens s)
  | bool b => cases b <;> exact read.foldlM (by decide) rfl
  | _ => exact read.foldlM (by decide) rfl

end Lexer

/-- Tokens with blanks between them are read one after another. -/
theorem Lexer.HasRead.spaced {ts : List Token} {cs : List Char} (spaced : Spaced ts cs)
    {tokens : List Token} {l : Lexer} (read : HasRead tokens l) (whole : ∀ t ∈ ts, t.IsWhole)
    (apart : (tokens.head?.toList ++ ts).IsChain Token.Apart) :
    ∃ l', cs.foldlM Lexer.step l = some l' ∧ HasRead (ts.reverse ++ tokens) l' := by
  induction spaced generalizing tokens l with
  | nil => exact ⟨l, rfl, read⟩
  | blank blank _ ih =>
      obtain ⟨l', run, read'⟩ := ih (.between tokens) whole apart
      refine ⟨l', ?_, read'⟩
      rw [foldlM_cons_of_eq_some (read.blank blank)]
      exact run
  | @token t ts cs _ ih =>
      have first : ∀ last ∈ tokens.head?, last.Apart t := by
        intro last there
        rw [Option.mem_def.1 there] at apart
        exact List.IsChain.rel apart
      obtain ⟨l', run, read'⟩ := read.token (whole t (List.mem_cons_self ..)) first
      obtain ⟨l'', run', read''⟩ := ih read' (fun u hu => whole u (List.mem_cons_of_mem t hu))
        apart.right_of_append
      refine ⟨l'', ?_, ?_⟩
      · rw [foldlM_append_of_eq_some run]
        exact run'
      · rw [List.reverse_cons, List.append_assoc]
        exact read''

/-- **Tokens are read back** as they are written, with any blanks between them, if their numbers are
    whole ones and no two of them touch. -/
theorem lex_of_spaced {ts : List Token} {cs : List Char} (spaced : Spaced ts cs)
    (whole : ∀ t ∈ ts, t.IsWhole) (apart : ts.IsChain Token.Apart) : lex cs = some ts := by
  obtain ⟨l, run, read⟩ := Lexer.HasRead.spaced spaced (.between []) whole apart
  rw [lex, Lexer.new, run, Option.bind_eq_bind, Option.bind_some, read.finish]
  rw [List.append_nil, List.reverse_reverse]

end MeshLink.Json
