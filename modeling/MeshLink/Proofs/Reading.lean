import MeshLink.Json.Value
import MeshLink.Proofs.Lexing
set_option autoImplicit false

/-! # Reading values back

The tokens of a value are read back as the value (`ofTokens?_tokens`), and so is every text of these
tokens with blanks between them (`ofText?_of_spaced`), since no two numbers touch in a value.

Values are trees, and what holds of the items of an array and of the values in an object holds of
the array and the object (`inductionOn`). Inside, arrays and objects are alike: blocks of tokens
with commas between them (`separated`), a block being an item or a name with its value. -/

namespace MeshLink.Json

/-- Induction over a value: over the items of an array and the values in an object. -/
@[elab_as_elim]
theorem inductionOn {P : Json → Prop} (j : Json) (null : P .null) (bool : ∀ b, P (.bool b))
    (number : ∀ n, P (.number n)) (string : ∀ s, P (.string s))
    (array : ∀ items, (∀ item ∈ items, P item) → P (.array items))
    (object : ∀ members : List (Text × Json), (∀ m ∈ members, P m.2) → P (.object members)) :
    P j :=
  @Json.rec P (fun items => ∀ item ∈ items, P item) (fun members => ∀ m ∈ members, P m.2)
    (fun m => P m.2) null bool number string array object (List.forall_mem_nil _)
    (fun _ _ first others => List.forall_mem_cons.2 ⟨first, others⟩) (List.forall_mem_nil _)
    (fun _ _ first others => List.forall_mem_cons.2 ⟨first, others⟩) (fun _ _ value => value) j

/-! ## Blocks of tokens -/

/-- Blocks with commas between them. -/
def separated : List (List Token) → List Token
  | [] => []
  | [block] => block
  | block :: blocks => block ++ .comma :: separated blocks

/-- The tokens of a member of an object. -/
def memberBlock (m : Text × Json) : List Token :=
  .string m.1 :: .colon :: m.2.tokens

theorem itemTokens_eq (items : List Json) : itemTokens items = separated (items.map tokens) := by
  induction items with
  | nil => rfl
  | cons item items ih =>
      cases items with
      | nil => rfl
      | cons next items => exact congrArg (item.tokens ++ .comma :: ·) ih

theorem memberTokens_eq (members : List (Text × Json)) :
    memberTokens members = separated (members.map memberBlock) := by
  induction members with
  | nil => rfl
  | cons m members ih =>
      cases members with
      | nil => rfl
      | cons next members => exact congrArg (memberBlock m ++ .comma :: ·) ih

theorem tokens_array (items : List Json) :
    (array items).tokens = .beginArray :: separated (items.map tokens) ++ [.endArray] := by
  rw [tokens, itemTokens_eq]

theorem tokens_object (members : List (Text × Json)) :
    (object members).tokens =
      .beginObject :: separated (members.map memberBlock) ++ [.endObject] := by
  rw [tokens, memberTokens_eq]

theorem forall_mem_separated {P : Token → Prop} (comma : P .comma) {blocks : List (List Token)}
    (each : ∀ block ∈ blocks, ∀ t ∈ block, P t) : ∀ t ∈ separated blocks, P t := by
  induction blocks with
  | nil => exact List.forall_mem_nil _
  | cons block blocks ih =>
      obtain ⟨first, others⟩ := List.forall_mem_cons.1 each
      cases blocks with
      | nil => exact first
      | cons next blocks =>
          exact List.forall_mem_append.2 ⟨first, List.forall_mem_cons.2 ⟨comma, ih others⟩⟩

/-! ## Whole numbers -/

/-- The numbers of the value are whole ones. -/
def IsWhole (j : Json) : Prop :=
  ∀ t ∈ j.tokens, t.IsWhole

theorem isWhole_array {items : List Json} (whole : ∀ item ∈ items, item.IsWhole) :
    (array items).IsWhole := by
  have inside : ∀ t ∈ separated (items.map tokens), t.IsWhole :=
    forall_mem_separated trivial (List.forall_mem_map.2 whole)
  rw [IsWhole, tokens_array]
  exact List.forall_mem_append.2
    ⟨List.forall_mem_cons.2 ⟨trivial, inside⟩, List.forall_mem_singleton.2 trivial⟩

theorem isWhole_object {members : List (Text × Json)} (whole : ∀ m ∈ members, m.2.IsWhole) :
    (object members).IsWhole := by
  have named : ∀ m ∈ members, ∀ t ∈ memberBlock m, t.IsWhole := fun m hm =>
    List.forall_mem_cons.2 ⟨trivial, List.forall_mem_cons.2 ⟨trivial, whole m hm⟩⟩
  have inside : ∀ t ∈ separated (members.map memberBlock), t.IsWhole :=
    forall_mem_separated trivial (List.forall_mem_map.2 named)
  rw [IsWhole, tokens_object]
  exact List.forall_mem_append.2
    ⟨List.forall_mem_cons.2 ⟨trivial, inside⟩, List.forall_mem_singleton.2 trivial⟩

/-! ## Numbers do not touch -/

/-- No two numbers touch in the tokens, nor is one touched at their end by what is no number. -/
def KeepApart (ts : List Token) : Prop :=
  ∀ rest : List Token, (∀ t ∈ rest.head?, t.isNumber = false) → rest.IsChain Token.Apart →
    (ts ++ rest).IsChain Token.Apart

namespace KeepApart

theorem nil : KeepApart [] :=
  fun _ _ chain => chain

theorem cons {t : Token} {ts : List Token} (first : t.isNumber = false) (apart : KeepApart ts) :
    KeepApart (t :: ts) := fun rest next chain =>
  List.isChain_cons.2 ⟨fun _ _ => .inl first, apart rest next chain⟩

theorem append {ts us : List Token} (left : KeepApart ts) (right : KeepApart us)
    (first : ∀ t ∈ us.head?, t.isNumber = false) : KeepApart (ts ++ us) := by
  intro rest next chain
  rw [List.append_assoc]
  refine left (us ++ rest) ?_ (right rest next chain)
  cases us with
  | nil => exact next
  | cons u us => exact first

theorem separated {blocks : List (List Token)} (each : ∀ block ∈ blocks, KeepApart block) :
    KeepApart (separated blocks) := by
  induction blocks with
  | nil => exact nil
  | cons block blocks ih =>
      obtain ⟨first, others⟩ := List.forall_mem_cons.1 each
      cases blocks with
      | nil => exact first
      | cons next blocks => exact first.append (cons rfl (ih others)) fun t ht => by cases ht; rfl

end KeepApart

theorem keepApart_tokens (j : Json) : KeepApart j.tokens := by
  induction j using inductionOn with
  | null | bool | string => exact .cons rfl .nil
  | number n =>
      intro rest next chain
      exact List.isChain_cons.2 ⟨fun t ht => .inr (next t ht), chain⟩
  | array items each =>
      rw [tokens_array]
      refine KeepApart.append (.cons rfl (.separated (List.forall_mem_map.2 each)))
        (.cons rfl .nil) fun t ht => by cases ht; rfl
  | object members each =>
      have named : ∀ m ∈ members, KeepApart (memberBlock m) := fun m hm =>
        .cons rfl (.cons rfl (each m hm))
      rw [tokens_object]
      refine KeepApart.append (.cons rfl (.separated (List.forall_mem_map.2 named)))
        (.cons rfl .nil) fun t ht => by cases ht; rfl

theorem isChain_tokens (j : Json) : j.tokens.IsChain Token.Apart := by
  rw [← List.append_nil j.tokens]
  exact keepApart_tokens j [] nofun .nil

/-! ## The reader -/

namespace Reader

/-- Blocks are read one after another up to the token that closes them, if each of them is, and if a
    comma leads on to the next one. -/
theorem foldlM_separated {α : Type} {block : α → List Token} {close : Token} {as : List α}
    (before : List α → Reader) (behind : α → List α → Reader) (whole : List α → Reader)
    (each : ∀ a ∈ as, ∀ read, (block a).foldlM step (before read) = some (behind a read))
    (comma : ∀ a read, (behind a read).step .comma = some (before (a :: read)))
    (closes : ∀ a read, (behind a read).step close = some (whole (a :: read).reverse))
    (some : as ≠ []) (read : List α) :
    (separated (as.map block) ++ [close]).foldlM step (before read) =
      .some (whole (read.reverse ++ as)) := by
  induction as generalizing read with
  | nil => exact absurd rfl some
  | cons a as ih =>
      obtain ⟨first, others⟩ := List.forall_mem_cons.1 each
      cases as with
      | nil =>
          show (block a ++ [close]).foldlM step (before read) = _
          rw [foldlM_append_of_eq_some (first read), foldlM_cons_of_eq_some (closes a read),
            List.reverse_cons]
          rfl
      | cons next as =>
          show ((block a ++ .comma :: separated ((next :: as).map block)) ++ [close]).foldlM step
            (before read) = _
          rw [List.append_assoc, foldlM_append_of_eq_some (first read), List.cons_append,
            foldlM_cons_of_eq_some (comma a read), ih others (List.cons_ne_nil _ _),
            List.reverse_cons, List.append_assoc]
          rfl

theorem exists_items_eq_cons (item : Json) (items : List Json) :
    ∃ t ts, separated ((item :: items).map tokens) = t :: ts ∧ t ≠ .endArray := by
  have first : ∃ t ts, item.tokens = t :: ts ∧ t ≠ .endArray := by
    cases item
    all_goals exact ⟨_, _, rfl, nofun⟩
  obtain ⟨t, ts, start, other⟩ := first
  cases items with
  | nil => exact ⟨t, ts, start, other⟩
  | cons next items =>
      refine ⟨t, ts ++ .comma :: separated ((next :: items).map tokens), ?_, other⟩
      exact congrArg (· ++ .comma :: separated ((next :: items).map tokens)) start

theorem firstItem_step (stack : List Frame) {t : Token} (other : t ≠ .endArray) :
    (firstItem stack).step t = (value (.array [] :: stack)).step t := by
  cases t with
  | endArray => exact absurd rfl other
  | _ => rfl

/-- A value is read from its first token to its last one, whatever is open around it. -/
theorem foldlM_tokens (j : Json) (stack : List Frame) :
    j.tokens.foldlM step (.value stack) = some (.after j stack) := by
  induction j using inductionOn generalizing stack with
  | null | bool | number | string => rfl
  | array items each =>
      rw [tokens_array, List.cons_append]
      cases items with
      | nil => rfl
      | cons item items =>
          have inside : (separated ((item :: items).map tokens) ++ [Token.endArray]).foldlM step
              (.value (.array [] :: stack)) = some (.after (.array (item :: items)) stack) :=
            foldlM_separated (fun read => .value (.array read :: stack))
              (fun a read => .after a (.array read :: stack)) (fun as => .after (.array as) stack)
              (fun a ha read => each a ha (.array read :: stack)) (fun _ _ => rfl)
              (fun _ _ => rfl) (List.cons_ne_nil _ _) []
          obtain ⟨t, ts, start, other⟩ := exists_items_eq_cons item items
          rw [start] at inside ⊢
          show (t :: (ts ++ [.endArray])).foldlM step (.firstItem stack) = _
          rw [List.foldlM_cons, firstItem_step stack other]
          exact inside
  | object members each =>
      rw [tokens_object, List.cons_append]
      cases members with
      | nil => rfl
      | cons m members =>
          have named : ∀ m' ∈ m :: members, ∀ read,
              (memberBlock m').foldlM step (.name read stack) =
                some (.after m'.2 (.object read m'.1 :: stack)) := fun m' hm read =>
            each m' hm (.object read m'.1 :: stack)
          have inside : (separated ((m :: members).map memberBlock) ++
              [Token.endObject]).foldlM step (.name [] stack) =
                some (.after (.object (m :: members)) stack) :=
            foldlM_separated (fun read => .name read stack)
              (fun m read => .after m.2 (.object read m.1 :: stack))
              (fun ms => .after (.object ms) stack) named (fun _ _ => rfl) (fun _ _ => rfl)
              (List.cons_ne_nil _ _) []
          -- The first name of an object is read like the next ones.
          cases members with
          | nil => exact inside
          | cons next members => exact inside

end Reader

theorem ofTokens?_tokens (j : Json) : ofTokens? j.tokens = some j := by
  rw [ofTokens?, Reader.foldlM_tokens]
  rfl

/-- **A value is read back** from its tokens, with any blanks between them, if its numbers are whole
    ones. -/
theorem ofText?_of_spaced {j : Json} (whole : j.IsWhole) {text : String}
    (spaced : Spaced j.tokens text.toList) : ofText? text = some j := by
  rw [ofText?, lex_of_spaced spaced whole (isChain_tokens j)]
  exact ofTokens?_tokens j

end MeshLink.Json
