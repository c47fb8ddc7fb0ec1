import MeshLink.Json.Lexer
set_option autoImplicit false

/-! # JSON values

A value is a tree; the members of an object stay in their order, repeated names included. Reading
a value from its tokens is a machine whose stack holds the containers that are still open, so the
depth of a text is bounded by nothing but its length. -/

namespace MeshLink

/-- A JSON value. -/
inductive Json
  | null
  | bool (value : Bool)
  | number (value : Json.Numeral)
  | string (value : Json.Text)
  | array (items : List Json)
  | object (members : List (Json.Text × Json))

namespace Json

/-! ## The tokens of a value -/

mutual

/-- The tokens of a value, in order. -/
def tokens : Json → List Token
  | .null => [.null]
  | .bool b => [.bool b]
  | .number n => [.number n]
  | .string s => [.string s]
  | .array items => .beginArray :: itemTokens items ++ [.endArray]
  | .object members => .beginObject :: memberTokens members ++ [.endObject]

/-- The tokens between the brackets of an array. -/
def itemTokens : List Json → List Token
  | [] => []
  | [item] => item.tokens
  | item :: items => item.tokens ++ .comma :: itemTokens items

/-- The tokens between the braces of an object. -/
def memberTokens : List (Text × Json) → List Token
  | [] => []
  | [(name, value)] => .string name :: .colon :: value.tokens
  | (name, value) :: members =>
    .string name :: .colon :: value.tokens ++ .comma :: memberTokens members

end

/-- A value in writing, without blanks. -/
def text (j : Json) : String :=
  String.ofList (render j.tokens)

/-! ## Reading a value -/

/-- A container that is still open, with what it holds so far, the latest first. -/
inductive Frame
  | array (items : List Json)
  | object (members : List (Text × Json)) (key : Text)

/-- What a reader of tokens waits for. -/
inductive Reader
  | value (stack : List Frame)
  | firstItem (stack : List Frame)
  | firstName (stack : List Frame)
  | name (members : List (Text × Json)) (stack : List Frame)
  | colon (members : List (Text × Json)) (key : Text) (stack : List Frame)
  /-- What follows a whole value: a comma, the end of the container, or nothing. -/
  | after (value : Json) (stack : List Frame)

namespace Reader

/-- Takes the first token of a value. -/
def startValue (stack : List Frame) : Token → Option Reader
  | .null => some (.after .null stack)
  | .bool b => some (.after (.bool b) stack)
  | .number n => some (.after (.number n) stack)
  | .string s => some (.after (.string s) stack)
  | .beginArray => some (.firstItem stack)
  | .beginObject => some (.firstName stack)
  | _ => none

/-- Takes the token behind a value that stands in the innermost open container. -/
def continueWith (v : Json) : List Frame → Token → Option Reader
  | .array items :: stack, .comma => some (.value (.array (v :: items) :: stack))
  | .array items :: stack, .endArray => some (.after (.array (v :: items).reverse) stack)
  | .object members key :: stack, .comma => some (.name ((key, v) :: members) stack)
  | .object members key :: stack, .endObject =>
    some (.after (.object ((key, v) :: members).reverse) stack)
  | _, _ => none

/-- Takes one token. -/
def step : Reader → Token → Option Reader
  | .value stack, t => startValue stack t
  | .firstItem stack, .endArray => some (.after (.array []) stack)
  | .firstItem stack, t => startValue (.array [] :: stack) t
  | .firstName stack, .endObject => some (.after (.object []) stack)
  | .firstName stack, .string key => some (.colon [] key stack)
  | .firstName _, _ => none
  | .name members stack, .string key => some (.colon members key stack)
  | .name _ _, _ => none
  | .colon members key stack, .colon => some (.value (.object members key :: stack))
  | .colon _ _ _, _ => none
  | .after v stack, t => continueWith v stack t

/-- The value that ends here, if it stands in no container. -/
def finish : Reader → Option Json
  | .after v [] => some v
  | _ => none

end Reader

/-- The value of some tokens, if they are those of one value. -/
def ofTokens? (ts : List Token) : Option Json :=
  ts.foldlM Reader.step (.value []) >>= Reader.finish

/-- The value that a text stands for, if it stands for one. -/
def ofText? (text : String) : Option Json :=
  lex text.toList >>= ofTokens?

end Json
end MeshLink
