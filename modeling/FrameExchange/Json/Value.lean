import FrameExchange.Single

/-!
# JSON values

The values that are written as JSON, and their text without any blanks.

- `Json.quote` — a string between quotes, with what cannot stand there escaped.
- `Json.render` — the text of a value; fields keep their order.
-/

namespace FrameExchange

/-- A JSON value. Of the numbers only those occur that something writes. -/
inductive Json where
  | boolean (value : Bool)
  | number (value : Nat)
  | single (value : Single)
  | text (value : String)
  | array (items : List Json)
  | object (fields : List (String × Json))
  deriving Repr

namespace Json

/-- A character inside quotes. Quotes, backslashes and control characters are escaped. -/
def escape (c : Char) : List Char :=
  if c = '"' then ['\\', '"']
  else if c = '\\' then ['\\', '\\']
  else if c = '\n' then ['\\', 'n']
  else if c = '\r' then ['\\', 'r']
  else if c = '\t' then ['\\', 't']
  else if c.toNat = 8 then ['\\', 'b']
  else if c.toNat = 12 then ['\\', 'f']
  else if c.toNat < 32 then ['\\', 'u'] ++ (Bytes.hexNumber 4 c.toNat).toList
  else [c]

/-- A string between quotes. -/
def quote (s : String) : String :=
  String.ofList ('"' :: s.toList.flatMap escape ++ ['"'])

/-- Texts with a comma between them. -/
def commas (texts : List String) : String := String.intercalate "," texts

mutual

/-- The text of a value. A number that is not finite is written as null. -/
def render : Json → String
  | boolean value => if value then "true" else "false"
  | number value => toString value
  | single value => value.text.getD "null"
  | text value => quote value
  | array items => "[" ++ commas (renderItems items) ++ "]"
  | object fields => "\x7b" ++ commas (renderFields fields) ++ "\x7d"

/-- The texts of the values of a list. -/
def renderItems : List Json → List String
  | [] => []
  | item :: rest => render item :: renderItems rest

/-- The texts of the fields of an object. -/
def renderFields : List (String × Json) → List String
  | [] => []
  | (name, value) :: rest => (quote name ++ ":" ++ render value) :: renderFields rest

end

end Json

end FrameExchange
