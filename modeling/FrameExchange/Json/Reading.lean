import FrameExchange.Json.Number
import FrameExchange.Json.Value

/-!
# Reading JSON text

Readers take what they need off the front of a text, and stop at the first thing that is wrong:
text that is no JSON, text that ends too early, or JSON that does not fit what is read.

- `Reading.number`, `Reading.text`, `Reading.choice` — numbers, strings, and one name of several.
- `Reading.tuple` — a list of a fixed length.
- `Reading.record` — named fields, either as an object with the fields in any order or as a list
  of their values.
- `Reading.all` — a whole text.
-/

namespace FrameExchange

/-- What is wrong with a text. -/
inductive JsonFault where
  /-- The text is JSON so far, but does not fit what is read. -/
  | data
  /-- The text is not JSON. -/
  | malformed
  /-- The text ends too early. -/
  | truncated
  deriving DecidableEq, Repr

/-- A reader of a text. -/
abbrev Reading := StateT (List Char) (Except JsonFault)

namespace Reading

/-! ## Characters -/

/-- The characters that may stand between any two parts of a text. -/
def isBlank (c : Char) : Bool := c == ' ' || c == '\n' || c == '\t' || c == '\r'

/-- The next character, if there is one, left in place. -/
def next? : Reading (Option Char) := return (← get).head?

/-- The next character that is not blank, left in place. -/
def peek : Reading Char := do
  modify (·.dropWhile isBlank)
  match (← get).head? with
  | some c => return c
  | none => throw .truncated

/-- Drop one character. -/
def skip : Reading Unit := modify (·.drop 1)

/-- One character that is not blank, and must be `expected`. -/
def symbol (expected : Char) : Reading Unit := do
  if (← peek) = expected then skip else throw .malformed

/-- The rest of a word whose first character told which word it is. -/
def word : List Char → Reading Unit
  | [] => return ()
  | expected :: rest => do
    match ← next? with
    | none => throw .truncated
    | some c =>
      if c = expected then
        skip
        word rest
      else throw .malformed

/-- The digits at the front of the text. -/
def digits : Reading (List Char) := do
  let text ← get
  set (text.dropWhile Char.isDigit)
  return text.takeWhile Char.isDigit

/-- Digits, of which there must be one at least. `atEnd` is the fault where the text ends
instead. -/
def digits1 (atEnd : JsonFault) : Reading (List Char) := do
  match ← digits with
  | [] => throw (if (← next?).isNone then atEnd else .malformed)
  | found => return found

/-! ## Numbers -/

/-- The part of a number before a point: a zero, or digits that do not begin with one. -/
def wholePart (atEnd : JsonFault) : Reading (List Char) := do
  let found ← digits1 atEnd
  if found.head? = some '0' ∧ found ≠ ['0'] then throw .malformed
  return found

/-- The part of a number after a point, where there is a point. -/
def fractionPart (atEnd : JsonFault) : Reading (Option (List Char)) := do
  if (← next?) = some '.' then
    skip
    return some (← digits1 atEnd)
  else return none

/-- The exponent of a number, where it has one. -/
def exponentPart (atEnd : JsonFault) : Reading (Option (Bool × List Char)) := do
  let mark ← next?
  if mark = some 'e' ∨ mark = some 'E' then
    skip
    let sign ← next?
    if sign = some '+' ∨ sign = some '-' then skip
    return some (sign = some '-', ← digits1 atEnd)
  else return none

/-- The parts of a number. -/
def scanned (atEnd : JsonFault) : Reading Scanned := do
  let isNegative := (← next?) = some '-'
  if isNegative then skip
  let whole ← wholePart atEnd
  let fraction ← fractionPart atEnd
  let exponent ← exponentPart atEnd
  return ⟨isNegative, whole, fraction, exponent⟩

/-- A number. One that is too large is not JSON. -/
def anyNumber : Reading JsonNumber := do
  match (← scanned .truncated).value? with
  | some value => return value
  | none => throw .malformed

/-! ## Strings -/

/-- The value of a hexadecimal digit. -/
def hexDigit? (c : Char) : Option Nat :=
  if c.isDigit then some (c.toNat - 48)
  else if 'a' ≤ c ∧ c ≤ 'f' then some (c.toNat - 87)
  else if 'A' ≤ c ∧ c ≤ 'F' then some (c.toNat - 55)
  else none

/-- A number of four hexadecimal digits at the front of a text. A text of fewer than four bytes
has ended too early. -/
def hexQuad (text : List Char) :
    Except JsonFault (Nat × { rest : List Char // rest.length ≤ text.length }) :=
  match text with
  | a :: b :: c :: d :: rest =>
    match hexDigit? a, hexDigit? b, hexDigit? c, hexDigit? d with
    | some a, some b, some c, some d =>
      .ok (((a * 16 + b) * 16 + c) * 16 + d, ⟨rest, by simp; omega⟩)
    | _, _, _, _ => .error .malformed
  | short => .error (if (String.ofList short).utf8ByteSize < 4 then .truncated else .malformed)

/-- The character for a number that begins a pair of surrogates, whose other half must follow. -/
def surrogatePair (high : Nat) (text : List Char) :
    Except JsonFault (Char × { rest : List Char // rest.length ≤ text.length }) :=
  match text with
  | [] => .error .truncated
  | '\\' :: [] => .error .truncated
  | '\\' :: 'u' :: rest =>
    match hexQuad rest with
    | .error fault => .error fault
    | .ok (low, ⟨after, h⟩) =>
      if low < 0xDC00 ∨ 0xDFFF < low then .error .malformed
      else
        .ok (Char.ofNat (0x10000 + (high - 0xD800) * 0x400 + (low - 0xDC00)),
          ⟨after, by simp; omega⟩)
  | _ => .error .malformed

/-- The character that a number of four hexadecimal digits stands for. -/
def unicodeEscape (text : List Char) :
    Except JsonFault (Char × { rest : List Char // rest.length ≤ text.length }) :=
  match hexQuad text with
  | .error fault => .error fault
  | .ok (n, ⟨rest, h⟩) =>
    if 0xDC00 ≤ n ∧ n ≤ 0xDFFF then .error .malformed
    else if n < 0xD800 ∨ 0xDBFF < n then .ok (Char.ofNat n, ⟨rest, h⟩)
    else
      match surrogatePair n rest with
      | .error fault => .error fault
      | .ok (c, ⟨after, h'⟩) => .ok (c, ⟨after, Nat.le_trans h' h⟩)

/-- The character that an escape after a backslash stands for. -/
def escaped (text : List Char) :
    Except JsonFault (Char × { rest : List Char // rest.length ≤ text.length }) :=
  match text with
  | [] => .error .truncated
  | 'u' :: rest =>
    match unicodeEscape rest with
    | .error fault => .error fault
    | .ok (c, ⟨after, h⟩) => .ok (c, ⟨after, by simp; omega⟩)
  | c :: rest =>
    let plain (c : Char) : Except JsonFault (Char × { r : List Char // r.length ≤ _ }) :=
      .ok (c, ⟨rest, by simp⟩)
    if c = '"' ∨ c = '\\' ∨ c = '/' then plain c
    else if c = 'b' then plain (Char.ofNat 8)
    else if c = 'f' then plain (Char.ofNat 12)
    else if c = 'n' then plain '\n'
    else if c = 'r' then plain '\r'
    else if c = 't' then plain '\t'
    else .error .malformed

/-- The characters up to the closing quote, and the text after it. -/
def quoted (text : List Char) : Except JsonFault (List Char × List Char) :=
  match text with
  | [] => .error .truncated
  | '"' :: rest => .ok ([], rest)
  | '\\' :: rest =>
    match escaped rest with
    | .error fault => .error fault
    | .ok (c, ⟨after, _⟩) => (quoted after).map fun (chars, rest) => (c :: chars, rest)
  | c :: rest =>
    if c.toNat < 32 then .error .malformed
    else (quoted rest).map fun (chars, rest) => (c :: chars, rest)
termination_by text.length
decreasing_by all_goals simp only [List.length_cons]; omega

/-- The text after the closing quote of a string that nobody looks at. Halves of surrogate pairs
may stand alone in it. -/
def quotedIgnored (text : List Char) : Except JsonFault (List Char) :=
  match text with
  | [] => .error .truncated
  | '"' :: rest => .ok rest
  | '\\' :: [] => .error .truncated
  | '\\' :: 'u' :: rest =>
    match hexQuad rest with
    | .error fault => .error fault
    | .ok (_, ⟨after, _⟩) => quotedIgnored after
  | '\\' :: c :: rest =>
    if ['"', '\\', '/', 'b', 'f', 'n', 'r', 't'].contains c then quotedIgnored rest
    else .error .malformed
  | c :: rest => if c.toNat < 32 then .error .malformed else quotedIgnored rest
termination_by text.length
decreasing_by all_goals simp only [List.length_cons]; omega

/-- A string whose opening quote is the next character. -/
def string : Reading String := do
  skip
  match quoted (← get) with
  | .error fault => throw fault
  | .ok (chars, rest) =>
    set rest
    return String.ofList chars

/-- A string that nobody looks at, whose opening quote is the next character. -/
def stringIgnored : Reading Unit := do
  skip
  match quotedIgnored (← get) with
  | .error fault => throw fault
  | .ok rest => set rest

/-! ## Values that do not fit -/

/-- The fault of a value of the wrong type. A value that is not JSON itself is so reported; of
lists and objects only the bracket is looked at. -/
def misfit {α : Type} : Reading α := do
  let c ← peek
  if c = 'n' then
    skip
    word ['u', 'l', 'l']
  else if c = 't' then
    skip
    word ['r', 'u', 'e']
  else if c = 'f' then
    skip
    word ['a', 'l', 's', 'e']
  else if c = '-' ∨ c.isDigit then
    let _ ← anyNumber
  else if c = '"' then
    let _ ← string
  else if c ≠ '[' ∧ c ≠ '\x7b' then throw .malformed
  throw .data

/-- What encloses a value that nobody looks at. -/
inductive Enclosure where
  | list
  | object
  deriving DecidableEq, Repr

/-- The closing bracket. -/
def Enclosure.close : Enclosure → Char
  | list => ']'
  | object => '\x7d'

/-- The name and the colon before a value of an object. -/
def nameIgnored : Enclosure → Reading Unit
  | .list => return ()
  | .object => do
    if (← peek) = '"' then stringIgnored else throw .malformed
    symbol ':'

/-- Skip a value that nobody looks at, and all that is left of what encloses it. Every step drops
a character, so that `fuel` characters are enough. -/
def skipValue : Nat → List Enclosure → Reading Unit
  | 0, _ => throw .truncated
  | fuel + 1, open_ => do
    let c ← peek
    if c = '[' ∨ c = '\x7b' then
      let enclosure := if c = '[' then Enclosure.list else .object
      skip
      if (← peek) = enclosure.close then
        skip
        closeValue fuel open_
      else
        nameIgnored enclosure
        skipValue fuel (enclosure :: open_)
    else
      if c = 'n' then
        skip
        word ['u', 'l', 'l']
      else if c = 't' then
        skip
        word ['r', 'u', 'e']
      else if c = 'f' then
        skip
        word ['a', 'l', 's', 'e']
      else if c = '-' ∨ c.isDigit then
        let _ ← scanned .malformed
      else if c = '"' then stringIgnored
      else throw .malformed
      closeValue fuel open_
where
  /-- What may follow a value that is skipped. -/
  closeValue : Nat → List Enclosure → Reading Unit
    | _, [] => return ()
    | 0, _ => throw .truncated
    | fuel + 1, enclosure :: outer => do
      let c ← peek
      if c = ',' then
        skip
        nameIgnored enclosure
        skipValue fuel (enclosure :: outer)
      else if c = enclosure.close then
        skip
        closeValue fuel outer
      else throw .malformed

/-- Skip a value that nobody looks at. -/
def ignored : Reading Unit := do skipValue ((← get).length + 1) []

/-! ## Values -/

/-- A number below `bound`. -/
def number (bound : Nat) : Reading Json := do
  let c ← peek
  if c = '-' ∨ c.isDigit then
    match ← anyNumber with
    | .natural value => if value < bound then return .number value else throw .data
    | _ => throw .data
  else misfit

/-- A number of 32 bits. -/
def single : Reading Json := do
  let c ← peek
  if c = '-' ∨ c.isDigit then return .single (← anyNumber).toSingle else misfit

/-- A string. -/
def text : Reading Json := do
  if (← peek) = '"' then return .text (← string) else misfit

/-- A string that is one of these. -/
def oneOf (names : List String) : Reading Json := do
  let name ← string
  if names.contains name then return .text name else throw .data

/-- A null. -/
def null : Reading Unit := do
  if (← peek) = 'n' then
    skip
    word ['u', 'l', 'l']
  else misfit

/-- One of several names, alone or as the name of a null. -/
def choice (names : List String) : Reading Json := do
  let c ← peek
  if c = '"' then oneOf names
  else if c = '\x7b' then
    skip
    let name ← if (← peek) = '"' then oneOf names else throw .malformed
    symbol ':'
    null
    symbol '\x7d'
    return name
  else throw .malformed

/-! ## Lists -/

/-- Whether a list goes on. After a comma it must. -/
def goesOn (first : Bool) : Reading Bool := do
  let c ← peek
  if c = ']' then return false
  else if c = ',' ∧ !first then
    skip
    if (← peek) = ']' then throw .malformed else return true
  else if first then return true
  else throw .malformed

/-- The values of a list, one for each reader; too few do not fit. -/
def elements : Bool → List (Reading Json) → Reading (List Json)
  | _, [] => return []
  | first, reader :: rest => do
    if ← goesOn first then
      let value ← reader
      return value :: (← elements false rest)
    else throw .data

/-- A list of `length` values. -/
def tuple (length : Nat) (item : Reading Json) : Reading Json := do
  if (← peek) = '[' then
    skip
    let values ← elements true (List.replicate length item)
    symbol ']'
    return .array values
  else misfit

/-! ## Records -/

/-- What is read as a record. -/
structure RecordShape where
  fields : List (String × Reading Json)
  /-- Whether other fields are refused; else they are skipped. -/
  strict : Bool
  /-- What the values must satisfy together. -/
  accepts : List Json → Bool

/-- Whether an object goes on. After a comma it must, and a name comes next. -/
def nameFollows (first : Bool) : Reading Bool := do
  let c ← peek
  if c = '\x7d' then return false
  else if c = ',' ∧ !first then
    skip
    if (← peek) = '"' then return true else throw .malformed
  else if c = '"' ∧ first then return true
  else throw .malformed

/-- The fields of an object that are found in the shape. Every field takes a character, so that
`fuel` characters are enough. -/
def members (shape : RecordShape) :
    Nat → Bool → List (String × Json) → Reading (List (String × Json))
  | 0, _, _ => throw .truncated
  | fuel + 1, first, found => do
    if ← nameFollows first then
      let name ← string
      match shape.fields.lookup name with
      | some reader =>
        if (found.lookup name).isSome then throw .data
        symbol ':'
        let value ← reader
        members shape fuel false (found ++ [(name, value)])
      | none =>
        if shape.strict then throw .data
        symbol ':'
        ignored
        members shape fuel false found
    else return found

/-- The values of a record, where they are as they must be. -/
def accepted (shape : RecordShape) (values : List Json) : Reading Json :=
  if shape.accepts values then return .object ((shape.fields.map (·.1)).zip values)
  else throw .data

/-- A record: an object, or a list of the values alone. The result has the fields in the order
of the shape. -/
def record (shape : RecordShape) : Reading Json := do
  let c ← peek
  if c = '[' then
    skip
    let value ← accepted shape (← elements true (shape.fields.map (·.2)))
    symbol ']'
    return value
  else if c = '\x7b' then
    skip
    let found ← members shape ((← get).length + 1) true []
    match shape.fields.mapM fun field => found.lookup field.1 with
    | none => throw .data
    | some values =>
      let value ← accepted shape values
      symbol '\x7d'
      return value
  else misfit

/-- A record of these fields, in which other fields are skipped. -/
def openRecord (fields : List (String × Reading Json)) : Reading Json :=
  record ⟨fields, false, fun _ => true⟩

/-! ## Whole texts -/

/-- What a reader reads from a whole text, at the end of which only blanks may be left. -/
def all (reader : Reading Json) (s : String) : Except JsonFault Json :=
  match reader s.toList with
  | .error fault => .error fault
  | .ok (value, rest) => if (rest.dropWhile isBlank).isEmpty then .ok value else .error .malformed

end Reading

end FrameExchange
