import FrameExchange.Json.Reading
import Mathlib.Data.List.Forall2

/-!
# Readers of JSON take back what was written

The text of a value ends where its reader stops. A string ends at the first quote that is not
escaped, an object at its brace, and a number at whatever is no digit; in what is written here a
comma, a closing brace or nothing at all comes next.

- `Reading.Takes` — a reader takes the text of a value off the front of every such text.
- `Reading.quoted_escape` — what was escaped is read as it was, whatever the characters.
- `Reading.absorb_toDigits`, `Reading.number_takes` — every number below its bound is read exactly.
- `Reading.record_takes` — a record is taken where each of its fields is, under different names.
-/

namespace FrameExchange

namespace Reading

/-! ## Characters -/

section Characters

variable {α β : Type} {c : Char} {rest : List Char}

/-- What one reader leaves is what the next one reads. -/
theorem bind_ok {x : Reading α} {f : α → Reading β} {text : List Char} {a : α}
    (h : x text = .ok (a, rest)) : (x >>= f) text = f a rest := by
  change (x text >>= fun p => f p.1 p.2) = _
  rw [h]
  rfl

theorem get_eq (text : List Char) : (get : Reading (List Char)) text = .ok (text, text) := rfl

theorem next?_eq (text : List Char) : next? text = .ok (text.head?, text) := rfl

theorem skip_cons : skip (c :: rest) = .ok ((), rest) := rfl

theorem peek_cons (hc : isBlank c = false) : peek (c :: rest) = .ok (c, c :: rest) := by
  have hdrop : (modify (·.dropWhile isBlank) : Reading Unit) (c :: rest) = .ok ((), c :: rest) := by
    change Except.ok ((), (c :: rest).dropWhile isBlank) = _
    rw [List.dropWhile_cons_of_neg (by rw [hc]; exact Bool.false_ne_true)]
  rw [peek, bind_ok hdrop]
  rfl

theorem symbol_cons (hc : isBlank c = false) : symbol c (c :: rest) = .ok ((), rest) := by
  rw [symbol, bind_ok (peek_cons hc), if_pos rfl, skip_cons]

end Characters

/-- What may follow a value: a comma, a closing brace, or nothing. -/
def Ends (rest : List Char) : Prop := ∀ c ∈ rest.head?, c = ',' ∨ c = '\x7d'

theorem Ends.nil : Ends [] := by simp [Ends]

theorem Ends.comma {rest : List Char} : Ends (',' :: rest) := by simp [Ends]

theorem Ends.brace {rest : List Char} : Ends ('\x7d' :: rest) := by simp [Ends]

/-- The reader takes the text of a value off the front of a text, and no more than that. -/
def Takes (reader : Reading Json) (j : Json) : Prop :=
  ∀ rest, Ends rest → reader (j.render.toList ++ rest) = .ok (j, rest)

/-! ## Strings -/

/-- A control character as four hexadecimal digits. -/
theorem toList_hexNumber_control {n : Nat} (h : n < 32) : (Bytes.hexNumber 4 n).toList =
    ['0', '0', (n / 16).digitChar, (n % 16).digitChar] := by
  have hall : ∀ n : Fin 32, List.replicate (4 - (Nat.toDigits 16 n.val).length) '0' ++
      Nat.toDigits 16 n.val = ['0', '0', (n.val / 16).digitChar, (n.val % 16).digitChar] := by
    decide
  rw [Bytes.hexNumber, String.toList_ofList]
  exact hall ⟨n, h⟩

theorem hexDigit?_digitChar {n : Nat} (h : n < 16) : hexDigit? n.digitChar = some n := by
  have hall : ∀ n : Fin 16, hexDigit? n.val.digitChar = some n.val := by decide
  exact hall ⟨n, h⟩

/-- The digits of a control character stand for it. -/
theorem escaped_control {c : Char} (h : c.toNat < 32) (rest : List Char) :
    ∃ hle, escaped ('u' :: ((Bytes.hexNumber 4 c.toNat).toList ++ rest)) =
      .ok (c, ⟨rest, hle⟩) := by
  have hzero : hexDigit? '0' = some 0 := by decide
  have hhigh := hexDigit?_digitChar (n := c.toNat / 16) (by omega)
  have hlow := hexDigit?_digitChar (n := c.toNat % 16) (by omega)
  have hvalue : c.toNat / 16 * 16 + c.toNat % 16 = c.toNat := Nat.div_add_mod' ..
  have hplain : ¬(0xDC00 ≤ c.toNat ∧ c.toNat ≤ 0xDFFF) := by omega
  have hsingle : c.toNat < 0xD800 ∨ 0xDBFF < c.toNat := by omega
  rw [toList_hexNumber_control h]
  simp [escaped, unicodeEscape, hexQuad, hzero, hhigh, hlow, hvalue, hplain, hsingle,
    Char.ofNat_toNat]
  omega

/-- A character stands for itself, or a backslash and what is read as the character stand for
it. -/
theorem escape_cases (c : Char) :
    (Json.escape c = [c] ∧ c ≠ '"' ∧ c ≠ '\\' ∧ ¬c.toNat < 32) ∨
    ∃ mark, Json.escape c = '\\' :: mark ∧
      ∀ rest, ∃ hle, escaped (mark ++ rest) = .ok (c, ⟨rest, hle⟩) := by
  by_cases hquote : c = '"'
  · exact .inr ⟨['"'], by simp [Json.escape, hquote], by simp [escaped, hquote]⟩
  by_cases hslash : c = '\\'
  · exact .inr ⟨['\\'], by simp [Json.escape, hslash], by simp [escaped, hslash]⟩
  -- Of the control characters five have a letter of their own; the others go by their number.
  by_cases hcontrol : c.toNat < 32
  · right
    by_cases hn : c = '\n'
    · exact ⟨['n'], by simp [Json.escape, hn], by simp [escaped, hn]⟩
    by_cases hr : c = '\r'
    · exact ⟨['r'], by simp [Json.escape, hr], by simp [escaped, hr]⟩
    by_cases ht : c = '\t'
    · exact ⟨['t'], by simp [Json.escape, ht], by simp [escaped, ht]⟩
    by_cases hb : c.toNat = 8
    · have hc : c = Char.ofNat 8 := by rw [← hb, Char.ofNat_toNat]
      exact ⟨['b'], by simp [Json.escape, hc], by simp [escaped, hc]⟩
    by_cases hf : c.toNat = 12
    · have hc : c = Char.ofNat 12 := by rw [← hf, Char.ofNat_toNat]
      exact ⟨['f'], by simp [Json.escape, hc], by simp [escaped, hc]⟩
    · refine ⟨'u' :: (Bytes.hexNumber 4 c.toNat).toList, ?_, escaped_control hcontrol⟩
      simp [Json.escape, hquote, hslash, hn, hr, ht, hb, hf, hcontrol]
  · have hne {d : Char} (hd : d.toNat < 32) : c ≠ d := fun h => hcontrol (h ▸ hd)
    refine .inl ⟨?_, hquote, hslash, hcontrol⟩
    simp [Json.escape, hquote, hslash, hcontrol, hne (d := '\n') (by decide),
      hne (d := '\r') (by decide), hne (d := '\t') (by decide), show c.toNat ≠ 8 by omega,
      show c.toNat ≠ 12 by omega]

/-- What was escaped is read as it was, up to the closing quote. -/
theorem quoted_escape (chars rest : List Char) :
    quoted (chars.flatMap Json.escape ++ '"' :: rest) = .ok (chars, rest) := by
  induction chars with
  | nil => simp [quoted]
  | cons c chars ih =>
    rw [List.flatMap_cons, List.append_assoc]
    rcases escape_cases c with ⟨hself, hquote, hslash, hcontrol⟩ | ⟨mark, hmark, hread⟩
    · rw [hself, List.singleton_append, quoted, if_neg hcontrol, ih]
      · rfl
      · exact hquote
      · exact hslash
    · obtain ⟨hle, hescaped⟩ := hread (chars.flatMap Json.escape ++ '"' :: rest)
      rw [hmark, List.cons_append, quoted, hescaped]
      simp [ih, Except.map]

theorem toList_quote (s : String) :
    (Json.quote s).toList = '"' :: (s.toList.flatMap Json.escape ++ ['"']) := by
  rw [Json.quote, String.toList_ofList, List.cons_append]

/-- A string between quotes is read as it is. -/
theorem string_quote (s : String) (rest : List Char) :
    string ((Json.quote s).toList ++ rest) = .ok (s, rest) := by
  rw [toList_quote, List.cons_append, List.append_assoc, List.singleton_append, string,
    bind_ok skip_cons, bind_ok (get_eq _)]
  simp only [quoted_escape]
  change Except.ok (String.ofList s.toList, rest) = _
  rw [String.ofList_toList]

/-- A quote opens every string. -/
theorem peek_quote (s : String) (rest : List Char) :
    peek ((Json.quote s).toList ++ rest) = .ok ('"', (Json.quote s).toList ++ rest) := by
  rw [toList_quote]
  exact peek_cons (by decide)

/-- Every string is taken. -/
theorem text_takes (s : String) : Takes text (.text s) := by
  intro rest _
  rw [Json.render, text, bind_ok (peek_quote s rest), if_pos rfl, bind_ok (string_quote s rest)]
  rfl

/-- A name out of several is taken. -/
theorem choice_takes {names : List String} {name : String} (h : name ∈ names) :
    Takes (choice names) (.text name) := by
  intro rest _
  rw [Json.render, choice, bind_ok (peek_quote name rest), if_pos rfl, oneOf,
    bind_ok (string_quote name rest), if_pos (by simpa using h)]
  rfl

/-! ## Numbers -/

/-- A number of more than one digit does not begin with a zero. -/
theorem head?_toDigits {n : Nat} (h : 0 < n) : (Nat.toDigits 10 n).head? ≠ some '0' := by
  induction n using Nat.strongRecOn with
  | ind n ih =>
    rw [Nat.toDigits_eq_if (by decide)]
    split
    · next hsmall =>
      have hall : ∀ n : Fin 10, 0 < n.val → n.val.digitChar ≠ '0' := by decide
      simpa using hall ⟨n, hsmall⟩ h
    · next hlarge =>
      rw [List.head?_append_of_ne_nil _ Nat.toDigits_ne_nil]
      exact ih (n / 10) (by omega) (by omega)

theorem digitValue_digitChar {n : Nat} (h : n < 10) : digitValue n.digitChar = n := by
  have hall : ∀ n : Fin 10, digitValue n.val.digitChar = n.val := by decide
  exact hall ⟨n, h⟩

/-- One more digit is taken where the word still holds the number. -/
theorem absorb_concat {digits : List Char} {word value : Nat} (h : absorb word digits = (value, 0))
    {c : Char} (hc : value * 10 + digitValue c < UInt64.size) :
    absorb word (digits ++ [c]) = (value * 10 + digitValue c, 0) := by
  induction digits generalizing word with
  | nil =>
    obtain ⟨rfl, -⟩ := Prod.mk.inj h
    rw [List.nil_append, absorb, if_neg (Nat.not_le.mpr hc), absorb]
  | cons d digits ih =>
    rw [absorb] at h
    split at h
    · exact absurd (Prod.mk.inj h).2 (Nat.succ_ne_zero _)
    · next hroom =>
      rw [List.cons_append, absorb, if_neg hroom]
      exact ih h

/-- The digits of a number that a word holds are all taken, and give the number. -/
theorem absorb_toDigits {n : Nat} (h : n < UInt64.size) :
    absorb 0 (Nat.toDigits 10 n) = (n, 0) := by
  induction n using Nat.strongRecOn with
  | ind n ih =>
    rw [Nat.toDigits_eq_if (by decide)]
    split
    · next hsmall =>
      have hvalue := digitValue_digitChar hsmall
      have hone : absorb 0 ([] ++ [n.digitChar]) = (0 * 10 + digitValue n.digitChar, 0) :=
        absorb_concat rfl (by omega)
      rwa [List.nil_append, hvalue, Nat.zero_mul, Nat.zero_add] at hone
    · next hlarge =>
      have hvalue := digitValue_digitChar (Nat.mod_lt n (y := 10) (by decide))
      have hfront := ih (n / 10) (by omega) (by omega)
      rw [absorb_concat hfront (by omega), hvalue]
      congr 1
      omega

theorem isBlank_of_isDigit {c : Char} (h : c.isDigit) : isBlank c = false := by
  rw [Bool.eq_false_iff]
  intro hblank
  simp only [isBlank, Bool.or_eq_true, beq_iff_eq] at hblank
  rcases hblank with ((rfl | rfl) | rfl) | rfl <;> cases h

/-- What ends a value continues no number. -/
theorem Ends.not_number {rest : List Char} (h : Ends rest) : ∀ c ∈ rest.head?,
    c.isDigit = false ∧ c ≠ '.' ∧ c ≠ 'e' ∧ c ≠ 'E' := by
  intro c hc
  rcases h c hc with rfl | rfl <;> decide

section Decimal

variable {n : Nat} {rest : List Char}

theorem isDigit_of_mem {c : Char} (h : c ∈ Nat.toDigits 10 n) : c.isDigit :=
  Nat.isDigit_of_mem_toDigits (by decide) (by decide) h

/-- A number has a first digit. -/
theorem toDigits_eq_cons (n : Nat) : ∃ d ds, Nat.toDigits 10 n = d :: ds ∧ d.isDigit := by
  cases hn : Nat.toDigits 10 n with
  | nil => exact absurd hn Nat.toDigits_ne_nil
  | cons d ds => exact ⟨d, ds, rfl, isDigit_of_mem (n := n) (by rw [hn]; exact List.mem_cons_self)⟩

theorem digits_toDigits (h : Ends rest) :
    digits (Nat.toDigits 10 n ++ rest) = .ok (Nat.toDigits 10 n, rest) := by
  have hall : ∀ c ∈ Nat.toDigits 10 n, c.isDigit = true := fun c hc => isDigit_of_mem hc
  have htake : rest.takeWhile Char.isDigit = [] := by
    cases rest with
    | nil => rfl
    | cons c rest => simp [(h.not_number c rfl).1]
  have hdrop : rest.dropWhile Char.isDigit = rest := by
    cases rest with
    | nil => rfl
    | cons c rest => simp [(h.not_number c rfl).1]
  change Except.ok ((Nat.toDigits 10 n ++ rest).takeWhile Char.isDigit,
    (Nat.toDigits 10 n ++ rest).dropWhile Char.isDigit) = _
  rw [List.takeWhile_append_of_pos hall, List.dropWhile_append_of_pos hall, htake, hdrop,
    List.append_nil]

theorem wholePart_toDigits (atEnd : JsonFault) (h : Ends rest) :
    wholePart atEnd (Nat.toDigits 10 n ++ rest) = .ok (Nat.toDigits 10 n, rest) := by
  have hdigits1 : digits1 atEnd (Nat.toDigits 10 n ++ rest) = .ok (Nat.toDigits 10 n, rest) := by
    rw [digits1, bind_ok (digits_toDigits h)]
    cases hn : Nat.toDigits 10 n with
    | nil => exact absurd hn Nat.toDigits_ne_nil
    | cons d ds => rfl
  have hlead : ¬((Nat.toDigits 10 n).head? = some '0' ∧ Nat.toDigits 10 n ≠ ['0']) := by
    rintro ⟨hzero, hmore⟩
    rcases Nat.eq_zero_or_pos n with rfl | hpos
    · exact hmore rfl
    · exact head?_toDigits hpos hzero
  rw [wholePart, bind_ok hdigits1, if_neg hlead]
  rfl

theorem fractionPart_ends (atEnd : JsonFault) (h : Ends rest) :
    fractionPart atEnd rest = .ok (none, rest) := by
  have hpoint : rest.head? ≠ some '.' := fun hc => (h.not_number '.' hc).2.1 rfl
  rw [fractionPart, bind_ok (next?_eq rest), if_neg hpoint]
  rfl

theorem exponentPart_ends (atEnd : JsonFault) (h : Ends rest) :
    exponentPart atEnd rest = .ok (none, rest) := by
  have hmark : ¬(rest.head? = some 'e' ∨ rest.head? = some 'E') := by
    rintro (hc | hc)
    · exact (h.not_number 'e' hc).2.2.1 rfl
    · exact (h.not_number 'E' hc).2.2.2 rfl
  rw [exponentPart, bind_ok (next?_eq rest), if_neg hmark]
  rfl

/-- The digits are the only part that a number has. -/
theorem scanned_toDigits (atEnd : JsonFault) (h : Ends rest) :
    scanned atEnd (Nat.toDigits 10 n ++ rest) =
      .ok (⟨false, Nat.toDigits 10 n, none, none⟩, rest) := by
  have hminus : (Nat.toDigits 10 n ++ rest).head? ≠ some '-' := by
    obtain ⟨d, ds, hdigits, hd⟩ := toDigits_eq_cons n
    rw [hdigits]
    rintro ⟨⟩
    cases hd
  rw [scanned, bind_ok (next?_eq _)]
  simp only [hminus, if_false]
  rw [bind_ok (wholePart_toDigits atEnd h), bind_ok (fractionPart_ends atEnd h),
    bind_ok (exponentPart_ends atEnd h)]
  rfl

theorem anyNumber_toDigits (hn : n < UInt64.size) (h : Ends rest) :
    anyNumber (Nat.toDigits 10 n ++ rest) = .ok (.natural n, rest) := by
  have hvalue : Scanned.value? ⟨false, Nat.toDigits 10 n, none, none⟩ = some (.natural n) := by
    rw [Scanned.value?, absorb_toDigits hn]
    rfl
  rw [anyNumber, bind_ok (scanned_toDigits _ h), hvalue]
  rfl

end Decimal

/-- Every number below a bound of at most 64 bits is taken. -/
theorem number_takes {bound n : Nat} (hbound : bound ≤ UInt64.size) (hn : n < bound) :
    Takes (number bound) (.number n) := by
  intro rest h
  obtain ⟨d, ds, hdigits, hd⟩ := toDigits_eq_cons n
  have hpeek : peek (Nat.toDigits 10 n ++ rest) = .ok (d, Nat.toDigits 10 n ++ rest) := by
    rw [hdigits]
    exact peek_cons (isBlank_of_isDigit hd)
  have hrender : (Json.number n).render.toList = Nat.toDigits 10 n := Nat.toList_repr
  rw [hrender, number, bind_ok hpeek, if_pos (.inr hd),
    bind_ok (anyNumber_toDigits (Nat.lt_of_lt_of_le hn hbound) h)]
  simp only [hn, if_true]
  rfl

/-! ## Records -/

/-- A name that stands once in a list is found there. -/
theorem lookup_of_mem {α : Type} {fields : List (String × α)} (hnodup : (fields.map (·.1)).Nodup)
    {field : String × α} (h : field ∈ fields) : fields.lookup field.1 = some field.2 := by
  induction fields with
  | nil => cases h
  | cons first fields ih =>
    obtain ⟨hfirst, hnodup⟩ := List.nodup_cons.mp hnodup
    rcases List.mem_cons.mp h with rfl | hmem
    · rw [List.lookup_cons, beq_self_eq_true]
    · have hne : field.1 ≠ first.1 := fun heq =>
        hfirst (List.mem_map.mpr ⟨field, hmem, heq⟩)
      rw [List.lookup_cons, beq_eq_false_iff_ne.mpr hne]
      exact ih hnodup hmem

/-- What stands before a field: nothing before the first, a comma before the others. -/
def lead (first : Bool) : List Char := if first then [] else [',']

/-- The characters of a field of an object. -/
def fieldText (field : String × Json) : List Char :=
  (Json.quote field.1).toList ++ ':' :: field.2.render.toList

/-- The characters of the fields of an object. -/
def fieldTexts : Bool → List (String × Json) → List Char
  | _, [] => []
  | first, field :: fields => lead first ++ fieldText field ++ fieldTexts false fields

theorem toList_renderFields (fields : List (String × Json)) :
    (Json.renderFields fields).map String.toList = fields.map fieldText := by
  induction fields with
  | nil => rw [Json.renderFields, List.map_nil, List.map_nil]
  | cons field fields ih =>
    rw [Json.renderFields, List.map_cons, List.map_cons, ih]
    simp [fieldText]

theorem intercalate_fieldText (fields : List (String × Json)) :
    List.intercalate [','] (fields.map fieldText) = fieldTexts true fields := by
  induction fields with
  | nil => rfl
  | cons field fields ih =>
    cases fields with
    | nil => simp [fieldTexts, lead]
    | cons next fields =>
      rw [List.map_cons] at ih
      rw [List.map_cons, List.map_cons, List.intercalate_cons_cons, ih]
      simp [fieldTexts, lead]

theorem toList_render_object (fields : List (String × Json)) :
    (Json.object fields).render.toList = '\x7b' :: (fieldTexts true fields ++ ['\x7d']) := by
  have hcommas : (Json.commas (Json.renderFields fields)).toList = fieldTexts true fields := by
    rw [Json.commas, String.toList_intercalate, toList_renderFields]
    exact intercalate_fieldText fields
  rw [Json.render, String.toList_append, String.toList_append, hcommas]
  rfl

/-- Every field takes a character at least. -/
theorem length_le_fieldTexts (first : Bool) (fields : List (String × Json)) :
    fields.length ≤ (fieldTexts first fields).length := by
  induction fields generalizing first with
  | nil => exact Nat.le_refl 0
  | cons field fields ih =>
    have hrest := ih false
    simp only [fieldTexts, fieldText, List.length_append, List.length_cons]
    omega

theorem ends_fieldTexts (fields : List (String × Json)) (rest : List Char) :
    Ends (fieldTexts false fields ++ '\x7d' :: rest) := by
  cases fields with
  | nil => exact Ends.brace
  | cons field fields => exact Ends.comma

section Members

variable {shape : RecordShape} {found : List (String × Json)} {fuel : Nat} {rest : List Char}

theorem nameFollows_quote (first : Bool) (name : String) :
    nameFollows first (lead first ++ (Json.quote name).toList ++ rest) =
      .ok (true, (Json.quote name).toList ++ rest) := by
  have hquote := peek_quote name rest
  cases first with
  | true =>
    rw [lead, if_pos rfl, List.nil_append, nameFollows, bind_ok hquote]
    rfl
  | false =>
    rw [lead, if_neg Bool.false_ne_true, List.append_assoc, List.singleton_append, nameFollows,
      bind_ok (peek_cons (by decide)), if_neg (by decide), if_pos ⟨rfl, rfl⟩,
      bind_ok skip_cons, bind_ok hquote, if_pos rfl]
    rfl

theorem nameFollows_brace (first : Bool) :
    nameFollows first ('\x7d' :: rest) = .ok (false, '\x7d' :: rest) := by
  rw [nameFollows, bind_ok (peek_cons (by decide)), if_pos rfl]
  rfl

/-- A field of the shape that was not there yet is taken. -/
theorem members_field (first : Bool) {field : String × Json} {reader : Reading Json}
    (hlookup : shape.fields.lookup field.1 = some reader) (hnew : found.lookup field.1 = none)
    (htakes : Takes reader field.2) (hends : Ends rest) :
    members shape (fuel + 1) first found (lead first ++ fieldText field ++ rest) =
      members shape fuel false (found ++ [field]) rest := by
  rw [members, fieldText, ← List.append_assoc, List.append_assoc, List.cons_append,
    bind_ok (nameFollows_quote first field.1)]
  simp only [if_true]
  rw [bind_ok (string_quote _ _)]
  simp only [hlookup, hnew, Option.isSome_none]
  rw [if_neg Bool.false_ne_true, bind_ok (symbol_cons (by decide)), bind_ok (htakes rest hends)]

/-- The brace ends the fields. -/
theorem members_brace (first : Bool) :
    members shape (fuel + 1) first found ('\x7d' :: rest) = .ok (found, '\x7d' :: rest) := by
  rw [members, bind_ok (nameFollows_brace first)]
  rfl

/-- Fields are written as they are to be read: in the same order, under the same names, with
values that the readers take. -/
def Written (readers : List (String × Reading Json)) (fields : List (String × Json)) : Prop :=
  List.Forall₂ (fun reader field => reader.1 = field.1 ∧ Takes reader.2 field.2) readers fields

namespace Written

variable {readers : List (String × Reading Json)} {fields : List (String × Json)}

theorem names_eq (h : Written readers fields) : readers.map (·.1) = fields.map (·.1) := by
  induction h with
  | nil => rfl
  | cons hfield _ ih => rw [List.map_cons, List.map_cons, hfield.1, ih]

/-- The values that were found under the names of the readers. -/
theorem mapM_lookup (h : Written readers fields)
    (hfound : ∀ field ∈ fields, found.lookup field.1 = some field.2) :
    (readers.mapM fun reader => found.lookup reader.1) = some (fields.map (·.2)) := by
  induction h with
  | nil => rfl
  | cons hfield _ ih =>
    rw [List.mapM_cons, hfield.1, hfound _ List.mem_cons_self,
      ih fun field hmem => hfound field (List.mem_cons_of_mem _ hmem)]
    rfl

end Written

/-- All fields are taken, whatever was found before. -/
theorem members_written {readers : List (String × Reading Json)} {fields : List (String × Json)}
    (h : Written readers fields)
    (hlookup : ∀ reader ∈ readers, shape.fields.lookup reader.1 = some reader.2)
    (hnew : ((found ++ fields).map (·.1)).Nodup) (hfuel : fields.length < fuel) (first : Bool) :
    members shape fuel first found (fieldTexts first fields ++ '\x7d' :: rest) =
      .ok (found ++ fields, '\x7d' :: rest) := by
  -- What was found grows by a field at a time, and its names stay different from those to come:
  -- a name that came twice would be refused.
  induction h generalizing found fuel first with
  | nil =>
    obtain ⟨fuel, rfl⟩ := Nat.exists_eq_add_one_of_ne_zero (Nat.ne_of_gt hfuel)
    rw [fieldTexts, List.nil_append, members_brace, List.append_nil]
  | @cons reader field readers fields hfield hrest ih =>
    obtain ⟨fuel, rfl⟩ := Nat.exists_eq_add_one_of_ne_zero (Nat.ne_of_gt (Nat.zero_lt_of_lt hfuel))
    have hreader : shape.fields.lookup field.1 = some reader.2 := by
      rw [← hfield.1]
      exact hlookup reader List.mem_cons_self
    have hunknown : found.lookup field.1 = none := by
      rw [List.map_append, List.nodup_append] at hnew
      refine List.lookup_eq_none_iff.mpr fun known hknown => bne_iff_ne.mpr ?_
      exact (hnew.2.2 _ (List.mem_map_of_mem hknown) _ List.mem_cons_self).symm
    rw [fieldTexts, List.append_assoc,
      members_field first hreader hunknown hfield.2 (ends_fieldTexts fields rest),
      ih (fun r hr => hlookup r (List.mem_cons_of_mem _ hr)) (by simpa using hnew)
        (Nat.lt_of_succ_lt_succ hfuel), List.append_assoc, List.singleton_append]

end Members

/-- A record is taken where its fields are written as they are to be read. -/
theorem record_takes {shape : RecordShape} {fields : List (String × Json)}
    (hnodup : (shape.fields.map (·.1)).Nodup) (hwritten : Written shape.fields fields)
    (haccepts : shape.accepts (fields.map (·.2)) = true) :
    Takes (record shape) (.object fields) := by
  intro rest hends
  have hnames := hwritten.names_eq
  have hnodup' : (fields.map (·.1)).Nodup := hnames ▸ hnodup
  let body := fieldTexts true fields ++ '\x7d' :: rest
  have hfuel : fields.length < body.length + 1 := by
    have hlength := length_le_fieldTexts true fields
    rw [List.length_append]
    omega
  have hfound : members shape (body.length + 1) true [] body = .ok (fields, '\x7d' :: rest) :=
    members_written hwritten (fun reader hmem => lookup_of_mem hnodup hmem) (by exact hnodup')
      hfuel true
  have hvalues : (shape.fields.mapM fun field => fields.lookup field.1) =
      some (fields.map (·.2)) :=
    hwritten.mapM_lookup fun field hmem => lookup_of_mem hnodup' hmem
  have haccepted : accepted shape (fields.map (·.2)) ('\x7d' :: rest) =
      .ok (.object fields, '\x7d' :: rest) := by
    rw [accepted, if_pos haccepts, hnames, ← List.zip_of_prod rfl rfl]
    rfl
  rw [toList_render_object, List.cons_append, List.append_assoc, List.singleton_append, record,
    bind_ok (peek_cons (by decide)), if_neg (by decide), if_pos rfl, bind_ok skip_cons,
    bind_ok (get_eq _), bind_ok hfound]
  simp only [hvalues]
  rw [bind_ok haccepted, bind_ok (symbol_cons (by decide))]
  rfl

theorem openRecord_takes {readers : List (String × Reading Json)} {fields : List (String × Json)}
    (hnodup : (readers.map (·.1)).Nodup) (hwritten : Written readers fields) :
    Takes (openRecord readers) (.object fields) :=
  record_takes hnodup hwritten rfl

end Reading

end FrameExchange
