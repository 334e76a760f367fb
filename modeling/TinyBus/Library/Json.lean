import TinyBus.Library.Decimal

/-!
JSON texts: trees of values, the compact text that a tree is written as, and a reader
that takes any JSON text up to a depth of containers.  Numbers stay tokens, and the
fields of an object keep their order and their duplicates, so that reading a text decides
nothing about what it means.
-/

inductive Json where
  | null
  | bool (value : Bool)
  | number (token : List Char)
  | string (text : List Char)
  | array (items : List Json)
  | object (fields : List (List Char × Json))

namespace Json

/-! ### Writing -/

def escapeChar (c : Char) : List Char :=
  if c = '"' then ['\\', '"']
  else if c = '\\' then ['\\', '\\']
  else if c.toNat = 8 then ['\\', 'b']
  else if c.toNat = 12 then ['\\', 'f']
  else if c = '\n' then ['\\', 'n']
  else if c = '\r' then ['\\', 'r']
  else if c = '\t' then ['\\', 't']
  else if c.toNat < 32 then
    ['\\', 'u', '0', '0', Nat.digitChar (c.toNat / 16), Nat.digitChar (c.toNat % 16)]
  else [c]

def writeString (text : List Char) : List Char :=
  '"' :: (text.flatMap escapeChar ++ ['"'])

mutual

def write : Json → List Char
  | .null => ['n', 'u', 'l', 'l']
  | .bool true => ['t', 'r', 'u', 'e']
  | .bool false => ['f', 'a', 'l', 's', 'e']
  | .number token => token
  | .string text => writeString text
  | .array [] => ['[', ']']
  | .array (item :: rest) => '[' :: (write item ++ writeItems rest)
  | .object [] => ['{', '}']
  | .object ((key, value) :: rest) =>
      '{' :: (writeString key ++ ':' :: (write value ++ writeFields rest))

/-- The items after the first one, to the end of their array. -/
def writeItems : List Json → List Char
  | [] => [']']
  | item :: rest => ',' :: (write item ++ writeItems rest)

def writeFields : List (List Char × Json) → List Char
  | [] => ['}']
  | (key, value) :: rest =>
      ',' :: (writeString key ++ ':' :: (write value ++ writeFields rest))

end

/-! ### Reading -/

def isSpace (c : Char) : Bool := c == ' ' || c == '\n' || c == '\t' || c == '\r'

def skipSpace (chars : List Char) : List Char := chars.dropWhile isSpace

/-- What follows a word that is expected. -/
def expect : List Char → List Char → Option (List Char)
  | [], chars => some chars
  | _ :: _, [] => none
  | c :: word, d :: chars => if c = d then expect word chars else none

def hexValue (c : Char) : Option Nat :=
  if c.isDigit then some (c.toNat - '0'.toNat)
  else if 'a' ≤ c ∧ c ≤ 'f' then some (c.toNat - 'a'.toNat + 10)
  else if 'A' ≤ c ∧ c ≤ 'F' then some (c.toNat - 'A'.toNat + 10)
  else none

def hexUnit (a b c d : Char) : Option Nat := do
  let a ← hexValue a
  let b ← hexValue b
  let c ← hexValue c
  let d ← hexValue d
  return ((a * 16 + b) * 16 + c) * 16 + d

def unescape (c : Char) : Option Char :=
  if c = '"' then some '"'
  else if c = '\\' then some '\\'
  else if c = '/' then some '/'
  else if c = 'b' then some (Char.ofNat 8)
  else if c = 'f' then some (Char.ofNat 12)
  else if c = 'n' then some '\n'
  else if c = 'r' then some '\r'
  else if c = 't' then some '\t'
  else none

def isHighSurrogate (unit : Nat) : Bool := decide (0xD800 ≤ unit) && decide (unit < 0xDC00)

def isLowSurrogate (unit : Nat) : Bool := decide (0xDC00 ≤ unit) && decide (unit < 0xE000)

/-- The character of a unit, or of a pair of surrogates; no surrogate stands alone. -/
def unitChar (unit : Nat) : List Char → Option (Char × List Char)
  | '\\' :: 'u' :: a :: b :: c :: d :: rest =>
      if isHighSurrogate unit then
        match hexUnit a b c d with
        | none => none
        | some low =>
            if isLowSurrogate low then
              some (Char.ofNat (0x10000 + (unit - 0xD800) * 0x400 + (low - 0xDC00)), rest)
            else none
      else if isLowSurrogate unit then none
      else some (Char.ofNat unit, '\\' :: 'u' :: a :: b :: c :: d :: rest)
  | rest =>
      if isHighSurrogate unit || isLowSurrogate unit then none else some (Char.ofNat unit, rest)

def readUnit : List Char → Option (Nat × List Char)
  | a :: b :: c :: d :: rest => (hexUnit a b c d).map (fun unit => (unit, rest))
  | _ => none

/-- An escape behind its backslash. -/
def readEscape : List Char → Option (Char × List Char)
  | [] => none
  | e :: rest =>
      if e = 'u' then do
        let (unit, rest) ← readUnit rest
        unitChar unit rest
      else (unescape e).map (fun char => (char, rest))

/-- The rest of a string behind its opening quote. -/
def readString : Nat → List Char → Option (List Char × List Char)
  | 0, _ => none
  | _ + 1, [] => none
  | fuel + 1, c :: rest =>
      if c = '"' then some ([], rest)
      else if c = '\\' then do
        let (char, rest) ← readEscape rest
        let (text, rest) ← readString fuel rest
        return (char :: text, rest)
      else if c.toNat < 32 then none
      else do
        let (text, rest) ← readString fuel rest
        return (c :: text, rest)

def readFraction : List Char → Option (List Char × List Char)
  | [] => some ([], [])
  | c :: rest =>
      if c = '.' then
        if rest.takeWhile Char.isDigit = [] then none
        else some (c :: rest.takeWhile Char.isDigit, rest.dropWhile Char.isDigit)
      else some ([], c :: rest)

def readExponent : List Char → Option (List Char × List Char)
  | [] => some ([], [])
  | c :: rest =>
      if c = 'e' ∨ c = 'E' then
        let sign := rest.takeWhile (fun s => s == '+' || s == '-')
        let digits := (rest.drop sign.length).takeWhile Char.isDigit
        if 1 < sign.length ∨ digits = [] then none
        else some (c :: (sign ++ digits), rest.drop (sign.length + digits.length))
      else some ([], c :: rest)

def readSign : List Char → List Char × List Char
  | [] => ([], [])
  | c :: rest => if c = '-' then ([c], rest) else ([], c :: rest)

def readNumber (chars : List Char) : Option (List Char × List Char) :=
  let (sign, unsigned) := readSign chars
  let whole := unsigned.takeWhile Char.isDigit
  if Decimal.Canonical whole then do
    let (fraction, rest) ← readFraction (unsigned.dropWhile Char.isDigit)
    let (exponent, rest) ← readExponent rest
    return (sign ++ whole ++ fraction ++ exponent, rest)
  else none

/-- The name of a field, to its colon. -/
def readKey (chars : List Char) : Option (List Char × List Char) :=
  match skipSpace chars with
  | [] => none
  | c :: rest =>
      if c = '"' then do
        let (key, rest) ← readString (rest.length + 1) rest
        let rest ← expect [':'] (skipSpace rest)
        return (key, rest)
      else none

mutual

/-- A value, with so many containers inside one another at most. -/
def readValue : Nat → Nat → List Char → Option (Json × List Char)
  | 0, _, _ => none
  | fuel + 1, depth, chars =>
      match skipSpace chars with
      | [] => none
      | c :: rest =>
          if c = 'n' then (expect ['u', 'l', 'l'] rest).map (fun rest => (.null, rest))
          else if c = 't' then
            (expect ['r', 'u', 'e'] rest).map (fun rest => (.bool true, rest))
          else if c = 'f' then
            (expect ['a', 'l', 's', 'e'] rest).map (fun rest => (.bool false, rest))
          else if c = '"' then
            (readString (rest.length + 1) rest).map (fun read => (.string read.1, read.2))
          else if c = '[' then
            match depth with
            | 0 => none
            | depth + 1 =>
                if (skipSpace rest).head? = some ']' then
                  some (.array [], (skipSpace rest).tail)
                else do
                  let (item, rest) ← readValue fuel depth rest
                  let (items, rest) ← readItems fuel depth rest
                  return (.array (item :: items), rest)
          else if c = '{' then
            match depth with
            | 0 => none
            | depth + 1 =>
                if (skipSpace rest).head? = some '}' then
                  some (.object [], (skipSpace rest).tail)
                else do
                  let (key, rest) ← readKey rest
                  let (value, rest) ← readValue fuel depth rest
                  let (fields, rest) ← readFields fuel depth rest
                  return (.object ((key, value) :: fields), rest)
          else (readNumber (c :: rest)).map (fun read => (.number read.1, read.2))

def readItems : Nat → Nat → List Char → Option (List Json × List Char)
  | 0, _, _ => none
  | fuel + 1, depth, chars =>
      match skipSpace chars with
      | [] => none
      | c :: rest =>
          if c = ']' then some ([], rest)
          else if c = ',' then do
            let (item, rest) ← readValue fuel depth rest
            let (items, rest) ← readItems fuel depth rest
            return (item :: items, rest)
          else none

def readFields : Nat → Nat → List Char → Option (List (List Char × Json) × List Char)
  | 0, _, _ => none
  | fuel + 1, depth, chars =>
      match skipSpace chars with
      | [] => none
      | c :: rest =>
          if c = '}' then some ([], rest)
          else if c = ',' then do
            let (key, rest) ← readKey rest
            let (value, rest) ← readValue fuel depth rest
            let (fields, rest) ← readFields fuel depth rest
            return ((key, value) :: fields, rest)
          else none

end

/-- A text is one value, and space around it. -/
def read (depth : Nat) (chars : List Char) : Option Json :=
  match readValue (chars.length + 1) depth chars with
  | none => none
  | some (value, rest) => if skipSpace rest = [] then some value else none

/-! ### Strings -/

theorem hexValue_digitChar {digit : Nat} (small : digit < 16) :
    hexValue (Nat.digitChar digit) = some digit := by
  have every : ∀ digit : Fin 16, hexValue (Nat.digitChar digit) = some digit.val := by decide
  exact every ⟨digit, small⟩

theorem unitChar_plain {unit : Nat} (small : unit < 32) (rest : List Char) :
    unitChar unit rest = some (Char.ofNat unit, rest) := by
  have high : isHighSurrogate unit = false := by
    unfold isHighSurrogate
    rw [Bool.and_eq_false_iff, decide_eq_false_iff_not]
    exact .inl (by omega)
  have low : isLowSurrogate unit = false := by
    unfold isLowSurrogate
    rw [Bool.and_eq_false_iff, decide_eq_false_iff_not]
    exact .inl (by omega)
  unfold unitChar
  split
  · simp [high, low]
  · simp [high, low]

theorem readString_escapeChar (fuel : Nat) (c : Char) (more : List Char) :
    readString (fuel + 1) (escapeChar c ++ more) =
      (readString fuel more).map (fun read => (c :: read.1, read.2)) := by
  have back : ∀ escape : List Char, readEscape (escape ++ more) = some (c, more) →
      readString (fuel + 1) ('\\' :: escape ++ more) =
        (readString fuel more).map (fun read => (c :: read.1, read.2)) := by
    intro escape escaped
    rw [List.cons_append, readString, if_neg (by decide), if_pos rfl, escaped]
    change (readString fuel more).bind (fun read => some (c :: read.1, read.2)) = _
    cases readString fuel more with
    | none => rfl
    | some read => rfl
  have named : ∀ {code : Nat}, c.toNat = code → c = Char.ofNat code := by
    rintro code rfl
    exact (Char.ofNat_toNat c).symm
  unfold escapeChar
  split
  · rename_i same
    exact back ['"'] (by rw [same]; rfl)
  · rename_i quote
    split
    · rename_i same
      exact back ['\\'] (by rw [same]; rfl)
    · rename_i slash
      split
      · rename_i same
        exact back ['b'] (by rw [named same]; rfl)
      · split
        · rename_i same
          exact back ['f'] (by rw [named same]; rfl)
        · split
          · rename_i same
            exact back ['n'] (by rw [same]; rfl)
          · split
            · rename_i same
              exact back ['r'] (by rw [same]; rfl)
            · split
              · rename_i same
                exact back ['t'] (by rw [same]; rfl)
              · split
                · rename_i small
                  refine back ['u', '0', '0', _, _] ?_
                  have unit : hexUnit '0' '0' (Nat.digitChar (c.toNat / 16))
                      (Nat.digitChar (c.toNat % 16)) = some c.toNat := by
                    unfold hexUnit
                    rw [hexValue_digitChar (by omega), hexValue_digitChar (by omega)]
                    change some (((0 * 16 + 0) * 16 + c.toNat / 16) * 16 + c.toNat % 16) = _
                    congr 1
                    omega
                  change ((hexUnit _ _ _ _).map (fun unit => (unit, more))).bind _ = _
                  rw [unit]
                  change unitChar c.toNat more = _
                  rw [unitChar_plain small, Char.ofNat_toNat]
                · rename_i large
                  rw [List.singleton_append, readString, if_neg quote, if_neg slash,
                    if_neg large]
                  cases readString fuel more with
                  | none => rfl
                  | some read => rfl

theorem readString_write (text : List Char) {fuel : Nat} (enough : text.length < fuel)
    (rest : List Char) :
    readString fuel (text.flatMap escapeChar ++ '"' :: rest) = some (text, rest) := by
  induction text generalizing fuel with
  | nil =>
      obtain ⟨fuel, rfl⟩ := Nat.exists_eq_succ_of_ne_zero (Nat.ne_of_gt enough)
      rfl
  | cons c text ih =>
      obtain ⟨fuel, rfl⟩ := Nat.exists_eq_succ_of_ne_zero (Nat.ne_of_gt (Nat.zero_lt_of_lt enough))
      rw [List.flatMap_cons, List.append_assoc, readString_escapeChar,
        ih (Nat.lt_of_succ_lt_succ enough)]
      rfl

theorem escapeChar_length (c : Char) : 1 ≤ (escapeChar c).length := by
  unfold escapeChar
  repeat' split
  all_goals exact Nat.succ_le_succ (Nat.zero_le _)

theorem escaped_length (text : List Char) : text.length ≤ (text.flatMap escapeChar).length := by
  induction text with
  | nil => exact Nat.le_refl 0
  | cons c text ih =>
      rw [List.flatMap_cons, List.length_append, List.length_cons]
      have first := escapeChar_length c
      omega

/-! ### Numbers -/

/-- What follows a number cannot belong to it. -/
def Delimited (rest : List Char) : Prop :=
  ∀ c ∈ rest.head?, c.isDigit = false ∧ c ≠ '.' ∧ c ≠ 'e' ∧ c ≠ 'E'

theorem Delimited.nil : Delimited [] := nofun

theorem Delimited.cons {c : Char} (apart : c.isDigit = false ∧ c ≠ '.' ∧ c ≠ 'e' ∧ c ≠ 'E')
    (rest : List Char) : Delimited (c :: rest) := by
  intro d among
  cases among
  exact apart

/-- The token of an integer: a sign perhaps, and a canonical numeral. -/
def Whole (token : List Char) : Prop :=
  ∃ sign digits, (sign = [] ∨ sign = ['-']) ∧ Decimal.Canonical digits ∧ token = sign ++ digits

theorem Delimited.takeWhile {digits rest : List Char} (delimited : Delimited rest)
    (every : ∀ c ∈ digits, c.isDigit = true) :
    (digits ++ rest).takeWhile Char.isDigit = digits ∧
      (digits ++ rest).dropWhile Char.isDigit = rest := by
  rw [List.takeWhile_append_of_pos every, List.dropWhile_append_of_pos every]
  cases rest with
  | nil => exact ⟨List.append_nil digits, rfl⟩
  | cons c rest =>
      have other := (delimited c rfl).1
      rw [List.takeWhile_cons_of_neg (by rw [other]; decide),
        List.dropWhile_cons_of_neg (by rw [other]; decide)]
      exact ⟨List.append_nil digits, rfl⟩

theorem Whole.readNumber {token rest : List Char} (whole : Whole token)
    (delimited : Delimited rest) : readNumber (token ++ rest) = some (token, rest) := by
  obtain ⟨sign, digits, signed, canonical, rfl⟩ := whole
  obtain ⟨taken, dropped⟩ := delimited.takeWhile canonical.2.1
  have signs : readSign (sign ++ digits ++ rest) = (sign, digits ++ rest) := by
    rcases signed with rfl | rfl
    · obtain ⟨c, more, rfl⟩ := List.exists_cons_of_ne_nil canonical.1
      have other : c ≠ '-' := by
        rintro rfl
        exact absurd (canonical.2.1 '-' List.mem_cons_self) (by decide)
      exact if_neg other
    · rfl
  have fraction : readFraction rest = some ([], rest) := by
    cases rest with
    | nil => rfl
    | cons c rest => exact if_neg (delimited c rfl).2.1
  have exponent : readExponent rest = some ([], rest) := by
    cases rest with
    | nil => rfl
    | cons c rest =>
        refine if_neg ?_
        rintro (lower | upper)
        · exact (delimited c rfl).2.2.1 lower
        · exact (delimited c rfl).2.2.2 upper
  unfold Json.readNumber
  rw [signs]
  dsimp only
  rw [taken, dropped, if_pos canonical, fraction]
  change (readExponent rest).bind _ = _
  rw [exponent]
  change some (sign ++ digits ++ [] ++ [], rest) = _
  rw [List.append_nil, List.append_nil]

/-! ### Trees -/

mutual

/-- The containers inside one another. -/
def nesting : Json → Nat
  | .array items => nestingItems items + 1
  | .object fields => nestingFields fields + 1
  | _ => 0

def nestingItems : List Json → Nat
  | [] => 0
  | item :: rest => max (nesting item) (nestingItems rest)

def nestingFields : List (List Char × Json) → Nat
  | [] => 0
  | (_, value) :: rest => max (nesting value) (nestingFields rest)

end

mutual

/-- The numbers of a tree are integers. -/
def Integral : Json → Prop
  | .number token => Whole token
  | .array items => IntegralItems items
  | .object fields => IntegralFields fields
  | _ => True

def IntegralItems : List Json → Prop
  | [] => True
  | item :: rest => Integral item ∧ IntegralItems rest

def IntegralFields : List (List Char × Json) → Prop
  | [] => True
  | (_, value) :: rest => Integral value ∧ IntegralFields rest

end

mutual

/-- The turns that reading a tree takes. -/
def size : Json → Nat
  | .array (item :: rest) => size item + sizeItems rest + 1
  | .object ((_, value) :: rest) => size value + sizeFields rest + 1
  | _ => 1

def sizeItems : List Json → Nat
  | [] => 1
  | item :: rest => size item + sizeItems rest + 1

def sizeFields : List (List Char × Json) → Nat
  | [] => 1
  | (_, value) :: rest => size value + sizeFields rest + 1

end

theorem skipSpace_cons {c : Char} (other : isSpace c = false) (rest : List Char) :
    skipSpace (c :: rest) = c :: rest :=
  List.dropWhile_cons_of_neg (by rw [other]; decide)

theorem readKey_write (key rest : List Char) :
    readKey (writeString key ++ ':' :: rest) = some (key, rest) := by
  unfold readKey writeString
  rw [List.cons_append, skipSpace_cons (by decide)]
  dsimp only
  rw [if_pos rfl, List.append_assoc]
  have long : key.length < ((key.flatMap escapeChar) ++ (['"'] ++ ':' :: rest)).length + 1 := by
    have shorter := escaped_length key
    rw [List.length_append]
    omega
  rw [show ['"'] ++ ':' :: rest = '"' :: ':' :: rest from rfl] at long ⊢
  rw [readString_write key long]
  change (expect [':'] (skipSpace (':' :: rest))).bind (fun rest => some (key, rest)) = _
  rw [skipSpace_cons (by decide)]
  rfl

theorem Whole.head {token : List Char} (whole : Whole token) :
    ∃ c more, token = c :: more ∧ (c = '-' ∨ c.isDigit = true) := by
  obtain ⟨sign, digits, rfl | rfl, canonical, rfl⟩ := whole
  · obtain ⟨c, more, rfl⟩ := List.exists_cons_of_ne_nil canonical.1
    exact ⟨c, more, rfl, .inr (canonical.2.1 c List.mem_cons_self)⟩
  · exact ⟨'-', digits, rfl, .inl rfl⟩

/-- A value begins with a character that is no space and closes nothing. -/
def Opening (c : Char) : Prop := isSpace c = false ∧ c ≠ ']' ∧ c ≠ '}'

theorem opening_of_number {c : Char} (starts : c = '-' ∨ c.isDigit = true) :
    Opening c ∧ c ∉ ['n', 't', 'f', '"', '[', '{'] := by
  rcases starts with rfl | digit
  · exact ⟨⟨by decide, by decide, by decide⟩, by decide⟩
  · have other : ∀ d : Char, d.isDigit = false → c ≠ d := by
      rintro d apart rfl
      rw [apart] at digit
      cases digit
    refine ⟨⟨?_, other _ (by decide), other _ (by decide)⟩, ?_⟩
    · unfold isSpace
      simp only [Bool.or_eq_false_iff, beq_eq_false_iff_ne]
      exact ⟨⟨⟨other _ (by decide), other _ (by decide)⟩, other _ (by decide)⟩,
        other _ (by decide)⟩
    · simp only [List.mem_cons, List.not_mem_nil, or_false, not_or]
      exact ⟨other _ (by decide), other _ (by decide), other _ (by decide),
        other _ (by decide), other _ (by decide), other _ (by decide)⟩

theorem write_opening {value : Json} (integral : Integral value) :
    ∃ c more, write value = c :: more ∧ Opening c := by
  cases value with
  | null => exact ⟨_, _, rfl, by decide, by decide, by decide⟩
  | bool flag =>
      cases flag with
      | true => exact ⟨_, _, rfl, by decide, by decide, by decide⟩
      | false => exact ⟨_, _, rfl, by decide, by decide, by decide⟩
  | number token =>
      obtain ⟨c, more, same, starts⟩ := Whole.head integral
      exact ⟨c, more, same, (opening_of_number starts).1⟩
  | string text => exact ⟨_, _, rfl, by decide, by decide, by decide⟩
  | array items =>
      cases items with
      | nil => exact ⟨_, _, rfl, by decide, by decide, by decide⟩
      | cons item rest => exact ⟨_, _, rfl, by decide, by decide, by decide⟩
  | object fields =>
      cases fields with
      | nil => exact ⟨_, _, rfl, by decide, by decide, by decide⟩
      | cons field rest => exact ⟨_, _, rfl, by decide, by decide, by decide⟩

theorem delimited_items (items : List Json) (rest : List Char) :
    Delimited (writeItems items ++ rest) := by
  cases items with
  | nil => exact .cons (by decide) _
  | cons item more => exact .cons (by decide) _

theorem delimited_fields (fields : List (List Char × Json)) (rest : List Char) :
    Delimited (writeFields fields ++ rest) := by
  cases fields with
  | nil => exact .cons (by decide) _
  | cons field more => exact .cons (by decide) _

/-! ### One turn of the reader -/

section Turns

variable {fuel depth : Nat} {token rest : List Char}

theorem readValue_number (whole : Whole token) (delimited : Delimited rest) :
    readValue (fuel + 1) depth (token ++ rest) = some (.number token, rest) := by
  obtain ⟨c, more, rfl, starts⟩ := whole.head
  obtain ⟨opening, other⟩ := opening_of_number starts
  simp only [List.mem_cons, List.not_mem_nil, or_false, not_or] at other
  obtain ⟨n, t, f, quote, bracket, brace⟩ := other
  rw [List.cons_append, readValue, skipSpace_cons opening.1]
  dsimp only
  rw [if_neg n, if_neg t, if_neg f, if_neg quote, if_neg bracket, if_neg brace,
    ← List.cons_append, whole.readNumber delimited]
  rfl

theorem readValue_string (text : List Char) :
    readValue (fuel + 1) depth (writeString text ++ rest) = some (.string text, rest) := by
  unfold writeString
  rw [List.cons_append, readValue, skipSpace_cons (by decide)]
  dsimp only
  rw [if_neg (by decide), if_neg (by decide), if_neg (by decide), if_pos rfl, List.append_assoc]
  have long : text.length < ((text.flatMap escapeChar) ++ (['"'] ++ rest)).length + 1 := by
    have shorter := escaped_length text
    rw [List.length_append]
    omega
  change (readString _ (text.flatMap escapeChar ++ '"' :: rest)).map _ = _
  rw [readString_write text long]
  rfl

theorem readValue_array (opens : ∀ c ∈ rest.head?, Opening c) :
    readValue (fuel + 1) (depth + 1) ('[' :: rest) =
      (readValue fuel depth rest).bind (fun first =>
        (readItems fuel depth first.2).map (fun items =>
          (.array (first.1 :: items.1), items.2))) := by
  have filled : (skipSpace rest).head? ≠ some ']' := by
    cases rest with
    | nil => nofun
    | cons c rest =>
        have opening := opens c rfl
        rw [skipSpace_cons opening.1]
        exact fun same => opening.2.1 (Option.some.inj same)
  rw [readValue, skipSpace_cons (by decide)]
  dsimp only
  rw [if_neg (by decide), if_neg (by decide), if_neg (by decide), if_neg (by decide),
    if_pos rfl, if_neg filled]
  cases readValue fuel depth rest with
  | none => rfl
  | some first =>
      change (readItems fuel depth first.2).bind _ = (readItems fuel depth first.2).map _
      cases readItems fuel depth first.2 with
      | none => rfl
      | some items => rfl

theorem readValue_object (opens : ∀ c ∈ rest.head?, Opening c) :
    readValue (fuel + 1) (depth + 1) ('{' :: rest) =
      (readKey rest).bind (fun key =>
        (readValue fuel depth key.2).bind (fun first =>
          (readFields fuel depth first.2).map (fun fields =>
            (.object ((key.1, first.1) :: fields.1), fields.2)))) := by
  have filled : (skipSpace rest).head? ≠ some '}' := by
    cases rest with
    | nil => nofun
    | cons c rest =>
        have opening := opens c rfl
        rw [skipSpace_cons opening.1]
        exact fun same => opening.2.2 (Option.some.inj same)
  rw [readValue, skipSpace_cons (by decide)]
  dsimp only
  rw [if_neg (by decide), if_neg (by decide), if_neg (by decide), if_neg (by decide),
    if_neg (by decide), if_pos rfl, if_neg filled]
  cases readKey rest with
  | none => rfl
  | some key =>
      change (readValue fuel depth key.2).bind _ = (readValue fuel depth key.2).bind _
      cases readValue fuel depth key.2 with
      | none => rfl
      | some first =>
          change (readFields fuel depth first.2).bind _ = (readFields fuel depth first.2).map _
          cases readFields fuel depth first.2 with
          | none => rfl
          | some fields => rfl

theorem readItems_more :
    readItems (fuel + 1) depth (',' :: rest) =
      (readValue fuel depth rest).bind (fun first =>
        (readItems fuel depth first.2).map (fun items => (first.1 :: items.1, items.2))) := by
  rw [readItems, skipSpace_cons (by decide)]
  dsimp only
  rw [if_neg (by decide), if_pos rfl]
  cases readValue fuel depth rest with
  | none => rfl
  | some first =>
      change (readItems fuel depth first.2).bind _ = (readItems fuel depth first.2).map _
      cases readItems fuel depth first.2 with
      | none => rfl
      | some items => rfl

theorem readFields_more :
    readFields (fuel + 1) depth (',' :: rest) =
      (readKey rest).bind (fun key =>
        (readValue fuel depth key.2).bind (fun first =>
          (readFields fuel depth first.2).map (fun fields =>
            ((key.1, first.1) :: fields.1, fields.2)))) := by
  rw [readFields, skipSpace_cons (by decide)]
  dsimp only
  rw [if_neg (by decide), if_pos rfl]
  cases readKey rest with
  | none => rfl
  | some key =>
      change (readValue fuel depth key.2).bind _ = (readValue fuel depth key.2).bind _
      cases readValue fuel depth key.2 with
      | none => rfl
      | some first =>
          change (readFields fuel depth first.2).bind _ = (readFields fuel depth first.2).map _
          cases readFields fuel depth first.2 with
          | none => rfl
          | some fields => rfl

theorem readValue_bracket : readValue (fuel + 1) 0 ('[' :: rest) = none := by
  rw [readValue, skipSpace_cons (by decide)]
  rfl

theorem readValue_brace : readValue (fuel + 1) 0 ('{' :: rest) = none := by
  rw [readValue, skipSpace_cons (by decide)]
  rfl

end Turns

/-! ### What is written is read -/

private theorem bind_within {First Result : Type} {first : First} {next : First → Option Result}
    {result : Result} {left whole depth limit : Nat} (right : Nat)
    (within : whole ≤ limit ↔ left ≤ depth ∧ right ≤ depth)
    (goes : next first = if right ≤ depth then some result else none) :
    (if left ≤ depth then some first else none).bind next =
      if whole ≤ limit then some result else none := by
  by_cases shallow : left ≤ depth
  · rw [if_pos shallow, Option.bind_some, goes]
    by_cases all : right ≤ depth
    · rw [if_pos all, if_pos (within.mpr ⟨shallow, all⟩)]
    · rw [if_neg all, if_neg (fun held => all (within.mp held).2)]
  · rw [if_neg shallow, if_neg (fun held => shallow (within.mp held).1)]
    rfl

mutual

/-- What is written is read, unless its containers are too deep inside one another. -/
theorem readValue_write : ∀ (value : Json) (fuel depth : Nat) (rest : List Char),
    Integral value → size value ≤ fuel → Delimited rest →
    readValue fuel depth (write value ++ rest) =
      if nesting value ≤ depth then some (value, rest) else none
  | value, 0, _, _, _, enough, _ => by
      cases value with
      | array items => cases items <;> exact absurd enough (Nat.not_succ_le_zero _)
      | object fields => cases fields <;> exact absurd enough (Nat.not_succ_le_zero _)
      | _ => exact absurd enough (Nat.not_succ_le_zero _)
  | .null, fuel + 1, depth, rest, _, _, _ => by
      refine Eq.trans ?_ (if_pos (Nat.zero_le depth)).symm
      rfl
  | .bool true, fuel + 1, depth, rest, _, _, _ => by
      refine Eq.trans ?_ (if_pos (Nat.zero_le depth)).symm
      rfl
  | .bool false, fuel + 1, depth, rest, _, _, _ => by
      refine Eq.trans ?_ (if_pos (Nat.zero_le depth)).symm
      rfl
  | .number token, fuel + 1, depth, rest, integral, _, delimited => by
      refine Eq.trans ?_ (if_pos (Nat.zero_le depth)).symm
      exact readValue_number integral delimited
  | .string text, fuel + 1, depth, rest, _, _, _ => by
      refine Eq.trans ?_ (if_pos (Nat.zero_le depth)).symm
      exact readValue_string text
  | .array [], fuel + 1, 0, rest, _, _, _ => readValue_bracket
  | .array [], fuel + 1, depth + 1, rest, _, _, _ => by
      refine Eq.trans ?_ (if_pos (Nat.succ_le_succ (Nat.zero_le depth))).symm
      rfl
  | .array (item :: items), fuel + 1, 0, rest, _, _, _ => readValue_bracket
  | .array (item :: items), fuel + 1, depth + 1, rest, integral, enough, _ => by
      obtain ⟨first, others⟩ := integral
      unfold size at enough
      have opens : ∀ c ∈ (write item ++ (writeItems items ++ rest)).head?, Opening c := by
        obtain ⟨c, more, same, opening⟩ := write_opening first
        rw [same]
        rintro d among
        cases among
        exact opening
      have one := readValue_write item fuel depth (writeItems items ++ rest) first
        (by omega) (delimited_items items rest)
      have more := readItems_write items fuel depth rest others (by omega)
      unfold write nesting nestingItems
      rw [List.cons_append, List.append_assoc, readValue_array opens, one]
      refine bind_within (nestingItems items) (by omega) ?_
      dsimp only
      rw [more]
      split
      · rfl
      · rfl
  | .object [], fuel + 1, 0, rest, _, _, _ => readValue_brace
  | .object [], fuel + 1, depth + 1, rest, _, _, _ => by
      refine Eq.trans ?_ (if_pos (Nat.succ_le_succ (Nat.zero_le depth))).symm
      rfl
  | .object ((key, value) :: fields), fuel + 1, 0, rest, _, _, _ => readValue_brace
  | .object ((key, value) :: fields), fuel + 1, depth + 1, rest, integral, enough, _ => by
      obtain ⟨first, others⟩ := integral
      unfold size at enough
      have one := readValue_write value fuel depth (writeFields fields ++ rest) first
        (by omega) (delimited_fields fields rest)
      have more := readFields_write fields fuel depth rest others (by omega)
      unfold write nesting nestingFields
      rw [List.cons_append, List.append_assoc, List.cons_append, List.append_assoc,
        readValue_object (by rintro d among; cases among; exact ⟨by decide, by decide, by decide⟩),
        readKey_write]
      dsimp only [Option.bind_some]
      rw [one]
      refine bind_within (nestingFields fields) (by omega) ?_
      dsimp only
      rw [more]
      split
      · rfl
      · rfl

theorem readItems_write : ∀ (items : List Json) (fuel depth : Nat) (rest : List Char),
    IntegralItems items → sizeItems items ≤ fuel →
    readItems fuel depth (writeItems items ++ rest) =
      if nestingItems items ≤ depth then some (items, rest) else none
  | items, 0, _, _, _, enough => by
      cases items <;> exact absurd enough (Nat.not_succ_le_zero _)
  | [], fuel + 1, depth, rest, _, _ => by
      refine Eq.trans ?_ (if_pos (Nat.zero_le depth)).symm
      rfl
  | item :: items, fuel + 1, depth, rest, integral, enough => by
      obtain ⟨first, others⟩ := integral
      unfold sizeItems at enough
      have one := readValue_write item fuel depth (writeItems items ++ rest) first
        (by omega) (delimited_items items rest)
      have more := readItems_write items fuel depth rest others (by omega)
      unfold writeItems nestingItems
      rw [List.cons_append, List.append_assoc, readItems_more, one]
      refine bind_within (nestingItems items) (by omega) ?_
      dsimp only
      rw [more]
      split
      · rfl
      · rfl

theorem readFields_write : ∀ (fields : List (List Char × Json)) (fuel depth : Nat)
    (rest : List Char), IntegralFields fields → sizeFields fields ≤ fuel →
    readFields fuel depth (writeFields fields ++ rest) =
      if nestingFields fields ≤ depth then some (fields, rest) else none
  | fields, 0, _, _, _, enough => by
      cases fields <;> exact absurd enough (Nat.not_succ_le_zero _)
  | [], fuel + 1, depth, rest, _, _ => by
      refine Eq.trans ?_ (if_pos (Nat.zero_le depth)).symm
      rfl
  | (key, value) :: fields, fuel + 1, depth, rest, integral, enough => by
      obtain ⟨first, others⟩ := integral
      unfold sizeFields at enough
      have one := readValue_write value fuel depth (writeFields fields ++ rest) first
        (by omega) (delimited_fields fields rest)
      have more := readFields_write fields fuel depth rest others (by omega)
      unfold writeFields nestingFields
      rw [List.cons_append, List.append_assoc, List.cons_append, List.append_assoc,
        readFields_more, readKey_write]
      dsimp only [Option.bind_some]
      rw [one]
      refine bind_within (nestingFields fields) (by omega) ?_
      dsimp only
      rw [more]
      split
      · rfl
      · rfl

end

mutual

theorem size_le_length : ∀ value : Json, Integral value → size value ≤ (write value).length
  | .null, _ => by decide
  | .bool true, _ => by decide
  | .bool false, _ => by decide
  | .number token, integral => by
      obtain ⟨c, more, rfl, _⟩ := Whole.head integral
      exact Nat.succ_le_succ (Nat.zero_le _)
  | .string text, _ => Nat.succ_le_succ (Nat.zero_le _)
  | .array [], _ => Nat.succ_le_succ (Nat.zero_le _)
  | .array (item :: items), integral => by
      have first := size_le_length item integral.1
      have others := sizeItems_le_length items integral.2
      unfold size write
      rw [List.length_cons, List.length_append]
      omega
  | .object [], _ => Nat.succ_le_succ (Nat.zero_le _)
  | .object ((key, value) :: fields), integral => by
      have first := size_le_length value integral.1
      have others := sizeFields_le_length fields integral.2
      unfold size write
      rw [List.length_cons, List.length_append, List.length_cons, List.length_append]
      omega

theorem sizeItems_le_length : ∀ items : List Json, IntegralItems items →
    sizeItems items ≤ (writeItems items).length
  | [], _ => Nat.succ_le_succ (Nat.zero_le _)
  | item :: items, integral => by
      have first := size_le_length item integral.1
      have others := sizeItems_le_length items integral.2
      unfold sizeItems writeItems
      rw [List.length_cons, List.length_append]
      omega

theorem sizeFields_le_length : ∀ fields : List (List Char × Json), IntegralFields fields →
    sizeFields fields ≤ (writeFields fields).length
  | [], _ => Nat.succ_le_succ (Nat.zero_le _)
  | (key, value) :: fields, integral => by
      have first := size_le_length value integral.1
      have others := sizeFields_le_length fields integral.2
      unfold sizeFields writeFields
      rw [List.length_cons, List.length_append, List.length_cons, List.length_append]
      omega

end

mutual

theorem nesting_le_size : ∀ value : Json, nesting value ≤ size value
  | .null | .bool _ | .number _ | .string _ => Nat.zero_le _
  | .array [] | .object [] => Nat.le_refl 1
  | .array (item :: items) => by
      have first := nesting_le_size item
      have others := nestingItems_le_size items
      unfold nesting nestingItems size
      omega
  | .object ((_, value) :: fields) => by
      have first := nesting_le_size value
      have others := nestingFields_le_size fields
      unfold nesting nestingFields size
      omega

theorem nestingItems_le_size : ∀ items : List Json, nestingItems items ≤ sizeItems items
  | [] => Nat.zero_le _
  | item :: items => by
      have first := nesting_le_size item
      have others := nestingItems_le_size items
      unfold nestingItems sizeItems
      omega

theorem nestingFields_le_size : ∀ fields : List (List Char × Json),
    nestingFields fields ≤ sizeFields fields
  | [] => Nat.zero_le _
  | (_, value) :: fields => by
      have first := nesting_le_size value
      have others := nestingFields_le_size fields
      unfold nestingFields sizeFields
      omega

end

/-- The text of a tree is read as the tree, where its depth is within the limit. -/
theorem read_write {value : Json} (integral : Integral value) (depth : Nat) :
    read depth (write value) = if nesting value ≤ depth then some value else none := by
  have enough := size_le_length value integral
  have whole := readValue_write value ((write value).length + 1) depth [] integral (by omega) .nil
  rw [List.append_nil] at whole
  unfold read
  rw [whole]
  by_cases shallow : nesting value ≤ depth
  · rw [if_pos shallow, if_pos shallow]
    exact if_pos rfl
  · rw [if_neg shallow, if_neg shallow]

theorem read_write_length {value : Json} (integral : Integral value) :
    read (write value).length (write value) = some value := by
  rw [read_write integral]
  exact if_pos (Nat.le_trans (nesting_le_size value) (size_le_length value integral))

end Json
