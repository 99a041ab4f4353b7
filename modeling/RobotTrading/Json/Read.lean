import RobotTrading.Json.Basic

/-!
# Reading JSON

A reader for one JSON document per line. It follows the JSON grammar strictly:
no leading zeros, no trailing commas, no raw control characters in strings, and
escaped surrogates only in pairs, and arrays and objects nested at most
`nestingLimit` deep. Whitespace is space, tab, line feed and carriage return.

Numbers are read the way a streaming reader reads them (`readNumber`): digits
gather into a 64-bit significand, and a literal that is not a word-sized integer
becomes a binary64 value by `Binary.ofScientific`; one too large for binary64
makes the whole document unreadable.

Every step of the reader consumes at least one character, so a fuel of the
input length plus one always suffices; `Json.parse?` supplies it.

## Main definitions

* `Json.parse?` : the document a line holds, if it holds exactly one.
-/

namespace RobotTrading

-- Powers of naturals and integers are the core ones (`Nat.pow`, `Int.pow`), also where a
-- larger library brings its own.
attribute [local instance (high)] instPowNat

namespace Json

/-- JSON whitespace. -/
def isSpace (c : Char) : Bool := c = ' ' || c = '\t' || c = '\n' || c = '\r'

/-- The value of a hexadecimal digit. -/
def hexValue? (c : Char) : Option Nat :=
  if c.isDigit then some (c.toNat - '0'.toNat)
  else if 'a' ≤ c ∧ c ≤ 'f' then some (c.toNat - 'a'.toNat + 10)
  else if 'A' ≤ c ∧ c ≤ 'F' then some (c.toNat - 'A'.toNat + 10)
  else none

/-- Four hexadecimal digits and the rest of the input. -/
def readHex4 : List Char → Option (Nat × List Char)
  | a :: b :: c :: d :: rest => do
    let va ← hexValue? a
    let vb ← hexValue? b
    let vc ← hexValue? c
    let vd ← hexValue? d
    pure (((va * 16 + vb) * 16 + vc) * 16 + vd, rest)
  | _ => none

/-- A `\u` escape after its backslash and `u`: one code unit, or a surrogate pair spelled as
    two escapes. -/
def readUnicodeEscape (cs : List Char) : Option (Char × List Char) := do
  let (hi, rest) ← readHex4 cs
  if 0xD800 ≤ hi ∧ hi < 0xDC00 then
    match rest with
    | '\\' :: 'u' :: more =>
      let (lo, rest') ← readHex4 more
      if 0xDC00 ≤ lo ∧ lo < 0xE000 then
        pure (Char.ofNat (0x10000 + (hi - 0xD800) * 0x400 + (lo - 0xDC00)), rest')
      else none
    | _ => none
  else if 0xDC00 ≤ hi ∧ hi < 0xE000 then none
  else pure (Char.ofNat hi, rest)

/-- The characters of a string after its opening quote, up to and past the closing quote. -/
def readStringBody : Nat → List Char → List Char → Option (String × List Char)
  | 0, _, _ => none
  | _ + 1, _, [] => none
  | fuel + 1, acc, c :: rest =>
    if c = '"' then some (String.ofList acc.reverse, rest)
    else if c = '\\' then
      match rest with
      | 'u' :: more => do
        let (ch, rest') ← readUnicodeEscape more
        readStringBody fuel (ch :: acc) rest'
      | e :: more =>
        let unescaped : Option Char :=
          if e = '"' then some '"' else if e = '\\' then some '\\' else if e = '/' then some '/'
          else if e = 'b' then some (Char.ofNat 8) else if e = 'f' then some (Char.ofNat 12)
          else if e = 'n' then some '\n' else if e = 'r' then some '\r'
          else if e = 't' then some '\t' else none
        unescaped.bind fun ch => readStringBody fuel (ch :: acc) more
      | [] => none
    else if c.toNat < 0x20 then none
    else readStringBody fuel (c :: acc) rest

/-- The value of a digit. -/
def digitValue (c : Char) : Nat := c.toNat - '0'.toNat

/-- The largest 64-bit unsigned word. -/
def wordMax : Nat := 2 ^ (64 : Nat) - 1

/-- The largest 32-bit signed word, the bound of an exponent. -/
def exponentMax : Nat := 2 ^ (31 : Nat) - 1

/-- Clamp an exponent to the 32-bit signed range. -/
def clampExponent (e : Int) : Int := max (-(exponentMax : Int) - 1) (min e exponentMax)

/-- Extend the significand `sig` by the digits `ds` for as long as it stays a 64-bit word:
    the extended significand and how many digits it took. -/
def absorb (sig : Nat) : List Char → Nat × Nat
  | [] => (sig, 0)
  | d :: rest =>
    let next := sig * 10 + digitValue d
    if wordMax < next then (sig, 0)
    else
      let (s, k) := absorb next rest
      (s, k + 1)

/-- The binary64 value of `sig * 10 ^ exp` with a sign; `none` when it overflows. -/
def scientific (negative : Bool) (sig : Nat) (exp : Int) (rest : List Char) :
    Option (Json × List Char) :=
  (Binary.ofScientific sig exp).map fun b => (float negative b, rest)

/-- The exponent part after its `e`: an optional sign and at least one digit. An exponent
    beyond the 32-bit range is a zero, unless it is positive with a nonzero significand,
    which overflows. -/
def readExponent (negative : Bool) (sig : Nat) (start : Int) (cs : List Char) :
    Option (Json × List Char) :=
  let (expNegative, cs) := match cs with
    | '-' :: rest => (true, rest)
    | '+' :: rest => (false, rest)
    | rest => (false, rest)
  let ds := cs.takeWhile Char.isDigit
  let rest := cs.dropWhile Char.isDigit
  if ds.isEmpty then none
  else
    let e := ds.foldl (fun n d => n * 10 + digitValue d) 0
    if exponentMax < e then
      if sig ≠ 0 ∧ !expNegative then none else some (float negative Binary.zero, rest)
    else scientific negative sig (clampExponent (if expNegative then start - e else start + e)) rest

/-- What follows the digits of a number with significand `sig * 10 ^ exp`: an exponent, or
    the end of the number. -/
def readTail (negative : Bool) (sig : Nat) (exp : Int) : List Char → Option (Json × List Char)
  | c :: rest =>
    if c = 'e' ∨ c = 'E' then readExponent negative sig exp rest
    else scientific negative sig exp (c :: rest)
  | [] => scientific negative sig exp []

/-- A number: an integer part without leading zeros, an optional fraction and exponent.

    Digits accumulate into a 64-bit significand for as long as it fits; further integer
    digits raise the exponent and further fraction digits are dropped. A number with
    neither fraction nor exponent whose digits all fit is an integer: unsigned, or signed
    when negative; a negative zero, or a negative integer below `-2 ^ 63`, is a binary64
    value instead. -/
def readNumber (cs : List Char) : Option (Json × List Char) := do
  let (negative, cs) := match cs with
    | '-' :: rest => (true, rest)
    | _ => (false, cs)
  let intDigits := cs.takeWhile Char.isDigit
  let cs := cs.dropWhile Char.isDigit
  if intDigits.isEmpty then none
  if intDigits.length > 1 ∧ intDigits.head? = some '0' then none
  let (sig, taken) := absorb 0 intDigits
  let exp : Int := (intDigits.length - taken : Nat)
  match cs with
  | '.' :: rest =>
    let fracDigits := rest.takeWhile Char.isDigit
    if fracDigits.isEmpty then none
    let (sig, k) := absorb sig fracDigits
    readTail negative sig (exp - k) (rest.dropWhile Char.isDigit)
  | c :: rest =>
    if c = 'e' ∨ c = 'E' then readExponent negative sig exp rest
    else if exp ≠ 0 then scientific negative sig exp (c :: rest)
    else whole negative sig (c :: rest)
  | [] => if exp ≠ 0 then scientific negative sig exp [] else whole negative sig []
where
  /-- A number of integer digits that fit a word. -/
  whole (negative : Bool) (sig : Nat) (rest : List Char) : Option (Json × List Char) :=
    if !negative then some (int sig, rest)
    else if sig = 0 ∨ 2 ^ (63 : Nat) < sig then scientific true sig 0 rest
    else some (int (-(sig : Int)), rest)

/-- A literal word such as `true`. -/
def readWord (word : String) (cs : List Char) : Option (List Char) :=
  if word.toList.isPrefixOf cs then some (cs.drop word.length) else none

/-- How deeply arrays and objects may nest. -/
def nestingLimit : Nat := 127

mutual
/-- One value after optional whitespace, within `depth` more levels of nesting. -/
def readValue : Nat → Nat → List Char → Option (Json × List Char)
  | 0, _, _ => none
  | fuel + 1, depth, cs =>
    match cs.dropWhile isSpace with
    | [] => none
    | c :: rest =>
      if c = '{' then
        match depth with
        | 0 => none
        | d + 1 => readMembers fuel d [] true (rest.dropWhile isSpace)
      else if c = '[' then
        match depth with
        | 0 => none
        | d + 1 => readItems fuel d [] true (rest.dropWhile isSpace)
      else if c = '"' then (readStringBody (rest.length + 1) [] rest).map fun (s, r) => (str s, r)
      else if c = 't' then (readWord "true" (c :: rest)).map fun r => (bool true, r)
      else if c = 'f' then (readWord "false" (c :: rest)).map fun r => (bool false, r)
      else if c = 'n' then (readWord "null" (c :: rest)).map fun r => (null, r)
      else readNumber (c :: rest)

/-- The items of an array after its opening bracket; `first` when no item was read yet. -/
def readItems : Nat → Nat → List Json → Bool → List Char → Option (Json × List Char)
  | 0, _, _, _, _ => none
  | fuel + 1, depth, acc, first, cs =>
    match cs with
    | ']' :: rest => if first then some (arr acc.reverse, rest) else none
    | _ => do
      let (v, rest) ← readValue fuel depth cs
      match rest.dropWhile isSpace with
      | ',' :: more => readItems fuel depth (v :: acc) false (more.dropWhile isSpace)
      | ']' :: more => pure (arr (v :: acc).reverse, more)
      | _ => none

/-- The members of an object after its opening brace; `first` when no member was read yet. -/
def readMembers : Nat → Nat → List (String × Json) → Bool → List Char →
    Option (Json × List Char)
  | 0, _, _, _, _ => none
  | fuel + 1, depth, acc, first, cs =>
    match cs with
    | '}' :: rest => if first then some (obj acc.reverse, rest) else none
    | '"' :: rest => do
      let (key, rest) ← readStringBody (rest.length + 1) [] rest
      match rest.dropWhile isSpace with
      | ':' :: more =>
        let (v, rest) ← readValue fuel depth more
        match rest.dropWhile isSpace with
        | ',' :: more => readMembers fuel depth ((key, v) :: acc) false (more.dropWhile isSpace)
        | '}' :: more => pure (obj ((key, v) :: acc).reverse, more)
        | _ => none
      | _ => none
    | _ => none
end

/-- The document a text holds, surrounded by optional whitespace. -/
def parse? (s : String) : Option Json :=
  let cs := s.toList
  match readValue (cs.length + 1) nestingLimit cs with
  | some (v, rest) => if (rest.dropWhile isSpace).isEmpty then some v else none
  | none => none

end Json

end RobotTrading
