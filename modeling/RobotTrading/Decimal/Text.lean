import RobotTrading.Decimal.Basic

/-!
# Decimal text

Reading and writing decimals as text.

Writing (`Decimal.render`) prints the magnitude with exactly `scale` fraction
digits, never an exponent, and a minus sign whenever the sign is set, on a
negative zero too. Reading gives a zero the plus sign, except where an exponent
rounds a negative value to zero.

Reading (`Decimal.ofText?`) accepts an optional leading sign, digits with a
single point, underscores after the first digit, and an optional exponent
`e`/`E` followed by a count. The integer digits must fit 96 bits. Past 28
fraction digits, or where the next fraction digit would overflow 96 bits, one
digit decides a round-half-up: for a coefficient still below `narrowBound` the
very next character (an underscore counting as zero), otherwise the next digit
with underscores skipped. The rest of the text must still be digits and
underscores.

## Main definitions

* `Decimal.render` : the text of a decimal.
* `Decimal.ofText?` : the decimal a text denotes, if any.
* `Decimal.scaleBy?` : the exponent step, moving the point by a signed count.
-/

namespace RobotTrading

-- Powers of naturals and integers are the core ones (`Nat.pow`, `Int.pow`), also where a
-- larger library brings its own.
attribute [local instance (high)] instPowNat

namespace Decimal

/-- The digit a character stands for. -/
def digitOf? (c : Char) : Option Nat :=
  if c.isDigit then some (c.toNat - '0'.toNat) else none

/-- The decimal digits of a natural number, most significant first. -/
def digitsOf (n : Nat) : List Char := (Nat.toDigits 10 n)

/-- The text of a decimal: the digits of the magnitude with the point `scale` places from
    the right, after a minus sign when the sign is set (a negative zero included). -/
def render (d : Decimal) : String :=
  let digits := digitsOf d.magnitude
  let body :=
    if d.scale = 0 then digits
    else
      let padded := List.replicate (d.scale + 1 - digits.length) '0' ++ digits
      padded.take (padded.length - d.scale) ++ '.' :: padded.drop (padded.length - d.scale)
  String.ofList (if d.negative then '-' :: body else body)

instance : ToString Decimal := ⟨render⟩

/-- A coefficient and scale read so far, with the sign kept apart. -/
structure Reading where
  /-- Magnitude of the coefficient. -/
  magnitude : Nat
  /-- Fraction digits read. -/
  scale : Nat

/-- Coefficients below this bound (a tenth of the 64-bit range, less 255) are still read
    one machine word at a time, where rounding looks only at the very next character. -/
def narrowBound : Nat := 1844674407370954906

/-- The digit that decides the rounding at the cut. A narrow coefficient (below
    `narrowBound`) looks at the very next character only, an underscore counting as a zero;
    a wide one takes the first digit after the cut, underscores skipped. -/
def roundingDigit (narrow : Bool) (tail : List Char) : Nat :=
  let next := if narrow then tail.head? else (tail.dropWhile (· = '_')).head?
  match next with
  | some c => (digitOf? c).getD 0
  | none => 0

/-- Rounding at the cut: `roundingDigit` decides a round-half-up, and every character after
    the cut must be a digit or an underscore. A carry that overflows 96 bits drops one more
    fraction digit, and is invalid at scale zero. -/
def roundAt (narrow : Bool) (r : Reading) (tail : List Char) : Option Reading :=
  if !tail.all fun c => c.isDigit || c = '_' then none
  else if roundingDigit narrow tail < 5 then some r
  else if r.magnitude + 1 < mantissaBound then some ⟨r.magnitude + 1, r.scale⟩
  else if r.scale = 0 then none
  else some ⟨(r.magnitude + 1 + 4) / 10, r.scale - 1⟩

/-- Reading state for the plain part of a decimal text: whether the point was seen and
    whether any digit was seen. -/
structure Cursor where
  /-- The point has been read. -/
  point : Bool
  /-- At least one digit has been read. -/
  seen : Bool
  /-- Coefficient and scale so far. -/
  acc : Reading

/-- Read the characters after the sign. The result is the final coefficient and scale. -/
def readDigits : Cursor → List Char → Option Reading
  | c, [] => if c.seen then some c.acc else none
  | c, ch :: rest =>
    match digitOf? ch with
    | some d =>
      let m := c.acc.magnitude * 10 + d
      if !c.point then
        if m < mantissaBound then readDigits ⟨false, true, ⟨m, 0⟩⟩ rest else none
      else if m < mantissaBound then
        let r : Reading := ⟨m, c.acc.scale + 1⟩
        if maxScale ≤ r.scale then roundAt (c.acc.magnitude < narrowBound) r rest
        else readDigits ⟨true, true, r⟩ rest
      else roundAt false c.acc (ch :: rest)
    | none =>
      if ch = '.' ∧ !c.point then readDigits { c with point := true } rest
      else if ch = '_' ∧ c.seen then readDigits c rest
      else none

/-- Read a plain decimal (no exponent): an optional sign, then digits with one point. -/
def readPlain (cs : List Char) : Option (Bool × Reading) :=
  let start : Cursor := ⟨false, false, ⟨0, 0⟩⟩
  match cs with
  | '-' :: rest => (readDigits start rest).map fun r => (true, r)
  | '+' :: rest => (readDigits start rest).map fun r => (false, r)
  | _ => (readDigits start cs).map fun r => (false, r)

/-- The decimal of a sign and a reading. -/
def ofReading? (negative : Bool) (r : Reading) : Option Decimal :=
  ofParts? (if negative then -(r.magnitude : Int) else r.magnitude) r.scale

/-- Read an unsigned 32-bit count, with an optional leading plus sign. -/
def readCount? (cs : List Char) : Option Nat :=
  let body := match cs with
    | '+' :: rest => rest
    | _ => cs
  if body.isEmpty then none
  else
    body.foldl (fun acc ch => acc.bind fun n => (digitOf? ch).bind fun d =>
      let v := n * 10 + d
      if v < 2 ^ (32 : Nat) then some v else none) (some 0)

/-- Round `n * 10 ^ (-k)` to an integer, a half going up. -/
def roundHalfUp (n k : Nat) : Nat :=
  let q := n / 10 ^ k
  if 10 ^ k ≤ 2 * (n % 10 ^ k) then q + 1 else q

/-- Apply an exponent text to a decimal. A negative exponent, at most 28, adds to the
    scale; past a scale of 28 the value is rounded to 28 places, a half going away from
    zero, and keeps its sign even when it rounds to zero. A positive one first uses up the
    scale; past it the exponent may be at most 28, and the coefficient is multiplied by
    powers of ten, which must stay within 96 bits. The count may carry one plus sign, also
    after the minus. -/
def scaleBy? (d : Decimal) (exp : List Char) : Option Decimal :=
  match exp with
  | '-' :: rest =>
    (readCount? rest).bind fun e =>
      if maxScale < e then none
      else if d.scale + e ≤ maxScale then ofSigned? d.negative d.magnitude (d.scale + e)
      else ofSigned? d.negative (roundHalfUp d.magnitude (d.scale + e - maxScale)) maxScale
  | _ =>
    (readCount? exp).bind fun e =>
      if e ≤ d.scale then ofSigned? d.negative d.magnitude (d.scale - e)
      else if maxScale < e then none
      else ofSigned? d.negative (d.magnitude * 10 ^ (e - d.scale)) 0

/-- The decimal a text denotes. An `e` or `E` splits the text into a plain decimal and an
    exponent. -/
def ofText? (s : String) : Option Decimal :=
  let cs := s.toList
  let isMark : Char → Bool := fun c => c = 'e' ∨ c = 'E'
  match cs.findIdx? isMark with
  | none => (readPlain cs).bind fun (neg, r) => ofReading? neg r
  | some i =>
    ((readPlain (cs.take i)).bind fun (neg, r) => ofReading? neg r).bind fun base =>
      scaleBy? base (cs.drop (i + 1))

end Decimal

end RobotTrading
