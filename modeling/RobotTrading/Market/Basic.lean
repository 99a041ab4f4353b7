import RobotTrading.Decimal.Text
import RobotTrading.Text.Basic
import RobotTrading.Text.Case

/-!
# Basic market values

The values the whole domain shares.

Identifiers and counters are signed 64-bit integers, kept as `Int` within the
range. A counter steps by one and wraps from the largest value to the smallest,
as a machine word does.

A domain value can be refused: a price that is not positive, a ticker that is
empty or holds a blank, and a robot that cannot record deals because its
counters are unset. `DomainError.message` is the one place that words them.

A `Symbol` is a normalized ticker: the text with surrounding blanks removed,
refused when nothing is left or when a blank remains inside, and otherwise
upper-cased with the full Unicode mapping. Symbols are ordered by their text,
which is the order of their UTF-8 bytes.

## Main definitions

* `int64Max`, `int64Min`, `isInt64`, `counterNext` : signed 64-bit values.
* `DomainError` and `DomainError.message`.
* `Symbol` and `Symbol.ofText`.
-/

namespace RobotTrading

section Int64

-- Powers of naturals and integers are the core ones (`Nat.pow`, `Int.pow`), also where a
-- larger library brings its own.
attribute [local instance (high)] instPowNat

/-- The largest signed 64-bit value. -/
def int64Max : Int := 2 ^ (63 : Nat) - 1

/-- The smallest signed 64-bit value. -/
def int64Min : Int := -2 ^ (63 : Nat)

/-- Whether an integer is a signed 64-bit value. -/
def isInt64 (i : Int) : Bool := int64Min ≤ i && i ≤ int64Max

/-- The next value of a signed 64-bit counter, wrapping at the top. -/
def counterNext (n : Int) : Int := if n = int64Max then int64Min else n + 1

end Int64

/-- Why a domain value was refused. -/
inductive DomainError where
  /-- A price must be strictly positive. -/
  | nonPositivePrice (value : Decimal)
  /-- A ticker must hold a character other than blanks. -/
  | emptyTicker
  /-- A ticker may not hold a blank between its characters; the trimmed text is kept. -/
  | blankInTicker (trimmed : String)
  /-- The robot has no yield or no deal counter. -/
  | notTradable (robotId : Int)
deriving DecidableEq

namespace DomainError

/-- The text of a domain error. -/
def message : DomainError → String
  | nonPositivePrice v => "Invalid price: Price must be positive, got " ++ v.render
  | emptyTicker => "Invalid symbol: Ticker must be non-empty"
  | blankInTicker t => "Invalid symbol: Ticker must not contain whitespace: " ++ t
  | notTradable id => "Robot " ++ toString id ++ " is not configured for trading"

end DomainError

/-- A normalized ticker. -/
structure Symbol where
  /-- The upper-cased, trimmed ticker text. -/
  text : String
deriving DecidableEq, Inhabited

namespace Symbol

instance : Ord Symbol := ⟨fun a b => compare a.text b.text⟩

instance : LT Symbol := ⟨fun a b => a.text < b.text⟩

instance (a b : Symbol) : Decidable (a < b) := inferInstanceAs (Decidable (a.text < b.text))

/-- Normalize a ticker: trim blanks, refuse an empty or blank-holding ticker, upper-case. -/
def ofText (raw : String) : Except DomainError Symbol :=
  let trimmed := Text.trimBlank raw
  if trimmed.isEmpty then .error .emptyTicker
  else if trimmed.toList.any Text.isBlank then .error (.blankInTicker trimmed)
  else .ok ⟨Text.upper trimmed⟩

end Symbol

end RobotTrading
