import RobotTrading.Decimal.Text
import RobotTrading.Json.Basic
import RobotTrading.Market.Price
import RobotTrading.Time.Read

/-!
# Domain values in documents

How the fields of a stored record are read from a document and written back.

* Integers are signed 64-bit: an integer literal in that range, nothing else.
* Flags are `true` or `false`.
* Decimals are a text (read as a decimal text), an integer literal within the
  unsigned or signed 64-bit range (taken exactly), or any other number literal
  (read as binary64, then through its shortest positional text, which overflows
  and rounds as any decimal text does; a negative zero reads as `-0`).
* Instants are RFC 3339 texts with any offset.
* Symbols are texts normalized by `Symbol.ofText`; a refused ticker is the one
  failure that keeps its reason.

A record is refused as a whole by its first failing field, taken in the order of
the field names; a missing required field is reported only when every present
field reads.

## Main definitions

* `Decimal.ofBinary?` : the decimal of a signed binary64 value.
* `DecodeError` : why a record was refused.
* `Field.int64`, `Field.flag`, `Field.decimal`, `Field.instant`, `Field.symbol`.
* `Field.required`, `Field.optional` : a field looked up in an object.
* `PriceTick.ofJson?`, `PriceTick.toJson` : the document form of a tick.
-/

namespace RobotTrading

namespace Decimal

/-- The decimal of the binary64 value with the given sign and magnitude: its shortest text
    read as a decimal. -/
def ofBinary? (negative : Bool) (b : Binary) : Option Decimal :=
  ofText? ((if negative then "-" else "") ++ b.text)

end Decimal

/-- Why a record could not be read from a document. -/
inductive DecodeError where
  /-- A field has the wrong form, a required field is missing, or the shape is wrong. -/
  | malformed
  /-- A ticker was refused. -/
  | symbol (e : DomainError)
deriving DecidableEq

namespace Field

/-- A field reader. -/
abbrev Reader (α : Type) := Json → Except DecodeError α

/-- A signed 64-bit integer literal. -/
def int64 : Reader Int
  | .int i => if isInt64 i then .ok i else .error .malformed
  | _ => .error .malformed

/-- A flag. -/
def flag : Reader Bool
  | .bool b => .ok b
  | _ => .error .malformed

/-- A decimal: a decimal text, an exact integer literal, or a binary64 literal. -/
def decimal : Reader Decimal
  | .str s => (Decimal.ofText? s).elim (.error .malformed) .ok
  | .int i => (Decimal.ofInt? i).elim (.error .malformed) .ok
  | .float negative b => (Decimal.ofBinary? negative b).elim (.error .malformed) .ok
  | _ => .error .malformed

/-- An instant written in RFC 3339. -/
def instant : Reader Instant
  | .str s => (Instant.ofText? s).elim (.error .malformed) .ok
  | _ => .error .malformed

/-- A ticker, normalized. -/
def symbol : Reader Symbol
  | .str s => match Symbol.ofText s with
    | .ok sym => .ok sym
    | .error e => .error (.symbol e)
  | _ => .error .malformed

/-- A field that may be absent: its value read, `none` when absent. A `null` is read as
    any other value. -/
def required {α : Type} (j : Json) (key : String) (read : Reader α) :
    Except DecodeError (Option α) :=
  match j.get? key with
  | none => .ok none
  | some v => (read v).map some

/-- A field whose absence and `null` both mean unset. -/
def optional {α : Type} (j : Json) (key : String) (read : Reader α) :
    Except DecodeError (Option α) :=
  match j.get? key with
  | none => .ok none
  | some .null => .ok none
  | some v => (read v).map some

/-- An element that may be `null`. -/
def nullable {α : Type} (read : Reader α) : Reader (Option α)
  | .null => .ok none
  | v => (read v).map some

/-- A present required value. -/
def present {α : Type} : Option α → Except DecodeError α
  | some a => .ok a
  | none => .error .malformed

/-- The document text of a moment; the clock's reading shows as a placeholder. -/
def stampText : Stamp → String
  | .at t => t.render
  | .now => "<now>"

/-- A decimal in a document. -/
def ofDecimal (d : Decimal) : Json := .str d.render

/-- An unset value is `null`. -/
def ofOption {α : Type} (f : α → Json) : Option α → Json
  | some a => f a
  | none => .null

end Field

namespace PriceTick

/-- A tick from its document: an object with `buy_price`, `sell_price`, `symbol` and
    `timestamp`, or an array of the four in the order symbol, buy, sell, timestamp. Prices
    are taken as written, without the positivity check. -/
def ofJson? (j : Json) : Except DecodeError PriceTick :=
  match j with
  | .obj _ => do
    let buy ← Field.required j "buy_price" Field.decimal
    let sell ← Field.required j "sell_price" Field.decimal
    let sym ← Field.required j "symbol" Field.symbol
    let stamp ← Field.required j "timestamp" Field.instant
    let sym ← Field.present sym
    let buy ← Field.present buy
    let sell ← Field.present sell
    let stamp ← Field.present stamp
    pure ⟨sym, ⟨buy⟩, ⟨sell⟩, .at stamp⟩
  | .arr [s, b, l, t] => do
    let sym ← Field.symbol s
    let buy ← Field.decimal b
    let sell ← Field.decimal l
    let stamp ← Field.instant t
    pure ⟨sym, ⟨buy⟩, ⟨sell⟩, .at stamp⟩
  | .arr items => do
    -- a short or long array reads its leading elements before it is refused
    let _ ← (items.head?.map Field.symbol).getD (.ok default)
    let _ ← ((items.drop 1).head?.map Field.decimal).getD (.ok Decimal.zero)
    let _ ← ((items.drop 2).head?.map Field.decimal).getD (.ok Decimal.zero)
    let _ ← ((items.drop 3).head?.map Field.instant).getD (.ok default)
    .error .malformed
  | _ => .error .malformed

/-- The document of a tick. -/
def toJson (t : PriceTick) : Json :=
  .obj [("buy_price", Field.ofDecimal t.buy.value), ("sell_price", Field.ofDecimal t.sell.value),
    ("symbol", .str t.symbol.text), ("timestamp", .str (Field.stampText t.stamp))]

end PriceTick

end RobotTrading
