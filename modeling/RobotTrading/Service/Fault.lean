import RobotTrading.Robot.Codec

/-!
# Failed requests

Every failure a request can meet is answered as an object with the kind of the
failure and, for most kinds, its text. The kinds are the names under which the
causes are known to clients: a refused price is `InvalidPrice`, a refused
document is `Deserialize`, an arithmetic overflow is `Panic`, a malformed
request is `BadInput`.

## Main definitions

* `Fault` : kind and optional text.
* `Fault.toJson` : the answer object.
* `DomainError.fault`, `DecodeError.fault`, `RecordError.fault` : the kinds of the
  library's errors.
-/

namespace RobotTrading

/-- A failed request or step: the kind of failure and its text, if it has one. -/
structure Fault where
  /-- The name of the kind of failure. -/
  kind : String
  /-- The text of the failure. -/
  message : Option String
deriving DecidableEq

namespace Fault

/-- The answer object of a failure. -/
def toJson (f : Fault) : Json :=
  match f.message with
  | some m => .obj [("error", .str f.kind), ("message", .str m)]
  | none => .obj [("error", .str f.kind)]

/-- A malformed request. -/
def badInput (message : String) : Fault := ⟨"BadInput", some message⟩

/-- A request field that is absent or `null`. -/
def missing (key : String) : Fault := badInput ("missing field " ++ key)

/-- A decimal text that does not read. -/
def invalidDecimal : Fault := ⟨"InvalidDecimal", none⟩

/-- An arithmetic overflow or a part that cannot be built, with its text. -/
def panic (message : String) : Fault := ⟨"Panic", some message⟩

/-- A bounded wait that ran out. -/
def timeout : Fault := ⟨"Timeout", none⟩

/-- A part that cannot be built fails like an overflow, with the refusal's text. -/
def refuse : Option String → Except Fault Unit
  | some m => .error (panic m)
  | none => .ok ()

end Fault

/-- The failure of a domain error. -/
def DomainError.fault (e : DomainError) : Fault :=
  match e with
  | .nonPositivePrice _ => ⟨"InvalidPrice", some e.message⟩
  | .emptyTicker | .blankInTicker _ => ⟨"InvalidSymbol", some e.message⟩
  | .notTradable _ => ⟨"NotTradable", some e.message⟩

/-- The failure of a refused document; only a refused ticker keeps its text. -/
def DecodeError.fault : DecodeError → Fault
  | .malformed => ⟨"Deserialize", none⟩
  | .symbol e => ⟨"Deserialize", some e.message⟩

/-- The failure of a deal that could not be recorded. -/
def RecordError.fault : RecordError → Fault
  | .notTradable e => e.fault
  | .yieldOverflow => Fault.panic "Addition overflowed"

end RobotTrading
