import RobotTrading.Service.Fault

/-!
# Request fields

Readers of the fields of a request object. A field that is absent or `null` is
missing; a field of the wrong kind is a malformed request.

Decimals in requests are a decimal text or an integer literal within the 64-bit
ranges; a text that does not read is an invalid decimal, any other value a
malformed request.

## Main definitions

* `Request.need`, `Request.string`, `Request.int`, `Request.flag`, `Request.list`.
* `Request.decimal`, `Request.instant`, `Request.robot`, `Request.robots`.
-/

namespace RobotTrading

-- Powers of naturals and integers are the core ones (`Nat.pow`, `Int.pow`), also where a
-- larger library brings its own.
attribute [local instance (high)] instPowNat

namespace Request

/-- The result of reading a request. -/
abbrev Reading (α : Type) := Except Fault α

/-- A present field. -/
def need (req : Json) (key : String) : Reading Json :=
  match req.field? key with
  | some v => .ok v
  | none => .error (Fault.missing key)

/-- A text value. -/
def asString (key : String) : Json → Reading String
  | .str s => .ok s
  | _ => .error (Fault.badInput ("field " ++ key ++ " must be a string"))

/-- A signed 64-bit integer value. -/
def asInt (key : String) : Json → Reading Int
  | .int i => if isInt64 i then .ok i else .error (Fault.badInput ("field " ++ key ++ " must be an integer"))
  | _ => .error (Fault.badInput ("field " ++ key ++ " must be an integer"))

/-- An unsigned 64-bit integer value. -/
def asNat (key : String) : Json → Reading Nat
  | .int i => if 0 ≤ i ∧ i < 2 ^ (64 : Nat) then .ok i.toNat
    else .error (Fault.badInput ("field " ++ key ++ " must be a non-negative integer"))
  | _ => .error (Fault.badInput ("field " ++ key ++ " must be a non-negative integer"))

/-- A flag value. -/
def asFlag (key : String) : Json → Reading Bool
  | .bool b => .ok b
  | _ => .error (Fault.badInput ("field " ++ key ++ " must be a boolean"))

/-- An array value. -/
def asList (key : String) : Json → Reading (List Json)
  | .arr items => .ok items
  | _ => .error (Fault.badInput ("field " ++ key ++ " must be an array"))

/-- A decimal value: a decimal text or an integer literal. -/
def asDecimal : Json → Reading Decimal
  | .str s => (Decimal.ofText? s).elim (.error Fault.invalidDecimal) .ok
  | .int i => (Decimal.ofInt? i).elim (.error Fault.invalidDecimal) .ok
  | _ => .error (Fault.badInput "decimal must be a string or an integer")

/-- An RFC 3339 instant. -/
def asInstant (key : String) : Json → Reading Instant
  | .str s => (Instant.ofText? s).elim
    (.error (Fault.badInput ("field " ++ key ++ " must be an RFC 3339 time"))) .ok
  | _ => .error (Fault.badInput ("field " ++ key ++ " must be an RFC 3339 time"))

/-- A robot document. -/
def asRobot (v : Json) : Reading Robot :=
  (Robot.ofJson? v).mapError DecodeError.fault

/-- A required text field. -/
def string (req : Json) (key : String) : Reading String := need req key >>= asString key

/-- A required integer field. -/
def int (req : Json) (key : String) : Reading Int := need req key >>= asInt key

/-- A required unsigned integer field. -/
def nat (req : Json) (key : String) : Reading Nat := need req key >>= asNat key

/-- A required flag field. -/
def flag (req : Json) (key : String) : Reading Bool := need req key >>= asFlag key

/-- A required array field. -/
def list (req : Json) (key : String) : Reading (List Json) := need req key >>= asList key

/-- A required decimal field. -/
def decimal (req : Json) (key : String) : Reading Decimal := need req key >>= asDecimal

/-- A required instant field. -/
def instant (req : Json) (key : String) : Reading Instant := need req key >>= asInstant key

/-- A required robot field. -/
def robot (req : Json) (key : String) : Reading Robot := need req key >>= asRobot

/-- A required array of robots. -/
def robots (req : Json) (key : String) : Reading (List Robot) := do
  let items ← list req key
  items.mapM asRobot

/-- A step with the text of its operation, which is a required text field. -/
def namedStep (step : Json) : Reading (String × Json) :=
  (string step "op").map fun op => (op, step)

/-- An optional field read by `read`, `none` when missing. -/
def optional {α : Type} (req : Json) (key : String) (read : Json → Reading α) :
    Reading (Option α) :=
  match req.field? key with
  | some v => (read v).map some
  | none => .ok none

/-- An optional field that counts as missing when `read` refuses it. -/
def lenient {α : Type} (req : Json) (key : String) (read : Json → Reading α) : Option α :=
  (req.field? key).bind fun v => (read v).toOption

/-- An optional field with a default. -/
def withDefault {α : Type} (req : Json) (key : String) (read : Json → Reading α) (d : α) :
    Reading α :=
  (optional req key read).map (·.getD d)

end Request

end RobotTrading
