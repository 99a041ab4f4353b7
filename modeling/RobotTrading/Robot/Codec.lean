import RobotTrading.Market.Codec
import RobotTrading.Robot.Basic

/-!
# Robots in documents

The document form of a robot has seventeen fields, written with `null` for an
unset value, decimals as texts and instants in UTC.

Reading accepts an object, whose fields are read in the order of their names
(unknown names are skipped, the identifiers and flags are required), or an array
of exactly seventeen values in the order of the record's fields.

## Main definitions

* `Robot.ofJson?` : a robot from its document.
* `Robot.toJson` : the document of a robot.
* `Robot.compact` : the short form `[robot_id, fact_yield, deals_count]`.
-/

namespace RobotTrading

namespace Robot

/-- The number of fields of a robot record. -/
def fieldCount : Nat := 17

/-- A robot from an object, its fields read in the order of their names. -/
def ofObject? (j : Json) : Except DecodeError Robot := do
  let activatedAt ← Field.optional j "activated_at" Field.instant
  let buyPrice ← Field.optional j "buy_price" Field.decimal
  let createdAt ← Field.optional j "created_at" Field.instant
  let deactivatedAt ← Field.optional j "deactivated_at" Field.instant
  let dealsCount ← Field.optional j "deals_count" Field.int64
  let deletedAt ← Field.optional j "deleted_at" Field.instant
  let factYield ← Field.optional j "fact_yield" Field.decimal
  let isActive ← Field.required j "is_active" Field.flag
  let isFavourite ← Field.required j "is_favourite" Field.flag
  let ownerUserId ← Field.required j "owner_user_id" Field.int64
  let parentRobotId ← Field.optional j "parent_robot_id" Field.int64
  let planEnd ← Field.optional j "plan_end" Field.instant
  let planStart ← Field.optional j "plan_start" Field.instant
  let planYield ← Field.optional j "plan_yield" Field.decimal
  let robotId ← Field.required j "robot_id" Field.int64
  let sellPrice ← Field.optional j "sell_price" Field.decimal
  let ticker ← Field.optional j "ticker" Field.symbol
  let robotId ← Field.present robotId
  let ownerUserId ← Field.present ownerUserId
  let isFavourite ← Field.present isFavourite
  let isActive ← Field.present isActive
  pure {
    robotId, ownerUserId, parentRobotId, isFavourite, isActive, ticker, buyPrice, sellPrice,
    planStart, planEnd, planYield, factYield, dealsCount
    activatedAt := activatedAt.map .at
    deactivatedAt := deactivatedAt.map .at
    createdAt := createdAt.map .at
    deletedAt := deletedAt.map .at }

/-- A robot from an array of its seventeen field values in record order. The values present
    are read in order before a wrong length is refused. -/
def ofArray? (items : List Json) : Except DecodeError Robot := do
  let whenHave {α : Type} (i : Nat) (read : Field.Reader α) (default : α) :
      Except DecodeError α :=
    match items[i]? with
    | some v => read v
    | none => .ok default
  let robotId ← whenHave 0 Field.int64 0
  let ownerUserId ← whenHave 1 Field.int64 0
  let parentRobotId ← whenHave 2 (Field.nullable Field.int64) none
  let isFavourite ← whenHave 3 Field.flag false
  let isActive ← whenHave 4 Field.flag false
  let ticker ← whenHave 5 (Field.nullable Field.symbol) none
  let buyPrice ← whenHave 6 (Field.nullable Field.decimal) none
  let sellPrice ← whenHave 7 (Field.nullable Field.decimal) none
  let planStart ← whenHave 8 (Field.nullable Field.instant) none
  let planEnd ← whenHave 9 (Field.nullable Field.instant) none
  let planYield ← whenHave 10 (Field.nullable Field.decimal) none
  let factYield ← whenHave 11 (Field.nullable Field.decimal) none
  let dealsCount ← whenHave 12 (Field.nullable Field.int64) none
  let activatedAt ← whenHave 13 (Field.nullable Field.instant) none
  let deactivatedAt ← whenHave 14 (Field.nullable Field.instant) none
  let createdAt ← whenHave 15 (Field.nullable Field.instant) none
  let deletedAt ← whenHave 16 (Field.nullable Field.instant) none
  if items.length ≠ fieldCount then throw .malformed
  pure {
    robotId, ownerUserId, parentRobotId, isFavourite, isActive, ticker, buyPrice, sellPrice,
    planStart, planEnd, planYield, factYield, dealsCount
    activatedAt := activatedAt.map .at
    deactivatedAt := deactivatedAt.map .at
    createdAt := createdAt.map .at
    deletedAt := deletedAt.map .at }

/-- A robot from its document. -/
def ofJson? : Json → Except DecodeError Robot
  | j@(.obj _) => ofObject? j
  | .arr items => ofArray? items
  | _ => .error .malformed

/-- The document of a robot. -/
def toJson (r : Robot) : Json :=
  let dec := Field.ofOption Field.ofDecimal
  let time := Field.ofOption fun t => Json.str (Field.stampText t)
  .obj [
    ("activated_at", time r.activatedAt),
    ("buy_price", dec r.buyPrice),
    ("created_at", time r.createdAt),
    ("deactivated_at", time r.deactivatedAt),
    ("deals_count", Field.ofOption .int r.dealsCount),
    ("deleted_at", time r.deletedAt),
    ("fact_yield", dec r.factYield),
    ("is_active", .bool r.isActive),
    ("is_favourite", .bool r.isFavourite),
    ("owner_user_id", .int r.ownerUserId),
    ("parent_robot_id", Field.ofOption .int r.parentRobotId),
    ("plan_end", Field.ofOption (fun t => Json.str t.render) r.planEnd),
    ("plan_start", Field.ofOption (fun t => Json.str t.render) r.planStart),
    ("plan_yield", dec r.planYield),
    ("robot_id", .int r.robotId),
    ("sell_price", dec r.sellPrice),
    ("ticker", Field.ofOption (fun s => Json.str s.text) r.ticker)]

/-- The short form of a robot: identifier, yield and deal count. -/
def compact (r : Robot) : Json :=
  .arr [.int r.robotId, Field.ofOption Field.ofDecimal r.factYield,
    Field.ofOption .int r.dealsCount]

end Robot

end RobotTrading
