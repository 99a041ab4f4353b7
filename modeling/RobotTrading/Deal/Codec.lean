import RobotTrading.Deal.Machine
import RobotTrading.Market.Codec

/-!
# Deals in documents

The document forms of the deal machine's values: a policy is `one_leg_per_tick`
or `same_tick_round_trip`, also as the one key of an object with value `null`; a state is `"Buying"` or
`{"Selling": {"bought_at": P}}`; a completed deal is `{"bought_at", "sold_at"}`;
an outcome is tagged by `kind`, a completed one also carrying its profit.

## Main definitions

* `DealPolicy.ofJson?`, `DealPolicy.name`.
* `DealState.toJson`, `CompletedDeal.toJson`, `TickOutcome.toJson`.
-/

namespace RobotTrading

namespace DealPolicy

/-- The name of a policy. -/
def name : DealPolicy → String
  | oneLegPerTick => "one_leg_per_tick"
  | sameTickRoundTrip => "same_tick_round_trip"

/-- A policy from its name. -/
def ofName? : String → Except DecodeError DealPolicy
  | "one_leg_per_tick" => .ok oneLegPerTick
  | "same_tick_round_trip" => .ok sameTickRoundTrip
  | _ => .error .malformed

/-- A policy from its name, or from an object whose one member is the name with `null`. -/
def ofJson? : Json → Except DecodeError DealPolicy
  | .str name => ofName? name
  | .obj [(name, .null)] => ofName? name
  | _ => .error .malformed

end DealPolicy

/-- The document of a price. -/
def Price.toJson (p : Price) : Json := Field.ofDecimal p.value

/-- The document of a decision state. -/
def DealState.toJson : DealState → Json
  | .buying => .str "Buying"
  | .selling p => .obj [("Selling", .obj [("bought_at", p.toJson)])]

/-- The document of a completed deal. -/
def CompletedDeal.toJson (d : CompletedDeal) : Json :=
  .obj [("bought_at", d.boughtAt.toJson), ("sold_at", d.soldAt.toJson)]

/-- The document of a tick outcome. -/
def TickOutcome.toJson : TickOutcome → Json
  | .idle => .obj [("kind", .str "idle")]
  | .bought p => .obj [("kind", .str "bought"), ("price", p.toJson)]
  | .completed d => .obj [("kind", .str "completed"), ("bought_at", d.boughtAt.toJson),
      ("sold_at", d.soldAt.toJson), ("profit", Field.ofOption Field.ofDecimal d.profit?)]

end RobotTrading
