import RobotTrading.Robot.Basic

/-!
# The robot store

An in-memory robot store: one record per robot identifier, kept in identifier
order, with a counter of successful trade writes and a number of pending
injected write failures.

The trading engine reads the robots eligible at an instant and writes back only
the trading results (yield and deal count) of a robot. The other writes
(insert or replace, switching on or off, soft delete) belong to the management
side and stamp the clock's reading.

## Main definitions

* `StoreError` and its text.
* `Store`, `Store.ofRobots`, `Store.get?`, `Store.upsert`, `Store.setActive`,
  `Store.softDelete`, `Store.findActive`, `Store.saveTrade`, `Store.failNextTrades`,
  `Store.clear`.
-/

namespace RobotTrading

/-- Why a store operation failed. -/
inductive StoreError where
  /-- No record of the given kind has the identifier. -/
  | notFound (entity id : String)
  /-- The database refused the operation. -/
  | database (message : String)
  /-- The database could not be reached. -/
  | connection (message : String)
  /-- A stored row is not a valid record. -/
  | deserialization (message : String)
deriving DecidableEq

namespace StoreError

/-- The text of a store error. -/
def message : StoreError → String
  | notFound e i => "Entity not found: " ++ e ++ " with id " ++ i
  | database m => "Database error: " ++ m
  | connection m => "Connection error: " ++ m
  | deserialization m => "Deserialization error: " ++ m

/-- No robot has the identifier. -/
def robotNotFound (id : Int) : StoreError := notFound "robot" (toString id)

end StoreError

/-- The in-memory store. -/
structure Store where
  /-- The records, ascending by identifier, one per identifier. -/
  rows : List Robot
  /-- Successful trade writes. -/
  tradeWrites : Nat
  /-- Trade writes still to fail. -/
  failTrades : Nat
deriving DecidableEq

namespace Store

/-- The empty store. -/
def empty : Store := ⟨[], 0, 0⟩

/-- Insert a record in identifier order, replacing one with the same identifier. -/
def insertRow (r : Robot) : List Robot → List Robot
  | [] => [r]
  | x :: xs =>
    if r.robotId < x.robotId then r :: x :: xs
    else if r.robotId = x.robotId then r :: xs
    else x :: insertRow r xs

/-- Change the record with the identifier, if there is one. -/
def modifyRow (id : Int) (f : Robot → Robot) : List Robot → List Robot
  | [] => []
  | x :: xs => if x.robotId = id then f x :: xs else x :: modifyRow id f xs

/-- The record with the identifier. -/
def get? (s : Store) (id : Int) : Option Robot := s.rows.find? (·.robotId = id)

/-- The number of records. -/
def count (s : Store) : Nat := s.rows.length

/-- Insert a record or replace the one with its identifier. -/
def upsert (s : Store) (r : Robot) : Store := { s with rows := insertRow r s.rows }

/-- A store holding the robots, a later record of an identifier replacing an earlier one. -/
def ofRobots (rs : List Robot) : Store := rs.foldl upsert empty

/-- Apply a change to an existing record, or fail with not found. -/
def update (s : Store) (id : Int) (f : Robot → Robot) : Except StoreError Store :=
  if (s.get? id).isSome then .ok { s with rows := modifyRow id f s.rows }
  else .error (.robotNotFound id)

/-- Switch a robot on or off, stamping the activation or deactivation now. -/
def setActive (s : Store) (id : Int) (active : Bool) : Except StoreError Store :=
  s.update id fun r =>
    if active then { r with isActive := true, activatedAt := some .now }
    else { r with isActive := false, deactivatedAt := some .now }

/-- Mark a robot deleted now. -/
def softDelete (s : Store) (id : Int) : Except StoreError Store :=
  s.update id fun r => { r with deletedAt := some .now }

/-- The robots eligible at `now`, in identifier order. -/
def findActive (s : Store) (now : Instant) : List Robot := s.rows.filter (·.eligibleAt now)

/-- Write back the trading results of a robot. A pending injected failure is used up
    first, before the record is looked up; a successful write counts. -/
def saveTrade (s : Store) (r : Robot) : Store × Except StoreError Unit :=
  if s.failTrades > 0 then
    ({ s with failTrades := s.failTrades - 1 }, .error (.database "injected failure"))
  else
    match s.update r.robotId fun x => { x with factYield := r.factYield, dealsCount := r.dealsCount } with
    | .ok s' => ({ s' with tradeWrites := s'.tradeWrites + 1 }, .ok ())
    | .error e => (s, .error e)

/-- Make the next `n` trade writes fail. -/
def failNextTrades (s : Store) (n : Nat) : Store := { s with failTrades := n }

/-- Remove every record and reset the counters. -/
def clear (_ : Store) : Store := empty

end Store

end RobotTrading
