import RobotTrading.Robot.Basic

/-!
# Worker membership

A worker trades a set of robots. When a fresh robot list arrives, it is split
against the identifiers the worker already holds: robots to add, robots to keep
with their fresh record, and identifiers to drop. A repeated identifier in the
fresh list counts only at its first occurrence.

Sets of identifiers and of symbols are kept as strictly ascending lists:
`Ascending.insert` adds one element in place and `Ascending.ofList` builds the
set of a list's elements.

## Main definitions

* `Ascending.insert`, `Ascending.ofList`.
* `Robot.firstById` : a robot list with later repeats of an identifier removed.
* `MembershipDelta`, `MembershipDelta.partition`.
-/

namespace RobotTrading

namespace Ascending

variable {α : Type} [LT α] [DecidableRel (α := α) (· < ·)]

/-- Insert an element into a strictly ascending list, keeping it strictly ascending. -/
def insert (x : α) : List α → List α
  | [] => [x]
  | y :: ys => if x < y then x :: y :: ys else if y < x then y :: insert x ys else y :: ys

/-- The elements of a list, strictly ascending. -/
def ofList (xs : List α) : List α := xs.foldl (fun acc x => insert x acc) []

end Ascending

namespace Robot

/-- The robots of a list in order, each identifier kept at its first occurrence only. -/
def firstById (robots : List Robot) : List Robot :=
  (robots.foldl (fun (acc : List Int × List Robot) r =>
    if acc.1.contains r.robotId then acc else (r.robotId :: acc.1, r :: acc.2)) ([], [])).2.reverse

end Robot

/-- How a fresh robot list differs from the identifiers a worker holds. -/
structure MembershipDelta where
  /-- Robots not held yet, in list order. -/
  added : List Robot
  /-- Held identifiers missing from the fresh list, ascending. -/
  removed : List Int
  /-- Held robots still listed, with their fresh record, in list order. -/
  retained : List Robot

namespace MembershipDelta

/-- Split a fresh robot list against the held identifiers `current`. -/
def partition (current : List Int) (robots : List Robot) : MembershipDelta :=
  let fresh := Robot.firstById robots
  let ids := fresh.map (·.robotId)
  { added := fresh.filter fun r => !current.contains r.robotId
    removed := Ascending.ofList (current.filter fun i => !ids.contains i)
    retained := fresh.filter fun r => current.contains r.robotId }

/-- Identifiers of the added robots. -/
def addedIds (d : MembershipDelta) : List Int := d.added.map (·.robotId)

/-- Identifiers of the retained robots. -/
def retainedIds (d : MembershipDelta) : List Int := d.retained.map (·.robotId)

/-- Nothing is added or removed. -/
def isUnchanged (d : MembershipDelta) : Bool := d.added.isEmpty && d.removed.isEmpty

end MembershipDelta

end RobotTrading
