import RobotTrading.Concurrency.Queue

/-!
# Cancellation tokens

Cancellation tokens form a forest: a token made under a parent is cancelled
with it, and a token made under a cancelled parent starts cancelled. Tasks
watch the tokens they wait on and are woken when one is cancelled.

A cancellation reaches the tokens under a token before the token itself: each
token's children are visited newest first, every child after the tokens
under it.

## Main definitions

* `Token`, `Tokens`.
* `Tokens.create`, `Tokens.isCancelled`, `Tokens.watch`, `Tokens.unwatch`.
* `Tokens.cancel` : cancel a token and everything under it, waking their watchers.
-/

namespace RobotTrading

/-- One cancellation token. -/
structure Token where
  /-- The token it was made under. -/
  parent : Option Nat
  /-- It has been cancelled. -/
  cancelled : Bool
  /-- Tasks woken when it is cancelled, first come first. -/
  watchers : List TaskId

/-- All tokens, each named by its place in order of making. -/
structure Tokens where
  /-- The tokens in order of making. -/
  nodes : Array Token

namespace Tokens

/-- No tokens. -/
def empty : Tokens := ⟨#[]⟩

/-- The token named `i` is cancelled. -/
def isCancelled (ts : Tokens) (i : Nat) : Bool := (ts.nodes[i]?.map (·.cancelled)).getD false

/-- Make a token, under `parent` if given; it starts cancelled under a cancelled parent. -/
def create (ts : Tokens) (parent : Option Nat) : Tokens × Nat :=
  let cancelled := match parent with
    | some p => ts.isCancelled p
    | none => false
  (⟨ts.nodes.push ⟨parent, cancelled, []⟩⟩, ts.nodes.size)

/-- Task `t` watches token `i`. -/
def watch (ts : Tokens) (i : Nat) (t : TaskId) : Tokens :=
  ⟨ts.nodes.modify i fun n => if t ∈ n.watchers then n else { n with watchers := n.watchers ++ [t] }⟩

/-- Task `t` stops watching token `i`. -/
def unwatch (ts : Tokens) (i : Nat) (t : TaskId) : Tokens :=
  ⟨ts.nodes.modify i fun n => { n with watchers := n.watchers.erase t }⟩

/-- The tokens made directly under token `i`, oldest first. -/
def children (ts : Tokens) (i : Nat) : List Nat :=
  (List.range ts.nodes.size).filter fun j => (ts.nodes[j]?.bind (·.parent)) = some i

/-- The tokens a cancellation of `i` reaches, in order: under each child, newest child
    first, the tokens below it and then the child; `i` itself last. Tokens already cancelled
    are passed over with everything under them. -/
def reach (ts : Tokens) (i : Nat) : Nat → List Nat
  | 0 => [i]
  | fuel + 1 =>
    ((ts.children i).reverse.filter fun j => !ts.isCancelled j).flatMap (ts.reach · fuel) ++ [i]

/-- Cancel token `i` and every token under it, returning the watchers to wake in order. -/
def cancel (ts : Tokens) (i : Nat) : Tokens × List TaskId :=
  if ts.isCancelled i then (ts, [])
  else (ts.reach i ts.nodes.size).foldl (fun (acc : Tokens × List TaskId) j =>
    let woken := (acc.1.nodes[j]?.map (·.watchers)).getD []
    (⟨acc.1.nodes.modify j fun n => { n with cancelled := true, watchers := [] }⟩, acc.2 ++ woken))
    (ts, [])

end Tokens

end RobotTrading
