import RobotTrading.Binary.Shortest

/-!
# JSON documents

The request and answer format of the service. A document is kept as read:
numbers remember whether they were written as integers, and object members stay
in input order with any duplicates.

Lookups go through `Json.members`, the view of an object as a map: members sorted
by key, a repeated key keeping its last value. That is how the records of this
library (robots, ticks) read their fields.

Numbers: an integer literal that fits a 64-bit word (unsigned, or signed when
negative) is kept as an exact `Int`; any other literal is a binary64 value, kept
as a sign and a magnitude.

## Main definitions

* `Json` : the document tree.
* `Json.members`, `Json.get?` : the map view of an object.
* `Json.render` : compact text with escaped strings.
-/

namespace RobotTrading

/-- A JSON document. -/
inductive Json where
  | null
  | bool (b : Bool)
  /-- An integer literal within `-2 ^ 63 ≤ i < 2 ^ 64`. -/
  | int (i : Int)
  /-- Any other number literal, as the binary64 value it reads as. -/
  | float (negative : Bool) (magnitude : Binary)
  | str (s : String)
  | arr (items : List Json)
  /-- Members in input order. -/
  | obj (members : List (String × Json))
deriving Inhabited

namespace Json

/-- Insert a member into a key-sorted list, replacing an equal key. -/
def insertMember (m : String × Json) : List (String × Json) → List (String × Json)
  | [] => [m]
  | n :: rest =>
    if m.1 < n.1 then m :: n :: rest
    else if m.1 = n.1 then m :: rest
    else n :: insertMember m rest

/-- The members of an object as a map: sorted by key, the last of equal keys kept. -/
def members : Json → List (String × Json)
  | obj ms => ms.foldl (fun acc m => insertMember m acc) []
  | _ => []

/-- The value of a key in an object; `none` for a missing key or a non-object. -/
def get? (j : Json) (key : String) : Option Json :=
  (j.members.find? fun m => m.1 = key).map (·.2)

/-- The value of a key, with `null` counting as missing. -/
def field? (j : Json) (key : String) : Option Json :=
  match j.get? key with
  | some null => none
  | v => v

/-- Four hexadecimal digits of a code unit. -/
def hex4 (n : Nat) : String :=
  let d := Nat.toDigits 16 n
  String.ofList (List.replicate (4 - d.length) '0' ++ d)

/-- A string in quotes, with quote, backslash and control characters escaped. -/
def quote (s : String) : String :=
  let body := s.toList.flatMap fun c =>
    if c = '"' then ['\\', '"']
    else if c = '\\' then ['\\', '\\']
    else if c = '\n' then ['\\', 'n']
    else if c = '\r' then ['\\', 'r']
    else if c = '\t' then ['\\', 't']
    else if c = '\x08' then ['\\', 'b']
    else if c = '\x0c' then ['\\', 'f']
    else if c.toNat < 0x20 then ("\\u" ++ hex4 c.toNat).toList
    else [c]
  "\"" ++ String.ofList body ++ "\""

mutual
/-- Compact text of a document. -/
def render : Json → String
  | null => "null"
  | bool b => if b then "true" else "false"
  | int i => toString i
  | float negative b => (if negative then "-" else "") ++ b.text
  | str s => quote s
  | arr items => "[" ++ renderItems items ++ "]"
  | obj ms => "\x7b" ++ renderMembers ms ++ "\x7d"

/-- The items of an array, comma separated. -/
def renderItems : List Json → String
  | [] => ""
  | [j] => render j
  | j :: rest => render j ++ "," ++ renderItems rest

/-- The members of an object, comma separated. -/
def renderMembers : List (String × Json) → String
  | [] => ""
  | [(k, v)] => quote k ++ ":" ++ render v
  | (k, v) :: rest => quote k ++ ":" ++ render v ++ "," ++ renderMembers rest
end

end Json

end RobotTrading
