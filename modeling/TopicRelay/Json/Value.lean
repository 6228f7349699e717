/-
JSON values. A number is an integer or a finite double; the members of an object are kept in
ascending order of their names, each name once, so two objects are equal when they say the same.
-/
import TopicRelay.Decimal.Shortest

namespace TopicRelay.Json

open TopicRelay.Decimal

/-- A JSON number: an integer from `-2^63` up to `2^64 - 1`, or a double. -/
inductive Number where
  | integer (n : Int)
  | float (x : Binary64)
  deriving Repr, DecidableEq

/-- A JSON value. -/
inductive Value where
  | null
  | bool (b : Bool)
  | number (n : Number)
  | text (s : String)
  | array (items : List Value)
  | object (members : List (String × Value))
  deriving Repr, BEq, Inhabited

namespace Value

/-- Sets a member, in the order of names; an earlier member of the same name is replaced. -/
def insertMember (name : String) (v : Value) :
    List (String × Value) → List (String × Value)
  | [] => [(name, v)]
  | (n, w) :: rest =>
    if name < n then (name, v) :: (n, w) :: rest
    else if name == n then (name, v) :: rest
    else (n, w) :: insertMember name v rest

/-- The object that members given one after the other make. -/
def ofMembers (members : List (String × Value)) : Value :=
  .object (members.foldl (fun acc m => insertMember m.1 m.2 acc) [])

/-- The member of an object with the given name. -/
def get? (v : Value) (name : String) : Option Value :=
  match v with
  | .object members => members.lookup name
  | _ => none

end Value

/-- The least and the greatest integer that stay integers. -/
def leastInteger : Int := -(twoTo 63 : Int)

/-- The greatest integer that stays an integer. -/
def greatestInteger : Int := (twoTo 64 : Int) - 1

end TopicRelay.Json
