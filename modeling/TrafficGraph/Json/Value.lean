import TrafficGraph.Binary64

/-!
# JSON values

The values of JSON, as they are read and written here: a number is an integer or
a binary fraction, and an object is the sequence of its members. A member is
looked up by the first of its name.
-/

namespace TrafficGraph

/-- A JSON value. -/
inductive Json where
  /-- The value `null`. -/
  | null
  /-- A truth value. -/
  | boolean (b : Bool)
  /-- A number without fraction and exponent. -/
  | integer (n : Int)
  /-- A number with a fraction or an exponent. -/
  | fraction (x : Binary64)
  /-- A text. -/
  | string (s : String)
  /-- A sequence of values. -/
  | array (items : List Json)
  /-- A sequence of named values. -/
  | object (members : List (String × Json))

namespace Json

/-- A natural number as a JSON value. -/
def ofNat (n : Nat) : Json := integer n

/-- The member of an object with the given name; other values have no members. -/
def member? (name : String) : Json → Option Json
  | object members => members.lookup name
  | _ => none

end Json

end TrafficGraph
