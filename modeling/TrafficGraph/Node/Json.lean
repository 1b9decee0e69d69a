import TrafficGraph.Json.Value
import TrafficGraph.Node
import TrafficGraph.Text.Quoted

/-!
# Nodes from JSON

A node is read from a JSON object by the names of its attributes, or from an array
by their order. Every attribute that is given must be a string; only the kind has
to be given, and other members of an object do not matter.

Of several faults, the one found first is reported: in an object the attributes
are looked at in alphabetical order and the kind is missed last, in an array the
items are looked at in order before they are counted.
-/

namespace TrafficGraph

/-- Why a JSON value is no node. -/
inductive ShapeFault where
  /-- The value is neither an object nor an array; its sort is given. -/
  | notRecord (found : String)
  /-- An attribute is not a string; its sort is given. -/
  | notText (found : String)
  /-- The kind is missing. -/
  | noKind
  /-- An array has no items. -/
  | noItems
  /-- An array has more items than there are attributes. -/
  | tooManyItems (count : Nat)
deriving DecidableEq, Repr

/-- The message of a fault of shape. -/
def ShapeFault.message : ShapeFault → String
  | notRecord found => s!"invalid type: {found}, expected struct ActionAttributes"
  | notText found => s!"invalid type: {found}, expected a string"
  | noKind => "missing field `kind`"
  | noItems => "invalid length 0, expected struct ActionAttributes with 9 elements"
  | tooManyItems count => s!"invalid length {count}, expected fewer elements in array"

/-- The sort of a JSON value as messages name it; scalars are shown with it. -/
def Json.sort : Json → String
  | null => "null"
  | boolean b => if b then "boolean `true`" else "boolean `false`"
  | integer n => "integer `" ++ (if n < 0 then "-" else "") ++ n.natAbs.repr ++ "`"
  | fraction x => "floating point `" ++ x.text ++ "`"
  | string s => "string " ++ Text.inQuotes s
  | array _ => "sequence"
  | object _ => "map"

/-- The text of a JSON string. -/
def Json.text? : Json → Option String
  | string s => some s
  | _ => none

/-- The fault of a JSON value that should be a string. -/
def Json.misfit? : Json → Option ShapeFault
  | string _ => none
  | v => some (.notText v.sort)

namespace Node

/-- The attributes in the order of the items of an array. -/
def attributes : List String :=
  ["kind", "time", "serverport", "peers", "socksproxy", "count", "size", "type", "protocol"]

/-- The attributes in alphabetical order. -/
def attributesSorted : List String :=
  ["count", "kind", "peers", "protocol", "serverport", "size", "socksproxy", "time", "type"]

/-- The node whose attributes are given by name, unless it has no kind. An
attribute that is not given is the empty text. -/
def ofTexts? (text : String → Option String) : Option Node :=
  (text "kind").map fun kind =>
    { kind := kind
      time := (text "time").getD ""
      serverport := (text "serverport").getD ""
      peers := (text "peers").getD ""
      socksproxy := (text "socksproxy").getD ""
      count := (text "count").getD ""
      size := (text "size").getD ""
      direction := (text "type").getD ""
      protocol := (text "protocol").getD "" }

/-- The text of a member of the given name, if there is one and it is a string. -/
def memberText? (members : List (String × Json)) (name : String) : Option String :=
  (members.lookup name).bind Json.text?

/-- The node that the members of an object are. -/
def ofMembers (members : List (String × Json)) : Except ShapeFault Node :=
  match attributesSorted.findSome? fun name => (members.lookup name).bind Json.misfit? with
  | some fault => .error fault
  | none =>
    match ofTexts? (memberText? members) with
    | some n => .ok n
    | none => .error .noKind

/-- The node that the items of an array are. -/
def ofItems (items : List Json) : Except ShapeFault Node :=
  match (items.take attributes.length).findSome? Json.misfit? with
  | some fault => .error fault
  | none =>
    if attributes.length < items.length then .error (.tooManyItems items.length)
    else match ofTexts? (memberText? (attributes.zip items)) with
      | some n => .ok n
      | none => .error .noItems

/-- **The node that a JSON value is.** -/
def ofJson : Json → Except ShapeFault Node
  | .object members => ofMembers members
  | .array items => ofItems items
  | v => .error (.notRecord v.sort)

end Node

end TrafficGraph
