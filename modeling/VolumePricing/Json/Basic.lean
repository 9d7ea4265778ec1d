/-!
# JSON values

A value keeps the members of an object in the order written and keeps integers
apart from other numbers, since a count may not be written with a fraction.
Text that is not JSON has a value too, as far as it can be read: `cut` stands
where the text stops being JSON, `unreadable` for a number or a string that is
written correctly but denotes nothing, and `misnamed` for a member whose name
denotes nothing. A reader of such a value meets its faults in the order of the
text.
-/

namespace VolumePricing

inductive Json where
  | null
  | bool (b : Bool)
  | int (n : Int)
  | real (x : Float)
  | string (s : String)
  | array (items : List Json)
  | object (members : List (String × Json))
  | unreadable
  | misnamed (value : Json)
  | cut
  deriving Inhabited

namespace Json

mutual

/-- The text of the value is JSON from its first to its last character. -/
def intact : Json → Bool
  | .array items => intactItems items
  | .object members => intactMembers members
  | .misnamed value => value.intact
  | .cut => false
  | _ => true

def intactItems : List Json → Bool
  | [] => true
  | j :: js => j.intact && intactItems js

def intactMembers : List (String × Json) → Bool
  | [] => true
  | m :: ms => m.2.intact && intactMembers ms

end

/-- The name under which the value stands as a member denotes something. -/
def named : Json → Bool
  | .misnamed _ => false
  | _ => true

mutual

/-- Every part of the value denotes something. -/
def legible : Json → Bool
  | .array items => legibleItems items
  | .object members => legibleMembers members
  | .unreadable => false
  | .misnamed _ => false
  | .cut => false
  | _ => true

def legibleItems : List Json → Bool
  | [] => true
  | j :: js => j.legible && legibleItems js

def legibleMembers : List (String × Json) → Bool
  | [] => true
  | m :: ms => m.2.legible && legibleMembers ms

end

mutual

/-- How many arrays and objects stand inside one another. -/
def depth : Json → Nat
  | .array items => depthOfItems items + 1
  | .object members => depthOfMembers members + 1
  | .misnamed value => value.depth
  | _ => 0

def depthOfItems : List Json → Nat
  | [] => 0
  | j :: js => max j.depth (depthOfItems js)

def depthOfMembers : List (String × Json) → Nat
  | [] => 0
  | m :: ms => max m.2.depth (depthOfMembers ms)

end

/-- A number that is not finite has no numeral, so it is written as nothing. -/
def ofFloat (x : Float) : Json :=
  if x.isFinite then .real x else .null

def ofOption {α : Type} (f : α → Json) : Option α → Json
  | none => .null
  | some a => f a

/-- The member of that name, if the value is an object with one. The last of several counts. -/
def member? (name : String) : Json → Option Json
  | .object members => members.reverse.lookup name
  | _ => none

end Json

end VolumePricing
