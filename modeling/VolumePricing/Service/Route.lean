import VolumePricing.Http.Message
import VolumePricing.Text.Split

/-!
# Routes

A path leads to a route, and a route with a method to an endpoint. Some
endpoints are for shoppers with a token, some for staff only, the rest for
anyone. A place in a path that stands for an id takes any text that is not
empty.
-/

namespace VolumePricing

inductive Route
  | health
  | guestLogin
  | tiers
  | calculate
  | reorder
  | recalculate
  | tier (id : List Char)
  | summary
  | items
  | item (id : List Char)
  | notifications
  | guestPrice
  deriving DecidableEq, Repr

inductive Endpoint
  | health
  | guestLogin
  | listTiers
  | createTier
  | calculate
  | reorderTiers
  | recalculate
  | getTier (id : List Char)
  | updateTier (id : List Char)
  | deleteTier (id : List Char)
  | summary
  | addItem
  | updateItem (id : List Char)
  | removeItem (id : List Char)
  | notifications
  | guestPrice
  deriving DecidableEq, Repr

/-- Whom an endpoint serves. -/
inductive Access
  | anyone
  | shopper
  | staff
  deriving DecidableEq, Repr

namespace Route

def ofPath? (path : List Char) : Option Route :=
  match (Text.splitAll '/' path).map String.ofList with
  | ["", "health"] => some .health
  | ["", "auth", "guest"] => some .guestLogin
  | ["", "settings", "price-tiers"] => some .tiers
  | ["", "settings", "price-tiers", "calculate"] => some .calculate
  | ["", "settings", "price-tiers", "reorder"] => some .reorder
  | ["", "settings", "price-tiers", "recalculate-products"] => some .recalculate
  | ["", "settings", "price-tiers", id] => if id = "" then none else some (.tier id.toList)
  | ["", "cart", "summary"] => some .summary
  | ["", "cart", "items"] => some .items
  | ["", "cart", "items", id] => if id = "" then none else some (.item id.toList)
  | ["", "cart", "notifications"] => some .notifications
  | ["", "cart", "guest-price"] => some .guestPrice
  | _ => none

/-- The endpoints of a route by method. -/
def endpoints : Route → List (String × Endpoint)
  | .health => [("GET", .health)]
  | .guestLogin => [("POST", .guestLogin)]
  | .tiers => [("GET", .listTiers), ("POST", .createTier)]
  | .calculate => [("GET", .calculate)]
  | .reorder => [("PUT", .reorderTiers)]
  | .recalculate => [("POST", .recalculate)]
  | .tier id => [("GET", .getTier id), ("PUT", .updateTier id), ("DELETE", .deleteTier id)]
  | .summary => [("GET", .summary)]
  | .items => [("POST", .addItem)]
  | .item id => [("PUT", .updateItem id), ("DELETE", .removeItem id)]
  | .notifications => [("GET", .notifications)]
  | .guestPrice => [("POST", .guestPrice)]

/-- What can be read can also be asked for without its body. -/
def endpoint? (r : Route) (method : String) : Option Endpoint :=
  r.endpoints.lookup (if method = "HEAD" then "GET" else method)

/-- The methods of the route as listed to those who use another one. -/
def allowed (r : Route) : String :=
  ",".intercalate (r.endpoints.flatMap fun e => if e.1 = "GET" then ["GET", "HEAD"] else [e.1])

/-- Only shoppers with a token learn which methods the route has. -/
def isGuarded : Route → Bool
  | .summary => true
  | .items => true
  | .item _ => true
  | .notifications => true
  | _ => false

end Route

def Endpoint.access : Endpoint → Access
  | .health => .anyone
  | .guestLogin => .anyone
  | .listTiers => .anyone
  | .createTier => .staff
  | .calculate => .anyone
  | .reorderTiers => .staff
  | .recalculate => .staff
  | .getTier _ => .staff
  | .updateTier _ => .staff
  | .deleteTier _ => .staff
  | .summary => .shopper
  | .addItem => .shopper
  | .updateItem _ => .shopper
  | .removeItem _ => .shopper
  | .notifications => .shopper
  | .guestPrice => .anyone

end VolumePricing
