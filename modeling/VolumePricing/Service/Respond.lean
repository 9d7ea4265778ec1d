import VolumePricing.Service.Carts
import VolumePricing.Service.Route
import VolumePricing.Service.Tiers
import VolumePricing.Summary.Wire

/-!
# Answering requests

A request is checked in a fixed order: its route and method, its token, the
role that the token names, the place of an id in the path, the query, the type
of the body, the body, and last what the endpoint itself asks for. Every
response tells browsers that pages from anywhere may use it.
-/

namespace VolumePricing

open Http (Request Response Body)

namespace Service

/-- Told to browsers with every response. -/
def sharingHeaders : List (String × String) :=
  [("access-control-allow-origin", "*"),
   ("vary", "origin, access-control-request-method, access-control-request-headers")]

/-- Told to a browser that asks first. -/
def preflightHeaders : List (String × String) :=
  [("access-control-allow-methods", "GET,POST,PUT,DELETE,OPTIONS"),
   ("access-control-allow-headers", "authorization,content-type,user-agent")]

def message (text : String) : Json := .object [("message", .string text)]

variable {σ : Type} (s : Service σ)

/-- The claims of the token that the request carries. -/
def identify (r : Request) (moment : Moment) : Extracted Claims :=
  match Extract.bearer? r with
  | none => .error .missingToken
  | some token =>
    match s.authority.verify token moment.now with
    | none => .error .invalidToken
    | some claims => .ok claims

/-- The one who asks, as far as the endpoint has to know. -/
def screen (access : Access) (r : Request) (moment : Moment) : Extracted (Option Claims) :=
  match access with
  | .anyone => .ok none
  | .shopper => (s.identify r moment).map some
  | .staff => do
    let claims ← s.identify r moment
    if Role.isStaff claims.role then return some claims else throw .staffOnly

def reply {α : Type} [ToJson α] (a : α) (status : Nat := 200) : Response :=
  let body := Body.json (encode a)
  { status, headers := body.typeHeaders, body }

/-- Lets an endpoint do its work for the shopper of that name. -/
def run (endpoint : Endpoint) (user : String) (r : Request) (moment : Moment) :
    ServiceAction σ Response := do
  match endpoint with
  | .health => return reply (Json.object [("status", .string "ok")])
  | .guestLogin => return reply (Json.object [("token", .string (← s.guestLogin moment))])
  | .listTiers =>
    let tiers ← s.listTiers (← Extract.includeInactive r)
    return reply (Json.object [("tiers", encode tiers)])
  | .createTier => return reply (← s.createTier (← Extract.body PriceTier r)) 201
  | .calculate => return reply (← s.calculate (← Extract.costQuery r))
  | .reorderTiers =>
    s.reorderTiers (← Extract.body ReorderRequest r).tiers
    return reply (message "order updated")
  | .recalculate => return reply (← s.recalculate)
  | .getTier id => return reply (← s.getTier (← Extract.id "id" id))
  | .updateTier id =>
    let id ← Extract.id "id" id
    return reply (← s.updateTier id (← Extract.body TierUpdate r))
  | .deleteTier id =>
    s.deleteTier (← Extract.id "id" id)
    return reply (message "price tier deleted")
  | .summary => return reply (← s.refresh user moment)
  | .addItem => return reply (← s.addItem user (← Extract.body ItemRequest r) moment)
  | .updateItem id =>
    let id ← Extract.id "product_id" id
    return reply (← s.updateItem user id (← Extract.body QuantityRequest r).quantity moment)
  | .removeItem id => return reply (← s.removeItem user (← Extract.id "product_id" id) moment)
  | .notifications =>
    let body := Body.notices user
    return { status := 200, headers := body.typeHeaders, body }
  | .guestPrice => return reply (← s.guestPrice (← Extract.body GuestCart r))

/-- Answers at an endpoint, once the one who asks is admitted. -/
def serve (endpoint : Endpoint) (r : Request) (moment : Moment) : ServiceAction σ Response := do
  let claims ← s.screen endpoint.access r moment
  s.run endpoint ((claims.map (·.subject)).getD "") r moment

/-- The answer to a method that the route does not have. -/
def wrongMethod (route : Route) (r : Request) (moment : Moment) : Response :=
  let response : Response :=
    if route.isGuarded then
      match s.identify r moment with
      | .ok _ => { status := 405 }
      | .error refusal => refusal.response
    else { status := 405 }
  response.withHeaders [("allow", route.allowed)]

/-- Turns a refusal into its response. -/
def settle (action : ServiceAction σ Response) : StateT (Shop σ) (Except Overflow) Response := do
  match ← action.run with
  | .ok response => return response
  | .error refusal => return refusal.response

/-- Answers on a route. -/
def answerAt (route : Route) (r : Request) (moment : Moment) :
    StateT (Shop σ) (Except Overflow) Response := do
  if r.method = "OPTIONS" then
    return { status := 200, headers := preflightHeaders ++ [("allow", route.allowed)] }
  else
    match route.endpoint? r.method with
    | none => return s.wrongMethod route r moment
    | some endpoint => settle (s.serve endpoint r moment)

/-- Answers a request. Where there is a route, the length of the answer is told. -/
def answer (r : Request) (moment : Moment) : StateT (Shop σ) (Except Overflow) Response := do
  match Route.ofPath? r.path with
  | none =>
    return if r.method = "OPTIONS" then { status := 200, headers := preflightHeaders }
      else { status := 404 }
  | some route => do
    let response ← s.answerAt route r moment
    return response.withHeaders response.body.lengthHeader

/-- The response to a request, and the shop after it. -/
def respond (r : Request) (moment : Moment) : StateT (Shop σ) (Except Overflow) Response := do
  let response ← s.answer r moment
  let response := response.withHeaders sharingHeaders
  return if r.method = "HEAD" then response.withoutBody else response

end Service

end VolumePricing
