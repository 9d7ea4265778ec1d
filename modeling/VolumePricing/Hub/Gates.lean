import VolumePricing.Hub.Basic
import VolumePricing.Store.Error

/-!
# One refresh of a shopper at a time

Refreshes run side by side, but those of one shopper pass through a gate one
after another. Gates are kept in a map while they are in use: a refresh that
comes first makes the gate, and one that leaves takes it out of the map when
nobody else refers to it. The steps of all refreshes may interleave in any way,
and a refresh may be given up wherever it has to wait; it then lets go of its
place and of its gate without a look at the map.

`Gatehouse.step?` says what each step does to the gates, the refreshes under way
and the hub, and which steps are possible. That only one refresh at a time is
inside one gate is a rule of the gate; that this makes one refresh at a time of
one shopper is a matter of the map.
-/

namespace VolumePricing

/-- How far a refresh has come. -/
inductive Progress
  /-- In line at its gate. -/
  | waiting
  /-- Inside the gate, about to read the cart. -/
  | entered
  /-- Inside the gate with the cart, about to list the tiers. -/
  | loaded (cart : Option Cart)
  /-- Inside the gate with a summary for the hub. -/
  | priced (summary : CartSummary)
  /-- Inside the gate with nothing left to do there. -/
  | done
  /-- Out of the gate, about to look at the map. -/
  | leaving
  /-- Through with the map, or given up, but still referring to the gate. -/
  | left
  deriving DecidableEq, Repr

namespace Progress

def isInside : Progress → Bool
  | .entered | .loaded _ | .priced _ | .done => true
  | .waiting | .leaving | .left => false

/-- Where a refresh waits for something it can be given up. -/
def isWaiting : Progress → Bool
  | .waiting | .entered | .loaded _ | .priced _ | .leaving => true
  | .done | .left => false

/-- In line at the gate or inside it. -/
def hasPlace : Progress → Bool
  | .waiting | .entered | .loaded _ | .priced _ | .done => true
  | .leaving | .left => false

end Progress

/-- A refresh under way. Refreshes and gates are numbered as they come. -/
structure Visit where
  number : Nat
  user : String
  gate : Nat
  progress : Progress
  deriving DecidableEq, Repr

structure Gatehouse where
  /-- The gate of each shopper who has one. -/
  gates : List (String × Nat) := []
  visits : List Visit := []
  gatesMade : Nat := 0
  visitsMade : Nat := 0
  hub : Hub

/-- A step of a refresh, with what it learns from outside. -/
inductive GateStep
  /-- A new refresh finds or makes the gate of its shopper, and gets in line. -/
  | arrive (user : String)
  | enter (visit : Nat)
  /-- The cart is read, or cannot be read. -/
  | load (visit : Nat) (cart : Except StoreError (Option Cart))
  /-- The active tiers are listed and the cart is priced. -/
  | price (visit : Nat) (tiers : List PriceTier)
  | store (visit : Nat) (moment : Moment)
  | leave (visit : Nat)
  /-- The gate is taken out of the map if the map and this refresh alone refer to it. -/
  | tidy (visit : Nat)
  | depart (visit : Nat)
  | giveUp (visit : Nat)

namespace Gatehouse

def visit? (g : Gatehouse) (number : Nat) : Option Visit :=
  g.visits.find? (·.number == number)

def gate? (g : Gatehouse) (user : String) : Option Nat := g.gates.lookup user

/-- How many refer to a gate: the map where it stands there, each refresh that came for it,
and the place of each of them that is in line or inside. -/
def references (g : Gatehouse) (gate : Nat) : Nat :=
  g.gates.countP (·.2 == gate) + g.visits.countP (·.gate == gate) +
    g.visits.countP fun v => v.gate == gate && v.progress.hasPlace

/-- Nobody is inside the gate. -/
def isFree (g : Gatehouse) (gate : Nat) : Bool :=
  g.visits.all fun v => v.gate != gate || !v.progress.isInside

def moveTo (g : Gatehouse) (number : Nat) (progress : Progress) : Gatehouse :=
  { g with visits := modifyFirst (·.number == number) ({ · with progress }) g.visits }

def remove (g : Gatehouse) (number : Nat) : Gatehouse :=
  { g with visits := g.visits.filter (·.number != number) }

/-- The shopper's gate, made if there is none. -/
def findGate (g : Gatehouse) (user : String) : Nat × Gatehouse :=
  match g.gate? user with
  | some gate => (gate, g)
  | none =>
    (g.gatesMade, { g with gates := (user, g.gatesMade) :: g.gates, gatesMade := g.gatesMade + 1 })

def arrive (g : Gatehouse) (user : String) : Gatehouse :=
  let (gate, g) := g.findGate user
  { g with
    visits := g.visits ++ [⟨g.visitsMade, user, gate, .waiting⟩]
    visitsMade := g.visitsMade + 1 }

def enter (g : Gatehouse) (v : Visit) : Option Gatehouse :=
  match v.progress with
  | .waiting => if g.isFree v.gate then some (g.moveTo v.number .entered) else none
  | _ => none

def load (g : Gatehouse) (v : Visit) (cart : Except StoreError (Option Cart)) :
    Option Gatehouse :=
  match v.progress, cart with
  | .entered, .ok cart => some (g.moveTo v.number (.loaded cart))
  | .entered, .error _ => some (g.moveTo v.number .done)
  | _, _ => none

/-- A cart that cannot be priced ends its refresh as if it was given up. -/
def price (settings : HubSettings) (g : Gatehouse) (v : Visit) (tiers : List PriceTier) :
    Option Gatehouse :=
  match v.progress with
  | .loaded cart =>
    match summarizeCart settings.fallback cart tiers with
    | .ok summary => some (g.moveTo v.number (.priced summary))
    | .error _ => some (g.moveTo v.number .left)
  | _ => none

def store (settings : HubSettings) (g : Gatehouse) (v : Visit) (moment : Moment) :
    Option Gatehouse :=
  match v.progress with
  | .priced summary =>
    some { g.moveTo v.number .done with hub := g.hub.observe settings v.user summary moment }
  | _ => none

def leave (g : Gatehouse) (v : Visit) : Option Gatehouse :=
  match v.progress with
  | .done => some (g.moveTo v.number .leaving)
  | _ => none

def tidy (g : Gatehouse) (v : Visit) : Option Gatehouse :=
  match v.progress with
  | .leaving =>
    let gates := if g.references v.gate = 2 then g.gates.filter (·.1 != v.user) else g.gates
    some { g.moveTo v.number .left with gates }
  | _ => none

def depart (g : Gatehouse) (v : Visit) : Option Gatehouse :=
  match v.progress with
  | .left => some (g.remove v.number)
  | _ => none

/-- A refresh that is given up loses its place first and its gate after that. -/
def giveUp (g : Gatehouse) (v : Visit) : Option Gatehouse :=
  if v.progress.isWaiting then some (g.moveTo v.number .left) else none

/-- What a step leads to, if it is possible. -/
def step? (settings : HubSettings) (g : Gatehouse) : GateStep → Option Gatehouse
  | .arrive user => some (g.arrive user)
  | .enter n => (g.visit? n).bind g.enter
  | .load n cart => (g.visit? n).bind (g.load · cart)
  | .price n tiers => (g.visit? n).bind (price settings g · tiers)
  | .store n moment => (g.visit? n).bind (store settings g · moment)
  | .leave n => (g.visit? n).bind g.leave
  | .tidy n => (g.visit? n).bind g.tidy
  | .depart n => (g.visit? n).bind g.depart
  | .giveUp n => (g.visit? n).bind g.giveUp

/-- What a sequence of steps leads to, if all of them are possible in their turn. -/
def run? (settings : HubSettings) (g : Gatehouse) (steps : List GateStep) : Option Gatehouse :=
  steps.foldlM (step? settings) g

/-- Refreshes that hold a gate of the shopper or wait for one. -/
def visitsOf (g : Gatehouse) (user : String) : List Visit := g.visits.filter (·.user == user)

end Gatehouse

end VolumePricing
