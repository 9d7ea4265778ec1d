import VolumePricing.Notice.Policy
import VolumePricing.Text.Uuid
import VolumePricing.Json.Decode

/-!
# Notices as JSON

On its way to a shopper a notice carries an id of its own and the time it was
found. Savings and missing units are written only where there are any.
-/

namespace VolumePricing

instance : ToJson NoticeKind := ⟨fun k => .string k.tag⟩

/-- A kind is written as its tag, or as the only member of an object with nothing in it. -/
instance : FromJson NoticeKind where
  decode
    | .string tag =>
      match NoticeKind.ofTag? tag with
      | some k => .ok k
      | none => .error .mismatch
    | .object [(tag, .null)] =>
      match NoticeKind.ofTag? tag with
      | some k => .ok k
      | none => .error .mismatch
    | j => .error j.fault

structure PriceNotification where
  id : Uuid
  notice : Notice
  timestamp : Int64
  deriving DecidableEq

/-- A notification addressed to a shopper. -/
structure CartNotification where
  userId : String
  notification : PriceNotification
  deriving DecidableEq

/-- A member that is left out when there is no value. -/
def whenSome {α : Type} [ToJson α] (name : String) : Option α → List (String × Json)
  | none => []
  | some a => [(name, encode a)]

def Notice.members (n : Notice) : List (String × Json) :=
  [("type", encode n.kind), ("message", encode n.message), ("tier_id", encode n.tierId),
   ("tier_name", encode n.tierName)] ++
    whenSome "savings" n.savings ++ whenSome "items_needed" n.itemsNeeded

namespace PriceNotification

def fields : List Field :=
  [.of Uuid "id", .of NoticeKind "type", .of String "message",
   .of (Option UInt32) "tier_id" .fromObjects, .of String "tier_name",
   .of (Option Float) "savings" .fromObjects, .of (Option Int64) "items_needed" .fromObjects,
   .of Int64 "timestamp"]

def ofRecord (r : Record) : Decoded PriceNotification := do
  return {
    id := ← r.get "id"
    notice := {
      kind := ← r.get "type"
      message := ← r.get "message"
      tierId := ← r.getOption "tier_id"
      tierName := ← r.get "tier_name"
      savings := ← r.getOption "savings"
      itemsNeeded := ← r.getOption "items_needed" }
    timestamp := ← r.get "timestamp" }

end PriceNotification

instance : FromJson PriceNotification :=
  ⟨fun j => Record.read PriceNotification.fields j >>= PriceNotification.ofRecord⟩

instance : ToJson PriceNotification :=
  ⟨fun p => .object
    (("id", encode p.id) :: p.notice.members ++ [("timestamp", encode p.timestamp)])⟩

def CartNotification.fields : List Field :=
  [.of String "user_id", .of PriceNotification "notification"]

def CartNotification.ofRecord (r : Record) : Decoded CartNotification := do
  return { userId := ← r.get "user_id", notification := ← r.get "notification" }

instance : FromJson CartNotification :=
  ⟨fun j => Record.read CartNotification.fields j >>= CartNotification.ofRecord⟩

instance : ToJson CartNotification :=
  ⟨fun c => .object [("user_id", encode c.userId), ("notification", encode c.notification)]⟩

end VolumePricing
