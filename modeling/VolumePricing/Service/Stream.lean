import VolumePricing.Hub.Basic

/-!
# Streams of notices

A shopper's stream hands on the notices that the hub sends to that shopper from
the moment the stream is opened. What the stream missed is passed over in
silence.
-/

namespace VolumePricing

structure NoticeStream where
  user : String
  receiver : Receiver
  deriving DecidableEq, Repr

/-- One event of a stream: the kind of notice, and the notice itself. -/
structure Frame where
  event : String
  data : PriceNotification
  deriving DecidableEq

namespace NoticeStream

/-- A stream opened now. -/
def opened (hub : Hub) (user : String) : NoticeStream := ⟨user, hub.channel.subscribe⟩

/-- The events that came since the last reading. -/
def read (stream : NoticeStream) (hub : Hub) : List Frame × NoticeStream :=
  let (delivery, receiver) := hub.channel.receive stream.receiver
  let own := delivery.messages.filter (·.userId = stream.user)
  (own.map fun m => ⟨m.notification.notice.kind.tag, m.notification⟩, { stream with receiver })

end NoticeStream

end VolumePricing
