import VolumePricing.Database.Talk

/-!
# Conversations

A conversation is a database with the answers it will give. Prepared statements
take the answers in turn; scripts are carried out unless the database refuses
them. It keeps every statement that was sent.
-/

namespace VolumePricing.Database

structure Conversation where
  /-- The answers to prepared statements that are still to come. -/
  replies : List Reply := []
  /-- The beginnings of scripts that the database refuses. -/
  refusals : List String := []
  /-- The statements sent, in order. -/
  sent : List Statement := []
  deriving DecidableEq, Repr

namespace Conversation

/-- Without an answer at hand the database found and changed nothing. -/
def nextReply (c : Conversation) : Reply := c.replies.headD (.done [] 0)

def refuses (c : Conversation) (sql : String) : Bool :=
  c.refusals.any fun start => start.toList.isPrefixOf sql.toList

def reply (c : Conversation) : Statement → Reply
  | .prepared _ _ => c.nextReply
  | .script sql => if c.refuses sql then .refused "refused" else .done [] 0

/-- The conversation after a statement was sent and answered. -/
def after (c : Conversation) (s : Statement) : Conversation where
  replies :=
    match s with
    | .prepared _ _ => c.replies.drop 1
    | .script _ => c.replies
  refusals := c.refusals
  sent := c.sent ++ [s]

end Conversation

/-- Holds the talk in a conversation. -/
def Talk.run {α : Type} : Talk α → StoreAction Conversation α
  | .answer a => pure a
  | .refuse e => throw e
  | .overflow o => (.error o : Checked α)
  | .say _ s next => do
    let c ← get
    set (c.after s)
    (next (c.reply s)).run

end VolumePricing.Database
