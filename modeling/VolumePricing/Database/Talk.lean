import VolumePricing.Store.Basic

/-!
# Talking to a database

A database is known by what it is told and what it answers. A talk says what is
told to it next and how to go on after each answer, until it comes to an answer
of its own, is refused or overflows. Statements with parameters are prepared
one by one; scripts are carried out as they stand.
-/

namespace VolumePricing.Database

/-- A value in a parameter or a column. -/
inductive Datum
  | null
  | int (n : Int)
  | real (x : Float)
  | bool (b : Bool)
  | text (s : String)
  deriving DecidableEq, Repr

abbrev Row := List (String × Datum)

inductive Statement
  | prepared (sql : String) (params : List Datum)
  | script (sql : String)
  deriving DecidableEq, Repr

/-- What the database answers to a statement. -/
inductive Reply
  | done (rows : List Row) (affected : Nat)
  | refused (message : String)
  deriving DecidableEq, Repr

/-- The line that a statement goes over: any line of the pool, or the one that a transaction
holds. -/
inductive Line
  | pooled
  | held
  deriving DecidableEq, Repr

inductive Talk (α : Type)
  | answer (a : α)
  | refuse (e : StoreError)
  | overflow (o : Overflow)
  | say (line : Line) (s : Statement) (next : Reply → Talk α)

namespace Talk

variable {α β : Type}

def bind : Talk α → (α → Talk β) → Talk β
  | .answer a, f => f a
  | .refuse e, _ => .refuse e
  | .overflow o, _ => .overflow o
  | .say line s next, f => .say line s fun reply => (next reply).bind f

/-- Goes on after a refusal. -/
def orElse : Talk α → (StoreError → Talk α) → Talk α
  | .answer a, _ => .answer a
  | .refuse e, f => f e
  | .overflow o, _ => .overflow o
  | .say line s next, f => .say line s fun reply => (next reply).orElse f

instance : Monad Talk where
  pure := .answer
  bind := bind

instance : MonadExceptOf StoreError Talk where
  throw := .refuse
  tryCatch := orElse

instance : MonadLift (Except Overflow) Talk where
  monadLift
    | .ok a => .answer a
    | .error o => .overflow o

end Talk

/-- A refusal as the one who asked is told. -/
def refusalText (message : String) : String := "error returned from database: " ++ message

def refusal (message : String) : StoreError := .storage (.reported (refusalText message))

/-- An answer that is not what the statement asked for. -/
def unexpected : StoreError := .storage .unexpectedReply

/-- Sends a statement with parameters. The answer is the rows found and the number of rows changed. -/
def prepared (line : Line) (sql : String) (params : List Datum) : Talk (List Row × Nat) :=
  .say line (.prepared sql params) fun
    | .done rows affected => .answer (rows, affected)
    | .refused message => .refuse (refusal message)

/-- Sends a statement whose rows are of interest. -/
def rows (line : Line) (sql : String) (params : List Datum) : Talk (List Row) :=
  return (← prepared line sql params).1

/-- Sends a statement whose number of changed rows is of interest. -/
def execute (line : Line) (sql : String) (params : List Datum) : Talk Nat :=
  return (← prepared line sql params).2

/-- A value read from an answer; anything else is not what was asked for. -/
def expect {α : Type} : Option α → Talk α
  | some a => pure a
  | none => throw unexpected

/-- Sends a statement that finds rows, and reads them all. -/
def fetchAll {α : Type} (line : Line) (sql : String) (params : List Datum) (read : Row → Option α) :
    Talk (List α) := do
  expect ((← rows line sql params).mapM read)

/-- Sends a statement that may find a row, and reads it. -/
def fetch? {α : Type} (line : Line) (sql : String) (params : List Datum) (read : Row → Option α) :
    Talk (Option α) := do
  match (← rows line sql params).head? with
  | none => return none
  | some r => return some (← expect (read r))

/-- Sends a statement that has to find a row, and reads it. -/
def fetch {α : Type} (line : Line) (sql : String) (params : List Datum) (read : Row → Option α) :
    Talk α := do
  expect ((← rows line sql params).head?.bind read)

/-- Sends statements without parameters over the line of a transaction. -/
def script (sql : String) : Talk Unit :=
  .say .held (.script sql) fun
    | .done _ _ => .answer ()
    | .refused message => .refuse (refusal message)

/-- Takes a transaction back. It ends as it was refused, whatever the database answers. -/
def takeBack {α : Type} (e : StoreError) : Talk α := .say .held (.script "ROLLBACK") fun _ => .refuse e

/-- Sends statements that count together or not at all. Whatever fails after the
beginning, the end itself included, takes everything back. -/
def transaction {α : Type} (body : Talk α) : Talk α := do
  script "BEGIN"
  tryCatch
    (do
      let a ← body
      script "COMMIT"
      return a)
    takeBack

end VolumePricing.Database
