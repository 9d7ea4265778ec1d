import VolumePricing.Decimal.Numeral
import VolumePricing.Pattern.Reader
import VolumePricing.Text.Blank
import VolumePricing.Text.Split
import VolumePricing.Text.Category

/-!
# Which log lines are shown

A filter is a list of directives with commas between them. A directive is a
level, or the beginning of a target, or both with an equals sign; it may also
name a span of work, and fields in braces, such as `cart[refresh{user}]=debug`.
A line is shown up to the level of the closest of the directives that are about
it: the one with the longest beginning of its target, and of those the one with
the most fields. Of two directives about the same the later counts. A filter
without directives shows errors.
-/

namespace VolumePricing

inductive LogLevel
  | error
  | warn
  | info
  | debug
  | trace
  deriving DecidableEq, Repr

namespace LogLevel

def name : LogLevel → String
  | .error => "ERROR"
  | .warn => "WARN"
  | .info => "INFO"
  | .debug => "DEBUG"
  | .trace => "TRACE"

/-- The place of the level among all, the most urgent first. -/
def rank : LogLevel → Nat
  | .error => 1
  | .warn => 2
  | .info => 3
  | .debug => 4
  | .trace => 5

end LogLevel

/-- A field that a directive asks for, and maybe which values of it. -/
structure LogField where
  name : List Char
  valued : Bool
  deriving DecidableEq, Repr

/-- Up to which rank lines are shown whose target begins as said. Zero shows none. -/
structure LogDirective where
  target : List Char := []
  span : Option (List Char) := none
  fields : List LogField := []
  rank : Nat := LogLevel.trace.rank
  deriving DecidableEq, Repr

structure LogFilter where
  directives : List LogDirective
  deriving DecidableEq, Repr

/-- Why a text is no filter. -/
inductive LogFilterFault
  | refused
  /-- Places are counted in a directive without the blanks around it, and what lies between
  them is taken from the directive with them. This may cut a character in two. -/
  | torn
  deriving DecidableEq, Repr

namespace LogFilter

def rank? (cs : List Char) : Option Nat :=
  match Decimal.wholeNumber? 0 5 cs with
  | some n => some n.toNat
  | none =>
    match String.ofList (cs.map Char.toLower) with
    | "off" => some 0
    | "error" => some 1
    | "warn" => some 2
    | "info" => some 3
    | "debug" => some 4
    | "trace" => some 5
    | _ => none

/-- The part of a directive that is being read, and the place where it began. -/
inductive Part
  | start
  | levelOrTarget (first : Nat)
  | span (first : Nat)
  | field (first : Nat)
  | fields
  | target
  | level (first : Nat)
  deriving DecidableEq, Repr

structure Progress where
  part : Part := .start
  directive : LogDirective := {}

abbrev Reading (α : Type) := Except LogFilterFault α

def slice (text : List Char) (first last : Nat) : Reading (List Char) :=
  match Text.slice? first last text with
  | some cs => .ok cs
  | none => .error .torn

def behind (text : List Char) (first : Nat) : Reading (List Char) :=
  match Text.dropBytes? first text with
  | some cs => .ok cs
  | none => .error .torn

/-- The text says which values are meant: it reads as a number or is a pattern. -/
def isValuePattern (cs : List Char) : Bool :=
  (Decimal.freeNumber? (String.ofList cs)).isSome || Pattern.isPattern cs

/-- A field: a name, and maybe an equals sign with a pattern up to another equals sign. -/
def field (cs : List Char) : Reading LogField :=
  match Text.splitAll '=' cs with
  | name :: value :: _ => if isValuePattern value then .ok ⟨name, true⟩ else .error .refused
  | [name] => if name.isEmpty then .error .refused else .ok ⟨name, false⟩
  | [] => .error .refused

/-- Reads one character of a directive, which stands at the given place. -/
def Progress.step (text : List Char) (p : Progress) (i : Nat) (c : Char) : Reading Progress :=
  let d := p.directive
  match p.part with
  | .start =>
    if c = '[' then .ok { p with part := .span (i + 1) }
    else if c = '-' || c = ':' || c = '_' || Text.isWordChar c then
      .ok { p with part := .levelOrTarget i }
    else .error .refused
  | .levelOrTarget first =>
    if c = '=' || c = '[' then do
      let target ← slice text first i
      return ⟨if c = '=' then .level (i + 1) else .span (i + 1), { d with target }⟩
    else .ok p
  | .span first =>
    if c = ']' then do
      let span ← slice text first i
      return ⟨.target, { d with span := some span }⟩
    else if c = '\x7b' then do
      let span ← slice text first i
      return ⟨.field (i + 1), { d with span := if span.isEmpty then none else some span }⟩
    else .ok p
  | .field first =>
    if c = '\x7d' then do
      let f ← field (← slice text first i)
      return ⟨.fields, { d with fields := d.fields ++ [f] }⟩
    else .ok p
  | .fields => if c = ']' then .ok { p with part := .target } else .error .refused
  | .target => if c = '=' then .ok { p with part := .level (i + 1) } else .error .refused
  | .level _ => .ok p

def Progress.steps (text : List Char) : Nat → Progress → List Char → Reading Progress
  | _, p, [] => .ok p
  | i, p, c :: cs => do Progress.steps text (i + c.utf8Size) (← p.step text i c) cs

/-- What has been read when the directive ends. A target without a level has every level, and
so has an equals sign without one. -/
def Progress.finish (text : List Char) (p : Progress) : Reading LogDirective :=
  let d := p.directive
  match p.part with
  | .levelOrTarget first => do
    let cs ← behind text first
    return match rank? cs with
      | some rank => { d with rank }
      | none => { d with target := cs }
  | .level first => do
    let cs ← behind text first
    if cs.isEmpty then return d
    match rank? cs with
    | some rank => return { d with rank }
    | none => .error .refused
  | .target => .ok d
  | _ => .error .refused

def trimmed (cs : List Char) : List Char :=
  ((cs.dropWhile Text.isBlankChar).reverse.dropWhile Text.isBlankChar).reverse

/-- Reads one directive. -/
def directive (text : List Char) : Reading LogDirective := do
  (← Progress.steps text 0 {} (trimmed text)).finish text

/-- Reads a filter; it is refused when any of its directives is. -/
def ofText (text : String) : Reading LogFilter := do
  let pieces := (Text.splitAll ',' text.toList).filter (· ≠ [])
  let directives ← pieces.mapM directive
  return ⟨if directives.isEmpty then [{ rank := LogLevel.error.rank }] else directives⟩

/-- The only field that lines have: their text. -/
def textField : List Char := "message".toList

/-- The directive is about lines with that target. One that names a span or a value is only
about what happens in spans. -/
def isAbout (d : LogDirective) (target : String) : Bool :=
  d.target.isPrefixOf target.toList && d.span.isNone &&
    d.fields.all fun f => f.name = textField && !f.valued

/-- The closer of two directives; the later one of two that are as close. -/
def closer (best : Option LogDirective) (d : LogDirective) : Option LogDirective :=
  match best with
  | none => some d
  | some b =>
    if d.target.length < b.target.length then some b
    else if d.target.length = b.target.length ∧ d.fields.length < b.fields.length then some b
    else some d

def shows (f : LogFilter) (target : String) (level : LogLevel) : Bool :=
  match (f.directives.filter (isAbout · target)).foldl closer none with
  | none => false
  | some d => level.rank ≤ d.rank

end LogFilter

end VolumePricing
