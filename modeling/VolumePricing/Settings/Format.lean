import VolumePricing.Ini
import VolumePricing.Json.Reader
import VolumePricing.Json.Relaxed
import VolumePricing.Ron.Reader
import VolumePricing.Toml.Reader
import VolumePricing.Yaml.Reader

/-!
# File formats of settings

The ending of a file's name says in which format it is written. Whatever the
format, a file of settings holds one table.
-/

namespace VolumePricing.Settings

inductive Format
  | toml
  | json
  | yaml
  | ini
  | ron
  | json5
  deriving DecidableEq, Repr

namespace Format

def all : List Format := [.toml, .json, .yaml, .ini, .ron, .json5]

/-- The endings of the names of files in the format. -/
def extensions : Format → List String
  | .toml => ["toml"]
  | .json => ["json"]
  | .yaml => ["yaml", "yml"]
  | .ini => ["ini"]
  | .ron => ["ron"]
  | .json5 => ["json5"]

def ofExtension? (extension : String) : Option Format :=
  all.find? fun f => f.extensions.contains extension

end Format

mutual

def ofJson : Json → Setting
  | .null => .nothing
  | .bool b => .bool b
  | .int n => .int n
  | .real x => .real x
  | .string s => .text s
  | .array items => .list (ofItems items)
  | .object ms => .table (ofMembers ms [])
  | .unreadable => .nothing
  | .misnamed value => ofJson value
  | .cut => .nothing

def ofItems : List Json → List Setting
  | [] => []
  | j :: js => ofJson j :: ofItems js

/-- Of several members of one name the last counts. -/
def ofMembers : List (String × Json) → Table → Table
  | [], table => table
  | m :: ms, table => ofMembers ms (set m.1 (ofJson m.2) table)

end

/-- One more level of arrays and objects than a file in JSON may have. -/
def jsonDepth : Nat := 128

def jsonTable? (text : String) : Option Table :=
  match Json.parse? .stepwise text with
  | some (.object ms) => if (Json.object ms).depth < jsonDepth then some (ofMembers ms []) else none
  | _ => none

/-- A mark of the byte order at the start of a file is no part of its text. -/
def withoutMark (text : String) : String :=
  match text.toList with
  | '\ufeff' :: cs => String.ofList cs
  | _ => text

/-- The table that a text holds, or nothing where it holds none. -/
def Format.table? (format : Format) (text : String) : Option Table :=
  let text := withoutMark text
  match format with
  | .toml => Toml.parse? text
  | .json => jsonTable? text
  | .yaml => Yaml.parse? text
  | .ini => Ini.parse? text
  | .ron => Ron.parse? text
  | .json5 => Json.Relaxed.parse? text

end VolumePricing.Settings
