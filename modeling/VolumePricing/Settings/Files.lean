import VolumePricing.Settings.Format
import VolumePricing.Text.Split

/-!
# Files of settings

A layer is named, and the file of that name in the settings directory holds it.
The name may lack the ending that tells the format, and may lead through
directories as long as it ends in the settings directory.
-/

namespace VolumePricing.Settings

/-- The directory of the settings. -/
def directory : String := "config"

/-- The name of a file in the settings directory that a layer is named after. -/
structure FileName where
  name : String
  /-- The name may stand for the file itself. -/
  whole : Bool
  /-- An ending may follow the name. -/
  appendable : Bool
  deriving DecidableEq, Repr

/-- The ending of a file's name. A point at its start begins none. -/
def extension? (name : List Char) : Option String :=
  let ending := (name.reverse.takeWhile (· ≠ '.')).reverse
  if ending.length + 1 < name.length then some (String.ofList ending) else none

/-- Follows directories from the settings directory on (`true`) or from the one
above it (`false`); no others are known. -/
def enter? : Bool → String → Option Bool
  | true, ".." => some false
  | false, name => if name = directory then some true else none
  | true, _ => none

/-- The file name that a layer stands for. Empty parts and single points lead nowhere;
behind the file name they keep it from being the whole, and an ending from following
another. -/
def FileName.ofLayer? (layer : String) : Option FileName := do
  let parts := (Text.splitAll '/' layer.toList).map String.ofList
  let steps := parts.filter fun p => p ≠ "" && p ≠ "."
  let name ← steps.getLast?
  let inside ← steps.dropLast.foldlM enter? true
  if !inside || name = ".." then none
  else
    let whole := parts.getLast? = some name
    return { name, whole, appendable := whole || (extension? name.toList).isNone }

/-- The names a file may have, the first one found counts, and the format of each. A file
of that very name with another ending is not readable. -/
def FileName.candidates (f : FileName) : List (String × Option Format) :=
  (if f.whole then [(f.name, (extension? f.name.toList).bind Format.ofExtension?)] else []) ++
    if f.appendable then
      Format.all.flatMap fun format => format.extensions.map fun e => (f.name ++ "." ++ e, some format)
    else []

def candidates (layer : String) : List (String × Option Format) :=
  match FileName.ofLayer? layer with
  | none => []
  | some f => f.candidates

/-- The file of a layer, if there is one that can be read: its format and its text. -/
def findFile? (files : List (String × String)) (layer : String) : Option (Format × String) :=
  let found := (candidates layer).findSome? fun (name, format) =>
    (files.lookup name).map fun text => (format, text)
  match found with
  | some (some format, text) => some (format, text)
  | _ => none

end VolumePricing.Settings
