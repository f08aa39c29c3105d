-- Sets of characters by name: general categories, scripts, script extensions, ages, breaks and binary
-- properties. Case, blanks, underscores, hyphens and a leading "is" of a name do not matter.
import SqlDump.Unicode.Age
import SqlDump.Unicode.Break
import SqlDump.Unicode.Script
import SqlDump.Unicode.Word

namespace SqlDump.Unicode

/-- A name without what does not matter. The category "c" may be written "isc". -/
def normalName (name : List Char) : String :=
  let (hadIs, rest) := match name with
    | i :: s :: rest => if i.toLower == 'i' && s.toLower == 's' then (true, rest) else (false, name)
    | _ => (false, name)
  let kept := rest.filter fun c => c.toNat < 128 && !(c == ' ' || c == '_' || c == '-')
  let name := String.ofList (kept.map Char.toLower)
  if hadIs && name == "c" then "isc" else name

/-- The categories that are made of others. -/
def categoryGroups : List (List String × List String) := [
  (["l", "letter"], ["lu", "ll", "lt", "lm", "lo"]),
  (["lc", "casedletter"], ["lu", "ll", "lt"]),
  (["m", "mark", "combiningmark"], ["mn", "mc", "me"]),
  (["n", "number"], ["nd", "nl", "no"]),
  (["p", "punctuation", "punct"], ["pc", "pd", "ps", "pe", "pi", "pf", "po"]),
  (["s", "symbol"], ["sm", "sc", "sk", "so"]),
  (["z", "separator"], ["zs", "zl", "zp"]),
  (["c", "other"], ["cc", "cf", "cn", "co"])]

/-- The set of a general category, given by its normal name. -/
def category? (name : String) : Option RangeTable :=
  if name == "any" then some RangeTable.everything
  else if name == "assigned" then some (tableNamed categoryRuns "cn").compl
  else if name == "ascii" then some (RangeTable.range 0 127)
  else
    match categoryGroups.find? fun group => group.1.contains name with
    | some group =>
      some ((group.2.map (tableNamed categoryRuns)).foldl RangeTable.union (RangeTable.ofRuns ""))
    | none => (runsNamed categoryRuns name).map RangeTable.ofRuns

def script? (name : String) : Option RangeTable :=
  (runsNamed scriptRuns name).map RangeTable.ofRuns

/-- A script's extension: its own table where it has one, else the script. -/
def scriptExtension? (name : String) : Option RangeTable :=
  match scriptRuns.find? fun row => row.1.contains name with
  | some row =>
    let long := row.1.headD ""
    some (RangeTable.ofRuns ((runsNamed scriptExtensionRuns long).getD row.2))
  | none => none

def property? (name : String) : Option RangeTable :=
  if name == "alphabetic" || name == "alpha" then some alphabetic
  else (runsNamed propertyRuns name).map RangeTable.ofRuns

/-- The characters of an age: those that the version has, added by it or by an earlier one. -/
def age? (name : String) : Option RangeTable :=
  let earlier := ageRuns.takeWhile fun row => !row.1.contains name
  (runsNamed ageRuns name).map fun runs =>
    earlier.foldl (fun t row => t.union (RangeTable.ofRuns row.2)) (RangeTable.ofRuns runs)

/-- The set that a single name stands for. A property wins over a category and a category over a
script. -/
def named? (name : List Char) : Option RangeTable :=
  let name := normalName name
  (property? name).or ((category? name).or (script? name))

/-- The set that a property with a value stands for. -/
def valued? (property value : List Char) : Option RangeTable :=
  let property := normalName property
  let value := normalName value
  let fromRows := fun rows => (runsNamed rows value).map RangeTable.ofRuns
  match property with
  | "generalcategory" | "gc" => category? value
  | "script" | "sc" => script? value
  | "scriptextensions" | "scx" => scriptExtension? value
  | "age" => age? value
  | "graphemeclusterbreak" | "gcb" => fromRows clusterBreakRuns
  | "wordbreak" | "wb" => fromRows wordBreakRuns
  | "sentencebreak" | "sb" => fromRows sentenceBreakRuns
  | _ => none

end SqlDump.Unicode
