import Sweep.Unicode.AgeData
import Sweep.Unicode.BreakData
import Sweep.Unicode.CategoryData
import Sweep.Unicode.CharClass
import Sweep.Unicode.PropertyData
import Sweep.Unicode.ScriptData
import Sweep.Unicode.ValueNames

/-!
Character classes by the names of Unicode properties and their values.

Names are compared without regard to case, blanks, dashes and underscores, and an `is` in front of
a name does not count.
-/

namespace Sweep.Unicode

def generalCategories : List Run := decodeRuns categoryRuns

def scripts : List Run := decodeRuns scriptRuns

/-- The several scripts of the code points that have more than one. -/
def scriptExtensions : List Run := decodeRuns scriptExtensionRuns

/-- A general category takes in its subcategories, and `LC` the three cases of letters. -/
def categoryIncludes (name value : Text) : Bool :=
  name == value || (name.length == 1 && name.isPrefixOf value) ||
    (name == "LC".toList && (value == "Lu".toList || value == "Ll".toList || value == "Lt".toList))

def CharClass.ofCategory (name : Text) : CharClass :=
  .table (.ofRuns generalCategories (categoryIncludes name))

def CharClass.ofScript (name : Text) : CharClass := .table (.ofRuns scripts (· == name))

def fours : Text → List Text
  | a :: b :: c :: d :: rest => [a, b, c, d] :: fours rest
  | _ => []

def CharClass.ofScriptExtension (name : Text) : CharClass :=
  let own := RangeTable.ofRuns scriptExtensions (· == "-".toList)
  .union (.table (.ofRuns scriptExtensions fun value => (fours value).contains name))
    (.inter (.table own) (.ofScript name))

def PropertyData.charClass (property : PropertyData) : CharClass :=
  let within := property.categories.map String.toList
  .union
    (.diff (.table (.ofRuns generalCategories within.contains)) (.table (.decode property.removed)))
    (.table (.decode property.added))

/-- Letters, digits, marks, connectors and joiners: the characters that words are made of. -/
def wordClass : CharClass :=
  .unions
    [alphabetic.charClass, .ofCategory "M".toList, .ofCategory "Nd".toList,
      .ofCategory "Pc".toList, joinControl.charClass]

def digitClass : CharClass := .ofCategory "Nd".toList

def spaceClass : CharClass := whiteSpace.charClass

def alphabeticClass : CharClass := alphabetic.charClass

def numericClass : CharClass := .ofCategory "N".toList

/-- A name as it is compared. A `c` that stands alone after `is` is no name of a category. -/
def looseName (name : Text) : Text :=
  let keep := fun c : Char => c.toNat < 128 && c != ' ' && c != '_' && c != '-'
  let loosen := fun t : Text => (t.filter keep).map Char.toLower
  match name with
  | i :: s :: rest =>
    if i.toLower == 'i' && s.toLower == 's' then
      if loosen rest == ['c'] then ['i', 's', 'c'] else loosen rest
    else
      loosen name
  | _ => loosen name

/-- The short name of a value, in a packed list of short names and all names of each. -/
def shortName? (packed : String) (name : Text) : Option Text :=
  ((entries packed).map (cut '=')).findSome? fun (short, names) =>
    if (Text.split names ',').contains name then some short else none

/-- The characters of a general category, or of one of the three classes beside them. -/
def CharClass.ofCategoryName? (name : Text) : Option CharClass :=
  if name == "any".toList then some .all
  else if name == "assigned".toList then some (.compl (.ofCategory "Cn".toList))
  else if name == "ascii".toList then some .ascii
  else (shortName? categoryNames name).map .ofCategory

def CharClass.ofScriptName? (name : Text) : Option CharClass :=
  (shortName? scriptNames name).map .ofScript

/-- The class that a single name stands for: a property, a general category or a script. -/
def CharClass.ofName? (written : Text) : Option CharClass :=
  let name := looseName written
  let property := binaryProperties.find? fun p => p.names.any fun n => n.toList == name
  match property with
  | some p => some p.charClass
  | none => (ofCategoryName? name).or (ofScriptName? name)

def CharClass.ofBreak? (names runs : String) (value : Text) : Option CharClass :=
  let table := (shortName? names value).map fun short =>
    RangeTable.ofRuns (decodeRuns runs) (· == short)
  (table.filter fun t => t.ranges.size > 0).map .table

def versionNumber (version : Text) : Nat :=
  let (major, minor) := cut '.' version
  let decimal := fun digits : Text => digits.foldl (fun n c => 10 * n + (c.toNat - '0'.toNat)) 0
  100 * decimal major + decimal minor

def CharClass.ofAge? (value : Text) : Option CharClass :=
  (shortName? ageNames value).map fun version =>
    .table (.ofRuns (decodeRuns ageRuns) fun assigned =>
      assigned != ['-'] && versionNumber assigned ≤ versionNumber version)

def CharClass.ofValue? (property value : Text) : Option CharClass :=
  let value := looseName value
  let isNamed := fun names : List String => names.any fun n => n.toList == looseName property
  if isNamed ["generalcategory", "gc"] then ofCategoryName? value
  else if isNamed ["script", "sc"] then ofScriptName? value
  else if isNamed ["scriptextensions", "scx"] then
    (shortName? scriptNames value).map ofScriptExtension
  else if isNamed ["age"] then ofAge? value
  else if isNamed ["graphemeclusterbreak", "gcb"] then
    ofBreak? graphemeBreakNames graphemeBreakRuns value
  else if isNamed ["wordbreak", "wb"] then ofBreak? wordBreakNames wordBreakRuns value
  else if isNamed ["sentencebreak", "sb"] then ofBreak? sentenceBreakNames sentenceBreakRuns value
  else none

end Sweep.Unicode
