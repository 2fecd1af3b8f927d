import CustomFields.Unicode.Property
import CustomFields.Unicode.Script

/-!
# Sets by name

The sets that a name stands for. Names are compared without regard to case, blanks, hyphens and
underscores, and with or without `is` in front. A lone name is that of a property, else of a
general category or a group of them, else of a script; a name with a value says which it is.
-/

namespace CustomFields.Unicode

/-- A name as it is compared. -/
def normalizeName (name : String) : String :=
  let cs := name.toList
  let (hasIs, cs) := match cs with
    | a :: b :: rest => if a.toLower = 'i' ∧ b.toLower = 's' then (true, rest) else (false, cs)
    | _ => (false, cs)
  let kept := cs.filter fun c => c.toNat < 0x80 && c != ' ' && c != '_' && c != '-'
  let norm := kept.map Char.toLower
  if hasIs && norm == ['c'] then "isc" else String.ofList norm

/-- The names of a category besides the two letters. -/
def Category.longNames : Category → List String
  | .uppercaseLetter => ["uppercaseletter"]
  | .lowercaseLetter => ["lowercaseletter"]
  | .titlecaseLetter => ["titlecaseletter"]
  | .modifierLetter => ["modifierletter"]
  | .otherLetter => ["otherletter"]
  | .nonspacingMark => ["nonspacingmark"]
  | .spacingMark => ["spacingmark"]
  | .enclosingMark => ["enclosingmark"]
  | .decimalNumber => ["decimalnumber", "digit"]
  | .letterNumber => ["letternumber"]
  | .otherNumber => ["othernumber"]
  | .connectorPunctuation => ["connectorpunctuation"]
  | .dashPunctuation => ["dashpunctuation"]
  | .openPunctuation => ["openpunctuation"]
  | .closePunctuation => ["closepunctuation"]
  | .initialPunctuation => ["initialpunctuation"]
  | .finalPunctuation => ["finalpunctuation"]
  | .otherPunctuation => ["otherpunctuation"]
  | .mathSymbol => ["mathsymbol"]
  | .currencySymbol => ["currencysymbol"]
  | .modifierSymbol => ["modifiersymbol"]
  | .otherSymbol => ["othersymbol"]
  | .spaceSeparator => ["spaceseparator"]
  | .lineSeparator => ["lineseparator"]
  | .paragraphSeparator => ["paragraphseparator"]
  | .control => ["control", "cntrl"]
  | .format => ["format"]
  | .privateUse => ["privateuse"]
  | .surrogate => ["surrogate"]

/-- The union of the categories with a test on their two letters. -/
def ofCategories (select : String → Bool) : CodePoints :=
  .ofRanges <| (Category.all.filter fun c => select c.shortName).flatMap (·.codePoints.ranges)

/-- The code points that the database assigns. -/
def assigned : CodePoints := ofCategories fun _ => true

/-- The groups of categories, which share the first letter, and what goes beyond them. -/
def categoryGroup? : String → Option CodePoints
  | "l" | "letter" => some <| ofCategories (·.startsWith "L")
  | "lc" | "casedletter" => some <| ofCategories (["Lu", "Ll", "Lt"].contains ·)
  | "m" | "mark" | "combiningmark" => some <| ofCategories (·.startsWith "M")
  | "n" | "number" => some <| ofCategories (·.startsWith "N")
  | "p" | "punctuation" | "punct" => some <| ofCategories (·.startsWith "P")
  | "s" | "symbol" => some <| ofCategories (·.startsWith "S")
  | "z" | "separator" => some <| ofCategories (·.startsWith "Z")
  | "c" | "other" => some (ofCategories fun n => !n.startsWith "C").complement
  | "cn" | "unassigned" => some assigned.complement
  | "assigned" => some assigned
  | "any" => some CodePoints.empty.complement
  | "ascii" => some ⟨[(0, 0x7F)]⟩
  | _ => none

/-- The general category, or group of them, with a normalized name. -/
def category? (name : String) : Option CodePoints :=
  match categoryGroup? name with
  | some s => some s
  | none =>
    (Category.all.find? fun c =>
      normalizeName c.shortName == name || c.longNames.contains name).map (·.codePoints)

/-- The script with a name, which may be the long or the short one. -/
def script? (name : String) : Option Script :=
  Script.all.find? fun s => (s.name :: s.shortNames).any (normalizeName · == name)

/-- The property with a normalized name. White space has a third name. -/
def property? (name : String) : Option Property :=
  if name == "space" then some .whiteSpace
  else Property.all.find? fun p => normalizeName p.name == name || normalizeName p.shortName == name

/-- The set with a lone name. Three names that could stand for something without a set are those
of categories. -/
def named? (name : String) : Option CodePoints :=
  let name := normalizeName name
  match property? name with
  | some p => some p.codePoints
  | none =>
    match category? name with
    | some s => some s
    | none => (script? name).map (·.codePoints)

/-- The set with a value of a named property. -/
def valued? (name value : String) : Option CodePoints :=
  let value := normalizeName value
  match normalizeName name with
  | "gc" | "generalcategory" => category? value
  | "sc" | "script" => (script? value).map (·.codePoints)
  | "scx" | "scriptextensions" => (script? value).map (·.extendedCodePoints)
  | _ => none

/-- The characters of words: letters, marks, digits, connectors and what joins characters. -/
def wordCharacters : CodePoints :=
  let categories := ofCategories fun n => n.startsWith "M" || n == "Nd" || n == "Pc"
  (Property.alphabetic.codePoints.union categories).union Property.joinControl.codePoints

end CustomFields.Unicode
