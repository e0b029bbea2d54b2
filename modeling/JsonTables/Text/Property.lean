import JsonTables.Text.CategoryTable
import JsonTables.Text.PropertyTable
import JsonTables.Text.ScriptTable

/-!
# Properties of characters

General categories, scripts and properties by their names.  A name may be written
in either case of letters, with blanks, underscores and dashes anywhere, and with
`is` in front.
-/

namespace JsonTables.Text

/-- A set of characters that has a name. -/
inductive NamedSet
  | any
  | ascii
  /-- Characters of the categories with these codes. -/
  | categories (codes : List String)
  /-- Characters that have no category. -/
  | unassigned
  /-- Characters of the categories with these codes, or without one. -/
  | unassignedOr (codes : List String)
  | assigned
  | script (ranges : Ranges)
  | unknownScript
  | property (row : PropertyRow)

/-- Whether a character is of one of the categories with these codes. -/
def hasCategory (codes : List String) (char : Char) : Bool :=
  categoryRanges.any fun entry => codes.contains entry.1 && entry.2.has char

/-- Whether a character has a category. -/
def isAssigned (char : Char) : Bool :=
  categoryRanges.any fun entry => entry.2.has char

/-- Whether a character has a property. -/
def PropertyRow.has (row : PropertyRow) (char : Char) : Bool :=
  (hasCategory row.categories char || row.others.has char) && !row.without.has char

namespace NamedSet

/-- Whether a character is in a set. -/
def has (set : NamedSet) (char : Char) : Bool :=
  match set with
  | any => true
  | ascii => char.toNat < 128
  | categories codes => hasCategory codes char
  | unassigned => !isAssigned char
  | unassignedOr codes => !isAssigned char || hasCategory codes char
  | assigned => isAssigned char
  | script ranges => ranges.has char
  | unknownScript => !scriptRanges.any fun entry => entry.2.has char
  | property row => row.has char

/-- A name without what does not count in it. -/
def normalName (name : String) : String :=
  let chars := name.toList
  let isPrefixed := (chars.take 2).map Char.toLower = ['i', 's']
  let kept := (if isPrefixed then chars.drop 2 else chars).filter fun char =>
    char.toNat < 128 && char != ' ' && char != '_' && char != '-'
  let lowered := String.ofList (kept.map Char.toLower)
  if isPrefixed && lowered == "c" then "isc" else lowered

/-- The names of categories and of groups of them, with their codes. -/
def categoryNames : List (List String × List String) :=
  [ (["l", "letter"], ["lu", "ll", "lt", "lm", "lo"]),
    (["lc", "casedletter"], ["lu", "ll", "lt"]),
    (["lu", "uppercaseletter"], ["lu"]), (["ll", "lowercaseletter"], ["ll"]),
    (["lt", "titlecaseletter"], ["lt"]), (["lm", "modifierletter"], ["lm"]),
    (["lo", "otherletter"], ["lo"]),
    (["m", "mark", "combiningmark"], ["mn", "mc", "me"]),
    (["mn", "nonspacingmark"], ["mn"]), (["mc", "spacingmark"], ["mc"]),
    (["me", "enclosingmark"], ["me"]), (["n", "number"], ["nd", "nl", "no"]),
    (["nd", "decimalnumber", "digit"], ["nd"]), (["nl", "letternumber"], ["nl"]),
    (["no", "othernumber"], ["no"]),
    (["p", "punctuation", "punct"], ["pc", "pd", "ps", "pe", "pi", "pf", "po"]),
    (["pc", "connectorpunctuation"], ["pc"]), (["pd", "dashpunctuation"], ["pd"]),
    (["ps", "openpunctuation"], ["ps"]), (["pe", "closepunctuation"], ["pe"]),
    (["pi", "initialpunctuation"], ["pi"]), (["pf", "finalpunctuation"], ["pf"]),
    (["po", "otherpunctuation"], ["po"]), (["s", "symbol"], ["sm", "sc", "sk", "so"]),
    (["sm", "mathsymbol"], ["sm"]), (["sc", "currencysymbol"], ["sc"]),
    (["sk", "modifiersymbol"], ["sk"]), (["so", "othersymbol"], ["so"]),
    (["z", "separator"], ["zs", "zl", "zp"]), (["zs", "spaceseparator"], ["zs"]),
    (["zl", "lineseparator"], ["zl"]), (["zp", "paragraphseparator"], ["zp"]),
    (["cc", "control", "cntrl"], ["cc"]), (["cf", "format"], ["cf"]),
    (["co", "privateuse"], ["co"]) ]

/-- The category or the group of categories of a name. -/
def category? (name : String) : Option NamedSet :=
  if name = "any" then some any
  else if name = "assigned" then some assigned
  else if name = "ascii" then some ascii
  else if name = "cn" ∨ name = "unassigned" then some unassigned
  else if name = "c" ∨ name = "other" then some (unassignedOr ["cc", "cf", "co"])
  else (categoryNames.find? fun entry => entry.1.contains name).map (categories ·.2)

/-- The script that has a name. -/
def script? (name : String) : Option NamedSet :=
  if name = "zzzz" ∨ name = "unknown" then some unknownScript
  else (scriptRanges.find? fun entry => entry.1.contains name).map (script ·.2)

/-- The property of a name; three short names are those of categories. -/
def property? (name : String) : Option NamedSet :=
  if name = "cf" ∨ name = "sc" ∨ name = "lc" then none
  else (propertyRows.find? fun row => row.names.contains name).map property

/-- The set of a name: a property, a category or a script. -/
def ofName? (name : String) : Option NamedSet :=
  let name := normalName name
  property? name <|> category? name <|> script? name

/-- The set of a value of a property: of the general category, or of the script. -/
def ofValue? (name value : String) : Option NamedSet :=
  let name := normalName name
  let value := normalName value
  if name = "gc" ∨ name = "generalcategory" then category? value
  else if name = "sc" ∨ name = "script" then script? value
  else none

end NamedSet

/-- Whether a character is part of a word: letters, marks, digits, characters that
connect and characters that join. -/
def isWordChar (char : Char) : Bool :=
  (propertyRows.any fun row =>
    (row.names.contains "alphabetic" || row.names.contains "joincontrol") && row.has char)
    || hasCategory ["mn", "mc", "me", "nd", "pc"] char

/-- Whether a character is alphabetic. -/
def isAlphabetic (char : Char) : Bool :=
  propertyRows.any fun row => row.names.contains "alphabetic" && row.has char

end JsonTables.Text
