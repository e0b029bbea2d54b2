import JsonTables.Condition
import JsonTables.Pattern
import JsonTables.TableError
import JsonTables.TextTest

/-!
# Filters

A filter tells rows apart.  It asks for cells by the names of their columns; a
cell that is null, or not there, passes no test of its text.
-/

namespace JsonTables

/-- What is asked of a row. -/
inductive Filter where
  /-- At least one of some filters. -/
  | any (filters : List Filter)
  /-- Every one of some filters. -/
  | all (filters : List Filter)
  | not (filter : Filter)
  | pattern (column : String) (pattern : Pattern) (mode : PatternMode)
  | text (column : String) (test : TextTest)
  | condition (condition : Condition)

namespace Filter

/-- The filter of a pattern, which must be readable alone and anchored. -/
def ofPattern (column pattern : String) (mode : PatternMode) : Except TableError Filter :=
  match Pattern.read? pattern with
  | some known => .ok (Filter.pattern column known mode)
  | none => .error .pattern

/-! ### Columns -/

mutual

/-- The columns that a filter asks for, as often as it does. -/
def mentions : Filter → List String
  | any filters => mentionsOf filters
  | all filters => mentionsOf filters
  | not filter => filter.mentions
  | pattern column _ _ => [column]
  | text column _ => [column]
  | condition asked => [asked.column]
termination_by structural filter => filter

/-- The columns that filters ask for. -/
def mentionsOf : List Filter → List String
  | [] => []
  | filter :: rest => filter.mentions ++ mentionsOf rest
termination_by structural filters => filters

end

/-- Every column that a filter asks for, once. -/
def columns (filter : Filter) : List String :=
  filter.mentions.foldl (fun known column =>
    if known.contains column then known else known ++ [column]) []

/-! ### Tests -/

/-- Whether a cell is there and not null, and its text passes a test. -/
def testText (test : String → Bool) : Option Cell → Bool
  | some cell => !cell.isNull && test (toString cell)
  | none => false

mutual

/-- Whether a row passes a filter. -/
def test (cell? : String → Option Cell) : Filter → Bool
  | any filters => testAny cell? filters
  | all filters => testAll cell? filters
  | not filter => !test cell? filter
  | pattern column known mode => testText (known.isMatch mode) (cell? column)
  | text column asked => testText asked.holds (cell? column)
  | condition asked => asked.holds ((cell? asked.column).getD .null)
termination_by structural filter => filter

/-- Whether a row passes at least one of some filters. -/
def testAny (cell? : String → Option Cell) : List Filter → Bool
  | [] => false
  | filter :: rest => test cell? filter || testAny cell? rest
termination_by structural filters => filters

/-- Whether a row passes all of some filters. -/
def testAll (cell? : String → Option Cell) : List Filter → Bool
  | [] => true
  | filter :: rest => test cell? filter && testAll cell? rest
termination_by structural filters => filters

end

/-! ### Text -/

/-- The word for where a pattern must match. -/
def modeName : PatternMode → String
  | .whole => "Matches"
  | .somewhere => "Find"

mutual

/-- The text of a filter. -/
protected def toString : Filter → String
  | any filters => "(" ++ " OR ".intercalate (textsOf filters) ++ ")"
  | all filters => "(" ++ " AND ".intercalate (textsOf filters) ++ ")"
  | not filter => "NOT " ++ filter.toString
  | pattern column known mode => s!"{column} {modeName mode} /{known.text}/"
  | text column asked =>
      let note := if asked.ignoresCase then " (ignore case)" else ""
      s!"{column} {asked.operator.name} {Text.quoted asked.value}{note}"
  | condition asked => asked.toString
termination_by structural filter => filter

/-- The text of every filter. -/
def textsOf : List Filter → List String
  | [] => []
  | filter :: rest => filter.toString :: textsOf rest
termination_by structural filters => filters

end

instance : ToString Filter := ⟨Filter.toString⟩

/-! ### Sameness -/

mutual

/-- Whether two filters are built alike and ask for the same. -/
def same : Filter → Filter → Bool
  | any first, any second => sameEach first second
  | all first, all second => sameEach first second
  | not first, not second => same first second
  | pattern column known mode, pattern column' known' mode' =>
      column == column' && known.text == known'.text && mode == mode'
  | text column test, text column' test' => column == column' && test == test'
  | condition first, condition second => first.same second
  | _, _ => false
termination_by structural first => first

/-- Whether filters are the same one by one. -/
def sameEach : List Filter → List Filter → Bool
  | [], [] => true
  | first :: rest, second :: others => same first second && sameEach rest others
  | _, _ => false
termination_by structural first => first

end

end Filter

end JsonTables
