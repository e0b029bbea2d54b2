import JsonTables.Shape.Check

/-!
# Building shapes

Each kind of shape accepts some kinds of tokens always and others if they are
allowed.  Null and absent values are allowed unless it is said that they are not.
-/

namespace JsonTables

/-- What is allowed in place of a value. -/
structure Allowances where
  missing : Bool := true
  null : Bool := true
  string : Bool := false
  int : Bool := false
  decimal : Bool := false
  bool : Bool := false
deriving DecidableEq, Repr

namespace Allowances

/-- The set of the kinds that are always accepted, and null if it is allowed. -/
def desired (allow : Allowances) (always : List Kind) : KindSet :=
  (KindSet.ofList always).insertIf .null allow.null

/-- What is accepted by allowances, with kinds that always are. -/
def accepting (allow : Allowances) (always : List Kind) : Acceptance :=
  ⟨allow.missing, allow.desired always⟩

end Allowances

namespace LeafKind

/-- The kinds of tokens that a leaf always accepts. -/
def always : LeafKind → List Kind
  | boolean => [.bool]
  | char | string | instant => [.string]
  | byte | short | int | long | epoch _ | bigInteger => [.int]
  | float | double | bigDecimal => [.int, .decimal]

/-- Whether texts are accepted if they are allowed. -/
def mayAllowString : LeafKind → Bool
  | char | string | instant | epoch _ => false
  | _ => true

/-- Whether decimals are accepted if they are allowed. -/
def mayAllowDecimal : LeafKind → Bool
  | byte | short | int | long | epoch _ | bigInteger | string => true
  | _ => false

/-- What a leaf accepts under allowances; those it has no use for do not count. -/
def accepting (kind : LeafKind) (allow : Allowances) : Acceptance :=
  let isText := kind == .string
  let desired := (allow.desired kind.always)
    |>.insertIf .string (kind.mayAllowString && allow.string)
    |>.insertIf .decimal (kind.mayAllowDecimal && allow.decimal)
    |>.insertIf .int (isText && allow.int)
    |>.insertIf .bool (isText && allow.bool)
  ⟨allow.missing, desired⟩

end LeafKind

namespace Shape

/-- A leaf that has not been checked. -/
def plainLeaf (kind : LeafKind) (allow : Allowances) (onNull onMissing : Option kind.Value) :
    Shape :=
  leaf ⟨kind, kind.accepting allow, onNull, onMissing⟩

/-- A leaf of a kind, checked. -/
def buildLeaf (kind : LeafKind) (allow : Allowances) (onNull onMissing : Option kind.Value) :
    Except DocumentError Shape :=
  checked (plainLeaf kind allow onNull onMissing)

/-- An instant from a text, or from a number of units if a unit is given. -/
def buildInstant (unit : Option Time.EpochUnit) (allow : Allowances)
    (onNull onMissing : Option Time.Instant) : Except DocumentError Shape :=
  match unit with
  | some unit => buildLeaf (.epoch unit) allow onNull onMissing
  | none =>
      if allow.decimal then .error (.invalid "allow_decimal is only valid when using number_format")
      else buildLeaf .instant allow onNull onMissing

/-- The rules of an object by allowances. -/
def objectRules (allow : Allowances) (allowUnknown : Bool) (repeats : RepeatPolicy)
    (matching : List (String × FieldMatching)) : ObjectRules :=
  ⟨allowUnknown, allow.accepting [.object], repeats, matching⟩

/-- The rules of an object that nothing more is said about. -/
def defaultRules : ObjectRules :=
  objectRules {} true .useFirst []

/-- An object; of two fields of one name the last counts. -/
def buildObject (fields : List (String × Shape)) (rules : ObjectRules) :
    Except DocumentError Shape :=
  checked (object (.record (Json.lastOccurrences fields) rules))

/-- A list that has not been checked. -/
def plainArray (element : Shape) (allow : Allowances) : Shape :=
  array element (allow.accepting [.array])

/-- A list. -/
def buildArray (element : Shape) (allow : Allowances) : Except DocumentError Shape :=
  checked (plainArray element allow)

/-- An object as a map; keys are texts and values are anything if nothing is said. -/
def buildKeyValue (key value : Option Shape) (allow : Allowances) :
    Except DocumentError Shape :=
  let key := key.getD (plainLeaf .string {} none none)
  checked (keyValue key (value.getD any) (allow.accepting [.object]))

/-- A tuple, checked. -/
def buildTuple (slots : List Shape) (allow : Allowances) : Except DocumentError Shape :=
  checked (tuple slots (allow.accepting [.array]))

/-- The object that a type must be. -/
def variantOf (tag : String) : Shape → Except DocumentError ObjectShape
  | object record => .ok record
  | other =>
      .error (.invalid <| s!"typed_object options for type '{tag}' must be object options, "
        ++ s!"found {other.name}")

/-- The rules of an object with types under allowances. -/
def variantRules (typeField : String) (allow : Allowances) (allowUnknown : Bool)
    (repeats : RepeatPolicy) : VariantRules :=
  ⟨typeField, allowUnknown, allow.accepting [.object], repeats⟩

/-- An object whose fields depend on its type; of two types of one name the last
counts. -/
def buildTyped (rules : VariantRules) (shared : List (String × Shape))
    (variants : List (String × ObjectShape)) : Except DocumentError Shape :=
  checked (typed rules (Json.lastOccurrences shared) (Json.lastOccurrences variants))

/-- A value that is checked and dropped. -/
def buildSkip (allowMissing : Bool) (desired : KindSet) : Except DocumentError Shape :=
  checked (skip ⟨allowMissing, desired⟩)

/-- A value that is dropped, whatever it is. -/
def dropAny : Shape :=
  skip ⟨true, .all⟩

end Shape

end JsonTables
