import SchemaMigration.Identifier
import SchemaMigration.Sql.Arithmetic

/-!
# Terms

Expressions with every name looked up and every type known.

* `Scope` is what an expression may refer to.
* `Scope.bind` makes a term of an expression, or says what it cannot refer to.
* `Term.eval` is the value of a term for a row; `Term.collapse` puts the values of aggregates in
  their places first.
-/

namespace SchemaMigration.Sql

/-- What many rows are made to one value by. -/
inductive Aggregate where
  | countRows
  | count
  | sum
  | least
  | greatest
  deriving DecidableEq, Repr

/-- An expression with its names looked up. -/
inductive Term where
  | value (datum : Datum)
  /-- A column by its place. -/
  | column (place : Nat)
  | cast (operand : Term) (type : SqlType) (lenient : Bool)
  | negate (operand : Term) (type : SqlType)
  | not (operand : Term)
  | isNull (operand : Term)
  | and (left right : Term)
  | or (left right : Term)
  | compare (operator : Operator) (left right : Term)
  | concat (left right : Term)
  | calculate (operator : Operator) (type : SqlType) (left right : Term)
  | aggregate (kind : Aggregate) (operand : Term) (type : SqlType)
  deriving Repr

/-- A column that an expression may refer to. -/
structure ScopeColumn where
  /-- The names that may stand in front of its own, the last one next to it. -/
  owner : List String
  name : String
  type : SqlType

/-- What an expression may refer to. -/
structure Scope where
  columns : List ScopeColumn
  /-- The bound values with their types. -/
  values : List (Datum × SqlType)

/-- A term with its type. -/
structure Typed where
  term : Term
  type : SqlType

namespace Scope

/-- Whether a column is what a path names. -/
def names (path : List String) (column : ScopeColumn) : Bool :=
  match path.reverse.map Name.fold with
  | [] => false
  | name :: owner =>
    name == Name.fold column.name
      && owner == (column.owner.reverse.take owner.length).map Name.fold

/-- The places of the columns that a path names. -/
def placesOf (scope : Scope) (path : List String) : List (Nat × SqlType) :=
  (scope.columns.zipIdx.filter fun (c, _) => names path c).map fun (c, i) => (i, c.type)

/-- The column that a path names. -/
def lookUp (scope : Scope) (path : List String) : Except Fault Typed :=
  match scope.placesOf path with
  | [(i, type)] => .ok ⟨.column i, type⟩
  | [] => .error (.binder ("Referenced column " ++ ".".intercalate path ++ " not found"))
  | _ => .error (.binder ("Ambiguous reference to column " ++ ".".intercalate path))

end Scope

/-- The type that a name names. Numbers behind it matter for decimal numbers. -/
def TypeName.resolve (type : TypeName) : Except Fault SqlType :=
  match type.name with
  | "boolean" | "bool" | "logical" => .ok .boolean
  | "tinyint" | "int1" => .ok (.integral .tinyint)
  | "smallint" | "int2" | "short" | "int16" => .ok (.integral .smallint)
  | "integer" | "int" | "int4" | "signed" | "int32" => .ok (.integral .integer)
  | "bigint" | "int8" | "long" | "int64" | "oid" => .ok (.integral .bigint)
  | "hugeint" | "int128" => .ok (.integral .hugeint)
  | "utinyint" | "uint8" => .ok (.integral .utinyint)
  | "usmallint" | "uint16" => .ok (.integral .usmallint)
  | "uinteger" | "uint32" => .ok (.integral .uinteger)
  | "ubigint" | "uint64" => .ok (.integral .ubigint)
  | "real" | "float" | "float4" => .ok .real
  | "double" | "float8" => .ok .double
  | "varchar" | "char" | "bpchar" | "text" | "string" | "nvarchar" => .ok .varchar
  | "uuid" | "guid" => .ok .uuid
  | "date" => .ok .date
  | "decimal" | "numeric" | "dec" =>
    let (precision, scale) := match type.numbers with
      | [] => (18, 3)
      | [p] => (p, 0)
      | p :: s :: _ => (p, s)
    if scale ≤ precision && 1 ≤ precision && precision ≤ SqlType.maxPrecision then
      .ok (.decimal precision scale)
    else .error (.binder "Width and scale of a decimal type are out of range")
  | other => .error (.catalogue ("Type with name " ++ other ++ " does not exist!"))

namespace Typed

/-- A term turned into a type, unless it has it already. -/
def castTo (t : Typed) (type : SqlType) : Term :=
  if t.type = type then t.term else .cast t.term type false

/-- The fault of an operator that does not take the types of its operands. -/
def noMatch (operator : String) : Fault :=
  .binder ("No function matches the given name and argument types '" ++ operator ++ "'")

/-- A comparison. -/
def comparison (operator : Operator) (a b : Typed) : Except Fault Typed :=
  match commonType? a.type b.type with
  | some type => .ok ⟨.compare operator (a.castTo type) (b.castTo type), .boolean⟩
  | none => .error (.binder "Cannot compare values of these types - an explicit cast is required")

/-- A calculation in a type. -/
def calculation (operator : Operator) (type : SqlType) (a b : Typed) : Typed :=
  ⟨.calculate operator type (a.castTo type) (b.castTo type), type⟩

/-- A calculation on decimal numbers, whose operands keep their own scales. -/
def decimalCalculation (operator : Operator) (p s q t : Nat) (a b : Typed) : Typed :=
  let type :=
    if operator = .mul then SqlType.decimal (min SqlType.maxPrecision (p + q)) (s + t)
    else SqlType.ofDigits (max (p - s) (q - t) + 1) (max s t)
  ⟨.calculate operator type (a.castTo (.decimal p s)) (b.castTo (.decimal q t)), type⟩

/-- The type of a text or of an unknown value next to a number. -/
def nextTo (other : SqlType) (t : SqlType) : SqlType :=
  if t = .varchar || t = .unknown then other else t

/-- A calculation in the type that the operands have in common. -/
def arithmetic (operator : Operator) (a b : Typed) : Except Fault Typed :=
  let left := nextTo b.type a.type
  let right := nextTo a.type b.type
  if left = .unknown && right = .unknown then .ok ⟨.value .null, .integral .integer⟩
  else if !left.isNumeric || !right.isNumeric then .error (noMatch "arithmetic")
  else if operator = .div then .ok (calculation operator .double a b)
  else match commonNumericType left right with
    | .integral width => .ok (calculation operator (.integral width) a b)
    | .decimal _ _ =>
      match left.asDecimal?, right.asDecimal? with
      | some (p, s), some (q, t) => .ok (decimalCalculation operator p s q t a b)
      | _, _ => .error (noMatch "arithmetic")
    | type => .ok (calculation operator type a b)

/-- What an operator makes of two terms. -/
def binary (operator : Operator) (a b : Typed) : Except Fault Typed :=
  match operator with
  | .or => .ok ⟨.or (a.castTo .boolean) (b.castTo .boolean), .boolean⟩
  | .and => .ok ⟨.and (a.castTo .boolean) (b.castTo .boolean), .boolean⟩
  | .eq | .ne | .lt | .le | .gt | .ge => comparison operator a b
  | .concat => .ok ⟨.concat (a.castTo .varchar) (b.castTo .varchar), .varchar⟩
  | .add | .sub | .mul | .div | .intDiv | .rem => arithmetic operator a b

/-- The type of a sum of values of a type. -/
def sumType? : SqlType → Option SqlType
  | .boolean | .integral _ | .unknown => some (.integral .hugeint)
  | .decimal _ scale => some (.decimal SqlType.maxPrecision scale)
  | .real | .double => some .double
  | .varchar | .uuid | .date => none

/-- What a function makes of its argument. -/
def call (name : String) (arity : Nat) (a : Typed) : Except Fault Typed :=
  match name, arity with
  | "count", 0 => .ok ⟨.aggregate .countRows (.value .null) (.integral .bigint), .integral .bigint⟩
  | "count", 1 => .ok ⟨.aggregate .count a.term (.integral .bigint), .integral .bigint⟩
  | "sum", 1 =>
    match sumType? a.type with
    | some type => .ok ⟨.aggregate .sum (a.castTo type) type, type⟩
    | none => .error (noMatch "sum")
  | "min", 1 => .ok ⟨.aggregate .least a.term a.type, a.type⟩
  | "max", 1 => .ok ⟨.aggregate .greatest a.term a.type, a.type⟩
  | "count", _ | "sum", _ | "min", _ | "max", _ => .error (noMatch name)
  | other, _ => .error (.catalogue ("Scalar Function with name " ++ other ++ " does not exist!"))

/-- A number with the other sign. -/
def negation (a : Typed) : Except Fault Typed :=
  if a.type.isNumeric || a.type = .unknown then .ok ⟨.negate a.term a.type, a.type⟩
  else .error (noMatch "-")

end Typed

/-- Looks up the names of an expression. -/
def Scope.bind (scope : Scope) : Expression → Except Fault Typed
  | .literal value type => .ok ⟨.value value, type⟩
  | .placeholder number =>
    let (value, type) := scope.values[number - 1]?.getD (.null, .unknown)
    .ok ⟨.value value, type⟩
  | .column path => scope.lookUp path
  | .cast operand name lenient => do
    let a ← scope.bind operand
    let type ← name.resolve
    return ⟨.cast a.term type lenient, type⟩
  | .negate operand => do
    let a ← scope.bind operand
    a.negation
  | .not operand => do
    let a ← scope.bind operand
    return ⟨.not (a.castTo .boolean), .boolean⟩
  | .isNull operand => do
    let a ← scope.bind operand
    return ⟨.isNull a.term, .boolean⟩
  | .binary operator left right => do
    let a ← scope.bind left
    let b ← scope.bind right
    Typed.binary operator a b
  | .call name arity argument => do
    let a ← scope.bind argument
    Typed.call name arity a

namespace Term

/-- Whether an aggregate occurs in a term. -/
def hasAggregate : Term → Bool
  | value _ | column _ => false
  | cast a _ _ | negate a _ | not a | isNull a => a.hasAggregate
  | and a b | or a b | compare _ a b | concat a b | calculate _ _ a b =>
    a.hasAggregate || b.hasAggregate
  | aggregate _ _ _ => true

/-- Whether a column occurs in a term outside of its aggregates. -/
def hasBareColumn : Term → Bool
  | value _ | aggregate _ _ _ => false
  | column _ => true
  | cast a _ _ | negate a _ | not a | isNull a => a.hasBareColumn
  | and a b | or a b | compare _ a b | concat a b | calculate _ _ a b =>
    a.hasBareColumn || b.hasBareColumn

/-- The conjunction of truth values, of which either may not be there. -/
def conjunction : Datum → Datum → Datum
  | .bool false, _ | _, .bool false => .bool false
  | .bool true, .bool true => .bool true
  | _, _ => .null

/-- The disjunction of truth values, of which either may not be there. -/
def disjunction : Datum → Datum → Datum
  | .bool true, _ | _, .bool true => .bool true
  | .bool false, .bool false => .bool false
  | _, _ => .null

/-- What a lenient cast makes of a fault. -/
def forgive : Except Fault Datum → Datum
  | .ok d => d
  | .error _ => .null

/-- The value of a term for a row. An aggregate has none of its own. -/
def eval (row : Record) : Term → Except Fault Datum
  | value d => .ok d
  | column place => .ok (row[place]?.getD .null)
  | cast a type lenient => do
    let d ← a.eval row
    if lenient then return forgive (d.cast type) else d.cast type
  | negate a type => do (← a.eval row).opposite type
  | not a => do
    match ← a.eval row with
    | .bool b => return .bool (!b)
    | _ => return .null
  | isNull a => do return .bool ((← a.eval row) == .null)
  | and a b => do return conjunction (← a.eval row) (← b.eval row)
  | or a b => do return disjunction (← a.eval row) (← b.eval row)
  | compare operator a b => do
    match ← a.eval row, ← b.eval row with
    | .null, _ | _, .null => return .null
    | x, y => return .bool (x.compares operator y)
  | concat a b => do
    match ← a.eval row, ← b.eval row with
    | .text x, .text y => return .text (x ++ y)
    | _, _ => return .null
  | calculate operator type a b => do
    match ← a.eval row, ← b.eval row with
    | .null, _ | _, .null => return .null
    | x, y => Datum.calculate operator type x y
  | aggregate _ _ _ => .ok .null

/-- The sum of values of a type; there is none of no values. -/
def total (type : SqlType) : Option Datum → List Datum → Except Fault Datum
  | sum, [] => .ok (sum.getD .null)
  | none, d :: ds => total type (some d) ds
  | some sum, d :: ds => do
    let next ← Datum.calculate .add type sum d
    total type (some next) ds

/-- The value that is furthest in a direction; there is none of no values. -/
def furthest (direction : Ordering) : List Datum → Datum
  | [] => .null
  | d :: ds => ds.foldl (fun best e => if e.order best == direction then e else best) d

/-- What an aggregate makes of the values of its operand. -/
def gather (kind : Aggregate) (type : SqlType) (values : List Datum) : Except Fault Datum :=
  let present := values.filter (· != .null)
  match kind with
  | .countRows => .ok (.int values.length)
  | .count => .ok (.int present.length)
  | .sum => total type none present
  | .least => .ok (furthest .lt present)
  | .greatest => .ok (furthest .gt present)

/-- A term with the values of its aggregates over rows in their places. -/
def collapse (rows : List Record) : Term → Except Fault Term
  | value d => .ok (value d)
  | column place => .ok (column place)
  | cast a type lenient => do return cast (← a.collapse rows) type lenient
  | negate a type => do return negate (← a.collapse rows) type
  | not a => do return not (← a.collapse rows)
  | isNull a => do return isNull (← a.collapse rows)
  | and a b => do return and (← a.collapse rows) (← b.collapse rows)
  | or a b => do return or (← a.collapse rows) (← b.collapse rows)
  | compare operator a b => do return compare operator (← a.collapse rows) (← b.collapse rows)
  | concat a b => do return concat (← a.collapse rows) (← b.collapse rows)
  | calculate operator type a b => do
    return calculate operator type (← a.collapse rows) (← b.collapse rows)
  | aggregate kind a type => do
    let values ← rows.mapM fun row => a.eval row
    return value (← gather kind type values)

end Term

end SchemaMigration.Sql
