import SchemaMigration.Sql.Datum

/-!
# Statements

What a text of statements says, before anything is looked up.

* `Expression` is a value to be computed.
* `Query` asks for rows.
* `Command` is one statement.
-/

namespace SchemaMigration.Sql

/-- The name of a type with its numbers. -/
structure TypeName where
  name : String
  numbers : List Nat := []
  deriving DecidableEq, Repr

/-- Operators between two values. -/
inductive Operator where
  | or
  | and
  | eq
  | ne
  | lt
  | le
  | gt
  | ge
  | concat
  | add
  | sub
  | mul
  | div
  | intDiv
  | rem
  deriving DecidableEq, Repr

/-- A value to be computed. -/
inductive Expression where
  | literal (value : Datum) (type : SqlType)
  /-- A bound value, counted from one. -/
  | placeholder (number : Nat)
  /-- A column by its name, perhaps with a table and a schema in front. -/
  | column (path : List String)
  /-- A cast; a lenient one gives nothing where a value does not fit. -/
  | cast (operand : Expression) (type : TypeName) (lenient : Bool)
  | negate (operand : Expression)
  | not (operand : Expression)
  /-- Whether a value is not there. -/
  | isNull (operand : Expression)
  | binary (operator : Operator) (left right : Expression)
  /-- A function with some number of arguments, of which the first one is kept. -/
  | call (name : String) (arity : Nat) (argument : Expression)
  deriving DecidableEq, Repr

namespace Expression

/-- The value that is not there. -/
def absent : Expression := literal .null .unknown

/-- Whether a value is one of several. -/
def oneOf (operand : Expression) : List Expression → Expression
  | [] => literal (.bool false) .boolean
  | [e] => binary .eq operand e
  | e :: es => binary .or (binary .eq operand e) (oneOf operand es)

end Expression

/-- A column of an answer. -/
inductive Item where
  /-- All columns. -/
  | all
  | value (expression : Expression) (label : Option String)
  deriving DecidableEq, Repr

/-- Where rows come from. -/
inductive Source where
  | table (path : List String)
  /-- A function that makes rows. -/
  | call (name : String) (arguments : List Expression)
  deriving DecidableEq, Repr

/-- One key of an order. -/
structure OrderKey where
  expression : Expression
  descending : Bool
  nullsFirst : Bool
  deriving DecidableEq, Repr

/-- A question for rows. -/
structure Query where
  items : List Item
  /-- The sources, each with another name if it has one. -/
  sources : List (Source × Option String)
  condition : Option Expression
  order : List OrderKey
  limit : Option Expression
  offset : Option Expression
  deriving DecidableEq, Repr

/-- A column of a new table. -/
structure ColumnClause where
  name : String
  type : TypeName
  isKey : Bool
  isUnique : Bool
  isRequired : Bool
  deriving DecidableEq, Repr

/-- A part of a table's definition. -/
inductive TableClause where
  | column (clause : ColumnClause)
  /-- Columns that are a key together. -/
  | key (columns : List String) (isPrimary : Bool)
  deriving DecidableEq, Repr

/-- What to do when a thing of the name is there already. -/
inductive Existing where
  | refuse
  | keep
  | replace
  deriving DecidableEq, Repr

/-- Where new rows come from. -/
inductive NewRows where
  | values (rows : List (List Expression))
  | query (query : Query)
  deriving DecidableEq, Repr

/-- A statement. -/
inductive Command where
  | createSchema (path : List String) (existing : Existing)
  | dropSchema (path : List String) (ifPresent cascade : Bool)
  | createTable (path : List String) (existing : Existing) (clauses : List TableClause)
  | createTableAs (path : List String) (existing : Existing) (query : Query)
  | dropTable (path : List String) (ifPresent : Bool)
  | insert (path : List String) (columns : Option (List String)) (rows : NewRows)
  | query (query : Query)
  deriving DecidableEq, Repr

/-- Whether a statement changes the database. -/
def Command.isWrite : Command → Bool
  | .query _ => false
  | _ => true

end SchemaMigration.Sql
