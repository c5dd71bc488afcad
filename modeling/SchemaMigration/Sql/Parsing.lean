import SchemaMigration.Sql.Expression
import SchemaMigration.Sql.Token

/-!
# Reading statements

Statements are read from tokens by recursive descent. Operators bind by levels; on one level the
left one binds first.

* `Parser` reads from the front of a list of tokens and may fail.
* `Command.parseAll?` reads the statements of a text.
-/

namespace SchemaMigration.Sql

/-- A reader of the front of a list of tokens. -/
abbrev Parser (α : Type) := StateT (List Token) Option α

namespace Parser

/-- The next token, which stays where it is. -/
def peek? : Parser (Option Token) := do
  return (← get).head?

/-- Takes the next token. -/
def next : Parser Token := do
  match ← get with
  | t :: rest => set rest; return t
  | [] => failure

/-- Takes a token if it is the next one; whether it was. -/
def accept (token : Token) : Parser Bool := do
  match ← get with
  | t :: rest => if t = token then set rest; return true else return false
  | [] => return false

/-- Whether a token is an unquoted word, in letters of either case. -/
def isKeyword (keyword : String) : Token → Bool
  | .word w false => Name.fold w == keyword
  | _ => false

/-- Takes a keyword if it comes next; whether it did. -/
def keyword (word : String) : Parser Bool := do
  match ← get with
  | t :: rest => if isKeyword word t then set rest; return true else return false
  | [] => return false

/-- Takes keywords if they all come next; whether they did. -/
def keywords (words : List String) : Parser Bool := do
  let tokens ← get
  let front := tokens.take words.length
  if front.length = words.length && (words.zip front).all fun (w, t) => isKeyword w t then
    set (tokens.drop words.length)
    return true
  else return false

/-- Takes keywords that have to come next. -/
def expect (words : List String) : Parser Unit := do
  if ← keywords words then return () else failure

/-- Takes a symbol that has to come next. -/
def expectSymbol (spelling : String) : Parser Unit := do
  if ← accept (.symbol spelling) then return () else failure

/-- Takes a symbol if it comes next; whether it did. -/
def acceptSymbol (spelling : String) : Parser Bool :=
  accept (.symbol spelling)

/-- The name that a token is. A word that the grammar needs for itself is none unless it stands
between quotes. -/
def nameOf? : Token → Option String
  | .word w true => some w
  | .word w false =>
    let folded := Name.fold w
    if reservedWords.contains folded || functionWords.contains folded then none else some w
  | _ => none

/-- Takes a name. -/
def name : Parser String := do
  match nameOf? (← next) with
  | some n => return n
  | none => failure

/-- Takes any word; behind a point every word is a name. -/
def anyWord : Parser String := do
  match ← next with
  | .word w _ => return w
  | _ => failure

/-- Takes the rest of a path: words with a point in front of each. -/
def pathTail : Nat → Parser (List String)
  | 0 => failure
  | fuel + 1 => do
    if ← acceptSymbol "." then
      let w ← anyWord
      return w :: (← pathTail fuel)
    else return []

/-- Takes a name with perhaps others behind it. -/
def path : Parser (List String) := do
  let first ← name
  return first :: (← pathTail ((← get).length + 1))

/-- Takes one thing or more with commas between them. -/
def commaSeparated {α : Type} (item : Parser α) : Nat → Parser (List α)
  | 0 => failure
  | fuel + 1 => do
    let first ← item
    if ← acceptSymbol "," then return first :: (← commaSeparated item fuel) else return [first]

/-- Takes one thing or more with commas between them, as many as there are. -/
def listOf {α : Type} (item : Parser α) : Parser (List α) := do
  commaSeparated item ((← get).length + 1)

/-- Takes something between parentheses. -/
def parenthesized {α : Type} (inner : Parser α) : Parser α := do
  expectSymbol "("
  let result ← inner
  expectSymbol ")"
  return result

/-- Takes a natural number. -/
def natural : Parser Nat := do
  match ← next with
  | .number digits =>
    match Text.ofDigits? 10 digits.toList with
    | some n => return n
    | none => failure
  | _ => failure

/-- Takes the name of a type. -/
def typeName : Parser TypeName := do
  let first ← anyWord
  let _ ← if Name.fold first = "double" then keyword "precision" else pure false
  let numbers ←
    if (← peek?) = some (.symbol "(") then parenthesized (listOf natural) else pure []
  return ⟨Name.fold first, numbers⟩

/-! ## Expressions -/

/-- The number that a numeral denotes, with its type. With a point it is a decimal number; with an
exponent, or with more digits than that allows, a number of double precision. -/
def numberLiteral? (numeral : String) : Option Expression := do
  let digits := numeral.toList.filter (· != '_')
  let double ← Binary64.ofText? digits
  let approximate := Expression.literal (.double double) .double
  if digits.any fun c => c == 'e' || c == 'E' then some approximate
  else if digits.contains '.' then
    let scale := ((digits.dropWhile (· != '.')).drop 1).length
    let precision := digits.length - 1
    if precision ≤ SqlType.maxPrecision then
      let unscaled ← Text.ofDigits? 10 (digits.filter (· != '.'))
      some (.literal (.decimal unscaled scale) (.decimal precision scale))
    else some approximate
  else
    let n ← Text.ofDigits? 10 digits
    match IntegerType.ofLiteral n with
    | some width => some (.literal (.int n) (.integral width))
    | none => some approximate

/-- The operators by their symbols, each with its level; a higher level binds closer. -/
def operators : List (String × Operator × Nat) :=
  [("=", .eq, 5), ("==", .eq, 5), ("<>", .ne, 5), ("!=", .ne, 5), ("<", .lt, 5), ("<=", .le, 5),
    (">", .gt, 5), (">=", .ge, 5), ("||", .concat, 7), ("+", .add, 8), ("-", .sub, 8),
    ("*", .mul, 9), ("/", .div, 9), ("//", .intDiv, 9), ("%", .rem, 9)]

/-- The level of the words `is`, `isnull` and `notnull`. -/
def isLevel : Nat := 4

/-- The level of the words `in` and `between`. -/
def inLevel : Nat := 6

/-- The operator that a token is, with its level. -/
def operatorOf? : Token → Option (Operator × Nat)
  | .symbol s => (operators.find? fun entry => entry.1 == s).map (·.2)
  | .word w false =>
    match Name.fold w with
    | "or" => some (.or, 1)
    | "and" => some (.and, 2)
    | _ => none
  | _ => none

/-- Takes the words after `is`: whether something is there, or true, or false. -/
def isClause (operand : Expression) : Parser Expression := do
  let negated ← keyword "not"
  let test ←
    if ← keyword "null" then pure (Expression.isNull operand)
    else if ← keyword "true" then
      pure (Expression.binary .and (.not (.isNull operand)) operand)
    else if ← keyword "false" then
      pure (Expression.binary .and (.not (.isNull operand)) (.not operand))
    else failure
  return if negated then .not test else test

mutual

/-- Takes an expression whose operators are of a least level. -/
def expression : Nat → Nat → Parser Expression
  | 0, _ => failure
  | fuel + 1, level => do
    let left ←
      if ← keyword "not" then
        let operand ← expression fuel 3
        pure (Expression.not operand)
      else if ← acceptSymbol "-" then
        let operand ← expression fuel 11
        pure (Expression.negate operand)
      else if ← acceptSymbol "+" then expression fuel 11
      else primary fuel
    operatorTail fuel level left

/-- Takes what follows an operand: operators of a least level with their other operands. -/
def operatorTail : Nat → Nat → Expression → Parser Expression
  | 0, _, _ => failure
  | fuel + 1, level, left => do
    match ← peek? with
    | none => return left
    | some token =>
      match operatorOf? token with
      | some (operator, own) =>
        if own < level then return left
        else
          let _ ← next
          let right ← expression fuel (own + 1)
          operatorTail fuel level (.binary operator left right)
      | none =>
        if token = .symbol "::" then
          let _ ← next
          let type ← typeName
          operatorTail fuel level (.cast left type false)
        else if level ≤ isLevel && isKeyword "is" token then
          let _ ← next
          let test ← isClause left
          operatorTail fuel level test
        else if level ≤ isLevel && isKeyword "isnull" token then
          let _ ← next
          operatorTail fuel level (.isNull left)
        else if level ≤ isLevel && isKeyword "notnull" token then
          let _ ← next
          operatorTail fuel level (.not (.isNull left))
        else if level ≤ inLevel then
          let negated ← keywords ["not", "in"]
          if negated || isKeyword "in" token then
            let _ ← if negated then pure false else keyword "in"
            let options ← parenthesized (expressions fuel)
            let test := Expression.oneOf left options
            operatorTail fuel level (if negated then .not test else test)
          else
            let negated ← keywords ["not", "between"]
            if negated || isKeyword "between" token then
              let _ ← if negated then pure false else keyword "between"
              let low ← expression fuel inLevel
              expect ["and"]
              let high ← expression fuel inLevel
              let test := Expression.binary .and (.binary .ge left low) (.binary .le left high)
              operatorTail fuel level (if negated then .not test else test)
            else return left
        else return left

/-- Takes one expression or more with commas between them. -/
def expressions : Nat → Parser (List Expression)
  | 0 => failure
  | fuel + 1 => do
    let first ← expression fuel 0
    if ← acceptSymbol "," then return first :: (← expressions fuel) else return [first]

/-- Takes an operand. -/
def primary : Nat → Parser Expression
  | 0 => failure
  | fuel + 1 => do
    match ← next with
    | .number numeral =>
      match numberLiteral? numeral with
      | some e => return e
      | none => failure
    | .text value => return .literal (.text value) .varchar
    | .placeholder (some number) => if number = 0 then failure else return .placeholder number
    | .placeholder none | .symbol ")" => failure
    | .symbol "(" =>
      let inner ← expression fuel 0
      expectSymbol ")"
      return inner
    | .symbol _ => failure
    | .word w quoted =>
      let folded := Name.fold w
      if !quoted && folded = "null" then return .absent
      else if !quoted && folded = "true" then return .literal (.bool true) .boolean
      else if !quoted && folded = "false" then return .literal (.bool false) .boolean
      else if !quoted && (folded = "cast" || folded = "try_cast") then
        expectSymbol "("
        let operand ← expression fuel 0
        expect ["as"]
        let type ← typeName
        expectSymbol ")"
        return .cast operand type (folded = "try_cast")
      else if (← peek?) = some (.symbol "(") && !reservedWords.contains folded then
        expectSymbol "("
        if ← acceptSymbol ")" then return .call folded 0 .absent
        else if ← acceptSymbol "*" then
          expectSymbol ")"
          return .call folded 0 .absent
        else
          let arguments ← expressions fuel
          expectSymbol ")"
          return .call folded arguments.length (arguments.headD .absent)
      else
        match nameOf? (.word w quoted) with
        | none => failure
        | some first =>
          match ← peek? with
          | some (.text value) =>
            let _ ← next
            return .cast (.literal (.text value) .varchar) ⟨folded, []⟩ false
          | _ => return .column (first :: (← pathTail ((← get).length + 1)))

end

/-- Takes an expression. Every token costs a bounded number of steps, so the steps suffice. -/
def anExpression : Parser Expression := do
  expression (8 * (← get).length + 8) 0

/-! ## Queries -/

/-- Takes another name for something, with or without the word for it. -/
def alias? : Parser (Option String) := do
  if ← keyword "as" then return some (← anyWord)
  else
    match ← get with
    | t :: rest =>
      match nameOf? t with
      | some n => set rest; return some n
      | none => return none
    | [] => return none

/-- Takes a column of an answer. -/
def item : Parser Item := do
  if ← acceptSymbol "*" then return .all
  else
    let e ← anExpression
    return .value e (← alias?)

/-- Takes a source of rows. -/
def source : Parser (Source × Option String) := do
  let names ← path
  let origin ← match names with
    | [single] =>
      if (← peek?) = some (.symbol "(") then
        pure (Source.call (Name.fold single) (← parenthesized (listOf anExpression)))
      else pure (Source.table names)
    | _ => pure (Source.table names)
  return (origin, ← alias?)

/-- Takes a key of an order. A value that is not there comes last unless it is asked for first. -/
def orderKey : Parser OrderKey := do
  let e ← anExpression
  let descending ← keyword "desc"
  let _ ← if descending then pure false else keyword "asc"
  let nullsFirst ← keywords ["nulls", "first"]
  let _ ← if nullsFirst then pure false else keywords ["nulls", "last"]
  return ⟨e, descending, nullsFirst⟩

/-- Takes something behind a keyword, if the keyword comes next. -/
def behind? {α : Type} (words : List String) (inner : Parser α) : Parser (Option α) := do
  if ← keywords words then return some (← inner) else return none

/-- Takes a query. -/
def query : Parser Query := do
  expect ["select"]
  let items ← listOf item
  let sources ← behind? ["from"] (listOf source)
  let condition ← behind? ["where"] anExpression
  let order ← behind? ["order", "by"] (listOf orderKey)
  let limit ← behind? ["limit"] anExpression
  let offset ← behind? ["offset"] anExpression
  return {
    items := items
    sources := sources.getD []
    condition := condition
    order := order.getD []
    limit := limit
    offset := offset }

/-! ## Statements -/

/-- The properties of a column that its constraints give it. -/
def columnConstraints : Nat → ColumnClause → Parser ColumnClause
  | 0, _ => failure
  | fuel + 1, clause => do
    if ← keywords ["primary", "key"] then columnConstraints fuel { clause with isKey := true }
    else if ← keyword "unique" then columnConstraints fuel { clause with isUnique := true }
    else if ← keywords ["not", "null"] then
      columnConstraints fuel { clause with isRequired := true }
    else if ← keyword "null" then columnConstraints fuel clause
    else return clause

/-- Takes a part of a table's definition. -/
def tableClause : Parser TableClause := do
  if ← keywords ["primary", "key"] then return .key (← parenthesized (listOf name)) true
  else if ← keyword "unique" then return .key (← parenthesized (listOf name)) false
  else
    let column ← name
    let type ← typeName
    let clause : ColumnClause := ⟨column, type, false, false, false⟩
    return .column (← columnConstraints ((← get).length + 1) clause)

/-- Takes the words that say what to do with a thing that is there already. -/
def unlessExists : Parser Bool :=
  keywords ["if", "not", "exists"]

/-- What the words in front of a thing and behind its kind say together. Both at once say
nothing. -/
def existing : Bool → Bool → Parser Existing
  | true, true => failure
  | true, false => return .replace
  | false, true => return .keep
  | false, false => return .refuse

/-- Takes the rest of a statement that creates something. -/
def create : Parser Command := do
  let replace ← keywords ["or", "replace"]
  if ← keyword "schema" then
    let mode ← existing replace (← unlessExists)
    return .createSchema (← path) mode
  else
    expect ["table"]
    let mode ← existing replace (← unlessExists)
    let table ← path
    if ← keyword "as" then return .createTableAs table mode (← query)
    else return .createTable table mode (← parenthesized (listOf tableClause))

/-- Takes the rest of a statement that drops something. -/
def drop : Parser Command := do
  let isSchema ← keyword "schema"
  if isSchema then pure () else expect ["table"]
  let ifPresent ← keywords ["if", "exists"]
  let names ← path
  let cascade ← keyword "cascade"
  let _ ← if cascade then pure false else keyword "restrict"
  return if isSchema then .dropSchema names ifPresent cascade else .dropTable names ifPresent

/-- Takes the rest of a statement that inserts rows. Lists of values are equally long. -/
def insert : Parser Command := do
  expect ["into"]
  let table ← path
  let columns ←
    if (← peek?) = some (.symbol "(") then pure (some (← parenthesized (listOf name)))
    else pure none
  if ← keyword "values" then
    let rows ← listOf (parenthesized (listOf anExpression))
    match rows with
    | first :: rest =>
      if rest.all fun row => row.length == first.length then
        return .insert table columns (.values rows)
      else failure
    | [] => failure
  else return .insert table columns (.query (← query))

/-- Takes a statement. -/
def command : Parser Command := do
  if ← keyword "create" then create
  else if ← keyword "drop" then drop
  else if ← keyword "insert" then insert
  else return .query (← query)

end Parser

/-- A statement with the number of values that it needs. -/
structure Prepared where
  command : Command
  placeholders : Nat
  deriving DecidableEq, Repr

/-- Reads the tokens of one statement. -/
def Command.parse? (tokens : List Token) : Option Prepared := do
  let tokens := Token.numbered 1 tokens
  match (Parser.command.run tokens : Option (Command × List Token)) with
  | some (command, []) => some ⟨command, Token.placeholders tokens⟩
  | _ => none

/-- Reads the statements of a text. -/
def Command.parseAll? (text : String) : Option (List Prepared) := do
  let tokens ← Token.scan? text.toList
  ((Token.statements tokens).filter (!·.isEmpty)).mapM Command.parse?

end SchemaMigration.Sql
