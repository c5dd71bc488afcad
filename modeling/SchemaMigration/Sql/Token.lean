import SchemaMigration.Identifier

/-!
# Tokens of statements

The words, numbers, texts and symbols of a text of statements. Blanks and comments separate tokens
and are no tokens themselves.

* `Token.scan?` cuts a text into its tokens; a text or a comment that is not closed has none.
* `reservedWords` and `functionWords` are the words that cannot name things.
-/

namespace SchemaMigration.Sql

/-- A token. -/
inductive Token where
  /-- A word, and whether it stands between double quotes. -/
  | word (text : String) (quoted : Bool)
  | number (text : String)
  | text (value : String)
  /-- A place for a value; without a number of its own it is the next one. -/
  | placeholder (number : Option Nat)
  | symbol (text : String)
  deriving DecidableEq, Repr

/-- Words that name nothing. -/
def reservedWords : List String :=
  ["all", "analyse", "analyze", "and", "any", "array", "as", "asc", "asymmetric", "both", "case",
    "cast", "check", "collate", "column", "constraint", "create", "default", "deferrable", "desc",
    "describe", "distinct", "do", "else", "end", "except", "false", "fetch", "for", "foreign",
    "from", "group", "having", "in", "initially", "intersect", "into", "lambda", "lateral",
    "leading", "limit", "not", "null", "offset", "on", "only", "or", "order", "pivot",
    "pivot_longer", "pivot_wider", "placing", "primary", "qualify", "references", "returning",
    "select", "show", "some", "summarize", "symmetric", "table", "then", "to", "trailing", "true",
    "union", "unique", "unpivot", "using", "variadic", "when", "where", "window", "with"]

/-- Words that name functions and types but nothing else. -/
def functionWords : List String :=
  ["anti", "asof", "authorization", "binary", "collation", "concurrently", "cross", "freeze",
    "full", "generated", "glob", "ilike", "inner", "is", "isnull", "join", "left", "like", "map",
    "natural", "notnull", "outer", "overlaps", "positional", "right", "semi", "similar", "struct",
    "tablesample", "try_cast", "unpack", "verbose"]

namespace Token

/-- Blanks beyond the ASCII ones that separate tokens. -/
def isWideBlank (c : Char) : Bool :=
  c.toNat == 0xA0 || (0x2000 ≤ c.toNat && c.toNat ≤ 0x200D)
    || [0x202F, 0x205F, 0x2060, 0x3000, 0xFEFF].contains c.toNat

/-- Whether a character separates tokens. -/
def isBlank (c : Char) : Bool :=
  c == ' ' || ('\t' ≤ c && c ≤ '\x0d') || isWideBlank c

/-- Whether a character begins a word. -/
def beginsWord (c : Char) : Bool :=
  Name.isLetter c || c == '_' || (128 ≤ c.toNat && !isWideBlank c)

/-- Whether a character goes on with a word. -/
def isWordTail (c : Char) : Bool :=
  beginsWord c || Text.isDigit c || c == '$'

/-- What follows a block comment that is open `depth` times; nothing, if it is not closed. -/
def afterComment? : Nat → List Char → Option (List Char)
  | 0, s => some s
  | _ + 1, [] => none
  | depth + 1, '*' :: '/' :: s => afterComment? depth s
  | depth + 1, '/' :: '*' :: s => afterComment? (depth + 2) s
  | depth + 1, _ :: s => afterComment? (depth + 1) s

/-- The text up to a closing quote, which is doubled inside, and what follows; nothing, if it is not
closed. -/
def quotedText? (quote : Char) : List Char → Option (List Char × List Char)
  | [] => none
  | [c] => if c = quote then some ([], []) else none
  | c :: d :: s =>
    if c = quote then
      if d = quote then (quotedText? quote s).map fun (body, rest) => (quote :: body, rest)
      else some ([], d :: s)
    else (quotedText? quote (d :: s)).map fun (body, rest) => (c :: body, rest)

/-- The digits of a number, perhaps with underscores between them. -/
def digitRun (s : List Char) : List Char :=
  s.takeWhile fun c => Text.isDigit c || c == '_'

/-- The exponent at the front of a text, if there is one. -/
def exponentRun (s : List Char) : List Char :=
  match s with
  | e :: rest =>
    if e = 'e' || e = 'E' then
      let sign := rest.takeWhile fun c => c == '-' || c == '+'
      let digits := digitRun (rest.drop sign.length)
      if sign.length ≤ 1 && !digits.isEmpty then e :: (sign ++ digits) else []
    else []
  | [] => []

/-- The number at the front of a text. -/
def numberRun (s : List Char) : List Char :=
  let whole := digitRun s
  let rest := s.drop whole.length
  let fraction := match rest with
    | '.' :: r => '.' :: digitRun r
    | _ => []
  whole ++ fraction ++ exponentRun (rest.drop fraction.length)

/-- The symbols of more than one character, the longer ones first. -/
def longSymbols : List String :=
  ["::", "<=", ">=", "<>", "!=", "||", "//", "=="]

/-- The symbols of one character. -/
def shortSymbols : List Char :=
  ['(', ')', '[', ']', ',', '.', ';', '+', '-', '*', '/', '%', '=', '<', '>', '^', ':']

/-- The symbol at the front of a text, and what follows. -/
def symbol? : List Char → Option (String × List Char)
  | [] => none
  | c :: rest =>
    let pair := String.ofList (c :: rest.take 1)
    if longSymbols.contains pair then some (pair, rest.drop 1)
    else if shortSymbols.contains c then some (c.toString, rest)
    else none

/-- The token at the front of a text, if no blank or comment is there, and what follows; nothing, if
neither stands there. -/
def next? : List Char → Option (Option Token × List Char)
  | [] => none
  | '-' :: '-' :: s => some (none, s.dropWhile fun c => c != '\n' && c != '\r')
  | '/' :: '*' :: s => (afterComment? 1 s).map fun rest => (none, rest)
  | '\x27' :: s =>
    (quotedText? '\x27' s).map fun (value, rest) => (some (.text (String.ofList value)), rest)
  | '\x22' :: s => do
    let (value, rest) ← quotedText? '\x22' s
    if value.isEmpty then none else some (some (.word (String.ofList value) true), rest)
  | '?' :: s =>
    let digits := s.takeWhile Text.isDigit
    some (some (.placeholder (Text.ofDigits? 10 digits)), s.drop digits.length)
  | '$' :: s => do
    let digits := s.takeWhile Text.isDigit
    let n ← Text.ofDigits? 10 digits
    some (some (.placeholder (some n)), s.drop digits.length)
  | c :: s =>
    if isBlank c then some (none, s)
    else if beginsWord c then
      let tail := s.takeWhile isWordTail
      some (some (.word (String.ofList (c :: tail)) false), s.drop tail.length)
    else if Text.isDigit c || (c == '.' && (s.head?.map Text.isDigit).getD false) then
      let run := numberRun (c :: s)
      some (some (.number (String.ofList run)), (c :: s).drop run.length)
    else (symbol? (c :: s)).map fun (spelling, rest) => (some (.symbol spelling), rest)

/-- The tokens of a text. -/
def scan? (s : List Char) : Option (List Token) :=
  if s.isEmpty then some []
  else match next? s with
    | none => none
    | some (token, rest) =>
      if _ : rest.length < s.length then
        (scan? rest).map fun tokens =>
          match token with
          | some t => t :: tokens
          | none => tokens
      else none
termination_by s.length
decreasing_by assumption

/-- The tokens between semicolons. -/
def statements : List Token → List (List Token)
  | [] => [[]]
  | .symbol ";" :: rest => [] :: statements rest
  | t :: rest =>
    match statements rest with
    | [] => [[t]]
    | first :: others => (t :: first) :: others

/-- The tokens with a number for each placeholder. -/
def numbered : Nat → List Token → List Token
  | _, [] => []
  | n, .placeholder none :: rest => .placeholder (some n) :: numbered (n + 1) rest
  | n, t :: rest => t :: numbered n rest

/-- The greatest number of a placeholder. -/
def placeholders (tokens : List Token) : Nat :=
  tokens.foldl (fun n t => match t with | .placeholder (some m) => max n m | _ => n) 0

end Token

end SchemaMigration.Sql
