import SchemaMigration.CommandLine.Options

/-!
# Reading a command line

A command line is options, the word for a command, and more options. Words are read from left to
right; an option that takes a value is settled only when its value is there and the next option
comes, so a word that nothing knows is refused before the value in front of it is looked at.

* `Command` is what a command line asks for.
* `Command.parse` reads one.
-/

namespace SchemaMigration.CommandLine

/-- What a command does. -/
inductive Action where
  | migrate
  | status
  deriving DecidableEq, Repr

/-- The word for an action. -/
def Action.label : Action → String
  | .migrate => "migrate"
  | .status => "status"

/-- A word that ends the options in front of it. -/
inductive Verb where
  | act (action : Action)
  | help
  deriving DecidableEq, Repr

/-- The verb that a word stands for. -/
def Verb.ofWord? (word : String) : Option Verb :=
  if word = "migrate" then some (.act .migrate)
  else if word = "status" then some (.act .status)
  else if word = "help" then some .help
  else none

/-- What a command line asks for. -/
structure Command where
  action : Action
  output : OutputFormat
  options : GlobalOptions
  deriving DecidableEq, Repr

/-- Where in a command line a word stands. -/
inductive Part where
  /-- In front of the verb. -/
  | front
  /-- After the verb. -/
  | rear
  deriving DecidableEq, Repr

namespace Part

/-- The options that the part knows. -/
def known : Part → List Opt
  | front => Opt.globals ++ [.help, .version]
  | rear => .output :: Opt.globals ++ [.help]

/-- The verb that a word stands for in the part. -/
def verb? : Part → String → Option Verb
  | front, word => Verb.ofWord? word
  | rear, _ => none

/-- The error about a word that is neither an option nor a value. A verb is no longer one after
two hyphens. -/
def stray (part : Part) (afterHyphens : Bool) (word : String) : Refusal :=
  match part with
  | front =>
    if afterHyphens && (Verb.ofWord? word).isSome then .unknownArgument word
    else .unknownCommand word
  | rear => .unknownArgument word

end Part

/-- What has been read of a part. -/
structure Progress where
  options : GlobalOptions := {}
  output : Option OutputFormat := none
  /-- An option that is still to be settled, with its value if that is there already. -/
  unsettled : Option (Opt × Option String) := none
  /-- Whether two hyphens have ended the options. -/
  afterHyphens : Bool := false

namespace Progress

/-- Whether an option is given. -/
def has (p : Progress) : Opt → Bool
  | .output => p.output.isSome
  | option => p.options.has option

/-- Gives an option its value. An option is given once. -/
def store (p : Progress) (option : Opt) (word : String) : Except Refusal Progress :=
  if p.has option then .error (.repeated option)
  else match option with
    | .help => .error .help
    | .version => .error .version
    | .output =>
      match OutputFormat.ofWord? word with
      | some format => .ok { p with output := some format }
      | none => .error (.invalidValue option word)
    | _ => do
      let options ← p.options.set option word
      return { p with options := options }

/-- Settles the option that waits, if there is one. -/
def settle (p : Progress) : Except Refusal Progress :=
  match p.unsettled with
  | none => .ok p
  | some (option, none) => .error (.missingValue option)
  | some (option, some word) => { p with unsettled := none }.store option word

/-- Gives an option its value after what waits has been settled. -/
def take (p : Progress) (option : Opt) (word : String) : Except Refusal Progress := do
  (← p.settle).store option word

/-- Begins an option whose value is the next word. -/
def await (p : Progress) (option : Opt) : Except Refusal Progress := do
  return { ← p.settle with unsettled := some (option, none) }

/-- The option that waits for the next word as its value. -/
def awaiting? (p : Progress) : Option Opt :=
  match p.unsettled with
  | some (option, none) => some option
  | _ => none

/-- Reads an option by its name, with the value after an equals sign if there is one. -/
def readNamed (p : Progress) (part : Part) (word name : String) (value : Option String) :
    Except Refusal Progress :=
  match part.known.find? fun option => option.name == name with
  | none => .error (.unknownArgument word)
  | some option =>
    match option.arity, value with
    | .flag, some text => .error (.unexpectedValue option text)
    | .flag, none | .switch, none => p.take option "true"
    | .one, none => p.await option
    | .one, some text | .switch, some text => p.take option text

/-- A value that follows a letter at once, without its equals sign. -/
def attached : List Char → String
  | '=' :: text => String.ofList text
  | text => String.ofList text

/-- Reads letters, each an option; the first that takes a value takes the rest of the word. -/
def readLetters (part : Part) (word : String) :
    Progress → List Char → Except Refusal Progress
  | p, [] => .ok p
  | p, c :: rest =>
    match part.known.find? fun option => option.letter? == some c with
    | none => .error (.unknownArgument word)
    | some option =>
      match option.arity, rest with
      | .flag, rest | .switch, rest => do readLetters part word (← p.take option "true") rest
      | .one, [] => p.await option
      | .one, rest => p.take option (attached rest)

/-- The name and the value that stand before and after the first equals sign. -/
def splitNamed (text : List Char) : String × Option String :=
  let name := String.ofList (text.takeWhile (· != '='))
  match text.dropWhile (· != '=') with
  | _ :: value => (name, some (String.ofList value))
  | [] => (name, none)

/-- Reads a word that is no verb. -/
def readWord (p : Progress) (part : Part) (word : String) : Except Refusal Progress :=
  if p.afterHyphens then .error (part.stray true word)
  else match word.toList with
    | ['-', '-'] => .ok { p with afterHyphens := true }
    | '-' :: '-' :: text =>
      let (name, value) := splitNamed text
      p.readNamed part word name value
    | '-' :: c :: text => readLetters part word p (c :: text)
    | _ =>
      match p.awaiting? with
      | some option => .ok { p with unsettled := some (option, some word) }
      | none => .error (part.stray false word)

/-- The verb that a word is, unless it is the value of an option. -/
def verb? (p : Progress) (part : Part) (word : String) : Option Verb :=
  if p.afterHyphens || p.awaiting?.isSome then none else part.verb? word

/-- Reads words up to a verb; also the verb and the words after it. -/
def readPart (part : Part) :
    Progress → List String → Except Refusal (Progress × Option (Verb × List String))
  | p, [] => .ok (p, none)
  | p, word :: words =>
    match p.verb? part word with
    | some verb => .ok (p, some (verb, words))
    | none => do readPart part (← p.readWord part word) words

end Progress

/-- The refusal of a command line that ends without a verb. -/
def withoutVerb (options : GlobalOptions) : Refusal :=
  if options = {} then .nothingGiven else .missingCommand

/-- The refusal of a command line that asks for help on something. -/
def helpOn : List String → Refusal
  | [] => .help
  | word :: words =>
    if (Verb.ofWord? word).isSome then
      match words with
      | [] => .help
      | next :: _ => .unknownCommand next
    else .unknownCommand word

/-- Reads the words after a verb: the options and the format of the output. -/
def readRear (environment : String → Option String) (words : List String) :
    Except Refusal (GlobalOptions × OutputFormat) := do
  let (rear, _) ← Progress.readPart .rear {} words
  let rear ← rear.settle
  let _ ← rear.options.fill environment
  return (rear.options, rear.output.getD .table)

/-- Reads a command line. A value that is given anywhere goes before the environment, and one after
the verb goes before one in front of it. The rules for a part are checked with what the environment
adds to it, those for the words after the verb first. -/
def Command.parse (environment : String → Option String) (words : List String) :
    Except Refusal Command := do
  let (front, verb) ← Progress.readPart .front {} words
  match verb with
  | none =>
    let front ← front.settle
    throw (withoutVerb (← front.options.fill environment))
  | some (.help, words) => throw (helpOn words)
  | some (.act action, words) =>
    let (rear, output) ← readRear environment words
    let front ← front.settle
    let _ ← front.options.fill environment
    let options ← (front.options.overlay rear).fill environment
    return ⟨action, output, options⟩

end SchemaMigration.CommandLine
