import SchemaDeref.Command.Cycles
import SchemaDeref.Command.Resolve

/-!
# The command line

Options, switches and operands in any order, options of all commands before and
after the name of the command. No option is given twice, and what follows two
hyphens is an operand whatever it looks like.
-/

namespace SchemaDeref

/-- What a command line asks for. -/
inductive Invocation where
  | version
  | help
  | resolve (config : Option String) (request : ResolveRequest)
  | cycles (request : CyclesRequest)
deriving DecidableEq, Repr

namespace CommandLine

/-! ## Words -/

/-- A word of a command line by its form. -/
inductive Word where
  /-- Two hyphens: operands follow. -/
  | rest
  | long (name : String) (value : Option String)
  | short (letters : List Char)
  | plain (text : String)
deriving DecidableEq, Repr

/-- A long option, with the value behind the first equals sign. -/
def Word.ofLong (text : List Char) : Word :=
  let name := text.takeWhile (· != '=')
  match text.drop name.length with
  | [] => .long (String.ofList name) none
  | _ :: value => .long (String.ofList name) (some (String.ofList value))

def Word.ofString (text : String) : Word :=
  match text.toList with
  | ['-', '-'] => .rest
  | '-' :: '-' :: letters => ofLong letters
  | ['-'] => .plain text
  | '-' :: letters => .short letters
  | _ => .plain text

/-! ## What may stand on a command line -/

/-- The part of a command line before the name of the command, or behind it. -/
inductive Part where
  | general
  | resolve
  | cycles
deriving DecidableEq, Repr

namespace Part

def configOption : String := "config"
def schemaDirOption : String := "schema-dir"
def maxDepthOption : String := "max-depth"
def circularOption : String := "circular"
def outOption : String := "out"
def noCacheSwitch : String := "no-cache"
def compactSwitch : String := "compact"
def jsonSwitch : String := "json"

/-- The options with a value. -/
def options : Part → List String
  | .general | .cycles => [configOption]
  | .resolve =>
    [configOption, schemaDirOption, maxDepthOption, circularOption, outOption]

/-- The switches that may be set once. -/
def switches : Part → List String
  | .general => []
  | .resolve => [noCacheSwitch, compactSwitch]
  | .cycles => [jsonSwitch]

end Part

/-- Whether an option takes a value. Paths are not empty. -/
def accepts (option value : String) : Bool :=
  if option == Part.maxDepthOption then (Text.natural value).toOption.isSome
  else if option == Part.circularOption then
    (CyclePolicy.ofName? (Text.word value)).isSome
  else !value.isEmpty

/-! ## Reading one part -/

/-- What has been read of a part. -/
structure Given where
  values : List (String × String)
  switches : List String
  operand : Option String

namespace Given

def nothing : Given := ⟨[], [], none⟩

def withValue (given : Given) (option value : String) : Option Given :=
  if accepts option value && (given.values.lookup option).isNone then
    some { given with values := (option, value) :: given.values }
  else none

def withSwitch (given : Given) (switch : String) : Option Given :=
  if given.switches.contains switch then none
  else some { given with switches := switch :: given.switches }

def withOperand (given : Given) (text : String) : Option Given :=
  if text.isEmpty || given.operand.isSome then none else some { given with
    operand := some text }

end Given

/-- How a part ends. -/
inductive Reading where
  | done (given : Given)
  /-- At a plain word that is no operand, with the words behind it. Nothing is given
  if the option before that word has a value it does not take. -/
  | command (given : Option Given) (name : String) (rest : List String)
  | version
  | help

/-- What letters behind one hyphen ask for: nothing more than to tell more, or else
the version or help. -/
def readLetters (part : Part) : List Char → Option (Option Reading)
  | [] => some none
  | 'v' :: rest => readLetters part rest
  | 'h' :: _ => some (some .help)
  | 'V' :: _ => if part = .general then some (some .version) else none
  | _ => none

/-- A long word without value that is no option: more to tell, the version or help. -/
def readLong (part : Part) (name : String) : Option (Option Reading) :=
  if name == "verbose" then some none
  else if name == "help" then some (some .help)
  else if name == "version" && part = .general then some (some .version)
  else none

/-- A word that stands for the value of an option. -/
def optionValue? (text : String) : Option String :=
  match Word.ofString text with
  | .plain text => some text
  | _ => none

/-- The name of a command in front of the words behind it. -/
def commandAhead? (part : Part) (words : List String) :
    Option (String × List String) :=
  match part, words with
  | .general, word :: rest =>
    match Word.ofString word with
    | .plain text => some (text, rest)
    | _ => none
  | _, _ => none

/-- Reads the operands behind two hyphens; where commands are named there are none. -/
def readOperands (part : Part) (given : Given) : List String → Option Reading
  | [] => some (.done given)
  | text :: rest => do
    if part = .general then none
    else readOperands part (← given.withOperand text) rest

/-- Reads a part to its end; none for words that may not stand there. -/
def readPart (part : Part) (given : Given) (words : List String) : Option Reading :=
  match words with
  | [] => some (.done given)
  | word :: rest =>
    match Word.ofString word with
    | .rest => readOperands part given rest
    | .plain text =>
      if part = .general then some (.command (some given) text rest)
      else do readPart part (← given.withOperand text) rest
    | .short letters => do
      match ← readLetters part letters with
      | some reading => return reading
      | none => readPart part given rest
    | .long name value =>
      if part.options.contains name then
        match value with
        | some value => do readPart part (← given.withValue name value) rest
        | none => do
          let value ← rest.head? >>= optionValue?
          match commandAhead? part (rest.drop 1) with
          | some (command, behind) =>
            return .command (given.withValue name value) command behind
          | none => readPart part (← given.withValue name value) (rest.drop 1)
      else if value.isSome then none
      else if part.switches.contains name then do
        readPart part (← given.withSwitch name) rest
      else do
        match ← readLong part name with
        | some reading => return reading
        | none => readPart part given rest
termination_by words.length
decreasing_by all_goals (simp only [List.length_cons, List.length_drop]; omega)

/-! ## Reading all -/

/-- The request for `resolve`. -/
def Given.resolveRequest? (given : Given) : Option ResolveRequest := do
  let schema ← given.operand
  return {
    schema
    schemaDir := given.values.lookup Part.schemaDirOption
    maxDepth := (given.values.lookup Part.maxDepthOption).bind fun text =>
      (Text.natural text).toOption
    cyclePolicy := (given.values.lookup Part.circularOption).bind fun text =>
      CyclePolicy.ofName? (Text.word text)
    noCache := given.switches.contains Part.noCacheSwitch
    out := given.values.lookup Part.outOption
    compact := given.switches.contains Part.compactSwitch }

/-- The request for `cycles`. -/
def Given.cyclesRequest? (given : Given) : Option CyclesRequest := do
  return ⟨← given.operand, given.switches.contains Part.jsonSwitch⟩

/-- The words behind a command's name. The options of all commands given there win.
A value before the name that is not taken is a fault only of a command that would be
carried out. -/
def readCommand (general : Option Given) (name : String) (words : List String) :
    Option Invocation :=
  match name with
  | "resolve" => do
    match ← readPart .resolve .nothing words with
    | .done given =>
      let general ← general
      let config :=
        given.values.lookup Part.configOption <|> general.values.lookup
          Part.configOption
      return .resolve config (← given.resolveRequest?)
    | .help => return .help
    | _ => none
  | "cycles" => do
    match ← readPart .cycles .nothing words with
    | .done given =>
      let _ ← general
      return .cycles (← given.cyclesRequest?)
    | .help => return .help
    | _ => none
  | "help" =>
    match words with
    | [] | ["resolve"] | ["cycles"] | ["help"] => some .help
    | _ => none
  | _ => none

/-- What the words of a command line ask for; none if they are no command line of
the program. -/
def read? (words : List String) : Option Invocation := do
  match ← readPart .general .nothing words with
  | .command general name rest => readCommand general name rest
  | .version => return .version
  | .help => return .help
  | .done _ => none

end CommandLine

end SchemaDeref
