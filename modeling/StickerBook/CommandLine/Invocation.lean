import StickerBook.Text.Numeral
import StickerBook.Word

/-!
# Command lines

A command line names a command, with options before and after its name, and gives the command its
text. Arguments that start with a dash are options until `--` ends them; a lone dash is a text. What
is given for an option is checked when the next option or text is read, so an option that does not
exist is complained about first.
-/

namespace StickerBook.CommandLine
set_option autoImplicit false

/-- The options. -/
inductive Opt where
  | config
  | library
  | verbose
  | page
  | count
  | help
  | version
deriving DecidableEq, Repr

namespace Opt

/-- The long name. -/
def long : Opt → String
  | config => "config"
  | library => "library"
  | verbose => "verbose"
  | page => "page"
  | count => "count"
  | help => "help"
  | version => "version"

/-- The letter, for options that have one. -/
def letter? : Opt → Option Char
  | verbose => some 'v'
  | page => some 'p'
  | help => some 'h'
  | version => some 'V'
  | _ => none

/-- The option is given with a value. -/
def takesValue : Opt → Bool
  | config => true
  | library => true
  | page => true
  | _ => false

end Opt

/-- How to use the program. -/
def usage : String :=
  "Usage: stickerbook [--config PATH] [--library PATH] [-v] COMMAND\n\n"
    ++ "  search [TEXT] [-p PAGE]         print one page of a search\n"
    ++ "  suggest TEXT                    print the choices for a package\n"
    ++ "  sql TEXT [-p PAGE] [--count]    print the statement of a search\n"
    ++ "  help [COMMAND]                  print this help"

/-- Why a command line is not carried out. The first three cases ask for information instead. -/
inductive UsageError where
  | helpWanted
  | versionWanted
  | nothingGiven
  | missingCommand
  | unknownCommand (name : String)
  | unknownArgument (argument : String)
  | missingText
  | missingValue (option : Opt)
  | invalidValue (option : Opt) (value : String)
  | needlessValue (option : Opt)
  | repeatedOption (option : Opt)
deriving DecidableEq, Repr

/-- The wording of a usage error. -/
def UsageError.message : UsageError → String
  | .helpWanted => usage
  | .versionWanted => "stickerbook 0.1.0"
  | .nothingGiven => usage
  | .missingCommand => "a command is missing"
  | .unknownCommand name => "unrecognized command '" ++ name ++ "'"
  | .unknownArgument argument => "unexpected argument '" ++ argument ++ "'"
  | .missingText => "the text of the command is missing"
  | .missingValue option => "a value is required for '--" ++ option.long ++ "'"
  | .invalidValue option value =>
    "invalid value '" ++ value ++ "' for '--" ++ option.long ++ "'"
  | .needlessValue option => "no value is taken by '--" ++ option.long ++ "'"
  | .repeatedOption option => "'--" ++ option.long ++ "' cannot be used more than once"

/-- What a command is asked to do. -/
inductive Command where
  | search (query : String) (page : Nat)
  | suggest (text : String)
  | sql (query : String) (page : Nat) (count : Bool)
deriving DecidableEq, Repr

/-- A complete command line. -/
structure Invocation where
  config : Option String := none
  library : Option String := none
  verbose : Bool := false
  command : Command
deriving DecidableEq, Repr

/-- The arguments read so far: the options with their values, the option that was read last if its
value is still to come or to be checked, and the text. -/
structure Arguments where
  given : List (Opt × String) := []
  pending : Option (Opt × Option String) := none
  text : Option String := none
  optionsEnded : Bool := false
deriving DecidableEq, Repr

namespace Arguments

/-- The last option still lacks its value. -/
def awaitsValue (a : Arguments) : Bool := a.pending.any (·.2.isNone)

/-- The value that was given for an option. -/
def value? (a : Arguments) (o : Opt) : Option String := (a.given.find? (·.1 = o)).map Prod.snd

/-- Checks and stores the value of an option; no option is given twice. -/
def store (a : Arguments) (o : Opt) (value : String) : Except UsageError Arguments :=
  if (a.value? o).isSome then .error (.repeatedOption o)
  else match o with
    | .page =>
      if (Text.natNumeral? maxWord value.toList).isSome then .ok { a with given := a.given ++ [(o, value)] }
      else .error (.invalidValue o value)
    | _ =>
      if o.takesValue && value.isEmpty then .error (.missingValue o)
      else .ok { a with given := a.given ++ [(o, value)] }

/-- Settles the option that was read last. -/
def settle (a : Arguments) : Except UsageError Arguments :=
  match a.pending with
  | none => .ok a
  | some (o, none) => .error (.missingValue o)
  | some (o, some value) => store { a with pending := none } o value

/-- Takes an option that has its value attached, or none. -/
def addOption (a : Arguments) (o : Opt) (attached : Option String) : Except UsageError Arguments :=
  if o.takesValue then
    a.settle.bind fun a =>
      match attached with
      | some value => a.store o value
      | none => .ok { a with pending := some (o, none) }
  else if attached.isSome then .error (.needlessValue o)
  else
    a.settle.bind fun a =>
      match o with
      | .help => .error .helpWanted
      | .version => .error .versionWanted
      | _ => a.store o ""

/-- Takes an option by its long name, with the value after an equals sign. -/
def addLong (known : List Opt) (argument : String) (name : List Char) (a : Arguments) :
    Except UsageError Arguments :=
  let word := name.takeWhile (· ≠ '=')
  let attached := match name.dropWhile (· ≠ '=') with
    | [] => none
    | _ :: value => some (String.ofList value)
  match known.find? (·.long = String.ofList word) with
  | none => .error (.unknownArgument argument)
  | some o => a.addOption o attached

/-- Takes options by their letters. What follows the letter of an option with a value is that value. -/
def addLetters (known : List Opt) (argument : String) : List Char → Arguments → Except UsageError Arguments
  | [], a => .ok a
  | c :: rest, a =>
    match known.find? (·.letter? = some c) with
    | none => .error (.unknownArgument argument)
    | some o =>
      if o.takesValue then
        a.addOption o <| match rest with
          | [] => none
          | '=' :: value => some (String.ofList value)
          | value => some (String.ofList value)
      else (a.addOption o none).bind (addLetters known argument rest)

/-- Takes an argument that is no option: the value that an option awaits, or else a text. -/
def addPlain (onText : String → Arguments → Except UsageError Arguments) (argument : String)
    (a : Arguments) : Except UsageError Arguments :=
  match a.pending with
  | some (o, none) =>
    if a.optionsEnded then onText argument a else .ok { a with pending := some (o, some argument) }
  | _ => onText argument a

/-- Takes one argument, of which `onText` takes the texts. -/
def add (known : List Opt) (onText : String → Arguments → Except UsageError Arguments)
    (a : Arguments) (argument : String) : Except UsageError Arguments :=
  if a.optionsEnded then a.addPlain onText argument
  else match argument.toList with
    | ['-', '-'] => .ok { a with optionsEnded := true }
    | '-' :: '-' :: name => a.addLong known argument name
    | '-' :: c :: letters => a.addLetters known argument (c :: letters)
    | _ => a.addPlain onText argument

/-- Takes the text of a command, which has one at most. -/
def addText (text : String) (a : Arguments) : Except UsageError Arguments :=
  if a.text.isSome then .error (.unknownArgument text)
  else a.settle.map fun a => { a with text := some text }

end Arguments

/-- The commands. -/
inductive Verb where
  | search
  | suggest
  | sql
deriving DecidableEq, Repr

namespace Verb

/-- The name of a command. -/
def name : Verb → String
  | search => "search"
  | suggest => "suggest"
  | sql => "sql"

/-- The command of a name. -/
def ofString? (name : String) : Option Verb := [search, suggest, sql].find? (·.name = name)

/-- The options that are known after the name of any command. -/
def shared : List Opt := [.config, .library, .verbose, .help]

/-- The options that are known after the name of a command. -/
def known : Verb → List Opt
  | search => .page :: shared
  | suggest => shared
  | sql => .page :: .count :: shared

/-- The command with its arguments. Only a search can do without a text. -/
def command (v : Verb) (a : Arguments) : Except UsageError Command :=
  let page := ((a.value? .page).bind fun value => Text.natNumeral? maxWord value.toList).getD 0
  match v, a.text with
  | search, text => .ok (.search (text.getD "") page)
  | suggest, some text => .ok (.suggest text)
  | sql, some text => .ok (.sql text page (a.value? .count).isSome)
  | _, none => .error .missingText

end Verb

namespace Invocation

/-- The word that asks for help. -/
def helpWord : String := "help"

/-- Refuses a text where a command is named. -/
def refuseText (text : String) (a : Arguments) : Except UsageError Arguments :=
  if a.optionsEnded && (text = helpWord || (Verb.ofString? text).isSome) then
    .error (.unknownArgument text)
  else .error (.unknownCommand text)

/-- What comes of asking for help on the named command. -/
def help : List String → UsageError
  | [] => .helpWanted
  | name :: rest =>
    if name = helpWord || (Verb.ofString? name).isSome then
      match rest with
      | [] => .helpWanted
      | other :: _ => .unknownCommand other
    else .unknownCommand name

/-- Reads the arguments after the name of a command. Those before the name are settled last. -/
def ofVerb (before : Arguments) (v : Verb) (args : List String) : Except UsageError Invocation := do
  let a ← args.foldlM (Arguments.add v.known Arguments.addText) {}
  let a ← a.settle
  let command ← v.command a
  let before ← before.settle
  return {
    config := a.value? .config <|> before.value? .config
    library := a.value? .library <|> before.value? .library
    verbose := (a.value? .verbose).isSome || (before.value? .verbose).isSome
    command }

/-- Reads the arguments from where the name of the command is still to come. -/
def ofArguments (a : Arguments) : List String → Except UsageError Invocation
  | [] => do
    let a ← a.settle
    .error (if a.given.isEmpty then .nothingGiven else .missingCommand)
  | arg :: rest =>
    let verb? := if a.optionsEnded || a.awaitsValue then none else Verb.ofString? arg
    match verb? with
    | some v => ofVerb a v rest
    | none =>
      if arg = helpWord && !a.optionsEnded && !a.awaitsValue then .error (help rest)
      else do
        let a ← a.add (.version :: Verb.shared) refuseText arg
        ofArguments a rest

/-- Reads a command line. -/
def parse (args : List String) : Except UsageError Invocation := ofArguments {} args

end Invocation

end StickerBook.CommandLine
