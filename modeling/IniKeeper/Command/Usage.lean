import IniKeeper.Number.Digit
import IniKeeper.Number.Integer

/-!
# Usage of a command line

A command line is read against a description of what each command accepts. Options and arguments
may stand in any order; two hyphens alone make all that follows arguments. An option holds its value
until something else begins, and only then is the value checked, so the first mistake on the line is
not always the one that is reported: an unknown option is reported before a wrong value right in
front of it, and a mistake after a subcommand before one in front of it.
-/

namespace IniKeeper

namespace Usage

/-- Why a command line is not carried out. -/
inductive Stop where
  /-- Help was asked for. -/
  | help
  /-- The version was asked for. -/
  | version
  /-- Nothing was given where a subcommand is needed. -/
  | nothingGiven
  /-- No subcommand was given. -/
  | missingSubcommand
  /-- There is no such subcommand. -/
  | unknownSubcommand
  /-- There is no such option, or one argument too many. -/
  | unknownArgument
  /-- An argument is missing. -/
  | missingArgument
  /-- An option was given twice. -/
  | repeatedOption
  /-- An option has no value, or an empty one that must not be empty. -/
  | missingValue
  /-- A value is not of the wanted kind. -/
  | wrongValue
  /-- A value was given to an option without values. -/
  | needlessValue
  deriving Repr, DecidableEq

/-- The name of the kind of a stop. -/
def Stop.name : Stop → Text
  | help => "DisplayHelp".toList
  | version => "DisplayVersion".toList
  | nothingGiven => "DisplayHelpOnMissingArgumentOrSubcommand".toList
  | missingSubcommand => "MissingSubcommand".toList
  | unknownSubcommand => "InvalidSubcommand".toList
  | unknownArgument => "UnknownArgument".toList
  | missingArgument => "MissingRequiredArgument".toList
  | repeatedOption => "ArgumentConflict".toList
  | missingValue => "InvalidValue".toList
  | wrongValue => "ValueValidation".toList
  | needlessValue => "TooManyValues".toList

/-- The wording of a stop. -/
def Stop.message : Stop → Text
  | help => "help was asked for".toList
  | version => "the version was asked for".toList
  | nothingGiven => "nothing was asked for; try --help".toList
  | missingSubcommand => "a command is missing".toList
  | unknownSubcommand => "there is no such command".toList
  | unknownArgument => "there is no such option, or an argument too many".toList
  | missingArgument => "an argument is missing".toList
  | repeatedOption => "an option was given twice".toList
  | missingValue => "an option needs a value".toList
  | wrongValue => "a value is not of the wanted kind".toList
  | needlessValue => "an option takes no value".toList

/-- What a value has to be. -/
inductive Shape where
  /-- Any text. -/
  | text
  /-- A path, which is not empty. -/
  | path
  /-- A whole number that fits into 64 bits. -/
  | count
  deriving Repr, DecidableEq

/-- What an option does. -/
inductive Effect where
  /-- It takes a value. -/
  | value (shape : Shape)
  /-- It is there or not. -/
  | flag
  /-- It asks for help. -/
  | help
  /-- It asks for the version. -/
  | version
  deriving Repr, DecidableEq

/-- An option: its long name, its letter if it has one, and what it does. -/
structure Switch where
  /-- The name after two hyphens. -/
  name : Text
  /-- The letter after one hyphen. -/
  letter : Option Char
  /-- What it does. -/
  effect : Effect
  deriving Repr, DecidableEq

/-- An argument that is told by its position. -/
structure Argument where
  /-- What it is called. -/
  name : Text
  /-- Whether it must be given. -/
  required : Bool
  deriving Repr, DecidableEq

/-- What a command accepts. -/
inductive Spec where
  /-- The names of the command, the first of which is its own; its options, arguments and
  subcommands. -/
  | mk (names : List Text) (switches : List Switch) (arguments : List Argument)
      (subcommands : List Spec)

namespace Spec

/-- The names of a command. -/
def names : Spec → List Text
  | mk names _ _ _ => names

/-- The options of a command. -/
def switches : Spec → List Switch
  | mk _ switches _ _ => switches

/-- The arguments of a command. -/
def arguments : Spec → List Argument
  | mk _ _ arguments _ => arguments

/-- The subcommands of a command. -/
def subcommands : Spec → List Spec
  | mk _ _ _ subcommands => subcommands

/-- The subcommand of a name. -/
def subcommand? (spec : Spec) (name : Text) : Option Spec :=
  spec.subcommands.find? fun sub => sub.names.contains name

end Spec

/-- The name that asks for help where there are subcommands. -/
def helpWord : Text := "help".toList

/-- What was given to one command. -/
structure Given where
  /-- The name of the command. -/
  command : Text
  /-- The options and arguments with their values; options without values have an empty one. -/
  values : List (Text × Text)
  deriving Repr, DecidableEq

/-- An option or argument whose value was not checked yet. -/
structure Held where
  /-- What it is called. -/
  name : Text
  /-- What its value has to be. -/
  shape : Shape
  /-- The value, once it was given. -/
  value : Option Text
  deriving Repr, DecidableEq

/-- How far one command was read. -/
structure Progress where
  /-- What was given and checked. -/
  values : List (Text × Text)
  /-- What was given and not checked yet. -/
  held : Option Held
  /-- How many arguments were given. -/
  position : Nat
  /-- Whether all that follows is arguments. -/
  onlyArguments : Bool
  deriving Repr, DecidableEq

/-- A command of which nothing was read. -/
def Progress.start : Progress := ⟨[], none, 0, false⟩

namespace Progress

/-- Whether an option waits for its value. -/
def isAwaiting (progress : Progress) : Bool := progress.held.any fun held => held.value.isNone

/-- Whether a value is of a shape; if not, what that stops with. -/
def checkShape (shape : Shape) (value : Text) : Except Stop Unit :=
  match shape with
  | .text => .ok ()
  | .path => if value.isEmpty then .error .missingValue else .ok ()
  | .count =>
    match Integer.readNatural? value with
    | some n => if n < Nat.pow 2 64 then .ok () else .error .wrongValue
    | none => .error .wrongValue

/-- Take a value that was checked for being the first of its name. -/
def store (progress : Progress) (name : Text) (shape : Shape) (value : Text) :
    Except Stop Progress :=
  if (List.lookup name progress.values).isSome then .error .repeatedOption
  else do
    checkShape shape value
    .ok { progress with values := progress.values ++ [(name, value)], held := none }

/-- Check what is held and take it. -/
def settle (progress : Progress) : Except Stop Progress :=
  match progress.held with
  | none => .ok progress
  | some ⟨_, _, none⟩ => .error .missingValue
  | some ⟨name, shape, some value⟩ => progress.store name shape value

/-- Hold an option or argument, after taking what was held before. -/
def hold (progress : Progress) (name : Text) (shape : Shape) (value : Option Text) :
    Except Stop Progress := do
  let settled ← progress.settle
  .ok { settled with held := some ⟨name, shape, value⟩ }

/-- Take an option without a value. -/
def raise (progress : Progress) (switch : Switch) : Except Stop Progress := do
  let settled ← progress.settle
  match switch.effect with
  | .help => .error .help
  | .version => .error .version
  | _ => settled.store switch.name .text []

/-- Take an option with the value that stands in the same word, if one does. -/
def take (progress : Progress) (switch : Switch) (shape : Shape) (attached : Option Text) :
    Except Stop Progress := do
  match attached with
  | none => progress.hold switch.name shape none
  | some value => (← progress.settle).store switch.name shape value

/-- Take an option by its long name. -/
def takeLong (progress : Progress) (spec : Spec) (word : Text) : Except Stop Progress :=
  let name := word.takeWhile (· != '=')
  let attached := (word.dropWhile (· != '=')).tail?
  match spec.switches.find? fun switch => switch.name == name with
  | none => .error .unknownArgument
  | some switch =>
    match switch.effect, attached with
    | .value shape, attached => progress.take switch shape attached
    | _, some _ => .error .needlessValue
    | _, none => progress.raise switch

/-- The value that follows a letter in the same word, with or without an equals sign. -/
def attachedValue : Text → Option Text
  | [] => none
  | '=' :: value => some value
  | value => some value

/-- Take options by their letters, the last of which may have its value in the same word. -/
def takeLetters (progress : Progress) (spec : Spec) : Text → Except Stop Progress
  | [] => .ok progress
  | letter :: rest =>
    match spec.switches.find? fun switch => switch.letter == some letter with
    | none => .error .unknownArgument
    | some switch =>
      match switch.effect with
      | .value shape => progress.take switch shape (attachedValue rest)
      | _ => do takeLetters (← progress.raise switch) spec rest

/-- Take an argument by its position. -/
def takeArgument (progress : Progress) (spec : Spec) (word : Text) : Except Stop Progress :=
  match spec.arguments[progress.position]? with
  | some argument => do
    let held ← progress.hold argument.name .text (some word)
    .ok { held with position := held.position + 1 }
  | none =>
    let isName := word == helpWord || (spec.subcommand? word).isSome
    if spec.subcommands.isEmpty || (progress.onlyArguments && isName) then
      .error .unknownArgument
    else .error .unknownSubcommand

/-- Take one word of a command line that is no subcommand. -/
def takeWord (progress : Progress) (spec : Spec) (word : Text) : Except Stop Progress :=
  if progress.onlyArguments then progress.takeArgument spec word
  else
    match word with
    | ['-', '-'] => .ok { progress with onlyArguments := true }
    | '-' :: '-' :: long => progress.takeLong spec long
    | '-' :: c :: letters => progress.takeLetters spec (c :: letters)
    | _ =>
      match progress.held with
      | some ⟨name, shape, none⟩ => .ok { progress with held := some ⟨name, shape, some word⟩ }
      | _ => progress.takeArgument spec word

/-- What was given to a command that no subcommand follows, if that is enough. -/
def finish (progress : Progress) (spec : Spec) : Except Stop Given := do
  let settled ← progress.settle
  let isGiven (argument : Argument) : Bool := (List.lookup argument.name settled.values).isSome
  if !spec.subcommands.isEmpty then
    if settled.values.isEmpty then .error .nothingGiven else .error .missingSubcommand
  else if spec.arguments.all fun argument => !argument.required || isGiven argument then
    .ok ⟨spec.names.headD [], settled.values⟩
  else .error .missingArgument

end Progress

/-- What asking for help about a subcommand of a subcommand stops with. -/
def helpOn (spec : Spec) : List Text → Stop
  | [] => .help
  | name :: rest =>
    match spec.subcommand? name with
    | some sub => helpOn sub rest
    | none => if name == helpWord && !spec.subcommands.isEmpty && rest.isEmpty then .help
              else .unknownSubcommand

/-- What was given to a command and to the subcommands after it, outermost first. -/
def scan (spec : Spec) (progress : Progress) : List Text → Except Stop (List Given)
  | [] => (progress.finish spec).map ([·])
  | word :: rest =>
    let mayBeName := !progress.onlyArguments && !progress.isAwaiting
    match if mayBeName then spec.subcommand? word else none with
    | some sub => do
      let inner ← scan sub .start rest
      let settled ← progress.settle
      .ok (⟨spec.names.headD [], settled.values⟩ :: inner)
    | none =>
      if mayBeName && word == helpWord && !spec.subcommands.isEmpty then
        .error (helpOn spec rest)
      else do scan spec (← progress.takeWord spec word) rest

end Usage

end IniKeeper
