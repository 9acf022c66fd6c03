/-
This file reads the arguments of the command line. The options of a command come after its name, in
any order, the value of an option in the next argument or after an equals sign. Two dashes end the
options, and no command takes anything after them. The option for verbose output may also come
before the name.
-/
import Questionnaire.Wizard.Display

namespace Questionnaire.CommandLine

/-- What a command line asks for, with the paths of the files it reads. -/
inductive Command where
  | wizard (form : String) (values : Option String) (settings : Wizard.Settings)
  | validate (form : String)
  | controls (form : String)
  | formFormat
  deriving DecidableEq, Repr

/-! ### Options -/

/-- The options found so far: the flags, and the values under their names. -/
structure Options where
  flags : List String
  values : List (String × String)

namespace Options

/-- No options. -/
def none : Options := ⟨[], []⟩

/-- Adds a flag, unless it was given before. -/
def addFlag (options : Options) (name : String) : Option Options :=
  if options.flags.contains name then .none
  else some { options with flags := name :: options.flags }

/-- Adds a value, unless it is empty or one was given before. -/
def addValue (options : Options) (name value : String) : Option Options :=
  if value.isEmpty || options.values.any (·.1 == name) then .none
  else some { options with values := (name, value) :: options.values }

/-- The value of an option. -/
def value? (options : Options) (name : String) : Option String :=
  (options.values.find? (·.1 == name)).map (·.2)

end Options

/-- The flag for verbose output. -/
def verboseFlag : String := "--verbose"

/-- The argument that ends the options. -/
def optionsEnd : String := "--"

/-- The flag that an argument stands for. One flag has a second name. -/
def flagName (argument : String) : String :=
  if argument == "--debug" then verboseFlag else argument

/-- What stands before the first equals sign of an argument and what after it. -/
def splitValue (argument : String) : Option (String × String) :=
  let characters := argument.toList
  let name := characters.takeWhile (· != '=')
  if name.length < characters.length then
    some (String.ofList name, String.ofList (characters.drop (name.length + 1)))
  else .none

/-- Whether an argument looks like an option rather than a value. -/
def looksLikeOption (argument : String) : Bool :=
  argument != "-" && ['-'].isPrefixOf argument.toList

/-- Reads the options of a command that knows the given flags and options with values. -/
def readOptions (flags valued : List String) : List String → Options → Option Options
  | [], options => some options
  | argument :: rest, options =>
    if argument == optionsEnd then if rest.isEmpty then some options else .none
    else if flags.contains (flagName argument) then
      (options.addFlag (flagName argument)).bind (readOptions flags valued rest)
    else if valued.contains argument then
      match rest with
      | value :: rest =>
        if looksLikeOption value then .none
        else (options.addValue argument value).bind (readOptions flags valued rest)
      | [] => .none
    else
      match splitValue argument with
      | some (name, value) =>
        if valued.contains name then
          (options.addValue name value).bind (readOptions flags valued rest)
        else .none
      | .none => .none

/-! ### Commands -/

/-- The format of a word. -/
def formatOf : String → Option Wizard.Format
  | "text" => some .text
  | "json" => some .json
  | _ => none

/-- The format that options ask for, texts where they do not say. -/
def formatIn (options : Options) : Option Wizard.Format :=
  match options.value? "--format" with
  | some word => formatOf word
  | none => some .text

/-- Reads the wizard's options. -/
def readWizard (verbose : Bool) (arguments : List String) : Option Command := do
  let options ← readOptions [verboseFlag, "--values-json"] ["--schema", "--values", "--format"]
    arguments Options.none
  let form ← options.value? "--schema"
  let format ← formatIn options
  return .wizard form (options.value? "--values")
    { verbose := verbose || options.flags.contains verboseFlag
      valuesJson := options.flags.contains "--values-json"
      format }

/-- Reads the options of a command that reads a form and nothing else. -/
def readPath (arguments : List String) : Option String := do
  let options ← readOptions [verboseFlag] ["--schema"] arguments Options.none
  options.value? "--schema"

/-- Reads a command after its options for all commands. -/
def readCommand (verbose : Bool) : List String → Option Command
  | "wizard" :: rest => readWizard verbose rest
  | "validate" :: rest => (readPath rest).map .validate
  | "controls" :: rest => (readPath rest).map .controls
  | "json-schema" :: rest =>
    (readOptions [verboseFlag] [] rest Options.none).map fun _ => .formFormat
  | _ => none

/-- Reads the arguments of the command line. -/
def Command.ofArguments : List String → Option Command
  | [] => none
  | first :: rest =>
    if flagName first = verboseFlag then readCommand true rest
    else readCommand false (first :: rest)

end Questionnaire.CommandLine
