import Stencil.Cli.Assignment

/-! # The command line

A command line names one of three commands and the template it works on. The
switches for detail and colour may stand before or after the command's name; all
other options belong to the command. A value follows its option after an equals
sign or as the next argument, which may then not look like an option. Every
option but the one that sets variables is given at most once. Arguments are read
from left to right: the first that asks for help or for the version, or that is
in error, decides.
-/

namespace Stencil.Cli

/-- The forms in which blocks and parameters are listed. -/
inductive ListingFormat where
  | text
  | json
deriving DecidableEq

/-- What is to be done with a template. -/
inductive Action where
  | render
  | blocks
  | params
deriving DecidableEq

/-- What the options of a command say. -/
structure Options where
  template : Option Text := none
  assignments : List (Text × Text) := []
  input : Option Text := none
  format : Option ListingFormat := none
  config : Option Text := none
  verbose : Bool := false
  plain : Bool := false

/-- A command. -/
structure Command where
  action : Action
  /-- Where the template is read from; a hyphen means the standard input. -/
  template : Text
  assignments : List (Text × Text)
  input : Option Text
  format : ListingFormat
  config : Option Text
  plain : Bool

/-- What a command line asks for. -/
inductive Request where
  | run (command : Command)
  | version
  | help
  | misuse

def cutOption (argument : Text) : Text × Option Text :=
  (argument.takeWhile (· != '='), (argument.dropWhile (· != '=')).tail?)

/-- Whether an argument can be the value of the option before it. -/
def isValue : Text → Bool
  | ['-'] => true
  | '-' :: _ => false
  | _ => true

def action? (name : Text) : Option Action :=
  if name = "render".toList then some .render
  else if name = "blocks".toList then some .blocks
  else if name = "params".toList then some .params
  else none

/-! ## Switches -/

/-- What a switch does. -/
inductive Switch where
  | set (options : Options)
  | version
  | help
  | unknown

/-- The switch of one letter; the version is asked for before the command's name only. -/
def shortSwitch (beforeName : Bool) (c : Char) (options : Options) : Switch :=
  if c = 'v' then
    if options.verbose then .unknown else .set { options with verbose := true }
  else if c = 'h' then .help
  else if c = 'V' ∧ beforeName then .version
  else .unknown

/-- The switches of an argument of several letters, up to the first that is no setting. -/
def shortSwitches (beforeName : Bool) : Text → Options → Switch
  | [], options => .set options
  | c :: rest, options =>
    match shortSwitch beforeName c options with
    | .set options => shortSwitches beforeName rest options
    | other => other

def longSwitch (beforeName : Bool) (name : Text) (options : Options) : Switch :=
  if name = "verbose".toList then
    if options.verbose then .unknown else .set { options with verbose := true }
  else if name = "no-color".toList then
    if options.plain then .unknown else .set { options with plain := true }
  else if name = "help".toList then .help
  else if name = "version".toList ∧ beforeName then .version
  else .unknown

/-- What an argument that starts with a hyphen does as one or more switches. -/
def switches (beforeName : Bool) (argument : Text) (options : Options) : Switch :=
  match argument with
  | '-' :: '-' :: name => longSwitch beforeName name options
  | '-' :: letters => shortSwitches beforeName letters options
  | _ => .unknown

/-! ## Options with a value -/

/-- Whether a command has an option of this name that takes a value. -/
def takesValue (action : Action) (name : Text) : Bool :=
  name == "config".toList ||
    (action == .render && (name == "var".toList || name == "input".toList)) ||
    (action != .render && name == "format".toList)

def format? (name : Text) : Option ListingFormat :=
  if name = "text".toList then some .text
  else if name = "json".toList then some .json
  else none

/-- The options with the value of one more, unless it is set already or the value is wrong. -/
def setOption (name value : Text) (options : Options) : Option Options :=
  if name = "config".toList then
    if options.config.isSome || value.isEmpty then none
    else some { options with config := some value }
  else if name = "var".toList then
    match readAssignment value with
    | .ok assignment => some { options with assignments := options.assignments ++ [assignment] }
    | .error _ => none
  else if name = "input".toList then
    if options.input.isSome then none else some { options with input := some value }
  else if name = "format".toList then
    if options.format.isSome then none
    else (format? value).map fun format => { options with format := some format }
  else none

/-- The options with the template named, unless one is named already. -/
def setTemplate (template : Text) (options : Options) : Option Options :=
  if options.template.isSome then none else some { options with template := some template }

/-! ## Whole command lines -/

/-- The request of a command whose arguments have all been read. -/
def finish (action : Action) (plain : Bool) (options : Options) : Request :=
  match options.template with
  | none => .misuse
  | some template =>
    .run {
      action, template
      assignments := options.assignments
      input := options.input
      format := options.format.getD .text
      config := options.config
      plain := plain || options.plain }

def operands (action : Action) (plain : Bool) : List Text → Options → Request
  | [], options => finish action plain options
  | argument :: rest, options =>
    match setTemplate argument options with
    | some options => operands action plain rest options
    | none => .misuse

/-- Reads the arguments after a command's name, `plain` saying whether colours have been turned off
before it. -/
def arguments (action : Action) (plain : Bool) : List Text → Options → Request
  | [], options => finish action plain options
  | ['-', '-'] :: rest, options => operands action plain rest options
  | argument :: rest, options =>
    if isValue argument then
      match setTemplate argument options with
      | some options => arguments action plain rest options
      | none => .misuse
    else
      match cutOption (argument.drop 2) with
      | (name, value) =>
        if argument.take 2 = ['-', '-'] ∧ takesValue action name = true then
          match value, rest with
          | some value, rest =>
            match setOption name value options with
            | some options => arguments action plain rest options
            | none => .misuse
          | none, value :: rest =>
            if isValue value then
              match setOption name value options with
              | some options => arguments action plain rest options
              | none => .misuse
            else .misuse
          | none, [] => .misuse
        else
          match switches false argument options with
          | .set options => arguments action plain rest options
          | .help => .help
          | _ => .misuse

/-- What asking for help with the arguments after it comes to: they may name one command. -/
def helpRequest : List Text → Request
  | [] => .help
  | [name] => if (action? name).isSome || name == "help".toList then .help else .misuse
  | _ => .misuse

/-- Reads the arguments up to the command's name, with the switches among them. -/
def commandLine : List Text → Options → Request
  | [], _ => .misuse
  | argument :: rest, options =>
    if isValue argument then
      match action? argument with
      | some action => arguments action options.plain rest {}
      | none => if argument = "help".toList then helpRequest rest else .misuse
    else
      match switches true argument options with
      | .set options => commandLine rest options
      | .version => .version
      | .help => .help
      | .unknown => .misuse

def Request.ofArguments (arguments : List Text) : Request := commandLine arguments {}

end Stencil.Cli
