import Stencil.Cli.Arguments
import Stencil.Cli.Listing
import Stencil.Config.Source
import Stencil.Function.TextPlugin
import Stencil.Report

/-! # Running a command

A command reads its template, then its configuration, and either writes its whole
output or writes nothing and fails. Templates are rendered with the text plugin.
-/

namespace Stencil.Cli

/-- What a command finds around it. -/
structure Environment where
  /-- The text of a file, if it can be read and is well-formed UTF-8. -/
  file : Text → Option Text
  /-- The text of the standard input, if it is well-formed UTF-8. -/
  input : Option Text
  color : Bool

/-- Why a command failed. -/
inductive CommandError where
  | unreadable
  | config (error : ConfigError)
  | template (error : Template.Error)

namespace CommandError

def code : CommandError → Text
  | unreadable => "blockprompt::io_error".toList
  | config .unreadable => "blockprompt::io_error".toList
  | config _ => "blockprompt::config_parse".toList
  | template error => error.code

def message : CommandError → Text
  | unreadable => "the file could not be read".toList
  | config .unreadable => "the file could not be read".toList
  | config error => error.message?.getD "failed to parse config file".toList
  | template error => error.message

end CommandError

/-- How a run of the program ends: its exit code, its output, and its error. -/
structure Outcome where
  exit : UInt32
  output : Text
  error : Option CommandError

def readTemplate (environment : Environment) (source : Text) : Except CommandError Text :=
  match if source = ['-'] then environment.input else environment.file source with
  | some text => .ok text
  | none => .error .unreadable

def readConfig (environment : Environment) (path : Option Text) : Except CommandError Config :=
  match path with
  | none => .ok .standard
  | some path => (Config.ofFile path (environment.file path)).mapError .config

def loadTemplate (environment : Environment) (command : Command) :
    Except CommandError Template := do
  let source ← readTemplate environment command.template
  let config ← readConfig environment command.config
  return ⟨source, config⟩

def plugins : Registry Unit := Registry.empty.add (.text Unit)

def renderOutput (template : Template) (vars : Variables) : Except CommandError Text := do
  let (result, _) := template.render plugins.lookup vars ⟨(), false, []⟩
  return (← result.mapError .template) ++ ['\n']

def Command.output (environment : Environment) (command : Command) : Except CommandError Text := do
  let template ← loadTemplate environment command
  let color := environment.color && !command.plain
  match command.action with
  | .render => renderOutput template (gather command.assignments command.input)
  | .blocks =>
    let blocks ← template.blocks.mapError fun error => .template (.refused error)
    return match command.format with
      | .text => blockListing color blocks
      | .json => valueListing (blocks.map Block.toValue)
  | .params =>
    let parameters ← template.parameters.mapError fun error => .template (.refused error)
    return match command.format with
      | .text => parameterListing color parameters
      | .json => valueListing (parameters.map Parameter.toValue)

def Command.run (environment : Environment) (command : Command) : Outcome :=
  match command.output environment with
  | .ok output => ⟨0, output, none⟩
  | .error error => ⟨2, [], some error⟩

def Request.outcome (environment : Environment) : Request → Outcome
  | run command => command.run environment
  | version => ⟨0, "blockprompt_cli 0.1.0\n".toList, none⟩
  | help => ⟨0, "Usage: blockprompt [OPTIONS] [COMMAND]\n".toList, none⟩
  | misuse => ⟨1, [], none⟩

end Stencil.Cli
