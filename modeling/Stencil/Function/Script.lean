import Stencil.Function.Basic
import Stencil.Json.Printer

/-! # Scripted functions

A script is a list of small steps that emit text, change the function's own
variables, deal with cancellation, or end the call. The result of a call is what
its steps emitted. Scripts share a ledger, which lists the calls made and holds
a counter.
-/

namespace Stencil

/-- What scripted functions share. -/
structure Ledger where
  calls : List Text
  ticks : Nat

def Ledger.empty : Ledger := ⟨[], 0⟩

/-- One step of a script. -/
inductive Script.Step where
  | text (content : Text)
  | value (name : Text)
  | input
  | dump
  | size
  | has (name : Text)
  | setting (name : Text)
  | allowUnsafe
  | inlineVariables
  | description
  | default (name : Text)
  | tick
  | isCancelled
  | set (name value : Text)
  | setInput (value : Text)
  | erase (name : Text)
  | cancelRender
  | cancelCall
  | pause
  | awaitCancel
  | fail (message : Text)
  | failInput
  | failQuota (resource : Text)
  | failUpload (resource : Text)
  /-- Ends the call with all variables as JSON in place of what was emitted. -/
  | into

namespace Script

def dumped (vars : Variables) : Text :=
  Json.compact (.list (vars.toList.map fun pair =>
    .list [.string pair.1, .string pair.2]))

def truth (b : Bool) : Text := if b then "true".toList else "false".toList

def quotaMessage (resource : Text) : Text := "quota exceeded for ".toList ++ resource

/-- The course of the steps of a script, `emitted` being the text so far. -/
def run (config : Config) (vars : Variables) (emitted : Text) : List Step → Task Ledger
  | [] => .finish (.ok emitted)
  | step :: rest =>
    match step with
    | .text content => run config vars (emitted ++ content) rest
    | .value name => run config vars (emitted ++ (vars.get? name).getD []) rest
    | .input => run config vars (emitted ++ vars.input) rest
    | .dump => run config vars (emitted ++ dumped vars) rest
    | .size => run config vars (emitted ++ Text.decimal vars.size) rest
    | .has name => run config vars (emitted ++ truth (vars.contains name)) rest
    | .setting name =>
      run config vars (emitted ++ Json.compact ((config.settings.get? name).getD .null)) rest
    | .allowUnsafe => run config vars (emitted ++ truth config.allowUnsafe) rest
    | .inlineVariables => run config vars (emitted ++ truth config.inlineVariables) rest
    | .description => run config vars (emitted ++ config.description) rest
    | .default name =>
      run config vars
        (emitted ++ ((config.parameter? name).bind Parameter.default).getD ['-']) rest
    | .tick => .load fun ledger =>
        .store { ledger with ticks := ledger.ticks + 1 }
          (run config vars (emitted ++ Text.decimal (ledger.ticks + 1)) rest)
    | .isCancelled => .isCancelled fun b => run config vars (emitted ++ truth b) rest
    | .set name value => run config (vars.set name value) emitted rest
    | .setInput value => run config (vars.setInput value) emitted rest
    | .erase name => run config (vars.erase name) emitted rest
    | .cancelRender => .cancelRender (run config vars emitted rest)
    | .cancelCall => .cancelCall (run config vars emitted rest)
    | .pause => .pause (run config vars emitted rest)
    | .awaitCancel => .awaitCancel (run config vars emitted rest)
    | .fail message => .finish (.error ⟨message, none, none⟩)
    | .failInput =>
      .finish (.error ⟨"bad input: ".toList ++ vars.input, none, none⟩)
    | .failQuota resource =>
      .finish (.error ⟨quotaMessage resource, none, some resource⟩)
    | .failUpload resource =>
      .finish (.error ⟨"upload failed".toList, some (quotaMessage resource), none⟩)
    | .into => .finish (.ok (dumped vars))

end Script

/-- The function that runs a script, after entering its own name into the ledger. -/
def Function.scripted (name : Text) (description : Text) (script : List Script.Step) :
    Function Ledger where
  name := name
  description := description
  invoke context := .load fun ledger =>
    .store { ledger with calls := ledger.calls ++ [name] }
      (Script.run context.config context.vars [] script)

end Stencil
