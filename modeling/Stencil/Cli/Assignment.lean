import Stencil.Variables

/-! # Variables on the command line

A variable is given as its name, an equals sign and its value; the value may
hold further equals signs.
-/

namespace Stencil.Cli

/-- Why an argument sets no variable. -/
inductive AssignmentError where
  | noSign (argument : Text)
  | invalidName (name : Text)
deriving DecidableEq

/-- The sentence that reports why an argument sets no variable. -/
def AssignmentError.message : AssignmentError → Text
  | noSign argument => "expected `name=value`, got `".toList ++ argument ++ "`".toList
  | invalidName name =>
    "invalid variable name `".toList ++ name ++
      "`: only alphanumeric chars and underscore are allowed".toList

def readAssignment (argument : Text) : Except AssignmentError (Text × Text) :=
  match argument.dropWhile (· != '=') with
  | [] => .error (.noSign argument)
  | _ :: value =>
    let name := argument.takeWhile (· != '=')
    if isName name then .ok (name, value) else .error (.invalidName name)

/-- The variables of a command line: those that are named, in order, and then the main input, which
replaces a variable of its name. -/
def gather (assignments : List (Text × Text)) (input : Option Text) : Variables :=
  let named := Variables.ofList assignments
  match input with
  | some value => named.setInput value
  | none => named

end Stencil.Cli
