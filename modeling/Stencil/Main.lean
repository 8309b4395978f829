import Stencil.Cli.Run

/-! # The program

The outer layer of the command line: it hands the arguments and the files to
`Stencil.Cli` and prints what comes back.
-/

namespace Stencil

/-- The text of some bytes, if they are well-formed UTF-8. -/
def textOfBytes (bytes : ByteArray) : Option Text :=
  (String.fromUTF8? bytes).map String.toList

def readFile (path : Text) : IO (Option Text) := do
  try
    return textOfBytes (← IO.FS.readBinFile (String.ofList path))
  catch _ => return none

def readFiles : Cli.Request → IO (List (Text × Text))
  | .run command =>
    (command.template :: command.config.toList).filterMapM fun path => do
      return (← readFile path).map fun text => (path, text)
  | _ => return []

/-- The text of the standard input, if a request asks for it. -/
def readInput : Cli.Request → IO (Option Text)
  | .run command => do
    if command.template = ['-'] then
      return textOfBytes (← (← IO.getStdin).readBinToEnd)
    else return none
  | _ => return none

end Stencil

def main (args : List String) : IO UInt32 := do
  let request := Stencil.Cli.Request.ofArguments (args.map String.toList)
  let files ← Stencil.readFiles request
  let input ← Stencil.readInput request
  let color := (← IO.getEnv "NO_COLOR").isNone
  let outcome := request.outcome ⟨fun path => files.lookup path, input, color⟩
  IO.print (String.ofList outcome.output)
  match outcome.error with
  | some error =>
    IO.eprintln (String.ofList (error.code ++ [':', ' '] ++ error.message))
  | none => pure ()
  return outcome.exit
