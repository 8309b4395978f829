import Stencil.Block.Encoding
import Stencil.Config.Record
import Stencil.Json.Printer
import Stencil.Text.Quoted

/-! # Listings

Blocks and parameters listed for a reader, one a line, or as JSON for another
program. Colours mark the kind of a block, the function of a call, and the name
of a parameter.
-/

namespace Stencil.Cli

/-- A way to set off a stretch of text. -/
inductive Style where
  | cyan
  | dimmed
  | bold

/-- A code that changes how a terminal shows what follows. -/
def terminalCode (n : Nat) : Text := Char.ofNat 27 :: '[' :: Text.decimal n ++ ['m']

def styled (color : Bool) (style : Style) (text : Text) : Text :=
  if color then
    match style with
    | .cyan => terminalCode 36 ++ text ++ terminalCode 39
    | .dimmed => terminalCode 2 ++ text ++ terminalCode 0
    | .bold => terminalCode 1 ++ text ++ terminalCode 0
  else text

def blockSummary (color : Bool) : Block → Text
  | .text content => content.shown
  | .call content c =>
    ['{', '{'] ++ content ++ ['}', '}', ' '] ++ styled color .dimmed c.function.content
  | block => block.content

def blockLine (color : Bool) (block : Block) : Text :=
  styled color .cyan (block.kind.padded 10) ++ ' ' :: blockSummary color block ++ ['\n']

def blockListing (color : Bool) (blocks : List Block) : Text :=
  if blocks.isEmpty then "No blocks found.\n".toList
  else
    blocks.flatMap (blockLine color) ++
      '\n' :: Text.decimal blocks.length ++ " block(s)\n".toList

def parameterLine (color : Bool) (parameter : Parameter) : Text :=
  let description :=
    if parameter.description.isEmpty then [] else ' ' :: parameter.description
  let default :=
    match parameter.default with
    | some value => " (default: ".toList ++ value.shown ++ [')']
    | none => []
  [' ', ' '] ++ styled color .bold ('$' :: parameter.name) ++ description ++ default ++ ['\n']

def parameterListing (color : Bool) (parameters : List Parameter) : Text :=
  if parameters.isEmpty then "No parameters found.\n".toList
  else parameters.flatMap (parameterLine color)

def valueListing (values : List Value) : Text := Json.pretty 0 (.list values) ++ ['\n']

end Stencil.Cli
