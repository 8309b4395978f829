import Stencil.Block.Basic
import Stencil.Expression.Reader
import Stencil.Template.Region
import Stencil.Text.Blank

/-! # Reading a template

The regions of a template become blocks from left to right. Text outside blocks
may name variables inline; abandoned text may not. A closed block that holds
nothing but blanks stays a text block of its own, braces included. The first
block that cannot be read is reported before an unclosed rest.
-/

namespace Stencil

/-- A block, or a stretch of text that will be joined with the text around it. -/
inductive Piece where
  | text (text : Text)
  | block (block : Block)
deriving DecidableEq

namespace Piece

/-- Whether a text starts as an inline variable goes on after its `$`. -/
def startsName : Text → Bool
  | [] => false
  | c :: _ => isNameStart c

/-- The pieces of a text in which each longest `$name` is a variable. -/
def inline : Text → List Piece
  | [] => []
  | c :: rest =>
    if c == '$' && startsName rest then
      .block (.var (rest.takeWhile isNameChar)) :: inline (rest.dropWhile isNameChar)
    else .text [c] :: inline rest
termination_by text => text.length
decreasing_by
  · have : (rest.dropWhile isNameChar).length ≤ rest.length :=
      (List.dropWhile_suffix _).length_le
    simp only [List.length_cons]
    omega
  · simp

/-- The piece that the inside of a closed block starting at byte `start` makes. -/
def ofInterior (start : Nat) (interior : Text) : Except ParseError Piece := do
  let content := interior.trim
  match ← Expression.readAt (start + (Text.leadingBlanks interior).byteLength) content with
  | none => return .block (.text (opener ++ interior ++ closer))
  | some expression => return .block (.ofExpression content expression)

def ofRegion (inlineVariables : Bool) (start : Nat) : Region → Except ParseError (List Piece)
  | .plain t => .ok (if inlineVariables then inline t else [.text t])
  | .abandoned t => .ok [.text t]
  | .closed interior => do return [← ofInterior (start + opener.byteLength) interior]

/-- The pieces of the regions that start at byte `start`, up to the first that cannot be read. -/
def list (inlineVariables : Bool) (start : Nat) : List Region → Except ParseError (List Piece)
  | [] => .ok []
  | region :: rest => do
    let first ← ofRegion inlineVariables start region
    return first ++ (← list inlineVariables (start + region.source.byteLength) rest)

/-- Blocks with a text in front, which becomes a block of its own unless it is empty. -/
def withLead (lead : Text) (blocks : List Block) : List Block :=
  if lead.isEmpty then blocks else .text lead :: blocks

/-- The text that a list of pieces starts with, joined, and the blocks after it. -/
def joined : List Piece → Text × List Block
  | [] => ([], [])
  | .text t :: rest => (t ++ (joined rest).1, (joined rest).2)
  | .block b :: rest => ([], b :: withLead (joined rest).1 (joined rest).2)

/-- The blocks of a list of pieces, neighbouring texts joined into one. -/
def blocks (pieces : List Piece) : List Block := withLead (joined pieces).1 (joined pieces).2

end Piece

namespace Template

/-- The blocks of a template that has been cut into regions, or the place of its first fault. -/
def ofRegions (inlineVariables : Bool) (cut : Regions) : Except ParseError (List Block) := do
  let pieces ← Piece.list inlineVariables 0 cut.regions
  match cut.unclosed with
  | none => return Piece.blocks pieces
  | some rest =>
    throw ⟨rest.cause, Text.byteLength (cut.regions.flatMap Region.source), rest.source.byteLength⟩

def read (inlineVariables : Bool) (template : Text) : Except Refusal (List Block) :=
  (ofRegions inlineVariables (Regions.ofTemplate template)).mapError (Refusal.mk template)

end Template

end Stencil
