import Stencil.Text.Basic
import Stencil.Text.CaseTable
import Stencil.Text.CasedTable
import Stencil.Text.Ranges

/-! # Capitals and small letters

The full case mappings of Unicode, without those of particular languages. A
capital sigma becomes the final small sigma where a word ends with it.
-/

namespace Stencil.Text

/-- The number that a list of runs maps a number to; a number in no run stays as it is. -/
def mapRuns (n : Nat) : List CaseRun → Nat
  | [] => n
  | run :: rest =>
    if run.first ≤ n ∧ n ≤ run.last ∧ (n - run.first) % run.step = 0 then
      run.target + (n - run.first)
    else mapRuns n rest

/-- The mapping of a character by a table of sequences and a table of runs. -/
def mapCase (sequences : List (Nat × List Nat)) (runs : List CaseRun) (c : Char) : Text :=
  match sequences.lookup c.toNat with
  | some targets => targets.map Char.ofNat
  | none => [Char.ofNat (mapRuns c.toNat runs)]

/-- The capital of a character, or the character itself if it has none. -/
def upperChar (c : Char) : Text := mapCase upperSequences upperRuns c

/-- The small letter of a character, or the character itself if it has none. -/
def lowerChar (c : Char) : Text := mapCase lowerSequences lowerRuns c

/-- Whether a text starts with a letter with case once what is ignorable is passed over. -/
def leadsToCased (text : Text) : Bool :=
  match text.dropWhile (isIn caseIgnorableBounds) with
  | [] => false
  | c :: _ => isIn casedBounds c

def upper (text : Text) : Text := text.flatMap upperChar

/-- The text in small letters, where `before` is what precedes it, latest character first. -/
def lowerAfter (before : Text) : Text → Text
  | [] => []
  | c :: rest =>
    let small :=
      -- a word ends with a sigma that a letter precedes and none follows
      if c = 'Σ' then
        if leadsToCased before && !leadsToCased rest then ['ς'] else ['σ']
      else lowerChar c
    small ++ lowerAfter (c :: before) rest

def lower (text : Text) : Text := lowerAfter [] text

end Stencil.Text
