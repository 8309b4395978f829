import Stencil.ParseError

/-! # Regions of a template

Two braces open a block and two braces close it, except within a literal of the
block. Two further opening braces inside a block start it anew: what was
scanned since the abandoned pair is text after all. In a run of opening braces
the last pair counts. The regions of a template say which stretches are text,
which were abandoned, and which are the insides of closed blocks; laid end to
end with an unclosed rest they give the template back.
-/

namespace Stencil

def opener : Text := ['{', '{']

def closer : Text := ['}', '}']

/-- A stretch of a template. -/
inductive Region where
  | plain (text : Text)
  /-- Text that began as a block and was given up for a later pair of braces. -/
  | abandoned (text : Text)
  | closed (interior : Text)
deriving DecidableEq

def Region.source : Region → Text
  | .plain text => text
  | .abandoned text => text
  | .closed interior => opener ++ interior ++ closer

/-- What was open at the end of a template, and the text since the braces that opened it. -/
structure Unclosed where
  inLiteral : Bool
  source : Text
deriving DecidableEq

def Unclosed.cause (rest : Unclosed) : Cause :=
  if rest.inLiteral then .unclosedLiteral else .unclosedBlock

/-- A template cut into regions, with the unclosed rest when there is one. -/
structure Regions where
  regions : List Region
  unclosed : Option Unclosed
deriving DecidableEq

namespace Regions

def after (first : Region) (rest : Regions) : Regions :=
  ⟨first :: rest.regions, rest.unclosed⟩

/-- Where a scan stands, with the text since the region began, latest character first. -/
inductive Mode where
  | outside (seen : Text)
  | inside (seen : Text)
  | quoted (quote : Quote) (seen : Text)

def scan : Mode → Text → Regions
  | .outside seen, [] => ⟨[.plain seen.reverse], none⟩
  | .outside seen, '{' :: '{' :: rest => (scan (.inside []) rest).after (.plain seen.reverse)
  | .outside seen, c :: rest => scan (.outside (c :: seen)) rest
  | .inside seen, [] => ⟨[], some ⟨false, opener ++ seen.reverse⟩⟩
  -- a third brace in a row: the pair that opens the block starts one later
  | .inside [], '{' :: rest => (scan (.inside []) rest).after (.abandoned ['{'])
  | .inside seen, '{' :: '{' :: rest =>
    (scan (.inside []) rest).after (.abandoned (opener ++ seen.reverse))
  | .inside seen, '}' :: '}' :: rest => (scan (.outside []) rest).after (.closed seen.reverse)
  | .inside seen, c :: rest =>
    match Quote.ofChar? c with
    | some quote => scan (.quoted quote (c :: seen)) rest
    | none => scan (.inside (c :: seen)) rest
  | .quoted _ seen, [] => ⟨[], some ⟨true, opener ++ seen.reverse⟩⟩
  -- an escaped quote does not end the literal
  | .quoted quote seen, '\\' :: c :: rest =>
    if Text.isEscapable c then scan (.quoted quote (c :: '\\' :: seen)) rest
    else scan (.quoted quote ('\\' :: seen)) (c :: rest)
  | .quoted quote seen, c :: rest =>
    if c = quote.char then scan (.inside (c :: seen)) rest
    else scan (.quoted quote (c :: seen)) rest

/-- The text that a template's regions and its unclosed rest cover. -/
def source (regions : Regions) : Text :=
  regions.regions.flatMap Region.source ++ (regions.unclosed.map Unclosed.source).getD []

theorem source_after (first : Region) (rest : Regions) :
    (rest.after first).source = first.source ++ rest.source := by
  simp [source, after]

def Mode.source : Mode → Text
  | .outside seen => seen.reverse
  | .inside seen => opener ++ seen.reverse
  | .quoted _ seen => opener ++ seen.reverse

/-- A scan covers what its mode holds back and all of its text. -/
theorem source_scan (mode : Mode) (text : Text) :
    (scan mode text).source = mode.source ++ text := by
  fun_induction scan mode text <;>
    simp_all [source_after, Mode.source, Region.source, opener, closer]
  all_goals simp [source, Region.source]

def ofTemplate (template : Text) : Regions := scan (.outside []) template

/-- The regions of a template and its unclosed rest, laid end to end, are the template. -/
theorem source_ofTemplate (template : Text) : (ofTemplate template).source = template := by
  simp [ofTemplate, source_scan, Mode.source]

end Regions

end Stencil
