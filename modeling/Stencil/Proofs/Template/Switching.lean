import Stencil.Proofs.Template.Joining

/-! # Templates with and without inline variables

Whether a text may name variables is a switch of the template. With the switch on, text
outside blocks is taken apart into variables and characters; with it off, it is left as it is.
Nothing else depends on the switch: not where blocks begin and end, not what they hold, and
not which of them is refused.
-/

namespace Stencil

/-- Whether a block is a variable. -/
def Block.isVar : Block → Bool
  | .var _ => true
  | _ => false

/-- Whether a block is a literal or a call, which stand between braces only. -/
def Block.isBraced : Block → Bool
  | .literal _ => true
  | .call _ _ => true
  | _ => false

namespace Piece

/-! ## Two lists of pieces -/

/-- The pieces of the same regions with the switch on, and with it off: texts of the second list
are taken apart in the first. -/
inductive TakenApart : List Piece → List Piece → Prop where
  | nil : TakenApart [] []
  | text (text : Text) {on off : List Piece} (rest : TakenApart on off) :
      TakenApart (inline text ++ on) (.text text :: off)
  | same (piece : Piece) {on off : List Piece} (rest : TakenApart on off) :
      TakenApart (piece :: on) (piece :: off)

namespace TakenApart

variable {on off : List Piece}

theorem append {others rest : List Piece} (apart : TakenApart on off)
    (further : TakenApart others rest) : TakenApart (on ++ others) (off ++ rest) := by
  induction apart with
  | nil => exact further
  | text text _ ih =>
      rw [List.append_assoc]
      exact .text text ih
  | same piece _ ih => exact .same piece ih

variable {α : Type} (f : Block → List α)

/-- What is gathered from both lists is the same if it is so for each text by itself. -/
theorem flatMap_eq (apart : TakenApart on off)
    (h : ∀ text, ((inline text).flatMap fun piece => f piece.alone) = f (.text text)) :
    (on.flatMap fun piece => f piece.alone) = off.flatMap fun piece => f piece.alone := by
  induction apart with
  | nil => rfl
  | text text _ ih =>
      rw [List.flatMap_append, h, ih]
      rfl
  | same piece _ ih => rw [List.flatMap_cons, List.flatMap_cons, ih]

/-- Where texts give nothing, the first list gives all that the second one does. -/
theorem flatMap_sublist (apart : TakenApart on off) (h : ∀ text, f (.text text) = []) :
    (off.flatMap fun piece => f piece.alone).Sublist (on.flatMap fun piece => f piece.alone) := by
  induction apart with
  | nil => exact .slnil
  | text text _ ih =>
      rw [List.flatMap_cons, List.flatMap_append, alone, h, List.nil_append]
      exact ih.trans (List.sublist_append_right _ _)
  | same piece _ ih =>
      rw [List.flatMap_cons, List.flatMap_cons]
      exact (List.Sublist.refl _).append ih

end TakenApart

/-- A text taken apart is still the same text. -/
theorem content_inline (text : Text) :
    ((inline text).flatMap fun piece => piece.alone.content) = text := by
  induction text using inline_induction with
  | nil =>
      rw [inline]
      rfl
  | name name rest hstart hname hstop ih =>
      rw [inline_name hstart hname hstop, List.flatMap_cons, ih]
      rfl
  | char c rest hdollar ih =>
      rw [Scanner.Piece.inline_cons hdollar, List.flatMap_cons, ih]
      rfl

/-! ## Blocks of one kind -/

/-- Blocks that are picked from all of them are picked from the pieces they are joined from, if no
text is picked. -/
theorem filter_blocks {p : Block → Bool} (htext : ∀ text, [Block.text text].filter p = [])
    (pieces : List Piece) :
    (blocks pieces).filter p = pieces.flatMap fun piece => [piece.alone].filter p := by
  calc (blocks pieces).filter p
    _ = ((blocks pieces).flatMap fun block => [block]).filter p := by
        rw [List.flatMap_singleton']
    _ = (blocks pieces).flatMap fun block => [block].filter p := List.filter_flatMap
    _ = pieces.flatMap fun piece => [piece.alone].filter p := by
        refine flatMap_blocks (htext []) (fun first second => ?_) pieces
        rw [htext, htext, htext, List.append_nil]

/-- Nothing is picked from a text outside blocks where neither texts nor variables are. -/
theorem filter_inline {p : Block → Bool} (htext : ∀ text, [Block.text text].filter p = [])
    (hvar : ∀ name, [Block.var name].filter p = []) (text : Text) :
    ((inline text).flatMap fun piece => [piece.alone].filter p) = [Block.text text].filter p := by
  rw [htext, List.flatMap_eq_nil_iff]
  intro piece hpiece
  cases piece with
  | text text => exact htext text
  | block block =>
      obtain ⟨name, -, rfl⟩ := exists_var_of_mem_inline hpiece
      exact hvar name

/-! ## Reading with the switch on and off -/

theorem ofRegion_switched (start : Nat) (region : Region) :
    Result.Corresponds TakenApart (ofRegion true start region) (ofRegion false start region) := by
  cases region with
  | plain text =>
      rw [ofRegion, ofRegion, if_pos rfl, if_neg Bool.false_ne_true]
      have apart := TakenApart.text text .nil
      rw [List.append_nil] at apart
      exact .ok apart
  | abandoned text => exact .ok (.same (.text text) .nil)
  | closed interior =>
      rw [ofRegion, ofRegion]
      cases ofInterior (start + opener.byteLength) interior with
      | error error => exact .error error
      | ok piece => exact .ok (.same piece .nil)

/-- Regions meet the same fault whether the switch is on or off, or come to pieces that differ in
texts only. -/
theorem list_switched (start : Nat) (regions : List Region) :
    Result.Corresponds TakenApart (list true start regions) (list false start regions) := by
  induction regions generalizing start with
  | nil => exact .ok .nil
  | cons region rest ih =>
      rw [list, list]
      apply (ofRegion_switched start region).bind
      intro first others hfirst
      apply (ih (start + region.source.byteLength)).bind
      intro on off hrest
      exact .ok (hfirst.append hrest)

end Piece

namespace Template

/-- What the blocks of one template have in common with the switch on, and with it off. -/
structure Switched (on off : List Block) : Prop where
  braced : on.filter Block.isBraced = off.filter Block.isBraced
  vars : (off.filter Block.isVar).Sublist (on.filter Block.isVar)
  contents : on.flatMap Block.content = off.flatMap Block.content

theorem switched_blocks {on off : List Piece} (apart : Piece.TakenApart on off) :
    Switched (Piece.blocks on) (Piece.blocks off) where
  braced := by
    rw [Piece.filter_blocks fun _ => rfl, Piece.filter_blocks fun _ => rfl]
    exact apart.flatMap_eq (fun block => [block].filter Block.isBraced)
      (Piece.filter_inline (fun _ => rfl) fun _ => rfl)
  vars := by
    rw [Piece.filter_blocks fun _ => rfl, Piece.filter_blocks fun _ => rfl]
    exact apart.flatMap_sublist (fun block => [block].filter Block.isVar) fun _ => rfl
  contents := by
    rw [Piece.flatMap_blocks rfl fun _ _ => rfl, Piece.flatMap_blocks rfl fun _ _ => rfl]
    exact apart.flatMap_eq Block.content Piece.content_inline

theorem ofRegions_switched (cut : Regions) :
    Result.Corresponds Switched (ofRegions true cut) (ofRegions false cut) := by
  rw [ofRegions, ofRegions]
  apply (Piece.list_switched 0 cut.regions).bind
  intro on off apart
  cases cut.unclosed with
  | none => exact .ok (switched_blocks apart)
  | some rest => exact .error _

/-- A template is refused in the same way whether it may name variables inline or not. Otherwise
the literals and calls among its blocks are the same, the variables with the switch off are among
those with it on and in the same order, and the blocks laid end to end are the same text. -/
theorem inline_switch_spares_braces (template : Text) :
    (∃ refusal, read true template = .error refusal ∧ read false template = .error refusal) ∨
      ∃ on off, read true template = .ok on ∧ read false template = .ok off ∧
        Switched on off := by
  have hregions := ofRegions_switched (Regions.ofTemplate template)
  -- both refusals name the same template
  exact (hregions.mapError (Refusal.mk template)).error_or_ok

/-- In `$a{{$b}}{{'c'}}` both variables are blocks with the switch on, and the second alone with it
off. -/
example :
    ∃ on off, read true (['$', 'a'] ++ opener ++ ['$', 'b'] ++ closer ++ opener ++
          ['\'', 'c', '\''] ++ closer) = .ok on ∧
      read false (['$', 'a'] ++ opener ++ ['$', 'b'] ++ closer ++ opener ++
          ['\'', 'c', '\''] ++ closer) = .ok off ∧
      on.filter Block.isVar = [.var ['a'], .var ['b']] ∧
      off.filter Block.isVar = [.var ['b']] ∧
      on.filter Block.isBraced = [.literal ⟨.single, ['c']⟩] := by
  exact ⟨[.var ['a'], .var ['b'], .literal ⟨.single, ['c']⟩],
    [.text ['$', 'a'], .var ['b'], .literal ⟨.single, ['c']⟩],
    by decide +kernel, by decide +kernel, by decide, by decide, by decide⟩

end Template

end Stencil
