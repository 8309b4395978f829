import Stencil.Proofs.Template.Pieces
import Stencil.Proofs.Template.Scanner

/-! # What a scan has left to do

A template whose scan stands in some state comes to the blocks that the scanner has already,
the text that waits, and what the regions of the remaining text give. The laws below say
how a region, or a part of one, moves from what is left into the state.
-/

namespace Stencil

/-- The piece of a closed block is the block that the scanner makes of it. -/
theorem Piece.ofInterior_eq (start : Nat) (interior : Text) :
    Piece.ofInterior (start + opener.byteLength) interior =
      (Scanner.closed start interior).map Piece.block := by
  unfold Piece.ofInterior Scanner.closed
  dsimp only
  split
  next hnil =>
    rw [hnil, Expression.readAt_nil]
    rfl
  next hne =>
    rw [Nat.add_assoc]
    cases h : Expression.readAt
        (start + (opener.byteLength + (Text.leadingBlanks interior).byteLength)) interior.trim with
    | error error => rfl
    | ok expression =>
        cases expression with
        | none => exact absurd (Expression.trim_eq_nil h) hne
        | some expression =>
            cases expression with
            | call call => rfl
            | operand operand => cases operand <;> rfl

namespace Scanner

/-! ## What is left to do -/

/-- The text and the blocks that the pieces of some regions join to. -/
def joinedAt (inlineVariables : Bool) (start : Nat) (regions : List Region) :
    Except ParseError (Text × List Block) :=
  (Piece.list inlineVariables start regions).map Piece.joined

/-- What a template comes to whose scan stands at `state`, when the rest of it is cut into
the given regions. -/
def State.resume (inlineVariables : Bool) (state : State) (cut : Regions) :
    Except ParseError (List Block) := do
  let (text, blocks) ← joinedAt inlineVariables state.offset cut.regions
  match cut.unclosed with
  | none => return state.blocks ++ Piece.withLead (state.pending ++ text) blocks
  | some rest =>
    throw ⟨rest.cause, state.offset + Text.byteLength (cut.regions.flatMap Region.source),
      rest.source.byteLength⟩

/-- The state after a piece that is `width` bytes wide. -/
def State.take (state : State) (piece : Piece) (width : Nat) : State :=
  match piece with
  | .text text => ⟨state.offset + width, state.blocks, state.pending ++ text, .outside⟩
  | .block block => ⟨state.offset + width, state.flushed ++ [block], [], .outside⟩

theorem State.withLead_flushed (state : State) (blocks : List Block) :
    state.blocks ++ Piece.withLead state.pending blocks = state.flushed ++ blocks := by
  unfold Piece.withLead State.flushed
  cases state.pending with
  | nil => rfl
  | cons c rest => simp

theorem State.take_blocks (state : State) (piece : Piece) (width : Nat) (pieces : List Piece) :
    (state.take piece width).blocks ++ Piece.withLead
        ((state.take piece width).pending ++ (Piece.joined pieces).1) (Piece.joined pieces).2 =
      state.blocks ++ Piece.withLead (state.pending ++ (Piece.joined (piece :: pieces)).1)
        (Piece.joined (piece :: pieces)).2 := by
  cases piece with
  | text text => simp only [State.take, Piece.joined, List.append_assoc]
  | block block =>
      simp only [State.take, Piece.joined, List.append_nil, State.withLead_flushed]
      simp only [List.append_assoc, List.nil_append, List.cons_append]

section

variable {inlineVariables : Bool} (state : State)

theorem State.resume_initial (template : Text) :
    State.initial.resume inlineVariables (Regions.ofTemplate template) =
      Template.ofRegions inlineVariables (Regions.ofTemplate template) := by
  unfold State.resume Template.ofRegions joinedAt
  rw [State.initial]
  cases Piece.list inlineVariables 0 (Regions.ofTemplate template).regions with
  | error error => rfl
  | ok pieces =>
      cases (Regions.ofTemplate template).unclosed with
      | none => rfl
      | some rest =>
          simp only [Nat.zero_add]
          rfl

/-- A piece in front of the regions can be taken first. -/
theorem State.resume_take {cut rest : Regions} (piece : Piece) (width : Nat)
    (hpieces : joinedAt inlineVariables state.offset cut.regions =
      (Piece.list inlineVariables (state.offset + width) rest.regions).map
        fun pieces => Piece.joined (piece :: pieces))
    (hunclosed : cut.unclosed = rest.unclosed)
    (hwidth : Text.byteLength (cut.regions.flatMap Region.source) =
      width + Text.byteLength (rest.regions.flatMap Region.source)) :
    state.resume inlineVariables cut = (state.take piece width).resume inlineVariables rest := by
  have hoffset : (state.take piece width).offset = state.offset + width := by
    cases piece <;> rfl
  unfold State.resume joinedAt
  unfold joinedAt at hpieces
  rw [hpieces, hoffset, hunclosed, hwidth]
  cases Piece.list inlineVariables (state.offset + width) rest.regions with
  | error error => rfl
  | ok pieces =>
      cases rest.unclosed with
      | none => exact congrArg Except.ok (state.take_blocks piece width pieces).symm
      | some unclosed =>
          rw [Nat.add_assoc]
          rfl

/-- The pieces of one region come before those of the others. -/
theorem joinedAt_cons (start : Nat) (region : Region) (rest : List Region) :
    joinedAt inlineVariables start (region :: rest) =
      (Piece.ofRegion inlineVariables start region >>= fun first =>
        (Piece.list inlineVariables (start + region.source.byteLength) rest).map
          fun pieces => Piece.joined (first ++ pieces)) := by
  unfold joinedAt
  rw [Piece.list]
  cases Piece.ofRegion inlineVariables start region with
  | error error => rfl
  | ok first =>
      cases Piece.list inlineVariables (start + region.source.byteLength) rest <;> rfl

theorem Piece.inline_cons {c : Char} {rest : Text}
    (h : ¬ (c = '$' ∧ Piece.startsName rest = true)) :
    Piece.inline (c :: rest) = .text [c] :: Piece.inline rest := by
  have hif : ¬ (c == '$' && Piece.startsName rest) = true := by
    rw [Bool.and_eq_true_iff, beq_iff_eq]
    exact h
  rw [Piece.inline, if_neg hif]

theorem State.resume_plain_nil (cut : Regions) :
    state.resume inlineVariables (cut.after (.plain [])) = state.resume inlineVariables cut := by
  have hjoined : joinedAt inlineVariables state.offset (.plain [] :: cut.regions) =
      joinedAt inlineVariables state.offset cut.regions := by
    rw [joinedAt_cons, joinedAt]
    cases inlineVariables with
    | false => rfl
    | true =>
        have hinline : Piece.inline [] = [] := by rw [Piece.inline]
        simp only [Piece.ofRegion, if_true, hinline]
        rfl
  unfold State.resume
  rw [Regions.after, hjoined]
  rfl

/-- Text is taken one character at a time where no variable starts. -/
theorem State.resume_plain_char {c : Char} {plain : Text} (cut : Regions)
    (h : ¬ (inlineVariables = true ∧ c = '$' ∧ Piece.startsName plain = true)) :
    state.resume inlineVariables (cut.after (.plain (c :: plain))) =
      (state.take (.text [c]) c.utf8Size).resume inlineVariables (cut.after (.plain plain)) := by
  refine state.resume_take (.text [c]) c.utf8Size ?_ rfl ?_
  · have hwidth : state.offset + Text.byteLength (c :: plain) =
        state.offset + c.utf8Size + plain.byteLength := (Nat.add_assoc _ _ _).symm
    rw [Regions.after, joinedAt_cons, Regions.after, Piece.list]
    simp only [Region.source, hwidth]
    cases inlineVariables with
    | false =>
        cases Piece.list false (state.offset + c.utf8Size + plain.byteLength) cut.regions <;> rfl
    | true =>
        simp only [Piece.ofRegion, if_true, Piece.inline_cons fun hc => h ⟨rfl, hc⟩]
        cases Piece.list true (state.offset + c.utf8Size + plain.byteLength) cut.regions <;> rfl
  · simp only [Regions.after, List.flatMap_cons, Region.source, Text.byteLength_append,
      Text.byteLength_cons, Nat.add_assoc]

/-- A variable outside blocks is taken with its whole name. -/
theorem State.resume_plain_name {plain : Text} (cut : Regions)
    (hstart : Piece.startsName plain = true) :
    state.resume true (cut.after (.plain ('$' :: plain))) =
      (state.take (.block (.var (plain.takeWhile isNameChar)))
        (Text.byteLength ('$' :: plain.takeWhile isNameChar))).resume true
        (cut.after (.plain (plain.dropWhile isNameChar))) := by
  have hlength : Text.byteLength ('$' :: plain.takeWhile isNameChar) +
      Text.byteLength (plain.dropWhile isNameChar) = Text.byteLength ('$' :: plain) := by
    rw [← Text.byteLength_append, List.cons_append, List.takeWhile_append_dropWhile]
  have hinline : Piece.inline ('$' :: plain) =
      .block (.var (plain.takeWhile isNameChar)) ::
        Piece.inline (plain.dropWhile isNameChar) := by
    rw [Piece.inline, if_pos (by rw [hstart]; rfl)]
  refine state.resume_take _ _ ?_ rfl ?_
  · rw [Regions.after, joinedAt_cons, Regions.after, Piece.list]
    simp only [Region.source, Piece.ofRegion, if_true, hinline, Nat.add_assoc, hlength]
    cases Piece.list true (state.offset + Text.byteLength ('$' :: plain)) cut.regions <;> rfl
  · simp only [Regions.after, List.flatMap_cons, Region.source, Text.byteLength_append]
    rw [← hlength, Nat.add_assoc]

theorem State.resume_abandoned (text : Text) (cut : Regions) :
    state.resume inlineVariables (cut.after (.abandoned text)) =
      (state.take (.text text) text.byteLength).resume inlineVariables cut := by
  refine state.resume_take _ _ ?_ rfl ?_
  · exact joinedAt_cons state.offset (.abandoned text) cut.regions
  · simp only [Regions.after, List.flatMap_cons, Region.source, Text.byteLength_append]

/-- A closed block comes first, and its fault ends the reading. -/
theorem State.resume_closed (interior : Text) (cut : Regions) :
    state.resume inlineVariables (cut.after (.closed interior)) =
      (closed state.offset interior >>= fun block =>
        (state.take (.block block) (Text.byteLength (opener ++ interior ++ closer))).resume
          inlineVariables cut) := by
  have hpiece := Piece.ofInterior_eq state.offset interior
  cases h : closed state.offset interior with
  | error error =>
      rw [h] at hpiece
      have hregion : Piece.ofRegion inlineVariables state.offset (.closed interior) =
          .error error := by
        rw [Piece.ofRegion, hpiece]
        rfl
      unfold State.resume
      rw [Regions.after, joinedAt_cons, hregion]
      rfl
  | ok block =>
      rw [h] at hpiece
      have hregion : Piece.ofRegion inlineVariables state.offset (.closed interior) =
          .ok [.block block] := by
        rw [Piece.ofRegion, hpiece]
        rfl
      refine state.resume_take _ _ ?_ rfl ?_
      · rw [Regions.after, joinedAt_cons, hregion]
        rfl
      · simp only [Regions.after, List.flatMap_cons, Region.source, Text.byteLength_append]

end

/-! ## Text outside blocks -/

theorem scan_outside_cons {c : Char} {rest : Text} (hopen : ¬ (c = '{' ∧ rest.head? = some '{'))
    (seen : Text) :
    Regions.scan (.outside seen) (c :: rest) = Regions.scan (.outside (c :: seen)) rest := by
  rw [Regions.scan]
  rintro rest' rfl rfl
  exact hopen ⟨rfl, rfl⟩

/-- A scan outside blocks first covers a stretch of plain text, whatever was seen before. -/
theorem exists_plain (text : Text) : ∃ (plain : Text) (cut : Regions),
    (∀ seen, Regions.scan (.outside seen) text = cut.after (.plain (seen.reverse ++ plain))) ∧
      (∀ c ∈ plain.head?, c ∈ text.head?) ∧ Piece.startsName plain = Piece.startsName text := by
  induction text with
  | nil =>
      refine ⟨[], ⟨[], none⟩, fun seen => ?_, fun c hc => hc, rfl⟩
      rw [Regions.scan, Regions.after, List.append_nil]
  | cons c rest ih =>
      by_cases hopen : c = '{' ∧ rest.head? = some '{'
      · obtain ⟨rfl, hhead⟩ := hopen
        cases rest with
        | nil => cases hhead
        | cons d rest =>
            cases hhead
            refine ⟨[], Regions.scan (.inside []) rest, fun seen => ?_, fun c hc => ?_, rfl⟩
            · rw [Regions.scan, List.append_nil]
            · cases hc
      · obtain ⟨plain, cut, hscan, -, -⟩ := ih
        refine ⟨c :: plain, cut, fun seen => ?_, fun c hc => hc, rfl⟩
        rw [scan_outside_cons hopen, hscan, List.reverse_cons, List.append_assoc,
          List.singleton_append]

/-- Characters that are no braces never open a block. -/
theorem scan_outside_append {run : Text} (hrun : ∀ c ∈ run, c ≠ '{') (seen rest : Text) :
    Regions.scan (.outside seen) (run ++ rest) =
      Regions.scan (.outside (run.reverse ++ seen)) rest := by
  induction run generalizing seen with
  | nil => rfl
  | cons c run ih =>
      obtain ⟨hc, hrun⟩ := List.forall_mem_cons.mp hrun
      rw [List.cons_append, scan_outside_cons fun hopen => hc hopen.1, ih hrun, List.reverse_cons,
        List.append_assoc, List.singleton_append]

theorem ne_brace_of_isNameChar {c : Char} (hc : isNameChar c = true) : c ≠ '{' := by
  rintro rfl
  cases hc

section

variable {inlineVariables : Bool} (state : State)

theorem State.resume_outside_opener (rest : Text) :
    state.resume inlineVariables (Regions.scan (.outside []) ('{' :: '{' :: rest)) =
      state.resume inlineVariables (Regions.scan (.inside []) rest) := by
  rw [Regions.scan, List.reverse_nil, state.resume_plain_nil]

theorem State.resume_outside_char {c : Char} {rest : Text}
    (hopen : ¬ (c = '{' ∧ rest.head? = some '{'))
    (hname : ¬ (inlineVariables = true ∧ c = '$' ∧ Piece.startsName rest = true)) :
    state.resume inlineVariables (Regions.scan (.outside []) (c :: rest)) =
      (state.take (.text [c]) c.utf8Size).resume inlineVariables
        (Regions.scan (.outside []) rest) := by
  obtain ⟨plain, cut, hscan, -, hstart⟩ := exists_plain rest
  rw [scan_outside_cons hopen, hscan, hscan, List.reverse_nil, List.nil_append,
    List.reverse_singleton, List.singleton_append, state.resume_plain_char cut]
  rwa [hstart]

theorem State.resume_outside_name {rest : Text} (hstart : Piece.startsName rest = true) :
    state.resume true (Regions.scan (.outside []) ('$' :: rest)) =
      (state.take (.block (.var (rest.takeWhile isNameChar)))
        (Text.byteLength ('$' :: rest.takeWhile isNameChar))).resume true
        (Regions.scan (.outside []) (rest.dropWhile isNameChar)) := by
  obtain ⟨plain, cut, hscan, hhead, -⟩ := exists_plain (rest.dropWhile isNameChar)
  have hname : ∀ c ∈ rest.takeWhile isNameChar, isNameChar c = true :=
    fun c hc => List.mem_takeWhile_imp hc
  -- the plain text goes on behind the name, with no character of it
  have hstop : ∀ c ∈ plain.head?, isNameChar c = false := by
    intro c hc
    have hfirst := List.head?_dropWhile_not isNameChar rest
    rw [hhead c hc] at hfirst
    exact hfirst
  obtain ⟨htake, hdrop⟩ := Lexeme.span_append hname hstop
  have hrest : Regions.scan (.outside []) ('$' :: rest) =
      cut.after (.plain ('$' :: (rest.takeWhile isNameChar ++ plain))) := by
    have hrun : ∀ c ∈ '$' :: rest.takeWhile isNameChar, c ≠ '{' :=
      List.forall_mem_cons.mpr ⟨by decide, fun c hc => ne_brace_of_isNameChar (hname c hc)⟩
    have happend := scan_outside_append hrun [] (rest.dropWhile isNameChar)
    rw [List.cons_append, List.takeWhile_append_dropWhile, hscan, List.append_nil,
      List.reverse_reverse, List.cons_append] at happend
    exact happend
  have hname' : Piece.startsName (rest.takeWhile isNameChar ++ plain) = true := by
    obtain ⟨c, name, hc, htake⟩ := Piece.takeWhile_of_startsName hstart
    rw [htake]
    exact hc
  rw [hrest, state.resume_plain_name cut hname', htake, hdrop, hscan, List.reverse_nil,
    List.nil_append]

end

end Scanner

end Stencil
