import Stencil.Proofs.Template.Filling
import Stencil.Proofs.Template.Segments
import Stencil.Proofs.Template.Switching

/-! # Names that stay text

Where text may name variables, every name behind a `$` outside blocks becomes a variable. A
stretch that began as a block and was given up for a later pair of braces joins the text around
it, but no variables are looked for in it. So the names that are left in text are those of
abandoned stretches, and of nothing else.
-/

namespace Stencil

open Grammar

/-- Whether a `$` with the start of a name behind it is somewhere in a text. -/
def Text.Mentions (text : Text) : Prop :=
  ∃ before c after, text = before ++ '$' :: c :: after ∧ NameStart c

theorem Text.Mentions.of_part {text longer : Text} (h : text.Mentions)
    (hpart : text <:+: longer) : longer.Mentions := by
  obtain ⟨before, c, after, rfl, hc⟩ := h
  obtain ⟨front, back, rfl⟩ := hpart
  exact ⟨front ++ before, c, after ++ back, by simp, hc⟩

/-! ## Texts put together from stretches -/

/-- A text put together from certain stretches and from single characters, such that no name
starts at a character or goes on behind a stretch. -/
inductive Text.Pieced (stretch : Text → Prop) : Text → Prop where
  | nil : Pieced stretch []
  | char {c : Char} {rest : Text} (hdollar : c = '$' → ∀ d ∈ rest.head?, ¬ NameStart d)
      (pieced : Pieced stretch rest) : Pieced stretch (c :: rest)
  | stretch {text rest : Text} (h : stretch text) (hstop : ∀ d ∈ rest.head?, ¬ NameStart d)
      (pieced : Pieced stretch rest) : Pieced stretch (text ++ rest)

namespace Text

variable {stretch : Text → Prop}

theorem pieced_of_no_dollar {text : Text} (h : '$' ∉ text) : text.Pieced stretch := by
  induction text with
  | nil => exact .nil
  | cons c rest ih =>
      rw [List.mem_cons, not_or] at h
      exact .char (fun hdollar => absurd hdollar.symm h.1) (ih h.2)

theorem pieced_of_keptBlank {text : Text} (h : KeptBlank text) : text.Pieced stretch := by
  obtain ⟨blanks, hblanks, rfl⟩ := h
  apply pieced_of_no_dollar
  have hdollar : '$' ∉ blanks := by
    intro hmem
    have hblank := hblanks '$' hmem
    revert hblank
    decide
  simp [opener, closer, hdollar]

/-- Where such a text mentions a variable, there is a stretch around the place that mentions it. -/
theorem Pieced.exists_stretch {text before after : Text} {c : Char} (pieced : text.Pieced stretch)
    (htext : text = before ++ '$' :: c :: after) (hc : NameStart c) :
    ∃ front back, stretch (front ++ '$' :: c :: back) ∧ front <:+ before ∧ back <+: after := by
  induction pieced generalizing before with
  | nil => simp at htext
  | @char d rest hdollar _ ih =>
      cases before with
      | nil =>
          cases htext
          exact absurd hc (hdollar rfl c rfl)
      | cons b before =>
          cases htext
          obtain ⟨front, back, hstretch, hfront, hback⟩ := ih rfl
          exact ⟨front, back, hstretch, hfront.trans (List.suffix_cons _ _), hback⟩
  | @stretch text rest h hstop _ ih =>
      -- the place is behind the stretch, across its end, or in it
      rcases List.append_eq_append_iff.mp htext with ⟨tail, rfl, hrest⟩ | ⟨tail, rfl, hrest⟩
      · obtain ⟨front, back, hstretch, hfront, hback⟩ := ih hrest
        exact ⟨front, back, hstretch, hfront.trans (List.suffix_append text tail), hback⟩
      · cases tail with
        | nil =>
            have hbehind : rest = [] ++ '$' :: c :: after := hrest.symm
            obtain ⟨front, back, hstretch, hfront, hback⟩ := ih hbehind
            exact ⟨front, back, hstretch, hfront.trans List.nil_suffix, hback⟩
        | cons d tail =>
            cases tail with
            | nil =>
                cases hrest
                exact absurd hc (hstop c rfl)
            | cons e back =>
                cases hrest
                exact ⟨before, back, h, List.suffix_rfl, List.prefix_append back rest⟩

end Text

/-! ## The order of regions -/

/-- Regions in the order in which a scan meets them, starting outside blocks or not. An abandoned
stretch starts with a brace, and behind it comes another or a closed block. -/
inductive Region.Ordered : Bool → List Region → Prop where
  | nil : Ordered false []
  | plain (text : Text) {rest : List Region} (ordered : Ordered false rest) :
      Ordered true (.plain text :: rest)
  | abandoned (text : Text) {rest : List Region} (ordered : Ordered false rest) :
      Ordered false (.abandoned ('{' :: text) :: rest)
  | closed (interior : Text) {rest : List Region} (ordered : Ordered true rest) :
      Ordered false (.closed interior :: rest)

namespace Regions

def Mode.isOutside : Mode → Bool
  | .outside _ => true
  | _ => false

theorem ordered_scan (mode : Mode) (text : Text) :
    Region.Ordered mode.isOutside (scan mode text).regions := by
  fun_induction scan mode text with
  | case1 seen => exact .plain _ .nil
  | case2 seen rest ih => exact .plain _ ih
  | case5 rest ih => exact .abandoned _ ih
  | case6 seen rest _ ih => exact .abandoned _ ih
  | case7 seen rest ih => exact .closed _ ih
  | case4 | case10 => exact .nil
  | _ => assumption

end Regions

/-! ## Texts among blocks -/

namespace Piece

variable {stretch : Text → Prop}

/-- The text in front of blocks and the texts among them are put together from stretches. -/
structure Pieced (stretch : Text → Prop) (parts : Text × List Block) : Prop where
  lead : parts.1.Pieced stretch
  texts : ∀ text, .text text ∈ parts.2 → text.Pieced stretch

theorem Pieced.withLead {parts : Text × List Block} (pieced : Pieced stretch parts) :
    ∀ text, .text text ∈ withLead parts.1 parts.2 → text.Pieced stretch := by
  intro text hmem
  rw [Piece.withLead] at hmem
  split at hmem
  next => exact pieced.texts text hmem
  next =>
    rcases List.mem_cons.mp hmem with hlead | hrest
    · cases hlead
      exact pieced.lead
    · exact pieced.texts text hrest

/-- A block that starts with no text of its own goes in front of pieces. -/
theorem Pieced.block {block : Block} {pieces : List Piece}
    (hblock : ∀ text, block = .text text → text.Pieced stretch)
    (pieced : Pieced stretch (joined pieces)) :
    Pieced stretch (joined (.block block :: pieces)) where
  lead := .nil
  texts := by
    intro text hmem
    rcases List.mem_cons.mp hmem with hfirst | hrest
    · exact hblock text hfirst.symm
    · exact pieced.withLead text hrest

/-- Text outside blocks in front of pieces adds no stretches. If text comes first, it starts as
the text outside does. -/
theorem pieced_inline {pieces : List Piece} (pieced : Pieced stretch (joined pieces))
    (hstop : ∀ d ∈ (joined pieces).1.head?, ¬ NameStart d) (text : Text) :
    Pieced stretch (joined (inline text ++ pieces)) ∧
      ∀ d ∈ (joined (inline text ++ pieces)).1.head?, NameStart d → d ∈ text.head? := by
  induction text using inline_induction with
  | nil =>
      rw [inline]
      exact ⟨pieced, fun d hd hname => absurd hname (hstop d hd)⟩
  | name name rest hstart hname hnext ih =>
      rw [inline_name hstart hname hnext]
      exact ⟨.block (by simp) ih.1, by simp [joined]⟩
  | char c rest hdollar ih =>
      obtain ⟨hrest, hfirst⟩ := ih
      rw [Scanner.Piece.inline_cons hdollar]
      refine ⟨⟨.char ?_ hrest.lead, hrest.texts⟩, fun d hd _ => hd⟩
      rintro rfl d hd hname
      exact hdollar ⟨rfl, startsName_iff.mpr ⟨d, hfirst d hd hname, hname⟩⟩

theorem exists_settled_of_ofInterior {start : Nat} {interior : Text} {piece : Piece}
    (h : ofInterior start interior = .ok piece) :
    ∃ block, piece = .block block ∧ block.Settled := by
  have covers : Covers true _ _ := covers_ofInterior h
  cases covers with
  | text =>
      obtain ⟨expression, -, hpiece⟩ := Result.bind_eq_ok.mp h
      cases expression <;> cases hpiece
  | block _ settled => exact ⟨_, rfl, settled⟩

/-- The texts that regions come to are put together from the abandoned stretches. -/
theorem pieced_list {outside : Bool} {regions : List Region}
    (ordered : Region.Ordered outside regions)
    (hstretch : ∀ text, .abandoned text ∈ regions → stretch text) {start : Nat}
    {pieces : List Piece} (h : list true start regions = .ok pieces) :
    Pieced stretch (joined pieces) ∧
      (outside = false → ∀ d ∈ (joined pieces).1.head?, ¬ NameStart d) := by
  induction ordered generalizing start pieces with
  | nil =>
      cases h
      exact ⟨⟨.nil, by simp [joined]⟩, by simp [joined]⟩
  | @plain text rest _ ih =>
      obtain ⟨first, more, hfirst, hmore, rfl⟩ := list_cons_eq_ok.mp h
      cases hfirst
      obtain ⟨pieced, hstop⟩ := ih (fun text hmem => hstretch text (.tail _ hmem)) hmore
      exact ⟨(pieced_inline pieced (hstop rfl) text).1, by simp⟩
  | @abandoned text rest _ ih =>
      obtain ⟨first, more, hfirst, hmore, rfl⟩ := list_cons_eq_ok.mp h
      cases hfirst
      obtain ⟨pieced, hstop⟩ := ih (fun text hmem => hstretch text (.tail _ hmem)) hmore
      refine ⟨⟨.stretch (hstretch _ List.mem_cons_self) (hstop rfl) pieced.lead, pieced.texts⟩, ?_⟩
      rintro - d hd
      cases hd
      decide
  | @closed interior rest _ ih =>
      obtain ⟨first, more, hfirst, hmore, rfl⟩ := list_cons_eq_ok.mp h
      obtain ⟨piece, hpiece, hfirst⟩ := Result.bind_eq_ok.mp hfirst
      cases hfirst
      obtain ⟨block, rfl, settled⟩ := exists_settled_of_ofInterior hpiece
      obtain ⟨pieced, -⟩ := ih (fun text hmem => hstretch text (.tail _ hmem)) hmore
      have hblock (text : Text) (htext : block = .text text) : text.Pieced stretch :=
        Text.pieced_of_keptBlank (settled text htext)
      exact ⟨.block hblock pieced, by simp [joined]⟩

/-! ## What becomes of a region -/

/-- The pieces of a region are among those of all regions. -/
theorem exists_of_mem_list {inlineVariables : Bool} {start : Nat} {regions : List Region}
    {pieces : List Piece} (h : list inlineVariables start regions = .ok pieces) {region : Region}
    (hmem : region ∈ regions) :
    ∃ place first, ofRegion inlineVariables place region = .ok first ∧ first ⊆ pieces := by
  induction regions generalizing start pieces with
  | nil => cases hmem
  | cons other regions ih =>
      obtain ⟨first, rest, hfirst, hrest, rfl⟩ := list_cons_eq_ok.mp h
      rcases List.mem_cons.mp hmem with rfl | hmem
      · exact ⟨start, first, hfirst, List.subset_append_left first rest⟩
      · obtain ⟨place, more, hmore, hsubset⟩ := ih hrest hmem
        exact ⟨place, more, hmore, List.Subset.trans hsubset (List.subset_append_right first rest)⟩

/-- A text is part of some text block of those that it was joined to. -/
theorem exists_text_of_mem {text : Text} (hne : text ≠ []) {pieces : List Piece}
    (hmem : .text text ∈ pieces) : ∃ longer, .text longer ∈ blocks pieces ∧ text <:+: longer := by
  have hlead {lead : Text} {rest : List Block}
      (h : text <:+: lead ∨ ∃ longer, .text longer ∈ rest ∧ text <:+: longer) :
      ∃ longer, .text longer ∈ withLead lead rest ∧ text <:+: longer := by
    rw [withLead]
    split
    next hempty =>
      rcases h with hpart | hrest
      · rw [List.isEmpty_iff.mp hempty, List.infix_nil] at hpart
        exact absurd hpart hne
      · exact hrest
    next =>
      rcases h with hpart | ⟨longer, hlonger, hpart⟩
      · exact ⟨lead, List.mem_cons_self, hpart⟩
      · exact ⟨longer, List.mem_cons_of_mem _ hlonger, hpart⟩
  apply hlead
  induction pieces with
  | nil => cases hmem
  | cons piece rest ih =>
      rcases List.mem_cons.mp hmem with rfl | hrest
      · exact .inl (List.prefix_append text (joined rest).1).isInfix
      · cases piece with
        | text front =>
            exact (ih hrest).imp_left fun h => h.trans (List.suffix_append front _).isInfix
        | block block =>
            obtain ⟨longer, hlonger, hpart⟩ := hlead (ih hrest)
            exact .inr ⟨longer, List.mem_cons_of_mem _ hlonger, hpart⟩

theorem var_mem_blocks {name : Text} {pieces : List Piece} (hmem : .block (.var name) ∈ pieces) :
    .var name ∈ blocks pieces := by
  have hfilter : Block.var name ∈ (blocks pieces).filter Block.isVar := by
    rw [filter_blocks fun _ => rfl, List.mem_flatMap]
    exact ⟨_, hmem, by simp [alone, Block.isVar]⟩
  exact (List.mem_filter.mp hfilter).1

/-- A name behind a `$` is a variable wherever it stands in text outside blocks. -/
theorem var_mem_inline {name : Text} (hstart : ∃ c ∈ name.head?, NameStart c)
    (hname : ∀ c ∈ name, NameChar c) (before : Text) {after : Text}
    (hstop : ∀ c ∈ after.head?, ¬ NameChar c) :
    .block (.var name) ∈ inline (before ++ '$' :: (name ++ after)) := by
  have hcut : ¬ (before.EndsInName ∧ ∃ c ∈ ('$' :: (name ++ after)).head?, NameChar c) := by
    rintro ⟨-, c, hc, hchar⟩
    cases hc
    revert hchar
    decide
  rw [inline_append hcut, inline_name (startsName_iff.mpr hstart) hname hstop]
  simp

end Piece

/-! ## Templates -/

namespace Template

/-- Where text may name variables, a text block mentions a variable only within an abandoned
stretch, and an abandoned stretch that mentions one is always left in a text block. Every name in
text outside blocks is a variable among the blocks. -/
theorem mentions_left_abandoned (template : Text) (blocks : List Block)
    (h : read true template = .ok blocks) :
    ((∃ text, .text text ∈ blocks ∧ text.Mentions) ↔
      ∃ stretch, .abandoned stretch ∈ (Regions.ofTemplate template).regions ∧
        Text.Mentions stretch) ∧
    (∀ before c after, .text (before ++ '$' :: c :: after) ∈ blocks → NameStart c →
      ∃ front back,
        .abandoned (front ++ '$' :: c :: back) ∈ (Regions.ofTemplate template).regions ∧
        front <:+ before ∧ back <+: after) ∧
    ∀ before name after,
      .plain (before ++ '$' :: (name ++ after)) ∈ (Regions.ofTemplate template).regions →
      (∃ c ∈ name.head?, NameStart c) → (∀ c ∈ name, NameChar c) →
      (∀ c ∈ after.head?, ¬ NameChar c) → .var name ∈ blocks := by
  obtain ⟨pieces, hpieces, -, rfl⟩ := exists_of_read_eq_ok h
  have hlocal (before : Text) (c : Char) (after : Text)
      (hmem : .text (before ++ '$' :: c :: after) ∈ Piece.blocks pieces) (hc : NameStart c) :
      ∃ front back,
        .abandoned (front ++ '$' :: c :: back) ∈ (Regions.ofTemplate template).regions ∧
        front <:+ before ∧ back <+: after := by
    have ordered := Regions.ordered_scan (.outside []) template
    have pieced := (Piece.pieced_list ordered (fun text hmem => hmem) hpieces).1
    exact (pieced.withLead _ hmem).exists_stretch rfl hc
  refine ⟨⟨?_, ?_⟩, hlocal, ?_⟩
  · rintro ⟨text, hmem, before, c, after, rfl, hc⟩
    obtain ⟨front, back, hstretch, -, -⟩ := hlocal before c after hmem hc
    exact ⟨_, hstretch, front, c, back, rfl, hc⟩
  · rintro ⟨stretch, hmem, hmentions⟩
    have hne : stretch ≠ [] := by
      rintro rfl
      obtain ⟨before, c, after, hnil, -⟩ := hmentions
      simp at hnil
    obtain ⟨place, first, hfirst, hsubset⟩ := Piece.exists_of_mem_list hpieces hmem
    cases hfirst
    obtain ⟨text, htext, hpart⟩ := Piece.exists_text_of_mem hne (hsubset List.mem_cons_self)
    exact ⟨text, htext, hmentions.of_part hpart⟩
  · intro before name after hmem hstart hname hstop
    obtain ⟨place, first, hfirst, hsubset⟩ := Piece.exists_of_mem_list hpieces hmem
    cases hfirst
    exact Piece.var_mem_blocks (hsubset (Piece.var_mem_inline hstart hname before hstop))

/-- The template `$b{{ $a {{x}}` mentions a variable in a text block, and has another among its
blocks. -/
theorem mentions_left_abandoned_beside : ∃ blocks,
    read true (['$', 'b'] ++ opener ++ " $a ".toList ++ opener ++ ['x'] ++ closer) = .ok blocks ∧
    (∃ text, .text text ∈ blocks ∧ text.Mentions) ∧ .var ['b'] ∈ blocks := by
  have hread : read true (['$', 'b'] ++ opener ++ " $a ".toList ++ opener ++ ['x'] ++ closer) =
      .ok [.var ['b'], .text (opener ++ " $a ".toList),
        .call ['x'] ⟨⟨none, ['x']⟩, none, []⟩] := by
    decide +kernel
  have hregions : (Regions.ofTemplate
      (['$', 'b'] ++ opener ++ " $a ".toList ++ opener ++ ['x'] ++ closer)).regions =
        [.plain ([] ++ '$' :: (['b'] ++ [])), .abandoned (opener ++ " $a ".toList),
          .closed ['x'], .plain []] := by
    decide +kernel
  have hname : Name ['b'] := isName_iff.mp rfl
  obtain ⟨hmentions, -, hvars⟩ := mentions_left_abandoned _ _ hread
  refine ⟨_, hread, hmentions.mpr ?_, hvars [] ['b'] [] ?_ ⟨'b', rfl, by decide⟩ hname.2 ?_⟩
  · rw [hregions]
    exact ⟨opener ++ " $a ".toList, by simp, opener ++ [' '], 'a', [' '], rfl, by decide⟩
  · rw [hregions]
    exact List.mem_cons_self
  · simp

/-- In `{{ $a {{x}}` the first pair of braces is given up, and what stood behind it is left in text
as it is, variable and all. -/
theorem mention_left_in_text :
    read true (opener ++ " $a ".toList ++ opener ++ ['x'] ++ closer) =
      .ok [.text (opener ++ " $a ".toList), .call ['x'] ⟨⟨none, ['x']⟩, none, []⟩] ∧
    Text.Mentions (opener ++ " $a ".toList) := by
  constructor
  · decide +kernel
  · exact ⟨opener ++ [' '], 'a', [' '], rfl, by decide⟩

end Template

end Stencil
