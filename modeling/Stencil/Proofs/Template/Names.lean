import Stencil.Proofs.Template.Remainder

/-! # Names in text

In text outside blocks a `$` with a name behind it is a variable, and the name goes as far
as it can. So such text is taken apart from the left into variables and single characters,
and an induction over it has one case for either. Two texts are taken apart on their own if
no name goes across the place between them.
-/

namespace Stencil

open Grammar

/-- A text that ends with a `$` and characters of names behind it, as many as there are. -/
def Text.EndsInName (text : Text) : Prop :=
  ∃ before name, text = before ++ '$' :: name ∧ ∀ c ∈ name, NameChar c

theorem Text.EndsInName.of_suffix {text longer : Text} (h : text.EndsInName)
    (hsuffix : text <:+ longer) : longer.EndsInName := by
  obtain ⟨before, name, rfl, hname⟩ := h
  obtain ⟨front, rfl⟩ := hsuffix
  exact ⟨front ++ before, name, (List.append_assoc _ _ _).symm, hname⟩

namespace Piece

theorem startsName_of_head {text : Text} (h : ∀ c ∈ text.head?, ¬ NameChar c) :
    startsName text = false := by
  cases text with
  | nil => rfl
  | cons c rest =>
      by_contra hstart
      rw [Bool.not_eq_false] at hstart
      exact h c rfl (isNameChar_iff.mp (isNameChar_of_isNameStart hstart))

theorem startsName_append {text : Text} (hne : text ≠ []) (more : Text) :
    startsName (text ++ more) = startsName text := by
  obtain ⟨c, rest, rfl⟩ := List.exists_cons_of_ne_nil hne
  rfl

/-- Where a name starts, it ends before the first character that names do not have. -/
theorem name_span {text : Text} (hstart : startsName text = true) :
    startsName (text.takeWhile isNameChar) = true ∧
      (∀ c ∈ text.takeWhile isNameChar, NameChar c) ∧
      ∀ c ∈ (text.dropWhile isNameChar).head?, ¬ NameChar c := by
  refine ⟨?_, ?_, ?_⟩
  · obtain ⟨c, rest, hc, htake⟩ := takeWhile_of_startsName hstart
    rw [htake]
    exact hc
  · intro c hc
    exact isNameChar_iff.mp (List.mem_takeWhile_imp hc)
  · intro c hc hname
    have hfirst := List.head?_dropWhile_not isNameChar text
    rw [Option.mem_def.mp hc] at hfirst
    have hother : isNameChar c = false := hfirst
    rw [isNameChar_iff.mpr hname] at hother
    cases hother

/-- A whole name behind a `$` is a variable. -/
theorem inline_name {name rest : Text} (hstart : startsName name = true)
    (hname : ∀ c ∈ name, NameChar c) (hstop : ∀ c ∈ rest.head?, ¬ NameChar c) :
    inline ('$' :: (name ++ rest)) = .block (.var name) :: inline rest := by
  have hne : name ≠ [] := by
    rintro rfl
    cases hstart
  have hrun : ∀ c ∈ name, isNameChar c = true := fun c hc => isNameChar_iff.mpr (hname c hc)
  have hother : ∀ c ∈ rest.head?, isNameChar c = false := by
    intro c hc
    rw [← Bool.not_eq_true, isNameChar_iff]
    exact hstop c hc
  obtain ⟨htake, hdrop⟩ := Lexeme.span_append hrun hother
  rw [inline, startsName_append hne, hstart, htake, hdrop]
  rfl

/-- Text outside blocks, taken apart from the left: whole names behind a `$`, and other
characters one by one. -/
@[elab_as_elim]
theorem inline_induction {motive : Text → Prop} (nil : motive [])
    (name : ∀ name rest, startsName name = true → (∀ c ∈ name, NameChar c) →
      (∀ c ∈ rest.head?, ¬ NameChar c) → motive rest → motive ('$' :: (name ++ rest)))
    (char : ∀ c rest, ¬ (c = '$' ∧ startsName rest = true) → motive rest → motive (c :: rest))
    (text : Text) : motive text := by
  induction text using inline.induct with
  | case1 => exact nil
  | case2 c rest hdollar ih =>
      obtain ⟨hc, hstart⟩ := Bool.and_eq_true_iff.mp hdollar
      obtain rfl := beq_iff_eq.mp hc
      obtain ⟨hfirst, hname, hstop⟩ := name_span hstart
      have hwhole := name _ _ hfirst hname hstop ih
      rwa [List.takeWhile_append_dropWhile] at hwhole
  | case3 c rest hdollar ih =>
      refine char c rest (fun h => hdollar ?_) ih
      rw [h.1, h.2]
      rfl

/-- The blocks of a text outside blocks are variables, each with a name. -/
theorem exists_var_of_mem_inline {text : Text} {block : Block}
    (h : .block block ∈ inline text) : ∃ name, Name name ∧ block = .var name := by
  induction text using inline_induction with
  | nil =>
      rw [inline] at h
      cases h
  | name name rest hstart hname hstop ih =>
      rw [inline_name hstart hname hstop] at h
      rcases List.mem_cons.mp h with hblock | hrest
      · cases hblock
        have hne : name ≠ [] := by
          rintro rfl
          cases hstart
        exact ⟨name, ⟨hne, hname⟩, rfl⟩
      · exact ih hrest
  | char c rest hdollar ih =>
      rw [Scanner.Piece.inline_cons hdollar] at h
      rcases List.mem_cons.mp h with hblock | hrest
      · cases hblock
      · exact ih hrest

/-- Where no name goes across the cut, the names of both texts are those of the whole. -/
theorem inline_append {first second : Text}
    (hcut : ¬ (first.EndsInName ∧ ∃ c ∈ second.head?, NameChar c)) :
    inline (first ++ second) = inline first ++ inline second := by
  have hsuffix {rest longer : Text} (hrest : rest <:+ longer)
      (hlonger : ¬ (longer.EndsInName ∧ ∃ c ∈ second.head?, NameChar c)) :
      ¬ (rest.EndsInName ∧ ∃ c ∈ second.head?, NameChar c) :=
    fun h => hlonger ⟨h.1.of_suffix hrest, h.2⟩
  induction first using inline_induction with
  | nil =>
      rw [inline]
      rfl
  | name name rest hstart hname hstop ih =>
      have hmore : ∀ c ∈ (rest ++ second).head?, ¬ NameChar c := by
        cases rest with
        | nil =>
            intro c hc hchar
            rw [List.append_nil] at hcut
            exact hcut ⟨⟨[], name, rfl, hname⟩, c, hc, hchar⟩
        | cons d rest => exact hstop
      have htail : rest <:+ '$' :: (name ++ rest) :=
        (List.suffix_append name rest).trans (List.suffix_cons _ _)
      rw [inline_name hstart hname hstop, List.cons_append, List.append_assoc,
        inline_name hstart hname hmore, ih (hsuffix htail hcut)]
      rfl
  | char c rest hdollar ih =>
      have hmore : ¬ (c = '$' ∧ startsName (rest ++ second) = true) := by
        rintro ⟨rfl, hstart⟩
        cases rest with
        | nil =>
            have hhead : ∀ d ∈ second.head?, ¬ NameChar d :=
              fun d hd hchar => hcut ⟨⟨[], [], rfl, List.forall_mem_nil _⟩, d, hd, hchar⟩
            rw [List.nil_append, startsName_of_head hhead] at hstart
            cases hstart
        | cons d rest => exact hdollar ⟨rfl, hstart⟩
      rw [Scanner.Piece.inline_cons hdollar, List.cons_append, Scanner.Piece.inline_cons hmore,
        ih (hsuffix (List.suffix_cons c rest) hcut)]
      rfl

end Piece

end Stencil
