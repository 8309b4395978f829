import Stencil.Proofs.Template.Names
import Stencil.Proofs.Template.Passing

/-! # Cutting a template in two

A template can be cut in two where no pair of opening braces and no name goes across. If
the part in front of the cut ends outside blocks, the scan of the whole goes on behind it as
if the other part stood alone: only the last stretch of text and the first one of the other
part become one.
-/

namespace Stencil

open Grammar

/-- A place between two texts that no pair of opening braces and no name goes across. -/
structure Text.SafeCut (first second : Text) : Prop where
  no_opener : ¬ (['{'] <:+ first ∧ ['{'] <+: second)
  no_name : ¬ (EndsInName first ∧ ∃ c ∈ second.head?, NameChar c)

namespace Regions

/-- The regions of a text that ends outside blocks, and those of the same text with more behind
it: the last stretch of text goes on with `front`, and then come the regions of `cut`. -/
def Extends (front : Text) (cut first joint : Regions) : Prop :=
  ∃ done last, first = ⟨done ++ [.plain last], none⟩ ∧
    joint = ⟨done ++ .plain (last ++ front) :: cut.regions, cut.unclosed⟩

theorem Extends.after {front : Text} {cut first joint : Regions}
    (h : Extends front cut first joint) (region : Region) :
    Extends front cut (first.after region) (joint.after region) := by
  obtain ⟨done, last, rfl, rfl⟩ := h
  exact ⟨region :: done, last, rfl, rfl⟩

/-- A scan that starts where a template must not end, and ends outside blocks, has something to
pass. -/
theorem ne_nil_of_closed {mode : Mode} {text : Text} (hclosed : (scan mode text).unclosed = none)
    (hopen : (scan mode []).unclosed.isSome = true) : text ≠ [] := by
  rintro rfl
  rw [hclosed] at hopen
  cases hopen

theorem scan_inside_char_append {c d : Char} {seen rest : Text} (hthird : seen = [] → c ≠ '{')
    (hopen : ∀ tail, c = '{' → d :: rest = '{' :: tail → False)
    (hclose : ∀ tail, c = '}' → d :: rest = '}' :: tail → False) (second : Text) :
    scan (.inside seen) (c :: (d :: rest ++ second)) =
      match Quote.ofChar? c with
      | some quote => scan (.quoted quote (c :: seen)) (d :: rest ++ second)
      | none => scan (.inside (c :: seen)) (d :: rest ++ second) :=
  Scanner.scan_inside_char hthird
    (fun h => hopen rest h.1 (congrArg (· :: rest) (Option.some.inj h.2)))
    (fun h => hclose rest h.1 (congrArg (· :: rest) (Option.some.inj h.2)))

/-- A scan that ends outside blocks goes on with what is behind the cut. The second text is
given by what its scan comes to after any text outside blocks. -/
theorem scan_append {second front : Text} {cut : Regions}
    (hplain : ∀ seen, scan (.outside seen) second = cut.after (.plain (seen.reverse ++ front)))
    {mode : Mode} {first : Text} (hclosed : (scan mode first).unclosed = none)
    (hcut : ¬ (['{'] <:+ first ∧ ['{'] <+: second)) :
    Extends front cut (scan mode first) (scan mode (first ++ second)) := by
  have hrest {c : Char} {rest : Text} (h : ¬ (['{'] <:+ c :: rest ∧ ['{'] <+: second)) :
      ¬ (['{'] <:+ rest ∧ ['{'] <+: second) :=
    fun hboth => h ⟨hboth.1.trans (List.suffix_cons c rest), hboth.2⟩
  fun_induction scan mode first with
  | case1 seen => exact ⟨[], seen.reverse, rfl, hplain seen⟩
  | case2 seen rest ih =>
      rw [List.cons_append, List.cons_append, scan]
      exact (ih hclosed (hrest (hrest hcut))).after _
  | case3 seen c rest hopen ih =>
      -- the next character may be the first one behind the cut
      have hopen : ¬ (c = '{' ∧ (rest ++ second).head? = some '{') := by
        rintro ⟨rfl, hhead⟩
        cases rest with
        | nil =>
            obtain ⟨after, rfl⟩ := List.head?_eq_some_iff.mp hhead
            exact hcut ⟨List.suffix_rfl, after, rfl⟩
        | cons d rest =>
            cases hhead
            exact hopen rest rfl rfl
      rw [List.cons_append, Scanner.scan_outside_cons hopen]
      exact ih hclosed (hrest hcut)
  | case4 seen => cases hclosed
  | case5 rest ih =>
      rw [List.cons_append, scan]
      exact (ih hclosed (hrest hcut)).after _
  | case6 seen rest hseen ih =>
      rw [List.cons_append, List.cons_append, Scanner.scan_inside_reopened hseen]
      exact (ih hclosed (hrest (hrest hcut))).after _
  | case7 seen rest ih =>
      rw [List.cons_append, List.cons_append, scan]
      exact (ih hclosed (hrest (hrest hcut))).after _
  | case8 seen c rest hthird hopen hclose quote hquote ih =>
      obtain ⟨d, rest, rfl⟩ := List.exists_cons_of_ne_nil (ne_nil_of_closed hclosed rfl)
      rw [List.cons_append, scan_inside_char_append hthird hopen hclose, hquote]
      exact ih hclosed (hrest hcut)
  | case9 seen c rest hthird hopen hclose hquote ih =>
      obtain ⟨d, rest, rfl⟩ := List.exists_cons_of_ne_nil (ne_nil_of_closed hclosed rfl)
      rw [List.cons_append, scan_inside_char_append hthird hopen hclose, hquote]
      exact ih hclosed (hrest hcut)
  | case10 => cases hclosed
  | case11 quote seen c rest hc ih =>
      rw [List.cons_append, List.cons_append, scan, if_pos hc]
      exact ih hclosed (hrest (hrest hcut))
  | case12 quote seen c rest hc ih =>
      rw [List.cons_append, List.cons_append, scan, if_neg hc]
      exact ih hclosed (hrest hcut)
  | case13 quote seen rest hpair ih =>
      obtain ⟨d, rest, rfl⟩ := List.exists_cons_of_ne_nil (ne_nil_of_closed hclosed rfl)
      rw [List.cons_append, Scanner.scan_quoted_char fun h => hpair d rest h.1 rfl, if_pos rfl]
      exact ih hclosed (hrest hcut)
  | case14 quote seen c rest hpair hquote ih =>
      obtain ⟨d, rest, rfl⟩ := List.exists_cons_of_ne_nil (ne_nil_of_closed hclosed rfl)
      rw [List.cons_append, Scanner.scan_quoted_char fun h => hpair d rest h.1 rfl, if_neg hquote]
      exact ih hclosed (hrest hcut)

/-- The regions of two texts with a safe cut between them, and those of the whole. -/
theorem exists_append {first second : Text}
    (hclosed : (ofTemplate first).unclosed = none) (hcut : first.SafeCut second) :
    ∃ (done : List Region) (last front : Text) (cut : Regions),
      ofTemplate first = ⟨done ++ [.plain last], none⟩ ∧
      ofTemplate second = cut.after (.plain front) ∧
      ofTemplate (first ++ second) =
        ⟨done ++ .plain (last ++ front) :: cut.regions, cut.unclosed⟩ ∧
      ¬ (last.EndsInName ∧ ∃ c ∈ front.head?, NameChar c) := by
  obtain ⟨front, cut, hplain, hhead, -⟩ := Scanner.exists_plain second
  obtain ⟨done, last, hfirst, hjoint⟩ := scan_append hplain hclosed hcut.no_opener
  refine ⟨done, last, front, cut, hfirst, hplain [], hjoint, ?_⟩
  rintro ⟨hlast, c, hc, hname⟩
  have hsource := source_ofTemplate first
  rw [ofTemplate, hfirst] at hsource
  have hsuffix : last <:+ first :=
    ⟨done.flatMap Region.source, by simpa [source, Region.source] using hsource⟩
  exact hcut.no_name ⟨hlast.of_suffix hsuffix, c, hhead c hc, hname⟩

end Regions

end Stencil
