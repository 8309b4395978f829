import Stencil.Proofs.Expression.Places
import Stencil.Proofs.Expression.Spans
import Stencil.Proofs.Template.Refusals

/-! # Locating a fault

A refusal points into the template. For a block that is no expression it points at what is wrong
in the block, which is what is wrong with the inside of the block by itself, moved to where
the block stands. For a block that is never closed it points at all that follows its braces.
-/

namespace Stencil

/-! ## Closed blocks -/

/-- The leftmost closed block of a template that is no expression: what it holds less the blanks at
both ends, and at which byte that starts. -/
def Template.FirstFault (template : Text) (offset : Nat) (content : Text) : Prop :=
  ∃ before interior, Region.FirstFault (Regions.ofTemplate template).regions before interior ∧
    content = interior.trim ∧
    offset = Piece.contentStart (Text.byteLength (before.flatMap Region.source)) interior

namespace Template.FirstFault

variable {template content : Text} {offset : Nat}

theorem marks (fault : FirstFault template offset content) :
    (Span.mk offset content.byteLength).Marks template content := by
  obtain ⟨before, interior, ⟨-, -, after, hregions⟩, rfl, rfl⟩ := fault
  obtain ⟨trail, hinterior, -⟩ := Text.exists_trim interior
  have hinside : (Span.mk (Text.leadingBlanks interior).byteLength interior.trim.byteLength).Marks
      interior interior.trim := ⟨_, trail, hinterior, rfl⟩
  have htext : before.flatMap Region.source ++ opener ++ interior ++ (closer ++
      after.flatMap Region.source ++
        ((Regions.ofTemplate template).unclosed.map Unclosed.source).getD []) = template := by
    have hsource := Regions.source_ofTemplate template
    rw [Regions.source, hregions] at hsource
    simpa [Region.source] using hsource
  have hmoved := hinside.moved (before.flatMap Region.source ++ opener)
  rw [← htext, Piece.contentStart, ← Text.byteLength_append]
  exact hmoved _

/-- What the block holds is refused by itself, and the template is refused for the same cause at the
place to which that moves. -/
theorem exists_error (fault : FirstFault template offset content) :
    ∃ error, Expression.read content = .error error ∧ ∀ inlineVariables,
      read inlineVariables template = .error ⟨template, error.shift offset⟩ := by
  obtain ⟨before, interior, hfault, rfl, rfl⟩ := fault
  obtain ⟨error, herror⟩ : ∃ error, Expression.read interior.trim = .error error :=
    Expression.readAt_eq_error.mpr hfault.faulty
  refine ⟨error, herror, fun inlineVariables => read_of_error ?_⟩
  apply Piece.list_of_firstFault hfault
  rw [Nat.zero_add, ← Nat.add_zero (Piece.contentStart _ _), Expression.readAt_shift]
  exact congrArg (Except.mapError _) herror

end Template.FirstFault

/-! ## Blocks that are never closed -/

namespace Regions

/-- What a scan has seen of a block since its braces. -/
def Mode.inside? : Mode → Option Text
  | .outside _ => none
  | .inside seen => some seen
  | .quoted _ seen => some seen

/-- What is unclosed at the end of a scan starts with the braces that the scan met last: behind them
no block is begun anew and none is closed. -/
theorem exists_inside_of_unclosed {mode : Mode} {text : Text} {rest : Unclosed}
    (hmode : ∀ seen, mode.inside? = some seen →
      scan (.inside []) (seen.reverse ++ text) = scan mode text)
    (h : (scan mode text).unclosed = some rest) :
    ∃ inside, rest.source = opener ++ inside ∧ scan (.inside []) inside = ⟨[], some rest⟩ := by
  fun_induction scan mode text with
  | case1 => cases h
  | case4 seen | case10 quote seen =>
      cases h
      exact ⟨_, rfl, by simpa using hmode seen rfl⟩
  -- outside blocks nothing has been seen of one
  | case3 _ _ _ _ ih | case7 _ _ ih => exact ih (fun _ hseen => by cases hseen) h
  -- behind the braces of a block the scan is the one that starts there
  | case2 _ _ ih | case5 _ ih | case6 _ _ _ ih =>
      refine ih (fun seen hseen => ?_) h
      cases hseen
      rfl
  -- within a block one more character has been seen, or two
  | case8 _ _ _ _ _ _ _ _ ih | case9 _ _ _ _ _ _ _ ih | case11 _ _ _ _ _ ih
  | case12 _ _ _ _ _ ih | case13 _ _ _ _ ih | case14 _ _ _ _ _ _ ih =>
      refine ih (fun seen hseen => ?_) h
      cases hseen
      simpa using hmode _ rfl

end Regions

/-! ## Templates -/

namespace Template

variable {inlineVariables : Bool} {template : Text} {refusal : Refusal}

/-- A template is refused for the leftmost closed block that is no expression. If there is none, it
is refused for the block that is open at its end, from the braces of that block on. -/
theorem refused_at (h : read inlineVariables template = .error refusal) :
    (∃ offset content error, FirstFault template offset content ∧
      Expression.read content = .error error ∧ refusal = ⟨template, error.shift offset⟩) ∨
    (∀ offset content, ¬ FirstFault template offset content) ∧
      ∃ front inside rest, template = front ++ (opener ++ inside) ∧
        (Regions.ofTemplate template).unclosed = some rest ∧
        Regions.scan (.inside []) inside = ⟨[], some rest⟩ ∧
        refusal = ⟨template, rest.cause, front.byteLength, Text.byteLength (opener ++ inside)⟩ := by
  by_cases hfault : ∃ offset content, FirstFault template offset content
  · obtain ⟨offset, content, fault⟩ := hfault
    obtain ⟨error, herror, hread⟩ := fault.exists_error
    rw [hread] at h
    cases h
    exact .inl ⟨offset, content, error, fault, herror, rfl⟩
  · simp only [not_exists] at hfault
    refine .inr ⟨hfault, ?_⟩
    cases hpieces : Piece.list inlineVariables 0 (Regions.ofTemplate template).regions with
    | error error =>
        obtain ⟨before, interior, fault, -⟩ := Piece.exists_of_list_eq_error hpieces
        exact absurd ⟨before, interior, fault, rfl, rfl⟩ (hfault _ _)
    | ok pieces =>
        cases hunclosed : (Regions.ofTemplate template).unclosed with
        | none =>
            rw [read_of_closed hpieces hunclosed] at h
            cases h
        | some rest =>
            obtain ⟨inside, hrest, hscan⟩ :=
              Regions.exists_inside_of_unclosed (fun _ hseen => by cases hseen) hunclosed
            have hsource := Regions.source_ofTemplate template
            rw [Regions.source, hunclosed, Option.map_some, Option.getD_some, hrest] at hsource
            rw [read_of_unclosed hpieces hunclosed, hrest] at h
            cases h
            exact ⟨_, inside, rest, hsource.symm, rfl, hscan, rfl⟩

/-- A refusal names the whole template and points at some of its characters. For a closed block
these lie within what the leftmost block that is no expression holds, less the blanks at both ends.
If there is none, they are all that follows from the braces on that were scanned last, and the
template ends in the block or in a literal of it. -/
theorem refusal_points_at_fault (inlineVariables : Bool) (template : Text) (refusal : Refusal)
    (h : read inlineVariables template = .error refusal) :
    refusal.template = template ∧
    (1 ≤ refusal.error.span.length ∧ refusal.error.span.stop ≤ template.byteLength ∧
      template.Boundary refusal.error.span.start ∧ template.Boundary refusal.error.span.stop) ∧
    ((∃ offset content, FirstFault template offset content ∧
        (Span.mk offset content.byteLength).Marks template content ∧
        offset ≤ refusal.error.span.start ∧
        refusal.error.span.stop ≤ offset + content.byteLength) ∨
      (∀ offset content, ¬ FirstFault template offset content) ∧
        ∃ front inside rest, template = front ++ (opener ++ inside) ∧
          (Regions.ofTemplate template).unclosed = some rest ∧
          Regions.scan (.inside []) inside = ⟨[], some rest⟩ ∧
          refusal.error.cause = rest.cause ∧ refusal.error.span.start = front.byteLength ∧
          refusal.error.span.stop = template.byteLength) := by
  rcases refused_at h with ⟨offset, content, error, fault, herror, rfl⟩ |
    ⟨hsound, front, inside, rest, htext, hunclosed, hscan, rfl⟩
  · have hinside := Expression.within_of_read_eq_error herror
    obtain ⟨before, after, htext, hoffset⟩ := fault.marks
    obtain rfl : offset = before.byteLength := congrArg Span.start hoffset
    have hwithin := hinside.moved before after
    rw [← htext] at hwithin
    refine ⟨rfl, hwithin.bounds, .inl ⟨_, content, fault, fault.marks, ?_, ?_⟩⟩
    · exact Nat.le_add_right _ _
    · obtain ⟨-, hstop, -, -⟩ := hinside.bounds
      simp only [ParseError.shift, Span.shift, Span.stop] at hstop ⊢
      omega
  · have hwithin :
        (Span.mk front.byteLength (Text.byteLength (opener ++ inside))).Within template :=
      ⟨opener ++ inside, by simp [opener], front, [], by simp [htext], rfl⟩
    refine ⟨rfl, hwithin.bounds, .inr ⟨hsound, front, inside, rest, htext, hunclosed, hscan, rfl,
      rfl, ?_⟩⟩
    simp [htext, Span.stop]

/-- In `é{{ {{f}}{{ g $x é }}{{=` the refusal points at the second `é`, although a block is begun
anew in front of it and another one is open at the end. In `é{{f {{'é` it points at all that follows
from the second pair of braces on. -/
theorem refusal_points_at_fault_mixed : ∃ first second : Text,
    first = 'é' :: "\x7b\x7b \x7b\x7bf\x7d\x7d\x7b\x7b g $x ".toList ++
      'é' :: " \x7d\x7d\x7b\x7b=".toList ∧
    read true first = .error ⟨first, .bareArgument ['é'], 18, 2⟩ ∧
    (∃ offset content, FirstFault first offset content ∧
      (Span.mk offset content.byteLength).Marks first content ∧
      offset ≤ 18 ∧ 20 ≤ offset + content.byteLength) ∧
    second = 'é' :: "\x7b\x7bf \x7b\x7b'".toList ++ ['é'] ∧
    read false second = .error ⟨second, .unclosedLiteral, 6, 5⟩ ∧
    ∃ front inside rest, second = front ++ (opener ++ inside) ∧
      (Regions.ofTemplate second).unclosed = some rest ∧
      Regions.scan (.inside []) inside = ⟨[], some rest⟩ ∧ .unclosedLiteral = rest.cause ∧
      6 = front.byteLength ∧ 11 = second.byteLength := by
  let first := 'é' :: "\x7b\x7b \x7b\x7bf\x7d\x7d\x7b\x7b g $x ".toList ++
    'é' :: " \x7d\x7d\x7b\x7b=".toList
  let second := 'é' :: "\x7b\x7bf \x7b\x7b'".toList ++ ['é']
  have hfirst : read true first = .error ⟨first, .bareArgument ['é'], 18, 2⟩ := by decide +kernel
  have hsecond : read false second = .error ⟨second, .unclosedLiteral, 6, 5⟩ := by decide +kernel
  refine ⟨first, second, rfl, hfirst, ?_, rfl, hsecond, ?_⟩
  · obtain ⟨-, -, hclosed | ⟨-, _, _, rest, -, -, -, hcause, -⟩⟩ :=
      refusal_points_at_fault true first _ hfirst
    · exact hclosed
    · rw [Unclosed.cause] at hcause
      split at hcause <;> cases hcause
  · obtain ⟨-, -, ⟨_, _, ⟨before, interior, ⟨-, -, after, hregions⟩, -⟩, -⟩ | ⟨-, hopen⟩⟩ :=
      refusal_points_at_fault false second _ hsecond
    · have hplain : (Regions.ofTemplate second).regions =
          [.plain ['é'], .abandoned "\x7b\x7bf ".toList] := by decide +kernel
      have hmem : .closed interior ∈ (Regions.ofTemplate second).regions := by simp [hregions]
      simp [hplain] at hmem
    · exact hopen

/-- A stretch of a template is read as it is by itself, wherever it stands: the same expression
comes of it, or the same fault in the place to which that moves. So when a template is refused for a
closed block, it is refused for what the content of that block is refused for by itself, and
the place is moved to where the content starts. -/
theorem stretch_read_as_alone (template : Text) :
    (∀ span : Span, template.Boundary span.start → template.Boundary span.stop →
      ∃ part, span.Marks template part ∧ (∀ other, span.Marks template other → other = part) ∧
        (∀ expression, Expression.readAt span.start part = .ok expression ↔
          Expression.read part = .ok expression) ∧
        ∀ error, Expression.readAt span.start part = .error error ↔
          ∃ own, Expression.read part = .error own ∧ error.cause = own.cause ∧
            error.span = own.span.shift span.start) ∧
    ∀ offset content, FirstFault template offset content →
      (Span.mk offset content.byteLength).Marks template content ∧
      ∃ own, Expression.read content = .error own ∧
        ∀ inlineVariables, ∃ refusal, read inlineVariables template = .error refusal ∧
          refusal.template = template ∧ refusal.error.cause = own.cause ∧
          refusal.error.span = own.span.shift offset := by
  constructor
  · intro span hstart hstop
    obtain ⟨part, hmarks⟩ := Span.exists_marks hstart hstop
    have hread := Expression.readAt_shift span.start 0 part
    rw [Nat.add_zero] at hread
    refine ⟨part, hmarks, fun _ => hmarks.unique, fun expression => ?_, fun error => ?_⟩
    · rw [hread, Result.mapError_eq_ok]
      rfl
    · rw [hread, Result.mapError_eq_error_iff]
      constructor
      · rintro ⟨own, hown, rfl⟩
        exact ⟨own, hown, rfl, rfl⟩
      · rintro ⟨own, hown, hcause, hspan⟩
        obtain ⟨cause, place⟩ := error
        cases hcause
        cases hspan
        exact ⟨own, hown, rfl⟩
  · intro offset content fault
    obtain ⟨own, hown, hread⟩ := fault.exists_error
    exact ⟨fault.marks, own, hown, fun inlineVariables => ⟨_, hread inlineVariables, rfl, rfl, rfl⟩⟩

/-- The content `f $ü` of the block in `é{{ f $ü }}` starts at byte 5. By itself it is refused for
three bytes from byte 2 on, and so in the template for three bytes from byte 7 on. -/
theorem stretch_read_as_alone_behind : ∃ template content : Text,
    template = 'é' :: opener ++ [' '] ++ content ++ [' '] ++ closer ∧
    content = ['f', ' ', '$', 'ü'] ∧
    template.Boundary 5 ∧ template.Boundary 10 ∧ FirstFault template 5 content ∧
    Expression.read content = .error ⟨.invalidVariable ['ü'], 2, 3⟩ ∧
    Expression.readAt 5 content = .error ⟨.invalidVariable ['ü'], 7, 3⟩ ∧
    ∀ inlineVariables, read inlineVariables template =
      .error ⟨template, .invalidVariable ['ü'], 7, 3⟩ := by
  let content : Text := ['f', ' ', '$', 'ü']
  let template : Text := 'é' :: opener ++ [' '] ++ content ++ [' '] ++ closer
  have hread : Expression.read content = .error ⟨.invalidVariable ['ü'], 2, 3⟩ := by decide +kernel
  have hfault : FirstFault template 5 content := by
    refine ⟨[.plain ['é']], ' ' :: content ++ [' '], ⟨?_, by simp, [.plain []], ?_⟩, ?_, ?_⟩
    · exact Expression.readAt_eq_error.mp ⟨_, hread⟩
    all_goals decide +kernel
  have hmarks : (Span.mk 5 5).Marks template content :=
    ⟨'é' :: opener ++ [' '], ' ' :: closer, by decide, by decide⟩
  obtain ⟨hstretch, hblock⟩ := stretch_read_as_alone template
  refine ⟨template, content, rfl, rfl, hmarks.boundary_start, hmarks.boundary_stop, hfault, hread,
    ?_, fun inlineVariables => ?_⟩
  · obtain ⟨part, -, hunique, -, herror⟩ := hstretch ⟨5, 5⟩ hmarks.boundary_start
      hmarks.boundary_stop
    obtain rfl : content = part := hunique content hmarks
    exact (herror _).mpr ⟨_, hread, rfl, rfl⟩
  · obtain ⟨-, own, hown, hrefused⟩ := hblock 5 content hfault
    obtain ⟨⟨text, cause, span⟩, hrefusal, htext, hcause, hspan⟩ := hrefused inlineVariables
    rw [hread] at hown
    cases hown
    dsimp only at htext hcause hspan
    rw [hrefusal, htext, hcause, hspan]
    rfl

end Template

end Stencil
