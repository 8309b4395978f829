import Stencil.Proofs.Template.Walking

/-! # Walks over templates never break off

Whatever a template holds, a walk over it and over the expressions in it asks only for tokens that
there are, and cuts the template only between its characters. The places that it keeps are those
of texts which stand one behind the other before the current token, so none of them lies behind
the next one, and the braces that close a block stand behind those that opened it.
-/

namespace Stencil.Template

open Walker (contentStart)

/-- All that a walk asks for at the braces which close a block exists. -/
structure Walker.Closing (template : Text) (walker : Walker) (first last : Raw Kind)
    (interior : Text) : Prop where
  first_eq : (lexer.tokens 0 template)[walker.cursor]? = some first
  last_eq : (lexer.tokens 0 template)[walker.cursor + 1]? = some last
  /-- The text that waits can be cut off in front of the block. -/
  cuts_text : template.Cuts walker.textStart walker.blockStart
  cuts_interior : template.Cuts (walker.blockStart + opener.byteLength) first.start
  interior_eq :
    template.slice? (walker.blockStart + opener.byteLength) first.start = some interior
  cuts_content : template.Cuts (contentStart (walker.blockStart + opener.byteLength) interior)
    (contentStart (walker.blockStart + opener.byteLength) interior + interior.trim.byteLength)
  content_eq : template.slice? (contentStart (walker.blockStart + opener.byteLength) interior)
    (contentStart (walker.blockStart + opener.byteLength) interior + interior.trim.byteLength) =
      some interior.trim
  /-- The block can be kept as text, braces included. -/
  cuts_block : template.Cuts walker.blockStart last.stop

/-- All that a walk asks for where it stands exists. -/
structure Walker.Sound (inlineVariables : Bool) (template : Text) (walker : Walker) : Prop where
  cursor_le : walker.cursor ≤ (lexer.tokens 0 template).length
  boundary_textStart : template.Boundary walker.textStart
  boundary_blockStart : template.Boundary walker.blockStart
  textStart_le : walker.place ≠ .outside → walker.textStart ≤ walker.blockStart
  cuts_text : ∀ token ∈ (lexer.tokens 0 template)[walker.cursor]?,
    template.Cuts walker.textStart token.start
  closing : walker.place = .block →
    Walk.kind? (lexer.tokens 0 template) walker.cursor = some .closing →
    walker.Sees template .closing →
    ∃ first last interior, walker.Closing template first last interior
  lt_step : ∀ next, walker.step inlineVariables template = .ok next → walker.cursor < next.cursor
  step_ne_broken : walker.cursor < (lexer.tokens 0 template).length →
    walker.step inlineVariables template ≠ .error .broken

variable {inlineVariables : Bool} {template done rest : Text} {walker : Walker}
  {state : Scanner.State}

theorem Agree.boundary_textStart (agree : Agree done rest walker state) :
    done.Boundary walker.textStart := by
  cases agree with
  | outside hdone hblock => exact ⟨_, _, hdone, rfl⟩
  | block hdone hopened => exact ⟨_, _, hdone.trans (List.append_assoc _ _ _), rfl⟩
  | literal quote hdone => exact ⟨_, _, hdone.trans (List.append_assoc _ _ _), rfl⟩

theorem Agree.boundary_blockStart (agree : Agree done rest walker state) :
    done.Boundary walker.blockStart := by
  cases agree with
  | outside hdone hblock => exact hblock
  | block hdone hopened => exact ⟨_, _, hdone, rfl⟩
  | literal quote hdone => exact ⟨_, _, hdone, rfl⟩

theorem Agree.textStart_le (agree : Agree done rest walker state)
    (hplace : walker.place ≠ .outside) : walker.textStart ≤ walker.blockStart := by
  cases agree with
  | outside hdone hblock => exact absurd rfl hplace
  | block hdone hopened =>
      rw [Text.byteLength_append]
      exact Nat.le_add_right _ _
  | literal quote hdone =>
      rw [Text.byteLength_append]
      exact Nat.le_add_right _ _

/-- Where two braces close a block, two braces before them have opened it. -/
theorem Follows.closing (follows : Follows template done rest walker state)
    (hplace : walker.place = .block)
    (hkind : Walk.kind? (lexer.tokens 0 template) walker.cursor = some .closing)
    (hsees : walker.Sees template .closing) :
    ∃ first last interior, walker.Closing template first last interior := by
  obtain ⟨stands, agree⟩ := follows
  obtain ⟨c, more, rfl, hc⟩ := (kind?_eq_some_iff stands).mp hkind
  obtain ⟨rfl, hhead⟩ := (pair_iff .closing rfl stands).mp ⟨hc, hsees⟩
  obtain ⟨behind, rfl⟩ := List.head?_eq_some_iff.mp hhead
  have next : lexer.Stands template (walker.cursor + 1) (done ++ ['}']) ('}' :: behind) :=
    behind_single rfl stands
  have hsource : lexer.source '}' behind = ['}'] := (lexer_single rfl).1
  cases agree with
  | outside hdone hblock => cases hplace
  | literal quote hdone => cases hplace
  | @block cursor blocks front pending scanned hdone hopened =>
      cases hopened with
      | full interior =>
          have hall : done ++ ['}'] ++ lexer.source '}' behind =
              front ++ pending ++ (opener ++ interior ++ closer) := by
            rw [hsource, hdone]
            simp only [List.append_assoc]
            rfl
          have htemplate : template =
              front ++ pending ++ (opener ++ interior ++ closer) ++ behind := by
            rw [← hall, hsource]
            simp only [List.append_assoc]
            exact stands.text_eq
          have hinterior : template.slice? ((front ++ pending).byteLength + opener.byteLength)
              done.byteLength = some interior := by
            rw [hdone]
            exact slice_interior htemplate
          have hcontent := slice_content htemplate
          exact ⟨_, _, interior, {
            first_eq := stands.token_eq
            last_eq := next.token_eq
            cuts_text := Text.cuts_of_eq (htemplate.trans (List.append_assoc _ _ _)) rfl rfl
            cuts_interior := Text.exists_slice?_iff.mp ⟨interior, hinterior⟩
            interior_eq := hinterior
            cuts_content := Text.exists_slice?_iff.mp ⟨interior.trim, hcontent⟩
            content_eq := hcontent
            cuts_block := Text.cuts_of_eq htemplate rfl (congrArg Text.byteLength hall) }⟩

/-- All that a walk asks for exists, wherever it comes to. -/
theorem sound_of_reaches (reaches : Walker.Reaches inlineVariables template walker) :
    walker.Sound inlineVariables template := by
  obtain ⟨done, rest, state, follows⟩ := exists_follows reaches
  have hsplit := follows.stands.text_eq
  exact {
    cursor_le := follows.stands.index_le
    boundary_textStart := by
      rw [hsplit]
      exact follows.agree.boundary_textStart.append rest
    boundary_blockStart := by
      rw [hsplit]
      exact follows.agree.boundary_blockStart.append rest
    textStart_le := follows.agree.textStart_le
    cuts_text := by
      intro token htoken
      obtain ⟨c, rest, rfl⟩ := follows.stands.exists_cons (List.getElem?_eq_some_iff.mp htoken).1
      rw [follows.stands.token_eq] at htoken
      obtain rfl := Option.some.inj htoken
      rw [hsplit]
      exact follows.agree.boundary_textStart.cuts (c :: rest)
    closing := follows.closing
    lt_step := fun next hstep => Walker.lt_step hstep
    step_ne_broken := by
      intro hlt hbroken
      obtain ⟨c, rest, rfl⟩ := follows.stands.exists_cons hlt
      rcases follows.keeps inlineVariables with ⟨error, hstep, -⟩ | ⟨next, _, _, _, hstep, -⟩
      · rw [hbroken] at hstep
        cases hstep
      · rw [hbroken] at hstep
        cases hstep }

/-- A name can be cut off behind the character that it starts with. -/
theorem cuts_name {token : Raw Kind} (htoken : token ∈ lexer.tokens 0 template)
    (hkind : token.kind = .var) : template.Cuts (token.start + '$'.utf8Size) token.stop := by
  obtain ⟨done, c, rest, htemplate, rfl⟩ := lexer.exists_of_mem_tokens htoken
  have hkind : Kind.ofChar c rest = .var := hkind
  obtain ⟨rfl, -⟩ := Kind.ofChar_var_iff.mp hkind
  obtain ⟨hsplit, hfirst, hlast, -⟩ := split_name hkind htemplate
  exact Text.cuts_of_eq hsplit hfirst (congrArg Text.byteLength hlast)

/-- No walk over a template or over an expression in it breaks off: it comes to what is read, and
everything that it asks for on the way exists. -/
theorem walk_never_breaks (inlineVariables : Bool) (template : Text) :
    walk inlineVariables template =
        (read inlineVariables template).mapError (fun refusal => .refused refusal.error) ∧
      walk inlineVariables template ≠ .error .broken ∧
      (∀ walker, Walker.Reaches inlineVariables template walker →
        walker.Sound inlineVariables template) ∧
      (∀ token ∈ lexer.tokens 0 template, token.start < token.stop ∧
        template.Cuts token.start token.stop ∧
        (token.kind = .var → template.Cuts (token.start + '$'.utf8Size) token.stop)) ∧
      (∀ start stop content, template.slice? start stop = some content →
        ∃ ground, Expression.groundAt template start stop = .ok ground ∧ ground.Sound ∧
          Expression.walkAt template start stop =
            (Expression.readAt start content).mapError Halt.refused) ∧
      ∀ literal : Literal,
        Walk.cut literal.content literal.quote.char.utf8Size
          (literal.content.byteLength - literal.quote.char.utf8Size) = .ok literal.value := by
  have hwalk := walk_eq inlineVariables template
  refine ⟨?_, ?_, fun walker reaches => sound_of_reaches reaches, ?_,
    fun start stop content h => Expression.exists_sound_of_slice h,
    fun literal => literal.quote.cut_eq literal.value⟩
  · rw [hwalk, read]
    cases ofRegions inlineVariables (Regions.ofTemplate template) <;> rfl
  · rw [hwalk]
    cases ofRegions inlineVariables (Regions.ofTemplate template) <;> simp [Except.mapError]
  · intro token htoken
    obtain ⟨hlt, cuts⟩ := lexer.cuts_of_mem_tokens htoken
    exact ⟨hlt, cuts, cuts_name htoken⟩

/-- Of four opening braces the last two open the block that is closed. -/
theorem walk_never_breaks_reopened :
    let template := ['é', '{', '{', '{', '{', 'f', '}', '}']
    let walker : Walker := ⟨6, 0, 4, .block, []⟩
    Walker.Reaches false template walker ∧
      ∃ first last interior, walker.Closing template first last interior := by
  intro template walker
  have text : Walker.Reaches false template ⟨1, 0, 0, .outside, []⟩ :=
    .step .initial (by decide +kernel) (by decide +kernel)
  have opened : Walker.Reaches false template ⟨2, 0, 2, .block, []⟩ :=
    .step text (by decide +kernel) (by decide +kernel)
  have reopened : Walker.Reaches false template ⟨3, 0, 3, .block, []⟩ :=
    .step opened (by decide +kernel) (by decide +kernel)
  have last : Walker.Reaches false template ⟨4, 0, 4, .block, []⟩ :=
    .step reopened (by decide +kernel) (by decide +kernel)
  have inside : Walker.Reaches false template ⟨5, 0, 4, .block, []⟩ :=
    .step last (by decide +kernel) (by decide +kernel)
  have reaches : Walker.Reaches false template walker :=
    .step inside (by decide +kernel) (by decide +kernel)
  have sound := (walk_never_breaks false template).2.2.1 walker reaches
  exact ⟨reaches, sound.closing rfl (by decide +kernel) (by decide +kernel)⟩

end Stencil.Template
