import Stencil.Proofs.Expression.Walking
import Stencil.Proofs.Template.Simulation
import Stencil.Proofs.Template.Walker

/-! # Walks over templates come to what is read

A walk keeps places where the scanner keeps the texts that stand between them. Each step of a walk
goes over one or two tokens, for which the scanner takes a step for every character. So the walk
ends with the blocks that are read, or with the same refusal, and every place that it keeps lies
between two characters of the template.
-/

namespace Stencil

open Template (Kind)

/-! ## Characters that are no tokens of their own -/

theorem Template.Kind.isPlain_iff {c : Char} :
    Kind.isPlain c = true ↔ c ≠ '{' ∧ c ≠ '}' ∧ c ≠ '\\' ∧ c ≠ '$' ∧ Quote.ofChar? c = none := by
  simp [isPlain, and_assoc]

theorem Template.Kind.isPlain_of_isNameChar {c : Char} (hc : isNameChar c = true) :
    Kind.isPlain c = true := by
  have hne {d : Char} (hd : isNameChar d = false) : c ≠ d := by
    rintro rfl
    rw [hc] at hd
    cases hd
  refine isPlain_iff.mpr ⟨hne rfl, hne rfl, hne rfl, hne rfl, ?_⟩
  rw [Quote.ofChar?, if_neg (hne rfl), if_neg (hne rfl)]

theorem Quote.isEscapable_char (quote : Quote) : Text.isEscapable quote.char = true := by
  cases quote <;> rfl

namespace Scanner.State

variable {inlineVariables : Bool}

/-- The state behind some text in which nothing happens. -/
def extend (state : State) (run : Text) : State :=
  match state.place with
  | .outside => ⟨state.offset + run.byteLength, state.blocks, state.pending ++ run, .outside⟩
  | .block scanned => { state with place := .block (scanned ++ run) }
  | .literal quote scanned => { state with place := .literal quote (scanned ++ run) }

theorem extend_nil (state : State) : state.extend [] = state := by
  obtain ⟨offset, blocks, pending, place⟩ := state
  cases place <;> simp [extend]

theorem extend_append (state : State) (first second : Text) :
    (state.extend first).extend second = state.extend (first ++ second) := by
  obtain ⟨offset, blocks, pending, place⟩ := state
  cases place <;> simp [extend, Nat.add_assoc]

theorem step_plain (state : State) {c : Char} (hc : Kind.isPlain c = true) (rest : Text) :
    state.step inlineVariables c rest = .ok (state.extend [c], rest) := by
  obtain ⟨hopening, hclosing, hslash, hdollar, hquote⟩ := Kind.isPlain_iff.mp hc
  obtain ⟨offset, blocks, pending, place⟩ := state
  cases place with
  | outside => simp [step, extend, hopening, hdollar]
  | block scanned => simp [step, extend, hopening, hclosing, hquote]
  | literal quote scanned =>
      have hend : c ≠ quote.char := by
        rintro rfl
        rw [Quote.ofChar?_char] at hquote
        cases hquote
      simp [step, extend, hslash, hend]

/-- In plain text nothing happens. -/
theorem run_plain (state : State) {run : Text} (hrun : ∀ c ∈ run, Kind.isPlain c = true)
    (rest : Text) :
    state.run inlineVariables (run ++ rest) = (state.extend run).run inlineVariables rest := by
  induction run generalizing state with
  | nil => rw [extend_nil, List.nil_append]
  | cons c run ih =>
      obtain ⟨hc, hrun⟩ := List.forall_mem_cons.mp hrun
      rw [List.cons_append, run_cons_ok (step_plain state hc _), ih _ hrun, extend_append,
        List.singleton_append]

theorem step_closing (offset : Nat) (blocks : List Block) (pending inside rest : Text) :
    step inlineVariables ⟨offset, blocks, pending, .block (opener ++ inside)⟩ '}' ('}' :: rest) =
      (closed offset inside).map fun block =>
        (⟨offset + (opener ++ inside ++ closer).byteLength,
          (if pending = [] then blocks else blocks ++ [.text pending]) ++ [block], [], .outside⟩,
          rest) := by
  unfold step
  dsimp only
  rw [if_neg fun h => by simp at h, if_pos ⟨rfl, rfl⟩, List.drop_left]
  rfl

end Scanner.State

namespace Template

variable {c : Char} {rest : Text}

/-! ## Tokens by their first character -/

namespace Kind

/-- The character that is a token of the kind wherever it stands, if there is one. -/
def char? : Kind → Option Char
  | opening => some '{'
  | closing => some '}'
  | quote q => some q.char
  | backslash => some '\\'
  | _ => none

theorem ofChar_eq_iff (kind : Kind) {d : Char} (hkind : kind.char? = some d) :
    ofChar c rest = kind ↔ c = d := by
  unfold ofChar Quote.ofChar?
  cases kind with
  | quote q => cases q <;> grind [char?, Quote.char]
  | _ => grind [char?]

theorem continues_of_char? {kind : Kind} {d : Char} (hkind : kind.char? = some d) :
    kind.continues = fun _ => false := by
  cases kind with
  | opening | closing | quote q | backslash => rfl
  | _ => cases hkind

theorem ofChar_var_iff :
    ofChar c rest = var ↔ c = '$' ∧ rest.head?.any isNameStart = true := by
  unfold ofChar
  grind

theorem isEscapable_ofChar (c : Char) (rest : Text) :
    (ofChar c rest).isEscapable = Text.isEscapable c := by
  unfold ofChar Quote.ofChar? Text.isEscapable
  grind [isEscapable]

theorem isPlain_of_mem_takeWhile {d : Char} (hd : d ∈ rest.takeWhile (ofChar c rest).continues) :
    isPlain d = true := by
  have h := List.mem_takeWhile_imp hd
  cases hkind : ofChar c rest with
  | var =>
      rw [hkind] at h
      exact isPlain_of_isNameChar h
  | text =>
      rw [hkind] at h
      exact h
  | _ =>
      rw [hkind] at h
      cases h

end Kind

/-- A brace, a quote or a backslash is a token of one character. -/
theorem lexer_single (h : (Kind.ofChar c rest).continues = fun _ => false) :
    lexer.source c rest = [c] ∧ lexer.after c rest = rest := by
  have hsource : lexer.source c rest = c :: rest.takeWhile (Kind.ofChar c rest).continues := rfl
  have hafter : lexer.after c rest = rest.dropWhile (Kind.ofChar c rest).continues := rfl
  rw [hsource, hafter, h]
  cases rest with
  | nil => exact ⟨rfl, rfl⟩
  | cons d rest => exact ⟨rfl, rfl⟩

variable {template done : Text} {index : Nat} {walker : Walker}

theorem kind?_eq_some_iff {kind : Kind} (stands : lexer.Stands template index done rest) :
    Walk.kind? (lexer.tokens 0 template) index = some kind ↔
      ∃ c more, rest = c :: more ∧ Kind.ofChar c more = kind := by
  rw [Walk.kind?, stands.getElem?_eq]
  cases rest with
  | nil => simp [Lexer.tokens]
  | cons c rest =>
      rw [Lexer.tokens]
      simp only [List.head?_cons, Option.map_some, Option.some.injEq]
      constructor
      · intro h
        exact ⟨c, rest, rfl, h⟩
      · rintro ⟨_, _, heq, h⟩
        cases heq
        exact h

/-- Behind a token of one character stands the token of the next one. -/
theorem behind_single (hsingle : (Kind.ofChar c rest).continues = fun _ => false)
    (stands : lexer.Stands template index done (c :: rest)) :
    lexer.Stands template (index + 1) (done ++ [c]) rest := by
  obtain ⟨hsource, hafter⟩ := lexer_single hsingle
  have hnext := stands.next
  rw [hsource, hafter] at hnext
  exact hnext

theorem behind_escapable (hc : Text.isEscapable c = true)
    (stands : lexer.Stands template index done (c :: rest)) :
    lexer.Stands template (index + 1) (done ++ [c]) rest := by
  rw [← Kind.isEscapable_ofChar c rest] at hc
  refine behind_single ?_ stands
  cases hkind : Kind.ofChar c rest with
  | quote q => rfl
  | backslash => rfl
  | _ =>
      rw [hkind] at hc
      cases hc

/-- A walk is at two tokens of a kind if the character of the kind stands there twice. -/
theorem pair_iff (kind : Kind) {d : Char} (hkind : kind.char? = some d)
    (stands : lexer.Stands template walker.cursor done (c :: rest)) :
    Kind.ofChar c rest = kind ∧ walker.Sees template kind ↔ c = d ∧ rest.head? = some d := by
  rw [Kind.ofChar_eq_iff kind hkind]
  refine and_congr_right ?_
  rintro rfl
  have hsingle : (Kind.ofChar c rest).continues = fun _ => false := by
    rw [(Kind.ofChar_eq_iff kind hkind).mpr rfl, Kind.continues_of_char? hkind]
  rw [Walker.Sees, kind?_eq_some_iff (behind_single hsingle stands), List.head?_eq_some_iff]
  simp only [Kind.ofChar_eq_iff kind hkind]
  constructor
  · rintro ⟨_, more, heq, rfl⟩
    exact ⟨more, heq⟩
  · rintro ⟨more, heq⟩
    exact ⟨c, more, heq, rfl⟩

/-- A walk is at a backslash before what it stands for. -/
theorem escapes_iff (stands : lexer.Stands template walker.cursor done (c :: rest)) :
    Kind.ofChar c rest = .backslash ∧ (Walk.kind? (lexer.tokens 0 template)
        (walker.cursor + 1)).any Kind.isEscapable = true ↔
      c = '\\' ∧ rest.head?.any Text.isEscapable = true := by
  rw [Kind.ofChar_eq_iff .backslash rfl]
  refine and_congr_right ?_
  rintro rfl
  have behind := behind_single rfl stands
  rw [Walk.kind?, behind.getElem?_eq]
  cases rest with
  | nil => simp [Lexer.tokens]
  | cons d more =>
      have hkind : lexer.kind d more = Kind.ofChar d more := rfl
      simp [Lexer.tokens, hkind, Kind.isEscapable_ofChar]

/-! ## Where a walk and a scan stand -/

/-- The text since the braces that opened a block, of which the second one may still be ahead. -/
inductive Opened : Text → Text → Prop where
  | half (rest : Text) : Opened ['{'] ('{' :: rest)
  | full (inside rest : Text) : Opened (opener ++ inside) rest

/-- A walk keeps the places between which a scan keeps the text. -/
inductive Agree (done rest : Text) : Walker → Scanner.State → Prop where
  | outside {cursor blockStart : Nat} {blocks : List Block} {front pending : Text}
      (hdone : done = front ++ pending) (hblock : done.Boundary blockStart) :
      Agree done rest ⟨cursor, front.byteLength, blockStart, .outside, blocks⟩
        ⟨done.byteLength, blocks, pending, .outside⟩
  | block {cursor : Nat} {blocks : List Block} {front pending scanned : Text}
      (hdone : done = front ++ pending ++ scanned) (hopened : Opened scanned rest) :
      Agree done rest
        ⟨cursor, front.byteLength, (front ++ pending).byteLength, .block, blocks⟩
        ⟨(front ++ pending).byteLength, blocks, pending, .block scanned⟩
  | literal {cursor : Nat} {blocks : List Block} {front pending inside : Text} (quote : Quote)
      (hdone : done = front ++ pending ++ (opener ++ inside)) :
      Agree done rest
        ⟨cursor, front.byteLength, (front ++ pending).byteLength, .literal quote, blocks⟩
        ⟨(front ++ pending).byteLength, blocks, pending, .literal quote (opener ++ inside)⟩

/-- A walk over a template stands where a scan stands, which has still the rest to go over. -/
structure Follows (template done rest : Text) (walker : Walker) (state : Scanner.State) : Prop where
  stands : lexer.Stands template walker.cursor done rest
  agree : Agree done rest walker state

/-- A step of a walk leads to a refusal that the scan comes to, or to where it stands later. -/
def Keeps (inlineVariables : Bool) (template rest : Text) (walker : Walker)
    (state : Scanner.State) : Prop :=
  (∃ error, walker.step inlineVariables template = .error (.refused error) ∧
    state.run inlineVariables rest = .error error) ∨
  ∃ next state' past left, walker.step inlineVariables template = .ok next ∧
    Follows template past left next state' ∧
    state.run inlineVariables rest = state'.run inlineVariables left ∧ left.length < rest.length

theorem Opened.append {scanned run left : Text} (opened : Opened scanned (c :: rest)) :
    Opened (scanned ++ c :: run) left := by
  cases opened with
  | half => exact .full run left
  | full inside =>
      rw [List.append_assoc]
      exact .full (inside ++ c :: run) left

/-- Nothing happens on either side. -/
theorem Agree.extend {run left : Text} {state : Scanner.State}
    (agree : Agree done (c :: rest) walker state) :
    Agree (done ++ c :: run) left (walker.pass 1) (state.extend (c :: run)) := by
  cases agree with
  | outside hdone hblock =>
      have hoffset := (Text.byteLength_append done (c :: run)).symm
      simp only [Scanner.State.extend, hoffset]
      exact .outside (by rw [hdone, List.append_assoc]) (hblock.append _)
  | block hdone hopened =>
      refine .block ?_ hopened.append
      rw [hdone, List.append_assoc]
  | literal quote hdone =>
      simp only [Scanner.State.extend, List.append_assoc]
      refine .literal quote ?_
      rw [hdone]
      simp only [List.append_assoc]

section

variable {inlineVariables : Bool} {state : Scanner.State}

theorem step_eq (inlineVariables : Bool)
    (stands : lexer.Stands template walker.cursor done (c :: rest)) :
    walker.step inlineVariables template =
      match walker.place with
      | .outside => walker.stepOutside inlineVariables template
          ⟨Kind.ofChar c rest, done.byteLength, (done ++ lexer.source c rest).byteLength⟩
      | .block => walker.stepBlock template
          ⟨Kind.ofChar c rest, done.byteLength, (done ++ lexer.source c rest).byteLength⟩
      | .literal quote => .ok (walker.stepLiteral template quote
          ⟨Kind.ofChar c rest, done.byteLength, (done ++ lexer.source c rest).byteLength⟩) := by
  rw [Walker.step, Walk.token_eq stands.token_eq]
  cases walker.place <;> rfl

/-- A token that is passed over is text to the scan. -/
theorem Follows.keeps_pass (follows : Follows template done (c :: rest) walker state)
    (hwalk : walker.step inlineVariables template = .ok (walker.pass 1))
    (hscan : state.step inlineVariables c rest = .ok (state.extend [c], rest)) :
    Keeps inlineVariables template (c :: rest) walker state := by
  have hsource : lexer.source c rest =
    c :: rest.takeWhile (Kind.ofChar c rest).continues := rfl
  have hrest : rest = rest.takeWhile (Kind.ofChar c rest).continues ++ lexer.after c rest :=
    List.takeWhile_append_dropWhile.symm
  refine .inr ⟨walker.pass 1, state.extend (lexer.source c rest), done ++ lexer.source c rest,
    lexer.after c rest, hwalk, ⟨follows.stands.next, ?_⟩, ?_,
    Nat.lt_succ_of_le (lexer.length_after_le c rest)⟩
  · rw [hsource]
    exact follows.agree.extend
  · have hplain : ∀ d ∈ rest.takeWhile (Kind.ofChar c rest).continues, Kind.isPlain d = true :=
      fun d hd => Kind.isPlain_of_mem_takeWhile hd
    have hrun := @Scanner.State.run_plain inlineVariables (state.extend [c]) _ hplain
      (lexer.after c rest)
    rw [← hrest, Scanner.State.extend_append] at hrun
    rw [Scanner.State.run_cons_ok hscan, hrun]
    rfl

/-! ## Blocks -/

theorem flush_eq {front pending behind : Text} {stop : Nat}
    (htemplate : template = front ++ pending ++ behind)
    (htext : walker.textStart = front.byteLength) (hstop : stop = (front ++ pending).byteLength) :
    Walker.flush template walker stop =
      .ok { walker with
        textStart := stop
        blocks := if pending = [] then walker.blocks else walker.blocks ++ [.text pending] } := by
  have hlt : walker.textStart < stop ↔ pending ≠ [] := by
    rw [htext, hstop, Text.byteLength_append, Nat.lt_add_right_iff_pos, Nat.pos_iff_ne_zero, Ne,
      Text.byteLength_eq_zero]
  unfold Walker.flush
  by_cases hpending : pending = []
  · rw [if_neg (mt hlt.mp (not_not_intro hpending)), if_pos hpending]
    rfl
  · rw [if_pos (hlt.mpr hpending), if_neg hpending, htemplate,
      Walk.cut_append htext hstop behind]
    rfl

theorem contentStart_eq (first : Nat) (interior : Text) :
    Walker.contentStart first interior = first + (Text.leadingBlanks interior).byteLength := by
  have hlength := congrArg Text.byteLength (Text.leadingBlanks_append_trimStart interior)
  rw [Text.byteLength_append] at hlength
  rw [Walker.contentStart, ← hlength, Nat.add_sub_cancel]

/-- The inside of a block stands between its braces. -/
theorem slice_interior {before interior behind : Text}
    (htemplate : template = before ++ (opener ++ interior ++ closer) ++ behind) :
    template.slice? (before.byteLength + opener.byteLength)
      (before ++ (opener ++ interior)).byteLength = some interior := by
  have hsplit : template = before ++ opener ++ interior ++ (closer ++ behind) := by
    rw [htemplate]
    simp only [List.append_assoc]
  rw [hsplit, ← Text.byteLength_append, ← List.append_assoc before opener interior]
  exact Text.slice?_append _ _ _

/-- What is left of the inside of a block stands behind the blanks that it starts with. -/
theorem slice_content {before interior behind : Text}
    (htemplate : template = before ++ (opener ++ interior ++ closer) ++ behind) :
    template.slice? (Walker.contentStart (before.byteLength + opener.byteLength) interior)
      (Walker.contentStart (before.byteLength + opener.byteLength) interior +
        interior.trim.byteLength) = some interior.trim := by
  obtain ⟨trail, htrail, -⟩ := Text.exists_trim interior
  have hsplit : template = before ++ opener ++ Text.leadingBlanks interior ++ interior.trim ++
      (trail ++ closer ++ behind) := by
    rw [htemplate]
    conv =>
      lhs
      rw [htrail]
    simp only [List.append_assoc]
  rw [contentStart_eq, ← Text.byteLength_append, ← Text.byteLength_append, ← Text.byteLength_append,
    hsplit]
  exact Text.slice?_append _ _ _

/-- A closed block is the same to a walk and to a scan. -/
theorem close_eq {front pending interior behind : Text} {start stop : Nat}
    (htemplate : template = front ++ pending ++ (opener ++ interior ++ closer) ++ behind)
    (htext : walker.textStart = front.byteLength)
    (hblock : walker.blockStart = (front ++ pending).byteLength)
    (hstart : start = (front ++ pending ++ (opener ++ interior)).byteLength)
    (hstop : stop = (front ++ pending ++ (opener ++ interior ++ closer)).byteLength) :
    Walker.close template walker start stop =
      ((Scanner.closed walker.blockStart interior).mapError Halt.refused).map fun block =>
        { walker with
          textStart := stop
          place := .outside
          blocks := (if pending = [] then walker.blocks else walker.blocks ++ [.text pending]) ++
            [block] } := by
  have hinterior : Walk.cut template (walker.blockStart + opener.byteLength) start =
      .ok interior := by
    rw [Walk.cut, hblock, hstart, slice_interior htemplate]
  have hflush : Walker.flush template { walker with place := .outside } walker.blockStart =
      .ok { walker with
        place := .outside
        textStart := walker.blockStart
        blocks := if pending = [] then walker.blocks else walker.blocks ++ [.text pending] } :=
    flush_eq (htemplate.trans (List.append_assoc _ _ _)) htext hblock
  rw [Walker.close, hinterior]
  dsimp only [bind, Except.bind]
  rw [hflush]
  dsimp only
  unfold Scanner.closed
  by_cases hblank : interior.trim = []
  · have hne : opener ++ interior ++ closer ≠ [] := List.cons_ne_nil _ _
    rw [if_pos hblank, if_pos hblank, flush_eq htemplate hblock hstop, if_neg hne]
    rfl
  · obtain ⟨-, -, -, hwalk⟩ := Expression.exists_sound_of_slice (slice_content htemplate)
    rw [if_neg hblank, if_neg hblank]
    dsimp only
    rw [hblock, hwalk, contentStart_eq, Nat.add_assoc]
    cases hexpression : Expression.readAt ((front ++ pending).byteLength +
        (opener.byteLength + (Text.leadingBlanks interior).byteLength)) interior.trim with
    | error error => rfl
    | ok expression =>
        cases expression with
        | none => exact absurd (Expression.trim_eq_nil hexpression) hblank
        | some expression =>
            cases expression with
            | operand operand => cases operand <;> rfl
            | call call => rfl

/-! ## Steps -/

variable {cursor blockStart : Nat} {blocks : List Block} {front pending scanned inside : Text}

/-- A name outside blocks stands behind the character that it starts with. -/
theorem split_name (hkind : Kind.ofChar c rest = .var)
    (htemplate : template = done ++ lexer.source c rest ++ lexer.after c rest) :
    template = done ++ [c] ++ rest.takeWhile isNameChar ++ rest.dropWhile isNameChar ∧
      done.byteLength + c.utf8Size = (done ++ [c]).byteLength ∧
      done ++ lexer.source c rest = done ++ [c] ++ rest.takeWhile isNameChar ∧
      lexer.after c rest = rest.dropWhile isNameChar := by
  have hsource : lexer.source c rest = c :: rest.takeWhile (Kind.ofChar c rest).continues := rfl
  have hafter : lexer.after c rest = rest.dropWhile (Kind.ofChar c rest).continues := rfl
  have hname : done ++ lexer.source c rest = done ++ [c] ++ rest.takeWhile isNameChar := by
    rw [hsource, hkind, List.append_assoc, List.singleton_append]
    rfl
  rw [hkind] at hafter
  refine ⟨?_, (Text.byteLength_append done [c]).symm, hname, hafter⟩
  rw [htemplate, hname, hafter]
  rfl

/-- A name outside blocks becomes a block, and so does the text before it. -/
theorem keeps_name
    (hwalker : walker = ⟨cursor, front.byteLength, blockStart, .outside, blocks⟩)
    (hstate : state = ⟨done.byteLength, blocks, pending, .outside⟩)
    (hdone : done = front ++ pending) (hblock : done.Boundary blockStart)
    (hinline : inlineVariables = true) (hstart : rest.head?.any isNameStart = true)
    (stands : lexer.Stands template walker.cursor done ('$' :: rest)) :
    Keeps inlineVariables template ('$' :: rest) walker state := by
  have hkind : Kind.ofChar '$' rest = .var := Kind.ofChar_var_iff.mpr ⟨rfl, hstart⟩
  have hstep := step_eq inlineVariables stands
  subst hwalker hstate
  obtain ⟨hsplit, hfirst, hlast, hafter⟩ := split_name hkind stands.text_eq_source
  have hcut : Walk.cut template (done.byteLength + '$'.utf8Size)
      (done ++ lexer.source '$' rest).byteLength = .ok (rest.takeWhile isNameChar) := by
    rw [hsplit]
    exact Walk.cut_append hfirst (congrArg Text.byteLength hlast) _
  have hfront : template = front ++ pending ++ '$' :: rest := by
    rw [← hdone, ← stands.text_eq]
  rw [hkind] at hstep
  unfold Walker.stepOutside at hstep
  rw [if_neg fun h => Kind.noConfusion h.1, if_pos ⟨rfl, hinline⟩,
    flush_eq hfront rfl (congrArg Text.byteLength hdone)] at hstep
  dsimp only [bind, Except.bind] at hstep
  rw [hcut] at hstep
  refine .inr ⟨_, ⟨(done ++ lexer.source '$' rest).byteLength,
    (if pending = [] then blocks else blocks ++ [.text pending]) ++
      [.var (rest.takeWhile isNameChar)], [], .outside⟩, _, _, hstep,
    ⟨stands.next, .outside (List.append_nil _).symm (hblock.append _)⟩, ?_,
    Nat.lt_succ_of_le (lexer.length_after_le '$' rest)⟩
  rw [hafter]
  apply Scanner.State.run_cons_ok
  unfold Scanner.State.step
  dsimp only
  rw [if_neg fun h => by simp at h, if_pos ⟨hinline, rfl, hstart⟩, ← Text.byteLength_append, hlast,
    List.append_assoc, List.singleton_append]
  rfl

theorem keeps_outside
    (hwalker : walker = ⟨cursor, front.byteLength, blockStart, .outside, blocks⟩)
    (hstate : state = ⟨done.byteLength, blocks, pending, .outside⟩)
    (hdone : done = front ++ pending) (hblock : done.Boundary blockStart)
    (stands : lexer.Stands template walker.cursor done (c :: rest)) :
    Keeps inlineVariables template (c :: rest) walker state := by
  have hstep := step_eq inlineVariables stands
  have hopens := pair_iff .opening rfl stands
  by_cases hname : inlineVariables = true ∧ c = '$' ∧ rest.head?.any isNameStart = true
  · obtain ⟨hinline, rfl, hstart⟩ := hname
    exact keeps_name hwalker hstate hdone hblock hinline hstart stands
  · subst hwalker hstate
    unfold Walker.stepOutside at hstep
    by_cases hopen : c = '{' ∧ rest.head? = some '{'
    · rw [if_pos (hopens.mpr hopen)] at hstep
      obtain ⟨rfl, hhead⟩ := hopen
      obtain ⟨rest, rfl⟩ := List.head?_eq_some_iff.mp hhead
      subst hdone
      exact .inr ⟨_, _, _, _, hstep, ⟨behind_single rfl stands, .block rfl (.half rest)⟩,
        Scanner.State.run_cons_ok rfl, Nat.lt_succ_self _⟩
    · have hvar : ¬ (Kind.ofChar c rest = .var ∧ inlineVariables = true) := by
        rwa [Kind.ofChar_var_iff, and_comm]
      rw [if_neg (mt hopens.mp hopen), if_neg hvar] at hstep
      refine Follows.keeps_pass ⟨stands, .outside hdone hblock⟩ hstep ?_
      unfold Scanner.State.step
      dsimp only
      rw [if_neg hopen, if_neg hname]
      rfl

/-- Two closing braces make a block of all since the opening ones, or lead to a refusal. -/
theorem keeps_closing
    (hwalker : walker =
      ⟨cursor, front.byteLength, (front ++ pending).byteLength, .block, blocks⟩)
    (hstate : state =
      ⟨(front ++ pending).byteLength, blocks, pending, .block (opener ++ inside)⟩)
    (hdone : done = front ++ pending ++ (opener ++ inside))
    (stands : lexer.Stands template walker.cursor done ('}' :: '}' :: rest)) :
    Keeps inlineVariables template ('}' :: '}' :: rest) walker state := by
  have hstep := step_eq inlineVariables stands
  have hcloses := (pair_iff .closing rfl stands).mpr ⟨rfl, rfl⟩
  subst hwalker hstate
  have behind : lexer.Stands template (cursor + 1) (done ++ ['}']) ('}' :: rest) :=
    behind_single rfl stands
  have further : lexer.Stands template (cursor + 2) (done ++ ['}'] ++ ['}']) rest :=
    behind_single rfl behind
  have hboth : done ++ ['}'] ++ ['}'] = done ++ closer := List.append_assoc _ _ _
  have hlast : (done ++ ['}'] ++ lexer.source '}' rest).byteLength =
      (done ++ closer).byteLength := by
    rw [(lexer_single rfl).1, hboth]
  have hall : done ++ closer = front ++ pending ++ (opener ++ inside ++ closer) := by
    rw [hdone]
    simp only [List.append_assoc]
  have hsplit : template = front ++ pending ++ (opener ++ inside ++ closer) ++ rest := by
    rw [← hall, List.append_assoc]
    exact stands.text_eq
  have hclose := @close_eq template
    ⟨cursor, front.byteLength, (front ++ pending).byteLength, .block, blocks⟩ front pending inside
    rest done.byteLength (done ++ closer).byteLength hsplit rfl rfl
    (congrArg Text.byteLength hdone) (congrArg Text.byteLength hall)
  unfold Walker.stepBlock at hstep
  rw [if_neg fun h => Kind.noConfusion h.1, if_pos hcloses, Walk.token_eq behind.token_eq, hlast]
    at hstep
  dsimp only [bind, Except.bind] at hstep
  rw [hclose] at hstep
  have hscan := @Scanner.State.step_closing inlineVariables (front ++ pending).byteLength blocks
    pending inside rest
  rw [← Text.byteLength_append, ← hall] at hscan
  cases hclosed : Scanner.closed (front ++ pending).byteLength inside with
  | error error =>
      rw [hclosed] at hstep hscan
      exact .inl ⟨error, hstep, Scanner.State.run_cons_error hscan⟩
  | ok block =>
      rw [hclosed] at hstep hscan
      rw [hboth] at further
      exact .inr ⟨_, _, done ++ closer, rest, hstep,
        ⟨further, .outside (List.append_nil _).symm ⟨_, _, hall, rfl⟩⟩,
        Scanner.State.run_cons_ok hscan, Nat.lt_succ_of_le (Nat.le_succ _)⟩

theorem keeps_block
    (hwalker : walker =
      ⟨cursor, front.byteLength, (front ++ pending).byteLength, .block, blocks⟩)
    (hstate : state = ⟨(front ++ pending).byteLength, blocks, pending, .block scanned⟩)
    (hdone : done = front ++ pending ++ scanned) (hopened : Opened scanned (c :: rest))
    (stands : lexer.Stands template walker.cursor done (c :: rest)) :
    Keeps inlineVariables template (c :: rest) walker state := by
  have hstep := step_eq inlineVariables stands
  have hopens := pair_iff .opening rfl stands
  have hcloses := pair_iff .closing rfl stands
  by_cases hclose : c = '}' ∧ rest.head? = some '}'
  · obtain ⟨rfl, hhead⟩ := hclose
    obtain ⟨rest, rfl⟩ := List.head?_eq_some_iff.mp hhead
    cases hopened with
    | full inside => exact keeps_closing hwalker hstate hdone stands
  · subst hwalker hstate
    unfold Walker.stepBlock at hstep
    by_cases hopen : c = '{' ∧ rest.head? = some '{'
    · -- the block starts anew, and what stood in it so far waits with the text in front of it
      rw [if_pos (hopens.mpr hopen)] at hstep
      obtain ⟨rfl, hhead⟩ := hopen
      obtain ⟨rest, rfl⟩ := List.head?_eq_some_iff.mp hhead
      rw [List.append_assoc] at hdone
      subst hdone
      refine .inr ⟨_, _, _, _, hstep, ⟨behind_single rfl stands, .block rfl (.half rest)⟩, ?_,
        Nat.lt_succ_self _⟩
      apply Scanner.State.run_cons_ok
      rw [← List.append_assoc, Text.byteLength_append (front ++ pending) scanned]
      rfl
    · rw [if_neg (mt hopens.mp hopen), if_neg (mt hcloses.mp hclose)] at hstep
      dsimp only at hstep
      cases hquote : Quote.ofChar? c with
      | some quote =>
          rw [(Kind.ofChar_eq_iff (.quote quote) rfl).mpr (Quote.char_of_ofChar? hquote)] at hstep
          cases hopened with
          | half => cases hquote
          | full inside =>
              obtain rfl := Quote.char_of_ofChar? hquote
              refine .inr ⟨_, ⟨(front ++ pending).byteLength, blocks, pending,
                .literal quote (opener ++ (inside ++ [quote.char]))⟩, _, _, hstep,
                ⟨behind_escapable quote.isEscapable_char stands, .literal quote ?_⟩, ?_,
                Nat.lt_succ_self _⟩
              · rw [hdone]
                simp only [List.append_assoc]
              · apply Scanner.State.run_cons_ok
                unfold Scanner.State.step
                dsimp only
                rw [if_neg hopen, if_neg hclose, hquote, List.append_assoc]
      | none =>
          split at hstep
          next quote hkind =>
            rw [(Kind.ofChar_eq_iff (.quote quote) rfl).mp hkind, Quote.ofChar?_char] at hquote
            cases hquote
          next =>
            refine Follows.keeps_pass ⟨stands, .block hdone hopened⟩ hstep ?_
            unfold Scanner.State.step
            dsimp only
            rw [if_neg hopen, if_neg hclose, hquote]
            rfl

/-- A backslash takes the next character with it. -/
theorem keeps_escape {d : Char} {quote : Quote}
    (hwalker : walker =
      ⟨cursor, front.byteLength, (front ++ pending).byteLength, .literal quote, blocks⟩)
    (hstate : state =
      ⟨(front ++ pending).byteLength, blocks, pending, .literal quote (opener ++ inside)⟩)
    (hdone : done = front ++ pending ++ (opener ++ inside)) (hd : Text.isEscapable d = true)
    (stands : lexer.Stands template walker.cursor done ('\\' :: d :: rest)) :
    Keeps inlineVariables template ('\\' :: d :: rest) walker state := by
  have hstep := step_eq inlineVariables stands
  have hescapes := (escapes_iff stands).mpr ⟨rfl, hd⟩
  subst hwalker hstate
  unfold Walker.stepLiteral at hstep
  dsimp only at hstep
  rw [if_pos hescapes] at hstep
  have behind : lexer.Stands template (cursor + 1) (done ++ ['\\']) (d :: rest) :=
    behind_single rfl stands
  have further : lexer.Stands template (cursor + 2) (done ++ ['\\'] ++ [d]) rest :=
    behind_escapable hd behind
  refine .inr ⟨_, ⟨(front ++ pending).byteLength, blocks, pending,
    .literal quote (opener ++ (inside ++ ['\\', d]))⟩, _, _, hstep,
    ⟨further, .literal quote ?_⟩, ?_, Nat.lt_succ_of_le (Nat.le_succ _)⟩
  · rw [hdone]
    simp only [List.append_assoc]
    rfl
  · apply Scanner.State.run_cons_ok
    unfold Scanner.State.step
    dsimp only
    rw [if_pos ⟨rfl, hd⟩, List.append_assoc]
    rfl

theorem keeps_literal {quote : Quote}
    (hwalker : walker =
      ⟨cursor, front.byteLength, (front ++ pending).byteLength, .literal quote, blocks⟩)
    (hstate : state =
      ⟨(front ++ pending).byteLength, blocks, pending, .literal quote (opener ++ inside)⟩)
    (hdone : done = front ++ pending ++ (opener ++ inside))
    (stands : lexer.Stands template walker.cursor done (c :: rest)) :
    Keeps inlineVariables template (c :: rest) walker state := by
  have hstep := step_eq inlineVariables stands
  have hescapes := escapes_iff stands
  by_cases hescape : c = '\\' ∧ rest.head?.any Text.isEscapable = true
  · obtain ⟨rfl, hhead⟩ := hescape
    cases rest with
    | nil => cases hhead
    | cons d rest => exact keeps_escape hwalker hstate hdone hhead stands
  · subst hwalker hstate
    unfold Walker.stepLiteral at hstep
    dsimp only at hstep
    rw [if_neg (mt hescapes.mp hescape)] at hstep
    by_cases hend : c = quote.char
    · subst hend
      rw [if_pos ((Kind.ofChar_eq_iff (.quote quote) rfl).mpr rfl)] at hstep
      refine .inr ⟨_, ⟨(front ++ pending).byteLength, blocks, pending,
        .block (opener ++ (inside ++ [quote.char]))⟩, _, _, hstep,
        ⟨behind_escapable quote.isEscapable_char stands, .block ?_ (.full _ _)⟩, ?_,
        Nat.lt_succ_self _⟩
      · rw [hdone]
        simp only [List.append_assoc]
      · apply Scanner.State.run_cons_ok
        unfold Scanner.State.step
        dsimp only
        rw [if_neg hescape, if_pos rfl, List.append_assoc]
    · have hkind : Kind.ofChar c rest ≠ .quote quote :=
        fun hkind => hend ((Kind.ofChar_eq_iff (.quote quote) rfl).mp hkind)
      rw [if_neg hkind] at hstep
      refine Follows.keeps_pass ⟨stands, .literal quote hdone⟩ hstep ?_
      unfold Scanner.State.step
      dsimp only
      rw [if_neg hescape, if_neg hend]
      rfl

/-- A step of a walk keeps what comes of it. -/
theorem Follows.keeps (follows : Follows template done (c :: rest) walker state)
    (inlineVariables : Bool) : Keeps inlineVariables template (c :: rest) walker state := by
  obtain ⟨stands, agree⟩ := follows
  cases agree with
  | outside hdone hblock => exact keeps_outside rfl rfl hdone hblock stands
  | block hdone hopened => exact keeps_block rfl rfl hdone hopened stands
  | literal quote hdone => exact keeps_literal rfl rfl hdone stands

/-! ## Whole walks -/

theorem Follows.finish_eq (follows : Follows template done [] walker state) :
    walker.finish template = state.finish.mapError Halt.refused := by
  obtain ⟨stands, agree⟩ := follows
  have htemplate := stands.text_eq
  have hlength {first second : Text} :
      (first ++ second).byteLength - first.byteLength = second.byteLength := by
    rw [Text.byteLength_append, Nat.add_sub_cancel_left]
  cases agree with
  | @outside cursor _ _ front pending hdone hblock =>
      rw [hdone] at htemplate
      have hstop : template.byteLength = (front ++ pending).byteLength := by
        rw [htemplate, List.append_nil]
      unfold Walker.finish
      dsimp only
      rw [flush_eq htemplate rfl hstop]
      rfl
  | block hdone hopened =>
      rw [List.append_nil, hdone] at htemplate
      unfold Walker.finish
      dsimp only
      rw [htemplate, hlength]
      rfl
  | literal quote hdone =>
      rw [List.append_nil, hdone] at htemplate
      unfold Walker.finish
      dsimp only
      rw [htemplate, hlength]
      rfl

theorem Follows.run_eq (follows : Follows template done rest walker state) :
    walker.run inlineVariables template =
      (state.run inlineVariables rest).mapError Halt.refused := by
  induction hlength : rest.length using Nat.strongRecOn generalizing walker state done rest with
  | ind length ih =>
      cases rest with
      | nil =>
          rw [Walker.run_of_not_lt (mt follows.stands.lt_length_iff.mp (not_not_intro rfl)),
            follows.finish_eq, Scanner.State.run]
      | cons c rest =>
          have hlt := follows.stands.lt_length_iff.mpr (List.cons_ne_nil c rest)
          rcases follows.keeps inlineVariables with
            ⟨error, hstep, hscan⟩ | ⟨next, state', past, left, hstep, follows, hscan, hshorter⟩
          · rw [Walker.run_of_step_error hlt hstep, hscan]
            rfl
          · rw [Walker.run_of_step_ok hlt hstep, hscan]
            exact ih left.length (hlength ▸ hshorter) follows rfl

theorem follows_initial (template : Text) : Follows template [] template .initial .initial where
  stands := lexer.stands_start template
  agree := .outside rfl ⟨[], [], rfl, rfl⟩

/-- A walk comes to the blocks that the regions of the template make, or to the same refusal. -/
theorem walk_eq (inlineVariables : Bool) (template : Text) :
    walk inlineVariables template =
      (ofRegions inlineVariables (Regions.ofTemplate template)).mapError Halt.refused := by
  rw [walk, (follows_initial template).run_eq,
    Scanner.State.run_eq_resume inlineVariables (.outside template)]
  exact congrArg (Except.mapError Halt.refused) (Scanner.State.resume_initial template)

/-- Wherever a walk comes to, there is a scan that stands there. -/
theorem exists_follows (reaches : Walker.Reaches inlineVariables template walker) :
    ∃ done rest state, Follows template done rest walker state := by
  induction reaches with
  | initial => exact ⟨[], template, .initial, follows_initial template⟩
  | step reaches hlt hstep ih =>
      obtain ⟨done, rest, state, follows⟩ := ih
      obtain ⟨c, rest, rfl⟩ := follows.stands.exists_cons hlt
      rcases follows.keeps inlineVariables with
        ⟨error, herror, -⟩ | ⟨next, state', past, left, hnext, follows, -⟩
      · rw [hstep] at herror
        cases herror
      · rw [hstep] at hnext
        cases hnext
        exact ⟨past, left, state', follows⟩

end

end Template

end Stencil
