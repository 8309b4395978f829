import Stencil.Proofs.Template.Remainder

/-! # Reading by regions and scanning characters agree

Reading a template cuts it into regions, turns these into pieces and joins the text
among them; the scanner does all of it in one pass. They are related by what is left
to do: in every state of the scanner, its blocks and waiting text continued with the
regions of the remaining text give what the scanner ends with.
-/

namespace Stencil.Scanner

theorem State.run_cons_ok {inlineVariables : Bool} {state next : State} {c : Char}
    {rest after : Text} (h : state.step inlineVariables c rest = .ok (next, after)) :
    state.run inlineVariables (c :: rest) = next.run inlineVariables after := by
  rw [State.run]
  split
  next herror =>
    rw [h] at herror
    cases herror
  next hok =>
    rw [h] at hok
    cases hok
    rfl

theorem State.run_cons_error {inlineVariables : Bool} {state : State} {c : Char} {rest : Text}
    {error : ParseError} (h : state.step inlineVariables c rest = .error error) :
    state.run inlineVariables (c :: rest) = .error error := by
  rw [State.run]
  split
  next herror =>
    rw [h] at herror
    cases herror
    rfl
  next hok =>
    rw [h] at hok
    cases hok

/-- Where the scanner and the scan for regions stand at corresponding moments, each with
the text before it. The scanner has still to pass the second brace of a pair that the other
scan has passed already; behind the pair no third brace follows. -/
inductive Agrees : Place → Text → Regions.Mode → Text → Prop where
  | outside (text : Text) : Agrees .outside text (.outside []) text
  | opening (text : Text) : Agrees (.block ['{']) ('{' :: text) (.inside []) text
  | block {scanned text : Text} (hthird : scanned = [] → text.head? ≠ some '{') :
      Agrees (.block (opener ++ scanned)) text (.inside scanned.reverse) text
  | literal (quote : Quote) (scanned text : Text) :
      Agrees (.literal quote (opener ++ scanned)) text (.quoted quote scanned.reverse) text

theorem Agrees.block_append (scanned : Text) {more : Text} (hne : more ≠ []) (text : Text) :
    Agrees (.block (opener ++ scanned ++ more)) text
      (.inside (more.reverse ++ scanned.reverse)) text := by
  rw [List.append_assoc, ← List.reverse_append]
  exact .block fun hnil => absurd (List.append_eq_nil_iff.mp hnil).2 hne

theorem Agrees.literal_append (quote : Quote) (scanned more text : Text) :
    Agrees (.literal quote (opener ++ scanned ++ more)) text
      (.quoted quote (more.reverse ++ scanned.reverse)) text := by
  rw [List.append_assoc, ← List.reverse_append]
  exact .literal quote (scanned ++ more) text

/-- A step of the scanner from `state` keeps what is left to do, which is `cut` before it:
either it meets a fault of the template, or it leads to states that agree again. -/
def State.Keeps (inlineVariables : Bool) (state : State) (c : Char) (rest : Text)
    (cut : Regions) : Prop :=
  (∃ error, state.step inlineVariables c rest = .error error ∧
    state.resume inlineVariables cut = .error error) ∨
  ∃ next after mode left, state.step inlineVariables c rest = .ok (next, after) ∧
    Agrees next.place after mode left ∧
    state.resume inlineVariables cut = next.resume inlineVariables (Regions.scan mode left)

theorem scan_inside_reopened {seen rest : Text} (hne : seen ≠ []) :
    Regions.scan (.inside seen) ('{' :: '{' :: rest) =
      (Regions.scan (.inside []) rest).after (.abandoned (opener ++ seen.reverse)) := by
  rw [Regions.scan]
  exact hne

theorem scan_inside_char {c : Char} {seen rest : Text} (hthird : seen = [] → c ≠ '{')
    (hopen : ¬ (c = '{' ∧ rest.head? = some '{')) (hclose : ¬ (c = '}' ∧ rest.head? = some '}')) :
    Regions.scan (.inside seen) (c :: rest) =
      match Quote.ofChar? c with
      | some quote => Regions.scan (.quoted quote (c :: seen)) rest
      | none => Regions.scan (.inside (c :: seen)) rest := by
  have hpair : ∀ tail, c = '{' → rest = '{' :: tail → False := by
    rintro tail rfl rfl
    exact hopen ⟨rfl, rfl⟩
  have hend : ∀ tail, c = '}' → rest = '}' :: tail → False := by
    rintro tail rfl rfl
    exact hclose ⟨rfl, rfl⟩
  cases hquote : Quote.ofChar? c with
  | none => rw [Regions.scan, hquote] <;> assumption
  | some quote => rw [Regions.scan, hquote] <;> assumption

theorem scan_quoted_char {quote : Quote} {c : Char} {seen rest : Text}
    (hescape : ¬ (c = '\\' ∧ rest.head?.any Text.isEscapable = true)) :
    Regions.scan (.quoted quote seen) (c :: rest) =
      if c = quote.char then Regions.scan (.inside (c :: seen)) rest
      else Regions.scan (.quoted quote (c :: seen)) rest := by
  by_cases hslash : c = '\\'
  · subst c
    have hquote : '\\' ≠ quote.char := by cases quote <;> decide
    cases rest with
    | nil =>
        simp only [Regions.scan, if_neg hquote]
    | cons d rest =>
        have hd : ¬ Text.isEscapable d = true := fun hd => hescape ⟨rfl, hd⟩
        rw [if_neg hquote, Regions.scan, if_neg hd]
  · rw [Regions.scan]
    rintro d rest' hc -
    exact hslash hc

section

variable (inlineVariables : Bool) (state : State) (c : Char) (rest : Text)

theorem State.keeps_outside (hplace : state.place = .outside) :
    state.Keeps inlineVariables c rest (Regions.scan (.outside []) (c :: rest)) := by
  unfold State.Keeps State.step
  rw [hplace]
  refine .inr ?_
  dsimp only
  split
  next hopen =>
    obtain ⟨rfl, hhead⟩ := hopen
    obtain ⟨rest, rfl⟩ := List.head?_eq_some_iff.mp hhead
    exact ⟨_, _, _, _, rfl, .opening rest, state.resume_outside_opener rest⟩
  next hopen =>
    rw [← Piece.startsName_eq]
    split
    next hname =>
      obtain ⟨rfl, rfl, hstart⟩ := hname
      exact ⟨_, _, _, _, rfl, .outside _, state.resume_outside_name hstart⟩
    next hname => exact ⟨_, _, _, _, rfl, .outside _, state.resume_outside_char hopen hname⟩

/-- At the second brace of an opening pair. A third one abandons the first; otherwise the
other scan has nothing to do. -/
theorem State.keeps_opening (hplace : state.place = .block ['{']) :
    state.Keeps inlineVariables '{' rest (Regions.scan (.inside []) rest) := by
  unfold State.Keeps State.step
  rw [hplace]
  refine .inr ?_
  dsimp only
  split
  next hopen =>
    obtain ⟨rest, rfl⟩ := List.head?_eq_some_iff.mp hopen.2
    refine ⟨_, _, _, _, rfl, .opening rest, ?_⟩
    rw [Regions.scan, state.resume_abandoned]
    rfl
  next hopen =>
    have hthird : rest.head? ≠ some '{' := fun hhead => hopen ⟨rfl, hhead⟩
    exact ⟨_, _, _, _, rfl, .block fun _ => hthird, rfl⟩

theorem State.keeps_block {scanned : Text} (hplace : state.place = .block (opener ++ scanned))
    (hthird : scanned = [] → c ≠ '{') :
    state.Keeps inlineVariables c rest (Regions.scan (.inside scanned.reverse) (c :: rest)) := by
  unfold State.Keeps State.step
  rw [hplace]
  dsimp only
  split
  next hopen =>
    obtain ⟨rfl, hhead⟩ := hopen
    obtain ⟨rest, rfl⟩ := List.head?_eq_some_iff.mp hhead
    have hne : scanned.reverse ≠ [] :=
      fun hnil => hthird (List.reverse_eq_nil_iff.mp hnil) rfl
    refine .inr ⟨_, _, _, _, rfl, .opening rest, ?_⟩
    rw [scan_inside_reopened hne, state.resume_abandoned, List.reverse_reverse]
    rfl
  next hopen =>
    split
    next hclose =>
      obtain ⟨rfl, hhead⟩ := hclose
      obtain ⟨rest, rfl⟩ := List.head?_eq_some_iff.mp hhead
      rw [Regions.scan, state.resume_closed, List.reverse_reverse,
        List.drop_left]
      cases closed state.offset scanned with
      | error error => exact .inl ⟨error, rfl, rfl⟩
      | ok block => exact .inr ⟨_, _, _, _, rfl, .outside rest, rfl⟩
    next hclose =>
      have hnil : scanned.reverse = [] → c ≠ '{' :=
        fun hnil => hthird (List.reverse_eq_nil_iff.mp hnil)
      rw [scan_inside_char hnil hopen hclose]
      refine .inr ?_
      cases Quote.ofChar? c with
      | some quote => exact ⟨_, _, _, _, rfl, .literal_append quote scanned [c] rest, rfl⟩
      | none =>
          exact ⟨_, _, _, _, rfl, .block_append scanned (List.cons_ne_nil c []) rest, rfl⟩

theorem State.keeps_literal {quote : Quote} {scanned : Text}
    (hplace : state.place = .literal quote (opener ++ scanned)) :
    state.Keeps inlineVariables c rest
      (Regions.scan (.quoted quote scanned.reverse) (c :: rest)) := by
  unfold State.Keeps State.step
  rw [hplace]
  refine .inr ?_
  dsimp only
  split
  next hescape =>
    obtain ⟨rfl, hhead⟩ := hescape
    cases rest with
    | nil => cases hhead
    | cons d rest =>
        have hd : Text.isEscapable d = true := hhead
        rw [Regions.scan, if_pos hd]
        exact ⟨_, _, _, _, rfl, .literal_append quote scanned ['\\', d] rest, rfl⟩
  next hescape =>
    rw [scan_quoted_char hescape]
    split
    next hc =>
      exact ⟨_, _, _, _, rfl, .block_append scanned (List.cons_ne_nil c []) rest, rfl⟩
    next hc => exact ⟨_, _, _, _, rfl, .literal_append quote scanned [c] rest, rfl⟩

end

/-- Every step from states that agree keeps what is left to do. -/
theorem Agrees.keeps {state : State} {c : Char} {rest left : Text} {mode : Regions.Mode}
    (agrees : Agrees state.place (c :: rest) mode left) (inlineVariables : Bool) :
    state.Keeps inlineVariables c rest (Regions.scan mode left) := by
  generalize hplace : state.place = place at agrees
  generalize htext : c :: rest = text at agrees
  cases agrees with
  | outside =>
      subst htext
      exact state.keeps_outside inlineVariables c rest hplace
  | opening =>
      cases htext
      exact state.keeps_opening inlineVariables rest hplace
  | block hthird =>
      subst htext
      refine state.keeps_block inlineVariables c rest hplace fun hnil hc => ?_
      exact hthird hnil (congrArg some hc)
  | literal quote scanned =>
      subst htext
      exact state.keeps_literal inlineVariables c rest hplace

/-- The end of the text is the end of both. -/
theorem State.run_nil_eq_resume (inlineVariables : Bool) {state : State} {left : Text}
    {mode : Regions.Mode} (agrees : Agrees state.place [] mode left) :
    state.run inlineVariables [] = state.resume inlineVariables (Regions.scan mode left) := by
  rw [State.run, State.finish]
  generalize hplace : state.place = place at agrees
  generalize htext : ([] : Text) = text at agrees
  cases agrees with
  | outside =>
      subst htext
      have hregions : Regions.scan (.outside []) [] = Regions.after (.plain []) ⟨[], none⟩ := by
        rw [Regions.scan]
        rfl
      have hflushed := state.withLead_flushed []
      rw [List.append_nil] at hflushed
      rw [hregions, state.resume_plain_nil, ← hflushed]
      exact congrArg (fun text => Except.ok (state.blocks ++ Piece.withLead text []))
        (List.append_nil state.pending).symm
  | opening => cases htext
  | block hthird =>
      subst htext
      rw [Regions.scan, List.reverse_reverse]
      rfl
  | literal quote scanned =>
      subst htext
      rw [Regions.scan, List.reverse_reverse]
      rfl

/-- From states that agree the scanner ends with what is left to do. -/
theorem State.run_eq_resume (inlineVariables : Bool) {state : State} {text left : Text}
    {mode : Regions.Mode} (agrees : Agrees state.place text mode left) :
    state.run inlineVariables text =
      state.resume inlineVariables (Regions.scan mode left) := by
  induction hlength : text.length using Nat.strongRecOn generalizing state text mode left with
  | ind length ih =>
      cases text with
      | nil => exact run_nil_eq_resume inlineVariables agrees
      | cons c rest =>
          rcases agrees.keeps inlineVariables with
            ⟨error, hstep, hresume⟩ | ⟨next, after, mode, left, hstep, hagrees, hresume⟩
          · rw [run_cons_error hstep, hresume]
          · have hshorter : after.length < length := by
              have hle := length_step_le hstep
              rw [List.length_cons] at hlength
              omega
            rw [run_cons_ok hstep, hresume, ih after.length hshorter hagrees rfl]

/-- Reading a template gives what the scanner gives: the same blocks, or the same fault at
the same place. -/
theorem read_eq_scan (inlineVariables : Bool) (template : Text) :
    Template.read inlineVariables template =
      (scan inlineVariables template).mapError (Refusal.mk template) := by
  rw [scan, State.run_eq_resume inlineVariables (.outside template)]
  exact congrArg (Except.mapError (Refusal.mk template))
    (State.resume_initial template).symm

end Stencil.Scanner
