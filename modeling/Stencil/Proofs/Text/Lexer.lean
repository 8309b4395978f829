import Stencil.ParseError
import Stencil.Proofs.Result
import Stencil.Proofs.Text.Slice

/-! # Walking over tokens by their numbers

A lexer cuts a text into tokens that say of what kind they are and where they stand, and no more. A
walk over them asks for a token by its number and for a text by the places of its ends, and breaks
off where the one or the other does not exist. The tokens of a text lie one behind the other without
a gap, so that a walk which has come to some token stands between two characters of the text.
-/

namespace Stencil

/-- Why a walk ends without a result: what it asked for does not exist, or the text is refused. -/
inductive Halt where
  | broken
  | refused (error : ParseError)
deriving DecidableEq

/-- The kind of a token, and the places where it starts and stops. -/
structure Raw (κ : Type) where
  kind : κ
  start : Nat
  stop : Nat

/-- A way of cutting off the first token of a text, which starts with some character. -/
structure Lexer (κ : Type) where
  kind : Char → Text → κ
  source : Char → Text → Text
  after : Char → Text → Text
  source_append_after : ∀ c rest, source c rest ++ after c rest = c :: rest
  source_ne_nil : ∀ c rest, source c rest ≠ []

namespace Lexer

variable {κ : Type} (lexer : Lexer κ)

theorem length_after_le (c : Char) (rest : Text) : (lexer.after c rest).length ≤ rest.length := by
  have hlength := congrArg List.length (lexer.source_append_after c rest)
  have hpos := List.length_pos_iff.mpr (lexer.source_ne_nil c rest)
  simp only [List.length_append, List.length_cons] at hlength
  omega

/-- The tokens of a text that starts at byte `start`. -/
def tokens (start : Nat) : Text → List (Raw κ)
  | [] => []
  | c :: rest =>
    ⟨lexer.kind c rest, start, start + (lexer.source c rest).byteLength⟩ ::
      tokens (start + (lexer.source c rest).byteLength) (lexer.after c rest)
termination_by text => text.length
decreasing_by exact Nat.lt_succ_of_le (lexer.length_after_le c rest)

/-- A walk has come to the token with the number `index`: what is done of the text lies before that
token, and the rest has still to be gone over. -/
structure Stands (text : Text) (index : Nat) (done rest : Text) : Prop where
  text_eq : text = done ++ rest
  index_le : index ≤ (lexer.tokens 0 text).length
  drop_eq : (lexer.tokens 0 text).drop index = lexer.tokens done.byteLength rest

theorem stands_start (text : Text) : lexer.Stands text 0 [] text where
  text_eq := rfl
  index_le := Nat.zero_le _
  drop_eq := rfl

namespace Stands

variable {lexer} {text done rest : Text} {index : Nat} {c : Char}

theorem getElem?_eq (stands : lexer.Stands text index done rest) :
    (lexer.tokens 0 text)[index]? = (lexer.tokens done.byteLength rest).head? := by
  rw [← stands.drop_eq, List.head?_drop]

theorem lt_length_iff (stands : lexer.Stands text index done rest) :
    index < (lexer.tokens 0 text).length ↔ rest ≠ [] := by
  rw [← Nat.not_le, ← List.drop_eq_nil_iff, stands.drop_eq]
  cases rest with
  | nil => simp [tokens]
  | cons c rest => simp [tokens]

/-- The token to which the walk has come. -/
theorem token_eq (stands : lexer.Stands text index done (c :: rest)) :
    (lexer.tokens 0 text)[index]? =
      some ⟨lexer.kind c rest, done.byteLength, (done ++ lexer.source c rest).byteLength⟩ := by
  rw [stands.getElem?_eq, tokens, Text.byteLength_append]
  rfl

theorem text_eq_source (stands : lexer.Stands text index done (c :: rest)) :
    text = done ++ lexer.source c rest ++ lexer.after c rest := by
  rw [List.append_assoc, lexer.source_append_after, ← stands.text_eq]

/-- Behind the token the walk stands again. -/
theorem next (stands : lexer.Stands text index done (c :: rest)) :
    lexer.Stands text (index + 1) (done ++ lexer.source c rest) (lexer.after c rest) where
  text_eq := stands.text_eq_source
  index_le := stands.lt_length_iff.mpr (List.cons_ne_nil c rest)
  drop_eq := by
    rw [← List.drop_drop, stands.drop_eq, tokens, Text.byteLength_append]
    rfl

theorem exists_cons {index : Nat} (stands : lexer.Stands text index done rest)
    (h : index < (lexer.tokens 0 text).length) : ∃ c more, rest = c :: more :=
  List.exists_cons_of_ne_nil (stands.lt_length_iff.mp h)

end Stands

/-- A walk can have come to any token, and to the end. -/
theorem exists_stands (text : Text) {index : Nat} (h : index ≤ (lexer.tokens 0 text).length) :
    ∃ done rest, lexer.Stands text index done rest := by
  induction index with
  | zero => exact ⟨[], text, lexer.stands_start text⟩
  | succ index ih =>
      obtain ⟨done, rest, stands⟩ := ih (Nat.le_of_succ_le h)
      obtain ⟨c, rest, rfl⟩ := stands.exists_cons h
      exact ⟨_, _, stands.next⟩

/-- Every token is one that a walk can have come to. -/
theorem exists_stands_of_getElem? {text : Text} {index : Nat} {token : Raw κ}
    (h : (lexer.tokens 0 text)[index]? = some token) :
    ∃ done c rest, lexer.Stands text index done (c :: rest) ∧
      token = ⟨lexer.kind c rest, done.byteLength, (done ++ lexer.source c rest).byteLength⟩ := by
  have hlt := (List.getElem?_eq_some_iff.mp h).1
  obtain ⟨done, rest, stands⟩ := lexer.exists_stands text (Nat.le_of_lt hlt)
  obtain ⟨c, rest, rfl⟩ := stands.exists_cons hlt
  rw [stands.token_eq] at h
  exact ⟨done, c, rest, stands, (Option.some.inj h).symm⟩

/-- Every token is some stretch of the text. -/
theorem exists_of_mem_tokens {text : Text} {token : Raw κ} (h : token ∈ lexer.tokens 0 text) :
    ∃ done c rest, text = done ++ lexer.source c rest ++ lexer.after c rest ∧
      token = ⟨lexer.kind c rest, done.byteLength, (done ++ lexer.source c rest).byteLength⟩ := by
  obtain ⟨index, hindex⟩ := List.getElem?_of_mem h
  obtain ⟨done, c, rest, stands, rfl⟩ := lexer.exists_stands_of_getElem? hindex
  exact ⟨done, c, rest, stands.text_eq_source, rfl⟩

/-- At both ends of a token the text can be cut, and between them there is something. -/
theorem cuts_of_mem_tokens {text : Text} {token : Raw κ} (h : token ∈ lexer.tokens 0 text) :
    token.start < token.stop ∧ text.Cuts token.start token.stop := by
  obtain ⟨done, c, rest, htext, rfl⟩ := lexer.exists_of_mem_tokens h
  constructor
  · have hne := mt Text.byteLength_eq_zero.mp (lexer.source_ne_nil c rest)
    rw [Text.byteLength_append]
    exact Nat.lt_add_of_pos_right (Nat.pos_of_ne_zero hne)
  · exact Text.cuts_of_eq htext rfl rfl

end Lexer

/-! ## What a walk asks for -/

namespace Walk

variable {κ : Type}

/-- The token with some number. -/
def token (tokens : List (Raw κ)) (index : Nat) : Except Halt (Raw κ) :=
  match tokens[index]? with
  | some token => .ok token
  | none => .error .broken

/-- The kind of the token with some number, if there is one. -/
def kind? (tokens : List (Raw κ)) (index : Nat) : Option κ :=
  tokens[index]?.map Raw.kind

/-- The text between two places. -/
def cut (text : Text) (start stop : Nat) : Except Halt Text :=
  match text.slice? start stop with
  | some part => .ok part
  | none => .error .broken

theorem token_eq {tokens : List (Raw κ)} {index : Nat} {raw : Raw κ}
    (h : tokens[index]? = some raw) : token tokens index = .ok raw := by
  rw [token, h]

theorem cut_append {before part : Text} {start stop : Nat} (hstart : start = before.byteLength)
    (hstop : stop = (before ++ part).byteLength) (after : Text) :
    cut (before ++ part ++ after) start stop = .ok part := by
  rw [cut, hstart, hstop, Text.slice?_append]

end Walk

end Stencil
