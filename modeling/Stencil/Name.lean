import Stencil.Text.Basic

/-! # Names

Variables, arguments, plugins and functions are named by non-empty texts of
ASCII letters, digits and underscores. Two names are the same name when they
differ at most in the case of ASCII letters; a letter outside ASCII is never
folded.
-/

namespace Stencil

def isNameChar (c : Char) : Bool := c.isAlphanum || c == '_'

/-- The characters that may follow `$` outside a block: a name there does not start with a digit. -/
def isNameStart (c : Char) : Bool := c.isAlpha || c == '_'

/-- Whether a text can name a variable, an argument, a plugin or a function. -/
def isName (text : Text) : Bool := !text.isEmpty && text.all isNameChar

namespace Text

/-- The text with every ASCII capital replaced by its small letter. -/
def fold (text : Text) : Text := text.map Char.toLower

/-- Whether two texts are one name, that is, equal up to the case of ASCII letters. -/
def sameName (first second : Text) : Bool := fold first == fold second

theorem sameName_iff {first second : Text} :
    sameName first second = true ↔ fold first = fold second := beq_iff_eq

@[simp] theorem sameName_refl (text : Text) : sameName text text = true :=
  sameName_iff.mpr rfl

theorem sameName_comm (first second : Text) :
    sameName first second = sameName second first :=
  Bool.eq_iff_iff.mpr ⟨fun h => sameName_iff.mpr (sameName_iff.mp h).symm,
    fun h => sameName_iff.mpr (sameName_iff.mp h).symm⟩

end Text

end Stencil
