import Stencil.Toml.Lexical
import Stencil.Toml.Node
import Stencil.Toml.Scalar

/-! # Reading TOML

A document is read line by line. Values nest at most eighty deep, so reading one
is recursion on the depth that is left; the items of a list are read in as many
steps as there are characters at most.
-/

namespace Stencil.Toml

/-- The items of a list up to its closing mark, each read by `read`. Blanks, line ends and comments
may stand anywhere between them, and a comma after the last. -/
def items {α : Type} (read : Text → Option (α × Text)) (close : Char) :
    Nat → Text → Option (List α × Text)
  | 0, _ => none
  | steps + 1, text => do
    match ← skipGap false text with
    | [] => none
    | c :: rest =>
      if c = close then return ([], rest)
      else
        let (item, rest) ← read (c :: rest)
        match ← skipGap false rest with
        | [] => none
        | c :: rest =>
          if c = close then return ([item], rest)
          else if c = ',' then
            let (more, rest) ← items read close steps rest
            return (item :: more, rest)
          else none

/-- A key, an equals sign, and what `read` reads after it; `skip` passes over what may stand on
either side of the sign. -/
def assignment {α : Type} (skip : Text → Option Text) (read : Text → Option (α × Text))
    (text : Text) : Option ((List Text × Text × α) × Text) := do
  let ((path, name), rest) ← key? text
  match ← skip rest with
  | '=' :: rest =>
    let (value, rest) ← read (← skip rest)
    return ((path, name, value), rest)
  | _ => none

/-- The table that the assignments of an inline table make. -/
def inlineTable (assignments : List (List Text × Text × Value)) : Option Value := do
  let node ← assignments.foldlM (fun node (path, name, value) => node.insertKey path name value)
    Node.root
  return node.toValue

/-- A value with at most `depth` levels of lists and inline tables, and the text after it. -/
def value? : Nat → Text → Option (Value × Text)
  | _, [] => none
  | depth, c :: rest =>
    if c = '"' ∨ c = '\'' then
      (string? (c :: rest)).map fun (s, rest) => (.string s, rest)
    else if c = '[' then
      match depth with
      | 0 => none
      | depth + 1 =>
        (items (value? depth) ']' (rest.length + 1) rest).map fun (l, rest) => (.list l, rest)
    else if c = '{' then
      match depth with
      | 0 => none
      | depth + 1 => do
        let (assignments, rest) ←
          items (assignment (skipGap false) (value? depth)) '}' (rest.length + 1) rest
        return (← inlineTable assignments, rest)
    else scalar? (c :: rest)

def depthLimit : Nat := 80

/-- A document so far: its table, and the path of the header that was read last. -/
structure Document where
  root : Node
  path : List Text

namespace Document

/-- The document after a header, given by its parts before the last dot and the last part. -/
def enter (document : Document) (isItem : Bool) (path : List Text) (name : Text) :
    Option Document := do
  let root ← document.root.update .implied
    (if isItem then Node.openItem name else Node.openTable name) path
  return ⟨root, path ++ [name]⟩

def assign (document : Document) (path : List Text) (name : Text) (value : Value) :
    Option Document := do
  let root ← document.root.update .implied (Node.insertKey path name value) document.path
  return ⟨root, document.path⟩

def line? (document : Document) (text : Text) : Option (Document × Text) :=
  match skipSpaces text with
  | '[' :: '[' :: rest => do
    let ((path, name), rest) ← key? rest
    match rest with
    | ']' :: ']' :: rest => return (← document.enter true path name, ← lineEnd false rest)
    | _ => none
  | '[' :: rest => do
    let ((path, name), rest) ← key? rest
    match rest with
    | ']' :: rest => return (← document.enter false path name, ← lineEnd false rest)
    | _ => none
  | text =>
    match lineEnd false text with
    | some rest => some (document, rest)
    | none => do
      let ((path, name, value), rest) ←
        assignment (fun rest => some (skipSpaces rest)) (value? depthLimit) text
      return (← document.assign path name value, ← lineEnd false rest)

/-- Reads the lines of a document. Each takes at least one character, so as many steps as there are
characters are enough. -/
def lines? (document : Document) : Nat → Text → Option Document
  | _, [] => some document
  | 0, _ :: _ => none
  | steps + 1, text => do
    let (document, rest) ← document.line? text
    lines? document steps rest

end Document

def withoutMark : Text → Text
  | [] => []
  | c :: rest => if c.toNat = 0xFEFF then rest else c :: rest

def read? (text : Text) : Option Value := do
  let text := withoutMark text
  let document ← (⟨Node.root, []⟩ : Document).lines? text.length text
  return document.root.toValue

end Stencil.Toml
