import Stencil.Value

/-! # Tables under construction

A document builds one table. Tables in it are opened by headers, come about on
the way to a table further down, or come about through dotted keys; the way a
table came about decides who may add to it. Arrays of tables grow by one table
for each header. Anything else is closed once it is written.
-/

namespace Stencil.Toml

/-- How a table came about. -/
inductive Origin where
  /-- It was opened by a header of its own. -/
  | header
  /-- It lies on the way to a table that a header opened. -/
  | implied
  /-- It lies on the way of a dotted key, whatever made it. -/
  | dotted
deriving DecidableEq

/-- A part of a document. -/
inductive Node where
  | closed (value : Value)
  | table (origin : Origin) (members : List (Text × Node))
  /-- An array of tables, the latest first. -/
  | tables (items : List Node)

namespace Node

/-- The member of a name. -/
def find? (name : Text) : List (Text × Node) → Option Node
  | [] => none
  | (other, node) :: rest => if other = name then some node else find? name rest

/-- The members with the one of a name replaced. -/
def replace (name : Text) (node : Node) : List (Text × Node) → List (Text × Node)
  | [] => []
  | (other, old) :: rest =>
    if other = name then (other, node) :: rest else (other, old) :: replace name node rest

/-- Changes the table at the end of a path by `change`; tables missing on the way are made with an
origin. Within an array of tables the way leads through the latest. A dotted key makes every table
on its way dotted, and so does not lead through one that has a header. -/
def update (origin : Origin) (change : Node → Option Node) : List Text → Node → Option Node
  | [], node => change node
  | name :: path, .table own members =>
    match find? name members with
    | none => do
      let child ← update origin change path (.table origin [])
      return .table own (members ++ [(name, child)])
    | some (.table childOrigin inner) =>
      if origin = .dotted ∧ childOrigin = .header then none
      else do
        let childOrigin := if origin = .dotted then .dotted else childOrigin
        let child ← update origin change path (.table childOrigin inner)
        return .table own (replace name child members)
    -- the latest table stands for the whole array
    | some (.tables (latest :: earlier)) => do
      let child ← update origin change path latest
      return .table own (replace name (.tables (child :: earlier)) members)
    | some _ => none
  | _ :: _, _ => none

/-- Adds a value to a table. The last table of a dotted key must itself be dotted, and no other may
be. -/
def insert (isDotted : Bool) (name : Text) (value : Value) : Node → Option Node
  | .table origin members =>
    if isDotted != (origin == .dotted) then none
    else if (find? name members).isSome then none
    else some (.table origin (members ++ [(name, .closed value)]))
  | _ => none

/-- Adds a value under a key, given by the parts before its last dot and the last part. -/
def insertKey (path : List Text) (name : Text) (value : Value) (node : Node) : Option Node :=
  update .dotted (insert (!path.isEmpty) name value) path node

/-- Opens a table by a header, unless it is open already. -/
def openTable (name : Text) : Node → Option Node
  | .table origin members =>
    match find? name members with
    | none => some (.table origin (members ++ [(name, .table .header [])]))
    | some (.table .implied inner) =>
      some (.table origin (replace name (.table .header inner) members))
    | some _ => none
  | _ => none

/-- Adds a table to an array of tables, which is made if there is none. -/
def openItem (name : Text) : Node → Option Node
  | .table origin members =>
    match find? name members with
    | none => some (.table origin (members ++ [(name, .tables [.table .header []])]))
    | some (.tables items) =>
      some (.table origin (replace name (.tables (.table .header [] :: items)) members))
    | some _ => none
  | _ => none

/-- The table that a document or an inline table starts with. -/
def root : Node := .table .header []

mutual

/-- The value that a part of a document stands for. -/
def toValue : Node → Value
  | .closed value => value
  | .table _ members => .object (memberValues members)
  | .tables items => .list (itemValues items).reverse

/-- The values of the members of a table. -/
def memberValues : List (Text × Node) → List (Text × Value)
  | [] => []
  | (name, node) :: rest => (name, toValue node) :: memberValues rest

/-- The values of the tables of an array. -/
def itemValues : List Node → List Value
  | [] => []
  | node :: rest => toValue node :: itemValues rest

end

end Node

end Stencil.Toml
