import Stencil.Expression.Basic
import Stencil.Plugin
import Stencil.Text.Quoted

/-! # Events of a rendering

What a rendering reports while it runs. An event is data; its level, wording and
fields are functions of it.
-/

namespace Stencil

/-- How much an event matters. -/
inductive Event.Level where
  | debug
  | warn
  | error

/-- The word for a level. -/
def Event.Level.name : Event.Level → Text
  | debug => "debug".toList
  | warn => "warn".toList
  | error => "error".toList

/-- Something that happened in a rendering. -/
inductive Event where
  /-- A variable was read that is not set. -/
  | missing (name : Text)
  /-- A function was found in one plugin although others have one of its name too. -/
  | ambiguous (function : Text) (owner : Text) (others : List Text)
  /-- A function is called with these variables. -/
  | invoked (function : FunctionRef) (vars : Variables)
  /-- The rendering was cancelled while a function was waiting. -/
  | interrupted (function : FunctionRef)
  /-- A function failed. -/
  | failed (function : FunctionRef) (failure : Failure)

namespace Event

/-- The level of an event. -/
def level : Event → Level
  | missing _ => .warn
  | ambiguous _ _ _ => .debug
  | invoked _ _ => .debug
  | interrupted _ => .debug
  | failed _ _ => .error

/-- The sentence that reports an event. -/
def message : Event → Text
  | missing name => "variable `$".toList ++ name ++ "` not found".toList
  | ambiguous _ _ _ => "ambiguous function name, using the first registered plugin".toList
  | invoked _ _ => "invoking function".toList
  | interrupted _ => "render cancelled during invocation".toList
  | failed _ _ => "function failed".toList

/-- The particulars of an event. -/
def fields : Event → List (Text × Text)
  | missing name => [("variable".toList, name)]
  | ambiguous function owner others =>
    [("function".toList, function), ("plugin".toList, owner),
      ("others".toList, '[' :: Text.joined [',', ' '] (others.map Text.shown) ++ [']'])]
  | invoked function _ => [("function".toList, function.content)]
  | interrupted function => [("function".toList, function.content)]
  | failed function failure =>
    [("function".toList, function.content), ("error".toList, failure.message)]

/-- The events of reading a variable. -/
def ofRead (vars : Variables) (name : Text) : List Event :=
  if vars.contains name then [] else [.missing name]

/-- The events of finding a function. -/
def ofMatch {σ : Type} (function : Text) (found : Match σ) : List Event :=
  if found.others.isEmpty then [] else [.ambiguous function found.owner found.others]

end Event

end Stencil
