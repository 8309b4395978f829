import Stencil.Config.Basic
import Stencil.Variables

/-! # Functions

A function is called with variables of its own and the template's
configuration. What it does besides computing a result is a finite tree of
requests: it may read and write a state that all functions of a session share,
cancel the rendering or its own call, ask whether it is cancelled, give way, or
wait until it is cancelled.
-/

namespace Stencil

/-- Why a function failed. -/
structure Failure where
  message : Text
  /-- The message of the failure behind this one. -/
  cause : Option Text := none
  /-- What has run out, for callers that act on a failure of this kind. -/
  quota : Option Text := none
deriving DecidableEq

/-- What a function is called with. Changes to the variables are its own. -/
structure Context where
  vars : Variables
  config : Config

/-- The course of a call, from one request to the next. -/
inductive Task (σ : Type) where
  /-- The call is over. -/
  | finish (result : Except Failure Text)
  /-- Reads the shared state. -/
  | load (next : σ → Task σ)
  /-- Writes the shared state. -/
  | store (state : σ) (next : Task σ)
  /-- Cancels the rendering, and with it this call and every later one. -/
  | cancelRender (next : Task σ)
  /-- Cancels this call alone. -/
  | cancelCall (next : Task σ)
  /-- Asks whether this call is cancelled. -/
  | isCancelled (next : Bool → Task σ)
  /-- Gives way once, so that a cancellation of the rendering takes effect. -/
  | pause (next : Task σ)
  /-- Goes on as soon as this call is cancelled, giving way only if it is not yet. -/
  | awaitCancel (next : Task σ)

/-- A function that blocks can call. -/
structure Function (σ : Type) where
  name : Text
  description : Text
  invoke : Context → Task σ

end Stencil
