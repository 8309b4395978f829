import Stencil.Block.Encoding
import Stencil.Config.Source
import Stencil.Function.Script
import Stencil.Function.TextPlugin
import Stencil.Json.Printer
import Stencil.Json.Reader
import Stencil.Report
import Stencil.Main
import Stencil.Proofs.Template.Simulation
import Stencil.Proofs.Template.Segments
import Stencil.Proofs.Rendering.Run
import Stencil.Proofs.Template.Passing
import Stencil.Proofs.Template.Writing
import Stencil.Proofs.Template.Literals
import Stencil.Proofs.Template.Refusals
import Stencil.Proofs.Rendering.Isolation
import Stencil.Proofs.Rendering.Cancellation
import Stencil.Proofs.Expression.Places
import Stencil.Proofs.Rendering.Likeness
import Stencil.Proofs.Rendering.Folding
import Stencil.Proofs.Rendering.Sequence
import Stencil.Proofs.Rendering.Values
import Stencil.Proofs.Rendering.Substitution
import Stencil.Proofs.Variables.History
import Stencil.Proofs.Rendering.Recasing
import Stencil.Proofs.Rendering.Coverage
import Stencil.Proofs.Template.Switching
import Stencil.Proofs.Rendering.Arguments
import Stencil.Proofs.Template.Rereading
import Stencil.Proofs.Template.Mentions
import Stencil.Proofs.Template.Locating
import Stencil.Proofs.Template.Forms
import Stencil.Proofs.Registry.Resolution
import Stencil.Proofs.Registry.Agreement
import Stencil.Proofs.Registry.Additions
import Stencil.Proofs.Rendering.Defaults
import Stencil.Proofs.Template.Listing
import Stencil.Proofs.Variables.Sameness
import Stencil.Proofs.Rendering.Reporting
import Stencil.Proofs.Cli.Assignment
import Stencil.Proofs.Rendering.TextOnly
import Stencil.Proofs.Cli.Outcome
import Stencil.Proofs.Config.Decoding
import Stencil.Proofs.Text.Lexer
import Stencil.Proofs.Expression.Walker
import Stencil.Proofs.Expression.Walking
import Stencil.Proofs.Template.Walker
import Stencil.Proofs.Template.Walking
import Stencil.Proofs.Template.Safety
