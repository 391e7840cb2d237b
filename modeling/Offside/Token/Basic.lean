import Offside.Span
import Offside.Token.Kind

/-! # Tokens

A token has no text of its own: its span is where to find it.
-/

namespace Offside

/-- A run of characters that has been given a kind. -/
structure Token where
  kind : Kind
  span : Span
  /-- How many units the line of the token is indented by. -/
  indent : Nat
deriving DecidableEq, Repr

end Offside
