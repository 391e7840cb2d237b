import Offside.Text.Basic

/-! # Keywords

Words that cannot be used as names because the grammar gives them a meaning.
-/

namespace Offside

/-- The words reserved for the grammar. -/
inductive Keyword where
  | letWord | mutableWord | typeWord | forWord | inWord | breakWord | continueWord | whileWord
  | ifWord | elseWord | doWord
deriving DecidableEq, Repr

namespace Keyword

/-- What the keyword looks like. -/
def spelling : Keyword → Text
  | letWord => ['l', 'e', 't']
  | mutableWord => ['m', 'u', 't', 'a', 'b', 'l', 'e']
  | typeWord => ['t', 'y', 'p', 'e']
  | forWord => ['f', 'o', 'r']
  | inWord => ['i', 'n']
  | breakWord => ['b', 'r', 'e', 'a', 'k']
  | continueWord => ['c', 'o', 'n', 't', 'i', 'n', 'u', 'e']
  | whileWord => ['w', 'h', 'i', 'l', 'e']
  | ifWord => ['i', 'f']
  | elseWord => ['e', 'l', 's', 'e']
  | doWord => ['d', 'o']

end Keyword

end Offside
