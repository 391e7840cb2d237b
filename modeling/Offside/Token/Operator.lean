import Offside.Text.Basic

/-! # Operators

Every operator has one spelling, by which it is called in messages.
-/

namespace Offside

/-- The operators and signs of the language, by how they look. -/
inductive Operator where
  | leftParen | rightParen | leftBracket | rightBracket | leftBrace | rightBrace
  | plus | plusPlus | plusEqual | minus | minusMinus | minusEqual
  | star | starStar | starEqual | starStarEqual
  | slash | slashSlash | slashEqual | slashSlashEqual
  | percent | percentEqual
  | ampersand | doubleAmpersand | bar | doubleBar
  | less | lessEqual | greater | greaterEqual | bang | bangEqual | equal | doubleEqual
  | dot | comma | colon | semicolon | question | arrow
deriving DecidableEq, Repr

namespace Operator

/-- What the operator looks like. -/
def spelling : Operator → Text
  | leftParen => ['('] | rightParen => [')']
  | leftBracket => ['['] | rightBracket => [']']
  | leftBrace => ['{'] | rightBrace => ['}']
  | plus => ['+'] | plusPlus => ['+', '+'] | plusEqual => ['+', '=']
  | minus => ['-'] | minusMinus => ['-', '-'] | minusEqual => ['-', '=']
  | star => ['*'] | starStar => ['*', '*'] | starEqual => ['*', '=']
  | starStarEqual => ['*', '*', '=']
  | slash => ['/'] | slashSlash => ['/', '/'] | slashEqual => ['/', '=']
  | slashSlashEqual => ['/', '/', '=']
  | percent => ['%'] | percentEqual => ['%', '=']
  | ampersand => ['&'] | doubleAmpersand => ['&', '&']
  | bar => ['|'] | doubleBar => ['|', '|']
  | less => ['<'] | lessEqual => ['<', '=']
  | greater => ['>'] | greaterEqual => ['>', '=']
  | bang => ['!'] | bangEqual => ['!', '=']
  | equal => ['='] | doubleEqual => ['=', '=']
  | dot => ['.'] | comma => [','] | colon => [':'] | semicolon => [';']
  | question => ['?'] | arrow => ['-', '>']

/-- Every operator shows at least one character. -/
theorem exists_spelling_eq_cons (operator : Operator) :
    ∃ first rest, operator.spelling = first :: rest := by
  cases operator <;> exact ⟨_, _, rfl⟩

end Operator

end Offside
