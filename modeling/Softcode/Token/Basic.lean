import Softcode.Source.Span

namespace Softcode

/-!
# Tokens

The words of softcode: brackets and separators, escapes, substitutions, runs of blanks, numbers,
function names with their opening parenthesis, and all other text.
-/

/-- What a pronoun stands for in a sentence. -/
inductive Pronoun where
  | subjective | objective | possessive | absolute
deriving Repr, DecidableEq

/-- What a percent sign and the characters after it stand for. -/
inductive Substitution where
  /-- An argument of the current call. -/
  | argument (index : Nat)
  /-- A register. -/
  | register (name : String)
  /-- The current element of an enclosing loop, the innermost being 0. -/
  | iteration (level : Nat)
  /-- What a command pattern has captured. -/
  | capture (name : String)
  /-- An attribute with a name of two letters. -/
  | namedAttr (name : String)
  | space
  | newline
  | tab
  | percent
  | enactor
  | executor
  | caller
  | enactorName (capitalized : Bool)
  | moniker
  | accentedName
  | pronoun (kind : Pronoun) (capitalized : Bool)
  | location
  | currentCommand
  | argumentCount
  | invocationDepth
  /-- Any other character, which stands for itself. -/
  | literal (c : Char)
deriving Repr, DecidableEq

/-- The class of a token. -/
inductive TokenKind where
  /-- A name with the opening parenthesis after it. -/
  | functionHead
  | openParen | closeParen
  | openBracket | closeBracket
  | openBrace | closeBrace
  | comma | equals | semicolon
  /-- A backslash and the character after it. -/
  | escape
  | substitution
  | whitespace
  | number
  | text
  /-- The end of the input. -/
  | eof
deriving Repr, DecidableEq

/-- The class as messages name it. -/
def TokenKind.describe : TokenKind → String
  | functionHead => "function"
  | openParen => "'('"
  | closeParen => "')'"
  | openBracket => "'['"
  | closeBracket => "']'"
  | openBrace => "'\x7b'"
  | closeBrace => "'\x7d'"
  | comma => "','"
  | equals => "'='"
  | semicolon => "';'"
  | escape => "escape"
  | substitution => "substitution"
  | whitespace => "whitespace"
  | number => "number"
  | text => "text"
  | eof => "<EOF>"

/-- A token with its characters and their place in the source. -/
structure Token where
  kind : TokenKind
  chars : List Char
  span : Span
  /-- What a substitution stands for. -/
  substitution : Option Substitution := none
deriving Repr, DecidableEq

end Softcode
