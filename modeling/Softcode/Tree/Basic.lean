import Softcode.Token.Basic

namespace Softcode

/-!
# Trees of softcode

A tree keeps spans of the source text and no copies of it, so that evaluation can cut the pieces out
of the styled source and keep their markup.
-/

/-- How a group in braces is evaluated. -/
inductive BraceMode where
  /-- The braces vanish and the body is evaluated. -/
  | strip
  /-- The braces stay and the body is evaluated. -/
  | keep
  /-- The braces vanish and the body stays as it is written. -/
  | literal
deriving Repr, DecidableEq

/-- A sequence of nodes with the span that it takes in the source. -/
structure NodeList (ν : Type) where
  nodes : List ν
  span : Span
deriving Repr

/-- A piece of softcode. -/
inductive Node where
  | text (span : Span)
  /-- An escaped character; the span is that of the character alone. -/
  | escape (span : Span)
  | substitution (sub : Substitution) (span : Span)
  | call (name : String) (nameSpan : Span) (args : List (NodeList Node)) (span : Span)
  /-- An expression in square brackets. -/
  | bracket (body : List Node) (span : Span)
  /-- A group in braces; `inner` is the span between the braces. -/
  | brace (mode : BraceMode) (body : List Node) (span inner : Span)
deriving Repr

/-- An argument of a function or of a command, or a whole expression. -/
abbrev Argument := NodeList Node

/-- The span of a node. -/
def Node.span : Node → Span
  | text span | escape span | substitution _ span | call _ _ _ span | bracket _ span
  | brace _ _ span _ => span

/-- What a text was read as, depending on the rule. -/
inductive Tree where
  | expression (body : Argument)
  /-- One command, not yet cut into its name and its arguments. -/
  | command (span : Span)
  | commandList (commands : List Span)
  | commaArgs (args : List Argument)
  /-- What is left of the first `=`, and if there is one, the arguments right of it. -/
  | eqSplitArgs (left : Argument) (right : Option (List Argument))
  /-- What is left of the first `=`, and if there is one, what is right of it. -/
  | eqSplitCommand (left : Argument) (right : Option Argument)
deriving Repr

/-- What a text is to be read as. -/
inductive Rule where
  | function | singleCommand | commandList | commaArgs | eqSplitArgs | eqSplitCommand
deriving Repr, DecidableEq

/-- Does the rule read commands? -/
def Rule.readsCommands : Rule → Bool
  | singleCommand | commandList => true
  | _ => false

end Softcode
