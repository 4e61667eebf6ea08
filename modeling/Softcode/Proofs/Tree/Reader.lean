import Softcode.Proofs.Token.Lexemes
import Softcode.Tree.Parser

namespace Softcode

/-!
# A reader with a stack

The parser descends into what it reads, and what is open around the current token is where it will
go on when it comes back.  A `Reader` keeps that on a stack and takes one token after the other: the
sequence of nodes that it is reading and, for each construct that is open around it, the sequence
that will go on once the construct is closed.  What is open when the input ends is closed there and
reported, the innermost first.

Since a reader is a fold over the tokens, what each of its steps keeps holds of whatever it reads.
-/

/-- Something that has been opened, with the span of the token that opened it. -/
inductive Opener where
  | call (name : String) (head : Span)
  | bracket (head : Span)
  | brace (head : Span)
deriving Repr, DecidableEq

namespace Opener

/-- The span of the token that opened it. -/
def head : Opener → Span
  | call _ head | bracket head | brace head => head

/-- What is wrong if it is never closed. -/
def complaint : Opener → String
  | call name _ => "Missing ')' in call to function " ++ name
  | bracket _ => "Unclosed '['"
  | brace _ => "Unclosed '\x7b'"

/-- The tokens that could have stood where the input ends. -/
def expected : Opener → List TokenKind
  | call _ _ => [.comma, .closeParen]
  | bracket _ => [.closeBracket]
  | brace _ => [.closeBrace]

end Opener

/-- The report on something that the text never closes. -/
def SyntaxError.unclosed (input : List Char) (opener : Opener) : SyntaxError :=
  let index := LineIndex.ofChars input
  let place := index.position input.length
  { line := place.line
    column := place.character
    range := index.range opener.head.start input.length
    message := opener.complaint
    offending := some TokenKind.eof.describe
    expected := opener.expected.map TokenKind.describe
    input }

/-- Text is added to a node or is one. -/
theorem pushText_ne_nil (nodes : List Node) (span : Span) : pushText nodes span ≠ [] := by
  unfold pushText
  split
  · split <;> exact List.cons_ne_nil _ _
  · exact List.cons_ne_nil _ _

/-- A sequence of nodes that is being read. -/
structure Draft where
  scope : Scope
  /-- Where the sequence begins, once that is known. -/
  start : Option Nat := none
  /-- The nodes so far, the last one first. -/
  nodes : List Node := []
  /-- How many parentheses that open no call are open. -/
  parens : Nat := 0
deriving Repr

namespace Draft

/-- Add a node. -/
def add (d : Draft) (node : Node) : Draft := { d with nodes := node :: d.nodes }

/-- Add text, which continues text directly before it. -/
def addText (d : Draft) (span : Span) : Draft := { d with nodes := pushText d.nodes span }

/-- The sequence, if it ends at the offset `stop`. -/
def finish (d : Draft) (stop : Nat) : Argument :=
  { nodes := d.nodes.reverse, span := ⟨d.start.getD stop, stop⟩ }

end Draft

/-- A construct that is open: what opened it, the sequence that goes on after it, and for a call the
    arguments so far, the last one first. -/
structure OpenConstruct where
  opener : Opener
  outer : Draft
  args : List Argument := []
deriving Repr

/-- What has been read so far: the sequence being read, the open constructs around it, the innermost
    first, and the finished pieces of the whole text, the last one first. -/
structure Reader where
  rule : Rule
  draft : Draft
  enclosing : List OpenConstruct := []
  pieces : List Argument := []
deriving Repr

namespace Rule

/-- How the piece with the given index is read. -/
def scope : Rule → Nat → Scope
  | function, _ => .expression
  | singleCommand, _ => .command []
  | commandList, _ => .command [.semicolon]
  | commaArgs, _ => .commandArgument [.comma]
  | eqSplitArgs, 0 => .commandArgument [.equals]
  | eqSplitArgs, _ + 1 => .commandArgument [.comma]
  | eqSplitCommand, 0 => .commandArgument [.equals]
  | eqSplitCommand, _ + 1 => .commandArgument []

end Rule

namespace Reader

/-- Nothing has been read. -/
def initial (rule : Rule) : Reader := { rule, draft := { scope := rule.scope 0 } }

/-- Open a construct, whose body is read with `scope`. -/
def push (r : Reader) (opener : Opener) (scope : Scope) : Reader :=
  { r with draft := { scope }, enclosing := { opener, outer := r.draft } :: r.enclosing }

/-- The node of a construct that ends at `stop`, its last sequence being `body`. -/
def OpenConstruct.node (c : OpenConstruct) (body : Argument) (stop : Nat) : Node :=
  let span : Span := ⟨c.opener.head.start, stop⟩
  match c.opener with
  | .call name head =>
    .call name ⟨head.start, head.stop - 1⟩ (c.args.reverse ++ [body]) span
  | .bracket _ => .bracket body.nodes span
  | .brace _ => .brace c.outer.scope.braces body.nodes span body.span

/-- The token ends the sequence being read. -/
def stopAt (r : Reader) (token : Token) : Reader :=
  let body := r.draft.finish token.span.start
  match r.enclosing with
  | [] =>
    let pieces := body :: r.pieces
    { r with draft := { scope := r.rule.scope pieces.length }, pieces }
  | c :: enclosing =>
    if token.kind = .comma then
      -- Another argument of the call follows.
      { r with
        draft := { scope := .callArgument }
        enclosing := { c with args := body :: c.args } :: enclosing }
    else
      { r with draft := c.outer.add (OpenConstruct.node c body token.span.stop), enclosing }

/-- Read a token that does not end the sequence. -/
def accept (r : Reader) (token : Token) : Reader :=
  let d := r.draft
  match token.kind with
  | .functionHead =>
    if d.nodes.isEmpty && d.scope.calls then
      r.push (.call (String.ofList token.chars.dropLast) token.span) .callArgument
    else
      let parens := if d.scope.nestsParens then d.parens + 1 else d.parens
      { r with draft := { d with parens }.addText token.span }
  | .openParen =>
    let parens := if d.scope.nestsParens then d.parens + 1 else d.parens
    { r with draft := { d with parens }.addText token.span }
  | .closeParen => { r with draft := { d with parens := d.parens - 1 }.addText token.span }
  | .openBracket => r.push (.bracket token.span) .bracketBody
  | .openBrace => r.push (.brace token.span) .braceBody
  | .escape => { r with draft := d.add (.escape ⟨token.span.start + 1, token.span.stop⟩) }
  | .substitution =>
    match token.substitution with
    | some sub => { r with draft := d.add (.substitution sub token.span) }
    | none => r
  | _ => { r with draft := d.addText token.span }

/-- Read a token. -/
def step (r : Reader) (token : Token) : Reader :=
  if r.draft.start.isNone && r.draft.scope.skipsBlanks && token.kind = .whitespace then r
  else
    let begun := { r with draft.start := some (r.draft.start.getD token.span.start) }
    if begun.draft.parens = 0 && begun.draft.scope.stops.contains token.kind then begun.stopAt token
    else begun.accept token

/-- The pieces of the whole text, if the input ends at `stop`: open constructs end there too. -/
def close (stop : Nat) : Draft → List OpenConstruct → Argument
  | draft, [] => draft.finish stop
  | draft, c :: enclosing =>
    close stop (c.outer.add (OpenConstruct.node c (draft.finish stop) stop)) enclosing

/-- The pieces of the whole text, if the input ends at `stop`. -/
def finish (r : Reader) (stop : Nat) : List Argument :=
  (close stop r.draft r.enclosing :: r.pieces).reverse

/-- Read tokens one after the other. -/
def run (r : Reader) (tokens : List Token) : Reader :=
  tokens.foldl step r

end Reader

/-! ### The tree of a text -/

/-- The tree of a text that consists of the given pieces. -/
def Tree.ofPieces (text : List Char) : Rule → List Argument → Tree
  | .function, pieces => .expression (pieces.headD ⟨[], ⟨0, 0⟩⟩)
  | .singleCommand, pieces => .command (commandSpan text (pieces.headD ⟨[], ⟨0, 0⟩⟩))
  | .commandList, pieces =>
    .commandList ((pieces.map (commandSpan text)).filter fun span => !span.isEmpty)
  | .commaArgs, pieces => .commaArgs pieces
  | .eqSplitArgs, [] => .eqSplitArgs ⟨[], ⟨0, 0⟩⟩ none
  | .eqSplitArgs, [left] => .eqSplitArgs left none
  | .eqSplitArgs, left :: right => .eqSplitArgs left (some right)
  | .eqSplitCommand, [] => .eqSplitCommand ⟨[], ⟨0, 0⟩⟩ none
  | .eqSplitCommand, left :: right => .eqSplitCommand left right.head?

/-- Read a text. -/
def Reader.read (rule : Rule) (text : List Char) : Parse :=
  let reader := (initial rule).run (Token.scanFrom 0 text)
  { tree := .ofPieces text rule (reader.finish text.length)
    errors := reader.enclosing.map fun c => .unclosed text c.opener }

end Softcode
