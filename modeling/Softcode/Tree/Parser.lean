import Softcode.Error
import Softcode.Token.Stream
import Softcode.Tree.Basic
import Softcode.Tree.SyntaxError

namespace Softcode

/-!
# Reading softcode

The parser descends into what it reads: a sequence of nodes reads the calls, brackets and braces in
it, and these read the sequences in them.  It looks at the current token only.  Where a construct is
not closed, it notes an error and goes on, so that there is a tree in any case.

Which tokens end a sequence, and what calls, parentheses and braces mean in it, is its `Scope`.
-/

/-- How a sequence of nodes is read. -/
structure Scope where
  /-- The tokens that end the sequence. -/
  stops : List TokenKind
  /-- Is a name with a parenthesis at the very beginning a call? -/
  calls : Bool
  /-- What groups in braces mean. -/
  braces : BraceMode
  /-- Are blanks before the sequence skipped? -/
  skipsBlanks : Bool := false
deriving Repr, DecidableEq

namespace Scope

/-- A whole expression. -/
def expression : Scope := { stops := [], calls := true, braces := .strip }

/-- An argument of a call. -/
def callArgument : Scope :=
  { stops := [.comma, .closeParen], calls := true, braces := .strip, skipsBlanks := true }

/-- The body of square brackets. -/
def bracketBody : Scope := { stops := [.closeBracket], calls := true, braces := .strip }

/-- The body of braces. -/
def braceBody : Scope := { stops := [.closeBrace], calls := false, braces := .keep }

/-- An argument of a command, up to one of `stops`. -/
def commandArgument (stops : List TokenKind) : Scope :=
  { stops, calls := true, braces := .literal }

/-- A command, up to one of `stops`. -/
def command (stops : List TokenKind) : Scope :=
  { stops, calls := false, braces := .literal, skipsBlanks := true }

/-- Do parentheses that open no call protect what is between them?  They do where a comma, a closing
    parenthesis or an equals sign would end the sequence. -/
def nestsParens (s : Scope) : Bool :=
  s.calls && s.stops.any fun k => k == .comma || k == .closeParen || k == .equals

end Scope

/-- Add text behind nodes, of which the last one is given first.  It continues text directly before
    it. -/
def pushText (nodes : List Node) (span : Span) : List Node :=
  match nodes with
  | .text last :: before =>
    if last.stop = span.start then .text ⟨last.start, span.stop⟩ :: before
    else .text span :: nodes
  | _ => .text span :: nodes

/-- The span of a command, which does not include blanks at its end. -/
def commandSpan (text : List Char) (body : Argument) : Span :=
  match body.nodes.getLast? with
  -- Blanks at the end can only be in text that stands last.
  | some (.text last) =>
    ⟨body.span.start, body.span.stop - ((last.of text).reverse.takeWhile Text.isBlank).length⟩
  | _ => body.span

/-! ### The parser -/

/-- A text that is being read: where the parser is, and what it has found wrong so far. -/
structure Parser where
  input : List Char
  lines : LineIndex
  stream : TokenStream
  errors : List SyntaxError := []

namespace Parser

/-- At the beginning of a text. -/
def ofChars (input : List Char) : Parser :=
  { input, lines := .ofChars input, stream := .ofChars input }

/-- The current token. -/
def peek (p : Parser) : Token := p.stream.current

/-- The kind of the current token. -/
def kind (p : Parser) : TokenKind := p.peek.kind

/-- Go on behind the current token. -/
def advance (p : Parser) : Parser := { p with stream := p.stream.advance.2 }

/-- How many tokens are left. -/
def left (p : Parser) : Nat := p.stream.left

/-- Where the token ends that was passed last. -/
def lastEnd (p : Parser) : Nat :=
  match p.stream.index with
  | 0 => 0
  | i + 1 => ((p.stream.get? i).map (·.span.stop)).getD 0

/-- Note that something is wrong at the current token, with what `opener` has opened. -/
def errorAtCurrent (p : Parser) (opener : Token) (message : String) (expected : List TokenKind) :
    Parser :=
  let current := p.peek
  let place := p.lines.position current.span.start
  { p with errors := p.errors ++ [{
      line := place.line
      column := place.character
      range := p.lines.range opener.span.start (max current.span.stop current.span.start)
      message
      offending := some
        (if current.kind = .eof then TokenKind.eof.describe else String.ofList current.chars)
      expected := expected.map TokenKind.describe
      input := p.input }] }

theorem left_advance {p : Parser} (h : p.kind ≠ .eof) : p.advance.left < p.left :=
  TokenStream.left_advance h

/-- Go on behind blanks. -/
def skipBlanks (p : Parser) : Parser :=
  if _h : p.kind = .whitespace then p.advance.skipBlanks else p
termination_by p.left
decreasing_by exact left_advance (by rw [_h]; simp)

/-- Go to where a sequence begins. -/
def enter (scope : Scope) (p : Parser) : Parser :=
  if scope.skipsBlanks then p.skipBlanks else p

theorem left_skipBlanks (p : Parser) : p.skipBlanks.left ≤ p.left := by
  fun_induction skipBlanks p with
  | case1 p h ih => exact Nat.le_trans ih (Nat.le_of_lt (left_advance (by rw [h]; simp)))
  | case2 p h => exact Nat.le_refl _

theorem left_enter (scope : Scope) (p : Parser) : (p.enter scope).left ≤ p.left := by
  unfold enter
  split
  · exact left_skipBlanks p
  · exact Nat.le_refl _

/-- Go on behind the token that closes what `opener` has opened, or note that it is missing. -/
def closeWith (p : Parser) (kind : TokenKind) (opener : Token) (message : String) : Parser :=
  if p.kind = kind then p.advance else p.errorAtCurrent opener message [kind]

theorem left_advance_le (p : Parser) : p.advance.left ≤ p.left := by
  by_cases h : p.kind = .eof
  · have hsame : p.stream.advance.2 = p.stream := if_pos h
    rw [left, advance, hsame]
    exact Nat.le_refl _
  · exact Nat.le_of_lt (left_advance h)

theorem left_closeWith (p : Parser) (kind : TokenKind) (opener : Token) (message : String) :
    (p.closeWith kind opener message).left ≤ p.left := by
  unfold closeWith
  split
  · exact left_advance_le p
  · exact Nat.le_refl _

/-- What has been read, and the parser behind it, with at most `n` tokens left. -/
structure Read (α : Type) (n : Nat) where
  value : α
  rest : Parser
  left_le : rest.left ≤ n

/-! ### Sequences of nodes -/

mutual

/-- Read a sequence of nodes. -/
def sequence (scope : Scope) (p : Parser) : Read Argument p.left :=
  have hbegun : (p.enter scope).left ≤ p.left := left_enter scope p
  let start := (p.enter scope).peek.span.start
  let body := nodes scope [] 0 true (p.enter scope)
  { value :=
      { nodes := body.value.reverse, span := ⟨start, max body.rest.peek.span.start start⟩ }
    rest := body.rest
    left_le := Nat.le_trans body.left_le hbegun }
termination_by 5 * p.left + 2

/-- Read nodes up to a token that ends the sequence, behind those that are given, the last one
    first.  So many parentheses that open no call are open, and `first` says that nothing has been
    read. -/
def nodes (scope : Scope) (done : List Node) (parens : Nat) (first : Bool) (p : Parser) :
    Read (List Node) p.left :=
  if h : p.kind = .eof ∨ parens = 0 ∧ p.kind ∈ scope.stops then
    { value := done, rest := p, left_le := Nat.le_refl _ }
  else
    -- A node takes at least one token, which is why the sequence comes to an end.
    have hadvance : p.advance.left < p.left := left_advance fun heof => h (.inl heof)
    let step := node scope done parens first p hadvance
    have hstep : step.rest.left < p.left := Nat.lt_of_le_of_lt step.left_le hadvance
    let more := nodes scope step.value.1 step.value.2 false step.rest
    { value := more.value
      rest := more.rest
      left_le := Nat.le_of_lt (Nat.lt_of_le_of_lt more.left_le hstep) }
termination_by 5 * p.left + 1

/-- Read one more node, or text that belongs to the last one. -/
def node (scope : Scope) (done : List Node) (parens : Nat) (first : Bool) (p : Parser)
    (_h : p.advance.left < p.left) : Read (List Node × Nat) p.advance.left :=
  let token := p.peek
  let text (parens : Nat) : Read (List Node × Nat) p.advance.left :=
    { value := (pushText done token.span, parens), rest := p.advance, left_le := Nat.le_refl _ }
  let one (new : List Node) : Read (List Node × Nat) p.advance.left :=
    { value := (new ++ done, parens), rest := p.advance, left_le := Nat.le_refl _ }
  let construct (r : Read Node p.advance.left) : Read (List Node × Nat) p.advance.left :=
    { value := (r.value :: done, parens), rest := r.rest, left_le := r.left_le }
  match token.kind with
  | .functionHead =>
    -- A name with a parenthesis is a call at the very beginning only; later it is text.
    if first && scope.calls then construct (call token p.advance)
    else text (if scope.nestsParens then parens + 1 else parens)
  | .openParen => text (if scope.nestsParens then parens + 1 else parens)
  | .closeParen => text (parens - 1)
  | .openBracket => construct (bracket token p.advance)
  | .openBrace => construct (brace token scope.braces p.advance)
  | .escape => one [.escape ⟨token.span.start + 1, token.span.stop⟩]
  | .substitution => one (token.substitution.toList.map (.substitution · token.span))
  | _ => text parens
termination_by 5 * p.left + 0

/-- Read a call, behind its head. -/
def call (head : Token) (p : Parser) : Read Node p.left :=
  let name := String.ofList head.chars.dropLast
  let args := arguments head name [] p
  { value := .call name ⟨head.span.start, head.span.stop - 1⟩ args.value
      ⟨head.span.start, args.rest.lastEnd⟩
    rest := args.rest
    left_le := args.left_le }
termination_by 5 * p.left + 4

/-- Read the arguments of a call, behind those that are given, the last one first. -/
def arguments (head : Token) (name : String) (done : List Argument) (p : Parser) :
    Read (List Argument) p.left :=
  let arg := sequence .callArgument p
  if h : arg.rest.kind = .comma then
    have hadvance : arg.rest.advance.left < p.left :=
      Nat.lt_of_lt_of_le (left_advance (by rw [h]; simp)) arg.left_le
    let more := arguments head name (arg.value :: done) arg.rest.advance
    { value := more.value
      rest := more.rest
      left_le := Nat.le_of_lt (Nat.lt_of_le_of_lt more.left_le hadvance) }
  else if h : arg.rest.kind = .closeParen then
    { value := (arg.value :: done).reverse
      rest := arg.rest.advance
      left_le := Nat.le_of_lt (Nat.lt_of_lt_of_le (left_advance (by rw [h]; simp)) arg.left_le) }
  else
    { value := (arg.value :: done).reverse
      -- Nothing is skipped: what stands here is for whoever reads on.
      rest := arg.rest.errorAtCurrent head ("Missing ')' in call to function " ++ name)
        [.comma, .closeParen]
      left_le := arg.left_le }
termination_by 5 * p.left + 3

/-- Read what is in square brackets, behind the one that opens them. -/
def bracket (head : Token) (p : Parser) : Read Node p.left :=
  let body := sequence .bracketBody p
  let after := body.rest.closeWith .closeBracket head "Unclosed '['"
  { value := .bracket body.value.nodes ⟨head.span.start, after.lastEnd⟩
    rest := after
    left_le := Nat.le_trans (left_closeWith _ _ _ _) body.left_le }
termination_by 5 * p.left + 3

/-- Read a group in braces, behind the one that opens it. -/
def brace (head : Token) (mode : BraceMode) (p : Parser) : Read Node p.left :=
  let body := sequence .braceBody p
  let after := body.rest.closeWith .closeBrace head "Unclosed '\x7b'"
  { value := .brace mode body.value.nodes ⟨head.span.start, after.lastEnd⟩ body.value.span
    rest := after
    left_le := Nat.le_trans (left_closeWith _ _ _ _) body.left_le }
termination_by 5 * p.left + 3

end

/-! ### Commands and their arguments -/

/-- Find a command.  It is read so that a separator in brackets or braces does not end it; cutting
    it into its arguments has to wait until it is known which command it is. -/
def command (stops : List TokenKind) (p : Parser) : Read Span p.left :=
  let body := p.sequence (.command stops)
  { value := commandSpan p.input body.value, rest := body.rest, left_le := body.left_le }

/-- Find commands with semicolons between them, except those that are empty. -/
def commandList (p : Parser) : List Span × Parser :=
  let command := p.command [.semicolon]
  let kept := if command.value.isEmpty then [] else [command.value]
  if _h : command.rest.kind = .semicolon then
    let more := command.rest.advance.commandList
    (kept ++ more.1, more.2)
  else (kept, command.rest)
termination_by p.left
decreasing_by exact Nat.lt_of_lt_of_le (left_advance (by rw [_h]; simp)) command.left_le

/-- Read arguments with commas between them. -/
def commaArgs (p : Parser) : List Argument × Parser :=
  let arg := p.sequence (.commandArgument [.comma])
  if _h : arg.rest.kind = .comma then
    let more := arg.rest.advance.commaArgs
    (arg.value :: more.1, more.2)
  else ([arg.value], arg.rest)
termination_by p.left
decreasing_by exact Nat.lt_of_lt_of_le (left_advance (by rw [_h]; simp)) arg.left_le

/-- Read the whole text. -/
def tree (rule : Rule) (p : Parser) : Tree × Parser :=
  match rule with
  | .function =>
    let body := p.sequence .expression
    (.expression body.value, body.rest)
  | .singleCommand =>
    let command := p.command []
    (.command command.value, command.rest)
  | .commandList =>
    let commands := p.commandList
    (.commandList commands.1, commands.2)
  | .commaArgs =>
    let args := p.commaArgs
    (.commaArgs args.1, args.2)
  | .eqSplitArgs =>
    let left := p.sequence (.commandArgument [.equals])
    if left.rest.kind = .equals then
      let right := left.rest.advance.commaArgs
      (.eqSplitArgs left.value (some right.1), right.2)
    else (.eqSplitArgs left.value none, left.rest)
  | .eqSplitCommand =>
    let left := p.sequence (.commandArgument [.equals])
    if left.rest.kind = .equals then
      let right := left.rest.advance.sequence (.commandArgument [])
      (.eqSplitCommand left.value (some right.value), right.rest)
    else (.eqSplitCommand left.value none, left.rest)

end Parser

/-! ### The tree of a text -/

/-- What reading a text gives: a tree in any case, and all errors. -/
structure Parse where
  tree : Tree
  errors : List SyntaxError
deriving Repr

/-- Was the text read without an error? -/
def Parse.isOk (p : Parse) : Bool := p.errors.isEmpty

/-- Read a text. -/
def parse (rule : Rule) (text : List Char) : Parse :=
  let read := (Parser.ofChars text).tree rule
  { tree := read.1, errors := read.2.errors }

/-- Read a text, giving up on the first error. -/
def parseStrict (rule : Rule) (text : List Char) : Except ScriptError Tree :=
  let p := parse rule text
  match p.errors with
  | [] => .ok p.tree
  | e :: _ => .error (.malformed e.line e.column e.message)

end Softcode
