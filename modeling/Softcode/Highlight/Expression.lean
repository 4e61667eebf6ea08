import Softcode.Highlight.Class
import Softcode.Tree.Parser

namespace Softcode

/-!
# Highlighting softcode

The tree of a text decides how its pieces are shown.  It is there even if the text has errors, so a
delimiter is shown only if it really stands where the tree expects it.
-/

/-- How a substitution is shown. -/
def Substitution.highlightClass : Substitution → HighlightClass
  | register _ | namedAttr _ | iteration _ | capture _ => .register
  | enactor | executor | caller => .objectReference
  | _ => .substitution

namespace Highlight

mutual

/-- The highlights of a node. -/
def ofNode (text : List Char) : Node → List Highlight
  | .text span => ofSpan text span .text
  | .escape span => ofSpan text ⟨span.start - 1, span.stop⟩ .escapeSequence
  | .substitution sub span => ofSpan text span sub.highlightClass
  | .call _ nameSpan args _ =>
    ofSpan text nameSpan .function ++ ofChar text nameSpan.stop '(' .operator ++
    ofArguments text none args ++
    match args.getLast? with
    | some last => ofChar text last.span.stop ')' .operator
    | none => []
  | .bracket body span =>
    ofChar text span.start '[' .bracketSubstitution ++ ofNodes text body ++
    ofChar text (span.stop - 1) ']' .bracketSubstitution
  | .brace mode body span inner =>
    ofChar text span.start '\x7b' .braceGroup ++
    (match mode with
      | .literal => ofSpan text inner .text
      | _ => ofNodes text body) ++
    ofChar text inner.stop '\x7d' .braceGroup
termination_by structural node => node

/-- The highlights of nodes. -/
def ofNodes (text : List Char) : List Node → List Highlight
  | [] => []
  | node :: nodes => ofNode text node ++ ofNodes text nodes
termination_by structural nodes => nodes

/-- The highlights of an argument. -/
def ofArgument (text : List Char) : NodeList Node → List Highlight
  | ⟨nodes, _⟩ => ofNodes text nodes
termination_by structural arg => arg

/-- The highlights of arguments and of the commas between them; the argument before them, if there
    is one, ends at `before`. -/
def ofArguments (text : List Char) (before : Option Nat) : List (NodeList Node) → List Highlight
  | [] => []
  | arg :: args =>
    (match before with
      | some stop => ofChar text stop ',' .operator
      | none => []) ++
    ofArgument text arg ++ ofArguments text (some arg.span.stop) args
termination_by structural args => args

end

/-- The highlights of a command: its name, and all the rest as text. -/
def ofCommand (text : List Char) (span : Span) : List Highlight :=
  let size := ((span.of text).takeWhile (!Text.isBlank ·)).length
  ofSpan text ⟨span.start, span.start + size⟩ .command ++
  ofSpan text ⟨span.start + size, span.stop⟩ .text

/-- The highlights of a tree. -/
def ofTree (text : List Char) : Tree → List Highlight
  | .expression body => ofArgument text body
  | .command span => ofCommand text span
  | .commandList spans =>
    spans.flatMap fun span => ofCommand text span ++ ofChar text span.stop ';' .operator
  | .commaArgs args => ofArguments text none args
  | .eqSplitArgs left none | .eqSplitCommand left none => ofArgument text left
  | .eqSplitArgs left (some right) =>
    ofArgument text left ++ ofChar text left.span.stop '=' .operator ++
    ofArguments text none right
  | .eqSplitCommand left (some right) =>
    ofArgument text left ++ ofChar text left.span.stop '=' .operator ++ ofArgument text right

end Highlight

end Softcode
