import Softcode.Highlight.Grammar
import Softcode.Json
import Softcode.Text.Capital

namespace Softcode

/-!
# Reports on texts

What an editor can be told about a text, as one line of JSON.
-/

/-- The name of a rule. -/
def Rule.name : Rule → String
  | function => "Function"
  | singleCommand => "SingleCommand"
  | commandList => "CommandList"
  | commaArgs => "CommaArgs"
  | eqSplitArgs => "EqSplitArgs"
  | eqSplitCommand => "EqSplitCommand"

namespace Report

/-- A text of a report. -/
def string (s : String) : Json := .str s.toList

/-- The report of a position. -/
def position (p : Position) : Json := .obj [("character", .num p.character), ("line", .num p.line)]

/-- The report of a range. -/
def range (r : Range) : Json := .obj [("end", position r.stop), ("start", position r.start)]

/-- The report of a syntax error. -/
def error (e : SyntaxError) : Json :=
  .obj [("column", .num e.column), ("expected_tokens", .arr (e.expected.map string)),
    ("input_text", .str e.input), ("line", .num e.line), ("message", string e.message),
    ("offending_token", e.offending.elim .null string), ("range", range e.range)]

/-- The report of a piece of text that is highlighted. -/
def highlight (h : Highlight) : Json :=
  .obj [("range", range h.range), ("text", .str h.chars),
    ("token_type", .str (Text.capitalize h.cls.name.toList))]

/-- The report of a grammar. -/
def grammar : Grammar → Json
  | .expression rule => .obj [("Expression", string rule.name)]
  | .lock => string "Lock"

/-- The report on a text. -/
def ofText (g : Grammar) (text : List Char) : Json :=
  let highlights := g.highlights text
  .obj [("data", .arr ((Highlight.encode highlights).map (.num ·.toNat))),
    ("errors", .arr ((g.errors text).map error)), ("kind", grammar g),
    ("tokens", .arr (highlights.map highlight))]

end Report

end Softcode
