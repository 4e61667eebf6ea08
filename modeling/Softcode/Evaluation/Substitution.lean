import Softcode.Evaluation.State
import Softcode.Text.Capital
import Softcode.Token.Basic

namespace Softcode

/-!
# Substitutions

What a percent sign and the letters after it stand for.
-/

/-- The pronoun for someone.  What the first letter of the text says decides. -/
def Pronoun.word (kind : Pronoun) (sex : List Char) : String :=
  let (subject, object, possessor, owner) :=
    match sex.head?.map Char.toLower with
    | some 'm' => ("he", "him", "his", "his")
    | some 'f' | some 'w' => ("she", "her", "her", "hers")
    | some 'p' => ("they", "them", "their", "theirs")
    | _ => ("it", "it", "its", "its")
  match kind with
  | subjective => subject
  | objective => object
  | possessive => possessor
  | absolute => owner

/-- The name of an object, which is empty if there is none. -/
def EvalM.nameOf (d : Dbref) : EvalM (List Char) := do
  return ((← ask).object? d).elim [] (·.name.toList)

namespace Settings

/-- The value of an attribute of one segment, which is empty if there is none. -/
def valueOf (settings : Settings) (d : Dbref) (name : String) : EvalM Styled := do
  let path : AttributePath := ⟨[Text.upper (Text.trim name.toList)]⟩
  return ((← settings.resolve? d path).elim {} (·.value))

/-- What a substitution stands for. -/
def substitute (settings : Settings) (frame : Frame) : Substitution → EvalM Styled
  | .argument i => return frame.argument i
  | .register name => return ((← get).registers.find? frame.registers name).getD {}
  | .iteration level => return (frame.iteration? level).elim {} (·.value)
  | .capture name => return (frame.capture? name).getD {}
  | .namedAttr name => settings.valueOf frame.executor name
  | .space => return .ofString " "
  | .newline => return .ofString "\n"
  | .tab => return .ofString "\t"
  | .percent => return .ofString "%"
  | .enactor => return .ofChars (Dbref.text frame.enactor)
  | .executor => return .ofChars (Dbref.text frame.executor)
  | .caller => return .ofChars (Dbref.text frame.caller)
  | .enactorName capitalized => do
    let name ← EvalM.nameOf frame.enactor
    return .ofChars (if capitalized then Text.capitalize name else name)
  | .moniker | .accentedName => return .ofChars (← EvalM.nameOf frame.enactor)
  | .pronoun kind capitalized => do
    let word := (kind.word (← settings.valueOf frame.enactor "SEX").chars).toList
    return .ofChars (if capitalized then Text.capitalize word else word)
  | .location => do
    let location := ((← EvalM.ask).object? frame.executor).bind (·.location)
    return .ofChars (Dbref.text (location.getD Dbref.nothing))
  | .currentCommand => return .ofString (frame.command.getD "")
  | .argumentCount => return .ofChars (Number.natText frame.arguments.length)
  | .invocationDepth => do
    let invocations := (← get).invocations
    return .ofChars (Number.natText invocations ++ ' ' :: Number.natText frame.depth)
  | .literal c => return .ofChars [c]

end Settings

end Softcode
