import Softcode.Regex.Escape

namespace Softcode

/-!
# Globs

A glob is a pattern with wildcards: `?` stands for one character and `*` for any run of characters.
A backslash takes the meaning from the character after it.  Globs are matched as regular
expressions.
-/

/-- What globs are used for. -/
inductive GlobStyle where
  /-- Names of attributes: a wildcard stays within a segment, and `**` crosses segments. -/
  | attributeName
  /-- Command patterns: what each wildcard takes is captured. -/
  | capturing
  /-- Keys of locks. -/
  | plain
deriving Repr, DecidableEq

/-- One item of a glob. -/
inductive GlobItem where
  /-- The character itself. -/
  | char (c : Char)
  /-- One character. -/
  | one
  /-- Any run of characters. -/
  | run
  /-- Any run of characters, across segments. -/
  | deepRun
deriving Repr, DecidableEq

namespace GlobItem

/-- The items of a glob.  A backslash at the end stands for itself. -/
def read (style : GlobStyle) : List Char → List GlobItem
  | [] => []
  | ['\\'] => [char '\\']
  | '\\' :: c :: cs => char c :: read style cs
  | '?' :: cs => one :: read style cs
  | '*' :: '*' :: cs =>
    if style = .attributeName then deepRun :: read style cs else run :: read style ('*' :: cs)
  | '*' :: cs => run :: read style cs
  | c :: cs => char c :: read style cs
termination_by cs => cs.length

/-- The regular expression of an item. -/
def source (style : GlobStyle) : GlobItem → List Char
  | char c => Regex.quote c
  | one => match style with
    | .attributeName => "[^`]".toList
    | .capturing => "(.)".toList
    | .plain => ".".toList
  | run => match style with
    | .attributeName => "[^`]*".toList
    | .capturing => "(.*?)".toList
    | .plain => ".*".toList
  | deepRun => ".*".toList

end GlobItem

/-- The regular expression of a glob, which takes the whole text. -/
def globSource (style : GlobStyle) (caseSensitive : Bool) (glob : List Char) : List Char :=
  (if caseSensitive then "(?s)^" else "(?is)^").toList
    ++ (GlobItem.read style glob).flatMap (GlobItem.source style) ++ ['$']

end Softcode
