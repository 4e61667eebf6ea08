import Softcode.Lock.Expr
import Softcode.Text.Alphanumeric
import Softcode.Text.Case

namespace Softcode

/-!
# Reading locks

In a lock, `!` binds tighter than `&`, which binds tighter than `|`, and both group to the left.
The reader goes through the text once.  For each open parenthesis it keeps what stands to the left
of the operand that it is reading: the left sides of a pending `|` and of a pending `&`, and the
number of pending negations.
-/

/-! ### Keys

Each reader gives what it has read and the number of characters that this takes.
-/

namespace Key

/-- Does `c` end the free text of a key? -/
def isOperator (c : Char) : Bool := ['&', '|', '(', ')'].contains c

/-- Read the longest run of characters that satisfy `p`, which must not be blank, without blanks
    around it. -/
def readRun (p : Char → Bool) (cs : List Char) : Option (String × Nat) :=
  let run := cs.takeWhile p
  if Text.allBlank run then none else some (String.ofList (Text.trim run), run.length)

/-- Can `c` stand in free text? -/
def isValueChar (c : Char) : Bool := !isOperator c

/-- Read free text up to the next operator or parenthesis. -/
def readValue : List Char → Option (String × Nat) :=
  readRun isValueChar

/-- Can `c` stand in the name of an object? -/
def isNameChar (c : Char) : Bool := !(isOperator c || ['/', '#', ':', '^'].contains c)

/-- Read the name of an object. -/
def readName : List Char → Option (String × Nat) :=
  readRun isNameChar

/-- Read a non-empty run of characters that satisfy `p`. -/
def readWhile (p : Char → Bool) (cs : List Char) : Option (String × Nat) :=
  let run := cs.takeWhile p
  if run.isEmpty then none else some (String.ofList run, run.length)

/-- Read a word of ASCII letters. -/
def readLetters : List Char → Option (String × Nat) :=
  readWhile Char.isAlpha

/-- Can `c` stand in the name of an attribute? -/
def isAttributeChar (c : Char) : Bool :=
  Text.isAlphanumeric c || ['_', '-', '.', '`', '~'].contains c

/-- Read the name of an attribute. -/
def readAttribute : List Char → Option (String × Nat) :=
  readWhile isAttributeChar

/-- The minus sign that a text begins with, if it does. -/
def signOf (cs : List Char) : List Char :=
  if cs.head? = some '-' then ['-'] else []

/-- The colon and the digits that a text begins with, if it does. -/
def timeOf : List Char → List Char
  | ':' :: rest =>
    let digits := rest.takeWhile Char.isDigit
    if digits.isEmpty then [] else ':' :: digits
  | _ => []

/-- Read a reference: a number sign, an optional minus sign, digits, and optionally a colon and more
    digits. -/
def readReference (cs : List Char) : Option (Reference × Nat) :=
  match cs with
  | '#' :: rest =>
    let sign := signOf rest
    let after := rest.drop sign.length
    let digits := after.takeWhile Char.isDigit
    let text := '#' :: (sign ++ digits ++ timeOf (after.dropWhile Char.isDigit))
    if digits.isEmpty then none
    else (Reference.read text).toOption.map fun r => (r, text.length)
  | _ => none

/-- Read the target of a key. -/
def readTarget (cs : List Char) : Option (Target × Nat) :=
  match readReference cs with
  | some (r, n) => some (.ref r, n)
  | none => (readName cs).map fun (word, n) => (.name word, n)

/-- Read what one reader accepts, then the character `c`, then what the other accepts. -/
def readPair (first : List Char → Option (String × Nat)) (c : Char)
    (second : List Char → Option (String × Nat)) (cs : List Char) :
    Option ((String × String) × Nat) := do
  let (a, n) ← first cs
  if (cs.drop n).head? ≠ some c then failure
  let (b, m) ← second (cs.drop (n + 1))
  return ((a, b), n + 1 + m)

/-- The key that a word before a caret makes of the text after it. -/
def keyed? (word value : String) : Option Key :=
  match lowerName word with
  | "type" => some (.kind value)
  | "name" => some (.name value)
  | "flag" => some (.flag value)
  | "power" => some (.power value)
  | "dbreflist" => some (.dbrefList value)
  | "ip" => some (.ip value)
  | "hostname" => some (.hostname value)
  | "channel" => some (.channel value)
  | _ => none

/-- Read a key that begins with a sign before its target. -/
def readSigned (cs : List Char) : Option (Key × Nat) :=
  match cs with
  | '=' :: rest => (readTarget rest).map fun (t, n) => (.exact t, n + 1)
  | '+' :: rest => (readTarget rest).map fun (t, n) => (.carry t, n + 1)
  | '$' :: rest => (readTarget rest).map fun (t, n) => (.owner t, n + 1)
  | '@' :: rest => do
    let (t, n) ← readTarget rest
    match rest.drop n with
    | '/' :: after =>
      match readLetters after with
      | some (lock, m) => return (.indirect t (some lock), n + m + 2)
      | none => return (.indirect t none, n + 1)
    | _ => return (.indirect t none, n + 1)
  | _ => none

/-- Read a key that is neither a constant nor a word with a caret. -/
def readPlain (cs : List Char) : Option (Key × Nat) :=
  readSigned cs
    <|> (readReference cs).map (fun (r, n) => (.bare (.ref r), n))
    <|> (readPair readAttribute ':' readValue cs).map
      (fun ((attr, value), n) => (.unlockerAttr (upperName attr) value, n))
    <|> (readPair readAttribute '/' readValue cs).map
      (fun ((attr, value), n) => (.lockedAttr (upperName attr) value, n))
    <|> (readAttribute cs).map fun (word, n) => (.bare (.name word), n)

/-- Read a key.  A word before a caret must be one that makes a key. -/
def read (cs : List Char) : Option (Key × Nat) :=
  if Text.sameName (cs.take 5) "#true".toList then some (.always, 5)
  else if Text.sameName (cs.take 6) "#false".toList then some (.never, 6)
  else match readPair readLetters '^' readValue cs with
    | some ((word, value), n) => (keyed? word value).map fun k => (k, n)
    | none => readPlain cs

end Key

/-! ### Expressions -/

/-- Where and why a text is no lock. -/
structure LockError where
  offset : Nat
  /-- The word that stands there. -/
  found : String
deriving Repr, DecidableEq

namespace LockError

/-- What the error says. -/
def message (e : LockError) : String :=
  "unexpected " ++ e.found ++ " at character " ++ toString e.offset

/-- The error of a text of which `rest` could not be read. -/
def ofRest (text rest : List Char) : LockError :=
  { offset := text.length - rest.length
    found := match Text.words rest with
      | word :: _ => String.ofList word
      | [] => "<EOF>" }

end LockError

/-- What stands to the left of an operand, up to the parenthesis around it. -/
structure Pending where
  /-- The left side of a `|`. -/
  ors : Option LockExpr := none
  /-- The left side of an `&`. -/
  ands : Option LockExpr := none
  /-- The number of negations. -/
  nots : Nat := 0
deriving Repr, DecidableEq

namespace Pending

/-- Negate an operand as often as it is preceded by a negation. -/
def negate (p : Pending) (e : LockExpr) : LockExpr := p.nots.repeat .not e

/-- The conjunction that ends with the operand `e`. -/
def conjunction (p : Pending) (e : LockExpr) : LockExpr :=
  match p.ands with
  | some a => .and a e
  | none => e

/-- The disjunction that ends with the operand `e`. -/
def disjunction (p : Pending) (e : LockExpr) : LockExpr :=
  match p.ors with
  | some a => .or a (p.conjunction e)
  | none => p.conjunction e

end Pending

namespace LockExpr

/-- Is `c` skipped between keys and operators? -/
def isGap (c : Char) : Bool := [' ', '\t', '\r', '\n'].contains c

/-- Read the rest of a lock.  `pending` stands to the left, `outer` to the left of the open
    parentheses, the innermost first, and `operand` is what has just been read, if the reader is
    behind an operand.  Fails with the text that could not be read. -/
def readFrom (pending : Pending) (outer : List Pending) (operand : Option LockExpr) :
    List Char → Except (List Char) LockExpr
  | [] =>
    match operand, outer with
    | some e, [] => .ok (pending.disjunction e)
    | _, _ => .error []
  | c :: cs =>
    if isGap c then readFrom pending outer operand cs
    else match operand with
      | none =>
        -- An operand is to come: only a negation, a parenthesis or a key can stand here.
        if c = '!' then readFrom { pending with nots := pending.nots + 1 } outer none cs
        else if c = '(' then readFrom {} (pending :: outer) none cs
        else match Key.read (c :: cs) with
          | some (k, n) =>
            readFrom pending outer (some (pending.negate (.key k))) (cs.drop (n - 1))
          | none => .error (c :: cs)
      | some e =>
        -- An operand has been read: it becomes the left side of what follows, or ends a
        -- parenthesis.
        if c = '&' then
          readFrom { ors := pending.ors, ands := some (pending.conjunction e) } outer none cs
        else if c = '|' then readFrom { ors := some (pending.disjunction e) } outer none cs
        else match outer with
          | p :: outer =>
            if c = ')' then
              readFrom p outer (some (p.negate (.group (pending.disjunction e)))) cs
            else .error (c :: cs)
          | [] => .error (c :: cs)
termination_by cs => cs.length
decreasing_by all_goals (simp; try omega)

/-- Read a lock. -/
def read (text : List Char) : Except LockError LockExpr :=
  match readFrom {} [] none text with
  | .ok e => .ok e
  | .error rest => .error (.ofRest text rest)

end LockExpr

end Softcode
