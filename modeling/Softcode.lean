import Softcode.Text.Ranges
import Softcode.Text.Blank
import Softcode.Text.Case
import Softcode.Text.Alphanumeric
import Softcode.Text.Word
import Softcode.Text.Folding
import Softcode.Text.Offset
import Softcode.Text.Category
import Softcode.Text.Script
import Softcode.Text.Capital
import Softcode.Text.Quoted
import Softcode.Number.Integer
import Softcode.Number.Decimal
import Softcode.Number.Shortest
import Softcode.Styled.Markup
import Softcode.Styled.Basic
import Softcode.Styled.Terminal
import Softcode.Error
import Softcode.Source.Span
import Softcode.Source.Position
import Softcode.Object.Reference
import Softcode.Object.Basic
import Softcode.Object.Allocator
import Softcode.Settings
import Softcode.Token.Basic
import Softcode.Token.Lexer
import Softcode.Token.Stream
import Softcode.Tree.Basic
import Softcode.Tree.SyntaxError
import Softcode.Tree.Parser
import Softcode.Lock.Kind
import Softcode.Lock.Expr
import Softcode.Lock.Reader
import Softcode.Highlight.Class
import Softcode.Highlight.Expression
import Softcode.Highlight.Lock
import Softcode.Highlight.Grammar
import Softcode.Regex.CharClass
import Softcode.Regex.Property
import Softcode.Regex.Basic
import Softcode.Regex.Escape
import Softcode.Regex.Bracket
import Softcode.Regex.Reader
import Softcode.Regex.Program
import Softcode.Regex.Search
import Softcode.Table
import Softcode.Pattern.Glob
import Softcode.Pattern.Basic
import Softcode.Pattern.Cache
import Softcode.Attribute.Path
import Softcode.Attribute.Basic
import Softcode.World.Basic
import Softcode.World.Permission
import Softcode.World.Matching
import Softcode.World.Lookup
import Softcode.Lock.Condition
import Softcode.Lock.Normal
import Softcode.Lock.Cache
import Softcode.Lock.Passing
import Softcode.Stack
import Softcode.Evaluation.Limit
import Softcode.Evaluation.Registers
import Softcode.Evaluation.Frame
import Softcode.Function.Basic
import Softcode.Evaluation.State
import Softcode.Evaluation.Substitution
import Softcode.Function.Call
import Softcode.Function.Number
import Softcode.Function.Text
import Softcode.Function.Control
import Softcode.Function.Object
import Softcode.Function.Standard
import Softcode.Evaluation.Expression
import Softcode.Command.Basic
import Softcode.Command.Dispatch
import Softcode.Command.Standard
import Softcode.Engine
import Softcode.Json
import Softcode.Shell.Report
import Softcode.Shell.Options
import Softcode.Shell.Basic
import Softcode.Main
import Softcode.Proofs.Object.ReferenceText
import Softcode.Proofs.Lock.KeyText
import Softcode.Proofs.Lock.CacheView
import Softcode.Proofs.Lock.ExprText
import Softcode.Proofs.Lock.Pinning
import Softcode.Proofs.Lock.PinnedText
import Softcode.Proofs.Lock.Meaning
import Softcode.Proofs.Lock.Session
import Softcode.Proofs.Evaluation.Follows
import Softcode.Proofs.Evaluation.Functions
import Softcode.Proofs.Evaluation.Expression
import Softcode.Proofs.Evaluation.Commands
import Softcode.Proofs.Evaluation.Ceilings
import Softcode.Proofs.Lock.Identity
import Softcode.Proofs.Evaluation.Keeps
import Softcode.Proofs.Evaluation.Footprint
import Softcode.Proofs.Command.Keeping
import Softcode.Proofs.Command.Authority
import Softcode.Proofs.Styled.Cutting
import Softcode.Proofs.Styled.View
import Softcode.Proofs.Styled.Erasure
import Softcode.Proofs.Styled.Assembly
import Softcode.Proofs.World.Erasure
import Softcode.Proofs.Evaluation.Mirrors
import Softcode.Proofs.Evaluation.Erasure
import Softcode.Proofs.Command.Erasure
import Softcode.Proofs.Evaluation.Purity
import Softcode.Proofs.Token.Cutting
import Softcode.Proofs.Token.Lexemes
import Softcode.Proofs.Token.Standing
import Softcode.Proofs.Tree.Reader
import Softcode.Proofs.Tree.Descent
import Softcode.Proofs.Tree.Accounting
import Softcode.Proofs.Command.LiteralText
import Softcode.Proofs.Lock.Publication
import Softcode.Proofs.World.NumberHistory
import Softcode.Proofs.World.NumberLedger
import Softcode.Proofs.World.Parentage
import Softcode.Proofs.Lock.Setting
import Softcode.Proofs.Attribute.PathText
import Softcode.Proofs.Attribute.TreeShape
import Softcode.Proofs.World.AttributeTrees
import Softcode.Proofs.Lock.Validation
import Softcode.Proofs.World.Inheritance
import Softcode.Proofs.Lock.Derivation
import Softcode.Proofs.Pattern.Transparency
import Softcode.Proofs.World.NamePatterns
import Softcode.Proofs.Tree.Unclosed
import Softcode.Proofs.Token.Locality
import Softcode.Proofs.Tree.CommandLists
import Softcode.Proofs.Tree.Quoting
import Softcode.Proofs.Evaluation.Quoting
import Softcode.Proofs.Tree.Calls
import Softcode.Proofs.Evaluation.Steps
import Softcode.Proofs.Evaluation.Nesting
import Softcode.Proofs.Evaluation.SelfCalls
import Softcode.Proofs.Command.LocalRegisters
import Softcode.Proofs.Regex.Search
import Softcode.Proofs.Regex.Straight
import Softcode.Proofs.Regex.Ways
import Softcode.Proofs.Pattern.GlobReading
import Softcode.Proofs.Pattern.GlobMeaning
import Softcode.Proofs.Pattern.GlobCaptures
import Softcode.Proofs.Styled.Display
import Softcode.Proofs.Highlight.Painting
import Softcode.Proofs.Highlight.Expressions
import Softcode.Proofs.Highlight.Commands
import Softcode.Proofs.Highlight.Order
import Softcode.Proofs.Highlight.Transport
import Softcode.Proofs.Lock.KeyLocality
import Softcode.Proofs.Highlight.LockTokens
import Softcode.Proofs.Function.ListWalk
import Softcode.Proofs.Pattern.CacheBounds
