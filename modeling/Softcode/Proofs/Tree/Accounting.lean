import Softcode.Proofs.Token.Standing
import Softcode.Proofs.Tree.Descent

namespace Softcode

/-!
# Trees account for every character

A tree holds spans and no characters, and evaluation cuts the source by these spans.  So no
character must be lost and none taken twice.  `Node.Accounted` says so for a node and all nodes in
it: what is between its delimiters is covered by the pieces of its parts, which lie one behind the
other.  The arguments of a call are the only parts with something between them, namely the comma or
parenthesis before each and the blanks behind that.

The reader goes from token to token, so the statement about trees is an invariant of its state:

* `Reader.UpTo` — the sequence that is being read, those that will go on after it, and the finished
  pieces account for the text up to an offset;
* `Reader.UpTo.step` — each token takes the offset to its own end;
* `parse_accounted` — hence the tree of a text accounts for the text.
-/

/-! ### Pieces -/

/-- The characters of the source that a node stands for.  The span of an escape leaves out its
    backslash. -/
def Node.piece : Node → Span
  | .escape span => ⟨span.start - 1, span.stop⟩
  | node => node.span

/-- Is the node plain text? -/
def Node.isText : Node → Bool
  | .text _ => true
  | _ => false

/-- Nodes that satisfy `P` and whose pieces lie one behind the other from one offset to another.  No
    piece is empty, and no two texts are neighbours. -/
inductive Tiles (P : Node → Prop) : Nat → List Node → Nat → Prop
  | nil (i : Nat) : Tiles P i [] i
  | cons {node : Node} {nodes : List Node} {i stop : Nat} (hnode : P node)
      (hstart : node.piece.start = i) (hpiece : i < node.piece.stop)
      (hnext : ∀ next ∈ nodes.head?, ¬ (node.isText ∧ next.isText))
      (hrest : Tiles P node.piece.stop nodes stop) : Tiles P i (node :: nodes) stop

/-- Arguments of a call that are followed by a comma each, from the delimiter at one offset to the
    delimiter at another.  Each begins behind the blanks that follow the delimiter before it. -/
inductive Given (P : Node → Prop) (text : List Char) : Nat → List Argument → Nat → Prop
  | nil (first : Nat) : Given P text first [] first
  | concat {args : List Argument} {a : Argument} {first k : Nat} (hargs : Given P text first args k)
      (hstart : a.span.start = afterBlanks text (k + 1))
      (hnodes : Tiles P a.span.start a.nodes a.span.stop) (hcomma : text[a.span.stop]? = some ',') :
      Given P text first (args ++ [a]) a.span.stop

/-- Does something whose content ends at `i` end at `stop`?  It does behind the character that
    closes it.  Unless the text is `whole`, the end of the text may also close it. -/
def Closes (text : List Char) (whole : Bool) (c : Char) (i stop : Nat) : Prop :=
  (text[i]? = some c ∧ stop = i + 1) ∨ (whole = false ∧ i = text.length ∧ stop = i)

/-- Does the node, with all nodes in it, account for the characters of its piece? -/
inductive Node.Accounted (text : List Char) (whole : Bool) : Node → Prop
  | text (span : Span) : Accounted text whole (.text span)
  | escape {i : Nat} (h : text[i]? = some '\\') : Accounted text whole (.escape ⟨i + 1, i + 2⟩)
  | substitution {sub : Substitution} {span : Span} (h : text[span.start]? = some '%') :
      Accounted text whole (.substitution sub span)
  | bracket {body : List Node} {span : Span} {stop : Nat} (hopen : text[span.start]? = some '[')
      (hbody : Tiles (Accounted text whole) (span.start + 1) body stop)
      (hclose : Closes text whole ']' stop span.stop) : Accounted text whole (.bracket body span)
  | brace {mode : BraceMode} {body : List Node} {span inner : Span}
      (hopen : text[span.start]? = some '\x7b') (hinner : inner.start = span.start + 1)
      (hbody : Tiles (Accounted text whole) inner.start body inner.stop)
      (hclose : Closes text whole '\x7d' inner.stop span.stop) :
      Accounted text whole (.brace mode body span inner)
  | call {name : String} {nameSpan span : Span} {args : List Argument} {last : Argument} {k : Nat}
      (hname : name.toList = nameSpan.of text) (hspan : nameSpan.start < nameSpan.stop)
      (hstart : span.start = nameSpan.start)
      (hopen : text[nameSpan.stop]? = some '(')
      (hargs : Given (Accounted text whole) text nameSpan.stop args k)
      (hlast : last.span.start = afterBlanks text (k + 1))
      (hnodes : Tiles (Accounted text whole) last.span.start last.nodes last.span.stop)
      (hclose : Closes text whole ')' last.span.stop span.stop) :
      Accounted text whole (.call name nameSpan (args ++ [last]) span)

/-! ### Adding a node at the end -/

namespace Tiles

variable {P : Node → Prop} {i j : Nat} {nodes : List Node} {node : Node}

/-- A node that begins where they end can be added. -/
theorem concat (h : Tiles P i nodes j) (node : Node) (hnode : P node)
    (hstart : node.piece.start = j) (hpiece : j < node.piece.stop)
    (hlast : ∀ last ∈ nodes.getLast?, ¬ (last.isText ∧ node.isText)) :
    Tiles P i (nodes ++ [node]) node.piece.stop := by
  induction h with
  | nil i => exact .cons hnode hstart hpiece (by simp) (.nil _)
  | @cons first nodes i stop hfirst hstart' hpiece' hnext hrest ih =>
    cases nodes with
    | nil =>
      refine .cons hfirst hstart' hpiece' ?_ (ih hstart hpiece (by simp))
      rintro next ⟨⟩
      exact hlast first rfl
    | cons second nodes => exact .cons hfirst hstart' hpiece' hnext (ih hstart hpiece hlast)

/-- Pieces lie one behind the other. -/
theorem le (h : Tiles P i nodes j) : i ≤ j := by
  induction h with
  | nil i => exact Nat.le_refl i
  | cons _ _ hpiece _ _ ih => omega

/-- What is known of tiles that end with a node. -/
theorem of_concat (h : Tiles P i (nodes ++ [node]) j) :
    Tiles P i nodes node.piece.start ∧ node.piece.start < node.piece.stop ∧ node.piece.stop = j ∧
      ∀ last ∈ nodes.getLast?, ¬ (last.isText ∧ node.isText) := by
  -- The last node stays the last one when nodes are taken off in front.
  induction nodes generalizing i with
  | nil =>
    cases h with
    | cons hnode hstart hpiece hnext hrest =>
      cases hrest
      rw [hstart]
      exact ⟨.nil i, hpiece, rfl, by simp⟩
  | cons first nodes ih =>
    cases h with
    | cons hfirst hstart hpiece hnext hrest =>
      obtain ⟨htiles, hpiece', hstop, hlast⟩ := ih hrest
      cases nodes with
      | nil =>
        refine ⟨.cons hfirst hstart hpiece (by simp) htiles, hpiece', hstop, ?_⟩
        rintro last ⟨⟩
        exact hnext node rfl
      | cons second nodes => exact ⟨.cons hfirst hstart hpiece hnext htiles, hpiece', hstop, hlast⟩

end Tiles

/-! ### The sequence that is being read -/

/-- Where a sequence begins that can begin at `i`, if blanks before it are skipped. -/
def Scope.bodyStart (s : Scope) (text : List Char) (i : Nat) : Nat :=
  if s.skipsBlanks then afterBlanks text i else i

theorem Scope.le_bodyStart (s : Scope) (text : List Char) (i : Nat) : i ≤ s.bodyStart text i := by
  unfold bodyStart
  split
  · exact le_afterBlanks text i
  · exact Nat.le_refl i

namespace Draft

variable {text : List Char} {whole : Bool} {origin n : Nat} {d : Draft}

/-- The sequence has begun, and its nodes account for the text from its beginning to `n`. -/
structure Begun (text : List Char) (whole : Bool) (origin n : Nat) (d : Draft) : Prop where
  start : d.start = some (d.scope.bodyStart text origin)
  tiles : Tiles (Node.Accounted text whole) (d.scope.bodyStart text origin) d.nodes.reverse n

/-- The sequence that can begin at `origin` has been read up to `n`: it has begun, or at most blanks
    have been skipped. -/
inductive UpTo (text : List Char) (whole : Bool) (origin n : Nat) (d : Draft) : Prop
  | waiting (hstart : d.start = none) (hnodes : d.nodes = [])
      (hskip : d.scope.bodyStart text n = d.scope.bodyStart text origin)
  | begun (h : d.Begun text whole origin n)

/-- Where no blanks are to be skipped, the sequence begins at the latest. -/
private theorem UpTo.begin (h : d.UpTo text whole origin n)
    (hn : d.start = none → d.scope.bodyStart text n = n) :
    ({ d with start := some (d.start.getD n) } : Draft).Begun text whole origin n := by
  cases h with
  | waiting hstart hnodes hskip =>
    rw [hn hstart] at hskip
    refine ⟨by rw [hstart, ← hskip]; rfl, ?_⟩
    simp only [hnodes, List.reverse_nil, ← hskip]
    exact .nil n
  | begun h => exact ⟨by rw [h.start]; rfl, h.tiles⟩

/-- A sequence that ends accounts for the text from its beginning to its end. -/
theorem Begun.finish (h : d.Begun text whole origin n) :
    (d.finish n).span = ⟨d.scope.bodyStart text origin, n⟩ ∧
      Tiles (Node.Accounted text whole) (d.finish n).span.start (d.finish n).nodes
        (d.finish n).span.stop := by
  have hspan : (d.finish n).span = ⟨d.scope.bodyStart text origin, n⟩ := by
    rw [Draft.finish, h.start]
    rfl
  rw [hspan]
  exact ⟨rfl, h.tiles⟩

/-- At the end of the text every sequence ends. -/
theorem UpTo.finish (h : d.UpTo text whole origin text.length) :
    (d.finish text.length).span = ⟨d.scope.bodyStart text origin, text.length⟩ ∧
      Tiles (Node.Accounted text whole) (d.finish text.length).span.start
        (d.finish text.length).nodes (d.finish text.length).span.stop := by
  have hend : d.scope.bodyStart text text.length = text.length := by
    unfold Scope.bodyStart
    split
    · exact afterBlanks_length text
    · rfl
  exact (h.begin fun _ => hend).finish

/-- A node is added that is no text. -/
theorem Begun.add (h : d.Begun text whole origin n) (node : Node)
    (hnode : node.Accounted text whole) (hstart : node.piece.start = n)
    (hpiece : n < node.piece.stop) (hkind : node.isText = false) :
    (d.add node).Begun text whole origin node.piece.stop := by
  refine ⟨h.start, ?_⟩
  simp only [Draft.add, List.reverse_cons]
  exact h.tiles.concat node hnode hstart hpiece (by simp [hkind])

/-- Text behind text becomes one text. -/
theorem Begun.addText (h : d.Begun text whole origin n) {k : Nat} (hk : n < k) :
    (d.addText ⟨n, k⟩).Begun text whole origin k := by
  have htiles := h.tiles
  unfold Draft.addText pushText
  split
  · rename_i last nodes hnodes
    rw [hnodes, List.reverse_cons] at htiles
    obtain ⟨hbefore, hpiece, hstop, hapart⟩ := htiles.of_concat
    simp only [Node.piece, Node.span] at hbefore hpiece hstop
    rw [if_pos hstop]
    refine ⟨h.start, ?_⟩
    simp only [List.reverse_cons]
    exact hbefore.concat (.text ⟨last.start, k⟩) (.text _) rfl (show last.start < k by omega) hapart
  · rename_i hnodes
    refine ⟨h.start, ?_⟩
    simp only [List.reverse_cons]
    refine htiles.concat (.text ⟨n, k⟩) (.text _) rfl hk ?_
    -- The node before it is no text, or it would have been continued.
    rw [List.getLast?_reverse]
    intro last hlast
    cases last with
    | text span => exact absurd (List.eq_cons_of_mem_head? hlast) (hnodes span _)
    | escape | substitution | call | bracket | brace => simp [Node.isText]

/-- Text changes the nodes of a sequence only. -/
theorem scope_addText (d : Draft) (span : Span) : (d.addText span).scope = d.scope := rfl

theorem parens_addText (d : Draft) (span : Span) : (d.addText span).parens = d.parens := rfl

theorem start_addText (d : Draft) (span : Span) : (d.addText span).start = d.start := rfl

theorem nodes_addText_ne_nil (d : Draft) (span : Span) : (d.addText span).nodes ≠ [] :=
  pushText_ne_nil d.nodes span

end Draft

/-! ### What is open around it -/

/-- The scope of what stands behind the opener. -/
def Opener.scope : Opener → Scope
  | call _ _ => .callArgument
  | bracket _ => .bracketBody
  | brace _ => .braceBody

/-- The character that closes what the opener has opened. -/
def Opener.closer : Opener → Char
  | call _ _ => ')'
  | bracket _ => ']'
  | brace _ => '\x7d'

/-- Only the arguments of a call end at a comma. -/
theorem Opener.scope_of_comma {opener : Opener} (h : .comma ∈ opener.scope.stops) :
    opener.scope = .callArgument := by
  cases opener with
  | call name head => rfl
  | bracket head => exact absurd h (by simp [Opener.scope, Scope.bracketBody])
  | brace head => exact absurd h (by simp [Opener.scope, Scope.braceBody])

/-- Every other token that ends a sequence closes the construct. -/
private theorem Opener.sign_of_stops {opener : Opener} {kind : TokenKind}
    (h : kind ∈ opener.scope.stops) (hcomma : kind ≠ .comma) : kind.sign? = some opener.closer := by
  cases opener with
  | call name head =>
    rcases List.mem_cons.mp h with rfl | h
    · exact absurd rfl hcomma
    · obtain rfl := List.mem_singleton.mp h
      rfl
  | bracket head =>
    obtain rfl := List.mem_singleton.mp h
    rfl
  | brace head =>
    obtain rfl := List.mem_singleton.mp h
    rfl

/-- Is the opener where it says, and does what has been read of the construct account for the text
    up to `origin`, where the next sequence in it can begin? -/
def OpenConstruct.Opened (text : List Char) (whole : Bool) (origin : Nat) (c : OpenConstruct) :
    Prop :=
  c.opener.head.start < origin ∧ match c.opener with
    | .call name head => name.toList = Span.of ⟨head.start, head.stop - 1⟩ text ∧
        head.start + 1 < head.stop ∧ text[head.stop - 1]? = some '(' ∧
        ∃ k, origin = k + 1 ∧
          Given (Node.Accounted text whole) text (head.stop - 1) c.args.reverse k
    | .bracket head => text[head.start]? = some '[' ∧ origin = head.start + 1
    | .brace head => text[head.start]? = some '\x7b' ∧ origin = head.start + 1

section

variable {text : List Char} {whole : Bool} {origin : Nat} {c : OpenConstruct}

/-- Whatever the construct is, with the sequence that ends it it accounts for its characters. -/
theorem OpenConstruct.Opened.node (h : c.Opened text whole origin) {body : Argument} {stop : Nat}
    (hstart : body.span.start = c.opener.scope.bodyStart text origin)
    (hnodes : Tiles (Node.Accounted text whole) body.span.start body.nodes body.span.stop)
    (hclose : Closes text whole c.opener.closer body.span.stop stop) :
    (Reader.OpenConstruct.node c body stop).Accounted text whole := by
  obtain ⟨-, h⟩ := h
  unfold Reader.OpenConstruct.node
  cases hopener : c.opener with
  | call name head =>
    rw [hopener] at h hstart hclose
    obtain ⟨hname, hspan, hopen, k, rfl, hargs⟩ := h
    exact .call hname (show head.start < head.stop - 1 by omega) rfl hopen hargs hstart hnodes
      hclose
  | bracket head =>
    rw [hopener] at h hstart hclose
    obtain ⟨hopen, rfl⟩ := h
    rw [hstart] at hnodes
    exact .bracket hopen hnodes hclose
  | brace head =>
    rw [hopener] at h hstart hclose
    obtain ⟨hopen, rfl⟩ := h
    exact .brace hopen hstart hnodes hclose

/-- Another argument of a call. -/
theorem OpenConstruct.Opened.argument (h : c.Opened text whole origin)
    (hcall : c.opener.scope = .callArgument) {body : Argument}
    (hstart : body.span.start = c.opener.scope.bodyStart text origin)
    (hnodes : Tiles (Node.Accounted text whole) body.span.start body.nodes body.span.stop)
    (hcomma : text[body.span.stop]? = some ',') :
    ({ c with args := body :: c.args } : OpenConstruct).Opened text whole (body.span.stop + 1) := by
  obtain ⟨hhead, h⟩ := h
  -- The comma stands behind the head, since the argument lies between them.
  have horigin : origin ≤ body.span.stop := by
    have hbody := c.opener.scope.le_bodyStart text origin
    have hle := hnodes.le
    omega
  refine ⟨show c.opener.head.start < body.span.stop + 1 by omega, ?_⟩
  dsimp only
  cases hopener : c.opener with
  | call name head =>
    rw [hopener] at h hstart
    obtain ⟨hname, hspan, hopen, k, rfl, hargs⟩ := h
    refine ⟨hname, hspan, hopen, body.span.stop, rfl, ?_⟩
    rw [List.reverse_cons]
    exact hargs.concat hstart hnodes hcomma
  | bracket head =>
    rw [hopener] at hcall
    exact absurd hcall (by simp [Opener.scope, Scope.bracketBody, Scope.callArgument])
  | brace head =>
    rw [hopener] at hcall
    exact absurd hcall (by simp [Opener.scope, Scope.braceBody, Scope.callArgument])

/-- The node of a construct begins with its opener, and is no text. -/
private theorem OpenConstruct.node_span (c : OpenConstruct) (body : Argument) (stop : Nat) :
    (Reader.OpenConstruct.node c body stop).piece = ⟨c.opener.head.start, stop⟩ ∧
      (Reader.OpenConstruct.node c body stop).isText = false := by
  unfold Reader.OpenConstruct.node
  cases c.opener <;> exact ⟨rfl, rfl⟩

/-- When a construct ends, the sequence around it goes on with its node. -/
theorem OpenConstruct.Opened.close (h : c.Opened text whole origin) {outer stop : Nat}
    (houter : c.outer.Begun text whole outer c.opener.head.start) {body : Argument}
    (hstart : body.span.start = c.opener.scope.bodyStart text origin)
    (hnodes : Tiles (Node.Accounted text whole) body.span.start body.nodes body.span.stop)
    (hclose : Closes text whole c.opener.closer body.span.stop stop) :
    (c.outer.add (Reader.OpenConstruct.node c body stop)).Begun text whole outer stop := by
  obtain ⟨hpiece, hkind⟩ := c.node_span body stop
  have hstop : c.opener.head.start < stop := by
    have hhead := h.1
    have hbody := c.opener.scope.le_bodyStart text origin
    have hle := hnodes.le
    rcases hclose with ⟨-, rfl⟩ | ⟨-, -, rfl⟩ <;> omega
  have hadd := houter.add _ (h.node hstart hnodes hclose) (by rw [hpiece])
    (by rw [hpiece]; exact hstop) hkind
  rwa [hpiece] at hadd

end

/-- The constructs that are open around a sequence with the given scope, which can begin at the
    given offset.  The outermost sequence has the scope `outermost` and can begin at `bottom`. -/
inductive Encloses (text : List Char) (whole : Bool) (outermost : Scope) (bottom : Nat) :
    List OpenConstruct → Scope → Nat → Prop
  | nil : Encloses text whole outermost bottom [] outermost bottom
  | cons {c : OpenConstruct} {cs : List OpenConstruct} {outer origin : Nat}
      (hcs : Encloses text whole outermost bottom cs c.outer.scope outer)
      (houter : c.outer.Begun text whole outer c.opener.head.start)
      (hopened : c.Opened text whole origin) :
      Encloses text whole outermost bottom (c :: cs) c.opener.scope origin

/-- The character behind the piece with the given index, if another piece follows. -/
def Rule.separator : Rule → Nat → Char
  | eqSplitArgs, 0 | eqSplitCommand, _ => '='
  | commandList, _ => ';'
  | _, _ => ','

/-- Behind the equals sign, arguments have commas between them. -/
theorem Rule.separator_eqSplitArgs (k : Nat) (hk : 1 ≤ k) : eqSplitArgs.separator k = ',' := by
  obtain ⟨k, rfl⟩ := Nat.exists_eq_add_of_le' hk
  rfl

/-- Pieces of a text that are followed by a separator each, up to the offset behind the last
    separator. -/
inductive Separated (text : List Char) (whole : Bool) (rule : Rule) : List Argument → Nat → Prop
  | nil : Separated text whole rule [] 0
  | concat {pieces : List Argument} {a : Argument} {i : Nat}
      (hpieces : Separated text whole rule pieces i)
      (hstart : a.span.start = (rule.scope pieces.length).bodyStart text i)
      (hnodes : Tiles (Node.Accounted text whole) a.span.start a.nodes a.span.stop)
      (hstops : (rule.scope pieces.length).stops ≠ [])
      (hsep : text[a.span.stop]? = some (rule.separator pieces.length)) :
      Separated text whole rule (pieces ++ [a]) (a.span.stop + 1)

/-- Every token that ends a piece is the separator behind it. -/
private theorem Rule.sign_of_stops {rule : Rule} {i : Nat} {kind : TokenKind}
    (h : kind ∈ (rule.scope i).stops) : kind.sign? = some (rule.separator i) := by
  cases rule <;> cases i <;> simp_all [Rule.scope, Scope.expression, Scope.command,
    Scope.commandArgument, Rule.separator, TokenKind.sign?]

namespace Reader

variable {text : List Char} {whole : Bool} {rule : Rule} {n : Nat} {r : Reader} {t : Token}

/-- What has been read: the finished pieces, the constructs that are open, and a sequence of which
    `Q` holds, given the offset where it could begin. -/
inductive Reads (text : List Char) (whole : Bool) (rule : Rule) (Q : Nat → Draft → Prop)
    (r : Reader) : Prop
  | intro {bottom origin : Nat} (hrule : r.rule = rule)
      (hpieces : Separated text whole rule r.pieces.reverse bottom)
      (hencloses : Encloses text whole (rule.scope r.pieces.length) bottom r.enclosing r.draft.scope
        origin)
      (hdraft : Q origin r.draft)

/-- What has been read accounts for the text up to `n`. -/
abbrev UpTo (text : List Char) (whole : Bool) (rule : Rule) (n : Nat) (r : Reader) : Prop :=
  r.Reads text whole rule fun origin d => d.UpTo text whole origin n

/-- What has been read accounts for the text up to `n`, and the sequence that is being read has
    begun. -/
abbrev BegunUpTo (text : List Char) (whole : Bool) (rule : Rule) (n : Nat) (r : Reader) : Prop :=
  r.Reads text whole rule fun origin d => d.Begun text whole origin n

/-- The sequence that is being read may be replaced by another one of its scope. -/
theorem BegunUpTo.setDraft (h : r.BegunUpTo text whole rule n) {d : Draft} {k : Nat}
    (hscope : d.scope = r.draft.scope)
    (hd : ∀ origin, r.draft.Begun text whole origin n → d.Begun text whole origin k) :
    ({ r with draft := d } : Reader).UpTo text whole rule k := by
  obtain ⟨hrule, hpieces, hencloses, hdraft⟩ := h
  refine .intro hrule hpieces ?_ (.begun (hd _ hdraft))
  rwa [← hscope] at hencloses

/-- A construct that is opened is read from behind its opener. -/
theorem BegunUpTo.push (h : r.BegunUpTo text whole rule n) (opener : Opener) {k : Nat}
    (hhead : opener.head.start = n)
    (hopened : OpenConstruct.Opened text whole k { opener, outer := r.draft }) :
    (r.push opener opener.scope).UpTo text whole rule k := by
  obtain ⟨hrule, hpieces, hencloses, hdraft⟩ := h
  rw [← hhead] at hdraft
  exact .intro hrule hpieces (.cons hencloses hdraft hopened) (.waiting rfl rfl rfl)

/-- A token that ends the sequence is accounted for with the text before it. -/
theorem BegunUpTo.stopAt (h : r.BegunUpTo text whole rule n) (ht : t.Stands text n)
    (hstops : t.kind ∈ r.draft.scope.stops) : (r.stopAt t).UpTo text whole rule t.span.stop := by
  obtain ⟨_, draft, enclosing, pieces⟩ := r
  obtain ⟨rfl, hpieces, hencloses, hdraft⟩ := h
  obtain ⟨hspan, hnodes⟩ := hdraft.finish
  simp only [Reader.stopAt, ht.start_eq] at hspan hnodes hpieces hencloses hstops ⊢
  generalize draft.scope = scope at hspan hencloses hstops
  generalize draft.finish n = body at hspan hnodes ⊢
  have hstart : body.span.start = scope.bodyStart text _ := congrArg Span.start hspan
  have hstop : body.span.stop = n := congrArg Span.stop hspan
  cases hencloses with
  | nil =>
    -- The end of a piece of the whole text.
    obtain ⟨hsep, htoken⟩ := ht.sign_at (Rule.sign_of_stops hstops)
    rw [← List.length_reverse] at hstart hsep hstops
    rw [← hstop] at hsep
    have hpieces' := hpieces.concat hstart hnodes (List.ne_nil_of_mem hstops) hsep
    rw [← List.reverse_cons] at hpieces'
    rw [htoken, ← hstop]
    exact .intro rfl hpieces' .nil (.waiting rfl rfl rfl)
  | @cons c enclosing outer origin hcs houter hopened =>
    by_cases hcomma : t.kind = .comma
    · -- Another argument of the call follows.
      obtain ⟨hsep, htoken⟩ := ht.sign_at (c := ',') (by rw [hcomma]; rfl)
      have hcall : c.opener.scope = .callArgument := Opener.scope_of_comma (hcomma ▸ hstops)
      rw [← hstop] at hsep
      rw [htoken, ← hstop]
      simp only [hcomma, if_true, ← hcall]
      exact .intro rfl hpieces (.cons hcs houter (hopened.argument hcall hstart hnodes hsep))
        (.waiting rfl rfl rfl)
    · -- The construct is closed, and the sequence around it goes on.
      obtain ⟨hclose, htoken⟩ := ht.sign_at (Opener.sign_of_stops hstops hcomma)
      rw [← hstop] at hclose
      rw [htoken, ← hstop]
      simp only [hcomma, if_false]
      exact .intro rfl hpieces hcs
        (.begun (hopened.close houter hstart hnodes (.inl ⟨hclose, rfl⟩)))

theorem BegunUpTo.addText (h : r.BegunUpTo text whole rule n) (parens : Nat) {k : Nat}
    (hk : n < k) :
    ({ r with draft := { r.draft with parens }.addText ⟨n, k⟩ } : Reader).UpTo
      text whole rule k := by
  refine h.setDraft (Draft.scope_addText _ _) fun origin hdraft => ?_
  exact Draft.Begun.addText (d := { r.draft with parens }) ⟨hdraft.start, hdraft.tiles⟩ hk

/-- A node that accounts for its own characters is accounted for. -/
theorem BegunUpTo.add (h : r.BegunUpTo text whole rule n) (node : Node)
    (hnode : node.Accounted text whole) (hstart : node.piece.start = n)
    (hpiece : n < node.piece.stop) (hkind : node.isText = false) :
    ({ r with draft := r.draft.add node } : Reader).UpTo text whole rule node.piece.stop :=
  h.setDraft rfl fun _ hdraft => hdraft.add node hnode hstart hpiece hkind

/-- A token that does not end the sequence adds to it what the token stands for, or opens something
    behind it. -/
theorem BegunUpTo.accept (h : r.BegunUpTo text whole rule n) (ht : t.Stands text n) :
    (r.accept t).UpTo text whole rule t.span.stop := by
  -- Tokens open something, are nodes of their own, or are text.
  cases ht with
  | @sign kind c chars hkind hc =>
    have hn : n < n + 1 := Nat.lt_succ_self n
    cases kind with
    | openBracket =>
      cases hkind
      exact h.push (.bracket ⟨n, n + 1⟩) rfl ⟨hn, hc, rfl⟩
    | openBrace =>
      cases hkind
      exact h.push (.brace ⟨n, n + 1⟩) rfl ⟨hn, hc, rfl⟩
    | openParen | closeParen => exact h.addText _ hn
    | closeBracket | closeBrace | comma | equals | semicolon => exact h.addText r.draft.parens hn
    | functionHead | escape | substitution | whitespace | number | text | eof => cases hkind
  | @head chars k hlt hk hname hblank =>
    rw [Reader.accept]
    dsimp only
    -- A head opens a call only where functions are looked for.
    split
    · refine h.push (.call _ ⟨n, k + 1⟩) rfl ⟨show n < k + 1 by omega, ?_⟩
      have hname' : (String.ofList chars.dropLast).toList = Span.of ⟨n, k⟩ text := by
        rw [String.toList_ofList, hname]
      exact ⟨hname', show n + 1 < k + 1 by omega, hk, k, rfl, .nil k⟩
    · exact h.addText _ (show n < k + 1 by omega)
  | escape hc hn =>
    exact h.add (.escape ⟨n + 1, n + 2⟩) (.escape hc) rfl (show n < n + 2 by omega) rfl
  | substitution sub hc hlt => exact h.add (.substitution sub ⟨n, _⟩) (.substitution hc) rfl hlt rfl
  | blanks hlt => exact h.addText r.draft.parens hlt
  | other hkind hlt hblank =>
    rcases hkind with rfl | rfl
    · exact h.addText r.draft.parens hlt
    · exact h.addText r.draft.parens hlt

/-- **Each token is accounted for.** -/
theorem UpTo.step (h : r.UpTo text whole rule n) (ht : t.Stands text n) :
    (r.step t).UpTo text whole rule t.span.stop := by
  obtain ⟨hrule, hpieces, hencloses, hdraft⟩ := h
  unfold Reader.step
  split
  · -- Blanks before a sequence.
    rename_i hskip
    simp only [Bool.and_eq_true, decide_eq_true_eq, Option.isNone_iff_eq_none] at hskip
    obtain ⟨⟨hstart, hskips⟩, hkind⟩ := hskip
    refine .intro hrule hpieces hencloses ?_
    cases hdraft with
    | begun hbegun => exact absurd (hstart.symm.trans hbegun.start) (by simp)
    | waiting _ hnodes hbody =>
      refine .waiting hstart hnodes ?_
      rw [← hbody, ht.stop_of_whitespace hkind]
      simp only [Scope.bodyStart, hskips, if_true, afterBlanks_afterBlanks]
  · -- The sequence begins here, if it has not begun before.
    rename_i hskip
    have hbegin : r.draft.start = none → r.draft.scope.bodyStart text n = n := by
      intro hstart
      simp only [hstart, Option.isNone_none, Bool.true_and, Bool.and_eq_true, decide_eq_true_eq,
        not_and] at hskip
      unfold Scope.bodyStart
      split
      · rename_i hskips
        exact ht.afterBlanks_eq (hskip hskips)
      · rfl
    have hbegun := hdraft.begin hbegin
    have hupTo : BegunUpTo text whole rule n
        { r with draft.start := some (r.draft.start.getD n) } :=
      .intro hrule hpieces hencloses hbegun
    simp only [ht.start_eq]
    split
    · rename_i hstops
      simp only [Bool.and_eq_true, decide_eq_true_eq, List.contains_iff_mem] at hstops
      exact hupTo.stopAt ht hstops.2
    · exact hupTo.accept ht

/-- Nothing has been read, and nothing is to be accounted for. -/
private theorem upTo_initial (text : List Char) (whole : Bool) (rule : Rule) :
    (Reader.initial rule).UpTo text whole rule 0 :=
  .intro rfl .nil .nil (.waiting rfl rfl rfl)

/-- **The whole text is accounted for** when all its tokens have been read. -/
theorem upTo_run (text : List Char) (whole : Bool) (rule : Rule) :
    ((Reader.initial rule).run (Token.scanFrom 0 text)).UpTo text whole rule text.length :=
  Token.foldl_scan (UpTo text whole rule) (fun _ _ _ ht hr => hr.step ht)
    (Nat.zero_le _) (upTo_initial text whole rule)

/-- What is open at the end of the text ends there, unless the text is to be whole. -/
theorem close_accounted {outermost : Scope} {bottom origin : Nat} {d : Draft}
    {enclosing : List OpenConstruct}
    (hencloses : Encloses text whole outermost bottom enclosing d.scope origin)
    (hdraft : d.UpTo text whole origin text.length) (hwhole : enclosing ≠ [] → whole = false) :
    (close text.length d enclosing).span = ⟨outermost.bodyStart text bottom, text.length⟩ ∧
      Tiles (Node.Accounted text whole) (close text.length d enclosing).span.start
        (close text.length d enclosing).nodes (close text.length d enclosing).span.stop := by
  induction enclosing generalizing d origin with
  | nil =>
    have hfinish := hdraft.finish
    generalize d.scope = scope at hencloses hfinish
    cases hencloses
    exact hfinish
  | cons c enclosing ih =>
    obtain ⟨hspan, hnodes⟩ := hdraft.finish
    generalize d.scope = scope at hencloses hspan
    rw [close]
    generalize d.finish text.length = body at hspan hnodes ⊢
    cases hencloses with
    | cons hcs houter hopened =>
      -- Something is open, so it may end where the text does.
      have hopen : whole = false := hwhole (by simp)
      have hstop : body.span.stop = text.length := congrArg Span.stop hspan
      refine ih hcs (.begun ?_) fun _ => hopen
      exact hopened.close houter (congrArg Span.start hspan) hnodes
        (.inr ⟨hopen, hstop, hstop.symm⟩)

end Reader

/-! ### The tree of a text -/

/-- Do the nodes of an argument account for its span, and does that lie in the text? -/
def Argument.Accounted (text : List Char) (whole : Bool) (a : Argument) : Prop :=
  Tiles (Node.Accounted text whole) a.span.start a.nodes a.span.stop ∧ a.span.stop ≤ text.length

/-- Do the arguments of a tree account for the text that was read by a rule? -/
def Tree.Accounted (text : List Char) (whole : Bool) : Rule → Tree → Prop
  | .function, .expression a => a.Accounted text whole ∧ a.span = ⟨0, text.length⟩
  | .commaArgs, .commaArgs args => args ≠ [] ∧ (∀ a ∈ args, a.Accounted text whole) ∧
      [','].intercalate (args.map (·.span.of text)) = text
  | .eqSplitArgs, .eqSplitArgs left none => left.Accounted text whole ∧ left.span.of text = text
  | .eqSplitArgs, .eqSplitArgs left (some args) =>
      left.Accounted text whole ∧ args ≠ [] ∧ (∀ a ∈ args, a.Accounted text whole) ∧
      left.span.of text ++ '=' :: [','].intercalate (args.map (·.span.of text)) = text
  | .eqSplitCommand, .eqSplitCommand left none =>
      left.Accounted text whole ∧ left.span.of text = text
  | .eqSplitCommand, .eqSplitCommand left (some right) =>
      left.Accounted text whole ∧ right.Accounted text whole ∧
      left.span.of text ++ '=' :: right.span.of text = text
  | _, _ => False

namespace Separated

variable {text : List Char} {whole : Bool} {rule : Rule} {pieces : List Argument} {i : Nat}

/-- Each piece accounts for its own characters. -/
theorem accounted (h : Separated text whole rule pieces i) :
    ∀ a ∈ pieces, a.Accounted text whole := by
  induction h with
  | nil => simp
  | @concat pieces a i hpieces hstart hnodes hstops hsep ih =>
    intro b hb
    rcases List.mem_append.mp hb with hb | hb
    · exact ih b hb
    · obtain rfl := List.mem_singleton.mp hb
      exact ⟨hnodes, (List.getElem?_eq_some_iff.mp hsep).1.le⟩

/-- Pieces are separated only where something can separate them. -/
theorem stops_ne_nil (h : Separated text whole rule pieces i) :
    ∀ k < pieces.length, (rule.scope k).stops ≠ [] := by
  induction h with
  | nil => simp
  | @concat pieces a i hpieces hstart hnodes hstops hsep ih =>
    intro k hk
    rw [List.length_append, List.length_singleton] at hk
    rcases Nat.lt_succ_iff_lt_or_eq.mp hk with hk | rfl
    · exact ih k hk
    · exact hstops

/-- Blanks are skipped before commands only. -/
theorem bodyStart_eq (hrule : rule.readsCommands = false) (k : Nat) :
    (rule.scope k).bodyStart text i = i := by
  cases rule with
  | singleCommand | commandList => exact absurd hrule (by decide)
  | function | commaArgs => rfl
  | eqSplitArgs | eqSplitCommand => cases k <;> rfl

/-- The pieces with their separators are the text. -/
private theorem take_eq (h : Separated text whole rule pieces i)
    (hrule : rule.readsCommands = false) :
    pieces.zipIdx.flatMap (fun x => x.1.span.of text ++ [rule.separator x.2]) = text.take i := by
  induction h with
  | nil => rfl
  | @concat pieces a i hpieces hstart hnodes hstops hsep ih =>
    have hle : i ≤ a.span.stop := by
      have hle := hnodes.le
      rwa [hstart, bodyStart_eq hrule] at hle
    obtain ⟨more, hmore⟩ := Nat.exists_eq_add_of_le hle
    -- The piece begins where the text so far ends, so its characters are the next ones.
    have hof : a.span.of text = (text.drop i).take more := by
      rw [Span.of, Span.length, hstart, bodyStart_eq hrule, hmore, Nat.add_sub_cancel_left]
    rw [List.zipIdx_append, List.flatMap_append, ih, List.zipIdx_singleton, List.flatMap_singleton,
      hof, Nat.zero_add, List.take_add_one, hsep, hmore, List.take_add, List.append_assoc]
    rfl

end Separated

/-- Pieces with the same character behind each, and one piece more, are joined with that
    character. -/
private theorem flatMap_zipIdx_append (f : Argument → List Char) {sep : Nat → Char} {c : Char}
    {k : Nat} (hsep : ∀ i, k ≤ i → sep i = c) (pieces : List Argument) (last : Argument) :
    (pieces.zipIdx k).flatMap (fun x => f x.1 ++ [sep x.2]) ++ f last
      = [c].intercalate ((pieces ++ [last]).map f) := by
  induction pieces generalizing k with
  | nil => simp
  | cons a pieces ih =>
    have hne : (pieces ++ [last]).map f ≠ [] := by simp
    rw [List.zipIdx_cons, List.flatMap_cons, List.append_assoc,
      ih fun i hi => hsep i (Nat.le_of_succ_le hi), hsep k (Nat.le_refl k), List.cons_append,
      List.map_cons, List.intercalate_cons_of_ne_nil hne]

/-- What is behind the equals sign is split if there is something. -/
theorem Tree.ofPieces_eqSplitArgs (text : List Char) (left : Argument) {right : List Argument}
    (hright : right ≠ []) :
    Tree.ofPieces text .eqSplitArgs (left :: right) = .eqSplitArgs left (some right) := by
  cases right with
  | nil => exact absurd rfl hright
  | cons a right => rfl

/-- Pieces with separators and one piece more, which ends with the text, make a tree that accounts
    for the text. -/
private theorem Tree.accounted_ofPieces {text : List Char} {whole : Bool} {rule : Rule}
    (hrule : rule.readsCommands = false) {pieces : List Argument} {i : Nat}
    (hpieces : Separated text whole rule pieces i) {last : Argument}
    (hlast : last.Accounted text whole) (hspan : last.span = ⟨i, text.length⟩) :
    (Tree.ofPieces text rule (pieces ++ [last])).Accounted text whole rule := by
  -- Pieces with their separators, and the last one behind them, are the text.
  have hjoin : pieces.zipIdx.flatMap (fun x => x.1.span.of text ++ [rule.separator x.2])
      ++ last.span.of text = text := by
    rw [hpieces.take_eq hrule, hspan, Span.of, Span.length, ← List.length_drop, List.take_length,
      List.take_append_drop]
  have hall : ∀ a ∈ pieces ++ [last], a.Accounted text whole := by
    intro a ha
    rcases List.mem_append.mp ha with ha | ha
    · exact hpieces.accounted a ha
    · rwa [List.mem_singleton.mp ha]
  have hstops := hpieces.stops_ne_nil
  cases rule with
  | singleCommand | commandList => exact absurd hrule (by decide)
  | function =>
    -- Nothing separates pieces, so there is only one.
    cases hpieces with
    | nil => exact ⟨hlast, hspan⟩
    | concat => exact absurd rfl (hstops 0 (by simp))
  | commaArgs =>
    have hcomma : ∀ k, 0 ≤ k → Rule.commaArgs.separator k = ',' := fun _ _ => rfl
    rw [flatMap_zipIdx_append (·.span.of text) hcomma] at hjoin
    exact ⟨by simp, hall, hjoin⟩
  | eqSplitArgs =>
    cases pieces with
    | nil => exact ⟨hlast, hjoin⟩
    | cons left pieces =>
      obtain ⟨hleft, hright⟩ := List.forall_mem_cons.mp hall
      rw [List.zipIdx_cons, List.flatMap_cons, List.append_assoc,
        flatMap_zipIdx_append (·.span.of text) Rule.separator_eqSplitArgs,
        List.append_assoc] at hjoin
      rw [List.cons_append, Tree.ofPieces_eqSplitArgs text left (by simp)]
      exact ⟨hleft, by simp, hright, hjoin⟩
  | eqSplitCommand =>
    cases pieces with
    | nil => exact ⟨hlast, hjoin⟩
    | cons left pieces =>
      cases pieces with
      | nil =>
        refine ⟨hall left (by simp), hlast, ?_⟩
        simpa [Rule.separator] using hjoin
      | cons => exact absurd rfl (hstops 1 (by simp))

/-- **The tree of a text accounts for every character of it.** -/
theorem parse_accounted {rule : Rule} (hrule : rule.readsCommands = false) (text : List Char) :
    (parse rule text).tree.Accounted text (parse rule text).isOk rule := by
  rw [parse_eq_read]
  unfold Reader.read Parse.isOk
  dsimp only
  rw [List.isEmpty_map]
  -- Without errors nothing is open at the end, and only then is everything closed.
  generalize hwhole : ((Reader.initial rule).run (Token.scanFrom 0 text)).enclosing.isEmpty = whole
  have hrun := Reader.upTo_run text whole rule
  generalize (Reader.initial rule).run (Token.scanFrom 0 text) = r at hwhole hrun ⊢
  obtain ⟨-, hpieces, hencloses, hdraft⟩ := hrun
  obtain ⟨hspan, hnodes⟩ := Reader.close_accounted hencloses hdraft (by
    intro hopen
    rw [← hwhole]
    simpa using hopen)
  rw [Separated.bodyStart_eq hrule] at hspan
  rw [Reader.finish, List.reverse_cons]
  exact Tree.accounted_ofPieces hrule hpieces ⟨hnodes, by rw [hspan]⟩ hspan

end Softcode
