import Softcode.Proofs.Attribute.PathText
import Softcode.Proofs.Styled.View
import Softcode.Styled.Terminal

namespace Softcode

/-!
# What a terminal shows

Styled text is sent to a terminal as characters and escape sequences.  A terminal goes through them
one by one and shows each character as it has been told to by then.  What has been told about
earlier characters must not be left over for later ones.

* `Terminal` — a terminal that knows style codes and links;
* `Terminal.run_selectCodes`, `Terminal.run_selectLink` — what the escape sequences tell it;
* `Terminal.run_switchOn`, `Terminal.run_switchOff` — what switching a set of spans on and off does;
* `Terminal.run_render` — a rendered text is shown with the markups of each character, and nothing
  is left over.
-/

/-! ### Terminals -/

/-- How a terminal shows a character: its style, and the target of a link, which is empty if there
    is no link. -/
structure Pen where
  style : Style := {}
  link : List Char := []
deriving Repr, DecidableEq

/-- A style put over another one. -/
def Style.over (base top : Style) : Style where
  foreground := top.foreground <|> base.foreground
  background := top.background <|> base.background
  bold := base.bold || top.bold
  underline := base.underline || top.underline
  blink := base.blink || top.blink
  inverse := base.inverse || top.inverse

/-- A markup put over what is there. -/
def Pen.mark (p : Pen) : Markup → Pen
  | .style style => { p with style := p.style.over style }
  | .link url => { p with link := url.toList }

/-- The colour with a number in the basic palette. -/
def Colour.ofBasic? (n : Nat) : Option Colour :=
  [black, red, green, yellow, blue, magenta, cyan, white][n]?

/-- What one style code does to the style. -/
def Style.selectCode (s : Style) : Nat → Style
  | 0 => {}
  | 1 => { s with bold := true }
  | 4 => { s with underline := true }
  | 5 => { s with blink := true }
  | 7 => { s with inverse := true }
  | 22 => { s with bold := false }
  | 24 => { s with underline := false }
  | 25 => { s with blink := false }
  | 27 => { s with inverse := false }
  | 39 => { s with foreground := none }
  | 49 => { s with background := none }
  | code =>
    if 40 ≤ code then { s with background := Colour.ofBasic? (code - 40) <|> s.background }
    else if 30 ≤ code then { s with foreground := Colour.ofBasic? (code - 30) <|> s.foreground }
    else s

/-- What style codes do to the style, one after the other.  The codes 38 and 48 are followed by a
    colour. -/
def Style.select (s : Style) : List Nat → Style
  | [] => s
  | 38 :: 5 :: n :: codes => select { s with foreground := some (.indexed (.ofNat n)) } codes
  | 38 :: 2 :: r :: g :: b :: codes =>
    select { s with foreground := some (.rgb (.ofNat r) (.ofNat g) (.ofNat b)) } codes
  | 48 :: 5 :: n :: codes => select { s with background := some (.indexed (.ofNat n)) } codes
  | 48 :: 2 :: r :: g :: b :: codes =>
    select { s with background := some (.rgb (.ofNat r) (.ofNat g) (.ofNat b)) } codes
  | code :: codes => select (s.selectCode code) codes

/-- What a terminal is in the middle of. -/
inductive TerminalMode where
  /-- Showing characters. -/
  | showing
  /-- An escape sequence has begun. -/
  | escape
  /-- Style codes are given: those so far, and the digits so far of the next one. -/
  | codes (done : List Nat) (next : Nat)
  /-- A command is given: its characters so far. -/
  | command (chars : List Char)
  /-- A command is given and may be about to end. -/
  | commandEnd (chars : List Char)
deriving Repr, DecidableEq

/-- A terminal: how it shows the next character, and what it has shown. -/
structure Terminal where
  pen : Pen := {}
  mode : TerminalMode := .showing
  shown : List (Char × Pen) := []
deriving Repr, DecidableEq

namespace Terminal

/-- What a command does.  Command 8 selects the target of a link, which stands behind its
    parameters. -/
def obey (p : Pen) : List Char → Pen
  | '8' :: ';' :: rest => { p with link := (rest.dropWhile (· ≠ ';')).drop 1 }
  | _ => p

/-- Receive a character. -/
def step (t : Terminal) (c : Char) : Terminal :=
  match t.mode with
  | .showing =>
    if c = Styled.escapeChar then { t with mode := .escape }
      else { t with shown := t.shown ++ [(c, t.pen)] }
  | .escape =>
    if c = '[' then { t with mode := .codes [] 0 }
    else if c = ']' then { t with mode := .command [] }
    else { t with mode := .showing }
  | .codes done next =>
    if c.isDigit then { t with mode := .codes done (10 * next + (c.toNat - '0'.toNat)) }
    else if c = ';' then { t with mode := .codes (done ++ [next]) 0 }
    else if c = 'm' then
      { t with pen.style := t.pen.style.select (done ++ [next]), mode := .showing }
    else { t with mode := .showing }
  | .command chars =>
    if c = Styled.escapeChar then { t with mode := .commandEnd chars }
    else { t with mode := .command (chars ++ [c]) }
  | .commandEnd chars =>
    if c = '\\' then { t with pen := obey t.pen chars, mode := .showing }
      else { t with mode := .showing }

/-- Receive characters one after the other. -/
def run (t : Terminal) (cs : List Char) : Terminal := cs.foldl step t

@[simp] theorem run_nil (t : Terminal) : t.run [] = t := rfl

/-- The first character is received first. -/
@[simp] theorem run_cons (t : Terminal) (c : Char) (cs : List Char) :
    t.run (c :: cs) = (t.step c).run cs := rfl

/-- Two texts are received one after the other. -/
@[simp] theorem run_append (t : Terminal) (cs ds : List Char) :
    t.run (cs ++ ds) = (t.run cs).run ds :=
  List.foldl_append

variable {pen : Pen} {shown : List (Char × Pen)} {c : Char}

/-- A character is shown as the terminal has been told. -/
private theorem step_showing (hc : c ≠ Styled.escapeChar) :
    step ⟨pen, .showing, shown⟩ c = ⟨pen, .showing, shown ++ [(c, pen)]⟩ :=
  if_neg hc

/-- A digit belongs to the code that is being given. -/
private theorem step_codes (hc : c.isDigit = true) (done : List Nat) (next : Nat) :
    step ⟨pen, .codes done next, shown⟩ c
      = ⟨pen, .codes done (10 * next + (c.toNat - '0'.toNat)), shown⟩ :=
  if_pos hc

/-- A character belongs to the command that is being given. -/
private theorem step_command (hc : c ≠ Styled.escapeChar) (chars : List Char) :
    step ⟨pen, .command chars, shown⟩ c = ⟨pen, .command (chars ++ [c]), shown⟩ :=
  if_neg hc

/-! ### Escape sequences -/

/-- The digits of a number. -/
private theorem run_toDigits (done : List Nat) (n : Nat) :
    run ⟨pen, .codes done 0, shown⟩ (Nat.toDigits 10 n) = ⟨pen, .codes done n, shown⟩ := by
  -- Each digit is added behind those before it.
  have hdigits : ∀ (ds : List Char) (next : Nat), (∀ c ∈ ds, c.isDigit = true) →
      run ⟨pen, .codes done next, shown⟩ ds
        = ⟨pen, .codes done (Nat.ofDigitChars 10 ds next), shown⟩ := by
    intro ds
    induction ds with
    | nil => exact fun next _ => rfl
    | cons c ds ih =>
      intro next hds
      obtain ⟨hc, hds⟩ := List.forall_mem_cons.mp hds
      rw [run_cons, step_codes hc]
      exact ih _ hds
  rw [hdigits _ 0 fun c hc => Nat.isDigit_of_mem_toDigits (by decide) (by decide) hc,
    Nat.ofDigitChars_ten_toDigits]

/-- Style codes, up to the end of the sequence. -/
private theorem run_joinWith (done : List Nat) (code : Nat) (codes : List Nat) :
    run ⟨pen, .codes done 0, shown⟩
        (Text.joinWith [';'] ((code :: codes).map (Nat.toDigits 10)) ++ ['m']) =
      ⟨{ pen with style := pen.style.select (done ++ code :: codes) }, .showing, shown⟩ := by
  induction codes generalizing done code with
  | nil =>
    rw [run_append]
    show run (run _ (Nat.toDigits 10 code)) ['m'] = _
    rw [run_toDigits]
    rfl
  | cons code' codes ih =>
    -- The semicolon ends the number before it, and the next one begins with no digits.
    rw [List.map_cons, Text.joinWith_cons _ _ (by simp), List.append_assoc, List.append_assoc,
      run_append, run_toDigits]
    show run ⟨pen, .codes (done ++ [code]) 0, shown⟩
      (Text.joinWith [';'] ((code' :: codes).map (Nat.toDigits 10)) ++ ['m']) = _
    rw [ih, List.append_assoc]
    rfl

/-- **Style codes select a style.** -/
theorem run_selectCodes {codes : List Nat} (hcodes : codes ≠ []) :
    run ⟨pen, .showing, shown⟩ (Styled.selectCodes codes) =
      ⟨{ pen with style := pen.style.select codes }, .showing, shown⟩ := by
  obtain ⟨code, codes, rfl⟩ := List.exists_cons_of_ne_nil hcodes
  exact run_joinWith [] code codes

/-- **A link is selected by its target.** -/
theorem run_selectLink {url : List Char} (hurl : Styled.escapeChar ∉ url) :
    run ⟨pen, .showing, shown⟩ (Styled.selectLink url)
      = ⟨{ pen with link := url }, .showing, shown⟩ := by
  have hchars : ∀ (cs chars : List Char), Styled.escapeChar ∉ cs →
      run ⟨pen, .command chars, shown⟩ cs = ⟨pen, .command (chars ++ cs), shown⟩ := by
    intro cs
    induction cs with
    | nil => simp
    | cons c cs ih =>
      intro chars hcs
      rw [List.mem_cons, not_or] at hcs
      rw [run_cons, step_command (Ne.symm hcs.1), ih _ hcs.2, List.append_assoc]
      rfl
  have hcommand : Styled.escapeChar ∉ "8;;".toList ++ url := by
    rw [List.mem_append, not_or]
    exact ⟨by decide, hurl⟩
  show run ⟨pen, .command [], shown⟩ (("8;;".toList ++ url) ++ [Styled.escapeChar, '\\']) = _
  rw [run_append, hchars _ _ hcommand]
  rfl

/-! ### Styles -/

section

variable {s : Style} {codes : List Nat}

/-- A code that no colour follows. -/
private theorem select_cons {code : Nat} (hcode : code ≠ 38 ∧ code ≠ 48) :
    s.select (code :: codes) = (s.selectCode code).select codes := by
  rw [Style.select.eq_def]
  split <;> simp_all

/-- The code of something that is on or off. -/
private theorem select_flag {code : Nat} (set : Bool → Style) (hcode : code ≠ 38 ∧ code ≠ 48)
    (hon : s.selectCode code = set true) (hoff : s = set false) (flag : Bool) :
    s.select ((if flag then [code] else []) ++ codes) = (set flag).select codes := by
  cases flag with
  | false => rw [← hoff]; rfl
  | true => rw [← hon]; exact select_cons hcode

/-- A style with another colour, of the text itself or of what is behind it, if one is given. -/
def paint (s : Style) (background : Bool) (c : Option Colour) : Style :=
  if background then { s with background := c <|> s.background }
  else { s with foreground := c <|> s.foreground }

/-- The codes of a colour. -/
private theorem select_colour (background : Bool) (c : Option Colour) :
    s.select ((c.map (·.codes background)).getD [] ++ codes)
      = (paint s background c).select codes := by
  cases c with
  | none => cases background <;> rfl
  | some c =>
    cases background <;> cases c with
    | indexed | rgb => simp [Colour.codes, Style.select, paint]
    | _ => rfl

/-- **The codes of a style put it over what is there.** -/
theorem select_codes (style : Style) :
    s.select (style.codes ++ codes) = (s.over style).select codes := by
  simp only [Style.codes, List.append_assoc]
  -- Each code changes one part of the style, in the order in which the codes are given.
  rw [select_flag (fun b => { s with bold := s.bold || b })
      (by decide) (by simp [Style.selectCode]) (by simp),
    select_flag (fun b => { s with bold := s.bold || style.bold, underline := s.underline || b })
      (by decide) (by simp [Style.selectCode]) (by simp),
    select_flag (fun b =>
      { s with bold := s.bold || style.bold, underline := s.underline || style.underline
               blink := s.blink || b })
      (by decide) (by simp [Style.selectCode]) (by simp),
    select_flag (fun b =>
      { s with bold := s.bold || style.bold, underline := s.underline || style.underline
               blink := s.blink || style.blink, inverse := s.inverse || b })
      (by decide) (by simp [Style.selectCode]) (by simp),
    select_colour, select_colour]
  rfl

end

/-! ### Spans -/

end Terminal

/-- The style codes of the markup of a span. -/
def StyleSpan.codes (span : StyleSpan) : List Nat :=
  match span.markup with
  | .link _ => []
  | .style style => style.codes

/-- The escape sequence for the markup of a span, if that is a link. -/
def StyleSpan.linkText (span : StyleSpan) : List Char :=
  match span.markup with
  | .link url => Styled.selectLink url.toList
  | .style _ => []

/-- The target of a markup, if that is a link. -/
def Markup.target : Markup → List Char
  | .link url => url.toList
  | .style _ => []

/-- The target of the markup of a span, if that is a link, or else that of the link which is
    there. -/
def StyleSpan.linkOver (link : List Char) (span : StyleSpan) : List Char :=
  match span.markup with
  | .link url => url.toList
  | .style _ => link

/-- What the markups of spans put over what is there. -/
def Pen.markAll (p : Pen) (spans : List StyleSpan) : Pen := (spans.map (·.markup)).foldl Pen.mark p

/-- The styles and the links do not depend on each other. -/
private theorem Pen.markAll_eq (spans : List StyleSpan) (p : Pen) :
    p.markAll spans =
      ⟨p.style.select (spans.flatMap StyleSpan.codes), spans.foldl StyleSpan.linkOver p.link⟩ := by
  induction spans generalizing p with
  | nil => rfl
  | cons span spans ih =>
    show (p.mark span.markup).markAll spans = _
    rw [ih, List.flatMap_cons, List.foldl_cons, StyleSpan.codes, StyleSpan.linkOver]
    cases span.markup with
    | style style => simp only [Pen.mark, Terminal.select_codes]
    | link url => rfl

/-- Links leave the style as it is. -/
private theorem Pen.style_markAll {spans : List StyleSpan}
    (hspans : spans.any Styled.setsStyle = false) (p : Pen) :
    (p.markAll spans).style = p.style := by
  induction spans generalizing p with
  | nil => rfl
  | cons span spans ih =>
    rw [List.any_cons, Bool.or_eq_false_iff, Styled.setsStyle] at hspans
    show ((p.mark span.markup).markAll spans).style = _
    rw [ih hspans.2]
    cases hmarkup : span.markup with
    | style style => simp [hmarkup] at hspans
    | link url => rfl

/-- Styles leave the link as it is. -/
private theorem Pen.link_markAll {spans : List StyleSpan}
    (hspans : spans.any (!Styled.setsStyle ·) = false) (p : Pen) :
    (p.markAll spans).link = p.link := by
  induction spans generalizing p with
  | nil => rfl
  | cons span spans ih =>
    rw [List.any_cons, Bool.or_eq_false_iff, Styled.setsStyle] at hspans
    show ((p.mark span.markup).markAll spans).link = _
    rw [ih hspans.2]
    cases hmarkup : span.markup with
    | style style => rfl
    | link url => simp [hmarkup] at hspans

namespace Terminal

variable {pen : Pen} {shown : List (Char × Pen)} {spans : List StyleSpan}

/-- Does no link among the markups of the spans hold the character that begins escape sequences? -/
def PlainLinks (spans : List StyleSpan) : Prop :=
  ∀ span ∈ spans, Styled.escapeChar ∉ span.markup.target

instance : Decidable (PlainLinks spans) :=
  inferInstanceAs (Decidable (∀ span ∈ spans, Styled.escapeChar ∉ span.markup.target))

/-- The last link is the one that counts. -/
private theorem run_linkTexts (hspans : PlainLinks spans) :
    run ⟨pen, .showing, shown⟩ (spans.flatMap StyleSpan.linkText) =
      ⟨{ pen with link := spans.foldl StyleSpan.linkOver pen.link }, .showing, shown⟩ := by
  induction spans generalizing pen with
  | nil => rfl
  | cons span spans ih =>
    obtain ⟨hspan, hspans⟩ := List.forall_mem_cons.mp hspans
    rw [List.flatMap_cons, run_append, List.foldl_cons, StyleSpan.linkText, StyleSpan.linkOver]
    cases hmarkup : span.markup with
    | style style => exact ih hspans
    | link url =>
      rw [hmarkup, Markup.target] at hspan
      dsimp only
      rw [run_selectLink hspan, ih hspans]

/-- **Switching spans on puts their markups over what is there.** -/
theorem run_switchOn (hspans : PlainLinks spans) :
    run ⟨pen, .showing, shown⟩ (Styled.switchOn spans) = ⟨pen.markAll spans, .showing, shown⟩ := by
  show run ⟨pen, .showing, shown⟩ (spans.flatMap StyleSpan.linkText ++
    (if (spans.flatMap StyleSpan.codes).isEmpty then [] else
      Styled.selectCodes (spans.flatMap StyleSpan.codes))) = _
  rw [run_append, run_linkTexts hspans, Pen.markAll_eq]
  -- Without codes nothing is sent, since an empty list of codes would be a reset.
  split
  · rename_i hempty
    rw [List.isEmpty_iff.mp hempty]
    rfl
  · rename_i hcodes
    rw [run_selectCodes fun h => hcodes (List.isEmpty_iff.mpr h)]

/-- **Switching spans off leaves nothing of their markups.** -/
theorem run_switchOff (spans : List StyleSpan) :
    run ⟨Pen.markAll {} spans, .showing, shown⟩ (Styled.switchOff spans)
      = ⟨{}, .showing, shown⟩ := by
  -- What no span has set needs no reset.
  have hstyle : spans.any Styled.setsStyle = false → (Pen.markAll {} spans).style = {} :=
    fun hspans => Pen.style_markAll hspans {}
  have hlink : spans.any (!Styled.setsStyle ·) = false → (Pen.markAll {} spans).link = [] :=
    fun hspans => Pen.link_markAll hspans {}
  generalize Pen.markAll {} spans = p at hstyle hlink
  obtain ⟨style, link⟩ := p
  rw [Styled.switchOff, run_append]
  have hcodes : run ⟨⟨style, link⟩, .showing, shown⟩
      (if spans.any Styled.setsStyle then Styled.selectCodes [0] else [])
        = ⟨⟨{}, link⟩, .showing, shown⟩ := by
    cases hsets : spans.any Styled.setsStyle with
    | true => exact run_selectCodes (by simp)
    | false =>
      obtain rfl : style = {} := hstyle hsets
      rfl
  rw [hcodes]
  cases hsets : spans.any (!Styled.setsStyle ·) with
  | true => exact run_selectLink (by simp)
  | false =>
    obtain rfl : link = [] := hlink hsets
    rfl

/-! ### Texts -/

/-- The markups of each character from `i` on are put over nothing. -/
private theorem run_renderFrom {s : Styled} (hlinks : PlainLinks s.spans) {cs : List Char}
    (hcs : Styled.escapeChar ∉ cs) (i : Nat) (active : List StyleSpan) (shown : List (Char × Pen)) :
    run ⟨Pen.markAll {} active, .showing, shown⟩ (s.renderFrom i active cs) =
      ⟨{}, .showing, shown ++ cs.mapIdx fun k c => (c, Pen.markAll {} (s.spansAt (i + k)))⟩ := by
  induction cs generalizing active shown i with
  | nil =>
    rw [List.mapIdx_nil, List.append_nil]
    exact run_switchOff active
  | cons c cs ih =>
    rw [List.mem_cons, not_or] at hcs
    have hnow : PlainLinks (s.spansAt i) :=
      fun span hspan => hlinks span (List.mem_of_mem_filter hspan)
    -- If the spans are the same ones, what they have put there stays.
    have hchange : run ⟨Pen.markAll {} active, .showing, shown⟩
        (if s.spansAt i = active then []
          else Styled.switchOff active ++ Styled.switchOn (s.spansAt i)) =
          ⟨Pen.markAll {} (s.spansAt i), .showing, shown⟩ := by
      split
      · rename_i hsame
        rw [hsame]
        rfl
      · rw [run_append, run_switchOff, run_switchOn hnow]
    rw [Styled.renderFrom, run_append, hchange, run_cons, step_showing (Ne.symm hcs.1), ih hcs.2,
      List.append_assoc, List.mapIdx_cons]
    simp only [Nat.add_zero, Nat.add_comm, Nat.add_left_comm, List.singleton_append]

/-- **A terminal shows every character with its own markups.**  It shows the characters of the text
    in their order, each with the markups of the spans over it, one put over the other in the order
    of the spans, and nothing is left over at the end. -/
theorem run_render (s : Styled) (hchars : Styled.escapeChar ∉ s.chars)
    (hlinks : PlainLinks s.spans) :
    run {} s.render =
      { pen := {}, mode := .showing, shown := s.view.map fun (c, markups) =>
        (c, markups.foldl Pen.mark {}) } := by
  have hview : s.view.map (fun (c, markups) => (c, markups.foldl Pen.mark {})) =
      s.chars.mapIdx fun i c => (c, Pen.markAll {} (s.spansAt (0 + i))) := by
    apply List.ext_getElem?
    intro i
    simp [Styled.view, stylesAt, Pen.markAll, Styled.spansAt, Function.comp_def]
  rw [hview]
  exact run_renderFrom hlinks hchars 0 [] []

/-- A red text with a link over the middle of it, a bold and green word that begins within the link
    and ends behind it, and a span that sets nothing. -/
def mixed : Styled where
  chars := "red link word".toList
  spans := [⟨0, 13, .style { foreground := some .red }⟩, ⟨4, 10, .link "u;v"⟩,
    ⟨9, 13, .style { bold := true, foreground := some (.indexed 34) }⟩, ⟨2, 6, .style {}⟩]

/-- Where spans overlap, the later one is put over the earlier: the end of the link is still shown
    in red before the word and in green at its start, and behind the link the word goes on without
    it. -/
theorem run_render_mixed :
    Styled.escapeChar ∉ mixed.chars ∧ PlainLinks mixed.spans ∧
      run {} mixed.render = { shown := mixed.view.map fun (c, markups) =>
        (c, markups.foldl Pen.mark {}) } ∧
      (run {} mixed.render).shown.drop 8 =
        (' ', ⟨{ foreground := some .red }, "u;v".toList⟩) ::
        ('w', ⟨{ foreground := some (.indexed 34), bold := true }, "u;v".toList⟩) ::
        "ord".toList.map fun c => (c, ⟨{ foreground := some (.indexed 34), bold := true }, []⟩) :=
  have hchars : Styled.escapeChar ∉ mixed.chars := by decide +kernel
  have hlinks : PlainLinks mixed.spans := by decide +kernel
  ⟨hchars, hlinks, run_render mixed hchars hlinks, by decide +kernel⟩

end Terminal

end Softcode
