import UniversalInbox.Core
import UniversalInbox.Library.HtmlReader
import Mathlib.Data.List.Chain

/-! The body of a plain text mail made into HTML: its lines are copied, and quoted ones are put into
blockquotes. -/
namespace UniversalInbox.PlainTextMails
open HtmlReader

def blockquote : List Char := "<blockquote class=\"gmail_quote\">".toList

def endBlockquote : List Char := "</blockquote>".toList

def lineBreak : List Char := "<br>".toList

/-- `split_inclusive('\n')`. -/
def splitInclusive : List Char → List (List Char)
  | [] => []
  | c :: text =>
    if c = '\n' then [c] :: splitInclusive text
    else
      match splitInclusive text with
      | [] => [[c]]
      | raw :: rest => (c :: raw) :: rest

/-- What is shown of a line, without its quote marker and its line break. -/
structure Line where
  content : List Char
  isQuoteLine : Bool
  hasNewline : Bool
deriving DecidableEq, Repr

def readLine (raw : List Char) : Line :=
  let hasNewline := raw.getLast? == some '\n'
  let line := if hasNewline then raw.dropLast else raw
  let trimmed := line.dropWhile isWhitespace
  match trimmed with
  | '>' :: afterGt =>
    { content := if afterGt.head? == some ' ' then afterGt.drop 1 else afterGt
      isQuoteLine := true
      hasNewline := hasNewline }
  | _ => { content := line, isQuoteLine := false, hasNewline := hasNewline }

/-- CRLF is a line break like LF. -/
def lines (body : List Char) : List Line :=
  (splitInclusive (Texts.replace ['\r', '\n'] ['\n'] body)).map readLine

structure Output where
  out : List Char
  inQuote : Bool

def wrapLine (s : Output) (line : Line) : Output :=
  let s :=
    if line.isQuoteLine && !s.inQuote then { out := s.out ++ blockquote, inQuote := true }
    else if !line.isQuoteLine && s.inQuote then
      { out := s.out ++ endBlockquote, inQuote := false }
    else s
  { s with out := s.out ++ line.content ++ if line.hasNewline then lineBreak else [] }

def wrapPlainTextQuotesAsHtml (body : List Char) : List Char :=
  let s := (lines body).foldl wrapLine { out := [], inQuote := false }
  if s.inQuote then s.out ++ endBlockquote else s.out

/-- A character of the body, or a tag that is put in. -/
inductive Piece where
  | char (c : Char)
  | blockquote
  | endBlockquote
  | lineBreak
deriving DecidableEq, Repr

namespace Piece

def html : Piece → List Char
  | char c => [c]
  | blockquote => PlainTextMails.blockquote
  | endBlockquote => PlainTextMails.endBlockquote
  | lineBreak => PlainTextMails.lineBreak

def token : Piece → Token
  | char c => .text [c]
  | blockquote => .startTag "blockquote".toList
  | endBlockquote => .endTag "blockquote".toList
  | lineBreak => .startTag "br".toList

end Piece

def render (pieces : List Piece) : List Char := pieces.flatMap Piece.html

def switchQuote (inQuote isQuoteLine : Bool) : List Piece :=
  if isQuoteLine && !inQuote then [.blockquote]
  else if !isQuoteLine && inQuote then [.endBlockquote]
  else []

def breakOf (line : Line) : List Piece := if line.hasNewline then [.lineBreak] else []

def piecesFrom (inQuote : Bool) : List Line → List Piece
  | [] => if inQuote then [.endBlockquote] else []
  | line :: rest =>
    switchQuote inQuote line.isQuoteLine ++
      (line.content.map .char ++ (breakOf line ++ piecesFrom line.isQuoteLine rest))

def pieces (body : List Char) : List Piece := piecesFrom false (lines body)

/-- The body as it is meant to be seen. -/
def shownText (body : List Char) : List Char :=
  (lines body).flatMap fun line => line.content ++ if line.hasNewline then ['\n'] else []

def insertedTags (body : List Char) : List Token :=
  ((pieces body).map Piece.token).filter Token.isMarkup

/-- Each blockquote is closed before the next is opened, and so is the last one. -/
def QuotesClosed (inQuote : Bool) : List Token → Prop
  | [] => inQuote = false
  | token :: rest =>
    if token = Piece.blockquote.token then inQuote = false ∧ QuotesClosed true rest
    else if token = Piece.endBlockquote.token then inQuote = true ∧ QuotesClosed false rest
    else QuotesClosed inQuote rest

/-- Read as HTML, the text is that of the body, and the markup is what was put in. -/
structure RenderedFaithfully (references : References) (body : List Char) : Prop where
  quotes : QuotesClosed false (tokens references (wrapPlainTextQuotesAsHtml body))
  text : visibleText (tokens references (wrapPlainTextQuotesAsHtml body)) = shownText body
  markup : (tokens references (wrapPlainTextQuotesAsHtml body)).filter Token.isMarkup =
    insertedTags body

/-- In a line, no `<` opens markup and no `&` begins a character reference; a tag may follow. -/
def ReadsAsText (references : References) (followed : Bool) : List Char → Prop
  | [] => True
  | c :: text =>
    (c = '<' → (opening text).isSome = false ∧ ¬ (followed = true ∧ text = ['/'])) ∧
      (c = '&' → reference references text = none) ∧ ReadsAsText references followed text

/-- No line that is shown has markup or character references; a tag follows a line that has a line
break or is quoted. -/
def NothingOpens (references : References) (body : List Char) : Prop :=
  ∀ line ∈ lines body,
    ReadsAsText references (line.hasNewline || line.isQuoteLine) line.content

section Pieces
variable {inQuote : Bool} {ps : List Piece}

theorem render_cons (piece : Piece) (ps : List Piece) :
    render (piece :: ps) = piece.html ++ render ps := List.flatMap_cons

theorem render_append (ps qs : List Piece) : render (ps ++ qs) = render ps ++ render qs :=
  List.flatMap_append

theorem render_map_char (text : List Char) : render (text.map .char) = text := by
  induction text with
  | nil => rfl
  | cons c text ih =>
    rw [List.map_cons, render_cons, ih]
    rfl

theorem wrapLine_eq (s : Output) (line : Line) : wrapLine s line =
    { out := s.out ++ render (switchQuote s.inQuote line.isQuoteLine ++
        (line.content.map .char ++ breakOf line))
      inQuote := line.isQuoteLine } := by
  obtain ⟨out, inQuote⟩ := s
  obtain ⟨content, isQuoteLine, hasNewline⟩ := line
  simp only [wrapLine, render_append, render_map_char]
  cases isQuoteLine <;> cases inQuote <;> cases hasNewline <;>
    simp [switchQuote, breakOf, render, Piece.html]

theorem foldl_wrapLine (lines : List Line) (s : Output) :
    (let t := lines.foldl wrapLine s
      if t.inQuote then t.out ++ endBlockquote else t.out) =
      s.out ++ render (piecesFrom s.inQuote lines) := by
  induction lines generalizing s with
  | nil =>
    obtain ⟨out, inQuote⟩ := s
    cases inQuote <;> simp [piecesFrom, render, Piece.html]
  | cons line lines ih =>
    rw [List.foldl_cons, ih, wrapLine_eq, piecesFrom]
    simp only [render_append, List.append_assoc]

/-- The output is the characters of the lines with the tags between them. -/
theorem wrapPlainTextQuotesAsHtml_eq (body : List Char) :
    wrapPlainTextQuotesAsHtml body = render (pieces body) :=
  foldl_wrapLine (lines body) { out := [], inQuote := false }

end Pieces

/-- No character of the body opens anything where it stands in the output. -/
def Literal (references : References) : List Piece → Prop
  | [] => True
  | .char c :: rest =>
    (c = '<' → opening (render rest) = none) ∧
      (c = '&' → reference references (render rest) = none) ∧ Literal references rest
  | _ :: rest => Literal references rest

section Reading
variable {references : References} {ps : List Piece} {piece : Piece} {text rest : List Char}

/-- The tags that are put in end with the one character that ends markup. -/
theorem html_eq_of_tag (h : piece.token.isMarkup = true) :
    ∃ first, piece.html = '<' :: (first ++ ['>']) ∧ '>' ∉ first := by
  cases piece with
  | char c => cases h
  | blockquote => exact ⟨"blockquote class=\"gmail_quote\"".toList, rfl, by decide⟩
  | endBlockquote => exact ⟨"/blockquote".toList, rfl, by decide⟩
  | lineBreak => exact ⟨"br".toList, rfl, by decide⟩

theorem tokens_tag (h : piece.token.isMarkup = true) (rest : List Char) :
    tokens references (piece.html ++ rest) = piece.token :: tokens references rest := by
  cases piece with
  | char c => cases h
  | blockquote =>
    have hopening : opening ("blockquote class=\"gmail_quote\">".toList ++ rest) =
        some (.tag false ['b'] .tagName, "lockquote class=\"gmail_quote\">".toList ++ rest) := rfl
    exact tokens_of_opening hopening
  | endBlockquote =>
    have hopening : opening ("/blockquote>".toList ++ rest) =
        some (.tag true ['b'] .tagName, "lockquote>".toList ++ rest) := rfl
    exact tokens_of_opening hopening
  | lineBreak =>
    have hopening : opening ("br>".toList ++ rest) =
        some (.tag false ['b'] .tagName, "r>".toList ++ rest) := rfl
    exact tokens_of_opening hopening

theorem isMarkup_of_ne_char (h : ∀ c, piece ≠ .char c) : piece.token.isMarkup = true := by
  cases piece with
  | char c => exact absurd rfl (h c)
  | _ => rfl

/-- Where nothing opens, the pieces are read back one by one. -/
theorem tokens_render (h : Literal references ps) :
    tokens references (render ps) = ps.map Piece.token := by
  induction ps with
  | nil => rfl
  | cons piece ps ih =>
    rw [render_cons, List.map_cons]
    by_cases hchar : ∃ c, piece = .char c
    · obtain ⟨c, rfl⟩ := hchar
      obtain ⟨hopening, hreference, hrest⟩ := h
      rw [← ih hrest]
      exact tokens_of_literal hopening hreference
    · have hmarkup := isMarkup_of_ne_char fun c heq => hchar ⟨c, heq⟩
      rw [tokens_tag hmarkup, ih]
      cases piece <;> first | exact h | cases hmarkup

/-- What is read off the output without a `<` is characters of the body. -/
theorem exists_rest_of_render (h : render ps = text ++ rest) (htext : '<' ∉ text) :
    ∃ qs, ps = text.map .char ++ qs ∧ rest = render qs := by
  induction text generalizing ps with
  | nil => exact ⟨ps, rfl, h.symm⟩
  | cons c text ih =>
    rw [List.mem_cons, not_or] at htext
    cases ps with
    | nil => cases h
    | cons piece ps =>
      rw [render_cons] at h
      by_cases hchar : ∃ d, piece = .char d
      · obtain ⟨d, rfl⟩ := hchar
        rw [Piece.html, List.singleton_append, List.cons_append, List.cons.injEq] at h
        obtain ⟨qs, rfl, hrest⟩ := ih h.2 htext.2
        exact ⟨qs, by rw [h.1]; rfl, hrest⟩
      · obtain ⟨first, hhtml, -⟩ := html_eq_of_tag (isMarkup_of_ne_char fun c heq => hchar ⟨c, heq⟩)
        rw [hhtml, List.cons_append, List.cons_append, List.cons.injEq] at h
        exact absurd h.1 htext.1

/-- Markup that is read ends behind a piece. -/
theorem read_render (markup : Markup) (ps : List Piece) :
    ∃ qs, qs <:+ ps ∧ (markup.read (render ps)).2 = render qs := by
  induction ps generalizing markup with
  | nil => exact ⟨[], List.suffix_refl _, rfl⟩
  | cons piece ps ih =>
    have hlater : ∀ markup : Markup, ∃ qs, qs <:+ piece :: ps ∧
        (markup.read (render ps)).2 = render qs := by
      intro markup
      obtain ⟨qs, hsuffix, hqs⟩ := ih markup
      exact ⟨qs, hsuffix.trans (List.suffix_cons _ _), hqs⟩
    rw [render_cons]
    by_cases hchar : ∃ c, piece = .char c
    · obtain ⟨c, rfl⟩ := hchar
      rw [Piece.html, List.singleton_append, Markup.read]
      split
      · exact ⟨ps, List.suffix_cons _ _, rfl⟩
      · exact hlater _
    · obtain ⟨first, hhtml, hend⟩ :=
        html_eq_of_tag (isMarkup_of_ne_char fun c heq => hchar ⟨c, heq⟩)
      have hend' : '>' ∉ '<' :: first := by
        rw [List.mem_cons, not_or]
        exact ⟨by decide, hend⟩
      rw [hhtml, ← List.cons_append, List.append_assoc, List.singleton_append]
      rcases markup.read_append hend' (render ps) with hread | ⟨markup', hread⟩
      · exact ⟨ps, List.suffix_cons _ _, hread⟩
      · rw [hread]
        exact hlater markup'

/-- As many characters as can be seen of the pieces. -/
def weight (ps : List Piece) : Nat := (visibleText (ps.map Piece.token)).length

theorem weight_append (ps qs : List Piece) : weight (ps ++ qs) = weight ps + weight qs := by
  unfold weight
  rw [List.map_append, visibleText_append, List.length_append]

theorem weight_cons (piece : Piece) (ps : List Piece) :
    weight (piece :: ps) = piece.token.visible.length + weight ps := by
  unfold weight
  rw [List.map_cons, visibleText, List.flatMap_cons, List.length_append]
  rfl

theorem weight_map_char (text : List Char) : weight (text.map .char) = text.length := by
  induction text with
  | nil => rfl
  | cons c text ih =>
    rw [List.map_cons, weight_cons, ih, List.length_cons, Nat.add_comm]
    rfl

theorem weight_le_of_suffix {qs : List Piece} (h : qs <:+ ps) : weight qs ≤ weight ps := by
  obtain ⟨first, rfl⟩ := h
  rw [weight_append]
  exact Nat.le_add_left _ _

/-- As many characters as are seen when the output is read. -/
def seen (references : References) (ps : List Piece) : Nat :=
  (visibleText (tokens references (render ps))).length

/-- Markup of the body takes two of its characters at least and shows one at most. -/
theorem seen_lt_of_opening {markup : Markup} (hle : ∀ qs, qs <:+ ps → seen references qs ≤ weight qs)
    (h : opening (render ps) = some (markup, rest)) :
    seen references (.char '<' :: ps) < weight (.char '<' :: ps) := by
  obtain ⟨first, hrender, hne, hlt⟩ := opening_eq_some h
  obtain ⟨qs, rfl, rfl⟩ := exists_rest_of_render hrender hlt
  obtain ⟨rs, hsuffix, hread⟩ := read_render markup qs
  have hrest := hle rs (hsuffix.trans (List.suffix_append _ _))
  have hweight := weight_le_of_suffix hsuffix
  have hshown := markup.length_visible_read_le (render qs)
  have hpos := List.length_pos_iff.mpr hne
  have hseen : seen references (.char '<' :: (first.map .char ++ qs)) =
      (visibleText (markup.read (render qs)).1.toList).length + seen references rs := by
    unfold seen
    rw [render_cons, Piece.html, List.singleton_append, tokens_of_opening h, hread,
      visibleText_append, List.length_append]
  have htotal : weight (.char '<' :: (first.map .char ++ qs)) = 1 + (first.length + weight qs) := by
    rw [weight_cons, weight_append, weight_map_char]
    rfl
  omega

/-- A character reference shows less than it takes. -/
theorem seen_lt_of_reference {chars : List Char}
    (hle : ∀ qs, qs <:+ ps → seen references qs ≤ weight qs)
    (h : reference references (render ps) = some (chars, rest)) :
    seen references (.char '&' :: ps) < weight (.char '&' :: ps) := by
  obtain ⟨first, hrender, hlt, hlength⟩ := reference_eq_some h
  obtain ⟨qs, rfl, rfl⟩ := exists_rest_of_render hrender hlt
  have hrest := hle qs (List.suffix_append _ _)
  have hseen : seen references (.char '&' :: (first.map .char ++ qs)) =
      chars.length + seen references qs := by
    unfold seen
    rw [render_cons, Piece.html, List.singleton_append, tokens_of_reference h, visibleText,
      List.flatMap_cons, List.length_append]
    rfl
  have htotal : weight (.char '&' :: (first.map .char ++ qs)) = 1 + (first.length + weight qs) := by
    rw [weight_cons, weight_append, weight_map_char]
    rfl
  omega

theorem seen_tag (h : piece.token.isMarkup = true) (ps : List Piece) :
    seen references (piece :: ps) = piece.token.visible.length + seen references ps := by
  unfold seen
  rw [render_cons, tokens_tag h, visibleText, List.flatMap_cons, List.length_append]
  rfl

theorem seen_literal {c : Char} (hopening : c = '<' → opening (render ps) = none)
    (hreference : c = '&' → reference references (render ps) = none) :
    seen references (.char c :: ps) = 1 + seen references ps := by
  unfold seen
  rw [render_cons, Piece.html, List.singleton_append, tokens_of_literal hopening hreference,
    visibleText, List.flatMap_cons, List.length_append]
  rfl

/-- A character of the body opens something, or it stands for itself. -/
theorem seen_char (hle : ∀ qs, qs <:+ ps → seen references qs ≤ weight qs) (c : Char) :
    seen references (.char c :: ps) < weight (.char c :: ps) ∨
      (c = '<' → opening (render ps) = none) ∧
        (c = '&' → reference references (render ps) = none) := by
  by_cases hlt : c = '<'
  · subst hlt
    cases hopening : opening (render ps) with
    | none => exact .inr ⟨fun _ => rfl, fun h => absurd h (by decide)⟩
    | some result => exact .inl (seen_lt_of_opening hle hopening)
  · by_cases hamp : c = '&'
    · subst hamp
      cases hreference : reference references (render ps) with
      | none => exact .inr ⟨fun h => absurd h (by decide), fun _ => rfl⟩
      | some result => exact .inl (seen_lt_of_reference hle hreference)
    · exact .inr ⟨fun h => absurd h hlt, fun h => absurd h hamp⟩

theorem seen_le_weight (references : References) (ps : List Piece) :
    seen references ps ≤ weight ps := by
  induction hlength : ps.length using Nat.strongRecOn generalizing ps with
  | ind n ih =>
    cases ps with
    | nil => exact Nat.zero_le _
    | cons piece ps =>
      have hshorter : ∀ qs, qs <:+ ps → seen references qs ≤ weight qs := fun qs hsuffix =>
        ih qs.length (by have := hsuffix.length_le; rw [List.length_cons] at hlength; omega) qs rfl
      have hrest := hshorter ps (List.suffix_refl _)
      by_cases hchar : ∃ c, piece = .char c
      · obtain ⟨c, rfl⟩ := hchar
        rcases seen_char hshorter c with hlt | ⟨hopening, hreference⟩
        · exact hlt.le
        · rw [seen_literal hopening hreference, weight_cons]
          exact Nat.add_le_add_left hrest 1
      · rw [seen_tag (isMarkup_of_ne_char fun c heq => hchar ⟨c, heq⟩), weight_cons]
        exact Nat.add_le_add_left hrest _

/-- Nothing of the body is lost only where nothing of it opens anything. -/
theorem literal_of_seen (h : seen references ps = weight ps) : Literal references ps := by
  induction ps with
  | nil => trivial
  | cons piece ps ih =>
    by_cases hchar : ∃ c, piece = .char c
    · obtain ⟨c, rfl⟩ := hchar
      rcases seen_char (fun qs _ => seen_le_weight references qs) c with hlt | ⟨hopening, hreference⟩
      · exact absurd h hlt.ne
      · rw [seen_literal hopening hreference, weight_cons] at h
        exact ⟨hopening, hreference, ih (Nat.add_left_cancel h)⟩
    · rw [seen_tag (isMarkup_of_ne_char fun c heq => hchar ⟨c, heq⟩), weight_cons] at h
      have hrest := ih (Nat.add_left_cancel h)
      cases piece with
      | char c => exact absurd ⟨c, rfl⟩ hchar
      | _ => exact hrest

end Reading

section Lines
variable {references : References} {ps : List Piece}

/-- What follows a line in the output is a tag, if anything does. -/
def Follows (followed : Bool) (html : List Char) : Prop :=
  (followed = true ∧ ∃ rest, html = '<' :: rest) ∨ (followed = false ∧ html = [])

theorem opening_append_iff {followed : Bool} {html : List Char} (h : Follows followed html)
    (text : List Char) : opening (text ++ html) = none ↔
      (opening text).isSome = false ∧ ¬ (followed = true ∧ text = ['/']) := by
  rcases h with ⟨rfl, rest, rfl⟩ | ⟨rfl, rfl⟩
  · rw [← Option.isNone_iff_eq_none, ← Option.not_isSome, isSome_opening_append]
    simp
  · rw [List.append_nil]
    simp

theorem reference_append_iff {followed : Bool} {html : List Char} (h : Follows followed html)
    (text : List Char) :
    reference references (text ++ html) = none ↔ reference references text = none := by
  rcases h with ⟨-, rest, rfl⟩ | ⟨-, rfl⟩
  · exact reference_append_eq_none_iff text rest
  · rw [List.append_nil]

theorem literal_map_char_append {followed : Bool} (h : Follows followed (render ps))
    (text : List Char) : Literal references (text.map .char ++ ps) ↔
      ReadsAsText references followed text ∧ Literal references ps := by
  induction text with
  | nil => exact (and_iff_right trivial).symm
  | cons c text ih =>
    have hrender : render (text.map .char ++ ps) = text ++ render ps := by
      rw [render_append, render_map_char]
    rw [List.map_cons, List.cons_append, Literal, ReadsAsText, hrender, ih, opening_append_iff h,
      reference_append_iff h, and_assoc, and_assoc]

theorem literal_tags {tags : List Piece} (h : ∀ piece ∈ tags, piece.token.isMarkup = true) :
    Literal references (tags ++ ps) ↔ Literal references ps := by
  induction tags with
  | nil => rfl
  | cons piece tags ih =>
    have hpiece := h piece List.mem_cons_self
    have hrest := ih fun piece hmem => h piece (List.mem_cons_of_mem _ hmem)
    cases piece with
    | char c => cases hpiece
    | _ => exact hrest

theorem isMarkup_switchQuote (inQuote isQuoteLine : Bool) :
    ∀ piece ∈ switchQuote inQuote isQuoteLine, piece.token.isMarkup = true := by
  cases inQuote <;> cases isQuoteLine <;> decide

theorem isMarkup_breakOf (line : Line) : ∀ piece ∈ breakOf line, piece.token.isMarkup = true := by
  unfold breakOf
  cases line.hasNewline <;> decide

/-- A line without a line break is the last one, where only an open quote is closed. -/
theorem follows_line {line : Line} {rest : List Line}
    (hlines : (line :: rest).IsChain fun line _ => line.hasNewline = true) :
    Follows (line.hasNewline || line.isQuoteLine)
      (render (breakOf line ++ piecesFrom line.isQuoteLine rest)) := by
  unfold breakOf
  cases hnewline : line.hasNewline with
  | true => exact .inl ⟨rfl, _, rfl⟩
  | false =>
    cases rest with
    | nil =>
      cases line.isQuoteLine with
      | true => exact .inl ⟨rfl, _, rfl⟩
      | false => exact .inr ⟨rfl, rfl⟩
    | cons next rest =>
      rw [List.isChain_cons_cons, hnewline] at hlines
      cases hlines.1

theorem literal_piecesFrom (inQuote : Bool) {lines : List Line}
    (hlines : lines.IsChain fun line _ => line.hasNewline = true) :
    Literal references (piecesFrom inQuote lines) ↔
      ∀ line ∈ lines,
        ReadsAsText references (line.hasNewline || line.isQuoteLine) line.content := by
  induction lines generalizing inQuote with
  | nil =>
    cases inQuote <;> simp [piecesFrom, Literal]
  | cons line rest ih =>
    rw [piecesFrom, literal_tags (isMarkup_switchQuote _ _),
      literal_map_char_append (follows_line hlines), literal_tags (isMarkup_breakOf line),
      ih _ hlines.tail, List.forall_mem_cons]

theorem isChain_splitInclusive (text : List Char) :
    (splitInclusive text).IsChain fun raw _ => raw.getLast? = some '\n' := by
  induction text with
  | nil => exact .nil
  | cons c text ih =>
    unfold splitInclusive
    split
    · next hc =>
      rw [List.isChain_cons]
      exact ⟨fun _ _ => by rw [hc]; rfl, ih⟩
    · split
      · exact .singleton _
      · next raw rest heq =>
        rw [heq, List.isChain_cons] at ih
        rw [List.isChain_cons]
        refine ⟨fun next hnext => ?_, ih.2⟩
        rw [List.getLast?_cons, ih.1 next hnext]
        rfl

theorem hasNewline_readLine (raw : List Char) :
    (readLine raw).hasNewline = (raw.getLast? == some '\n') := by
  unfold readLine
  dsimp only
  split <;> rfl

/-- Only the last line can be without a line break. -/
theorem isChain_lines (body : List Char) :
    (lines body).IsChain fun line _ => line.hasNewline = true := by
  unfold lines
  rw [List.isChain_map]
  refine (isChain_splitInclusive _).imp fun raw _ hraw => ?_
  rw [hasNewline_readLine, hraw]
  rfl

theorem visibleText_map_char (text : List Char) :
    visibleText ((text.map Piece.char).map Piece.token) = text := by
  induction text with
  | nil => rfl
  | cons c text ih =>
    rw [List.map_cons, List.map_cons, visibleText, List.flatMap_cons]
    exact congrArg (c :: ·) ih

theorem visibleText_piecesFrom (inQuote : Bool) (lines : List Line) :
    visibleText ((piecesFrom inQuote lines).map Piece.token) =
      lines.flatMap fun line => line.content ++ if line.hasNewline then ['\n'] else [] := by
  induction lines generalizing inQuote with
  | nil => cases inQuote <;> rfl
  | cons line lines ih =>
    have hswitch : visibleText ((switchQuote inQuote line.isQuoteLine).map Piece.token) = [] := by
      cases inQuote <;> cases line.isQuoteLine <;> rfl
    have hbreak : visibleText ((breakOf line).map Piece.token) =
        if line.hasNewline then ['\n'] else [] := by
      unfold breakOf
      cases line.hasNewline <;> rfl
    simp only [piecesFrom, List.map_append, visibleText_append, hswitch, hbreak,
      visibleText_map_char, ih, List.flatMap_cons, List.nil_append, List.append_assoc]

theorem quotesClosed_map_char (inQuote : Bool) (text : List Char) (rest : List Token) :
    QuotesClosed inQuote ((text.map Piece.char).map Piece.token ++ rest) ↔
      QuotesClosed inQuote rest := by
  induction text with
  | nil => rfl
  | cons c text ih =>
    rw [List.map_cons, List.map_cons, List.cons_append, QuotesClosed, if_neg nofun, if_neg nofun]
    exact ih

theorem quotesClosed_piecesFrom (inQuote : Bool) (lines : List Line) :
    QuotesClosed inQuote ((piecesFrom inQuote lines).map Piece.token) := by
  induction lines generalizing inQuote with
  | nil =>
    cases inQuote with
    | true => exact ⟨rfl, rfl⟩
    | false => rfl
  | cons line lines ih =>
    have hrest : QuotesClosed line.isQuoteLine
        ((line.content.map Piece.char).map Piece.token ++
          ((breakOf line).map Piece.token ++
            (piecesFrom line.isQuoteLine lines).map Piece.token)) := by
      rw [quotesClosed_map_char]
      unfold breakOf
      cases line.hasNewline <;> exact ih _
    rw [piecesFrom, List.map_append, List.map_append, List.map_append]
    cases hquote : line.isQuoteLine with
    | true =>
      rw [hquote] at hrest
      cases inQuote with
      | true => exact hrest
      | false => exact ⟨rfl, hrest⟩
    | false =>
      rw [hquote] at hrest
      cases inQuote with
      | true => exact ⟨rfl, hrest⟩
      | false => exact hrest

end Lines

section Main
variable {references : References}

/-- The body is shown as it is unless something in it reads as markup or as a character reference. -/
theorem renderedFaithfully_iff (references : References) (body : List Char) :
    RenderedFaithfully references body ↔ NothingOpens references body := by
  have hliteral : Literal references (pieces body) ↔ NothingOpens references body :=
    literal_piecesFrom false (isChain_lines body)
  have htext : visibleText ((pieces body).map Piece.token) = shownText body :=
    visibleText_piecesFrom false (lines body)
  rw [← hliteral]
  constructor
  · intro hfaithful
    refine literal_of_seen ?_
    unfold seen weight
    rw [htext, ← hfaithful.text, wrapPlainTextQuotesAsHtml_eq]
  · intro h
    constructor
    all_goals rw [wrapPlainTextQuotesAsHtml_eq, tokens_render h]
    · exact quotesClosed_piecesFrom false (lines body)
    · exact htext
    · rfl

/-- The references that HTML itself needs. -/
def basicReferences : References where
  table := [("amp;".toList, ['&']), ("lt;".toList, ['<']), ("gt;".toList, ['>'])]
  plain := by simp
  shorter := by decide

/-- An address between angle brackets is read as a tag, and a reference as its character. -/
theorem body_read_as_markup :
    ¬ RenderedFaithfully basicReferences "Al <al@x.org>\n".toList ∧
      ¬ RenderedFaithfully basicReferences "> a &lt; b".toList := by
  constructor
  · intro hfaithful
    exact absurd hfaithful.text (by decide)
  · intro hfaithful
    exact absurd hfaithful.text (by decide)

example : visibleText (tokens basicReferences
    (wrapPlainTextQuotesAsHtml "1 < 2\n> a > & <- b".toList)) = "1 < 2\na > & <- b".toList := by
  decide

end Main

end UniversalInbox.PlainTextMails
