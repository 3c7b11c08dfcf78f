import UniversalInbox.PlainTextMails
import UniversalInbox.Library.Patterns
import UniversalInbox.Library.Texts

/-! The markdown of Slack made into common markdown: line by line, markers are replaced and links
`<url|label>` are written `[label](url)`. -/
namespace UniversalInbox.SlackMarkdown
open Rewriting Patterns

section Source

structure Regex where
  pattern : List (Piece Char)
  replacement : List (Written Char)

def Regex.replace (re : Regex) (text : List Char) : List Char :=
  Patterns.replace re.pattern re.replacement text

def fence : List Char := "```".toList

def dash : List Char := "- ".toList

/-- "^```" -/
def openingFence : Regex :=
  { pattern := .start :: literal fence, replacement := [.text "```\n".toList] }

/-- "```$" -/
def closingFence : Regex :=
  { pattern := literal fence ++ [.finish], replacement := [.text "\n```".toList] }

/-- `^• ` -/
def bullet : Regex :=
  { pattern := .start :: literal "• ".toList, replacement := [.text dash] }

/-- `^(\s*)◦ ` -/
def subBullet : Regex :=
  { pattern := .start :: .run 0 isWhitespace :: literal "◦ ".toList
    replacement := [.group 1, .text dash] }

/-- `^&gt; ` -/
def quote : Regex :=
  { pattern := .start :: literal "&gt; ".toList, replacement := [.text "> ".toList] }

/-- `<([^|]+)\|([^>]+)>` -/
def link : Regex :=
  { pattern := [.one (· == '<'), .run 1 (· != '|'), .one (· == '|'), .run 1 (· != '>'),
      .one (· == '>')]
    replacement := [.text ['['], .group 2, .text "](".toList, .group 1, .text [')']] }

def regexs : List Regex := [openingFence, closingFence, bullet, subBullet, quote, link]

/-- A line feed ends a line, and a carriage return before it belongs to it. -/
def stripLineEnd (raw : List Char) : List Char :=
  if raw.getLast? = some '\n' then
    if raw.dropLast.getLast? = some '\r' then raw.dropLast.dropLast else raw.dropLast
  else raw

/-- `lines` of the standard library. -/
def lines (text : List Char) : List (List Char) :=
  (PlainTextMails.splitInclusive text).map stripLineEnd

def sanitizeLine (line : List Char) : List Char :=
  regexs.foldl (fun acc re => re.replace acc) line

def sanitizeSlackMarkdown (slackMarkdown : List Char) : List Char :=
  ['\n'].intercalate ((lines slackMarkdown).map sanitizeLine)

end Source

section Specification

/-- A stretch `<url|label>` of a text, and what comes after it. -/
structure Token where
  url : List Char
  label : List Char
  after : List Char

def Token.markdown (token : Token) : List Char :=
  '[' :: (token.label ++ ']' :: '(' :: (token.url ++ [')']))

def tokenAt (inUrl : Char → Bool) : List Char → Option Token
  | '<' :: text =>
    (upTo 1 inUrl '|' text).bind fun url =>
      (upTo 1 (· != '>') '>' url.2).map fun label =>
        { url := url.1, label := label.1, after := label.2 }
  | _ => none

def inLink (c : Char) : Bool := c != '<' && c != '>' && c != '|'

def linkAt (text : List Char) : Option Token := tokenAt inLink text

/-- With a url that reaches to the next bar, whatever brackets it has. -/
def stretchAt (text : List Char) : Option Token := tokenAt (· != '|') text

def findLink (text : List Char) : Option (Found Char) :=
  (linkAt text).map fun token =>
    { further := token.url.length + token.label.length + 2, new := token.markdown }

/-- All links of a text, from the left. -/
def convertLinks (text : List Char) : List Char := rewrite findLink text

/-- What is put for the markers of a line, and what stands between them. -/
structure Line where
  opening : List Char
  body : List Char
  closing : List Char

/-- A fence at the end of a line gets a line of its own. -/
def readBody (opening body : List Char) : Line :=
  if fence <:+ body then
    { opening := opening, body := body.take (body.length - 3), closing := '\n' :: fence }
  else { opening := opening, body := body, closing := [] }

/-- A line has one marker at most at its beginning. -/
def readLine (line : List Char) : Line :=
  let indented := line.dropWhile isWhitespace
  if fence <+: line then readBody (fence ++ ['\n']) (line.drop 3)
  else if "• ".toList <+: line then readBody dash (line.drop 2)
  else if "◦ ".toList <+: indented then
    readBody (line.takeWhile isWhitespace ++ dash) (indented.drop 2)
  else if "&gt; ".toList <+: line then readBody "> ".toList (line.drop 5)
  else readBody [] line

/-- Markers apart, the line with its links converted. -/
def convertLine (line : List Char) : List Char :=
  (readLine line).opening ++ (convertLinks (readLine line).body ++ (readLine line).closing)

/-- What every line becomes, in the order of the lines. -/
def convertText (text : List Char) : List Char :=
  ['\n'].intercalate ((lines text).map convertLine)

/-- If a line has a stretch, the first one is a link, and no link comes after it. -/
def OnlyLink : List Char → Prop
  | [] => True
  | c :: text =>
    match stretchAt (c :: text) with
    | some token => token.url.all inLink = true ∧ findsIn findLink token.after = false
    | none => OnlyLink text

end Specification

/-- A text without the characters of tokens. -/
structure Plain (text : List Char) : Prop where
  opening : '<' ∉ text
  bar : '|' ∉ text
  closing : '>' ∉ text

section Tokens
variable {inUrl : Char → Bool} {text : List Char} {token : Token}

theorem tokenAt_of_ne {c : Char} (h : c ≠ '<') (text : List Char) :
    tokenAt inUrl (c :: text) = none := by
  unfold tokenAt
  split
  · next heq =>
    rw [List.cons.injEq] at heq
    exact absurd heq.1 h
  · rfl

theorem tokenAt_eq_some_iff (h : inUrl '|' = false) :
    tokenAt inUrl text = some token ↔
      text = '<' :: (token.url ++ '|' :: (token.label ++ '>' :: token.after)) ∧
        (∀ c ∈ token.url, inUrl c = true) ∧ 1 ≤ token.url.length ∧
        (∀ c ∈ token.label, (c != '>') = true) ∧ 1 ≤ token.label.length := by
  constructor
  · intro htoken
    unfold tokenAt at htoken
    split at htoken
    · next text =>
      rw [Option.bind_eq_some_iff] at htoken
      obtain ⟨⟨url, rest⟩, hfirst, htoken⟩ := htoken
      rw [Option.map_eq_some_iff] at htoken
      obtain ⟨⟨label, after⟩, hsecond, rfl⟩ := htoken
      obtain ⟨rfl, hurl, hurlLength⟩ := eq_of_upTo hfirst
      obtain ⟨rfl, hlabel, hlabelLength⟩ := eq_of_upTo hsecond
      exact ⟨rfl, hurl, hurlLength, hlabel, hlabelLength⟩
    · cases htoken
  · rintro ⟨rfl, hurl, hurlLength, hlabel, hlabelLength⟩
    rw [tokenAt, upTo_of_eq h hurl hurlLength, Option.bind_some,
      upTo_of_eq (by decide) hlabel hlabelLength]
    rfl

/-- What comes after a text makes no new token in it. -/
theorem tokenAt_append {other : List Char} (h : Plain other) (text : List Char) :
    tokenAt inUrl (text ++ other) =
      (tokenAt inUrl text).map fun token => { token with after := token.after ++ other } := by
  cases text with
  | nil =>
    cases other with
    | nil => rfl
    | cons c other =>
      refine tokenAt_of_ne ?_ other
      rintro rfl
      exact h.opening List.mem_cons_self
  | cons c text =>
    rw [List.cons_append]
    by_cases hc : c = '<'
    · subst hc
      rw [tokenAt, tokenAt, upTo_append h.bar]
      cases upTo 1 inUrl '|' text with
      | none => rfl
      | some url =>
        rw [Option.map_some, Option.bind_some, Option.bind_some, upTo_append h.closing,
          Option.map_map, Option.map_map]
        rfl
    · rw [tokenAt_of_ne hc, tokenAt_of_ne hc]
      rfl

theorem linkAt_eq_some_iff :
    linkAt text = some token ↔ stretchAt text = some token ∧ token.url.all inLink = true := by
  unfold linkAt stretchAt
  rw [tokenAt_eq_some_iff (by decide), tokenAt_eq_some_iff (by decide), List.all_eq_true]
  constructor
  · rintro ⟨htext, hurl, hrest⟩
    refine ⟨⟨htext, ?_, hrest⟩, hurl⟩
    intro c hc
    have hlink := hurl c hc
    unfold inLink at hlink
    exact (Bool.and_eq_true_iff.mp hlink).2
  · rintro ⟨⟨htext, -, hrest⟩, hurl⟩
    exact ⟨htext, hurl, hrest⟩

theorem findLink_of_linkAt_none (h : linkAt text = none) : findLink text = none := by
  rw [findLink, h]
  rfl

/-- A link is written anew and the text after it is read on. -/
theorem convertLinks_of_link (h : linkAt text = some token) :
    convertLinks text = token.markdown ++ convertLinks token.after := by
  obtain ⟨rfl, -⟩ := (tokenAt_eq_some_iff (by decide)).mp h
  have hfind : findLink _ = some _ := congrArg (Option.map _) h
  rw [convertLinks, rewrite_of_found hfind, convertLinks]
  congr 2
  have hsplit : token.url ++ '|' :: (token.label ++ '>' :: token.after) =
      (token.url ++ '|' :: (token.label ++ ['>'])) ++ token.after := by simp
  rw [hsplit]
  refine List.drop_left' ?_
  simp only [List.length_append, List.length_cons, List.length_nil]
  omega

theorem convertLinks_cons_of_none {c : Char} (h : linkAt (c :: text) = none) :
    convertLinks (c :: text) = c :: convertLinks text :=
  rewrite_of_none (findLink_of_linkAt_none h)

end Tokens

section Links
variable {c : Char} {text : List Char} {token : Token}

/-- The groups of the pattern are those of the first stretch. -/
theorem matchHere_link (atStart : Bool) (text : List Char) :
    matchHere link.pattern atStart text =
      (stretchAt text).map fun token => ([token.url, token.label], token.after) := by
  cases text with
  | nil => rfl
  | cons c text =>
    by_cases hc : c = '<'
    · subst hc
      rw [stretchAt, tokenAt, link, matchHere_one, if_pos (beq_self_eq_true '<'),
        matchHere_run (by decide)]
      cases upTo 1 (· != '|') '|' text with
      | none => rfl
      | some url =>
        rw [Option.bind_some, Option.bind_some, matchHere_run (by decide)]
        cases upTo 1 (· != '>') '>' url.2 with
        | none => rfl
        | some label => rfl
    · rw [stretchAt, tokenAt_of_ne hc, link, matchHere_one_of_ne hc]
      rfl

theorem replace_link_cons (c : Char) (text : List Char) :
    link.replace (c :: text) =
      match stretchAt (c :: text) with
      | some token => token.markdown ++ token.after
      | none => c :: link.replace text := by
  have hanchor : ∀ text, matchHere link.pattern true text = matchHere link.pattern false text := by
    intro text
    rw [matchHere_link, matchHere_link]
  rw [Regex.replace, replace_cons hanchor, matchHere_link]
  cases stretchAt (c :: text) with
  | none => rfl
  | some token =>
    simp [link, expand, Token.markdown]

theorem replace_link_of_stretch (h : stretchAt (c :: text) = some token) :
    link.replace (c :: text) = token.markdown ++ token.after := by
  rw [replace_link_cons, h]

theorem replace_link_of_none (h : stretchAt (c :: text) = none) :
    link.replace (c :: text) = c :: link.replace text := by
  rw [replace_link_cons, h]

@[simp] theorem replace_link_nil : link.replace [] = [] := rfl

theorem linkAt_of_stretchAt_none (h : stretchAt text = none) : linkAt text = none := by
  rw [Option.eq_none_iff_forall_ne_some]
  intro token htoken
  rw [linkAt_eq_some_iff, h] at htoken
  cases htoken.1

theorem linkAt_of_dirty (h : stretchAt text = some token) (hurl : token.url.all inLink = false) :
    linkAt text = none := by
  rw [Option.eq_none_iff_forall_ne_some]
  intro other hother
  rw [linkAt_eq_some_iff, h, Option.some_inj] at hother
  obtain ⟨rfl, hall⟩ := hother
  rw [hurl] at hall
  cases hall

/-- What stands for a link begins with a bracket of another kind. -/
theorem diverge_convertLinks (h : findsIn findLink text = true) :
    Diverge text (convertLinks text) := by
  refine diverge_rewrite ?_ h
  intro c rest found hfound
  unfold findLink at hfound
  rw [Option.map_eq_some_iff] at hfound
  obtain ⟨token, htoken, rfl⟩ := hfound
  refine ⟨'[', _, rfl, ?_⟩
  rw [linkAt, tokenAt_eq_some_iff (by decide), List.cons.injEq] at htoken
  rw [htoken.1.1]
  decide

theorem replace_link_of_onlyLink (h : OnlyLink text) : link.replace text = convertLinks text := by
  induction text with
  | nil => rfl
  | cons c text ih =>
    unfold OnlyLink at h
    cases hstretch : stretchAt (c :: text) with
    | none =>
      rw [hstretch] at h
      rw [replace_link_of_none hstretch,
        convertLinks_cons_of_none (linkAt_of_stretchAt_none hstretch), ih h]
    | some token =>
      rw [hstretch] at h
      rw [replace_link_of_stretch hstretch,
        convertLinks_of_link (linkAt_eq_some_iff.mpr ⟨hstretch, h.1⟩), convertLinks,
        rewrite_eq_self h.2]

theorem diverge_of_not_onlyLink (h : ¬ OnlyLink text) :
    Diverge (link.replace text) (convertLinks text) := by
  induction text with
  | nil => exact absurd trivial h
  | cons c text ih =>
    unfold OnlyLink at h
    cases hstretch : stretchAt (c :: text) with
    | none =>
      rw [hstretch] at h
      rw [replace_link_of_none hstretch,
        convertLinks_cons_of_none (linkAt_of_stretchAt_none hstretch)]
      exact (ih h).prepend [c]
    | some token =>
      rw [hstretch] at h
      rw [replace_link_of_stretch hstretch]
      cases hurl : token.url.all inLink with
      | true =>
        -- the source stops after the first link
        rw [convertLinks_of_link (linkAt_eq_some_iff.mpr ⟨hstretch, hurl⟩)]
        refine (diverge_convertLinks ?_).prepend token.markdown
        rw [← Bool.not_eq_false]
        exact fun hafter => h ⟨hurl, hafter⟩
      | false =>
        -- the bracket that opens the stretch belongs to something else
        have hc : c = '<' := by
          by_contra hne
          rw [stretchAt, tokenAt_of_ne hne] at hstretch
          cases hstretch
        rw [convertLinks_cons_of_none (linkAt_of_dirty hstretch hurl), hc]
        exact diverge_cons (by decide) _ _

end Links

section Markers
variable {opening body indent text word : List Char} {c d : Char}

theorem not_prefix_of_head (h : c ≠ d) : ¬ c :: word <+: d :: text :=
  fun hprefix => h (List.cons_prefix_cons.mp hprefix).1

theorem replace_openingFence (body : List Char) :
    openingFence.replace (fence ++ body) = (fence ++ ['\n']) ++ body :=
  replace_start_literal fence body

theorem replace_openingFence_of_other_start (h : ¬ fence <+: text) :
    openingFence.replace text = text := replace_start_literal_of_other_start h

theorem replace_bullet (body : List Char) : bullet.replace ('•' :: ' ' :: body) = dash ++ body :=
  replace_start_literal "• ".toList body

theorem replace_bullet_of_other_start (h : ¬ "• ".toList <+: text) : bullet.replace text = text :=
  replace_start_literal_of_other_start h

theorem replace_quote (body : List Char) :
    quote.replace ("&gt; ".toList ++ body) = "> ".toList ++ body :=
  replace_start_literal "&gt; ".toList body

theorem replace_quote_of_other_start (h : ¬ "&gt; ".toList <+: text) : quote.replace text = text :=
  replace_start_literal_of_other_start h

theorem matchHere_subBullet (text : List Char) :
    matchHere (.run 0 isWhitespace :: literal "◦ ".toList) true text =
      (upTo 0 isWhitespace '◦' text).bind fun found =>
        (matchHere (literal [' ']) false found.2).map fun next => (found.1 :: next.1, next.2) :=
  matchHere_run (by decide) text

theorem replace_subBullet (h : ∀ c ∈ indent, isWhitespace c = true) (body : List Char) :
    subBullet.replace (indent ++ '◦' :: ' ' :: body) = (indent ++ dash) ++ body := by
  have hmatch := matchHere_subBullet (indent ++ '◦' :: ' ' :: body)
  rw [upTo_of_eq (by decide) h (Nat.zero_le _), Option.bind_some] at hmatch
  rw [Regex.replace, subBullet, replace_start, hmatch]
  simp [literal, matchHere, expand]

theorem replace_subBullet_of_other_start (h : ¬ "◦ ".toList <+: text.dropWhile isWhitespace) :
    subBullet.replace text = text := by
  have hmatch : matchHere (.run 0 isWhitespace :: literal "◦ ".toList) true text = none := by
    rw [matchHere_subBullet]
    cases hupTo : upTo 0 isWhitespace '◦' text with
    | none => rfl
    | some found =>
      obtain ⟨rfl, hindent, -⟩ := eq_of_upTo hupTo
      rw [List.dropWhile_append_of_pos hindent, List.dropWhile_cons_of_neg (by decide)] at h
      have hspace : ¬ [' '] <+: found.2 := fun hprefix =>
        h (List.cons_prefix_cons.mpr ⟨rfl, hprefix⟩)
      rw [Option.bind_some, matchHere_word_of_other_start hspace]
      rfl
  rw [Regex.replace, subBullet, replace_start, hmatch]

theorem replace_subBullet_of_head (hspace : isWhitespace c = false) (hc : c ≠ '◦') :
    subBullet.replace (c :: text) = c :: text := by
  refine replace_subBullet_of_other_start ?_
  rw [List.dropWhile_cons_of_neg (by rw [hspace]; decide)]
  exact not_prefix_of_head hc.symm

/-- Neither of the last two markers begins with another character than its own or whitespace. -/
theorem replace_later_of_head (hspace : isWhitespace c = false) (hsub : c ≠ '◦') (hquote : '&' ≠ c)
    (text : List Char) : quote.replace (subBullet.replace (c :: text)) = c :: text := by
  rw [replace_subBullet_of_head hspace hsub]
  exact replace_quote_of_other_start (not_prefix_of_head hquote)

theorem readBody_fence (opening before : List Char) :
    readBody opening (before ++ fence) =
      { opening := opening, body := before, closing := '\n' :: fence } := by
  have htake : (before ++ fence).take ((before ++ fence).length - 3) = before :=
    List.take_left' (by rw [List.length_append]; rfl)
  rw [readBody, if_pos (List.suffix_append before fence), htake]

theorem readBody_of_not_suffix (h : ¬ fence <:+ body) :
    readBody opening body = { opening := opening, body := body, closing := [] } := if_neg h

@[simp] theorem readBody_opening (opening body : List Char) :
    (readBody opening body).opening = opening := by
  unfold readBody
  split
  · rfl
  · rfl

/-- A marker ends with another character than those of a fence. -/
theorem fence_suffix (hc : c ≠ '`') (opening : List Char) (h : fence <:+ opening ++ c :: body) :
    fence <:+ body := by
  have hmem : c ∉ fence := by
    intro hmem
    rw [fence] at hmem
    simp at hmem
    exact hc hmem
  obtain hfence | hbody :=
    List.suffix_or_suffix_of_suffix h (List.suffix_append opening (c :: body))
  · obtain heq | hsuffix := List.suffix_cons_iff.mp hfence
    · exact absurd (heq ▸ List.mem_cons_self) hmem
    · exact hsuffix
  · exact absurd (hbody.subset List.mem_cons_self) hmem

theorem replace_closingFence (h : fence <:+ opening ++ body → fence <:+ body) (new : List Char) :
    closingFence.replace (opening ++ body) =
      opening ++ ((readBody new body).body ++ (readBody new body).closing) := by
  by_cases hfence : fence <:+ body
  · obtain ⟨before, rfl⟩ := hfence
    rw [readBody_fence, ← List.append_assoc, ← List.append_assoc]
    exact replace_literal_finish (by decide) (opening ++ before)
  · rw [readBody_of_not_suffix hfence, List.append_nil]
    exact replace_literal_finish_of_not_suffix fun hsuffix => hfence (h hsuffix)

/-- A fence that closes the line makes no marker at its beginning. -/
theorem prefix_of_closed (hword : '\n' ∉ word)
    (h : word <+: (readBody opening body).body ++ (readBody opening body).closing) :
    word <+: body := by
  by_cases hfence : fence <:+ body
  · obtain ⟨before, rfl⟩ := hfence
    rw [readBody_fence, Texts.prefix_append_iff_of_not_mem hword] at h
    exact h.trans (List.prefix_append before fence)
  · rw [readBody_of_not_suffix hfence, List.append_nil] at h
    exact h

theorem subBullet_prefix_of_closed
    (h : "◦ ".toList <+:
      ((readBody opening body).body ++ (readBody opening body).closing).dropWhile isWhitespace) :
    "◦ ".toList <+: body.dropWhile isWhitespace := by
  by_cases hfence : fence <:+ body
  · obtain ⟨before, rfl⟩ := hfence
    rw [readBody_fence, List.dropWhile_append] at h
    rw [List.dropWhile_append]
    by_cases hempty : (before.dropWhile isWhitespace).isEmpty = true
    · have hopen : ¬ "◦ ".toList <+: ('\n' :: fence).dropWhile isWhitespace := by decide
      rw [if_pos hempty] at h
      exact absurd h hopen
    · rw [if_neg hempty, Texts.prefix_append_iff_of_not_mem (by decide)] at h
      rw [if_neg hempty]
      exact h.trans (List.prefix_append _ fence)
  · rw [readBody_of_not_suffix hfence, List.append_nil] at h
    exact h

end Markers

section Lines
variable {indent text line : List Char}

theorem readLine_fence (body : List Char) :
    readLine (fence ++ body) = readBody (fence ++ ['\n']) body := by
  unfold readLine
  dsimp only
  rw [if_pos (List.prefix_append fence body)]
  rfl

theorem readLine_bullet (body : List Char) :
    readLine ('•' :: ' ' :: body) = readBody dash body := by
  have hfence : ¬ fence <+: '•' :: ' ' :: body := not_prefix_of_head (by decide)
  have hprefix : "• ".toList <+: '•' :: ' ' :: body := List.prefix_append "• ".toList body
  unfold readLine
  dsimp only
  rw [if_neg hfence, if_pos hprefix]
  rfl

/-- Such a line begins with whitespace or with the marker itself. -/
theorem head_of_indent (h : ∀ c ∈ indent, isWhitespace c = true) (d : Char) (text : List Char) :
    ∃ c rest, indent ++ d :: text = c :: rest ∧ (isWhitespace c = true ∨ c = d) := by
  cases indent with
  | nil => exact ⟨d, text, rfl, .inr rfl⟩
  | cons c indent => exact ⟨c, indent ++ d :: text, rfl, .inl (h c List.mem_cons_self)⟩

theorem not_prefix_of_indent {c d : Char} {word : List Char}
    (h : ∀ c ∈ indent, isWhitespace c = true) (hspace : isWhitespace c = false) (hne : c ≠ d)
    (text : List Char) : ¬ c :: word <+: indent ++ d :: text := by
  obtain ⟨e, rest, heq, hhead⟩ := head_of_indent h d text
  rw [heq]
  refine not_prefix_of_head ?_
  rintro rfl
  obtain hwhite | rfl := hhead
  · rw [hspace] at hwhite
    cases hwhite
  · exact hne rfl

theorem readLine_subBullet (h : ∀ c ∈ indent, isWhitespace c = true) (body : List Char) :
    readLine (indent ++ '◦' :: ' ' :: body) = readBody (indent ++ dash) body := by
  have hfence : ¬ fence <+: indent ++ '◦' :: ' ' :: body :=
    not_prefix_of_indent h (by decide) (by decide) _
  have hbullet : ¬ "• ".toList <+: indent ++ '◦' :: ' ' :: body :=
    not_prefix_of_indent h (by decide) (by decide) _
  have hdrop : (indent ++ '◦' :: ' ' :: body).dropWhile isWhitespace = '◦' :: ' ' :: body := by
    rw [List.dropWhile_append_of_pos h, List.dropWhile_cons_of_neg (by decide)]
  have htake : (indent ++ '◦' :: ' ' :: body).takeWhile isWhitespace = indent := by
    rw [List.takeWhile_append_of_pos h, List.takeWhile_cons_of_neg (by decide), List.append_nil]
  have hprefix : "◦ ".toList <+: '◦' :: ' ' :: body := List.prefix_append "◦ ".toList body
  unfold readLine
  dsimp only
  rw [if_neg hfence, if_neg hbullet, hdrop, htake, if_pos hprefix]
  rfl

theorem readLine_quote (body : List Char) :
    readLine ("&gt; ".toList ++ body) = readBody "> ".toList body := by
  have hfence : ¬ fence <+: "&gt; ".toList ++ body := not_prefix_of_head (by decide)
  have hbullet : ¬ "• ".toList <+: "&gt; ".toList ++ body := not_prefix_of_head (by decide)
  have hdrop : ("&gt; ".toList ++ body).dropWhile isWhitespace = "&gt; ".toList ++ body :=
    List.dropWhile_cons_of_neg (by decide)
  have hsub : ¬ "◦ ".toList <+: "&gt; ".toList ++ body := not_prefix_of_head (by decide)
  unfold readLine
  dsimp only
  rw [if_neg hfence, if_neg hbullet, hdrop, if_neg hsub, if_pos (List.prefix_append _ body)]
  rfl

/-- A line without a marker at its beginning. -/
structure Unmarked (line : List Char) : Prop where
  fence : ¬ fence <+: line
  bullet : ¬ "• ".toList <+: line
  subBullet : ¬ "◦ ".toList <+: line.dropWhile isWhitespace
  quote : ¬ "&gt; ".toList <+: line

theorem readLine_unmarked (h : Unmarked line) : readLine line = readBody [] line := by
  unfold readLine
  dsimp only
  rw [if_neg h.fence, if_neg h.bullet, if_neg h.subBullet, if_neg h.quote]

theorem line_cases (line : List Char) :
    (∃ body, line = fence ++ body) ∨ (∃ body, line = '•' :: ' ' :: body) ∨
      (∃ indent body, (∀ c ∈ indent, isWhitespace c = true) ∧
        line = indent ++ '◦' :: ' ' :: body) ∨
      (∃ body, line = "&gt; ".toList ++ body) ∨ Unmarked line := by
  by_cases hfence : fence <+: line
  · obtain ⟨body, rfl⟩ := hfence
    exact .inl ⟨body, rfl⟩
  by_cases hbullet : "• ".toList <+: line
  · obtain ⟨body, rfl⟩ := hbullet
    exact .inr (.inl ⟨body, rfl⟩)
  by_cases hsub : "◦ ".toList <+: line.dropWhile isWhitespace
  · obtain ⟨body, hdrop⟩ := hsub
    refine .inr (.inr (.inl ⟨line.takeWhile isWhitespace, body, ?_, ?_⟩))
    · intro c hc
      exact List.mem_takeWhile_imp hc
    · have happend := List.takeWhile_append_dropWhile (p := isWhitespace) (l := line)
      rw [← hdrop] at happend
      exact happend.symm
  by_cases hquote : "&gt; ".toList <+: line
  · obtain ⟨body, rfl⟩ := hquote
    exact .inr (.inr (.inr (.inl ⟨body, rfl⟩)))
  · exact .inr (.inr (.inr (.inr ⟨hfence, hbullet, hsub, hquote⟩)))

/-- The first five replacements put markers for markers and leave what stands between them. -/
theorem replace_markers (line : List Char) :
    quote.replace (subBullet.replace (bullet.replace
        (closingFence.replace (openingFence.replace line)))) =
      (readLine line).opening ++ ((readLine line).body ++ (readLine line).closing) := by
  obtain ⟨body, rfl⟩ | ⟨body, rfl⟩ | ⟨indent, body, hindent, rfl⟩ | ⟨body, rfl⟩ | hunmarked :=
    line_cases line
  · rw [readLine_fence, readBody_opening, replace_openingFence,
      replace_closingFence (fence_suffix (by decide) fence) (fence ++ ['\n'])]
    generalize (readBody (fence ++ ['\n']) body).body ++
      (readBody (fence ++ ['\n']) body).closing = rest
    have hbullet : bullet.replace ((fence ++ ['\n']) ++ rest) = (fence ++ ['\n']) ++ rest :=
      replace_bullet_of_other_start (not_prefix_of_head (by decide))
    rw [hbullet]
    exact replace_later_of_head (by decide) (by decide) (by decide) _
  · have hfence : openingFence.replace ('•' :: ' ' :: body) = ['•', ' '] ++ body :=
      replace_openingFence_of_other_start (not_prefix_of_head (by decide))
    rw [readLine_bullet, readBody_opening, hfence,
      replace_closingFence (fence_suffix (by decide) ['•']) dash]
    generalize (readBody dash body).body ++ (readBody dash body).closing = rest
    have hbullet : bullet.replace (['•', ' '] ++ rest) = dash ++ rest := replace_bullet rest
    rw [hbullet]
    exact replace_later_of_head (by decide) (by decide) (by decide) _
  · have hfence : openingFence.replace (indent ++ '◦' :: ' ' :: body) =
        (indent ++ ['◦', ' ']) ++ body := by
      rw [List.append_assoc]
      exact replace_openingFence_of_other_start
        (not_prefix_of_indent hindent (by decide) (by decide) _)
    have hsuffix : fence <:+ (indent ++ ['◦', ' ']) ++ body → fence <:+ body := by
      rw [List.append_cons indent '◦' [' '], List.append_assoc]
      exact fence_suffix (by decide) (indent ++ ['◦'])
    rw [readLine_subBullet hindent, readBody_opening, hfence,
      replace_closingFence hsuffix (indent ++ dash)]
    generalize (readBody (indent ++ dash) body).body ++
      (readBody (indent ++ dash) body).closing = rest
    have hbullet : bullet.replace ((indent ++ ['◦', ' ']) ++ rest) =
        indent ++ '◦' :: ' ' :: rest := by
      rw [List.append_assoc]
      exact replace_bullet_of_other_start (not_prefix_of_indent hindent (by decide) (by decide) _)
    have hquote : quote.replace ((indent ++ dash) ++ rest) = (indent ++ dash) ++ rest := by
      rw [List.append_assoc]
      exact replace_quote_of_other_start (not_prefix_of_indent hindent (by decide) (by decide) _)
    rw [hbullet, replace_subBullet hindent, hquote]
  · have hfence : openingFence.replace ("&gt; ".toList ++ body) = "&gt; ".toList ++ body :=
      replace_openingFence_of_other_start (not_prefix_of_head (by decide))
    rw [readLine_quote, readBody_opening, hfence,
      replace_closingFence (fence_suffix (by decide) "&gt;".toList) "> ".toList]
    generalize (readBody "> ".toList body).body ++ (readBody "> ".toList body).closing = rest
    have hbullet : bullet.replace ("&gt; ".toList ++ rest) = "&gt; ".toList ++ rest :=
      replace_bullet_of_other_start (not_prefix_of_head (by decide))
    have hsub : subBullet.replace ("&gt; ".toList ++ rest) = "&gt; ".toList ++ rest :=
      replace_subBullet_of_head (by decide) (by decide)
    have hquote : quote.replace ("&gt; ".toList ++ rest) = "> ".toList ++ rest := replace_quote rest
    rw [hbullet, hsub, hquote]
  · have hclosing : closingFence.replace ([] ++ line) =
        [] ++ ((readBody [] line).body ++ (readBody [] line).closing) :=
      replace_closingFence id []
    rw [readLine_unmarked hunmarked, readBody_opening,
      replace_openingFence_of_other_start hunmarked.fence]
    rw [List.nil_append] at hclosing
    rw [hclosing, List.nil_append,
      replace_bullet_of_other_start fun h => hunmarked.bullet (prefix_of_closed (by decide) h),
      replace_subBullet_of_other_start fun h => hunmarked.subBullet (subBullet_prefix_of_closed h),
      replace_quote_of_other_start fun h => hunmarked.quote (prefix_of_closed (by decide) h)]

end Lines

section Bodies
variable {opening other text line : List Char}

theorem stretchAt_append (h : Plain other) (text : List Char) :
    stretchAt (text ++ other) =
      (stretchAt text).map fun token => { token with after := token.after ++ other } :=
  tokenAt_append h text

theorem findLink_append (h : Plain other) (text : List Char) :
    (findLink (text ++ other)).isSome = (findLink text).isSome := by
  rw [findLink, linkAt, tokenAt_append h, findLink, linkAt, Option.isSome_map, Option.isSome_map,
    Option.isSome_map]

theorem findsIn_plain (h : '<' ∉ text) : findsIn findLink text = false := by
  rw [findsIn_eq_false_iff]
  intro rest hrest hsuffix
  obtain ⟨c, rest, rfl⟩ := List.exists_cons_of_ne_nil hrest
  refine findLink_of_linkAt_none (tokenAt_of_ne ?_ rest)
  rintro rfl
  exact h (hsuffix.subset List.mem_cons_self)

theorem findsIn_append (h : Plain other) (text : List Char) :
    findsIn findLink (text ++ other) = findsIn findLink text := by
  induction text with
  | nil => exact findsIn_plain h.opening
  | cons c text ih =>
    have hfind := findLink_append h (c :: text)
    rw [List.cons_append] at hfind
    rw [List.cons_append, findsIn, findsIn, hfind, ih]

theorem onlyLink_prepend (h : '<' ∉ opening) (text : List Char) :
    OnlyLink (opening ++ text) ↔ OnlyLink text := by
  induction opening with
  | nil => rfl
  | cons c opening ih =>
    rw [List.mem_cons, not_or] at h
    have hstretch : stretchAt (c :: (opening ++ text)) = none := tokenAt_of_ne (Ne.symm h.1) _
    rw [List.cons_append, OnlyLink, hstretch]
    exact ih h.2

theorem onlyLink_append (h : Plain other) (text : List Char) :
    OnlyLink (text ++ other) ↔ OnlyLink text := by
  induction text with
  | nil =>
    have hother := onlyLink_prepend h.opening []
    rw [List.append_nil] at hother
    exact hother
  | cons c text ih =>
    have hstretch := stretchAt_append h (c :: text)
    rw [List.cons_append] at hstretch
    rw [List.cons_append, OnlyLink, OnlyLink, hstretch]
    cases stretchAt (c :: text) with
    | none => exact ih
    | some token =>
      dsimp only [Option.map_some]
      rw [findsIn_append h]

theorem replace_link_prepend (h : '<' ∉ opening) (text : List Char) :
    link.replace (opening ++ text) = opening ++ link.replace text := by
  induction opening with
  | nil => rfl
  | cons c opening ih =>
    rw [List.mem_cons, not_or] at h
    have hstretch : stretchAt (c :: (opening ++ text)) = none := tokenAt_of_ne (Ne.symm h.1) _
    rw [List.cons_append, replace_link_of_none hstretch, ih h.2, List.cons_append]

theorem replace_link_append (h : Plain other) (text : List Char) :
    link.replace (text ++ other) = link.replace text ++ other := by
  induction text with
  | nil =>
    have hother := replace_link_prepend h.opening []
    rw [List.append_nil, replace_link_nil, List.append_nil] at hother
    exact hother
  | cons c text ih =>
    have hstretch := stretchAt_append h (c :: text)
    rw [List.cons_append] at hstretch
    rw [List.cons_append, replace_link_cons, replace_link_cons, hstretch]
    cases stretchAt (c :: text) with
    | none =>
      dsimp only [Option.map_none]
      rw [ih, List.cons_append]
    | some token =>
      dsimp only [Option.map_some]
      rw [List.append_assoc]
      rfl

theorem plain_nil : Plain [] :=
  { opening := List.not_mem_nil, bar := List.not_mem_nil, closing := List.not_mem_nil }

theorem plain_fence : Plain fence :=
  { opening := by decide, bar := by decide, closing := by decide }

theorem plain_closing : Plain ('\n' :: fence) :=
  { opening := by decide, bar := by decide, closing := by decide }

/-- The markers of a line have no part in its links. -/
def MarkersApart (line : List Char) : Prop :=
  ∃ marker fenced, line = marker ++ ((readLine line).body ++ fenced) ∧ '<' ∉ marker ∧
    '<' ∉ (readLine line).opening ∧ Plain fenced ∧ Plain (readLine line).closing

theorem markersApart_of_readBody (marker : List Char) {new body : List Char}
    (h : readLine (marker ++ body) = readBody new body) (hmarker : '<' ∉ marker)
    (hnew : '<' ∉ new) : MarkersApart (marker ++ body) := by
  unfold MarkersApart
  rw [h, readBody_opening]
  by_cases hfence : fence <:+ body
  · obtain ⟨before, rfl⟩ := hfence
    rw [readBody_fence]
    exact ⟨marker, fence, rfl, hmarker, hnew, plain_fence, plain_closing⟩
  · rw [readBody_of_not_suffix hfence]
    exact ⟨marker, [], by rw [List.append_nil], hmarker, hnew, plain_nil, plain_nil⟩

theorem not_mem_indent {indent word : List Char} (h : ∀ c ∈ indent, isWhitespace c = true)
    (hword : '<' ∉ word) : '<' ∉ indent ++ word := by
  rw [List.mem_append, not_or]
  refine ⟨?_, hword⟩
  intro hmem
  exact absurd (h _ hmem) (by decide)

theorem markersApart (line : List Char) : MarkersApart line := by
  obtain ⟨body, rfl⟩ | ⟨body, rfl⟩ | ⟨indent, body, hindent, rfl⟩ | ⟨body, rfl⟩ | hunmarked :=
    line_cases line
  · exact markersApart_of_readBody fence (readLine_fence body) (by decide) (by decide)
  · exact markersApart_of_readBody ['•', ' '] (readLine_bullet body) (by decide) (by decide)
  · have hread := readLine_subBullet hindent body
    have hline : indent ++ '◦' :: ' ' :: body = (indent ++ ['◦', ' ']) ++ body := by simp
    rw [hline] at hread
    rw [hline]
    exact markersApart_of_readBody _ hread (not_mem_indent hindent (by decide))
      (not_mem_indent hindent (by decide))
  · exact markersApart_of_readBody _ (readLine_quote body) (by decide) (by decide)
  · exact markersApart_of_readBody [] (readLine_unmarked hunmarked)
      List.not_mem_nil List.not_mem_nil

/-- The links of a line are those of what stands between its markers. -/
theorem onlyLink_body_iff (line : List Char) : OnlyLink (readLine line).body ↔ OnlyLink line := by
  obtain ⟨marker, fenced, hline, hmarker, -, hfenced, -⟩ := markersApart line
  rw [← onlyLink_append hfenced, ← onlyLink_prepend hmarker, ← hline]

theorem sanitizeLine_eq (line : List Char) :
    sanitizeLine line = (readLine line).opening ++
      (link.replace (readLine line).body ++ (readLine line).closing) := by
  obtain ⟨-, -, -, -, hopening, -, hclosing⟩ := markersApart line
  change link.replace (quote.replace (subBullet.replace (bullet.replace
    (closingFence.replace (openingFence.replace line))))) = _
  rw [replace_markers, replace_link_prepend hopening, replace_link_append hclosing]

theorem sanitizeLine_of_onlyLink (h : OnlyLink line) : sanitizeLine line = convertLine line := by
  rw [sanitizeLine_eq, convertLine, replace_link_of_onlyLink ((onlyLink_body_iff line).mpr h)]

theorem diverge_sanitizeLine (h : ¬ OnlyLink line) :
    Diverge (sanitizeLine line) (convertLine line) := by
  rw [← onlyLink_body_iff] at h
  rw [sanitizeLine_eq, convertLine]
  exact ((diverge_of_not_onlyLink h).append _ _).prepend _

end Bodies

section Texts

/-- The lines of the text follow each other in the result; a fence divides its own. -/
theorem splitOn_sanitizeSlackMarkdown {text : List Char} (h : lines text ≠ []) :
    (sanitizeSlackMarkdown text).splitOn '\n' =
      (lines text).flatMap fun line => (sanitizeLine line).splitOn '\n' := by
  rw [sanitizeSlackMarkdown, splitOn_intercalate, List.flatMap_map]
  simpa using h

/-- The links of all lines are converted just in case each line has one at most and no bracket
before it reaches to its bar. -/
theorem sanitizeSlackMarkdown_eq_iff (text : List Char) :
    sanitizeSlackMarkdown text = convertText text ↔ ∀ line ∈ lines text, OnlyLink line :=
  intercalate_eq_iff (fun _ h => sanitizeLine_of_onlyLink h) fun _ h => diverge_sanitizeLine h

example : sanitizeSlackMarkdown "```$ echo Hello```".toList =
    "```\n$ echo Hello\n```".toList := by decide

/-- A second link is left as it is, and a mention before a link is taken for its url. -/
theorem second_link_left :
    sanitizeSlackMarkdown "<http://a|one> <http://b|two>".toList ≠
        convertText "<http://a|one> <http://b|two>".toList ∧
      sanitizeSlackMarkdown "<@U1> <http://a|one>".toList ≠
        convertText "<@U1> <http://a|one>".toList := by
  decide

end Texts

end UniversalInbox.SlackMarkdown
