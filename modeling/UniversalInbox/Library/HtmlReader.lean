import Mathlib.Data.List.MinMax
import Mathlib.Order.Nat
import UniversalInbox.Library.Hex
import UniversalInbox.Library.Texts

/-! HTML as it is read: tags, comments, and text with its character references. The elements whose
content is not read so (scripts, styles) are read like the others. -/
namespace HtmlReader

inductive Token where
  | text (chars : List Char)
  | startTag (name : List Char)
  | endTag (name : List Char)
  | comment
deriving DecidableEq, Repr

/-- The named character references, without their ampersand: no name is shorter than what it stands
for. -/
structure References where
  table : List (List Char × List Char)
  plain : ∀ entry ∈ table, ∀ c ∈ entry.1, c ≠ '<'
  shorter : ∀ entry ∈ table, entry.2.length ≤ entry.1.length

def isSpace (c : Char) : Bool :=
  c == '\t' || c == '\n' || c == '\x0c' || c == '\r' || c == ' '

inductive TagState where
  | tagName
  | beforeName
  | name
  | afterName
  | beforeValue
  | doubleQuoted
  | singleQuoted
  | unquoted
  | afterQuoted
  | slash
deriving DecidableEq, Repr

namespace TagState

def nextBeforeName (c : Char) : Option TagState :=
  if isSpace c then some beforeName
  else if c = '/' then some slash
  else if c = '>' then none
  else some name

/-- `none` is the end of the tag. -/
def next : TagState → Char → Option TagState
  | tagName, c =>
    if isSpace c then some beforeName
    else if c = '/' then some slash
    else if c = '>' then none
    else some tagName
  | beforeName, c => nextBeforeName c
  | name, c =>
    if isSpace c then some afterName
    else if c = '/' then some slash
    else if c = '>' then none
    else if c = '=' then some beforeValue
    else some name
  | afterName, c =>
    if isSpace c then some afterName
    else if c = '/' then some slash
    else if c = '>' then none
    else if c = '=' then some beforeValue
    else some name
  | beforeValue, c =>
    if isSpace c then some beforeValue
    else if c = '"' then some doubleQuoted
    else if c = '\'' then some singleQuoted
    else if c = '>' then none
    else some unquoted
  | doubleQuoted, c => if c = '"' then some afterQuoted else some doubleQuoted
  | singleQuoted, c => if c = '\'' then some afterQuoted else some singleQuoted
  | unquoted, c => if isSpace c then some beforeName else if c = '>' then none else some unquoted
  | afterQuoted, c => nextBeforeName c
  | slash, c => nextBeforeName c

end TagState

inductive CommentState where
  | start
  | startDash
  | body
  | endDash
  | endDashes
  | endBang
deriving DecidableEq, Repr

def CommentState.next : CommentState → Char → Option CommentState
  | .start, c => if c = '-' then some .startDash else if c = '>' then none else some .body
  | .startDash, c => if c = '-' then some .endDashes else if c = '>' then none else some .body
  | .body, c => if c = '-' then some .endDash else some .body
  | .endDash, c => if c = '-' then some .endDashes else some .body
  | .endDashes, c =>
    if c = '>' then none
    else if c = '!' then some .endBang
    else if c = '-' then some .endDashes
    else some .body
  | .endBang, c => if c = '-' then some .endDash else if c = '>' then none else some .body

/-- What is read inside markup. -/
inductive Markup where
  | tag (isEnd : Bool) (name : List Char) (state : TagState)
  | bogusComment
  | comment (state : CommentState)
deriving DecidableEq, Repr

namespace Markup

def next : Markup → Char → Token ⊕ Markup
  | tag isEnd name state, c =>
    match state.next c with
    | none => .inl (if isEnd then .endTag name else .startTag name)
    | some .tagName => .inr (tag isEnd (name ++ [c.toLower]) .tagName)
    | some state => .inr (tag isEnd name state)
  | bogusComment, c => if c = '>' then .inl .comment else .inr bogusComment
  | comment state, c =>
    match state.next c with
    | none => .inl .comment
    | some state => .inr (comment state)

/-- Markup that does not end is dropped, and so is all that follows. -/
def read : Markup → List Char → Option Token × List Char
  | _, [] => (none, [])
  | markup, c :: text =>
    match markup.next c with
    | .inl token => (some token, text)
    | .inr markup => read markup text

end Markup

/-- The markup that a `<` before this text begins. -/
def opening : List Char → Option (Markup × List Char)
  | [] => none
  | '/' :: text =>
    match text with
    | [] => none
    | c :: text =>
      if c.isAlpha then some (.tag true [c.toLower] .tagName, text)
      else some (.bogusComment, c :: text)
  | '!' :: text =>
    match text with
    | '-' :: '-' :: text => some (.comment .start, text)
    | text => some (.bogusComment, text)
  | '?' :: text => some (.bogusComment, text)
  | c :: text => if c.isAlpha then some (.tag false [c.toLower] .tagName, text) else none

def replacement : Char := '\ufffd'

/-- Of the numbers from 128 to 159 most stand for other characters. -/
def windows1252 : List Nat :=
  [0x20AC, 0x81, 0x201A, 0x192, 0x201E, 0x2026, 0x2020, 0x2021, 0x2C6, 0x2030, 0x160, 0x2039,
    0x152, 0x8D, 0x17D, 0x8F, 0x90, 0x2018, 0x2019, 0x201C, 0x201D, 0x2022, 0x2013, 0x2014,
    0x2DC, 0x2122, 0x161, 0x203A, 0x153, 0x9D, 0x17E, 0x178]

def numberedChar (n : Nat) : Char :=
  if n = 0 ∨ ¬ n.isValidChar then replacement
  else if 128 ≤ n ∧ n < 160 then Char.ofNat ((windows1252[n - 128]?).getD n)
  else Char.ofNat n

def dropSemicolon : List Char → List Char
  | ';' :: text => text
  | text => text

def numbered (base : Nat) (isDigit : Char → Bool) (text : List Char) :
    Option (List Char × List Char) :=
  let digits := text.takeWhile isDigit
  if digits = [] then none
  else
    some ([numberedChar (digits.foldl (fun n c => base * n + (Hex.digit? c).getD 0) 0)],
      dropSemicolon (text.dropWhile isDigit))

/-- The longest name counts. -/
def named (references : References) (text : List Char) : Option (List Char × List Char) :=
  ((references.table.filter fun entry => entry.1.isPrefixOf text).argmax fun entry =>
    entry.1.length).map fun entry => (entry.2, text.drop entry.1.length)

def numeric : List Char → Option (List Char × List Char)
  | 'x' :: text => numbered 16 (fun c => (Hex.digit? c).isSome) text
  | 'X' :: text => numbered 16 (fun c => (Hex.digit? c).isSome) text
  | text => numbered 10 Char.isDigit text

/-- The characters that an `&` before this text stands for, and what is behind them. -/
def reference (references : References) : List Char → Option (List Char × List Char)
  | '#' :: text => numeric text
  | text => named references text

def tokensTimes (references : References) : Nat → List Char → List Token
  | 0, _ => []
  | _ + 1, [] => []
  | n + 1, c :: text =>
    if c = '<' then
      match opening text with
      | none => .text ['<'] :: tokensTimes references n text
      | some (markup, text) =>
        (markup.read text).1.toList ++ tokensTimes references n (markup.read text).2
    else if c = '&' then
      match reference references text with
      | none => .text ['&'] :: tokensTimes references n text
      | some (chars, text) => .text chars :: tokensTimes references n text
    else .text [c] :: tokensTimes references n text

def tokens (references : References) (html : List Char) : List Token :=
  tokensTimes references html.length html

def Token.isMarkup : Token → Bool
  | .text _ => false
  | _ => true

/-- A line break is visible as one. -/
def Token.visible : Token → List Char
  | .text chars => chars
  | .startTag name => if name = ['b', 'r'] then ['\n'] else []
  | .endTag _ => []
  | .comment => []

def visibleText (tokens : List Token) : List Char := tokens.flatMap Token.visible

section Markup
variable {markup : Markup} {c : Char} {text rest : List Char} {token : Token}

theorem TagState.next_eq_none {state : TagState} (h : state.next c = none) : c = '>' := by
  cases state <;> simp only [TagState.next, TagState.nextBeforeName] at h <;> split_ifs at h <;>
    assumption

theorem CommentState.next_eq_none {state : CommentState} (h : state.next c = none) : c = '>' := by
  cases state <;> simp only [CommentState.next] at h <;> split_ifs at h <;> assumption

/-- All markup ends with the same character. -/
theorem Markup.next_eq_inl (h : markup.next c = .inl token) : c = '>' := by
  cases markup with
  | tag isEnd name state =>
    simp only [Markup.next] at h
    split at h
    · next hnext => exact TagState.next_eq_none hnext
    · cases h
    · cases h
  | bogusComment =>
    simp only [Markup.next] at h
    split at h
    · assumption
    · cases h
  | comment state =>
    simp only [Markup.next] at h
    split at h
    · next hnext => exact CommentState.next_eq_none hnext
    · cases h

theorem Markup.length_read_le (markup : Markup) (text : List Char) :
    (markup.read text).2.length ≤ text.length := by
  induction text generalizing markup with
  | nil => exact le_refl _
  | cons c text ih =>
    rw [Markup.read]
    split
    · exact Nat.le_succ _
    · exact (ih _).trans (Nat.le_succ _)

/-- Up to its last character, a text with one `>` at the end is read without a stop. -/
theorem Markup.read_append (markup : Markup) (h : '>' ∉ text) (rest : List Char) :
    (markup.read (text ++ '>' :: rest)).2 = rest ∨
      ∃ markup' : Markup, markup.read (text ++ '>' :: rest) = markup'.read rest := by
  induction text generalizing markup with
  | nil =>
    rw [List.nil_append, Markup.read]
    split
    · exact .inl rfl
    · exact .inr ⟨_, rfl⟩
  | cons c text ih =>
    rw [List.mem_cons, not_or] at h
    rw [List.cons_append, Markup.read]
    split
    · next hend => exact absurd (Markup.next_eq_inl hend).symm h.1
    · exact ih _ h.2

theorem Markup.length_visible_next_le (h : markup.next c = .inl token) :
    token.visible.length ≤ 1 := by
  cases markup with
  | tag isEnd name state =>
    simp only [Markup.next] at h
    split at h
    · cases h
      cases isEnd with
      | true => exact Nat.zero_le _
      | false =>
        rw [if_neg Bool.false_ne_true, Token.visible]
        split
        · exact le_refl _
        · exact Nat.zero_le _
    · cases h
    · cases h
  | bogusComment =>
    simp only [Markup.next] at h
    split at h <;> cases h
    exact Nat.zero_le _
  | comment state =>
    simp only [Markup.next] at h
    split at h <;> cases h
    exact Nat.zero_le _

theorem Markup.length_visible_read_le (markup : Markup) (text : List Char) :
    (visibleText (markup.read text).1.toList).length ≤ 1 := by
  induction text generalizing markup with
  | nil => exact Nat.zero_le _
  | cons c text ih =>
    rw [Markup.read]
    split
    · next token hend =>
      rw [Option.toList_some, visibleText, List.flatMap_singleton]
      exact Markup.length_visible_next_le hend
    · exact ih _

/-- What opens markup is read off the text, and it has no `<`. -/
theorem opening_eq_some (h : opening text = some (markup, rest)) :
    ∃ first : List Char, text = first ++ rest ∧ first ≠ [] ∧ '<' ∉ first := by
  unfold opening at h
  split at h
  · cases h
  · split at h
    · cases h
    · next c tail =>
      split at h <;> cases h
      · next hletter =>
        refine ⟨['/', c], rfl, List.cons_ne_nil _ _, ?_⟩
        simp only [List.mem_cons, List.not_mem_nil, or_false, not_or]
        refine ⟨by decide, ?_⟩
        rintro rfl
        exact absurd hletter (by decide)
      · exact ⟨['/'], rfl, List.cons_ne_nil _ _, by decide⟩
  · split at h <;> cases h
    · exact ⟨['!', '-', '-'], rfl, List.cons_ne_nil _ _, by decide⟩
    · exact ⟨['!'], rfl, List.cons_ne_nil _ _, by decide⟩
  · cases h
    exact ⟨['?'], rfl, List.cons_ne_nil _ _, by decide⟩
  · next c tail _ _ _ =>
    split at h <;> cases h
    next hletter =>
    refine ⟨[c], rfl, List.cons_ne_nil _ _, ?_⟩
    rw [List.mem_singleton]
    rintro rfl
    exact absurd hletter (by decide)

end Markup

section References
variable {references : References} {text chars rest : List Char}

theorem dropSemicolon_eq (text : List Char) :
    ∃ first, text = first ++ dropSemicolon text ∧ '<' ∉ first := by
  unfold dropSemicolon
  split
  · exact ⟨[';'], rfl, by decide⟩
  · exact ⟨[], rfl, List.not_mem_nil⟩

theorem numbered_eq_some {base : Nat} {isDigit : Char → Bool} (hdigit : isDigit '<' = false)
    (h : numbered base isDigit text = some (chars, rest)) :
    ∃ first, text = first ++ rest ∧ '<' ∉ first ∧ chars.length ≤ first.length := by
  unfold numbered at h
  dsimp only at h
  split at h
  · cases h
  · next hdigits =>
    cases h
    obtain ⟨semicolon, hrest, hsemicolon⟩ := dropSemicolon_eq (text.dropWhile isDigit)
    refine ⟨text.takeWhile isDigit ++ semicolon, ?_, ?_, ?_⟩
    · rw [List.append_assoc, ← hrest, List.takeWhile_append_dropWhile]
    · rw [List.mem_append, not_or]
      refine ⟨fun hmem => ?_, hsemicolon⟩
      rw [List.all_eq_true.mp List.all_takeWhile _ hmem] at hdigit
      cases hdigit
    · have hpos := List.length_pos_iff.mpr hdigits
      rw [List.length_append]
      exact Nat.le_add_right_of_le hpos

theorem named_eq_some (h : named references text = some (chars, rest)) :
    ∃ first, text = first ++ rest ∧ '<' ∉ first ∧ chars.length ≤ first.length := by
  unfold named at h
  obtain ⟨entry, hentry, heq⟩ := Option.map_eq_some_iff.mp h
  cases heq
  obtain ⟨hmem, hprefix⟩ := List.mem_filter.mp (List.argmax_mem hentry)
  obtain ⟨suffix, rfl⟩ := List.isPrefixOf_iff_prefix.mp hprefix
  refine ⟨entry.1, by rw [List.drop_left], fun hlt => ?_, references.shorter entry hmem⟩
  exact references.plain entry hmem _ hlt rfl

theorem numeric_eq_some (h : numeric text = some (chars, rest)) :
    ∃ first, text = first ++ rest ∧ '<' ∉ first ∧ chars.length ≤ first.length := by
  unfold numeric at h
  split at h
  · obtain ⟨first, heq, hlt, hlength⟩ := numbered_eq_some (by decide) h
    exact ⟨'x' :: first, by rw [heq]; rfl, by simp [hlt], hlength.trans (Nat.le_succ _)⟩
  · obtain ⟨first, heq, hlt, hlength⟩ := numbered_eq_some (by decide) h
    exact ⟨'X' :: first, by rw [heq]; rfl, by simp [hlt], hlength.trans (Nat.le_succ _)⟩
  · exact numbered_eq_some (by decide) h

/-- No reference is shorter than what it stands for, and none has a `<`. -/
theorem reference_eq_some (h : reference references text = some (chars, rest)) :
    ∃ first, text = first ++ rest ∧ '<' ∉ first ∧ chars.length ≤ first.length := by
  unfold reference at h
  split at h
  · obtain ⟨first, heq, hlt, hlength⟩ := numeric_eq_some h
    exact ⟨'#' :: first, by rw [heq]; rfl, by simp [hlt], hlength.trans (Nat.le_succ _)⟩
  · exact named_eq_some h

end References

section Tokens
variable {references : References} {text rest chars : List Char} {markup : Markup}

theorem tokensTimes_of_length_le {n m : Nat} (hn : text.length ≤ n) (hm : text.length ≤ m) :
    tokensTimes references n text = tokensTimes references m text := by
  induction n generalizing text m with
  | zero =>
    have htext : text = [] := List.length_eq_zero_iff.mp (Nat.le_zero.mp hn)
    subst htext
    cases m <;> rfl
  | succ n ih =>
    cases text with
    | nil => cases m <;> rfl
    | cons c text =>
      cases m with
      | zero => exact absurd hm (Nat.not_succ_le_zero _)
      | succ m =>
        have hn' : text.length ≤ n := Nat.le_of_succ_le_succ hn
        have hm' : text.length ≤ m := Nat.le_of_succ_le_succ hm
        simp only [tokensTimes]
        split
        · split
          · rw [ih hn' hm']
          · next markup rest hopening =>
            obtain ⟨first, heq, -, -⟩ := opening_eq_some hopening
            have hlength := markup.length_read_le rest
            rw [heq, List.length_append] at hn' hm'
            have hrest : tokensTimes references n (markup.read rest).2 =
                tokensTimes references m (markup.read rest).2 := ih (by omega) (by omega)
            rw [hrest]
        · split
          · split
            · rw [ih hn' hm']
            · next chars rest hreference =>
              obtain ⟨first, heq, -, -⟩ := reference_eq_some hreference
              rw [heq, List.length_append] at hn' hm'
              have hrest : tokensTimes references n rest = tokensTimes references m rest :=
                ih (by omega) (by omega)
              rw [hrest]
          · rw [ih hn' hm']

theorem tokens_cons (c : Char) (text : List Char) : tokens references (c :: text) =
    if c = '<' then
      match opening text with
      | none => .text ['<'] :: tokens references text
      | some (markup, text) => (markup.read text).1.toList ++ tokens references (markup.read text).2
    else if c = '&' then
      match reference references text with
      | none => .text ['&'] :: tokens references text
      | some (chars, text) => .text chars :: tokens references text
    else .text [c] :: tokens references text := by
  rw [tokens, List.length_cons, tokensTimes]
  split
  · split
    · rfl
    · next markup rest hopening =>
      obtain ⟨first, heq, -, -⟩ := opening_eq_some hopening
      have hlength := markup.length_read_le rest
      rw [tokens, tokensTimes_of_length_le (by rw [heq, List.length_append]; omega) (le_refl _)]
  · split
    · split
      · rfl
      · next chars rest hreference =>
        obtain ⟨first, heq, -, -⟩ := reference_eq_some hreference
        rw [tokens, tokensTimes_of_length_le (by rw [heq, List.length_append]; omega) (le_refl _)]
    · rfl

@[simp] theorem tokens_nil : tokens references [] = [] := rfl

theorem tokens_of_opening (h : opening text = some (markup, rest)) :
    tokens references ('<' :: text) =
      (markup.read rest).1.toList ++ tokens references (markup.read rest).2 := by
  rw [tokens_cons, if_pos rfl, h]

theorem tokens_of_reference (h : reference references text = some (chars, rest)) :
    tokens references ('&' :: text) = .text chars :: tokens references rest := by
  rw [tokens_cons, if_neg (by decide), if_pos rfl, h]

/-- A character that begins nothing is text. -/
theorem tokens_of_literal {c : Char} (hopening : c = '<' → opening text = none)
    (hreference : c = '&' → reference references text = none) :
    tokens references (c :: text) = .text [c] :: tokens references text := by
  rw [tokens_cons]
  split
  · next hc => rw [hopening hc, hc]
  · split
    · next hc => rw [hreference hc, hc]
    · rfl

theorem visibleText_append (first rest : List Token) :
    visibleText (first ++ rest) = visibleText first ++ visibleText rest := List.flatMap_append

end Tokens

section Following
variable {references : References} {text rest : List Char}

theorem isSome_opening_cons (c : Char) (text : List Char) : (opening (c :: text)).isSome =
    if c = '/' then !text.isEmpty else c == '!' || c == '?' || c.isAlpha := by
  by_cases hslash : c = '/'
  · subst hslash
    cases text with
    | nil => rfl
    | cons d text =>
      simp only [opening]
      split <;> rfl
  · rw [if_neg hslash]
    by_cases hbang : c = '!'
    · subst hbang
      simp only [opening]
      split <;> rfl
    · by_cases hquestion : c = '?'
      · subst hquestion
        rfl
      · rw [beq_eq_false_iff_ne.mpr hbang, beq_eq_false_iff_ne.mpr hquestion, Bool.false_or,
          Bool.false_or]
        simp only [opening]
        cases c.isAlpha <;> rfl

/-- Before a tag, markup is also opened by a slash that nothing follows in the text itself. -/
theorem isSome_opening_append (text rest : List Char) :
    (opening (text ++ '<' :: rest)).isSome = ((opening text).isSome || text == ['/']) := by
  cases text with
  | nil => rfl
  | cons c text =>
    rw [List.cons_append, isSome_opening_cons, isSome_opening_cons]
    by_cases hslash : c = '/'
    · subst hslash
      cases text <;> simp
    · simp [hslash]

theorem takeWhile_append_eq_nil_iff {isDigit : Char → Bool} (hdigit : isDigit '<' = false)
    (text rest : List Char) :
    (text ++ '<' :: rest).takeWhile isDigit = [] ↔ text.takeWhile isDigit = [] := by
  cases text with
  | nil => simp [hdigit]
  | cons c text =>
    rw [List.cons_append, List.takeWhile_cons, List.takeWhile_cons]
    cases isDigit c <;> simp

theorem numbered_append_eq_none_iff (base : Nat) {isDigit : Char → Bool}
    (hdigit : isDigit '<' = false) (text rest : List Char) :
    numbered base isDigit (text ++ '<' :: rest) = none ↔ numbered base isDigit text = none := by
  have hnone : ∀ text, numbered base isDigit text = none ↔ text.takeWhile isDigit = [] := by
    intro text
    unfold numbered
    dsimp only
    split
    · next h => exact ⟨fun _ => h, fun _ => rfl⟩
    · next h => exact ⟨nofun, fun heq => absurd heq h⟩
  rw [hnone, hnone, takeWhile_append_eq_nil_iff hdigit]

theorem named_append_eq_none_iff (text rest : List Char) :
    named references (text ++ '<' :: rest) = none ↔ named references text = none := by
  unfold named
  rw [Option.map_eq_none_iff, Option.map_eq_none_iff, List.argmax_eq_none, List.argmax_eq_none,
    List.filter_eq_nil_iff, List.filter_eq_nil_iff]
  refine forall₂_congr fun entry hentry => not_congr ?_
  rw [List.isPrefixOf_iff_prefix, List.isPrefixOf_iff_prefix]
  exact Texts.prefix_append_iff_of_not_mem (fun hmem => references.plain entry hentry _ hmem rfl) _

theorem numeric_append_eq_none_iff (text rest : List Char) :
    numeric (text ++ '<' :: rest) = none ↔ numeric text = none := by
  have hdigit : Char.isDigit '<' = false := by decide
  cases text with
  | nil => exact numbered_append_eq_none_iff 10 hdigit [] rest
  | cons c text =>
    by_cases hlower : c = 'x'
    · subst hlower
      exact numbered_append_eq_none_iff 16 (by decide) text rest
    · by_cases hupper : c = 'X'
      · subst hupper
        exact numbered_append_eq_none_iff 16 (by decide) text rest
      · have hdecimal : ∀ text, numeric (c :: text) = numbered 10 Char.isDigit (c :: text) := by
          intro text
          simp [numeric, hlower, hupper]
        rw [List.cons_append, hdecimal, hdecimal]
        exact numbered_append_eq_none_iff 10 hdigit (c :: text) rest

/-- No reference reaches over a tag. -/
theorem reference_append_eq_none_iff (text rest : List Char) :
    reference references (text ++ '<' :: rest) = none ↔ reference references text = none := by
  cases text with
  | nil => exact named_append_eq_none_iff [] rest
  | cons c text =>
    by_cases hhash : c = '#'
    · subst hhash
      exact numeric_append_eq_none_iff text rest
    · have hnamed : ∀ text, reference references (c :: text) = named references (c :: text) := by
        intro text
        simp [reference, hhash]
      rw [List.cons_append, hnamed, hnamed]
      exact named_append_eq_none_iff (c :: text) rest

end Following

end HtmlReader
