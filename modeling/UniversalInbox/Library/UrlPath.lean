import UniversalInbox.Library.Texts

/-! Paths of URLs: their segments, their text, and what setting a path makes of a text. -/
namespace UrlPath
open Texts

/-- Visible ASCII that stands in a segment as it is. -/
def isPathChar (c : Char) : Bool :=
  0x21 ≤ c.toNat && c.toNat ≤ 0x7E &&
    !(['"', '#', '<', '>', '?', '`', '\x7b', '\x7d', '/', '\\'].contains c)

def isSingleDot (text : List Char) : Bool :=
  [['.'], ['%', '2', 'e'], ['%', '2', 'E']].contains text

def isDoubleDot (text : List Char) : Bool :=
  [['.', '.'], ['%', '2', 'e', '%', '2', 'e'], ['%', '2', 'e', '%', '2', 'E'],
    ['%', '2', 'E', '%', '2', 'e'], ['%', '2', 'E', '%', '2', 'E'], ['%', '2', 'e', '.'],
    ['%', '2', 'E', '.'], ['.', '%', '2', 'e'], ['.', '%', '2', 'E']].contains text

/-- A part of a path as it is kept. -/
structure Segment where
  text : List Char
  plain : ∀ c ∈ text, isPathChar c = true
  notSingleDot : isSingleDot text = false
  notDoubleDot : isDoubleDot text = false
deriving DecidableEq

theorem Segment.text_injective : Function.Injective Segment.text := by
  intro segment other h
  cases segment
  cases other
  cases h
  rfl

def Segment.empty : Segment := ⟨[], nofun, rfl, rfl⟩

/-- Texts, each behind a slash. -/
def joined (texts : List (List Char)) : List Char := texts.flatMap fun text => '/' :: text

def pathText (path : List Segment) : List Char := joined (path.map Segment.text)

def hexDigit (n : Nat) : Char := if n < 10 then Char.ofNat (48 + n) else Char.ofNat (55 + n)

def percentEncodeByte (byte : UInt8) : List Char :=
  ['%', hexDigit (byte.toNat / 16), hexDigit (byte.toNat % 16)]

def percentEncode (c : Char) : List Char :=
  if isPathChar c then [c] else (String.utf8EncodeChar c).flatMap percentEncodeByte

def encode (text : List Char) : List Char := text.flatMap percentEncode

def isSlash (c : Char) : Bool := c == '/' || c == '\\'

def isTabOrNewline (c : Char) : Bool := c == '\t' || c == '\n' || c == '\r'

/-- The parts of a text between slashes; a slash at the beginning counts for nothing. -/
def pieces (text : List Char) : List (List Char) :=
  match text.filter (!isTabOrNewline ·) with
  | [] => [[]]
  | c :: text => if isSlash c then text.splitOnP isSlash else (c :: text).splitOnP isSlash

section Characters

theorem isPathChar_hexDigit {n : Nat} (h : n < 16) : isPathChar (hexDigit n) = true := by
  revert n
  decide

theorem percentEncode_plain (c : Char) : ∀ d ∈ percentEncode c, isPathChar d = true := by
  intro d hd
  unfold percentEncode at hd
  split at hd
  · next hplain =>
    rw [List.mem_singleton] at hd
    exact hd ▸ hplain
  · obtain ⟨byte, -, hd⟩ := List.mem_flatMap.mp hd
    have hbyte := byte.toNat_lt
    simp only [percentEncodeByte, List.mem_cons, List.not_mem_nil, or_false] at hd
    rcases hd with rfl | rfl | rfl
    · decide
    · exact isPathChar_hexDigit (by omega)
    · exact isPathChar_hexDigit (by omega)

theorem encode_plain (text : List Char) : ∀ c ∈ encode text, isPathChar c = true := by
  intro c hc
  obtain ⟨d, -, hc⟩ := List.mem_flatMap.mp hc
  exact percentEncode_plain d c hc

/-- What a path has in it already is not encoded again. -/
theorem encode_of_plain {text : List Char} (h : ∀ c ∈ text, isPathChar c = true) :
    encode text = text := by
  induction text with
  | nil => rfl
  | cons c text ih =>
    have hrest := ih fun d hd => h d (List.mem_cons_of_mem _ hd)
    rw [encode, List.flatMap_cons, percentEncode, if_pos (h c List.mem_cons_self)]
    exact congrArg (c :: ·) hrest

theorem isSlash_of_isPathChar {c : Char} (h : isPathChar c = true) : isSlash c = false := by
  unfold isSlash
  rw [Bool.or_eq_false_iff, beq_eq_false_iff_ne, beq_eq_false_iff_ne]
  constructor
  · rintro rfl
    exact absurd h (by decide)
  · rintro rfl
    exact absurd h (by decide)

theorem isTabOrNewline_of_isPathChar {c : Char} (h : isPathChar c = true) :
    isTabOrNewline c = false := by
  unfold isTabOrNewline
  simp only [Bool.or_eq_false_iff, beq_eq_false_iff_ne]
  refine ⟨⟨?_, ?_⟩, ?_⟩
  all_goals
    rintro rfl
    exact absurd h (by decide)

theorem slash_not_mem {text : List Char} (h : ∀ c ∈ text, isPathChar c = true) : '/' ∉ text :=
  fun hmem => absurd (h _ hmem) (by decide)

end Characters

/-- A segment of dots is not kept, and two of them take the one before with them. -/
def addSegment (atEnd : Bool) (path : List Segment) (piece : List Char) : List Segment :=
  if hdouble : isDoubleDot (encode piece) then
    if atEnd then path.dropLast ++ [.empty] else path.dropLast
  else if hsingle : isSingleDot (encode piece) then
    if atEnd then path ++ [.empty] else path
  else
    path ++
      [{ text := encode piece
         plain := encode_plain piece
         notSingleDot := Bool.eq_false_iff.mpr hsingle
         notDoubleDot := Bool.eq_false_iff.mpr hdouble }]

def addSegments (path : List Segment) : List (List Char) → List Segment
  | [] => path
  | [piece] => addSegment true path piece
  | piece :: next :: pieces => addSegments (addSegment false path piece) (next :: pieces)

/-- `set_path`, of a URL with a special scheme. -/
def parsePath (text : List Char) : List Segment := addSegments [] (pieces text)

section Parsing
variable {path segments : List Segment} {texts : List (List Char)} {text : List Char}

theorem joined_cons (text : List Char) (texts : List (List Char)) :
    joined (text :: texts) = '/' :: text ++ joined texts := List.flatMap_cons

theorem addSegment_text (atEnd : Bool) (path : List Segment) (segment : Segment) :
    addSegment atEnd path segment.text = path ++ [segment] := by
  have htext := encode_of_plain segment.plain
  unfold addSegment
  simp only [htext, segment.notDoubleDot, segment.notSingleDot, Bool.false_eq_true, dite_false]

theorem addSegments_texts (path segments : List Segment) :
    addSegments path (segments.map Segment.text) = path ++ segments := by
  induction segments generalizing path with
  | nil => exact (List.append_nil path).symm
  | cons segment segments ih =>
    cases segments with
    | nil => exact addSegment_text true path segment
    | cons next segments =>
      rw [List.map_cons, List.map_cons, addSegments, addSegment_text, ← List.map_cons, ih,
        List.append_assoc, List.singleton_append]

/-- At the beginning of a path a part of dots leaves nothing. -/
theorem addSegment_nil {piece : List Char} (h : ∀ c ∈ piece, isPathChar c = true) :
    addSegment false [] piece = [] ∨
      ∃ segment : Segment, segment.text = piece ∧ addSegment false [] piece = [segment] := by
  unfold addSegment
  split
  · exact .inl rfl
  · split
    · exact .inl rfl
    · exact .inr ⟨_, encode_of_plain h, rfl⟩

theorem length_addSegment_le (atEnd : Bool) (path : List Segment) (piece : List Char) :
    (addSegment atEnd path piece).length ≤ path.length + 1 := by
  unfold addSegment
  split
  · cases atEnd with
    | true => simp
    | false =>
      have hdrop := path.length_dropLast
      simp only [Bool.false_eq_true, if_false]
      omega
  · split
    · cases atEnd <;> simp
    · simp

theorem length_addSegments_le (path : List Segment) (pieces : List (List Char)) :
    (addSegments path pieces).length ≤ path.length + pieces.length := by
  induction pieces generalizing path with
  | nil => exact le_refl _
  | cons piece pieces ih =>
    cases pieces with
    | nil => exact length_addSegment_le true path piece
    | cons next pieces =>
      have hrest := ih (addSegment false path piece)
      have hfirst := length_addSegment_le false path piece
      rw [addSegments]
      simp only [List.length_cons] at hrest ⊢
      omega

theorem length_parsePath_le {text : List Char} : (parsePath text).length ≤ (pieces text).length := by
  have hlength := length_addSegments_le [] (pieces text)
  rw [List.length_nil, Nat.zero_add] at hlength
  exact hlength

theorem splitOnP_append_joined {p : Char → Bool} (hslash : p '/' = true)
    (htext : ∀ c ∈ text, p c = false) (htexts : ∀ text ∈ texts, ∀ c ∈ text, p c = false) :
    (text ++ joined texts).splitOnP p = text :: texts := by
  induction texts generalizing text with
  | nil =>
    rw [joined, List.flatMap_nil, List.append_nil]
    exact List.splitOnP_eq_singleton htext
  | cons next texts ih =>
    rw [joined_cons, List.cons_append, List.splitOnP_append_cons_of_forall_mem htext '/' hslash,
      ih (htexts next List.mem_cons_self) fun t ht => htexts t (List.mem_cons_of_mem _ ht)]

theorem filter_joined (htexts : ∀ text ∈ texts, ∀ c ∈ text, isPathChar c = true) :
    (joined texts).filter (!isTabOrNewline ·) = joined texts := by
  rw [List.filter_eq_self]
  intro c hc
  obtain ⟨text, htext, hc⟩ := List.mem_flatMap.mp hc
  rcases List.mem_cons.mp hc with rfl | hc
  · decide
  · rw [isTabOrNewline_of_isPathChar (htexts text htext c hc)]
    rfl

theorem filter_plain (htext : ∀ c ∈ text, isPathChar c = true) :
    text.filter (!isTabOrNewline ·) = text := by
  rw [List.filter_eq_self]
  intro c hc
  rw [isTabOrNewline_of_isPathChar (htext c hc)]
  rfl

theorem pieces_joined (hne : texts ≠ [])
    (htexts : ∀ text ∈ texts, ∀ c ∈ text, isPathChar c = true) : pieces (joined texts) = texts := by
  obtain ⟨text, rest, rfl⟩ := List.exists_cons_of_ne_nil hne
  unfold pieces
  rw [filter_joined htexts, joined_cons, List.cons_append]
  dsimp only
  rw [if_pos (by decide)]
  exact splitOnP_append_joined (by decide)
    (fun c hc => isSlash_of_isPathChar (htexts text List.mem_cons_self c hc))
    fun t ht c hc => isSlash_of_isPathChar (htexts t (List.mem_cons_of_mem _ ht) c hc)

theorem pieces_append_joined (hne : text ≠ []) (htext : ∀ c ∈ text, isPathChar c = true)
    (htexts : ∀ text ∈ texts, ∀ c ∈ text, isPathChar c = true) :
    pieces (text ++ joined texts) = text :: texts := by
  obtain ⟨c, rest, rfl⟩ := List.exists_cons_of_ne_nil hne
  unfold pieces
  rw [List.filter_append, filter_joined htexts, filter_plain htext, List.cons_append]
  dsimp only
  rw [isSlash_of_isPathChar (htext c List.mem_cons_self), if_neg Bool.false_ne_true,
    ← List.cons_append]
  exact splitOnP_append_joined (by decide) (fun c hc => isSlash_of_isPathChar (htext c hc))
    fun t ht c hc => isSlash_of_isPathChar (htexts t ht c hc)

/-- A path that is set to its own text stays as it is. -/
theorem parsePath_pathText (hne : path ≠ []) : parsePath (pathText path) = path := by
  unfold parsePath pathText
  rw [pieces_joined, addSegments_texts, List.nil_append]
  · simpa using hne
  · intro text htext
    obtain ⟨segment, -, rfl⟩ := List.mem_map.mp htext
    exact segment.plain

theorem splitOn_pathText (path : List Segment) :
    (pathText path).splitOn '/' = [] :: path.map Segment.text := by
  have hfree : ∀ text ∈ path.map Segment.text, ∀ c ∈ text, (c == '/') = false := by
    intro text htext c hc
    obtain ⟨segment, -, rfl⟩ := List.mem_map.mp htext
    rw [beq_eq_false_iff_ne]
    rintro rfl
    exact slash_not_mem segment.plain hc
  have hempty : ∀ c ∈ ([] : List Char), (c == '/') = false := nofun
  rw [List.splitOn_eq_splitOnP]
  exact splitOnP_append_joined (by decide) hempty hfree

end Parsing

/-- What replacing a name between slashes does to the parts: the one after it has lost its slash. -/
def replaceSegments (name new : List Char) : List (List Char) → List (List Char)
  | [] => []
  | [text] => [text]
  | text :: next :: texts =>
    if text = name then new :: next :: replaceSegments name new texts
    else text :: replaceSegments name new (next :: texts)

section Rewriting
variable {name new text : List Char} {texts : List (List Char)}

theorem cons_prefix_joined_iff (hname : '/' ∉ name) :
    '/' :: name <+: joined (text :: texts) ↔ name <+: text := by
  rw [joined_cons, List.cons_append, List.cons_prefix_cons, and_iff_right rfl]
  cases texts with
  | nil => rw [joined, List.flatMap_nil, List.append_nil]
  | cons next texts =>
    rw [joined_cons, List.cons_append]
    exact prefix_append_iff_of_not_mem hname _

theorem replace_append_joined (htext : '/' ∉ text) (pattern : List Char) :
    replace ('/' :: pattern) new (text ++ joined texts) =
      text ++ replace ('/' :: pattern) new (joined texts) :=
  replace_append_of_not_mem htext _

theorem replace_joined (hname : '/' ∉ name) (htexts : ∀ text ∈ texts, '/' ∉ text) :
    replace ('/' :: (name ++ ['/'])) ('/' :: (new ++ ['/'])) (joined texts) =
      joined (replaceSegments name new texts) := by
  fun_induction replaceSegments name new texts with
  | case1 => rfl
  | case2 text =>
    have htext := htexts text List.mem_cons_self
    have hprefix : ¬ '/' :: (name ++ ['/']) <+: '/' :: text := fun h =>
      htext ((List.cons_prefix_cons.mp h).2.mem (List.mem_append_right _ List.mem_cons_self))
    have hrest : replace ('/' :: (name ++ ['/'])) ('/' :: (new ++ ['/'])) (text ++ joined []) =
        text ++ replace ('/' :: (name ++ ['/'])) ('/' :: (new ++ ['/'])) (joined []) :=
      replace_append_joined htext _
    rw [joined, List.flatMap_nil, List.append_nil, replace_nil, List.append_nil] at hrest
    rw [joined_cons, joined, List.flatMap_nil, List.append_nil, replace_cons_of_not_prefix hprefix,
      hrest]
  | case3 next texts ih =>
    have hnext := htexts next (List.mem_cons_of_mem _ List.mem_cons_self)
    have hsplit : joined (name :: next :: texts) =
        '/' :: (name ++ ['/']) ++ (next ++ joined texts) := by
      simp only [joined_cons, List.cons_append, List.append_assoc, List.nil_append]
    rw [hsplit, replace_match (List.cons_ne_nil _ _), replace_append_joined hnext,
      ih fun text htext => htexts text (List.mem_cons_of_mem _ (List.mem_cons_of_mem _ htext))]
    simp only [joined_cons, List.cons_append, List.append_assoc, List.nil_append]
  | case4 text next texts hother ih =>
    have htext := htexts text List.mem_cons_self
    have hprefix : ¬ '/' :: (name ++ ['/']) <+: '/' :: (text ++ joined (next :: texts)) := by
      rw [joined_cons, List.cons_append, List.cons_prefix_cons,
        append_separator_prefix_iff hname htext]
      exact fun h => hother h.2.symm
    rw [joined_cons text (next :: texts), List.cons_append, replace_cons_of_not_prefix hprefix,
      replace_append_joined htext, ih fun t ht => htexts t (List.mem_cons_of_mem _ ht), joined_cons,
      List.cons_append]

theorem length_replaceSegments (name new : List Char) (texts : List (List Char)) :
    (replaceSegments name new texts).length = texts.length := by
  fun_induction replaceSegments name new texts with
  | case1 => rfl
  | case2 => rfl
  | case3 next texts ih => rw [List.length_cons, List.length_cons, ih]; rfl
  | case4 text next texts _ ih => rw [List.length_cons, ih]; rfl

theorem mem_replaceSegments {part : List Char} (h : part ∈ replaceSegments name new texts) :
    part = new ∨ part ∈ texts := by
  fun_induction replaceSegments name new texts with
  | case1 => cases h
  | case2 => exact .inr h
  | case3 next texts ih =>
    rcases List.mem_cons.mp h with rfl | h
    · exact .inl rfl
    · rcases List.mem_cons.mp h with rfl | h
      · exact .inr (List.mem_cons_of_mem _ List.mem_cons_self)
      · exact (ih h).imp_right fun h => List.mem_cons_of_mem _ (List.mem_cons_of_mem _ h)
  | case4 text next texts _ ih =>
    rcases List.mem_cons.mp h with rfl | h
    · exact .inr List.mem_cons_self
    · exact (ih h).imp_right (List.mem_cons_of_mem _)

/-- Cutting the name off the beginning takes whole parts away, and at last the beginning of one. -/
theorem trimStartMatches_joined (hname : '/' ∉ name)
    (htexts : ∀ text ∈ texts, ∀ c ∈ text, isPathChar c = true) :
    (∃ rest, trimStartMatches ('/' :: name) (joined texts) = joined rest ∧
        rest.length ≤ texts.length ∧ ∀ text ∈ rest, ∀ c ∈ text, isPathChar c = true) ∨
      ∃ text rest, trimStartMatches ('/' :: name) (joined texts) = text ++ joined rest ∧
        text ≠ [] ∧ rest.length < texts.length ∧
          ∀ part ∈ text :: rest, ∀ c ∈ part, isPathChar c = true := by
  induction texts with
  | nil => exact .inl ⟨[], rfl, le_refl _, nofun⟩
  | cons text texts ih =>
    have htext := htexts text List.mem_cons_self
    have hrest : ∀ t ∈ texts, ∀ c ∈ t, isPathChar c = true := fun t ht =>
      htexts t (List.mem_cons_of_mem _ ht)
    by_cases hprefix : name <+: text
    · obtain ⟨suffix, rfl⟩ := hprefix
      have hjoined : joined ((name ++ suffix) :: texts) =
          '/' :: name ++ (suffix ++ joined texts) := by
        rw [joined_cons, List.cons_append, List.cons_append, List.append_assoc]
      rw [hjoined, trimStartMatches_append (List.cons_ne_nil _ _)]
      cases suffix with
      | nil =>
        rw [List.nil_append]
        rcases ih hrest with ⟨rest, heq, hlength, hplain⟩ | ⟨part, rest, heq, hne, hlength, hplain⟩
        · exact .inl ⟨rest, heq, hlength.trans (Nat.le_succ _), hplain⟩
        · exact .inr ⟨part, rest, heq, hne, hlength.trans (Nat.lt_succ_self _), hplain⟩
      | cons c suffix =>
        have hsuffix : ∀ d ∈ c :: suffix, isPathChar d = true := fun d hd =>
          htext d (List.mem_append_right _ hd)
        refine .inr ⟨c :: suffix, texts, trimStartMatches_of_other_start fun h => ?_,
          List.cons_ne_nil _ _, Nat.lt_succ_self _, ?_⟩
        · rw [List.cons_append, List.cons_prefix_cons] at h
          exact slash_not_mem hsuffix (h.1 ▸ List.mem_cons_self)
        · intro t ht
          rcases List.mem_cons.mp ht with rfl | ht
          · exact hsuffix
          · exact hrest t ht
    · refine .inl ⟨text :: texts, trimStartMatches_of_other_start fun h => hprefix ?_, le_refl _,
        htexts⟩
      exact (cons_prefix_joined_iff hname).mp h

end Rewriting

end UrlPath
