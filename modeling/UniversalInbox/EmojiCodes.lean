import UniversalInbox.Core
import UniversalInbox.Library.Rewriting

/-! The codes `:code:` in a text and the emojis they are replaced by. -/
namespace UniversalInbox.EmojiCodes
open Rewriting

/-- No emoji is written with a colon. -/
structure Emoji where
  text : List Char
  nonempty : text ≠ []
  noColon : ':' ∉ text

/-- The emojis that are known, and the lower case in which their codes are looked up. -/
structure Shortcodes where
  toLowercase : List Char → List Char
  getByShortcode : List Char → Option Emoji

def Shortcodes.lookup (table : Shortcodes) (code : List Char) : Option Emoji :=
  table.getByShortcode (table.toLowercase code)

section Source
variable (table : Shortcodes)

/-- What is put for a code that was collected. -/
def pushCode (emojiCode : List Char) : List Char :=
  match table.lookup emojiCode with
  | some emoji => emoji.text
  | none => ':' :: (emojiCode ++ [':'])

/-- The code that is being collected, if any; it ends at a colon or with the text. -/
def scan : Option (List Char) → List Char → List Char
  | none, [] => []
  | none, c :: chars => if c = ':' then scan (some []) chars else c :: scan none chars
  | some emojiCode, [] => pushCode table emojiCode
  | some emojiCode, c :: chars =>
    if c = ':' then pushCode table emojiCode ++ scan none chars
    else scan (some (emojiCode ++ [c])) chars

def replaceEmojiCodeInStringWithEmoji (string : List Char) : List Char := scan table none string

/-- It panics where it would end before it begins. -/
def slice (first last : Nat) (string : List Char) : Option (List Char) :=
  if first ≤ last ∧ last ≤ string.length then some ((string.take last).drop first) else none

/-- Without a result where the slice panics. The colons that are cut off have one byte each. -/
def replaceEmojiCodeWithEmoji (string : List Char) : Option (Option (List Char)) :=
  let replaceFrom :=
    if string.head? = some ':' ∧ string.getLast? = some ':' then
      slice 1 (string.length - 1) string
    else some string
  replaceFrom.map fun code => (table.lookup code).map Emoji.text

end Source

section Specification
variable (table : Shortcodes)

/-- A known code that begins here, between two colons. -/
def codeAt : List Char → Option (Found Char)
  | ':' :: text =>
    match upTo 0 (· != ':') ':' text with
    | some (code, _) =>
      (table.lookup code).map fun emoji => { further := code.length + 1, new := emoji.text }
    | none => none
  | _ => none

/-- From the left, without overlaps. -/
def replaceCodes (string : List Char) : List Char := rewrite (codeAt table) string

/-- Known codes are replaced and all other characters are kept. -/
structure ReplacesExactly (string : List Char) : Prop where
  returns : (replaceEmojiCodeWithEmoji table string).isSome = true
  exact : replaceEmojiCodeInStringWithEmoji table string = replaceCodes table string
  unchanged : findsIn (codeAt table) string = false →
    replaceEmojiCodeInStringWithEmoji table string = string
  -- what stands before the code, with the colon that opens it, has no known code of its own
  replaced : ∀ before code emoji after, string = before ++ ':' :: (code ++ ':' :: after) →
    ':' ∉ code → table.lookup code = some emoji →
    findsIn (codeAt table) (before ++ [':']) = false →
    replaceEmojiCodeInStringWithEmoji table string =
      before ++ (emoji.text ++ replaceCodes table after)

/-- What stands after each colon: the colons come in pairs, and after a pair around an unknown code
no known one begins with the colon that closes it. -/
def Aligned : List (List Char) → Prop
  | [] => True
  | [_] => False
  | code :: text :: rest =>
    (table.lookup code = none → rest = [] ∨ table.lookup text = none) ∧ Aligned rest

end Specification

section Scanning
variable {table : Shortcodes} {code part text : List Char}

theorem scan_part (h : ':' ∉ part) (text : List Char) :
    scan table none (part ++ text) = part ++ scan table none text := by
  induction part with
  | nil => rfl
  | cons c part ih =>
    rw [List.mem_cons, not_or] at h
    rw [List.cons_append, scan, if_neg fun hc => h.1 hc.symm, ih h.2, List.cons_append]

theorem scan_code (h : ':' ∉ part) (code text : List Char) :
    scan table (some code) (part ++ text) = scan table (some (code ++ part)) text := by
  induction part generalizing code with
  | nil => rw [List.nil_append, List.append_nil]
  | cons c part ih =>
    rw [List.mem_cons, not_or] at h
    rw [List.cons_append, scan, if_neg fun hc => h.1 hc.symm, ih h.2, List.append_assoc,
      List.singleton_append]

theorem scan_closed (h : ':' ∉ code) (text : List Char) :
    scan table none (':' :: (code ++ ':' :: text)) =
      pushCode table code ++ scan table none text := by
  rw [scan, if_pos rfl, scan_code h, scan, if_pos rfl, List.nil_append]

/-- The end of the text is taken for a colon. -/
theorem scan_open (h : ':' ∉ code) : scan table none (':' :: code) = pushCode table code := by
  have hscan : scan table (some []) (code ++ []) = scan table (some ([] ++ code)) [] :=
    scan_code h [] []
  rw [List.append_nil] at hscan
  rw [scan, if_pos rfl, hscan, scan, List.nil_append]

theorem replaceEmojiCodeWithEmoji_isSome_iff (string : List Char) :
    (replaceEmojiCodeWithEmoji table string).isSome = true ↔ string ≠ [':'] := by
  unfold replaceEmojiCodeWithEmoji slice
  rw [Option.isSome_map]
  split
  · next h =>
    rw [Option.isSome_ite]
    constructor
    · rintro ⟨hfirst, -⟩ rfl
      exact absurd hfirst (by decide)
    · intro hne
      obtain ⟨c, rest, rfl⟩ : ∃ c rest, string = c :: rest := by
        cases string with
        | nil => cases h.1
        | cons c rest => exact ⟨c, rest, rfl⟩
      cases rest with
      | nil =>
        rw [List.head?_cons, Option.some_inj] at h
        exact absurd (congrArg (fun c => [c]) h.1) hne
      | cons d rest => simp
  · next h =>
    refine iff_of_true rfl ?_
    rintro rfl
    exact h ⟨rfl, rfl⟩

/-- The colons around a code are optional. -/
theorem replaceEmojiCodeWithEmoji_colons (code : List Char) :
    replaceEmojiCodeWithEmoji table (':' :: (code ++ [':'])) =
      some ((table.lookup code).map Emoji.text) := by
  have hlast : (':' :: (code ++ [':'])).getLast? = some ':' := by
    rw [← List.cons_append, List.getLast?_concat]
  have hslice : slice 1 ((':' :: (code ++ [':'])).length - 1) (':' :: (code ++ [':'])) =
      some code := by
    unfold slice
    simp
  unfold replaceEmojiCodeWithEmoji
  rw [List.head?_cons, if_pos ⟨rfl, hlast⟩, hslice, Option.map_some]

end Scanning

section Codes
variable {table : Shortcodes} {code part text : List Char} {emoji : Emoji}

theorem codeAt_of_ne {c : Char} (h : c ≠ ':') (text : List Char) :
    codeAt table (c :: text) = none := by
  unfold codeAt
  split
  · next heq =>
    rw [List.cons.injEq] at heq
    exact absurd heq.1 h
  · rfl

theorem upTo_colon (h : ':' ∉ code) (text : List Char) :
    upTo 0 (· != ':') ':' (code ++ ':' :: text) = some (code, text) := by
  refine upTo_of_eq (by decide) ?_ (Nat.zero_le _) text
  rintro c hc
  rw [bne_iff_ne]
  rintro rfl
  exact h hc

theorem codeAt_closed (h : ':' ∉ code) (text : List Char) :
    codeAt table (':' :: (code ++ ':' :: text)) =
      (table.lookup code).map fun emoji => { further := code.length + 1, new := emoji.text } := by
  rw [codeAt, upTo_colon h]

theorem codeAt_open (h : ':' ∉ code) : codeAt table (':' :: code) = none := by
  rw [codeAt]
  cases hupTo : upTo 0 (· != ':') ':' code with
  | none => rfl
  | some found =>
    obtain ⟨heq, -⟩ := eq_of_upTo hupTo
    exact absurd (heq ▸ List.mem_append_right _ List.mem_cons_self) h

/-- A code begins at a colon only. -/
theorem replaceCodes_part (h : ':' ∉ part) (text : List Char) :
    replaceCodes table (part ++ text) = part ++ replaceCodes table text := by
  refine rewrite_append ?_
  intro rest hrest hsuffix
  obtain ⟨c, rest, rfl⟩ := List.exists_cons_of_ne_nil hrest
  have hc : c ≠ ':' := by
    rintro rfl
    exact h (hsuffix.subset List.mem_cons_self)
  exact codeAt_of_ne hc _

theorem replaceCodes_known (h : ':' ∉ code) (hlookup : table.lookup code = some emoji)
    (text : List Char) :
    replaceCodes table (':' :: (code ++ ':' :: text)) = emoji.text ++ replaceCodes table text := by
  have hcode : codeAt table (':' :: (code ++ ':' :: text)) = _ := codeAt_closed h text
  rw [hlookup] at hcode
  unfold replaceCodes
  rw [rewrite_of_found hcode]
  congr 2
  rw [List.append_cons]
  exact List.drop_left' (by rw [List.length_append, List.length_singleton])

theorem replaceCodes_unknown (h : ':' ∉ code) (hlookup : table.lookup code = none)
    (text : List Char) :
    replaceCodes table (':' :: (code ++ ':' :: text)) =
      ':' :: (code ++ replaceCodes table (':' :: text)) := by
  have hcode : codeAt table (':' :: (code ++ ':' :: text)) = _ := codeAt_closed h text
  rw [hlookup] at hcode
  rw [replaceCodes, rewrite_of_none hcode, ← replaceCodes, replaceCodes_part h]

theorem replaceCodes_open (h : ':' ∉ code) : replaceCodes table (':' :: code) = ':' :: code := by
  have hpart : replaceCodes table (code ++ []) = code ++ replaceCodes table [] :=
    replaceCodes_part h []
  rw [List.append_nil] at hpart
  rw [replaceCodes, rewrite_of_none (codeAt_open h), ← replaceCodes, hpart, replaceCodes,
    rewrite_nil, List.append_nil]

/-- The next colon decides which code begins here, and what comes after it does not matter. -/
theorem codeAt_append_colon (hpart : part ≠ []) (text : List Char) :
    codeAt table (part ++ ':' :: text) = codeAt table (part ++ [':']) := by
  obtain ⟨c, part, rfl⟩ := List.exists_cons_of_ne_nil hpart
  rw [List.cons_append, List.cons_append]
  by_cases hc : c = ':'
  · subst hc
    obtain ⟨code, parts, -, rfl, hcode, -⟩ := exists_splitOn ':' part
    cases parts with
    | nil =>
      rw [List.flatMap_nil, List.append_nil, codeAt_closed hcode, codeAt_closed hcode]
    | cons next parts =>
      rw [List.flatMap_cons, List.cons_append, List.append_assoc, List.append_assoc,
        List.cons_append, List.cons_append, codeAt_closed hcode, codeAt_closed hcode]
  · rw [codeAt_of_ne hc, codeAt_of_ne hc]

/-- Whatever colons come before a known code, it is replaced if they belong to no other. -/
theorem replaceCodes_before {before : List Char} (h : ':' ∉ code)
    (hlookup : table.lookup code = some emoji)
    (hbefore : findsIn (codeAt table) (before ++ [':']) = false) (after : List Char) :
    replaceCodes table (before ++ ':' :: (code ++ ':' :: after)) =
      before ++ (emoji.text ++ replaceCodes table after) := by
  rw [findsIn_eq_false_iff] at hbefore
  rw [← replaceCodes_known h hlookup]
  refine rewrite_append ?_
  intro rest hrest hsuffix
  rw [codeAt_append_colon hrest]
  refine hbefore _ (List.append_ne_nil_of_left_ne_nil hrest [':']) ?_
  obtain ⟨first, rfl⟩ := hsuffix
  exact ⟨first, (List.append_assoc first rest [':']).symm⟩

end Codes

section Exactness
variable {table : Shortcodes} {code text : List Char} {emoji : Emoji}

theorem Emoji.ne_colon (emoji : Emoji) (a b : List Char) : ':' :: a ≠ emoji.text ++ b := by
  obtain ⟨c, rest, htext⟩ := List.exists_cons_of_ne_nil emoji.nonempty
  rw [htext, List.cons_append]
  intro heq
  rw [List.cons.injEq] at heq
  exact emoji.noColon (htext ▸ heq.1 ▸ List.mem_cons_self)

theorem pushCode_of_known (h : table.lookup code = some emoji) :
    pushCode table code = emoji.text := by
  rw [pushCode, h]

theorem pushCode_of_unknown (h : table.lookup code = none) :
    pushCode table code = ':' :: (code ++ [':']) := by
  rw [pushCode, h]

/-- A colon that no other closes is doubled, or its code replaced. -/
theorem pushCode_ne_open (code : List Char) : pushCode table code ≠ ':' :: code := by
  cases hlookup : table.lookup code with
  | none =>
    rw [pushCode_of_unknown hlookup]
    intro heq
    have hlength := congrArg List.length heq
    rw [List.length_cons, List.length_cons, List.length_append, List.length_singleton] at hlength
    omega
  | some emoji =>
    rw [pushCode_of_known hlookup]
    intro heq
    refine emoji.ne_colon code [] ?_
    rw [List.append_nil]
    exact heq.symm

/-- After an unknown code the source goes on beyond the colon that closes it. -/
theorem closed_text_eq_iff (parts : List (List Char)) (htext : ':' ∉ text) (other : List Char) :
    ':' :: (text ++ other) = replaceCodes table (':' :: (text ++ parts.flatMap (':' :: ·))) ↔
      (parts = [] ∨ table.lookup text = none) ∧
        other = replaceCodes table (parts.flatMap (':' :: ·)) := by
  cases parts with
  | nil =>
    rw [List.flatMap_nil, List.append_nil, replaceCodes_open htext, List.cons_inj_right,
      replaceCodes, rewrite_nil]
    exact ⟨fun h => ⟨.inl rfl, by simpa using h⟩, fun h => by rw [h.2, List.append_nil]⟩
  | cons next parts =>
    rw [List.flatMap_cons, List.cons_append]
    cases hlookup : table.lookup text with
    | none =>
      rw [replaceCodes_unknown htext hlookup, List.cons_inj_right, List.append_right_inj]
      simp
    | some emoji =>
      rw [replaceCodes_known htext hlookup]
      constructor
      · intro heq
        exact absurd heq (emoji.ne_colon _ _)
      · rintro ⟨hcases, -⟩
        simp at hcases

theorem scan_eq_replaceCodes_iff (parts : List (List Char)) (hparts : ∀ part ∈ parts, ':' ∉ part) :
    scan table none (parts.flatMap (':' :: ·)) =
      replaceCodes table (parts.flatMap (':' :: ·)) ↔ Aligned table parts := by
  fun_induction Aligned table parts with
  | case1 => exact iff_of_true rfl trivial
  | case2 code =>
    have hcode := hparts code List.mem_cons_self
    rw [List.flatMap_singleton, scan_open hcode, replaceCodes_open hcode]
    exact iff_of_false (pushCode_ne_open code) id
  | case3 code text rest ih =>
    rw [List.forall_mem_cons, List.forall_mem_cons] at hparts
    obtain ⟨hcode, htext, hrest⟩ := hparts
    rw [List.flatMap_cons, List.flatMap_cons, List.cons_append, List.cons_append,
      scan_closed hcode, scan_part htext, ← ih hrest]
    cases hlookup : table.lookup code with
    | none =>
      rw [pushCode_of_unknown hlookup, replaceCodes_unknown hcode hlookup, List.cons_append,
        List.append_assoc, List.cons_inj_right, List.append_right_inj, List.singleton_append,
        closed_text_eq_iff rest htext]
      simp
    | some emoji =>
      rw [pushCode_of_known hlookup, replaceCodes_known hcode hlookup, replaceCodes_part htext,
        List.append_right_inj, List.append_right_inj]
      simp

/-- The source reads every text as pairs of colons, from the first one on. -/
theorem replacesExactly_iff (table : Shortcodes) (string : List Char) :
    ReplacesExactly table string ↔ Aligned table (string.splitOn ':').tail := by
  obtain ⟨part, parts, hsplit, hstring, hpart, hparts⟩ := exists_splitOn ':' string
  have hiff : replaceEmojiCodeInStringWithEmoji table string = replaceCodes table string ↔
      Aligned table parts := by
    rw [hstring, replaceEmojiCodeInStringWithEmoji, scan_part hpart, replaceCodes_part hpart,
      List.append_right_inj, scan_eq_replaceCodes_iff parts hparts]
  rw [hsplit, List.tail_cons]
  constructor
  · intro h
    exact hiff.mp h.exact
  · intro haligned
    have hexact := hiff.mpr haligned
    refine ⟨?_, hexact, ?_, ?_⟩
    · rw [replaceEmojiCodeWithEmoji_isSome_iff]
      rintro rfl
      have htail := congrArg List.tail hsplit
      rw [List.tail_cons] at htail
      rw [← htail] at haligned
      exact haligned
    · intro hnone
      rw [hexact]
      exact rewrite_eq_self hnone
    · rintro before code emoji after rfl hcode hlookup hbefore
      rw [hexact]
      exact replaceCodes_before hcode hlookup hbefore after

end Exactness

section Rockets

def rocket : Emoji := { text := ['🚀'], nonempty := by decide, noColon := by decide }

def rockets : Shortcodes :=
  { toLowercase := fun code => code.map Char.toLower
    getByShortcode := fun code => if code = "rocket".toList then some rocket else none }

example : replaceEmojiCodeInStringWithEmoji rockets "Hello World :RoCkEt:!".toList =
    "Hello World 🚀!".toList := by decide

/-- A colon of a time takes the one that opens the code, and a lone colon has nothing inside. -/
theorem time_before_rocket :
    ¬ ReplacesExactly rockets "12:30 :rocket:".toList ∧ ¬ ReplacesExactly rockets [':'] := by
  constructor
  · intro h
    exact absurd h.exact (by decide)
  · intro h
    exact absurd h.returns (by decide)

end Rockets

end UniversalInbox.EmojiCodes
