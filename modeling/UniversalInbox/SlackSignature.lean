import UniversalInbox.Library.Hex
import UniversalInbox.Library.I64

/-! The signature of a Slack webhook. Whoever knows the address of the webhook chooses both headers
and the body; only Slack can sign them. -/
namespace UniversalInbox.SlackSignature

def slackSignatureToleranceSeconds : Int := 300

/-- HMAC-SHA256 of a message, by its key. -/
abbrev Hmac := List UInt8 → List UInt8 → List UInt8

def utf8 (text : String) : List UInt8 := text.toUTF8.data.toList

def basestring (timestamp : String) (body : List UInt8) : List UInt8 :=
  utf8 "v0:" ++ utf8 timestamp ++ utf8 ":" ++ body

/-- `strip_prefix("v0=")`. -/
def stripVersion : List Char → Option (List Char)
  | 'v' :: '0' :: '=' :: hex => some hex
  | _ => none

section Verification
variable (overflow : Overflow) (hmac : Hmac)

def verifyDigest (timestamp signature : String) (body : List UInt8) (signingSecret : String) :
    Except String Unit :=
  match stripVersion signature.toList with
  | none => .error "missing v0 prefix"
  | some providedHex =>
    match Hex.decode providedHex with
    | none => .error "non-hex signature"
    | some provided =>
      if hmac (utf8 signingSecret) (basestring timestamp body) = provided then .ok ()
      else .error "signature mismatch"

/-- `none` is a panic. -/
def verifySlackSignatureParts (timestampHeader signatureHeader : Option String) (body : List UInt8)
    (signingSecret : String) (nowUnix : I64) : Option (Except String Unit) :=
  match timestampHeader, signatureHeader with
  | none, _ => some (.error "missing timestamp header")
  | some _, none => some (.error "missing signature header")
  | some timestamp, some signature =>
    match I64.parse timestamp.toList with
    | none => some (.error "non-numeric timestamp")
    | some ts =>
      (I64.distance overflow nowUnix ts).map fun distance =>
        if distance.val > slackSignatureToleranceSeconds then .error "stale timestamp"
        else verifyDigest hmac timestamp signature body signingSecret

end Verification

/-- The timestamp is a number, within the tolerance of the time. -/
def Fresh (timestamp : String) (nowUnix : I64) : Prop :=
  ∃ ts, I64.parse timestamp.toList = some ts ∧
    ((nowUnix.val - ts.val).natAbs : Int) ≤ slackSignatureToleranceSeconds

/-- The signature is the version and the digest, its digits of either case. -/
def Signed (hmac : Hmac) (timestamp signature : String) (body : List UInt8)
    (signingSecret : String) : Prop :=
  ∃ hex, signature.toList = 'v' :: '0' :: '=' :: hex ∧
    hex.map Char.toLower = Hex.encode (hmac (utf8 signingSecret) (basestring timestamp body))

/-- The verification ends, and lets in what is fresh and signed. -/
structure ExactAndTotal (overflow : Overflow) (hmac : Hmac)
    (timestampHeader signatureHeader : Option String) (body : List UInt8) (signingSecret : String)
    (nowUnix : I64) : Prop where
  total : verifySlackSignatureParts overflow hmac timestampHeader signatureHeader body
    signingSecret nowUnix ≠ none
  exact : verifySlackSignatureParts overflow hmac timestampHeader signatureHeader body
      signingSecret nowUnix = some (.ok ()) ↔
    ∃ timestamp ∈ timestampHeader, ∃ signature ∈ signatureHeader,
      Fresh timestamp nowUnix ∧ Signed hmac timestamp signature body signingSecret

/-- A distance that does not fit: it ends a program that checks for it, and one that does not takes
some of them for small ones. -/
def Overflows (overflow : Overflow) (nowUnix ts : I64) : Prop :=
  match overflow with
  | .panics => 9223372036854775808 ≤ (nowUnix.val - ts.val).natAbs
  | .wraps => (nowUnix.val - ts.val).natAbs = 9223372036854775808 ∨
      18446744073709551616 - slackSignatureToleranceSeconds ≤ (nowUnix.val - ts.val).natAbs

/-- The timestamp is a number too far from the time, and with a program that wraps the signature is
right. -/
def Misjudged (overflow : Overflow) (hmac : Hmac)
    (timestampHeader signatureHeader : Option String) (body : List UInt8) (signingSecret : String)
    (nowUnix : I64) : Prop :=
  ∃ timestamp ∈ timestampHeader, ∃ signature ∈ signatureHeader, ∃ ts,
    I64.parse timestamp.toList = some ts ∧ Overflows overflow nowUnix ts ∧
      (overflow = .wraps → Signed hmac timestamp signature body signingSecret)

section Exactness
variable {overflow : Overflow} {hmac : Hmac} {timestamp signature : String} {body : List UInt8}
  {signingSecret : String} {nowUnix ts : I64}

theorem stripVersion_eq_some_iff {text hex : List Char} :
    stripVersion text = some hex ↔ text = 'v' :: '0' :: '=' :: hex := by
  constructor
  · intro h
    unfold stripVersion at h
    split at h
    · cases h
      rfl
    · cases h
  · rintro rfl
    rfl

theorem verifyDigest_eq_ok_iff :
    verifyDigest hmac timestamp signature body signingSecret = .ok () ↔
      Signed hmac timestamp signature body signingSecret := by
  unfold verifyDigest Signed
  simp only [← stripVersion_eq_some_iff, ← Hex.decode_eq_some_iff]
  cases stripVersion signature.toList with
  | none => exact ⟨nofun, nofun⟩
  | some hex =>
    simp only [Option.some.injEq, exists_eq_left']
    cases Hex.decode hex with
    | none => exact ⟨nofun, nofun⟩
    | some provided =>
      dsimp only
      rw [Option.some.injEq, @eq_comm _ provided]
      split
      · next h => exact ⟨fun _ => h, fun _ => rfl⟩
      · next h => exact ⟨nofun, fun hsame => absurd hsame h⟩

theorem verify_of_parsed (hparse : I64.parse timestamp.toList = some ts) :
    verifySlackSignatureParts overflow hmac (some timestamp) (some signature) body signingSecret
        nowUnix =
      (I64.distance overflow nowUnix ts).map fun distance =>
        if distance.val > slackSignatureToleranceSeconds then .error "stale timestamp"
        else verifyDigest hmac timestamp signature body signingSecret := by
  unfold verifySlackSignatureParts
  dsimp only
  rw [hparse]

/-- What a computed distance comes to. -/
theorem verify_of_distance (hmac : Hmac) (signature : String) (body : List UInt8)
    (signingSecret : String) (hparse : I64.parse timestamp.toList = some ts) {distance : I64}
    (hdistance : I64.distance overflow nowUnix ts = some distance) :
    verifySlackSignatureParts overflow hmac (some timestamp) (some signature) body signingSecret
        nowUnix ≠ none ∧
      (verifySlackSignatureParts overflow hmac (some timestamp) (some signature) body signingSecret
          nowUnix = some (.ok ()) ↔
        distance.val ≤ slackSignatureToleranceSeconds ∧
          Signed hmac timestamp signature body signingSecret) := by
  rw [verify_of_parsed hparse, hdistance, Option.map_some]
  refine ⟨nofun, ?_⟩
  rw [Option.some.injEq]
  by_cases hstale : distance.val > slackSignatureToleranceSeconds
  · rw [if_pos hstale]
    exact ⟨nofun, fun h => absurd h.1 (not_le.mpr hstale)⟩
  · rw [if_neg hstale, verifyDigest_eq_ok_iff]
    exact ⟨fun h => ⟨not_lt.mp hstale, h⟩, And.right⟩

theorem fresh_iff (hparse : I64.parse timestamp.toList = some ts) :
    Fresh timestamp nowUnix ↔
      ((nowUnix.val - ts.val).natAbs : Int) ≤ slackSignatureToleranceSeconds := by
  unfold Fresh
  rw [hparse]
  simp only [Option.some.injEq, exists_eq_left']

/-- The two headers and the number are there: what is left to see is the distance. -/
theorem exactAndTotal_of_parsed (hparse : I64.parse timestamp.toList = some ts) :
    ExactAndTotal overflow hmac (some timestamp) (some signature) body signingSecret nowUnix ↔
      ¬ (Overflows overflow nowUnix ts ∧
        (overflow = .wraps → Signed hmac timestamp signature body signingSecret)) := by
  have hclaim : (∃ t ∈ some timestamp, ∃ s ∈ some signature,
      Fresh t nowUnix ∧ Signed hmac t s body signingSecret) ↔
        Fresh timestamp nowUnix ∧ Signed hmac timestamp signature body signingSecret := by
    simp only [Option.mem_some_iff, exists_eq_left']
  by_cases hfits : (nowUnix.val - ts.val).natAbs ≤ 9223372036854775807
  · obtain ⟨distance, hdistance, hval⟩ := I64.distance_of_fits overflow hfits
    obtain ⟨htotal, hok⟩ := verify_of_distance hmac signature body signingSecret hparse
      hdistance
    have hnot : ¬ Overflows overflow nowUnix ts := by
      unfold Overflows slackSignatureToleranceSeconds
      cases overflow <;> dsimp only <;> omega
    refine ⟨fun _ h => hnot h.1, fun _ => ⟨htotal, ?_⟩⟩
    rw [hclaim, hok, hval, fresh_iff hparse]
  · have hstale : ¬ Fresh timestamp nowUnix := by
      rw [fresh_iff hparse]
      unfold slackSignatureToleranceSeconds
      omega
    cases overflow with
    | panics =>
      have hpanics : verifySlackSignatureParts .panics hmac (some timestamp) (some signature) body
          signingSecret nowUnix = none := by
        rw [verify_of_parsed hparse, I64.distance_panics hfits, Option.map_none]
      have hoverflows : Overflows .panics nowUnix ts := Nat.lt_of_not_le hfits
      exact ⟨fun h => absurd hpanics h.total, fun h => absurd ⟨hoverflows, nofun⟩ h⟩
    | wraps =>
      obtain ⟨distance, hdistance, hval⟩ := I64.distance_wraps hfits
      obtain ⟨htotal, hok⟩ := verify_of_distance hmac signature body signingSecret hparse
        hdistance
      have hsmall : distance.val ≤ slackSignatureToleranceSeconds ↔
          Overflows .wraps nowUnix ts := by
        rw [hval]
        unfold Overflows slackSignatureToleranceSeconds
        split <;> omega
      rw [hsmall] at hok
      constructor
      · rintro h ⟨hoverflows, hsigned⟩
        exact hstale (hclaim.mp (h.exact.mp (hok.mpr ⟨hoverflows, hsigned rfl⟩))).1
      · intro h
        refine ⟨htotal, ?_⟩
        rw [hclaim, hok]
        exact ⟨fun hboth => absurd ⟨hboth.1, fun _ => hboth.2⟩ h, fun hfresh =>
          absurd hfresh.1 hstale⟩

/-- Whatever the headers, the body, the secret and the time. -/
theorem exactAndTotal_iff (overflow : Overflow) (hmac : Hmac)
    (timestampHeader signatureHeader : Option String) (body : List UInt8) (signingSecret : String)
    (nowUnix : I64) :
    ExactAndTotal overflow hmac timestampHeader signatureHeader body signingSecret nowUnix ↔
      ¬ Misjudged overflow hmac timestampHeader signatureHeader body signingSecret nowUnix := by
  cases timestampHeader with
  | none => exact ⟨fun _ => nofun, fun _ => ⟨nofun, nofun, nofun⟩⟩
  | some timestamp =>
    cases signatureHeader with
    | none =>
      refine ⟨fun _ => ?_, fun _ => ⟨nofun, nofun, ?_⟩⟩
      · rintro ⟨_, _, _, hnone, _⟩
        cases hnone
      · rintro ⟨_, _, _, hnone, _⟩
        cases hnone
    | some signature =>
      cases hparse : I64.parse timestamp.toList with
      | none =>
        have hrefused : verifySlackSignatureParts overflow hmac (some timestamp) (some signature)
            body signingSecret nowUnix = some (.error "non-numeric timestamp") := by
          unfold verifySlackSignatureParts
          dsimp only
          rw [hparse]
        refine ⟨fun _ => ?_, fun _ => ⟨?_, ?_⟩⟩
        · rintro ⟨_, ⟨⟩, _, _, ts, hts, _⟩
          rw [hparse] at hts
          cases hts
        · rw [hrefused]
          nofun
        · rw [hrefused]
          refine ⟨nofun, ?_⟩
          rintro ⟨_, ⟨⟩, _, _, ⟨ts, hts, -⟩, -⟩
          rw [hparse] at hts
          cases hts
      | some ts =>
        rw [exactAndTotal_of_parsed hparse]
        unfold Misjudged
        simp only [Option.mem_some_iff, exists_eq_left', hparse, Option.some.injEq]

end Exactness

def november2023 : I64 := ⟨1700000000, by decide⟩

/-- A program that checks for overflows panics on the least number, whatever the signature; one
that does not accepts a signed timestamp of 292 billion years ago. -/
theorem farTimestamp_not_exactAndTotal :
    (∀ hmac signature, ¬ ExactAndTotal .panics hmac (some "-9223372036854775808") (some signature)
      [] "secret" november2023) ∧
    ∀ hmac signature, Signed hmac "-9223372035154775808" signature [] "secret" →
      ¬ ExactAndTotal .wraps hmac (some "-9223372035154775808") (some signature) [] "secret"
        november2023 := by
  have hleast : I64.parse "-9223372036854775808".toList =
      some ⟨-9223372036854775808, by decide⟩ := by decide
  have hfar : I64.parse "-9223372035154775808".toList =
      some ⟨-9223372035154775808, by decide⟩ := by decide
  constructor
  · intro hmac signature h
    have hpanics : verifySlackSignatureParts .panics hmac (some "-9223372036854775808")
        (some signature) [] "secret" november2023 = none := by
      rw [verify_of_parsed hleast]
      rfl
    exact h.total hpanics
  · intro hmac signature hsigned h
    obtain ⟨-, hok⟩ := verify_of_distance hmac signature [] "secret" hfar
      (show I64.distance .wraps november2023 ⟨-9223372035154775808, by decide⟩ =
        some ⟨-9223372036854775808, by decide⟩ by decide)
    obtain ⟨_, ⟨⟩, _, ⟨⟩, ⟨ts, hts, hfresh⟩, -⟩ := h.exact.mp (hok.mpr ⟨by decide, hsigned⟩)
    rw [hfar] at hts
    cases hts
    revert hfresh
    decide

end UniversalInbox.SlackSignature
