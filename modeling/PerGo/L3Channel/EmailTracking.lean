import PerGo.L1Encoding.Pattern
import PerGo.L1Encoding.Query
import PerGo.L1Encoding.Utf8Search
import PerGo.L2Domain.Variables
import PerGo.L3Webhook.Signature

/-!
# Tracked e-mails

The open pixel and the rewritten links of `email/tracking.go`. `strings.ToLower` and HMAC-SHA256 are
parameters. A text is a list of characters where only whole characters are moved, and a byte string where it is
sliced: the pixel goes to the place that the lowered copy gives.

* `replaceFirst_append`, `replaceFirst_infix`: where `strings.Replace` puts the new text.
* `hrefRegex_spec`: what the expression captures.
* `find_link`: `FindStringSubmatch` of a match captures what the match captured.
-/
namespace PerGo.L3.Email

open PerGo.L1 PerGo.L1.Pattern
open PerGo.L2
open PerGo.L3.Webhook (hexEncode)

/-! ## The expression -/

/-- `\s` -/
def isBlank (c : Char) : Bool := c = ' ' || c = '\t' || c = '\n' || c = '\r' || c.toNat = 12

def isQuote (c : Char) : Bool := c = '"' || c = '\''

/-- A match: what stands in front of the second group, the group, and the quote behind it. -/
structure Link where
  before : List Char
  value : List Char
  after : List Char
deriving DecidableEq

def Link.text (link : Link) : List Char := link.before ++ link.value ++ link.after

/-- `(?i)<a\s+([^>]*\s+)?href=["'](https?://[^"']+)["']`. mirrors tracking.go:13 -/
def hrefRegex : Expr Link := do
  let tag ← word "<a".toList
  let blanks ← some isBlank
  let attributes ← optional (do
    let skipped ← many fun c => c ≠ '>'
    let blanks ← some isBlank
    return skipped ++ blanks)
  let name ← word "href=".toList
  let opening ← one isQuote
  let scheme ← word "http".toList
  let secure ← optional (word ['s'])
  let slashes ← word "://".toList
  let rest ← some fun c => !isQuote c
  let closing ← one isQuote
  return ⟨tag ++ blanks ++ attributes ++ name ++ opening, scheme ++ secure ++ slashes ++ rest, closing⟩

/-! ## Signatures -/

section Tracking

variable (hmacSHA256 : List UInt8 → List UInt8 → Vector UInt8 32)

/-- mirrors tracking.go:16-20 -/
def GenerateTrackingHMAC (messageID payload secret : List UInt8) : String :=
  hexEncode (hmacSHA256 secret (messageID ++ utf8 [':'] ++ payload)).toList

/-- mirrors tracking.go:23-26 -/
def VerifyTrackingHMAC (messageID payload sig secret : List UInt8) : Bool :=
  utf8 (GenerateTrackingHMAC hmacSHA256 messageID payload secret).toList = sig

/-! ## Links -/

/-- `strings.TrimRight(baseURL, "/")`. -/
def trimmedBase (baseURL : String) : List Char := baseURL.toList.rdropWhile (· = '/')

/-- `strings.Replace(s, old, new, 1)`. -/
def replaceFirst (old new : List Char) : List Char → List Char
  | [] => if old = [] then new else []
  | c :: s => if old.isPrefixOf (c :: s) then new ++ (c :: s).drop old.length else c :: replaceFirst old new s

variable (messageID baseURL secret : String)

/-- mirrors tracking.go:60-67 -/
def trackURL (targetURL : List Char) : List Char :=
  let sig := GenerateTrackingHMAC hmacSHA256 (utf8 messageID.toList) (utf8 targetURL) (utf8 secret.toList)
  trimmedBase baseURL ++ "/v1/webhooks/email/click?m=".toList ++ Query.escape (utf8 messageID.toList) ++
    "&url=".toList ++ Query.escape (utf8 targetURL) ++ "&sig=".toList ++ sig.toList

/-- mirrors tracking.go:54-70 -/
def rewriteMatch (matched : List Char) : List Char :=
  match find hrefRegex matched with
  | none => matched
  | .some link => replaceFirst link.value (trackURL hmacSHA256 messageID baseURL secret link.value) matched

/-- mirrors tracking.go:47-71 -/
def RewriteClickLinks (htmlBody : String) : String :=
  if htmlBody = "" then ""
  else String.ofList
    (replaceAll hrefRegex (fun link => rewriteMatch hmacSHA256 messageID baseURL secret link.text) htmlBody.toList)

/-! ## The open pixel -/

/-- mirrors tracking.go:34-36 -/
def pixelTag : List Char :=
  let sig := GenerateTrackingHMAC hmacSHA256 (utf8 messageID.toList) (utf8 "open".toList) (utf8 secret.toList)
  let pixelURL := trimmedBase baseURL ++ "/v1/webhooks/email/open?m=".toList ++ Query.escape (utf8 messageID.toList) ++
    "&sig=".toList ++ sig.toList
  "<img src=\"".toList ++ pixelURL ++
    "\" width=\"1\" height=\"1\" style=\"display:none !important;\" alt=\"\" />".toList

/-- `unicode.ToLower`. Where it or `lowerChar` yields ASCII, they agree. -/
structure Lowering where
  lower : Char → Char
  ascii : ∀ c, (lower c).toNat < 128 ∨ (lowerChar c).toNat < 128 → lower c = lowerChar c

/-- `none` is a panic: the index is behind the end of the body. mirrors tracking.go:29-44 -/
def InjectOpenPixel (lowering : Lowering) (htmlBody : String) : Option (List UInt8) :=
  if htmlBody = "" then .some []
  else
    let body := utf8 htmlBody.toList
    let tag := utf8 (pixelTag hmacSHA256 messageID baseURL secret)
    match lastIndex (utf8 "</body>".toList) (utf8 (htmlBody.toList.map lowering.lower)) with
    | .some idx => if idx ≤ body.length then .some (body.take idx ++ tag ++ utf8 ['\n'] ++ body.drop idx) else none
    | none => .some (body ++ utf8 ['\n'] ++ tag)

end Tracking

/-! ## `strings.Replace` -/

theorem replaceFirst_cons_of_not {old new : List Char} {c : Char} {s : List Char} (h : ¬ old <+: c :: s) :
    replaceFirst old new (c :: s) = c :: replaceFirst old new s := by
  rw [replaceFirst, if_neg (by rwa [List.isPrefixOf_iff_prefix])]

theorem replaceFirst_append {old new front behind : List Char} (hold : old ≠ [])
    (h : ∀ a b, front = a ++ b → b ≠ [] → ¬ old <+: b ++ old ++ behind) :
    replaceFirst old new (front ++ old ++ behind) = front ++ new ++ behind := by
  induction front with
  | nil =>
    obtain ⟨c, more, rfl⟩ := List.exists_cons_of_ne_nil hold
    rw [List.nil_append, List.cons_append, replaceFirst, if_pos, ← List.cons_append, List.drop_left]
    · rfl
    · rw [List.isPrefixOf_iff_prefix, ← List.cons_append]
      exact List.prefix_append _ _
  | cons c front ih =>
    have hhead := h [] (c :: front) rfl (List.cons_ne_nil c front)
    simp only [List.cons_append, List.append_assoc] at hhead ⊢
    rw [replaceFirst_cons_of_not hhead]
    have hrest := ih fun a b hab hb => h (c :: a) b (congrArg (c :: ·) hab) hb
    simp only [List.append_assoc] at hrest
    rw [hrest]

/-- In a text that has the word, its first occurrence is replaced, whatever follows. -/
theorem replaceFirst_infix {old new s : List Char} (h : old <:+: s) :
    ∃ a b, s = a ++ old ++ b ∧ ∀ t, replaceFirst old new (s ++ t) = a ++ new ++ b ++ t := by
  induction s with
  | nil =>
    obtain rfl := List.infix_nil.mp h
    refine ⟨[], [], rfl, fun t => ?_⟩
    cases t with
    | nil => simp [replaceFirst]
    | cons c t => simp [replaceFirst]
  | cons c s ih =>
    by_cases hprefix : old <+: c :: s
    · obtain ⟨b, hb⟩ := hprefix
      refine ⟨[], b, by rw [← hb]; rfl, fun t => ?_⟩
      rw [List.cons_append, replaceFirst, if_pos, ← List.cons_append, ← hb, List.append_assoc, List.drop_left]
      · simp
      · rw [List.isPrefixOf_iff_prefix, ← List.cons_append, ← hb, List.append_assoc]
        exact List.prefix_append _ _
    · have hrest : old <:+: s := (List.infix_cons_iff.mp h).resolve_left hprefix
      obtain ⟨a, b, rfl, hreplace⟩ := ih hrest
      refine ⟨c :: a, b, rfl, fun t => ?_⟩
      have hnot : ¬ old <+: c :: (a ++ old ++ b) ++ t := by
        intro hlong
        refine hprefix ?_
        refine List.prefix_of_prefix_length_le hlong (List.prefix_append _ t) ?_
        simp only [List.length_cons, List.length_append]
        omega
      rw [List.cons_append] at hnot ⊢
      rw [replaceFirst_cons_of_not hnot, hreplace]
      rfl

/-! ## What the expression captures -/

theorem hrefRegex_within : Within hrefRegex := by
  unfold hrefRegex
  refine (Within.word _).bind fun _ => (Within.some _).bind fun _ => (Within.optional ?_).bind fun _ =>
    (Within.word _).bind fun _ => (Within.one _).bind fun _ => (Within.word _).bind fun _ =>
    (Within.optional (Within.word _)).bind fun _ => (Within.word _).bind fun _ => (Within.some _).bind fun _ =>
    (Within.one _).bind fun _ => Within.pure _
  exact (Within.many _).bind fun _ => (Within.some _).bind fun _ => Within.pure _

theorem word_noQuote {cs s : List Char} (hcs : '"' ∉ cs ∧ '\'' ∉ cs) {way : List Char × List Char} (h : way ∈ word cs s) :
    ∀ c ∈ way.1, isQuote c = false := by
  intro c hc
  by_contra hquote
  rw [Bool.not_eq_false, isQuote, Bool.or_eq_true, decide_eq_true_eq, decide_eq_true_eq] at hquote
  have hfold := map_foldChar_word h
  have hmem : foldChar c ∈ cs := by
    rw [← hfold]
    exact List.mem_map_of_mem hc
  rcases hquote with rfl | rfl
  · exact hcs.1 hmem
  · exact hcs.2 hmem

/-- What a match is made of. -/
structure Link.Spec (link : Link) : Prop where
  before : ∃ front opening, isQuote opening = true ∧ link.before = front ++ [opening]
  after : ∃ closing, isQuote closing = true ∧ link.after = [closing]
  nonempty : link.value ≠ []
  noQuote : ∀ c ∈ link.value, isQuote c = false

theorem hrefRegex_spec {s : List Char} {way : Link × List Char} (h : way ∈ hrefRegex s) :
    s = way.1.text ++ way.2 ∧ way.1.Spec := by
  obtain ⟨⟨tag, s₁⟩, htag, h⟩ := mem_bind.mp h
  obtain ⟨⟨blanks, s₂⟩, hblanks, h⟩ := mem_bind.mp h
  obtain ⟨⟨attributes, s₃⟩, hattributes, h⟩ := mem_bind.mp h
  obtain ⟨⟨name, s₄⟩, hname, h⟩ := mem_bind.mp h
  obtain ⟨⟨opening, s₅⟩, hopening, h⟩ := mem_bind.mp h
  obtain ⟨⟨scheme, s₆⟩, hscheme, h⟩ := mem_bind.mp h
  obtain ⟨⟨secure, s₇⟩, hsecure, h⟩ := mem_bind.mp h
  obtain ⟨⟨slashes, s₈⟩, hslashes, h⟩ := mem_bind.mp h
  obtain ⟨⟨rest, s₉⟩, hrest, h⟩ := mem_bind.mp h
  obtain ⟨⟨closing, s₁₀⟩, hclosing, h⟩ := mem_bind.mp h
  rw [mem_pure.mp h]
  have hattributesRead : Reads id (optional (do
      let skipped ← many fun c => c ≠ '>'
      let blanks ← some isBlank
      return skipped ++ blanks)) := reads_optional (reads_append (reads_many _) (reads_some _))
  have e₁ : s = tag ++ s₁ := reads_word _ s _ htag
  have e₂ : s₁ = blanks ++ s₂ := reads_some _ s₁ _ hblanks
  have e₃ : s₂ = attributes ++ s₃ := hattributesRead s₂ _ hattributes
  have e₄ : s₃ = name ++ s₄ := reads_word _ s₃ _ hname
  have e₅ : s₄ = opening ++ s₅ := reads_one _ s₄ _ hopening
  have e₆ : s₅ = scheme ++ s₆ := reads_word _ s₅ _ hscheme
  have e₇ : s₆ = secure ++ s₇ := reads_optional (reads_word _) s₆ _ hsecure
  have e₈ : s₇ = slashes ++ s₈ := reads_word _ s₇ _ hslashes
  have e₉ : s₈ = rest ++ s₉ := reads_some _ s₈ _ hrest
  have e₁₀ : s₉ = closing ++ s₁₀ := reads_one _ s₉ _ hclosing
  obtain ⟨q, hq, rfl⟩ := mem_one hopening
  obtain ⟨q', hq', rfl⟩ := mem_one hclosing
  obtain ⟨hne, hplain⟩ := all_some hrest
  refine ⟨?_, ⟨⟨_, q, hq, rfl⟩, ⟨q', hq', rfl⟩, by simp [hne], ?_⟩⟩
  · rw [e₁, e₂, e₃, e₄, e₅, e₆, e₇, e₈, e₉, e₁₀]
    simp [Link.text]
  · intro c hc
    simp only [List.mem_append] at hc
    rcases hc with ((hc | hc) | hc) | hc
    · exact word_noQuote (by decide +kernel) hscheme c hc
    · rcases mem_optional hsecure with hsecure | hsecure
      · exact word_noQuote (by decide +kernel) hsecure c hc
      · cases hsecure
        cases hc
    · exact word_noQuote (by decide +kernel) hslashes c hc
    · simpa using hplain c hc

theorem hrefRegex_reads : Reads Link.text hrefRegex := fun _ _ h => (hrefRegex_spec h).1

theorem hrefRegex_ne_nil (s : List Char) : ∀ way ∈ hrefRegex s, way.1.text ≠ [] := by
  intro way hway htext
  obtain ⟨front, opening, -, hbefore⟩ := (hrefRegex_spec hway).2.before
  rw [Link.text, hbefore] at htext
  simp at htext

def links (htmlBody : String) : List Link :=
  (pieces hrefRegex htmlBody.toList).filterMap fun piece => match piece with
    | .found link => .some link
    | .text _ => none

theorem mem_links {htmlBody : String} {link : Link} :
    link ∈ links htmlBody ↔ .found link ∈ pieces hrefRegex htmlBody.toList := by
  unfold links
  rw [List.mem_filterMap]
  constructor
  · rintro ⟨piece, hpiece, hlink⟩
    cases piece with
    | text c => cases hlink
    | found link' =>
      cases hlink
      exact hpiece
  · exact fun h => ⟨.found link, h, rfl⟩

theorem spec_of_mem_links {htmlBody : String} {link : Link} (h : link ∈ links htmlBody) : link.Spec := by
  obtain ⟨s, rest, hhead⟩ := mem_piecesUpTo (mem_links.mp h)
  exact (hrefRegex_spec (List.mem_of_head? hhead)).2

/-- `FindStringSubmatch` of a match captures what the match captured. -/
theorem find_link {htmlBody : String} {link : Link} (h : link ∈ links htmlBody) :
    find hrefRegex link.text = .some link :=
  find_match hrefRegex_reads hrefRegex_ne_nil hrefRegex_within (mem_links.mp h)

theorem rewriteMatch_link {hmacSHA256 : List UInt8 → List UInt8 → Vector UInt8 32} {messageID baseURL secret : String}
    {htmlBody : String} {link : Link} (h : link ∈ links htmlBody) :
    rewriteMatch hmacSHA256 messageID baseURL secret link.text =
      replaceFirst link.value (trackURL hmacSHA256 messageID baseURL secret link.value) link.text := by
  rw [rewriteMatch, find_link h]

end PerGo.L3.Email
