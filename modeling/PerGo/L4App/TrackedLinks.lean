import PerGo.L1Encoding.CharacterReferences
import PerGo.L3Inbound.EmailTracking

/-!
# Links that are rewritten

`Works` says what a new address in a match has to do: a browser that follows it asks for the click endpoint under the
base URL, which redirects to what the old address stands for and records a read of the message.

* `trackURL_eq`, `decode_trackURL`: the tracking URL as an address with a query, before and after the browser has
  decoded it.
* `handleClick_clickQuery`: what the click endpoint makes of this query.
* `works_trackURL`: when the tracking URL works.
* `rewriteMatch_iff`: when a match is rewritten as it should be. An address that stands in the match before is
  replaced there, and no new address makes up for that.
-/
namespace PerGo.L4.TrackedLinks

open PerGo.L1 PerGo.L1.Query
open PerGo.L2 PerGo.L3 PerGo.L3.Email PerGo.L3.EmailTracking

section Rewritten

variable (refs : CharacterReferences) (hmacSHA256 : List UInt8 → List UInt8 → Vector UInt8 32)
variable (messageID baseURL secret : String)

def clickPath : List Char := "/v1/webhooks/email/click".toList

def clickQuery (targetURL : List Char) : Query.Values :=
  [(utf8 "m".toList, utf8 messageID.toList), (utf8 "url".toList, utf8 targetURL), (utf8 "sig".toList,
    utf8 (generateTrackingHMAC hmacSHA256 (utf8 messageID.toList) (utf8 targetURL) (utf8 secret.toList)).toList)]

/-- What a browser makes of `href`, the value of an attribute in quotes, leads to the click endpoint under the base
URL. The request redirects to what `value` stands for, and records a read of the message. -/
structure Works (value href : List Char) : Prop where
  quotes : ∀ c ∈ href, isQuote c = false
  place : beforeQuery (refs.decode href) = refs.decode (trimmedBase baseURL) ++ clickPath
  click : ∀ rows, HandleClick hmacSHA256 (utf8 secret.toList) (some rows) (parse (rawQuery (refs.decode href))) =
    (.redirect (utf8 (refs.decode value)), some (UpdateStatusByProviderMessageID rows (utf8 messageID.toList) "read"))

/-- In each match nothing but the value changes, and the new value works. -/
def LinksPreserved (htmlBody : String) : Prop :=
  ∀ link ∈ links htmlBody, ∃ href,
    rewriteMatch hmacSHA256 messageID baseURL secret link.text = link.before ++ href ++ link.after ∧
      Works refs hmacSHA256 messageID baseURL secret link.value href

/-- The base URL can stand in an attribute, and has no query and no fragment there. -/
structure UsableBase : Prop where
  quotes : ∀ c ∈ trimmedBase baseURL, isQuote c = false
  mark : '?' ∉ refs.decode (trimmedBase baseURL)
  hash : '#' ∉ refs.decode (trimmedBase baseURL)

end Rewritten

/-! ## The tracking URL -/

section TrackURL

variable {refs : CharacterReferences} {hmacSHA256 : List UInt8 → List UInt8 → Vector UInt8 32}
variable {messageID baseURL secret : String}

theorem clickNames_spec :
    (∀ name ∈ [['m'], ['u', 'r', 'l'], ['s', 'i', 'g']], escape (utf8 name) = name) ∧
      (utf8 "url".toList == utf8 "m".toList) = false ∧ (utf8 "sig".toList == utf8 "m".toList) = false ∧
      (utf8 "sig".toList == utf8 "url".toList) = false ∧ 0 < "&url=".toList.length := by decide +kernel

theorem clickPath_spec : clickPath = '/' :: clickPath.tail ∧ '?' ∉ clickPath ∧ '#' ∉ clickPath ∧ '&' ∉ clickPath.tail ∧
    (clickPath.all fun c => decide (isQuote c = false)) = true := by decide +kernel

theorem hexDigit_component : ∀ n < 16, isComponent (JsonText.hexDigit n) = true ∧
    escape (String.utf8EncodeChar (JsonText.hexDigit n)) = [JsonText.hexDigit n] := by decide +kernel

theorem mem_signature {messageID payload secret : List UInt8} {c : Char}
    (h : c ∈ (generateTrackingHMAC hmacSHA256 messageID payload secret).toList) : ∃ n < 16, c = JsonText.hexDigit n := by
  unfold generateTrackingHMAC Webhook.hexEncode at h
  rw [String.toList_ofList, List.mem_flatMap] at h
  obtain ⟨b, -, hc⟩ := h
  have hb := b.toNat_lt
  simp only [List.mem_cons, List.not_mem_nil, or_false] at hc
  rcases hc with rfl | rfl
  · exact ⟨_, by omega, rfl⟩
  · exact ⟨_, by omega, rfl⟩

theorem trackURL_eq (targetURL : List Char) : trackURL hmacSHA256 messageID baseURL secret targetURL =
    trimmedBase baseURL ++ clickPath ++ '?' :: Query.write (clickQuery hmacSHA256 messageID secret targetURL) := by
  have hsig : escape (utf8 (generateTrackingHMAC hmacSHA256 (utf8 messageID.toList) (utf8 targetURL)
      (utf8 secret.toList)).toList) =
      (generateTrackingHMAC hmacSHA256 (utf8 messageID.toList) (utf8 targetURL) (utf8 secret.toList)).toList := by
    refine escape_utf8 fun c hc => ?_
    obtain ⟨n, hn, rfl⟩ := mem_signature hc
    exact (hexDigit_component n hn).2
  have hm : escape (utf8 ['m']) = ['m'] := clickNames_spec.1 _ (by simp)
  have hurl : escape (utf8 ['u', 'r', 'l']) = ['u', 'r', 'l'] := clickNames_spec.1 _ (by simp)
  have hname : escape (utf8 ['s', 'i', 'g']) = ['s', 'i', 'g'] := clickNames_spec.1 _ (by simp)
  unfold trackURL clickPath Query.write clickQuery
  rw [← generateTrackingHMAC_eq]
  simp [writePair, hsig, hm, hurl, hname]

theorem noQuote_component {c : Char} (h : isComponent c = true) : isQuote c = false := by
  by_contra hquote
  rw [Bool.not_eq_false, isQuote, Bool.or_eq_true, decide_eq_true_eq, decide_eq_true_eq] at hquote
  rcases hquote with rfl | rfl <;> exact absurd h (by decide)

theorem noQuote_trackURL (targetURL : List Char) :
    (∀ c ∈ trackURL hmacSHA256 messageID baseURL secret targetURL, isQuote c = false) ↔
      ∀ c ∈ trimmedBase baseURL, isQuote c = false := by
  have hpath : ∀ c ∈ clickPath, isQuote c = false := forall_mem_of_all clickPath_spec.2.2.2.2
  have hquery : ∀ c ∈ '?' :: Query.write (clickQuery hmacSHA256 messageID secret targetURL), isQuote c = false := by
    intro c hc
    rcases List.mem_cons.mp hc with rfl | hc
    · rfl
    · rcases mem_write hc with hc | rfl | rfl
      · exact noQuote_component hc
      · rfl
      · rfl
  rw [trackURL_eq, List.forall_mem_append, List.forall_mem_append, and_iff_left hquery, and_iff_left hpath]

theorem decode_trackURL (targetURL : List Char) : refs.decode (trackURL hmacSHA256 messageID baseURL secret targetURL) =
    refs.decode (trimmedBase baseURL) ++ clickPath ++
      '?' :: Query.write (clickQuery hmacSHA256 messageID secret targetURL) := by
  have hurl : escape (utf8 ['u', 'r', 'l']) = ['u', 'r', 'l'] := clickNames_spec.1 _ (by simp)
  have hname : escape (utf8 ['s', 'i', 'g']) = ['s', 'i', 'g'] := clickNames_spec.1 _ (by simp)
  have hescape : ∀ bs, '&' ∉ escape bs := fun bs => component_ne (isComponent_escape bs) rfl
  have hfirst : '&' ∉ clickPath.tail ++ '?' :: writePair (utf8 "m".toList, utf8 messageID.toList) := by
    rw [List.mem_append, List.mem_cons, not_or, not_or]
    exact ⟨clickPath_spec.2.2.2.1, by decide, not_mem_writePair _ rfl (by decide)⟩
  have hwrite : Query.write (clickQuery hmacSHA256 messageID secret targetURL) =
      writePair (utf8 "m".toList, utf8 messageID.toList) ++
        '&' :: (['u', 'r', 'l'] ++ '=' :: (escape (utf8 targetURL) ++
        '&' :: (['s', 'i', 'g'] ++ '=' :: escape (utf8 (generateTrackingHMAC hmacSHA256 (utf8 messageID.toList)
          (utf8 targetURL) (utf8 secret.toList)).toList)))) := by
    unfold Query.write clickQuery
    simp [writePair, hurl, hname]
  have hpath : clickPath = '/' :: clickPath.tail := clickPath_spec.1
  rw [trackURL_eq, hwrite]
  generalize clickPath.tail = path at hfirst hpath
  generalize writePair (utf8 "m".toList, utf8 messageID.toList) = first at hfirst
  have hshape : ∀ rest, trimmedBase baseURL ++ clickPath ++ '?' :: (first ++ rest) =
      trimmedBase baseURL ++ '/' :: ((path ++ '?' :: first) ++ rest) := by
    intro rest
    rw [hpath]
    simp
  rw [hshape, CharacterReferences.decode_break rfl, CharacterReferences.decode_append hfirst,
    CharacterReferences.decode_param (by simp) (forall_mem_of_all (by decide)),
    CharacterReferences.decode_append (hescape _),
    CharacterReferences.decode_param (by simp) (forall_mem_of_all (by decide)),
    CharacterReferences.decode_plain (hescape _), hpath]
  simp

theorem utf8_injective {s t : List Char} (h : utf8 s = utf8 t) : s = t := by rw [← runes_utf8 s, h, runes_utf8]

theorem param_clickQuery (targetURL : List Char) :
    param (clickQuery hmacSHA256 messageID secret targetURL) "m" = utf8 messageID.toList ∧
    param (clickQuery hmacSHA256 messageID secret targetURL) "url" = utf8 targetURL ∧
    param (clickQuery hmacSHA256 messageID secret targetURL) "sig" =
      utf8 (generateTrackingHMAC hmacSHA256 (utf8 messageID.toList) (utf8 targetURL) (utf8 secret.toList)).toList := by
  obtain ⟨-, h₁, h₂, h₃, -⟩ := clickNames_spec
  unfold param Query.get clickQuery
  refine ⟨?_, ?_, ?_⟩
  · rw [List.lookup_cons, beq_self_eq_true]
    rfl
  · rw [List.lookup_cons, h₁, List.lookup_cons, beq_self_eq_true]
    rfl
  · rw [List.lookup_cons, h₂, List.lookup_cons, h₃, List.lookup_cons, beq_self_eq_true]
    rfl

theorem handleClick_clickQuery {targetURL : List Char} (hne : targetURL ≠ []) (rows : List MessageDispatch) :
    HandleClick hmacSHA256 (utf8 secret.toList) (some rows) (clickQuery hmacSHA256 messageID secret targetURL) =
      (.redirect (utf8 targetURL), some (if messageID = "" then rows
        else UpdateStatusByProviderMessageID rows (utf8 messageID.toList) "read")) := by
  obtain ⟨hm, hurl, hsig⟩ : param (clickQuery hmacSHA256 messageID secret targetURL) "m" = utf8 messageID.toList ∧
      param (clickQuery hmacSHA256 messageID secret targetURL) "url" = utf8 targetURL ∧
      param (clickQuery hmacSHA256 messageID secret targetURL) "sig" =
        utf8 (generateTrackingHMAC hmacSHA256 (utf8 messageID.toList) (utf8 targetURL) (utf8 secret.toList)).toList :=
    param_clickQuery targetURL
  have hurlNe : utf8 targetURL ≠ [] := fun h => hne (utf8_injective h)
  have hid : utf8 messageID.toList = [] ↔ messageID = "" := by
    constructor
    · intro h
      have hchars : messageID.toList = [] := utf8_injective h
      rw [← String.ofList_toList (s := messageID), hchars]
    · rintro rfl
      rfl
  unfold HandleClick
  rw [hm, hurl, hsig]
  by_cases hempty : messageID = ""
  · rw [if_neg (fun h => h.1 (hid.mpr hempty)), if_pos hurlNe, if_pos hempty]
  · rw [if_pos ⟨fun h => hempty (hid.mp h), hurlNe, generateTrackingHMAC_ne _ _ _, decide_eq_true rfl⟩, if_neg hempty]
    rfl

theorem length_utf8 (s : List Char) : s.length ≤ (utf8 s).length := by
  induction s with
  | nil => exact Nat.le_refl _
  | cons c s ih =>
    have hpos : 0 < (String.utf8EncodeChar c).length := List.length_pos_iff.mpr String.utf8EncodeChar_ne_nil
    rw [utf8_cons, List.length_append, List.length_cons]
    omega

theorem trackURL_length (targetURL : List Char) :
    targetURL.length < (trackURL hmacSHA256 messageID baseURL secret targetURL).length := by
  have hbytes := length_utf8 targetURL
  have hescape := length_escape (utf8 targetURL)
  have hmiddle : 0 < "&url=".toList.length := clickNames_spec.2.2.2.2
  unfold trackURL
  simp only [List.length_append]
  omega

end TrackURL

/-! ## When the links are preserved -/

section Preserved

variable {refs : CharacterReferences} {hmacSHA256 : List UInt8 → List UInt8 → Vector UInt8 32}
variable {messageID baseURL secret : String}

/-- The value is not repeated in front of itself, and the browser reads it as it stands. -/
structure Kept (refs : CharacterReferences) (link : Link) : Prop where
  first : ¬ link.value <:+: link.before
  plain : refs.decode link.value = link.value

theorem ending_unique {a b x y : List Char} {q : Char} (hx : q ∉ x) (hy : q ∉ y) (h : a ++ q :: x = b ++ q :: y) :
    a = b ∧ x = y := by
  rcases List.append_eq_append_iff.mp h with ⟨c, hc, hrest⟩ | ⟨c, hc, hrest⟩
  · cases c with
    | nil => exact ⟨by rw [hc, List.append_nil], (List.cons.inj hrest).2⟩
    | cons d c => exact absurd (by rw [(List.cons.inj hrest).2]; simp) hx
  · cases c with
    | nil => exact ⟨by rw [hc, List.append_nil], (List.cons.inj hrest).2.symm⟩
    | cons d c => exact absurd (by rw [(List.cons.inj hrest).2]; simp) hy

/-- A message that a click on an empty ID would mark. -/
def unnamed : MessageDispatch :=
  ⟨1, 1, "t", "email", "sent", 0, none, none, none, [], some ""⟩

theorem works_trackURL {value : List Char} (hne : value ≠ []) :
    Works refs hmacSHA256 messageID baseURL secret value (trackURL hmacSHA256 messageID baseURL secret value) ↔
      UsableBase refs baseURL ∧ messageID ≠ "" ∧ refs.decode value = value := by
  have hquery : '#' ∉ Query.write (clickQuery hmacSHA256 messageID secret value) := by
    intro hmem
    rcases mem_write hmem with h | h | h <;> exact absurd h (by decide)
  have hpath : '?' ∉ clickPath ∧ '#' ∉ clickPath := ⟨clickPath_spec.2.1, clickPath_spec.2.2.1⟩
  constructor
  · rintro ⟨hquotes, hplace, hclick⟩
    rw [decode_trackURL] at hplace hclick
    have hclean := beforeQuery_plain (refs.decode (trimmedBase baseURL) ++ clickPath ++
      '?' :: Query.write (clickQuery hmacSHA256 messageID secret value))
    rw [hplace, List.mem_append, List.mem_append, not_or, not_or] at hclean
    obtain ⟨⟨hmark, -⟩, hhash, -⟩ := hclean
    rw [rawQuery_append (by simp [hmark, hpath.1]) (by simp [hhash, hpath.2]) hquery, parse_write] at hclick
    refine ⟨⟨noQuote_trackURL value |>.mp hquotes, hmark, hhash⟩, ?_, ?_⟩
    · rintro rfl
      have hread := hclick [unnamed]
      rw [handleClick_clickQuery hne, if_pos rfl] at hread
      have hrows := Option.some.inj (Prod.mk.inj hread).2
      exact absurd hrows (by decide +kernel)
    · have hresponse := hclick []
      rw [handleClick_clickQuery hne] at hresponse
      have hurl := Response.redirect.inj (Prod.mk.inj hresponse).1
      exact (utf8_injective hurl).symm
  · rintro ⟨⟨hquotes, hmark, hhash⟩, hid, hplain⟩
    refine ⟨(noQuote_trackURL value).mpr hquotes, ?_, ?_⟩
    · rw [decode_trackURL, beforeQuery_append (by simp [hmark, hpath.1]) (by simp [hhash, hpath.2])]
    · intro rows
      rw [decode_trackURL, rawQuery_append (by simp [hmark, hpath.1]) (by simp [hhash, hpath.2]) hquery, parse_write,
        handleClick_clickQuery hne, if_neg hid, hplain]

theorem rewriteMatch_iff {htmlBody : String} {link : Link} (h : link ∈ links htmlBody) :
    (∃ href, rewriteMatch hmacSHA256 messageID baseURL secret link.text = link.before ++ href ++ link.after ∧
      Works refs hmacSHA256 messageID baseURL secret link.value href) ↔
      UsableBase refs baseURL ∧ messageID ≠ "" ∧ Kept refs link := by
  obtain ⟨⟨front, q, hq, hbefore⟩, ⟨q', hq', hafter⟩, hne, hplain⟩ := spec_of_mem_links h
  have hnotMem : q ∉ link.value := fun hmem => by
    rw [hplain q hmem] at hq
    cases hq
  rw [rewriteMatch_link h]
  generalize htrack : trackURL hmacSHA256 messageID baseURL secret link.value = track
  have hworks : Works refs hmacSHA256 messageID baseURL secret link.value track ↔
      UsableBase refs baseURL ∧ messageID ≠ "" ∧ refs.decode link.value = link.value := by
    rw [← htrack]
    exact works_trackURL hne
  by_cases hfirst : link.value <:+: link.before
  · -- the earlier occurrence is replaced, and the value itself stays
    obtain ⟨a, b, hsplit, hreplace⟩ : ∃ a b, link.before = a ++ link.value ++ b ∧
        ∀ t, replaceFirst link.value track (link.before ++ t) = a ++ track ++ b ++ t := replaceFirst_infix hfirst
    constructor
    · rintro ⟨href, hhref, hquotes, -, -⟩
      exfalso
      obtain ⟨b', hb⟩ : ∃ b', b = b' ++ [q] := by
        rcases List.eq_nil_or_concat b with rfl | ⟨b', d, rfl⟩
        · have hlast := congrArg List.getLast? (hbefore.symm.trans hsplit)
          rw [List.append_nil, List.getLast?_concat, List.getLast?_append_of_ne_nil _ hne] at hlast
          exact absurd (List.mem_of_getLast? hlast.symm) hnotMem
        · have hlast := hbefore.symm.trans hsplit
          rw [List.concat_eq_append, ← List.append_assoc] at hlast
          rw [(List.cons.inj (List.append_inj' hlast rfl).2).1, List.concat_eq_append]
          exact ⟨b', rfl⟩
      have hleft : replaceFirst link.value track link.text = a ++ track ++ b ++ (link.value ++ link.after) := by
        rw [Link.text, List.append_assoc]
        exact hreplace _
      rw [hleft, hsplit, hb] at hhref
      have hends : a ++ ((track ++ b') ++ q :: link.value) ++ link.after =
          a ++ ((link.value ++ b') ++ q :: href) ++ link.after := by simpa using hhref
      have hends := List.append_cancel_left (List.append_cancel_right hends)
      obtain ⟨hfronts, -⟩ := ending_unique hnotMem (fun hmem => by rw [hquotes q hmem] at hq; cases hq) hends
      have hsame := List.append_cancel_right hfronts
      have hlength : link.value.length < (trackURL hmacSHA256 messageID baseURL secret link.value).length :=
        trackURL_length link.value
      rw [htrack, hsame] at hlength
      exact Nat.lt_irrefl _ hlength
    · rintro ⟨-, -, hkept⟩
      exact absurd hfirst hkept.first
  · have hreplaced : replaceFirst link.value track link.text = link.before ++ track ++ link.after := by
      refine replaceFirst_append hne fun a b hab hb hprefix => ?_
      have hmem : q ∈ b := by
        have hlast := congrArg List.getLast? (hbefore.symm.trans hab)
        rw [List.getLast?_concat, List.getLast?_append_of_ne_nil _ hb] at hlast
        exact List.mem_of_getLast? hlast.symm
      rw [List.append_assoc] at hprefix
      rcases List.prefix_or_prefix_of_prefix hprefix (List.prefix_append b _) with hshort | hlong
      · refine hfirst ?_
        rw [hab]
        exact hshort.isInfix.trans (List.suffix_append a b).isInfix
      · exact hnotMem (hlong.subset hmem)
    rw [hreplaced]
    constructor
    · rintro ⟨href, hhref, hhrefWorks⟩
      rw [List.append_assoc, List.append_assoc] at hhref
      obtain rfl := List.append_cancel_right (List.append_cancel_left hhref)
      obtain ⟨hbase, hid, hdecode⟩ := hworks.mp hhrefWorks
      exact ⟨hbase, hid, hfirst, hdecode⟩
    · rintro ⟨hbase, hid, hkept⟩
      exact ⟨track, rfl, hworks.mpr ⟨hbase, hid, hkept.plain⟩⟩

theorem linksPreserved_iff (htmlBody : String) : LinksPreserved refs hmacSHA256 messageID baseURL secret htmlBody ↔
    ∀ link ∈ links htmlBody, UsableBase refs baseURL ∧ messageID ≠ "" ∧ Kept refs link :=
  forall₂_congr fun _ h => rewriteMatch_iff h

end Preserved

end PerGo.L4.TrackedLinks
