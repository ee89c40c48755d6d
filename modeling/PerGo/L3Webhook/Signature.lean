import PerGo.L1Encoding.Bytes
import PerGo.L1Encoding.Float64
import PerGo.L1Encoding.JsonText

/-!
# Webhook signatures

`SignPayload` and `VerifySignatureWithTolerance` of `webhook/dispatcher.go`. The header is split at its
commas and read part by part; a later `t` or `v1` replaces an earlier one, and a part without `=` is passed over.
HMAC-SHA256 is a parameter.

* `lastField`: a field of a header, its last one where it comes twice; `parseSignatureHeader_eq`.
* `verify_iff`: what is accepted, up to `stale`.
* `lastField_signPayload`: what `SignPayload` writes is read back.
-/
namespace PerGo.L3.Webhook

open PerGo.L1

/-! ## Headers -/

/-- `strings.SplitN(part, "=", 2)` when it has two parts. -/
def cutEquals (part : List Char) : Option (String × String) :=
  match part.dropWhile (· ≠ '=') with
  | [] => none
  | _ :: value => some (String.ofList (part.takeWhile (· ≠ '=')), String.ofList value)

/-- One part of the header. mirrors dispatcher.go:355-363 -/
def readPart (acc : String × String) (part : List Char) : String × String :=
  match cutEquals part with
  | none => acc
  | some (key, value) =>
    if trimSpace key = "t" then (trimSpace value, acc.2)
    else if trimSpace key = "v1" then (acc.1, trimSpace value)
    else acc

/-- The timestamp and the signature. mirrors dispatcher.go:352-364 -/
def parseSignatureHeader (header : String) : String × String :=
  (header.toList.splitOn ',').foldl readPart ("", "")

def fieldsOf (parts : List (List Char)) : List (String × String) :=
  (parts.filterMap cutEquals).map fun kv => (trimSpace kv.1, trimSpace kv.2)

def lastIn (name : String) (fields : List (String × String)) : Option String :=
  ((fields.filter fun kv => kv.1 = name).getLast?).map (·.2)

def lastField (header name : String) : String :=
  (lastIn name (fieldsOf (header.toList.splitOn ','))).getD ""

theorem lastIn_cons (name : String) (kv : String × String) (fields : List (String × String)) (value : String) :
    (lastIn name (kv :: fields)).getD value = (lastIn name fields).getD (if kv.1 = name then kv.2 else value) := by
  unfold lastIn
  by_cases hname : kv.1 = name
  · rw [List.filter_cons_of_pos (by simpa using hname), List.getLast?_cons, if_pos hname]
    cases (fields.filter fun kv => kv.1 = name).getLast? with
    | none => rfl
    | some last => rfl
  · rw [List.filter_cons_of_neg (by simpa using hname), if_neg hname]

theorem foldl_readPart (parts : List (List Char)) (acc : String × String) :
    parts.foldl readPart acc =
      ((lastIn "t" (fieldsOf parts)).getD acc.1, (lastIn "v1" (fieldsOf parts)).getD acc.2) := by
  induction parts generalizing acc with
  | nil => rfl
  | cons part parts ih =>
    rw [List.foldl_cons, ih]
    unfold readPart fieldsOf
    cases hcut : cutEquals part with
    | none => rw [List.filterMap_cons_none hcut]
    | some kv =>
      rw [List.filterMap_cons_some hcut, List.map_cons, lastIn_cons, lastIn_cons]
      dsimp only
      by_cases ht : trimSpace kv.1 = "t"
      · have hv : trimSpace kv.1 ≠ "v1" := by
          rw [ht]
          decide
        rw [if_pos ht, if_pos ht, if_neg hv]
      · by_cases hv : trimSpace kv.1 = "v1"
        · rw [if_neg ht, if_neg ht, if_pos hv, if_pos hv]
        · rw [if_neg ht, if_neg ht, if_neg hv, if_neg hv]

theorem parseSignatureHeader_eq (header : String) :
    parseSignatureHeader header = (lastField header "t", lastField header "v1") := foldl_readPart _ _

/-! ## Signing and verifying -/

/-- `hex.EncodeToString`. -/
def hexEncode (bs : List UInt8) : String :=
  String.ofList (bs.flatMap fun b => [JsonText.hexDigit (b.toNat / 16), JsonText.hexDigit (b.toNat % 16)])

/-- `tolerance.Seconds()` of a duration that is not negative. -/
def durationSeconds (d : ℕ) : ℚ :=
  float64 (float64 (d / 1000000000 : ℕ) + float64 (float64 (d % 1000000000 : ℕ) / 1000000000))

/-- Outside the tolerance, in 64 bits. mirrors dispatcher.go:376-382 -/
def stale (now ts tolerance : Int64) : Bool :=
  let diff := now - ts
  let diff := if diff < 0 then -diff else diff
  Int64.ofInt ⌊durationSeconds tolerance.toInt.toNat⌋ < diff

section Signing

-- HMAC-SHA256 of a key and a message
variable (hmacSHA256 : List UInt8 → List UInt8 → Vector UInt8 32)

/-- The hexadecimal HMAC of `timestamp.body`. -/
def signatureOf (payload secret : List UInt8) (timestamp : String) : String :=
  hexEncode (hmacSHA256 secret (utf8 timestamp.toList ++ utf8 ['.'] ++ payload)).toList

/-- mirrors dispatcher.go:330-337 -/
def signPayload (payload secret : List UInt8) (timestamp : String) : String :=
  "t=" ++ timestamp ++ ",v1=" ++ signatureOf hmacSHA256 payload secret timestamp

/-- mirrors dispatcher.go:347-392 -/
def verifySignatureWithTolerance (now : Int64) (rawBody : List UInt8) (signatureHeader : String)
    (secret : List UInt8) (tolerance : Int64) : Bool :=
  if signatureHeader = "" ∨ secret = [] then false
  else
    let (timestamp, expectedSig) := parseSignatureHeader signatureHeader
    if timestamp = "" ∨ expectedSig = "" then false
    else
      match parseInt64 timestamp with
      | none => false
      | some n =>
        if 0 < tolerance ∧ stale now (Int64.ofInt n) tolerance = true then false
        else signatureOf hmacSHA256 rawBody secret timestamp = expectedSig

structure Genuine (rawBody : List UInt8) (header : String) (secret : List UInt8) (t : Int) : Prop where
  timestamp : lastField header "t" ≠ ""
  signature : lastField header "v1" ≠ ""
  parsed : parseInt64 (lastField header "t") = some t
  hmac : lastField header "v1" = signatureOf hmacSHA256 rawBody secret (lastField header "t")

variable {hmacSHA256}

theorem Genuine.unique {rawBody secret : List UInt8} {header : String} {t t' : Int}
    (h : Genuine hmacSHA256 rawBody header secret t) (h' : Genuine hmacSHA256 rawBody header secret t') : t = t' :=
  Option.some.inj (h.parsed.symm.trans h'.parsed)

theorem lastField_empty (name : String) : lastField "" name = "" := rfl

theorem verify_iff {now : Int64} {rawBody : List UInt8} {header : String} {secret : List UInt8} {tolerance : Int64}
    (hsecret : secret ≠ []) (htol : 0 < tolerance) :
    verifySignatureWithTolerance hmacSHA256 now rawBody header secret tolerance = true ↔
      ∃ t, Genuine hmacSHA256 rawBody header secret t ∧ stale now (Int64.ofInt t) tolerance = false := by
  unfold verifySignatureWithTolerance
  rw [parseSignatureHeader_eq]
  dsimp only
  constructor
  · intro h
    split at h
    · cases h
    split at h
    · cases h
    rename_i hne
    split at h
    · cases h
    rename_i t ht
    split at h
    · cases h
    rename_i hfresh
    have hstale : stale now (Int64.ofInt t) tolerance ≠ true := fun hs => hfresh ⟨htol, hs⟩
    exact ⟨t, ⟨fun h0 => hne (.inl h0), fun h0 => hne (.inr h0), ht, (of_decide_eq_true h).symm⟩,
      Bool.eq_false_iff.mpr hstale⟩
  · rintro ⟨t, hgen, hstale⟩
    have hheader : header ≠ "" := fun h0 => hgen.timestamp (h0 ▸ lastField_empty "t")
    rw [if_neg (not_or.mpr ⟨hheader, hsecret⟩), if_neg (not_or.mpr ⟨hgen.timestamp, hgen.signature⟩), hgen.parsed]
    dsimp only
    rw [if_neg (fun h => Bool.eq_false_iff.mp hstale h.2)]
    exact decide_eq_true hgen.hmac.symm

/-! ## What `SignPayload` writes -/

theorem hexDigit_plain : ∀ n < 16, JsonText.hexDigit n ≠ ',' ∧ isSpace (JsonText.hexDigit n) = false := by decide

theorem hexEncode_plain {bs : List UInt8} {c : Char} (h : c ∈ (hexEncode bs).toList) : c ≠ ',' ∧ isSpace c = false := by
  unfold hexEncode at h
  rw [String.toList_ofList, List.mem_flatMap] at h
  obtain ⟨b, -, hc⟩ := h
  have hb : b.toNat < 256 := b.toNat_lt
  simp only [List.mem_cons, List.not_mem_nil, or_false] at hc
  rcases hc with rfl | rfl
  · exact hexDigit_plain _ (by omega)
  · exact hexDigit_plain _ (by omega)

theorem signatureOf_ne_empty (payload secret : List UInt8) (timestamp : String) :
    signatureOf hmacSHA256 payload secret timestamp ≠ "" := by
  unfold signatureOf
  generalize hmacSHA256 secret (utf8 timestamp.toList ++ utf8 ['.'] ++ payload) = mac
  intro h
  have hlist := congrArg String.toList h
  have hlen : mac.toList.length = 32 := by simp
  obtain ⟨b, bs, hb⟩ := List.exists_cons_of_length_pos (l := mac.toList) (by omega)
  rw [hb] at hlist
  unfold hexEncode at hlist
  rw [String.toList_ofList] at hlist
  cases hlist

theorem cutEquals_append {key value : List Char} (h : ∀ c ∈ key, c ≠ '=') :
    cutEquals (key ++ '=' :: value) = some (String.ofList key, String.ofList value) := by
  have hpos : ∀ c ∈ key, (decide (c ≠ '=')) = true := fun c hc => decide_eq_true (h c hc)
  unfold cutEquals
  rw [List.dropWhile_append_of_pos hpos, List.takeWhile_append_of_pos hpos]
  simp

theorem formatInt_plain (n : Int) : ∀ c ∈ (formatInt n).toList, c ≠ ',' ∧ isSpace c = false := by
  have hdigits : ∀ c ∈ Nat.toDigits 10 n.natAbs, c ≠ ',' ∧ isSpace c = false := by
    intro c hc
    refine ⟨?_, digit_not_space hc⟩
    have hd := isDigit_of_mem_toDigits hc
    rintro rfl
    exact absurd hd (by decide)
  intro c hc
  unfold formatInt at hc
  split at hc
  · rw [String.toList_ofList, List.mem_cons] at hc
    rcases hc with rfl | hc
    · decide
    · exact hdigits c hc
  · rw [String.toList_ofList] at hc
    exact hdigits c hc

theorem lastField_signPayload (payload secret : List UInt8) {timestamp : String}
    (hplain : ∀ c ∈ timestamp.toList, c ≠ ',' ∧ isSpace c = false) :
    lastField (signPayload hmacSHA256 payload secret timestamp) "t" = timestamp ∧
      lastField (signPayload hmacSHA256 payload secret timestamp) "v1" =
        signatureOf hmacSHA256 payload secret timestamp := by
  have hsig : ∀ c ∈ (signatureOf hmacSHA256 payload secret timestamp).toList, c ≠ ',' ∧ isSpace c = false :=
    fun c hc => hexEncode_plain hc
  unfold lastField signPayload
  generalize signatureOf hmacSHA256 payload secret timestamp = sig at hsig ⊢
  have hlist : ("t=" ++ timestamp ++ ",v1=" ++ sig).toList =
      (['t'] ++ '=' :: timestamp.toList) ++ ',' :: (['v', '1'] ++ '=' :: sig.toList) := by
    simp
  have hsplit : ("t=" ++ timestamp ++ ",v1=" ++ sig).toList.splitOn ',' =
      [['t'] ++ '=' :: timestamp.toList, ['v', '1'] ++ '=' :: sig.toList] := by
    rw [hlist, List.splitOn_append_cons_self_of_not_mem, List.splitOn_eq_singleton]
    · intro hmem
      rcases List.mem_append.mp hmem with h | h
      · exact absurd h (by decide)
      · rcases List.mem_cons.mp h with h | h
        · exact absurd h (by decide)
        · exact (hsig _ h).1 rfl
    · intro hmem
      rcases List.mem_append.mp hmem with h | h
      · exact absurd h (by decide)
      · rcases List.mem_cons.mp h with h | h
        · exact absurd h (by decide)
        · exact (hplain _ h).1 rfl
  have hfields : fieldsOf [['t'] ++ '=' :: timestamp.toList, ['v', '1'] ++ '=' :: sig.toList] =
      [("t", timestamp), ("v1", sig)] := by
    have ht : ∀ c ∈ ['t'], c ≠ '=' := by simp
    have hv1 : ∀ c ∈ ['v', '1'], c ≠ '=' := by simp
    unfold fieldsOf
    rw [List.filterMap_cons_some (cutEquals_append ht), List.filterMap_cons_some (cutEquals_append hv1)]
    show [(trimSpace "t", trimSpace (String.ofList timestamp.toList)),
      (trimSpace "v1", trimSpace (String.ofList sig.toList))] = _
    rw [String.ofList_toList, String.ofList_toList, trimSpace_of_forall fun c hc => (hplain c hc).2,
      trimSpace_of_forall fun c hc => (hsig c hc).2]
    rfl
  rw [hsplit, hfields]
  exact ⟨rfl, rfl⟩

end Signing

end PerGo.L3.Webhook
