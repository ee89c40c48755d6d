import PerGo.L3Webhook.Signature

/-!
# The replay window of a signature

`VerifySignatureWithTolerance` subtracts the timestamp from the clock in 64 bits and negates the difference when it is
negative. A timestamp `2^63` seconds before the clock makes the difference the least number, which is its own
negation and not beyond any tolerance. The tolerance is a `float64` count of seconds cut to a whole number, which
from `2^24` seconds on may be the next one.

* `Exact`: the age of a timestamp is none of those.
* `signature_window_iff`: a request is accepted exactly within the tolerance where the age of a genuine timestamp is
  exact; and what `SignPayload` signs within the tolerance is accepted.
* `ancient_accepted`: a timestamp of `2^63` seconds ago is accepted.
-/
namespace PerGo.L4.SignatureWindow

open PerGo.L1 PerGo.L3.Webhook

/-- The distance of a timestamp from the clock. -/
def age (now : Int64) (t : Int) : Int := |now.toInt - t|

def wholeSeconds (tolerance : Int64) : Int := tolerance.toInt / 1000000000

def readSeconds (tolerance : Int64) : Int := ⌊durationSeconds tolerance.toInt.toNat⌋

/-- The 64 bits give the age, and `float64` the whole seconds, as far as the comparison goes. -/
structure Exact (now : Int64) (t : Int) (tolerance : Int64) : Prop where
  least : age now t ≠ 2 ^ 63
  wrapped : age now t + readSeconds tolerance < 2 ^ 64
  rounded : readSeconds tolerance = wholeSeconds tolerance ∨ age now t ≠ wholeSeconds tolerance + 1

/-! ## Seconds -/

theorem durationSeconds_between {d : ℕ} (h : d < 2 ^ 63) :
    ((d / 1000000000 : ℕ) : ℚ) ≤ durationSeconds d ∧ durationSeconds d ≤ ((d / 1000000000 : ℕ) : ℚ) + 1 := by
  unfold durationSeconds
  have hsec : d / 1000000000 < 2 ^ 53 - 1 := by omega
  have hnsec : d % 1000000000 < 1000000000 := Nat.mod_lt _ (by decide)
  rw [float64_natCast (by omega), float64_natCast (n := d % 1000000000) (by omega)]
  generalize d / 1000000000 = sec at hsec ⊢
  generalize d % 1000000000 = nsec at hnsec ⊢
  have hnsecQ : (nsec : ℚ) < 1000000000 := by exact_mod_cast hnsec
  have hfrac : 0 ≤ (nsec : ℚ) / 1000000000 := by positivity
  have hfrac1 : (nsec : ℚ) / 1000000000 ≤ 1 := by
    rw [div_le_one (by norm_num)]
    exact hnsecQ.le
  obtain ⟨h0, h1⟩ := float64_between (a := 0) (b := 1) hfrac (by linarith) (by simpa using hfrac) (by simpa using hfrac1)
  generalize float64 ((nsec : ℚ) / 1000000000) = f at h0 h1
  push_cast at h0 h1
  have hsecQ : (sec : ℚ) + 1 < 2 ^ 53 := by
    have : sec + 1 < 2 ^ 53 := by omega
    exact_mod_cast this
  have hpos : (0 : ℚ) ≤ sec := Nat.cast_nonneg sec
  obtain ⟨hlow, hhigh⟩ := float64_between (a := sec) (b := sec + 1) (q := sec + f) (by linarith) (by linarith)
    (by push_cast; linarith) (by push_cast; linarith)
  push_cast at hlow hhigh
  exact ⟨hlow, hhigh⟩

theorem readSeconds_mem {tolerance : Int64} (htol : 0 < tolerance) :
    0 ≤ wholeSeconds tolerance ∧ wholeSeconds tolerance ≤ 9223372036 ∧
      (readSeconds tolerance = wholeSeconds tolerance ∨ readSeconds tolerance = wholeSeconds tolerance + 1) := by
  have hpos : 0 < tolerance.toInt := Int64.lt_iff_toInt_lt.mp htol
  have hlt := tolerance.toInt_lt
  have hd : tolerance.toInt.toNat < 2 ^ 63 := by omega
  obtain ⟨hlow, hhigh⟩ := durationSeconds_between hd
  have hwhole : wholeSeconds tolerance = ((tolerance.toInt.toNat / 1000000000 : ℕ) : ℤ) := by
    unfold wholeSeconds
    omega
  have hge : ((tolerance.toInt.toNat / 1000000000 : ℕ) : ℤ) ≤ readSeconds tolerance := Int.le_floor.mpr (by exact_mod_cast hlow)
  have hle : readSeconds tolerance ≤ ((tolerance.toInt.toNat / 1000000000 : ℕ) : ℤ) + 1 := by
    have hf : (readSeconds tolerance : ℚ) ≤ durationSeconds tolerance.toInt.toNat := Int.floor_le _
    have hq : (readSeconds tolerance : ℚ) ≤ ((tolerance.toInt.toNat / 1000000000 : ℕ) : ℚ) + 1 := hf.trans hhigh
    have hz : (readSeconds tolerance : ℚ) ≤ (((tolerance.toInt.toNat / 1000000000 : ℕ) : ℤ) + 1 : ℤ) := by
      push_cast
      exact hq
    exact Int.cast_le.mp hz
  refine ⟨?_, ?_, ?_⟩
  · omega
  · unfold wholeSeconds
    omega
  · omega

/-! ## The comparison in 64 bits -/

/-- The sign taken off a difference that was wrapped, and what that is. -/
def absWrapped (d : Int) : Int := if d.bmod (2 ^ 64) < 0 then (-d.bmod (2 ^ 64)).bmod (2 ^ 64) else d.bmod (2 ^ 64)

theorem absWrapped_le_iff {d T : Int} (hd : -2 ^ 64 < d ∧ d < 2 ^ 64) (hT : 0 ≤ T ∧ T < 2 ^ 63) :
    absWrapped d ≤ T ↔ |d| ≤ T ∨ |d| = 2 ^ 63 ∨ 2 ^ 64 ≤ |d| + T := by
  unfold absWrapped
  have hwrap : d.bmod (2 ^ 64) = if d < -2 ^ 63 then d + 2 ^ 64 else if d < 2 ^ 63 then d else d - 2 ^ 64 := by
    rw [Int.bmod_eq_emod]
    split <;> split <;> omega
  have hneg : ∀ e : Int, -2 ^ 63 ≤ e → e < 0 → (-e).bmod (2 ^ 64) = if e = -2 ^ 63 then e else -e := by
    intro e hlow hhigh
    rw [Int.bmod_eq_emod]
    split <;> split <;> omega
  generalize d.bmod (2 ^ 64) = e at hwrap
  by_cases he : e < 0
  · rw [if_pos he, hneg e (by split at hwrap <;> omega) he]
    rcases abs_cases d with ⟨ha, hs⟩ | ⟨ha, hs⟩ <;> rw [ha] <;> split <;> split at hwrap <;> omega
  · rw [if_neg he]
    rcases abs_cases d with ⟨ha, hs⟩ | ⟨ha, hs⟩ <;> rw [ha] <;> split at hwrap <;> omega

theorem stale_eq_false_iff {now : Int64} {t : Int} {tolerance : Int64} (ht : -2 ^ 63 ≤ t ∧ t < 2 ^ 63)
    (htol : 0 < tolerance) :
    stale now (Int64.ofInt t) tolerance = false ↔
      age now t ≤ readSeconds tolerance ∨ age now t = 2 ^ 63 ∨ 2 ^ 64 ≤ age now t + readSeconds tolerance := by
  obtain ⟨hT0, hT1, hT⟩ := readSeconds_mem htol
  have hread : (Int64.ofInt (readSeconds tolerance)).toInt = readSeconds tolerance :=
    Int64.toInt_ofInt_of_le (by omega) (by omega)
  have hts : (Int64.ofInt t).toInt = t := Int64.toInt_ofInt_of_le ht.1 ht.2
  have hnow := now.toInt_lt
  have hnow' := now.le_toInt
  have hdiff : (now - Int64.ofInt t).toInt = (now.toInt - t).bmod (2 ^ 64) := by rw [Int64.toInt_sub, hts]
  have habs : (if now - Int64.ofInt t < 0 then -(now - Int64.ofInt t) else now - Int64.ofInt t).toInt =
      absWrapped (now.toInt - t) := by
    unfold absWrapped
    rw [apply_ite Int64.toInt, Int64.toInt_neg, hdiff]
    refine if_congr ?_ rfl rfl
    rw [Int64.lt_iff_toInt_lt, hdiff]
    rfl
  unfold stale
  dsimp only
  show decide (Int64.ofInt (readSeconds tolerance) < _) = false ↔ _
  rw [decide_eq_false_iff_not, Int64.lt_iff_toInt_lt, hread, habs, not_lt]
  exact absWrapped_le_iff (by omega) (by omega)

theorem fresh_agrees_iff {now : Int64} {t : Int} {tolerance : Int64} (ht : -2 ^ 63 ≤ t ∧ t < 2 ^ 63)
    (htol : 0 < tolerance) :
    (stale now (Int64.ofInt t) tolerance = false ↔ age now t ≤ wholeSeconds tolerance) ↔ Exact now t tolerance := by
  obtain ⟨hT0, hT1, hT⟩ := readSeconds_mem htol
  rw [stale_eq_false_iff ht htol]
  have hexact : Exact now t tolerance ↔ age now t ≠ 2 ^ 63 ∧ age now t + readSeconds tolerance < 2 ^ 64 ∧
      (readSeconds tolerance = wholeSeconds tolerance ∨ age now t ≠ wholeSeconds tolerance + 1) :=
    ⟨fun h => ⟨h.least, h.wrapped, h.rounded⟩, fun h => ⟨h.1, h.2.1, h.2.2⟩⟩
  rw [hexact]
  omega

/-! ## The window -/

section Window

variable {hmacSHA256 : List UInt8 → List UInt8 → Vector UInt8 32}

variable (hmacSHA256) in
/-- The header is genuine and its timestamp within the tolerance. -/
def Acceptable (now : Int64) (rawBody : List UInt8) (header : String) (secret : List UInt8) (tolerance : Int64) : Prop :=
  ∃ t, Genuine hmacSHA256 rawBody header secret t ∧ age now t ≤ wholeSeconds tolerance

theorem genuine_signPayload {payload secret : List UInt8} {t : Int} (ht : -(2 ^ 63) ≤ t ∧ t < 2 ^ 63) :
    Genuine hmacSHA256 payload (signPayload hmacSHA256 payload secret (formatInt t)) secret t := by
  obtain ⟨htime, hsig⟩ := lastField_signPayload payload secret (formatInt_plain t)
  refine ⟨?_, ?_, ?_, ?_⟩
  · rw [htime]
    exact formatInt_ne_empty t
  · rw [hsig]
    exact signatureOf_ne_empty payload secret (formatInt t)
  · rw [htime]
    exact parseInt64_formatInt ht
  · rw [htime, hsig]

/-- Where the age of a genuine timestamp is exact, a request is accepted exactly when it is acceptable; what
`SignPayload` signed within the tolerance is accepted in any case. -/
theorem signature_window_iff (now : Int64) (rawBody : List UInt8) (header : String) {secret : List UInt8}
    {tolerance : Int64} (hsecret : secret ≠ []) (htol : 0 < tolerance) :
    ((verifySignatureWithTolerance hmacSHA256 now rawBody header secret tolerance = true ↔
        Acceptable hmacSHA256 now rawBody header secret tolerance) ↔
      ∀ t, Genuine hmacSHA256 rawBody header secret t → Exact now t tolerance) ∧
    ∀ t : Int, -(2 ^ 63) ≤ t ∧ t < 2 ^ 63 → age now t ≤ wholeSeconds tolerance →
      verifySignatureWithTolerance hmacSHA256 now rawBody (signPayload hmacSHA256 rawBody secret (formatInt t)) secret
        tolerance = true := by
  constructor
  · rw [verify_iff hsecret htol]
    unfold Acceptable
    constructor
    · intro h t hgen
      refine (fresh_agrees_iff (parseInt64_range hgen.parsed) htol).mp ⟨fun hstale => ?_, fun hage => ?_⟩
      · obtain ⟨t', hgen', hage⟩ := h.mp ⟨t, hgen, hstale⟩
        rwa [hgen.unique hgen']
      · obtain ⟨t', hgen', hstale⟩ := h.mpr ⟨t, hgen, hage⟩
        rwa [hgen.unique hgen']
    · intro h
      refine exists_congr fun t => and_congr_right fun hgen => ?_
      exact (fresh_agrees_iff (parseInt64_range hgen.parsed) htol).mpr (h t hgen)
  · intro t ht hage
    obtain ⟨-, -, hread⟩ := readSeconds_mem htol
    refine (verify_iff hsecret htol).mpr ⟨t, genuine_signPayload ht, (stale_eq_false_iff ht htol).mpr (.inl ?_)⟩
    omega

end Window

/-! ## A timestamp out of reach -/

section Sample

/-- HMAC-SHA256 with the key `secret` of `1700000000.{}` and of `-9223372035154775808.{}`. -/
def sampleHmac (secret message : List UInt8) : Vector UInt8 32 :=
  if secret = utf8 "secret".toList ∧ message = utf8 "1700000000.\x7b\x7d".toList then
    #v[184, 86, 155, 120, 121, 159, 249, 227, 203, 255, 15, 194, 214, 58, 51, 162, 181, 127, 50, 130, 171, 208, 124, 55, 174, 94, 142, 125, 121, 165, 241, 99]
  else
    #v[247, 145, 149, 224, 82, 191, 147, 4, 116, 212, 205, 226, 184, 55, 119, 243, 160, 77, 175, 140, 36, 67, 181, 14, 117, 114, 234, 112, 111, 208, 103, 158]

/-- 2023-11-14 22:13:20 UTC -/
def november : Int64 := 1700000000

def fiveMinutes : Int64 := 300000000000

theorem recent_accepted :
    verifySignatureWithTolerance sampleHmac november (utf8 "\x7b\x7d".toList)
      (signPayload sampleHmac (utf8 "\x7b\x7d".toList) (utf8 "secret".toList) (formatInt 1700000000))
      (utf8 "secret".toList) fiveMinutes = true :=
  (signature_window_iff november (utf8 "\x7b\x7d".toList) "" (by decide) (by decide)).2 1700000000 (by decide) (by decide)

/-- A body signed with a timestamp of `2^63` seconds ago is accepted. -/
theorem ancient_accepted :
    verifySignatureWithTolerance sampleHmac november (utf8 "\x7b\x7d".toList)
        (signPayload sampleHmac (utf8 "\x7b\x7d".toList) (utf8 "secret".toList) (formatInt (-9223372035154775808)))
        (utf8 "secret".toList) fiveMinutes = true ∧
      ¬ Acceptable sampleHmac november (utf8 "\x7b\x7d".toList)
        (signPayload sampleHmac (utf8 "\x7b\x7d".toList) (utf8 "secret".toList) (formatInt (-9223372035154775808)))
        (utf8 "secret".toList) fiveMinutes := by
  have hgen : Genuine sampleHmac (utf8 "\x7b\x7d".toList)
      (signPayload sampleHmac (utf8 "\x7b\x7d".toList) (utf8 "secret".toList) (formatInt (-9223372035154775808)))
      (utf8 "secret".toList) (-9223372035154775808) := genuine_signPayload (by decide)
  have hage : age november (-9223372035154775808) = 2 ^ 63 := by decide
  have hwhole : wholeSeconds fiveMinutes = 300 := by decide
  constructor
  · refine (verify_iff (by decide) (by decide)).mpr ⟨_, hgen, ?_⟩
    exact (stale_eq_false_iff (by decide) (by decide)).mpr (.inr (.inl hage))
  · rintro ⟨t, hgen', hle⟩
    rw [← hgen.unique hgen', hage, hwhole] at hle
    omega

end Sample

end PerGo.L4.SignatureWindow
