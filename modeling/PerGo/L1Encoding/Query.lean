import PerGo.L1Encoding.Bytes
import PerGo.L1Encoding.JsonText

/-!
# Queries of addresses

`url.QueryEscape`, `url.QueryUnescape` and `url.ParseQuery`. A piece of a query that does not decode, or that has a
semicolon, is passed over.

* `unescape_escape`, `parse_write`: what is written is read back.
* `beforeQuery_append`, `rawQuery_append`: an address divides at its question mark.
-/
namespace PerGo.L1.Query

/-! ## One component -/

/-- The characters `QueryEscape` leaves. -/
def isUnreserved (b : UInt8) : Bool :=
  (97 ≤ b && b ≤ 122) || (65 ≤ b && b ≤ 90) || (48 ≤ b && b ≤ 57) || b = 45 || b = 95 || b = 46 || b = 126

def upperHex (n : Nat) : Char := if n < 10 then Char.ofNat (n + 48) else Char.ofNat (n + 55)

def escapeByte (b : UInt8) : List Char :=
  if isUnreserved b then [Char.ofNat b.toNat]
  else if b = 32 then ['+']
  else ['%', upperHex (b.toNat / 16), upperHex (b.toNat % 16)]

/-- `url.QueryEscape`. -/
def escape (bs : List UInt8) : List Char := bs.flatMap escapeByte

/-- `url.QueryUnescape`; `none` is an `EscapeError`. -/
def unescape : List Char → Option (List UInt8)
  | [] => some []
  | '%' :: a :: b :: rest => do
    let x ← JsonText.hexValue a
    let y ← JsonText.hexValue b
    return UInt8.ofNat (16 * x + y) :: (← unescape rest)
  | c :: rest =>
    if c = '%' then none
    else if c = '+' then (unescape rest).map (32 :: ·)
    else (unescape rest).map (String.utf8EncodeChar c ++ ·)

/-- A character that stands in an escaped component: no separator of a query, no quote, and none of HTML. -/
def isComponent (c : Char) : Bool :=
  c.isAlphanum || c = '-' || c = '_' || c = '.' || c = '~' || c = '%' || c = '+'

theorem unreserved_spec : ∀ n < 256, isUnreserved (UInt8.ofNat n) = true →
    Char.ofNat n ≠ '%' ∧ Char.ofNat n ≠ '+' ∧ isComponent (Char.ofNat n) = true ∧
      String.utf8EncodeChar (Char.ofNat n) = [UInt8.ofNat n] := by decide +kernel

theorem upperHex_spec : ∀ n < 16, JsonText.hexValue (upperHex n) = some n ∧ isComponent (upperHex n) = true := by decide

theorem unescape_cons {c : Char} (h : c ≠ '%') (rest : List Char) : unescape (c :: rest) =
    if c = '+' then (unescape rest).map (32 :: ·) else (unescape rest).map (String.utf8EncodeChar c ++ ·) := by
  rw [unescape]
  · rw [if_neg h]
  · rintro _ _ _ rfl
    exact absurd rfl h

theorem unescape_escapeByte (b : UInt8) (rest : List Char) :
    unescape (escapeByte b ++ rest) = (unescape rest).map (b :: ·) := by
  have hb := b.toNat_lt
  unfold escapeByte
  split
  · rename_i hfree
    obtain ⟨hpercent, hplus, -, hbytes⟩ := unreserved_spec b.toNat hb (by rwa [UInt8.ofNat_toNat])
    rw [List.singleton_append, unescape_cons hpercent, if_neg hplus, hbytes, UInt8.ofNat_toNat]
    rfl
  · split
    · rename_i hspace
      rw [List.singleton_append, unescape_cons (by decide), if_pos rfl, hspace]
    · have hhigh := (upperHex_spec (b.toNat / 16) (by omega)).1
      have hlow := (upperHex_spec (b.toNat % 16) (by omega)).1
      have hvalue : 16 * (b.toNat / 16) + b.toNat % 16 = b.toNat := by omega
      simp only [List.cons_append, List.nil_append, unescape, hhigh, hlow, Option.bind_eq_bind, Option.bind_some, hvalue,
        UInt8.ofNat_toNat]
      cases unescape rest <;> rfl

theorem isComponent_escapeByte (b : UInt8) : ∀ c ∈ escapeByte b, isComponent c = true := by
  have hb := b.toNat_lt
  unfold escapeByte
  split
  · rename_i hfree
    have hspec := (unreserved_spec b.toNat hb (by rwa [UInt8.ofNat_toNat])).2.2.1
    simpa using hspec
  · split
    · simp [isComponent]
    · have hhigh := (upperHex_spec (b.toNat / 16) (by omega)).2
      have hlow := (upperHex_spec (b.toNat % 16) (by omega)).2
      have hpercent : isComponent '%' = true := rfl
      simp [hhigh, hlow, hpercent]

theorem unescape_escape (bs : List UInt8) : unescape (escape bs) = some bs := by
  induction bs with
  | nil => rfl
  | cons b bs ih =>
    unfold escape at ih ⊢
    rw [List.flatMap_cons, unescape_escapeByte, ih]
    rfl

theorem isComponent_escape (bs : List UInt8) : ∀ c ∈ escape bs, isComponent c = true := by
  intro c hc
  obtain ⟨b, -, hb⟩ := List.mem_flatMap.mp hc
  exact isComponent_escapeByte b c hb

theorem length_escape (bs : List UInt8) : bs.length ≤ (escape bs).length := by
  induction bs with
  | nil => exact Nat.le_refl _
  | cons b bs ih =>
    have hone : 1 ≤ (escapeByte b).length := by
      unfold escapeByte
      repeat' split
      all_goals simp
    unfold escape at ih ⊢
    rw [List.flatMap_cons, List.length_append, List.length_cons]
    omega

theorem escape_utf8 {s : List Char} (h : ∀ c ∈ s, escape (String.utf8EncodeChar c) = [c]) : escape (utf8 s) = s := by
  induction s with
  | nil => rfl
  | cons c s ih =>
    have hone := h c List.mem_cons_self
    unfold escape at hone ih ⊢
    rw [utf8_cons, List.flatMap_append, hone, ih fun d hd => h d (List.mem_cons_of_mem c hd)]
    rfl

/-! ## Queries -/

abbrev Values := List (List UInt8 × List UInt8)

def parsePair (piece : List Char) : Option (List UInt8 × List UInt8) :=
  if piece = [] ∨ ';' ∈ piece then none
  else do
    let key ← unescape (piece.takeWhile (· ≠ '='))
    let value ← unescape ((piece.dropWhile (· ≠ '=')).drop 1)
    return (key, value)

/-- `url.ParseQuery`. -/
def parse (query : List Char) : Values := (query.splitOn '&').filterMap parsePair

/-- `Values.Get`. -/
def get (values : Values) (key : List UInt8) : List UInt8 := (values.lookup key).getD []

def writePair (kv : List UInt8 × List UInt8) : List Char := escape kv.1 ++ '=' :: escape kv.2

def write (values : Values) : List Char := ['&'].intercalate (values.map writePair)

theorem component_ne {s : List Char} (hs : ∀ c ∈ s, isComponent c = true) {c : Char} (hc : isComponent c = false) :
    c ∉ s := by
  intro hmem
  rw [hs c hmem] at hc
  cases hc

theorem not_mem_writePair (kv : List UInt8 × List UInt8) {c : Char} (hc : isComponent c = false) (hne : c ≠ '=') :
    c ∉ writePair kv := by
  unfold writePair
  simp only [List.mem_append, List.mem_cons, not_or]
  exact ⟨component_ne (isComponent_escape kv.1) hc, hne, component_ne (isComponent_escape kv.2) hc⟩

theorem parsePair_writePair (kv : List UInt8 × List UInt8) : parsePair (writePair kv) = some kv := by
  have hne : ¬ (writePair kv = [] ∨ ';' ∈ writePair kv) := by
    rw [not_or]
    exact ⟨by simp [writePair], not_mem_writePair kv rfl (by decide)⟩
  have hkey : ∀ c ∈ escape kv.1, decide (c ≠ '=') = true := by
    intro c hc
    rw [decide_eq_true_eq]
    rintro rfl
    exact component_ne (isComponent_escape kv.1) rfl hc
  unfold parsePair
  rw [if_neg hne, writePair, List.takeWhile_append_of_pos hkey, List.dropWhile_append_of_pos hkey]
  simp [unescape_escape]

theorem parse_write (values : Values) : parse (write values) = values := by
  unfold parse write
  by_cases hempty : values = []
  · rw [hempty]
    rfl
  · have hplain : ∀ piece ∈ values.map writePair, '&' ∉ piece := by
      intro piece hpiece
      obtain ⟨kv, -, rfl⟩ := List.mem_map.mp hpiece
      exact not_mem_writePair kv rfl (by decide)
    rw [List.splitOn_intercalate '&' hplain (by simpa using hempty), List.filterMap_map]
    have hread : (parsePair ∘ writePair) = some := funext parsePair_writePair
    rw [hread, List.filterMap_some]

theorem mem_write {values : Values} {c : Char} (h : c ∈ write values) : isComponent c = true ∨ c = '=' ∨ c = '&' := by
  have hpair : ∀ kv : List UInt8 × List UInt8, c ∈ writePair kv → isComponent c = true ∨ c = '=' := by
    intro kv hc
    rcases List.mem_append.mp hc with hc | hc
    · exact .inl (isComponent_escape kv.1 c hc)
    · rcases List.mem_cons.mp hc with hc | hc
      · exact .inr hc
      · exact .inl (isComponent_escape kv.2 c hc)
  unfold write at h
  induction values with
  | nil => cases h
  | cons kv values ih =>
    cases values with
    | nil =>
      rw [List.map_singleton, List.intercalate_singleton] at h
      exact (hpair kv h).imp_right .inl
    | cons next values =>
      rw [List.map_cons, List.map_cons, List.intercalate_cons_cons, List.mem_append, List.mem_append,
        List.mem_singleton] at h
      rcases h with (h | h) | h
      · exact (hpair kv h).imp_right .inl
      · exact .inr (.inr h)
      · exact ih h

/-! ## Addresses -/

def beforeQuery (address : List Char) : List Char := address.takeWhile fun c => c ≠ '?' && c ≠ '#'

/-- `RawQuery`. -/
def rawQuery (address : List Char) : List Char := ((address.takeWhile (· ≠ '#')).dropWhile (· ≠ '?')).drop 1

theorem beforeQuery_plain (address : List Char) : '?' ∉ beforeQuery address ∧ '#' ∉ beforeQuery address := by
  have hall : ∀ c ∈ beforeQuery address, c ≠ '?' ∧ c ≠ '#' := by
    intro c hc
    simpa using List.mem_takeWhile_imp hc
  exact ⟨fun h => (hall _ h).1 rfl, fun h => (hall _ h).2 rfl⟩

theorem beforeQuery_append {place : List Char} (hmark : '?' ∉ place) (hhash : '#' ∉ place) (query : List Char) :
    beforeQuery (place ++ '?' :: query) = place := by
  have hall : ∀ c ∈ place, (c ≠ '?' && c ≠ '#') = true := by
    intro c hc
    have h1 : c ≠ '?' := fun h => hmark (h ▸ hc)
    have h2 : c ≠ '#' := fun h => hhash (h ▸ hc)
    simp [h1, h2]
  unfold beforeQuery
  rw [List.takeWhile_append_of_pos hall]
  simp

theorem rawQuery_append {place query : List Char} (hmark : '?' ∉ place) (hhash : '#' ∉ place) (hquery : '#' ∉ query) :
    rawQuery (place ++ '?' :: query) = query := by
  have hwhole : ∀ c ∈ place ++ '?' :: query, decide (c ≠ '#') = true := by
    intro c hc
    rw [decide_eq_true_eq]
    rintro rfl
    rcases List.mem_append.mp hc with hc | hc
    · exact hhash hc
    · rcases List.mem_cons.mp hc with hc | hc
      · exact absurd hc (by decide)
      · exact hquery hc
  have hplace : ∀ c ∈ place, decide (c ≠ '?') = true := by
    intro c hc
    rw [decide_eq_true_eq]
    rintro rfl
    exact hmark hc
  unfold rawQuery
  rw [List.takeWhile_eq_self_iff.mpr hwhole, List.dropWhile_append_of_pos hplace]
  simp

end PerGo.L1.Query
