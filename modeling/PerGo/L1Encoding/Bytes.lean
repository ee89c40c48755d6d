import PerGo.L1Encoding.GoString

/-!
# Byte strings

* UTF-8: `utf8` is `[]byte(s)`. `runes` reads a byte string the way `range` does: a byte that
  begins no character is U+FFFD.
* `base64.RawURLEncoding`: no padding; line breaks are skipped, and the bits that are left
  over at the end are not looked at.
-/
namespace PerGo.L1

/-! ## UTF-8 -/

def utf8 (s : List Char) : List UInt8 := s.flatMap String.utf8EncodeChar

def replacementChar : Char := Char.ofNat 0xFFFD

/-- The first `n` characters of a byte string. -/
def runesUpTo : Nat → List UInt8 → List Char
  | 0, _ => []
  | _ + 1, [] => []
  | n + 1, b :: bs => match (b :: bs).toByteArray.utf8DecodeChar? 0 with
    | some c => c :: runesUpTo n ((b :: bs).drop c.utf8Size)
    | none => replacementChar :: runesUpTo n bs

def runes (bs : List UInt8) : List Char := runesUpTo bs.length bs

theorem utf8_cons (c : Char) (s : List Char) : utf8 (c :: s) = String.utf8EncodeChar c ++ utf8 s := rfl

theorem runesUpTo_utf8 (s : List Char) : ∀ n, (utf8 s).length ≤ n → runesUpTo n (utf8 s) = s := by
  induction s with
  | nil =>
    intro n _
    cases n <;> rfl
  | cons c s ih =>
    intro n hn
    have hlen : (String.utf8EncodeChar c).length = c.utf8Size := String.length_utf8EncodeChar c
    have hpos := c.utf8Size_pos
    rw [utf8_cons, List.length_append] at hn
    obtain ⟨n, rfl⟩ : ∃ m, n = m + 1 := ⟨n - 1, by omega⟩
    have hrest : (utf8 s).length ≤ n := by omega
    obtain ⟨b, bs, hb⟩ := List.exists_cons_of_length_pos (l := String.utf8EncodeChar c) (by omega)
    have hdec : (String.utf8EncodeChar c ++ utf8 s).toByteArray.utf8DecodeChar? 0 = some c := by
      rw [List.toByteArray_append]
      exact ByteArray.utf8DecodeChar?_utf8EncodeChar_append
    rw [utf8_cons]
    rw [hb] at hdec hlen ⊢
    simp only [List.cons_append] at hdec ⊢
    rw [runesUpTo, hdec]
    simp only
    rw [← hlen, ← List.cons_append, List.drop_left, ih n hrest]

/-- Text that is written as bytes is read back. -/
theorem runes_utf8 (s : List Char) : runes (utf8 s) = s := runesUpTo_utf8 s _ (Nat.le_refl _)

/-! ## base64 -/

namespace Base64

def character (n : Nat) : Char :=
  if n < 26 then Char.ofNat (n + 65)
  else if n < 52 then Char.ofNat (n + 71)
  else if n < 62 then Char.ofNat (n - 4)
  else if n = 62 then '-' else '_'

def value (c : Char) : Option Nat :=
  if 'A' ≤ c ∧ c ≤ 'Z' then some (c.toNat - 65)
  else if 'a' ≤ c ∧ c ≤ 'z' then some (c.toNat - 71)
  else if '0' ≤ c ∧ c ≤ '9' then some (c.toNat + 4)
  else if c = '-' then some 62 else if c = '_' then some 63 else none

/-- Three bytes are four 6-bit values; what is left is filled up with zeros. -/
def sextets : List UInt8 → List Nat
  | a :: b :: c :: l => a.toNat / 4 :: (a.toNat % 4 * 16 + b.toNat / 16) :: (b.toNat % 16 * 4 + c.toNat / 64) ::
      c.toNat % 64 :: sextets l
  | [a, b] => [a.toNat / 4, a.toNat % 4 * 16 + b.toNat / 16, b.toNat % 16 * 4]
  | [a] => [a.toNat / 4, a.toNat % 4 * 16]
  | [] => []

/-- `none` when a single value is left. -/
def unpack : List Nat → Option (List UInt8)
  | w :: x :: y :: z :: l => (unpack l).map fun bs =>
      UInt8.ofNat (w * 4 + x / 16) :: UInt8.ofNat (x % 16 * 16 + y / 4) :: UInt8.ofNat (y % 4 * 64 + z) :: bs
  | [w, x, y] => some [UInt8.ofNat (w * 4 + x / 16), UInt8.ofNat (x % 16 * 16 + y / 4)]
  | [w, x] => some [UInt8.ofNat (w * 4 + x / 16)]
  | [_] => none
  | [] => some []

/-- `EncodeToString`. -/
def encode (bs : List UInt8) : List Char := (sextets bs).map character

/-- `DecodeString`. -/
def decode (s : List Char) : Option (List UInt8) :=
  ((s.filter fun c => c ≠ '\r' && c ≠ '\n').mapM value).bind unpack

theorem value_character : ∀ n < 64, value (character n) = some n := by decide

theorem character_plain : ∀ n < 64, character n ≠ '\r' ∧ character n ≠ '\n' ∧ character n ≠ '.' := by decide

theorem sextets_lt (bs : List UInt8) : ∀ n ∈ sextets bs, n < 64 := by
  fun_induction sextets bs with
  | case1 a b c l ih =>
    have ha := a.toNat_lt
    have hb := b.toNat_lt
    have hc := c.toNat_lt
    intro n hn
    simp only [List.mem_cons] at hn
    rcases hn with rfl | rfl | rfl | rfl | hn
    · omega
    · omega
    · omega
    · omega
    · exact ih n hn
  | case2 a b =>
    have ha := a.toNat_lt
    have hb := b.toNat_lt
    intro n hn
    simp only [List.mem_cons, List.not_mem_nil, or_false] at hn
    omega
  | case3 a =>
    have ha := a.toNat_lt
    intro n hn
    simp only [List.mem_cons, List.not_mem_nil, or_false] at hn
    omega
  | case4 => simp

theorem unpack_sextets (bs : List UInt8) : unpack (sextets bs) = some bs := by
  -- each byte is put together again from the parts of its value
  have hbyte : ∀ (b : UInt8) (n : Nat), n = b.toNat → UInt8.ofNat n = b := by
    intro b n hn
    rw [hn, UInt8.ofNat_toNat]
  fun_induction sextets bs with
  | case1 a b c l ih =>
    have ha := a.toNat_lt
    have hb := b.toNat_lt
    have hc := c.toNat_lt
    rw [unpack, ih, Option.map_some, hbyte a _ (by omega), hbyte b _ (by omega), hbyte c _ (by omega)]
  | case2 a b =>
    have ha := a.toNat_lt
    have hb := b.toNat_lt
    rw [unpack, hbyte a _ (by omega), hbyte b _ (by omega)]
  | case3 a =>
    have ha := a.toNat_lt
    rw [unpack, hbyte a _ (by omega)]
  | case4 => rfl

theorem mem_encode {bs : List UInt8} {c : Char} (h : c ∈ encode bs) : c ≠ '\r' ∧ c ≠ '\n' ∧ c ≠ '.' := by
  obtain ⟨n, hn, rfl⟩ := List.mem_map.mp h
  exact character_plain n (sextets_lt bs n hn)

theorem decode_encode (bs : List UInt8) : decode (encode bs) = some bs := by
  have hfilter : (encode bs).filter (fun c => c ≠ '\r' && c ≠ '\n') = encode bs := by
    rw [List.filter_eq_self]
    intro c hc
    simp [(mem_encode hc).1, (mem_encode hc).2.1]
  have hvalues : ∀ l : List Nat, (∀ n ∈ l, n < 64) → (l.map character).mapM value = some l := by
    intro l
    induction l with
    | nil =>
      intro _
      rfl
    | cons n l ih =>
      intro hl
      rw [List.map_cons, List.mapM_cons, value_character n (hl n List.mem_cons_self),
        ih fun m hm => hl m (List.mem_cons_of_mem n hm)]
      rfl
  unfold decode
  rw [hfilter]
  unfold encode
  rw [hvalues _ (sextets_lt bs)]
  exact unpack_sextets bs

/-! ### The standard alphabet, padded -/

def stdValue (c : Char) : Option Nat :=
  if c = '+' then some 62 else if c = '/' then some 63 else if c = '-' ∨ c = '_' then none else value c

/-- Four characters are three bytes, or fewer with padding, which must end the text. What is decoded before an error
stays. -/
def quanta : List Char → List UInt8 × Bool
  | [] => ([], true)
  | a :: b :: c :: d :: rest =>
    match stdValue a, stdValue b with
    | some w, some x => match stdValue c, stdValue d with
      | some y, some z =>
        let (bs, ok) := quanta rest
        (UInt8.ofNat (w * 4 + x / 16) :: UInt8.ofNat (x % 16 * 16 + y / 4) :: UInt8.ofNat (y % 4 * 64 + z) :: bs, ok)
      | some y, none =>
        if d = '=' then ([UInt8.ofNat (w * 4 + x / 16), UInt8.ofNat (x % 16 * 16 + y / 4)], rest.isEmpty) else ([], false)
      | none, _ => if c = '=' ∧ d = '=' then ([UInt8.ofNat (w * 4 + x / 16)], rest.isEmpty) else ([], false)
    | _, _ => ([], false)
  | _ => ([], false)

/-- `StdEncoding.DecodeString`: the bytes, and whether the text was well formed. -/
def decodeStd (s : String) : List UInt8 × Bool := quanta (s.toList.filter fun c => c ≠ '\r' && c ≠ '\n')

end Base64

end PerGo.L1
