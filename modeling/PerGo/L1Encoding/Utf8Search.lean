import PerGo.L1Encoding.Bytes

/-!
# ASCII words in UTF-8

A word of ASCII characters stands in the bytes of a text exactly where it stands in its characters: the bytes of any
other character are 128 and more.

* `utf8_prefix_iff`: a text starts with the word.
* `lastIndex_utf8`: `strings.LastIndex` of the word is the number of bytes in front of its last place.
-/
namespace PerGo.L1

/-- `strings.LastIndex`. -/
def lastIndex (sep : List UInt8) : List UInt8 → Option Nat
  | [] => if sep = [] then some 0 else none
  | b :: bs => match lastIndex sep bs with
    | some i => some (i + 1)
    | none => if sep.isPrefixOf (b :: bs) then some 0 else none

/-- A text divides in front of the last place where `p` holds of what follows. -/
def lastSplit (p : List Char → Bool) : List Char → Option (List Char × List Char)
  | [] => none
  | c :: s => match lastSplit p s with
    | some ab => some (c :: ab.1, ab.2)
    | none => if p (c :: s) then some ([], c :: s) else none

theorem lastSplit_none {p : List Char → Bool} {s : List Char} (h : lastSplit p s = none) :
    ∀ t, t <:+ s → t ≠ [] → p t = false := by
  induction s with
  | nil =>
    intro t ht hne
    exact absurd (List.suffix_nil.mp ht) hne
  | cons c s ih =>
    rw [lastSplit] at h
    split at h
    · cases h
    · rename_i hrest
      split at h
      · cases h
      · rename_i hp
        intro t ht hne
        rcases List.suffix_cons_iff.mp ht with rfl | ht
        · rwa [Bool.not_eq_true] at hp
        · exact ih hrest t ht hne

/-- The place that is found, and that there is none behind it. -/
theorem lastSplit_some {p : List Char → Bool} {s a b : List Char} (h : lastSplit p s = some (a, b)) :
    s = a ++ b ∧ p b = true ∧ ∀ t, t <:+ s → t ≠ [] → p t = true → b.length ≤ t.length := by
  induction s generalizing a with
  | nil => cases h
  | cons c s ih =>
    rw [lastSplit] at h
    split at h
    · rename_i ab hab
      cases h
      obtain ⟨hs, hb, hlast⟩ := ih hab
      refine ⟨congrArg (c :: ·) hs, hb, fun t ht hne hp => ?_⟩
      rcases List.suffix_cons_iff.mp ht with rfl | ht
      · have hlength := congrArg List.length hs
        rw [List.length_append] at hlength
        rw [List.length_cons]
        omega
      · exact hlast t ht hne hp
    · rename_i hrest
      split at h
      · rename_i hp
        cases h
        refine ⟨rfl, hp, fun t ht hne ht' => ?_⟩
        rcases List.suffix_cons_iff.mp ht with rfl | ht
        · exact Nat.le_refl _
        · rw [lastSplit_none hrest t ht hne] at ht'
          cases ht'
      · cases h

/-! ## Bytes of a character -/

theorem utf8_ascii {c : Char} (h : c.toNat < 128) : String.utf8EncodeChar c = [UInt8.ofNat c.toNat] := by
  have hval : c.val.toNat ≤ 127 := Nat.le_of_lt_succ h
  have hsize : c.utf8Size = 1 := Char.utf8Size_eq_one_iff.mpr hval
  rw [String.utf8EncodeChar_eq_singleton hsize]
  rfl

theorem byte_high {c : Char} (h : ¬ c.toNat < 128) : ∀ b ∈ String.utf8EncodeChar c, 128 ≤ b.toNat := by
  have hor : ∀ (x y : UInt8), 128 ≤ y.toNat → 128 ≤ (x ||| y).toNat := by
    intro x y hy
    exact Nat.le_trans hy (UInt8.le_iff_toNat_le.mp UInt8.right_le_or)
  have hsize : c.utf8Size ≠ 1 := by
    intro hone
    have hval : c.val.toNat ≤ 127 := Char.utf8Size_eq_one_iff.mp hone
    exact h (Nat.lt_succ_of_le hval)
  intro b hb
  rcases Char.utf8Size_eq c with h1 | h2 | h3 | h4
  · exact absurd h1 hsize
  · rw [String.utf8EncodeChar_eq_cons_cons h2] at hb
    simp only [List.mem_cons, List.not_mem_nil, or_false] at hb
    rcases hb with rfl | rfl <;> exact hor _ _ (by decide)
  · rw [String.utf8EncodeChar_eq_cons_cons_cons h3] at hb
    simp only [List.mem_cons, List.not_mem_nil, or_false] at hb
    rcases hb with rfl | rfl | rfl <;> exact hor _ _ (by decide)
  · rw [String.utf8EncodeChar_eq_cons_cons_cons_cons h4] at hb
    simp only [List.mem_cons, List.not_mem_nil, or_false] at hb
    rcases hb with rfl | rfl | rfl | rfl <;> exact hor _ _ (by decide)

/-! ## Where a word stands -/

section Word

variable {word : List Char} (hword : ∀ c ∈ word, c.toNat < 128)
include hword

theorem utf8_prefix_iff (s : List Char) : utf8 word <+: utf8 s ↔ word <+: s := by
  constructor
  · intro h
    induction word generalizing s with
    | nil => exact List.nil_prefix
    | cons c word ih =>
      have hc := hword c List.mem_cons_self
      rw [utf8_cons, utf8_ascii hc, List.singleton_append] at h
      cases s with
      | nil => exact absurd (List.prefix_nil.mp h) (by simp)
      | cons d s =>
        rw [utf8_cons] at h
        by_cases hd : d.toNat < 128
        · rw [utf8_ascii hd, List.singleton_append, List.cons_prefix_cons] at h
          have hbyte := congrArg UInt8.toNat h.1
          rw [UInt8.toNat_ofNat', UInt8.toNat_ofNat', Nat.mod_eq_of_lt (by omega), Nat.mod_eq_of_lt (by omega)] at hbyte
          have hsame : c = d := by rw [← Char.ofNat_toNat c, ← Char.ofNat_toNat d, hbyte]
          rw [hsame, List.cons_prefix_cons]
          exact ⟨rfl, ih (fun x hx => hword x (List.mem_cons_of_mem c hx)) s h.2⟩
        · obtain ⟨b, bs, hb⟩ := List.exists_cons_of_ne_nil (String.utf8EncodeChar_ne_nil (c := d))
          have hhigh := byte_high hd b (by rw [hb]; exact List.mem_cons_self)
          rw [hb, List.cons_append, List.cons_prefix_cons] at h
          have hbyte := congrArg UInt8.toNat h.1
          rw [UInt8.toNat_ofNat', Nat.mod_eq_of_lt (by omega)] at hbyte
          omega
  · rintro ⟨t, rfl⟩
    unfold utf8
    rw [List.flatMap_append]
    exact List.prefix_append _ _

variable (hne : word ≠ [])
include hne

/-- No byte of a character outside ASCII starts the word. -/
theorem lastIndex_high {bs : List UInt8} (hbs : ∀ b ∈ bs, 128 ≤ b.toNat) (rest : List UInt8) :
    lastIndex (utf8 word) (bs ++ rest) = (lastIndex (utf8 word) rest).map (· + bs.length) := by
  obtain ⟨c, more, rfl⟩ := List.exists_cons_of_ne_nil hne
  have hc := hword c List.mem_cons_self
  induction bs with
  | nil =>
    rw [List.nil_append]
    cases lastIndex (utf8 (c :: more)) rest <;> rfl
  | cons b bs ih =>
    have hhigh := hbs b List.mem_cons_self
    have hnot : ¬ (utf8 (c :: more)).isPrefixOf (b :: (bs ++ rest)) = true := by
      rw [List.isPrefixOf_iff_prefix, utf8_cons, utf8_ascii hc, List.singleton_append, List.cons_prefix_cons]
      rintro ⟨hbyte, -⟩
      have hvalue := congrArg UInt8.toNat hbyte
      rw [UInt8.toNat_ofNat', Nat.mod_eq_of_lt (by omega)] at hvalue
      omega
    rw [List.cons_append, lastIndex, ih fun x hx => hbs x (List.mem_cons_of_mem b hx), if_neg hnot]
    cases lastIndex (utf8 (c :: more)) rest with
    | none => rfl
    | some i => simp [Nat.add_assoc]

theorem lastIndex_utf8 (s : List Char) : lastIndex (utf8 word) (utf8 s) =
    (lastSplit (word.isPrefixOf ·) s).map fun ab => (utf8 ab.1).length := by
  have hwordNe : utf8 word ≠ [] := by
    obtain ⟨c, more, rfl⟩ := List.exists_cons_of_ne_nil hne
    rw [utf8_cons]
    exact List.append_ne_nil_of_left_ne_nil String.utf8EncodeChar_ne_nil _
  induction s with
  | nil =>
    change (if utf8 word = [] then some 0 else none) = none
    rw [if_neg hwordNe]
  | cons c s ih =>
    have hprefix : (utf8 word).isPrefixOf (utf8 (c :: s)) = word.isPrefixOf (c :: s) := by
      rw [Bool.eq_iff_iff, List.isPrefixOf_iff_prefix, List.isPrefixOf_iff_prefix]
      exact utf8_prefix_iff hword (c :: s)
    have hrest : ∃ b bs, String.utf8EncodeChar c = b :: bs ∧ ∀ x ∈ bs, 128 ≤ x.toNat := by
      by_cases hc : c.toNat < 128
      · exact ⟨_, [], utf8_ascii hc, by simp⟩
      · obtain ⟨b, bs, hb⟩ := List.exists_cons_of_ne_nil (String.utf8EncodeChar_ne_nil (c := c))
        exact ⟨b, bs, hb, fun x hx => byte_high hc x (by rw [hb]; exact List.mem_cons_of_mem b hx)⟩
    obtain ⟨b, bs, hb, hbs⟩ := hrest
    rw [utf8_cons, hb] at hprefix ⊢
    rw [List.cons_append] at hprefix ⊢
    rw [lastIndex, lastIndex_high hword hne hbs, hprefix, ih, lastSplit]
    cases lastSplit (word.isPrefixOf ·) s with
    | some ab =>
      simp only [Option.map_some]
      rw [utf8_cons, hb, List.length_append, List.length_cons]
      congr 1
      omega
    | none =>
      simp only [Option.map_none]
      split <;> rfl

end Word

end PerGo.L1
