import Mathlib.Data.List.Basic
import Mathlib.Tactic.Ring

/-!
# Numbers in byte strings

* `leNat`, `beNat`: the number that the bytes of a field write, the smallest or the largest place first.
* `leBytes`: a number in a field of so many bytes; what does not fit is dropped.
* `indexOf`: `bytes.Index`.

Results: `leNat_leBytes` (a field is read back), `indexOf_some` (what is found is there).
-/
namespace PerGo.L1

/-! ## Fields -/

def leNat : List UInt8 → Nat
  | [] => 0
  | b :: bs => b.toNat + 256 * leNat bs

def beNat (bs : List UInt8) : Nat := leNat bs.reverse

def leBytes : Nat → Nat → List UInt8
  | 0, _ => []
  | w + 1, n => UInt8.ofNat n :: leBytes w (n / 256)

def beBytes (w n : Nat) : List UInt8 := (leBytes w n).reverse

@[simp] theorem length_leBytes (w n : Nat) : (leBytes w n).length = w := by
  induction w generalizing n with
  | zero => rfl
  | succ w ih => rw [leBytes, List.length_cons, ih]

@[simp] theorem length_beBytes (w n : Nat) : (beBytes w n).length = w := by
  rw [beBytes, List.length_reverse, length_leBytes]

theorem leNat_lt (bs : List UInt8) : leNat bs < 256 ^ bs.length := by
  induction bs with
  | nil => decide
  | cons b bs ih =>
    have hb := b.toNat_lt
    rw [leNat, List.length_cons, pow_succ]
    omega

theorem leNat_div (k : Nat) (bs : List UInt8) : leNat bs / 256 ^ k = leNat (bs.drop k) := by
  induction k generalizing bs with
  | zero => rw [pow_zero, Nat.div_one, List.drop_zero]
  | succ k ih =>
    cases bs with
    | nil => exact Nat.zero_div _
    | cons b bs =>
      have hb := b.toNat_lt
      have htail : leNat (b :: bs) / 256 = leNat bs := by
        rw [leNat]
        omega
      rw [pow_succ', ← Nat.div_div_eq_div_mul, htail, ih, List.drop_succ_cons]

theorem leNat_leBytes (w n : Nat) : leNat (leBytes w n) = n % 256 ^ w := by
  induction w generalizing n with
  | zero => rw [pow_zero, Nat.mod_one]; rfl
  | succ w ih =>
    have hbyte : (UInt8.ofNat n).toNat = n % 256 := UInt8.toNat_ofNat'
    rw [leBytes, leNat, ih, hbyte, pow_succ', Nat.mod_mul]

theorem leNat_leBytes_of_lt {w n : Nat} (h : n < 256 ^ w) : leNat (leBytes w n) = n := by
  rw [leNat_leBytes, Nat.mod_eq_of_lt h]

/-! ## Text in bytes -/

def ascii (cs : List Char) : List UInt8 := cs.map fun c => UInt8.ofNat c.toNat

@[simp] theorem length_ascii (cs : List Char) : (ascii cs).length = cs.length := List.length_map _

/-! ## bytes.Index -/

def indexOf (sep : List UInt8) : List UInt8 → Option Nat
  | [] => if sep.isEmpty then some 0 else none
  | b :: bs => if sep.isPrefixOf (b :: bs) then some 0 else (indexOf sep bs).map (· + 1)

/-- `bytes.Contains`. -/
def contains (sep bs : List UInt8) : Bool := (indexOf sep bs).isSome

theorem indexOf_some {sep bs : List UInt8} {i : Nat} (h : indexOf sep bs = some i) :
    sep <+: bs.drop i ∧ i + sep.length ≤ bs.length := by
  induction bs generalizing i with
  | nil =>
    rw [indexOf] at h
    split at h
    · rename_i hempty
      obtain rfl := List.isEmpty_iff.mp hempty
      cases h
      exact ⟨List.nil_prefix, Nat.le_refl _⟩
    · cases h
  | cons b bs ih =>
    rw [indexOf] at h
    split at h
    · rename_i hprefix
      cases h
      have hpre := List.isPrefixOf_iff_prefix.mp hprefix
      exact ⟨hpre, by simpa using hpre.length_le⟩
    · obtain ⟨j, hj, rfl⟩ := Option.map_eq_some_iff.mp h
      obtain ⟨hpre, hle⟩ := ih hj
      refine ⟨hpre, ?_⟩
      rw [List.length_cons]
      omega

theorem indexOf_of_prefix {sep bs : List UInt8} (h : sep <+: bs) : indexOf sep bs = some 0 := by
  cases bs with
  | nil =>
    obtain rfl := List.prefix_nil.mp h
    rfl
  | cons b bs => rw [indexOf, if_pos (List.isPrefixOf_iff_prefix.mpr h)]

theorem contains_iff {sep bs : List UInt8} : contains sep bs = true ↔ sep <:+: bs := by
  unfold contains
  induction bs with
  | nil =>
    rw [indexOf, List.infix_nil]
    cases sep <;> simp
  | cons b bs ih =>
    rw [indexOf, List.infix_cons_iff]
    split
    · rename_i h
      exact iff_of_true rfl (.inl (List.isPrefixOf_iff_prefix.mp h))
    · rename_i h
      rw [Option.isSome_map, ih]
      exact (or_iff_right fun hpre => h (List.isPrefixOf_iff_prefix.mpr hpre)).symm

end PerGo.L1
