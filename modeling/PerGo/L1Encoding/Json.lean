import Mathlib.Data.List.Sort
import PerGo.L1Encoding.GoString
import PerGo.Core.Assoc

/-!
# JSON documents

`encoding/json` is modelled on document trees, not on bytes: `Json` is what a
byte string denotes. A number is a `Dec`, a decimal; for a `float64` it is the
shortest decimal that reads back to it, which is what `json.Marshal` writes, so
numbers pass through an encoding and a decoding unchanged.
-/
namespace PerGo.L1

/-- `(-1)^neg * mant * 10^exp`, the shortest decimal of a finite `float64` (or
an integer). -/
structure Dec where
  neg : Bool
  mant : Nat
  exp : Int
deriving DecidableEq

def Dec.ofInt (n : Int) : Dec := ⟨decide (n < 0), n.natAbs, 0⟩

inductive Json
  | null
  | bool (b : Bool)
  | num (n : Dec)
  | str (s : String)
  | arr (xs : List Json)
  | obj (kvs : List (String × Json))

mutual
def Json.decEq : (a b : Json) → Decidable (a = b)
  | .null, .null => isTrue rfl
  | .bool x, .bool y => decidable_of_iff (x = y) (by simp)
  | .num x, .num y => decidable_of_iff (x = y) (by simp)
  | .str x, .str y => decidable_of_iff (x = y) (by simp)
  | .arr xs, .arr ys => match Json.decEqArr xs ys with
    | isTrue h => isTrue (h ▸ rfl)
    | isFalse h => isFalse fun he => h (Json.arr.inj he)
  | .obj xs, .obj ys => match Json.decEqObj xs ys with
    | isTrue h => isTrue (h ▸ rfl)
    | isFalse h => isFalse fun he => h (Json.obj.inj he)
  | .null, .bool _ | .null, .num _ | .null, .str _ | .null, .arr _ | .null, .obj _
  | .bool _, .null | .bool _, .num _ | .bool _, .str _ | .bool _, .arr _ | .bool _, .obj _
  | .num _, .null | .num _, .bool _ | .num _, .str _ | .num _, .arr _ | .num _, .obj _
  | .str _, .null | .str _, .bool _ | .str _, .num _ | .str _, .arr _ | .str _, .obj _
  | .arr _, .null | .arr _, .bool _ | .arr _, .num _ | .arr _, .str _ | .arr _, .obj _
  | .obj _, .null | .obj _, .bool _ | .obj _, .num _ | .obj _, .str _ | .obj _, .arr _ =>
    isFalse (by simp)
def Json.decEqArr : (a b : List Json) → Decidable (a = b)
  | [], [] => isTrue rfl
  | [], _ :: _ | _ :: _, [] => isFalse (by simp)
  | x :: xs, y :: ys => match Json.decEq x y, Json.decEqArr xs ys with
    | isTrue h, isTrue h' => isTrue (h ▸ h' ▸ rfl)
    | isFalse h, _ => isFalse fun he => h (List.cons.inj he).1
    | _, isFalse h => isFalse fun he => h (List.cons.inj he).2
def Json.decEqObj : (a b : List (String × Json)) → Decidable (a = b)
  | [], [] => isTrue rfl
  | [], _ :: _ | _ :: _, [] => isFalse (by simp)
  | (k, x) :: xs, (l, y) :: ys => match instDecidableEqString k l, Json.decEq x y, Json.decEqObj xs ys with
    | isTrue hk, isTrue h, isTrue h' => isTrue (hk ▸ h ▸ h' ▸ rfl)
    | isFalse hk, _, _ => isFalse fun he => hk (Prod.mk.inj (List.cons.inj he).1).1
    | _, isFalse h, _ => isFalse fun he => h (Prod.mk.inj (List.cons.inj he).1).2
    | _, _, isFalse h => isFalse fun he => h (List.cons.inj he).2
end

instance : DecidableEq Json := Json.decEq

end PerGo.L1

/-!
## Documents read into maps

A JSON value read into `any` and written again: each number is read into a `float64` (`Json.read`), and
the keys of every object are written in order (`Json.sorted`). Two objects are written alike when they
hold the same at each key (`sorted_obj_eq_iff`).
-/
namespace PerGo.L1

open PerGo.Core

theorem lookup_cons_ite {α : Type} (k k' : String) (v : α) (m : List (String × α)) :
    ((k', v) :: m).lookup k = if k = k' then some v else m.lookup k := by
  rw [List.lookup_cons]
  by_cases h : k = k'
  · rw [if_pos h, h, beq_self_eq_true]
  · rw [if_neg h, beq_eq_false_iff_ne.mpr h]

namespace Json

section

variable (float64 : Dec → Dec)

mutual
def read : Json → Json
  | .num n => .num (float64 n)
  | .arr xs => .arr (readElements xs)
  | .obj kvs => .obj (readFields kvs)
  | .null => .null
  | .bool b => .bool b
  | .str s => .str s
def readElements : List Json → List Json
  | [] => []
  | x :: xs => x.read :: readElements xs
def readFields : List (String × Json) → List (String × Json)
  | [] => []
  | (k, x) :: kvs => (k, x.read) :: readFields kvs
end

end

mutual
def sorted : Json → Json
  | .arr xs => .arr (sortedElements xs)
  | .obj kvs => .obj ((sortedFields kvs).insertionSort fun a b => a.1 ≤ b.1)
  | .null => .null
  | .bool b => .bool b
  | .num n => .num n
  | .str s => .str s
def sortedElements : List Json → List Json
  | [] => []
  | x :: xs => x.sorted :: sortedElements xs
def sortedFields : List (String × Json) → List (String × Json)
  | [] => []
  | (k, x) :: kvs => (k, x.sorted) :: sortedFields kvs
end

theorem lookup_readFields (float64 : Dec → Dec) (kvs : List (String × Json)) (k : String) :
    (readFields float64 kvs).lookup k = (kvs.lookup k).map (read float64) := by
  induction kvs with
  | nil => rfl
  | cons kv kvs ih =>
    rw [readFields, List.lookup_cons, List.lookup_cons, ih]
    cases k == kv.1 <;> rfl

theorem readFields_keys (float64 : Dec → Dec) (kvs : List (String × Json)) :
    (readFields float64 kvs).map (·.1) = kvs.map (·.1) := by
  induction kvs with
  | nil => rfl
  | cons kv kvs ih => rw [readFields, List.map_cons, List.map_cons, ih]

theorem lookup_sortedFields (kvs : List (String × Json)) (k : String) :
    (sortedFields kvs).lookup k = (kvs.lookup k).map sorted := by
  induction kvs with
  | nil => rfl
  | cons kv kvs ih =>
    rw [sortedFields, List.lookup_cons, List.lookup_cons, ih]
    cases k == kv.1 <;> rfl

theorem sortedFields_keys (kvs : List (String × Json)) : (sortedFields kvs).map (·.1) = kvs.map (·.1) := by
  induction kvs with
  | nil => rfl
  | cons kv kvs ih => rw [sortedFields, List.map_cons, List.map_cons, ih]

/-- What is the same at each key is written in the same order. -/
theorem insertionSort_eq_of_lookup {xs ys : List (String × Json)} (hx : Assoc.Keyed xs) (hy : Assoc.Keyed ys) :
    (xs.insertionSort fun a b => a.1 ≤ b.1) = (ys.insertionSort fun a b => a.1 ≤ b.1) ↔
      ∀ k, xs.lookup k = ys.lookup k := by
  have hsorted : ∀ zs : List (String × Json), (zs.insertionSort fun a b => a.1 ≤ b.1).Perm zs :=
    fun zs => List.perm_insertionSort _ zs
  constructor
  · intro heq k
    have hperm : xs.Perm ys := (hsorted xs).symm.trans (heq ▸ hsorted ys)
    ext v
    rw [Assoc.lookup_eq_some_iff hx, Assoc.lookup_eq_some_iff hy, hperm.mem_iff]
  · intro hsame
    have hperm : xs.Perm ys := by
      refine (List.perm_ext_iff_of_nodup (hx.of_map _) (hy.of_map _)).mpr ?_
      rintro ⟨k, v⟩
      rw [← Assoc.lookup_eq_some_iff hx, ← Assoc.lookup_eq_some_iff hy, hsame]
    refine ((hsorted xs).trans (hperm.trans (hsorted ys).symm)).eq_of_pairwise ?_
      (List.pairwise_insertionSort _ xs) (List.pairwise_insertionSort _ ys)
    intro a b ha hb hab hba
    have hkey : a.1 = b.1 := String.le_antisymm hab hba
    have ha' := (Assoc.lookup_eq_some_iff hx).mpr ((hsorted xs).mem_iff.mp ha)
    have hb' := (Assoc.lookup_eq_some_iff hy).mpr ((hsorted ys).mem_iff.mp hb)
    rw [hkey, hsame, hb'] at ha'
    exact Prod.ext hkey (Option.some.inj ha').symm

theorem sorted_obj_eq_iff {xs ys : List (String × Json)} (hx : Assoc.Keyed xs) (hy : Assoc.Keyed ys) :
    sorted (.obj xs) = sorted (.obj ys) ↔ ∀ k, (xs.lookup k).map sorted = (ys.lookup k).map sorted := by
  have hx' : Assoc.Keyed (sortedFields xs) := by
    rw [Assoc.Keyed, sortedFields_keys]
    exact hx
  have hy' : Assoc.Keyed (sortedFields ys) := by
    rw [Assoc.Keyed, sortedFields_keys]
    exact hy
  rw [sorted, sorted, Json.obj.injEq, insertionSort_eq_of_lookup hx' hy']
  simp only [lookup_sortedFields]

theorem sorted_obj_eq_iff_of_keys (ks : List String) {xs ys : List (String × Json)} (hx : Assoc.Keyed xs) (hy : Assoc.Keyed ys)
    (hoff : ∀ k ∉ ks, xs.lookup k = ys.lookup k) :
    sorted (.obj xs) = sorted (.obj ys) ↔ ∀ k ∈ ks, (xs.lookup k).map sorted = (ys.lookup k).map sorted := by
  rw [sorted_obj_eq_iff hx hy]
  refine ⟨fun h k _ => h k, fun h k => ?_⟩
  by_cases hk : k ∈ ks
  · exact h k hk
  · rw [hoff k hk]

end Json

end PerGo.L1
