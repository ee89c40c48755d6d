import Mathlib.Data.List.Nodup
import Mathlib.Data.List.Permutation
import Mathlib.Logic.Function.Basic

/-!
# Association lists written key by key

`setKey m k v` is `m[k] = v` on a list that has each key once: the entry of `k` goes to the end.
`merge` writes all the entries of one list over another. `ranged pick l` is one of the orders in which
the entries of `l` can be gone through.

* `lookup_setKey`, `lookup_merge`: what is read after a write, and after all of them.
* `merge_eq_append`, `keyed_of_length_merge`: no write falls on another exactly when the keys differ.
* `exists_ranged`: every order is one of them.
-/
namespace PerGo.Core.Assoc

/-! ## Orders -/

section Ranged

variable {β γ : Type}

def ranged (pick : Nat) (l : List β) : List β := (l.permutations'[pick]?).getD l

theorem ranged_perm (pick : Nat) (l : List β) : (ranged pick l).Perm l := by
  unfold ranged
  cases h : l.permutations'[pick]? with
  | none => exact List.Perm.refl l
  | some l' => exact List.mem_permutations'.mp (List.mem_of_getElem? h)

theorem exists_ranged {l l' : List β} (h : l'.Perm l) : ∃ pick, ranged pick l = l' := by
  obtain ⟨pick, hpick⟩ := List.mem_iff_getElem?.mp (List.mem_permutations'.mpr h)
  exact ⟨pick, by rw [ranged, hpick, Option.getD_some]⟩

theorem ranged_map (pick : Nat) (f : β → γ) (l : List β) : ranged pick (l.map f) = (ranged pick l).map f := by
  rw [ranged, ranged, ← List.map_permutations', List.getElem?_map]
  cases l.permutations'[pick]? with
  | none => rfl
  | some l' => rfl

end Ranged

variable {κ α : Type}

def Keyed (m : List (κ × α)) : Prop := (m.map (·.1)).Nodup

/-! ## Writes -/

section Writes

variable [DecidableEq κ]

def setKey (m : List (κ × α)) (k : κ) (v : α) : List (κ × α) := m.filter (·.1 ≠ k) ++ [(k, v)]

def merge (dest src : List (κ × α)) : List (κ × α) := src.foldl (fun m kv => setKey m kv.1 kv.2) dest

theorem setKey_of_not_mem {m : List (κ × α)} {k : κ} (h : k ∉ m.map (·.1)) (v : α) :
    setKey m k v = m ++ [(k, v)] := by
  have hall : m.filter (fun kv => kv.1 ≠ k) = m := by
    rw [List.filter_eq_self]
    intro kv hkv
    have hne : kv.1 ≠ k := fun he => h (he ▸ List.mem_map_of_mem hkv)
    exact decide_eq_true hne
  rw [setKey, hall]

theorem length_setKey_of_mem {m : List (κ × α)} {k : κ} (h : k ∈ m.map (·.1)) (v : α) :
    (setKey m k v).length ≤ m.length := by
  obtain ⟨kv, hkv, hk⟩ := List.mem_map.mp h
  have hlost : (m.filter (fun kv => kv.1 ≠ k)).length < m.length :=
    List.length_filter_lt_length_iff_exists.mpr ⟨kv, hkv, by simp [hk]⟩
  rw [setKey, List.length_append, List.length_singleton]
  exact hlost

theorem length_merge_le (dest src : List (κ × α)) : (merge dest src).length ≤ dest.length + src.length := by
  induction src generalizing dest with
  | nil => exact Nat.le_refl _
  | cons kv src ih =>
    have hrest := ih (setKey dest kv.1 kv.2)
    have hset : (setKey dest kv.1 kv.2).length ≤ dest.length + 1 := by
      rw [setKey, List.length_append, List.length_singleton]
      exact Nat.succ_le_succ (List.length_filter_le _ _)
    calc (merge (setKey dest kv.1 kv.2) src).length
        ≤ (setKey dest kv.1 kv.2).length + src.length := hrest
      _ ≤ dest.length + (src.length + 1) := by omega

theorem merge_eq_append {src : List (κ × α)} (h : Keyed src) {dest : List (κ × α)}
    (hnew : ∀ kv ∈ src, kv.1 ∉ dest.map (·.1)) : merge dest src = dest ++ src := by
  induction src generalizing dest with
  | nil => exact (List.append_nil dest).symm
  | cons kv src ih =>
    obtain ⟨hfirst, hrest⟩ := List.nodup_cons.mp h
    have hset := setKey_of_not_mem (hnew kv List.mem_cons_self) kv.2
    have hnew' : ∀ kv' ∈ src, kv'.1 ∉ (dest ++ [kv]).map (·.1) := by
      intro kv' hkv' hmem
      rw [List.map_append, List.mem_append] at hmem
      rcases hmem with hmem | hmem
      · exact hnew kv' (List.mem_cons_of_mem _ hkv') hmem
      · have heq : kv'.1 = kv.1 := List.mem_singleton.mp hmem
        exact hfirst (List.mem_map.mpr ⟨kv', hkv', heq⟩)
    have hmerge := ih hrest hnew'
    rw [show merge dest (kv :: src) = merge (setKey dest kv.1 kv.2) src from rfl, hset, hmerge, List.append_assoc]
    rfl

/-- When no entry is lost, no two writes were to one key. -/
theorem keyed_of_length_merge {dest src : List (κ × α)}
    (h : dest.length + src.length ≤ (merge dest src).length) :
    Keyed src ∧ ∀ kv ∈ src, kv.1 ∉ dest.map (·.1) := by
  induction src generalizing dest with
  | nil => exact ⟨List.nodup_nil, fun _ hkv => by cases hkv⟩
  | cons kv src ih =>
    have hstep : merge dest (kv :: src) = merge (setKey dest kv.1 kv.2) src := rfl
    have hle := length_merge_le (setKey dest kv.1 kv.2) src
    rw [hstep, List.length_cons] at h
    by_cases hmem : kv.1 ∈ dest.map (·.1)
    · have hset := length_setKey_of_mem hmem kv.2
      omega
    · have hset : setKey dest kv.1 kv.2 = dest ++ [kv] := setKey_of_not_mem hmem kv.2
      rw [hset] at h
      have hlen : (dest ++ [kv]).length + src.length ≤ (merge (dest ++ [kv]) src).length := by
        rw [List.length_append, List.length_singleton]
        omega
      obtain ⟨hkeyed, hnew⟩ := ih hlen
      have hfirst : kv.1 ∉ src.map (·.1) := by
        intro hin
        obtain ⟨kv', hkv', heq⟩ := List.mem_map.mp hin
        have := hnew kv' hkv'
        simp [heq] at this
      refine ⟨List.nodup_cons.mpr ⟨hfirst, hkeyed⟩, ?_⟩
      intro kv' hkv'
      rcases List.mem_cons.mp hkv' with rfl | hkv'
      · exact hmem
      · have := hnew kv' hkv'
        simp only [List.map_append, List.mem_append, not_or] at this
        exact this.1

end Writes

/-! ## Lookups -/

section Lookups

variable [BEq κ] [LawfulBEq κ]

theorem lookup_eq_none_of_not_mem {m : List (κ × α)} {k : κ} (h : k ∉ m.map (·.1)) : m.lookup k = none := by
  rw [List.lookup_eq_none_iff]
  intro kv hkv
  have hne : k ≠ kv.1 := fun he => h (he ▸ List.mem_map_of_mem hkv)
  simpa using hne

theorem mem_of_lookup {m : List (κ × α)} {k : κ} {v : α} (h : m.lookup k = some v) : (k, v) ∈ m := by
  obtain ⟨before, after_, hsplit, -⟩ := List.lookup_eq_some_iff.mp h
  rw [hsplit]
  exact List.mem_append_right _ List.mem_cons_self

theorem lookup_eq_some_iff {m : List (κ × α)} (h : Keyed m) {k : κ} {v : α} : m.lookup k = some v ↔ (k, v) ∈ m := by
  refine ⟨mem_of_lookup, fun hmem => ?_⟩
  induction m with
  | nil => cases hmem
  | cons kv m ih =>
    obtain ⟨hnew, hrest⟩ := List.nodup_cons.mp h
    rw [List.lookup_cons]
    rcases List.mem_cons.mp hmem with rfl | hmem
    · simp
    · have hne : k ≠ kv.1 := by
        rintro rfl
        exact hnew (List.mem_map.mpr ⟨_, hmem, rfl⟩)
      have hbeq : (k == kv.1) = false := by simp [hne]
      rw [hbeq]
      exact ih hrest hmem

end Lookups

section Reads

variable [BEq κ] [LawfulBEq κ] [DecidableEq κ]

theorem lookup_filter_ne (m : List (κ × α)) (k k' : κ) :
    (m.filter fun kv => kv.1 ≠ k).lookup k' = if k' = k then none else m.lookup k' := by
  induction m with
  | nil => simp
  | cons kv m ih =>
    obtain ⟨k₀, v⟩ := kv
    by_cases hk₀ : k₀ = k
    · rw [List.filter_cons_of_neg (by simp [hk₀]), ih]
      by_cases hk : k' = k
      · rw [if_pos hk, if_pos hk]
      · have hne : (k' == k₀) = false := by simp [hk₀, hk]
        rw [if_neg hk, if_neg hk, List.lookup_cons, hne]
    · rw [List.filter_cons_of_pos (by simp [hk₀]), List.lookup_cons, List.lookup_cons, ih]
      by_cases hk : k' = k₀
      · have hne : k' ≠ k := by rw [hk]; exact hk₀
        rw [if_neg hne, if_neg hne]
      · have hne : (k' == k₀) = false := by simp [hk]
        rw [hne]

theorem lookup_setKey (m : List (κ × α)) (k k' : κ) (v : α) :
    (setKey m k v).lookup k' = if k' = k then some v else m.lookup k' := by
  rw [setKey, List.lookup_append, lookup_filter_ne, List.lookup_cons, List.lookup_nil]
  by_cases hk : k' = k
  · have heq : (k' == k) = true := by simp [hk]
    rw [if_pos hk, if_pos hk, heq, Option.none_or]
  · have hne : (k' == k) = false := by simp [hk]
    rw [if_neg hk, if_neg hk, hne, Option.or_none]

/-- The entries of `src` are on top. -/
theorem lookup_merge {src : List (κ × α)} (h : Keyed src) (dest : List (κ × α)) (k : κ) :
    (merge dest src).lookup k = (src.lookup k).or (dest.lookup k) := by
  induction src generalizing dest with
  | nil => rfl
  | cons kv src ih =>
    obtain ⟨hnew, hrest⟩ := List.nodup_cons.mp h
    have hstep : merge dest (kv :: src) = merge (setKey dest kv.1 kv.2) src := rfl
    rw [hstep, ih hrest, lookup_setKey, List.lookup_cons]
    by_cases hk : k = kv.1
    · have hbeq : (k == kv.1) = true := by simp [hk]
      rw [if_pos hk, hbeq, lookup_eq_none_of_not_mem (hk ▸ hnew), Option.none_or, Option.some_or]
    · have hbeq : (k == kv.1) = false := by simp [hk]
      rw [if_neg hk, hbeq]

end Reads

end PerGo.Core.Assoc

/-!
## Maps

A Go `map` as a partial function: `set` is `m[k] = v`, `del` is `delete(m, k)`,
and reading a key is application.
-/
namespace PerGo.Core

def GoMap (κ α : Type) : Type := κ → Option α

namespace GoMap

variable {κ α : Type}

def empty : GoMap κ α := fun _ => none

@[simp] theorem empty_apply (k : κ) : (empty : GoMap κ α) k = none := rfl

variable [DecidableEq κ]

def set (m : GoMap κ α) (k : κ) (v : α) : GoMap κ α := fun k' => if k' = k then some v else m k'

def del (m : GoMap κ α) (k : κ) : GoMap κ α := fun k' => if k' = k then none else m k'

@[simp] theorem set_self (m : GoMap κ α) (k : κ) (v : α) : m.set k v k = some v := if_pos rfl

theorem set_of_ne (m : GoMap κ α) {k k' : κ} (v : α) (h : k' ≠ k) : m.set k v k' = m k' := if_neg h

@[simp] theorem del_self (m : GoMap κ α) (k : κ) : m.del k k = none := if_pos rfl

theorem del_of_ne (m : GoMap κ α) {k k' : κ} (h : k' ≠ k) : m.del k k' = m k' := if_neg h

theorem set_eq_some {m : GoMap κ α} {k k' : κ} {v v' : α} (h : m.set k v k' = some v') :
    (k' = k ∧ v' = v) ∨ (k' ≠ k ∧ m k' = some v') := by
  unfold set at h
  split at h
  · rename_i hk
    cases h
    exact Or.inl ⟨hk, rfl⟩
  · rename_i hk
    exact Or.inr ⟨hk, h⟩

theorem del_eq_some {m : GoMap κ α} {k k' : κ} {v : α} (h : m.del k k' = some v) : k' ≠ k ∧ m k' = some v := by
  unfold del at h
  split at h
  · cases h
  · rename_i hk
    exact ⟨hk, h⟩

end GoMap

end PerGo.Core
