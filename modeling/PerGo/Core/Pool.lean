import Mathlib.Algebra.GroupWithZero.Nat
import Mathlib.Data.List.Basic
import Mathlib.Data.List.Count
import Mathlib.Data.List.Perm.Subperm
import Mathlib.Tactic.Tauto

/-!
# Interleaved threads

A pool is the list of the threads that are running. A scheduler picks one of
them, which is swapped for what it becomes: one thread, or none when it is done;
the others stay, on either side (`split_at`). The other lemmas carry a property
of all threads, of some thread, a number of threads, or the distinctness of what
is stored and what the threads hold, over such a swap.
-/
namespace PerGo.Core

variable {τ : Type}

/-- The thread at position `i` and the others. -/
theorem split_at {pool : List τ} {i : Nat} {t : τ} (h : pool[i]? = some t) :
    pool = pool.take i ++ t :: pool.drop (i + 1) := by
  obtain ⟨hi, rfl⟩ := List.getElem?_eq_some_iff.mp h
  rw [← List.drop_eq_getElem_cons hi, List.take_append_drop]

theorem forall_swapped {P : τ → Prop} {before after : List τ} {t : τ} (hp : ∀ x ∈ before ++ t :: after, P x)
    {new : List τ} (hn : ∀ x ∈ new, P x) : ∀ x ∈ before ++ new ++ after, P x := by
  intro x hx
  simp only [List.mem_append] at hx
  rcases hx with (hx | hx) | hx
  · exact hp x (by simp [hx])
  · exact hn x hx
  · exact hp x (by simp [hx])

theorem mem_swapped {before after : List τ} {t x : τ} (hx : x ∈ before ++ t :: after) (new : List τ) :
    x = t ∨ x ∈ before ++ new ++ after := by
  simp only [List.mem_append, List.mem_cons] at hx ⊢
  rcases hx with hx | rfl | hx
  · exact Or.inr (Or.inl (Or.inl hx))
  · exact Or.inl rfl
  · exact Or.inr (Or.inr hx)

/-- The threads but the one at position `i`. -/
def others (pool : List τ) (i : Nat) : List τ := pool.take i ++ pool.drop (i + 1)

theorem mem_iff_others {pool : List τ} {i : Nat} {t : τ} (h : pool[i]? = some t) (x : τ) :
    x ∈ pool ↔ x ∈ others pool i ∨ x = t := by
  conv_lhs => rw [split_at h]
  simp only [others, List.mem_append, List.mem_cons]
  tauto

theorem mem_swapped_iff {pool : List τ} {i : Nat} {new : Option τ} (x : τ) :
    x ∈ pool.take i ++ new.toList ++ pool.drop (i + 1) ↔ x ∈ others pool i ∨ new = some x := by
  simp only [others, List.mem_append, Option.mem_toList]
  tauto

theorem pairwise_swapped {R : τ → τ → Prop} (hsymm : ∀ {x y}, R x y → R y x) {before after : List τ} {t : τ}
    (hp : (before ++ t :: after).Pairwise R) (new : Option τ) (hn : ∀ x ∈ new, ∀ y ∈ before ++ after, R x y) :
    (before ++ new.toList ++ after).Pairwise R := by
  have hrest : (before ++ after).Pairwise R :=
    hp.sublist ((List.sublist_cons_self t after).append_left before)
  cases new with
  | none => simpa using hrest
  | some x =>
    rw [Option.toList_some, List.append_assoc, List.singleton_append, List.pairwise_middle hsymm, List.pairwise_cons]
    exact ⟨hn x rfl, hrest⟩

theorem pairwise_others {R : τ → τ → Prop} (hsymm : ∀ {x y}, R x y → R y x) {pool : List τ} {i : Nat} {t : τ}
    (hp : pool.Pairwise R) (h : pool[i]? = some t) : ∀ y ∈ others pool i, R t y := by
  rw [split_at h, List.pairwise_middle hsymm, List.pairwise_cons] at hp
  exact hp.1

theorem countP_swapped (q : τ → Bool) (before after new : List τ) (t : τ) :
    (before ++ new ++ after).countP q + (if q t then 1 else 0) =
      (before ++ t :: after).countP q + new.countP q := by
  simp only [List.countP_append, List.countP_cons]
  omega

theorem countP_set_add (q : τ → Bool) {pool : List τ} {k : Nat} {t : τ} (h : pool[k]? = some t) (new : τ) :
    (pool.set k new).countP q + (if q t then 1 else 0) = pool.countP q + (if q new then 1 else 0) := by
  have hk : k < pool.length := (List.getElem?_eq_some_iff.mp h).1
  have hset : pool.set k new = pool.take k ++ [new] ++ pool.drop (k + 1) := by
    rw [List.set_eq_take_append_cons_drop, if_pos hk, List.append_assoc, List.singleton_append]
  have hswap := countP_swapped q (pool.take k) (pool.drop (k + 1)) [new] t
  rw [← split_at h, ← hset, List.countP_singleton] at hswap
  exact hswap

theorem countP_eraseIdx_add (q : τ → Bool) {pool : List τ} {k : Nat} {t : τ} (h : pool[k]? = some t) :
    (pool.eraseIdx k).countP q + (if q t then 1 else 0) = pool.countP q := by
  have hswap := countP_swapped q (pool.take k) (pool.drop (k + 1)) [] t
  rw [← split_at h, List.append_nil, ← List.eraseIdx_eq_take_drop_succ] at hswap
  simpa using hswap

theorem sum_map_set_add (f : τ → Nat) {pool : List τ} {k : Nat} {t : τ} (h : pool[k]? = some t) (new : τ) :
    ((pool.set k new).map f).sum + f t = (pool.map f).sum + f new := by
  have hk : k < pool.length := (List.getElem?_eq_some_iff.mp h).1
  have hset : pool.set k new = pool.take k ++ new :: pool.drop (k + 1) := by
    rw [List.set_eq_take_append_cons_drop, if_pos hk]
  rw [hset]
  conv_rhs => rw [split_at h]
  simp only [List.map_append, List.map_cons, List.sum_append, List.sum_cons]
  omega

/-- What all threads hold, when one is swapped. -/
theorem count_flatMap_set_add {ρ : Type} [DecidableEq ρ] (g : τ → List ρ) {pool : List τ} {k : Nat} {t : τ}
    (h : pool[k]? = some t) (new : τ) (a : ρ) :
    ((pool.set k new).flatMap g).count a + (g t).count a = (pool.flatMap g).count a + (g new).count a := by
  have hsum := sum_map_set_add (fun x => (g x).count a) h new
  simpa only [List.count_flatMap, Function.comp_def] using hsum

theorem mem_set_self {pool : List τ} {k : Nat} {t : τ} (h : pool[k]? = some t) (new : τ) : new ∈ pool.set k new :=
  List.mem_set (List.getElem?_eq_some_iff.mp h).1 new

theorem mem_set_of_ne {pool : List τ} {k : Nat} {t x : τ} (h : pool[k]? = some t) (hx : x ∈ pool) (hne : x ≠ t)
    (new : τ) : x ∈ pool.set k new := by
  obtain ⟨i, hi⟩ := List.getElem?_of_mem hx
  have hik : k ≠ i := by
    rintro rfl
    rw [h] at hi
    exact hne (Option.some.inj hi).symm
  rw [← List.getElem?_set_ne hik] at hi
  exact List.mem_of_getElem? hi

theorem map_set_of_eq {κ : Type} {c : τ → κ} {pool : List τ} {k : Nat} {t new : τ} (h : pool[k]? = some t)
    (hc : c new = c t) : (pool.set k new).map c = pool.map c := by
  have hk : k < pool.length := (List.getElem?_eq_some_iff.mp h).1
  apply List.ext_getElem?
  intro j
  rw [List.getElem?_map, List.getElem?_map]
  by_cases hkj : k = j
  · subst hkj
    rw [List.getElem?_set_self hk, h]
    exact congrArg some hc
  · rw [List.getElem?_set_ne hkj]

theorem map_modify_of_eq {κ : Type} {f : τ → τ} {c : τ → κ} (hc : ∀ x, c (f x) = c x) (rows : List τ) (i : Nat) :
    (rows.modify i f).map c = rows.map c := by
  apply List.ext_getElem?
  intro j
  rw [List.getElem?_map, List.getElem?_map]
  by_cases hij : i = j
  · subst hij
    rw [List.getElem?_modify_eq]
    cases rows[i]? with
    | none => rfl
    | some x => exact congrArg some (hc x)
  · rw [List.getElem?_modify_ne _ _ hij]

theorem split_append {log new pre post : List τ} {x : τ} (h : log ++ new = pre ++ x :: post) :
    (∃ mid, log = pre ++ x :: mid ∧ post = mid ++ new) ∨ x ∈ new := by
  rcases List.append_eq_append_iff.mp h with ⟨mid, -, hnew⟩ | ⟨mid, hlog, hpost⟩
  · exact Or.inr (by rw [hnew]; simp)
  · cases mid with
    | nil => exact Or.inr (by simp only [List.nil_append] at hpost; rw [← hpost]; simp)
    | cons y mid =>
      simp only [List.cons_append, List.cons.injEq] at hpost
      obtain ⟨rfl, rfl⟩ := hpost
      exact Or.inl ⟨mid, hlog, rfl⟩

/-! ## What is stored and what threads hold -/

section Held

variable {ρ κ : Type} {f : ρ → κ} {g : τ → List ρ} {before after : List τ} {t : τ}

theorem nodup_swapped {stored stored' : List ρ} {next : List τ}
    (hsub : (stored' ++ next.flatMap g).Subperm (stored ++ g t))
    (h : ((stored ++ (before ++ t :: after).flatMap g).map f).Nodup) :
    ((stored' ++ (before ++ next ++ after).flatMap g).map f).Nodup := by
  have hfront : ∀ (xs ys zs rest : List ρ), (xs ++ (ys ++ (zs ++ rest))).Perm ((xs ++ zs) ++ (ys ++ rest)) := by
    intro xs ys zs rest
    rw [List.append_assoc]
    refine List.Perm.append_left xs ?_
    rw [← List.append_assoc, ← List.append_assoc]
    exact List.Perm.append_right rest List.perm_append_comm
  have hnew : (stored' ++ (before ++ next ++ after).flatMap g).Perm
      ((stored' ++ next.flatMap g) ++ (before.flatMap g ++ after.flatMap g)) := by
    rw [List.flatMap_append, List.flatMap_append, List.append_assoc]
    exact hfront _ _ _ _
  have hold : (stored ++ (before ++ t :: after).flatMap g).Perm
      ((stored ++ g t) ++ (before.flatMap g ++ after.flatMap g)) := by
    rw [List.flatMap_append, List.flatMap_cons]
    exact hfront _ _ _ _
  obtain ⟨l, hperm, hsublist⟩ :=
    hnew.subperm.trans (((List.subperm_append_right _).mpr hsub).trans hold.symm.subperm)
  exact ((hperm.map f).nodup_iff).mp (h.sublist (hsublist.map f))

theorem nodup_taken {stored : List ρ} {x : ρ} {next : τ} (hnext : g next = g t ++ [x])
    (hfree : f x ∉ (stored ++ (before ++ t :: after).flatMap g).map f)
    (h : ((stored ++ (before ++ t :: after).flatMap g).map f).Nodup) :
    ((stored ++ (before ++ [next] ++ after).flatMap g).map f).Nodup := by
  have hmid : (stored ++ (before ++ [next] ++ after).flatMap g).Perm
      (x :: (stored ++ (before ++ t :: after).flatMap g)) := by
    have hform : stored ++ (before ++ [next] ++ after).flatMap g =
        (stored ++ before.flatMap g ++ g t) ++ x :: after.flatMap g := by simp [hnext]
    rw [hform]
    refine List.perm_middle.trans (List.Perm.cons x ?_)
    simp
  refine ((hmid.map f).nodup_iff).mpr ?_
  rw [List.map_cons, List.nodup_cons]
  exact ⟨hfree, h⟩

end Held

end PerGo.Core
