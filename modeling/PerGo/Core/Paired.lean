import Mathlib.Data.List.Forall2

/-!
# Lists side by side

`List.Forall₂ R` compares two lists member by member. Mathlib builds such comparisons up along
`map`, `append` and `flatMap`; here they are taken apart again, and looked up.
-/
namespace PerGo.Core

open List

variable {α β γ δ : Type} {R : α → β → Prop}

theorem forall₂_right {xs : List α} {ys : List β} (h : Forall₂ R xs ys) {y : β} (hy : y ∈ ys) : ∃ x ∈ xs, R x y := by
  induction h with
  | nil => cases hy
  | cons hxy _ ih =>
    rcases List.mem_cons.mp hy with rfl | hy
    · exact ⟨_, List.mem_cons_self, hxy⟩
    · obtain ⟨x, hx, hr⟩ := ih hy
      exact ⟨x, List.mem_cons_of_mem _ hx, hr⟩

theorem forall₂_left {xs : List α} {ys : List β} (h : Forall₂ R xs ys) {x : α} (hx : x ∈ xs) : ∃ y ∈ ys, R x y :=
  forall₂_right h.flip hx

theorem forall₂_getElem? {xs : List α} {ys : List β} (h : Forall₂ R xs ys) (i : Nat) :
    Option.Rel R xs[i]? ys[i]? := by
  induction h generalizing i with
  | nil => exact .none
  | cons hxy _ ih =>
    cases i with
    | zero => exact .some hxy
    | succ i =>
      rw [List.getElem?_cons_succ, List.getElem?_cons_succ]
      exact ih i

theorem exists_forall₂ {xs : List α} (h : ∀ x ∈ xs, ∃ y, R x y) : ∃ ys, Forall₂ R xs ys := by
  induction xs with
  | nil => exact ⟨[], .nil⟩
  | cons x xs ih =>
    obtain ⟨hfirst, hrest⟩ := List.forall_mem_cons.mp h
    obtain ⟨y, hy⟩ := hfirst
    obtain ⟨ys, hys⟩ := ih hrest
    exact ⟨y :: ys, .cons hy hys⟩

theorem forall₂_at_left {xs : List α} {ys : List β} (h : Forall₂ R xs ys) {i : Nat} {x : α} (hx : xs[i]? = some x) :
    ∃ y, ys[i]? = some y ∧ R x y := by
  have hplace := forall₂_getElem? h i
  rw [hx] at hplace
  generalize hy : ys[i]? = o at hplace
  cases hplace with
  | some hr => exact ⟨_, rfl, hr⟩

theorem forall₂_at_right {xs : List α} {ys : List β} (h : Forall₂ R xs ys) {i : Nat} {y : β} (hy : ys[i]? = some y) :
    ∃ x, xs[i]? = some x ∧ R x y := by
  obtain ⟨x, hx, hr⟩ := forall₂_at_left h.flip hy
  exact ⟨x, hx, hr⟩

theorem forall₂_and {S : α → β → Prop} {xs : List α} {ys : List β} (h : Forall₂ R xs ys) (h' : Forall₂ S xs ys) :
    Forall₂ (fun a b => R a b ∧ S a b) xs ys := by
  induction h with
  | nil => exact .nil
  | cons hxy _ ih =>
    cases h' with
    | cons hxy' hrest => exact .cons ⟨hxy, hxy'⟩ (ih hrest)

end PerGo.Core
