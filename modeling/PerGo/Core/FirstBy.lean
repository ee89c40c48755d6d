import Mathlib.Data.List.Induction

/-!
# The first of each kind

A pass over a list that keeps an element unless it has kept one of the same kind before. The
kinds are given by `same`, of an earlier element and a later one.

* `firstBy_concat`: the pass over one more element.
* `firstBy_pairwise`: no kind is kept twice.
* `find?_firstBy`: a search by a property of the kind finds the same element before and after.
-/
namespace PerGo.Core

variable {α : Type} {same : α → α → Bool}

def firstBy (same : α → α → Bool) (l : List α) : List α :=
  l.foldl (fun kept x => if kept.any (same · x) then kept else kept ++ [x]) []

@[simp] theorem firstBy_nil : firstBy same [] = [] := rfl

theorem firstBy_concat (l : List α) (x : α) :
    firstBy same (l ++ [x]) = if (firstBy same l).any (same · x) then firstBy same l else firstBy same l ++ [x] := by
  simp [firstBy]

theorem mem_of_mem_firstBy {l : List α} {x : α} (h : x ∈ firstBy same l) : x ∈ l := by
  induction l using List.reverseRecOn with
  | nil => exact h
  | append_singleton l y ih =>
    rw [firstBy_concat] at h
    split at h
    · exact List.mem_append_left _ (ih h)
    · rcases List.mem_append.mp h with h | h
      · exact List.mem_append_left _ (ih h)
      · exact List.mem_append_right _ h

theorem firstBy_pairwise (l : List α) : (firstBy same l).Pairwise fun a b => same a b = false := by
  induction l using List.reverseRecOn with
  | nil => exact List.Pairwise.nil
  | append_singleton l x ih =>
    rw [firstBy_concat]
    split
    · exact ih
    · rename_i hnone
      refine List.pairwise_append.mpr ⟨ih, List.pairwise_singleton _ _, ?_⟩
      intro a ha b hb
      rw [List.mem_singleton.mp hb]
      exact Bool.eq_false_iff.mpr fun hsame => hnone (List.any_eq_true.mpr ⟨a, ha, hsame⟩)

theorem find?_firstBy {p : α → Bool} (hp : ∀ a b, same a b → p a = p b) (l : List α) :
    (firstBy same l).find? p = l.find? p := by
  induction l using List.reverseRecOn with
  | nil => rfl
  | append_singleton l x ih =>
    rw [firstBy_concat, List.find?_append]
    split
    · rename_i hany
      obtain ⟨y, hy, hsame⟩ := List.any_eq_true.mp hany
      rw [ih]
      cases hx : p x with
      | false => simp [hx]
      | true =>
        have hfound : (l.find? p).isSome :=
          List.find?_isSome.mpr ⟨y, mem_of_mem_firstBy hy, (hp y x hsame).trans hx⟩
        obtain ⟨z, hz⟩ := Option.isSome_iff_exists.mp hfound
        rw [hz, Option.some_or]
    · rw [List.find?_append, ih]

end PerGo.Core
