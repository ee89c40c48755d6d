import Mathlib.Data.List.Count
import Mathlib.Data.List.Find
import Mathlib.Data.List.Nodup
import Mathlib.Order.Lattice

/-!
# Tables of rows

A database table is the list of its rows. `updateWhere p f` is
`UPDATE … SET f WHERE p`, `find?` a lookup by a unique column, and `fresh` a
key no row has yet. The lemmas say what a lookup sees after an update, for any
row type and any columns.
-/
namespace PerGo.Core

variable {ρ κ : Type}

/-- `UPDATE … SET f WHERE p`. -/
def updateWhere (p : ρ → Bool) (f : ρ → ρ) (rows : List ρ) : List ρ :=
  rows.map fun r => if p r then f r else r

@[simp] theorem updateWhere_nil (p : ρ → Bool) (f : ρ → ρ) : updateWhere p f [] = [] := rfl

@[simp] theorem updateWhere_cons (p : ρ → Bool) (f : ρ → ρ) (r : ρ) (rows : List ρ) :
    updateWhere p f (r :: rows) = (if p r then f r else r) :: updateWhere p f rows := rfl

/-- A column `f` does not write keeps its values. -/
theorem map_updateWhere {p : ρ → Bool} {f : ρ → ρ} {c : ρ → κ} (hc : ∀ r, c (f r) = c r)
    (rows : List ρ) : (updateWhere p f rows).map c = rows.map c := by
  induction rows with
  | nil => rfl
  | cons r rows ih =>
    simp only [updateWhere_cons, List.map_cons, ih]
    split
    · rw [hc]
    · rfl

/-- A lookup by a condition `f` does not touch finds the same row, updated. -/
theorem find?_updateWhere {p q : ρ → Bool} {f : ρ → ρ} (hq : ∀ r, q (f r) = q r) (rows : List ρ) :
    (updateWhere p f rows).find? q = (rows.find? q).map fun r => if p r then f r else r := by
  induction rows with
  | nil => rfl
  | cons r rows ih =>
    have hr : q (if p r then f r else r) = q r := by
      split
      · exact hq r
      · rfl
    simp only [updateWhere_cons, List.find?_cons, hr]
    cases hqr : q r with
    | true => rfl
    | false => exact ih

theorem mem_updateWhere {p : ρ → Bool} {f : ρ → ρ} {rows : List ρ} {r : ρ}
    (h : r ∈ updateWhere p f rows) : ∃ r₀ ∈ rows, r = if p r₀ then f r₀ else r₀ := by
  obtain ⟨r₀, h0, rfl⟩ := List.mem_map.mp h
  exact ⟨r₀, h0, rfl⟩

theorem eq_of_key_eq {c : ρ → κ} {rows : List ρ} (hn : (rows.map c).Nodup) {r r' : ρ}
    (h : r ∈ rows) (h' : r' ∈ rows) (hk : c r = c r') : r = r' :=
  List.inj_on_of_nodup_map hn h h' hk

theorem nodup_concat {c : ρ → κ} {rows : List ρ} {r : ρ} (h : (rows.map c).Nodup)
    (hr : ∀ r' ∈ rows, c r' ≠ c r) : ((rows ++ [r]).map c).Nodup := by
  rw [List.map_append, List.map_singleton, List.nodup_append_comm, List.singleton_append, List.nodup_cons]
  refine ⟨fun hmem => ?_, h⟩
  obtain ⟨r', hr', heq⟩ := List.mem_map.mp hmem
  exact hr r' hr' heq

theorem filterMap_key_sublist {ι : Type} {f : ρ → Option ι} {c : ρ → κ} {d : ι → κ}
    (hf : ∀ r x, f r = some x → d x = c r) (rows : List ρ) : ((rows.filterMap f).map d).Sublist (rows.map c) := by
  induction rows with
  | nil => exact List.Sublist.slnil
  | cons r rows ih =>
    cases hr : f r with
    | none =>
      rw [List.filterMap_cons_none hr]
      exact ih.cons _
    | some x =>
      rw [List.filterMap_cons_some hr, List.map_cons, List.map_cons, hf r x hr]
      exact ih.cons_cons _

theorem countP_updateWhere_of_eq {p q : ρ → Bool} {f : ρ → ρ} {rows : List ρ}
    (h : ∀ r ∈ rows, p r = true → q (f r) = q r) : (updateWhere p f rows).countP q = rows.countP q := by
  induction rows with
  | nil => rfl
  | cons r rows ih =>
    have ht := ih fun r' hr' => h r' (List.mem_cons_of_mem _ hr')
    simp only [updateWhere_cons, List.countP_cons, ht]
    split
    · rw [h r List.mem_cons_self ‹_›]
    · rfl

/-- An update that adds no row to those counted and takes one off them. -/
theorem countP_map_lt {q : ρ → Bool} {f : ρ → ρ} {rows : List ρ} (hf : ∀ r, q (f r) = true → q r = true) {r : ρ}
    (hr : r ∈ rows) (hq : q r = true) (hfr : q (f r) = false) : (rows.map f).countP q < rows.countP q := by
  obtain ⟨pre, post, rfl⟩ := List.append_of_mem hr
  have hpre : pre.countP (q ∘ f) ≤ pre.countP q := List.countP_mono_left fun x _ h => hf x h
  have hpost : post.countP (q ∘ f) ≤ post.countP q := List.countP_mono_left fun x _ h => hf x h
  rw [List.countP_map]
  simp only [List.countP_append, List.countP_cons, Function.comp_apply, hq, hfr, Bool.false_eq_true, if_false, if_true]
  omega

theorem updateWhere_of_none {p : ρ → Bool} {f : ρ → ρ} {rows : List ρ} (h : ∀ r ∈ rows, p r = false) :
    updateWhere p f rows = rows := by
  unfold updateWhere
  conv_rhs => rw [← List.map_id rows]
  apply List.map_congr_left
  intro r hr
  simp [h r hr]

theorem filter_updateWhere {p q : ρ → Bool} {f : ρ → ρ} {rows : List ρ}
    (h : ∀ r ∈ rows, p r = true → q r = false ∧ q (f r) = false) :
    (updateWhere p f rows).filter q = rows.filter q := by
  induction rows with
  | nil => rfl
  | cons r rows ih =>
    have ht := ih fun r' hr' => h r' (List.mem_cons_of_mem _ hr')
    simp only [updateWhere_cons, List.filter_cons]
    split
    · obtain ⟨hr, hfr⟩ := h r List.mem_cons_self ‹_›
      simp [hr, hfr, ht]
    · rw [ht]

theorem find?_filter_of_imp {p q : ρ → Bool} {rows : List ρ} (h : ∀ r ∈ rows, q r = true → p r = true) :
    (rows.filter p).find? q = rows.find? q := by
  rw [List.find?_filter]
  apply List.find?_congr
  intro r hr
  cases hq : q r with
  | false => simp
  | true => simp [h r hr hq]

theorem filter_filter_of_imp {p q : ρ → Bool} {rows : List ρ} (h : ∀ r ∈ rows, q r = true → p r = true) :
    (rows.filter p).filter q = rows.filter q := by
  rw [List.filter_filter]
  apply List.filter_congr
  intro r hr
  cases hq : q r with
  | false => rfl
  | true => simp [h r hr hq]

theorem countP_updateWhere [DecidableEq κ] {c : ρ → κ} {rows : List ρ} (hn : (rows.map c).Nodup) {r : ρ}
    (hr : r ∈ rows) (f : ρ → ρ) (q : ρ → Bool) :
    (updateWhere (fun r' => c r' = c r) f rows).countP q + (if q r then 1 else 0) =
      rows.countP q + (if q (f r) then 1 else 0) := by
  obtain ⟨pre, post, rfl⟩ := List.append_of_mem hr
  -- no other row has the key
  have hother : ∀ r' ∈ pre ++ post, decide (c r' = c r) = false := by
    intro r' hr'
    rw [List.map_append, List.map_cons, List.nodup_middle, List.nodup_cons] at hn
    have : c r' ≠ c r := fun hk => hn.1 (by rw [← hk, ← List.map_append]; exact List.mem_map_of_mem hr')
    simpa using this
  have hpre := updateWhere_of_none (f := f) fun r' h => hother r' (List.mem_append_left post h)
  have hpost := updateWhere_of_none (f := f) fun r' h => hother r' (List.mem_append_right pre h)
  have hsplit : updateWhere (fun r' => decide (c r' = c r)) f (pre ++ r :: post) =
      updateWhere (fun r' => decide (c r' = c r)) f pre ++
        f r :: updateWhere (fun r' => decide (c r' = c r)) f post := by
    simp [updateWhere]
  rw [hsplit, hpre, hpost]
  simp only [List.countP_append, List.countP_cons]
  omega

theorem find?_key_iff [DecidableEq κ] {c : ρ → κ} {rows : List ρ} (hn : (rows.map c).Nodup) {k : κ} {r : ρ} :
    rows.find? (fun r => c r = k) = some r ↔ r ∈ rows ∧ c r = k := by
  constructor
  · intro h
    exact ⟨List.mem_of_find?_eq_some h, by simpa using List.find?_some h⟩
  · rintro ⟨hm, rfl⟩
    cases hf : rows.find? fun r' => c r' = c r with
    | none => exact absurd (List.find?_eq_none.mp hf r hm) (by simp)
    | some r' =>
      have hk : c r' = c r := by simpa using List.find?_some hf
      rw [eq_of_key_eq hn (List.mem_of_find?_eq_some hf) hm hk]

def freshKey (keys : List Nat) : Nat := keys.foldr max 0 + 1

theorem lt_freshKey {keys : List Nat} {k : Nat} (h : k ∈ keys) : k < freshKey keys := by
  induction keys with
  | nil => cases h
  | cons a keys ih =>
    simp only [freshKey, List.foldr_cons] at ih ⊢
    rcases List.mem_cons.mp h with rfl | h
    · omega
    · have := ih h
      omega

theorem freshKey_not_mem (keys : List Nat) : freshKey keys ∉ keys :=
  fun h => Nat.lt_irrefl _ (lt_freshKey h)

end PerGo.Core
