import Mathlib.Data.List.Basic
import Mathlib.Data.List.Forall2

/-!
# Computations that may fail

A sequence of steps in `Except` succeeds when each of them does (`bind_ok`, and `mapM_ok_iff` for
a step over each element of a list), a pair is there when its first part is (`ok_of_map_fst`), and
what a step in `Option` keeps of an element, `mapM` keeps of the list (`map_of_mapM`, `mem_of_mapM`). What a fold's
step keeps on most elements comes out as the one other element leaves it (`foldlM_once`, `foldl_once`).
-/
namespace PerGo.Core

theorem bind_ok {ε α β : Type} {x : Except ε α} {f : α → Except ε β} {b : β} (h : (x >>= f) = .ok b) :
    ∃ a, x = .ok a ∧ f a = .ok b := by
  cases x with
  | error e => cases h
  | ok a => exact ⟨a, rfl, h⟩

theorem ok_of_map_fst {ε α β : Type} {x : Except ε (α × β)} {a : α} (h : x.map Prod.fst = .ok a) :
    ∃ b, x = .ok (a, b) := by
  cases x with
  | error e => cases h
  | ok y =>
    cases h
    exact ⟨y.2, rfl⟩

theorem mapM_ok_iff {ε α β : Type} {f : α → Except ε β} {xs : List α} {ys : List β} :
    xs.mapM f = .ok ys ↔ List.Forall₂ (fun x y => f x = .ok y) xs ys := by
  induction xs generalizing ys with
  | nil =>
    rw [List.mapM_nil, List.forall₂_nil_left_iff]
    exact ⟨fun h => (Except.ok.inj h).symm, fun h => congrArg Except.ok h.symm⟩
  | cons x xs ih =>
    rw [List.mapM_cons]
    constructor
    · intro h
      obtain ⟨y, hy, hrest⟩ := bind_ok h
      obtain ⟨rest, hys, hpure⟩ := bind_ok hrest
      obtain rfl := Except.ok.inj hpure
      exact .cons hy (ih.mp hys)
    · intro h
      cases h with
      | cons hy hrest =>
        rw [hy, show xs.mapM f = .ok _ from ih.mpr hrest]
        rfl

theorem map_of_mapM {α β γ : Type} {f : α → Option β} {g : β → γ} {k : α → γ} {xs : List α} {ys : List β}
    (hstep : ∀ x y, f x = some y → g y = k x) (h : xs.mapM f = some ys) : ys.map g = xs.map k := by
  induction xs generalizing ys with
  | nil =>
    cases h
    rfl
  | cons x xs ih =>
    rw [List.mapM_cons] at h
    cases hx : f x with
    | none =>
      rw [hx] at h
      cases h
    | some y =>
      cases hxs : xs.mapM f with
      | none =>
        simp [hx, hxs] at h
      | some rest =>
        simp only [hx, hxs, Option.bind_eq_bind, Option.bind_some, pure, Option.some.injEq] at h
        subst h
        simp [hstep x y hx, ih hxs]

theorem mem_of_mapM {α β : Type} {f : α → Option β} {xs : List α} {ys : List β} (h : xs.mapM f = some ys) :
    ∀ y ∈ ys, ∃ x ∈ xs, f x = some y := by
  induction xs generalizing ys with
  | nil =>
    cases h
    simp
  | cons x xs ih =>
    rw [List.mapM_cons] at h
    obtain ⟨first, hx, h⟩ := Option.bind_eq_some_iff.mp h
    obtain ⟨rest, hrest, h⟩ := Option.bind_eq_some_iff.mp h
    cases h
    intro y hy
    rcases List.mem_cons.mp hy with rfl | hy
    · exact ⟨x, List.mem_cons_self, hx⟩
    · obtain ⟨x', hx', hf⟩ := ih hrest y hy
      exact ⟨x', List.mem_cons_of_mem x hx', hf⟩

theorem zip_of_mapM {α β γ : Type} {f : α → Option β} {zs : List γ} {xs : List α} {ys : List β} (h : xs.mapM f = some ys)
    {zx : γ × α} (hmem : zx ∈ zs.zip xs) : ∃ y, (zx.1, y) ∈ zs.zip ys ∧ f zx.2 = some y := by
  induction xs generalizing zs ys with
  | nil =>
    rw [List.zip_nil_right] at hmem
    cases hmem
  | cons x xs ih =>
    rw [List.mapM_cons] at h
    obtain ⟨first, hx, h⟩ := Option.bind_eq_some_iff.mp h
    obtain ⟨rest, hrest, h⟩ := Option.bind_eq_some_iff.mp h
    cases h
    cases zs with
    | nil =>
      rw [List.zip_nil_left] at hmem
      cases hmem
    | cons z zs =>
      rw [List.zip_cons_cons] at hmem ⊢
      rcases List.mem_cons.mp hmem with rfl | hmem
      · exact ⟨first, List.mem_cons_self, hx⟩
      · obtain ⟨y, hy, hf⟩ := ih hrest hmem
        exact ⟨y, List.mem_cons_of_mem _ hy, hf⟩

theorem mapM_of_forall {α β : Type} {f : α → Option β} {g : α → β} {xs : List α} (h : ∀ x ∈ xs, f x = some (g x)) :
    xs.mapM f = some (xs.map g) := by
  induction xs with
  | nil => rfl
  | cons x xs ih =>
    rw [List.mapM_cons, h x List.mem_cons_self, ih fun x' hx' => h x' (List.mem_cons_of_mem x hx')]
    rfl

/-! ## Folds that keep what they do not touch -/

section Folds

variable {σ α β : Type} {step : σ → α → Option σ} (read : σ → β) {touches : α → Bool}

theorem foldlM_frame (hframe : ∀ s a s', step s a = some s' → touches a = false → read s' = read s)
    {l : List α} {s s' : σ} (h : l.foldlM step s = some s') (hl : l.filter touches = []) : read s' = read s := by
  induction l generalizing s with
  | nil =>
    cases h
    rfl
  | cons a l ih =>
    rw [List.foldlM_cons] at h
    obtain ⟨s₁, hstep, hrest⟩ := Option.bind_eq_some_iff.mp h
    have hnone := List.filter_eq_nil_iff.mp hl
    have ha : touches a = false := by simpa using hnone a List.mem_cons_self
    have hl' : l.filter touches = [] := List.filter_eq_nil_iff.mpr fun b hb => hnone b (List.mem_cons_of_mem _ hb)
    rw [ih hrest hl', hframe s a s₁ hstep ha]

theorem foldlM_once (hframe : ∀ s a s', step s a = some s' → touches a = false → read s' = read s)
    {l : List α} {s s' : σ} {a : α} (h : l.foldlM step s = some s') (hl : l.filter touches = [a]) :
    ∃ s₁ s₂, read s₁ = read s ∧ step s₁ a = some s₂ ∧ read s' = read s₂ := by
  obtain ⟨before, after_, rfl, hbefore, -, hafter⟩ := List.filter_eq_cons_iff.mp hl
  rw [List.foldlM_append] at h
  obtain ⟨s₁, hs₁, h⟩ := Option.bind_eq_some_iff.mp h
  rw [List.foldlM_cons] at h
  obtain ⟨s₂, hs₂, hrest⟩ := Option.bind_eq_some_iff.mp h
  exact ⟨s₁, s₂, foldlM_frame read hframe hs₁ (List.filter_eq_nil_iff.mpr hbefore), hs₂,
    foldlM_frame read hframe hrest hafter⟩

theorem foldl_once {f : σ → α → σ} (hframe : ∀ s a, touches a = false → read (f s a) = read s)
    {l : List α} (s : σ) {a : α} (hl : l.filter touches = [a]) :
    ∃ s₁, read s₁ = read s ∧ read (l.foldl f s) = read (f s₁ a) := by
  have hrun : l.foldlM (fun s a => some (f s a)) s = some (l.foldl f s) := List.foldlM_pure
  have hframe' : ∀ s a s', (fun s a => some (f s a)) s a = some s' → touches a = false → read s' = read s := by
    intro s a s' hstep ha
    rw [← Option.some.inj hstep]
    exact hframe s a ha
  obtain ⟨s₁, s₂, hbefore, hstep, hafter⟩ := foldlM_once read hframe' hrun hl
  exact ⟨s₁, hbefore, by rw [hafter, ← Option.some.inj hstep]⟩

theorem foldl_frame {f : σ → α → σ} (hframe : ∀ s a, touches a = false → read (f s a) = read s)
    {l : List α} (s : σ) (hl : l.filter touches = []) : read (l.foldl f s) = read s := by
  have hrun : l.foldlM (fun s a => some (f s a)) s = some (l.foldl f s) := List.foldlM_pure
  refine foldlM_frame read ?_ hrun hl
  intro s a s' hstep ha
  rw [← Option.some.inj hstep]
  exact hframe s a ha

end Folds

end PerGo.Core
