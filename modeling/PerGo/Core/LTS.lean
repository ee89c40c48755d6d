import Mathlib.Data.List.Basic

/-!
# Labelled transition systems

The one notion of run the whole development uses. A component is an `LTS`: a
set of initial states and a labelled step relation, the label carrying
everything the environment chooses (which message is delivered, what the
database answers, what the clock reads).

* `Run s ls s'`: the labels `ls` take `s` to `s'`.
* `Reachable s`: some run from an initial state ends in `s`.
* `Inductive I`: `I` holds initially and every step keeps it; such an `I` holds
  in every reachable state (`Inductive.reachable`).
* `Reachable.simulated`: a reachable state of one system is related to one of another that
  follows it step by step.
* `restrict G`: the same system, only with the steps that meet `G`. A property
  that holds "in every run whose steps all meet `G`" is a property of
  `(L.restrict G).Reachable`.
* `ofFn`: the system of a partial step function, with `exec` to run a label
  list, so that one concrete run is an evaluation (`exec_reachable`).
* `EveryCall P`: a fact about each call of a sequence of calls that always
  return, at the state the call meets.
-/
namespace PerGo.Core

structure LTS (σ ℓ : Type) where
  init : σ → Prop
  step : σ → ℓ → σ → Prop

namespace LTS

variable {σ ℓ : Type}

/-- The labels `ls` take the first state to the last. -/
inductive Run (L : LTS σ ℓ) : σ → List ℓ → σ → Prop
  | nil (s : σ) : Run L s [] s
  | cons {s s' s'' : σ} {l : ℓ} {ls : List ℓ} :
      L.step s l s' → Run L s' ls s'' → Run L s (l :: ls) s''

def Reachable (L : LTS σ ℓ) (s : σ) : Prop := ∃ s₀ ls, L.init s₀ ∧ L.Run s₀ ls s

structure Inductive (L : LTS σ ℓ) (I : σ → Prop) : Prop where
  init : ∀ s, L.init s → I s
  step : ∀ s l s', I s → L.step s l s' → I s'

theorem Inductive.run {L : LTS σ ℓ} {I : σ → Prop} (h : L.Inductive I) {s s' : σ} {ls : List ℓ}
    (hr : L.Run s ls s') (hs : I s) : I s' := by
  induction hr with
  | nil => exact hs
  | cons hstep _ ih => exact ih (h.step _ _ _ hs hstep)

theorem Inductive.reachable {L : LTS σ ℓ} {I : σ → Prop} (h : L.Inductive I) {s : σ}
    (hr : L.Reachable s) : I s := by
  obtain ⟨s₀, ls, h0, hrun⟩ := hr
  exact h.run hrun (h.init _ h0)

theorem Run.snoc {L : LTS σ ℓ} {s s' s'' : σ} {l : ℓ} {ls : List ℓ} (hr : L.Run s ls s') (h : L.step s' l s'') :
    L.Run s (ls ++ [l]) s'' := by
  induction hr with
  | nil => exact .cons h (.nil _)
  | cons hstep _ ih => exact .cons hstep (ih h)

theorem Reachable.step {L : LTS σ ℓ} {s s' : σ} {l : ℓ} (hr : L.Reachable s) (h : L.step s l s') : L.Reachable s' := by
  obtain ⟨s₀, ls, h0, hrun⟩ := hr
  exact ⟨s₀, ls ++ [l], h0, hrun.snoc h⟩

/-- `M` follows `L` along `R`, with at most one step for each of `L`'s. -/
theorem Reachable.simulated {τ κ : Type} {L : LTS σ ℓ} {M : LTS τ κ} {R : σ → τ → Prop}
    (h0 : ∀ s, L.init s → ∃ t, M.init t ∧ R s t)
    (hstep : ∀ s l s' t, R s t → L.step s l s' → ∃ t', R s' t' ∧ (t' = t ∨ ∃ k, M.step t k t')) {s : σ}
    (hr : L.Reachable s) : ∃ t, M.Reachable t ∧ R s t := by
  have hind : L.Inductive fun s => ∃ t, M.Reachable t ∧ R s t := by
    refine ⟨?_, ?_⟩
    · intro s hs
      obtain ⟨t, ht, hrel⟩ := h0 s hs
      exact ⟨t, ⟨t, [], ht, .nil t⟩, hrel⟩
    · rintro s l s' ⟨t, ht, hrel⟩ hs
      obtain ⟨t', hrel', rfl | ⟨k, hk⟩⟩ := hstep s l s' t hrel hs
      · exact ⟨t', ht, hrel'⟩
      · exact ⟨t', ht.step hk, hrel'⟩
  exact hind.reachable hr

/-- The steps of `L` whose source state and label meet `G`. -/
def restrict (L : LTS σ ℓ) (G : σ → ℓ → Prop) : LTS σ ℓ :=
  ⟨L.init, fun s l s' => G s l ∧ L.step s l s'⟩

theorem Inductive.of_restrict {L : LTS σ ℓ} {G : σ → ℓ → Prop} {I : σ → Prop}
    (h0 : ∀ s, L.init s → I s)
    (hs : ∀ s l s', I s → G s l → L.step s l s' → I s') : (L.restrict G).Inductive I :=
  ⟨h0, fun s l s' hi hst => hs s l s' hi hst.1 hst.2⟩

/-! ## Systems given by a partial step function -/

/-- The system with initial state `s₀` and step function `f`. -/
def ofFn (s₀ : σ) (f : σ → ℓ → Option σ) : LTS σ ℓ :=
  ⟨fun s => s = s₀, fun s l s' => f s l = some s'⟩

/-- Runs a label list; `none` once a label is not enabled. -/
def exec (f : σ → ℓ → Option σ) : σ → List ℓ → Option σ
  | s, [] => some s
  | s, l :: ls => (f s l).bind fun s' => exec f s' ls

/-- What `exec` computes is a run, of the restricted system when every label
taken meets the guard. -/
theorem exec_run {s₀ : σ} {f : σ → ℓ → Option σ} {s s' : σ} {ls : List ℓ}
    (h : exec f s ls = some s') : (ofFn s₀ f).Run s ls s' := by
  induction ls generalizing s with
  | nil =>
    cases h
    exact Run.nil _
  | cons l ls ih =>
    simp only [exec, Option.bind_eq_some_iff] at h
    obtain ⟨t, ht, hr⟩ := h
    exact Run.cons ht (ih hr)

theorem exec_reachable {s₀ : σ} {f : σ → ℓ → Option σ} {s : σ} {ls : List ℓ}
    (h : exec f s₀ ls = some s) : (ofFn s₀ f).Reachable s :=
  ⟨s₀, ls, rfl, exec_run h⟩

/-- The labels of `ls` all meet the guard where they are taken from `s`. -/
def Guarded (f : σ → ℓ → Option σ) (G : σ → ℓ → Prop) : σ → List ℓ → Prop
  | _, [] => True
  | s, l :: ls => G s l ∧ ∀ s', f s l = some s' → Guarded f G s' ls

theorem guarded_cons_of_none {f : σ → ℓ → Option σ} {G : σ → ℓ → Prop} {s : σ} {l : ℓ} {ls : List ℓ}
    (h : f s l = none) : Guarded f G s (l :: ls) ↔ G s l := by
  refine ⟨fun hg => hg.1, fun hg => ⟨hg, ?_⟩⟩
  intro s' hs'
  rw [h] at hs'
  cases hs'

theorem guarded_cons_of_some {f : σ → ℓ → Option σ} {G : σ → ℓ → Prop} {s s' : σ} {l : ℓ} {ls : List ℓ}
    (h : f s l = some s') : Guarded f G s (l :: ls) ↔ G s l ∧ Guarded f G s' ls := by
  refine ⟨fun hg => ⟨hg.1, hg.2 s' h⟩, fun hg => ⟨hg.1, ?_⟩⟩
  intro s'' hs''
  rw [h] at hs''
  cases hs''
  exact hg.2

instance decidableGuarded (f : σ → ℓ → Option σ) (G : σ → ℓ → Prop) [∀ s l, Decidable (G s l)] :
    (s : σ) → (ls : List ℓ) → Decidable (Guarded f G s ls)
  | _, [] => isTrue trivial
  | s, l :: ls =>
    match h : f s l with
    | none => decidable_of_iff _ (guarded_cons_of_none h).symm
    | some s' =>
      have := decidableGuarded f G s' ls
      decidable_of_iff _ (guarded_cons_of_some h).symm

theorem exec_restrict_run {s₀ : σ} {f : σ → ℓ → Option σ} {G : σ → ℓ → Prop} {s s' : σ}
    {ls : List ℓ} (h : exec f s ls = some s') (hg : Guarded f G s ls) :
    ((ofFn s₀ f).restrict G).Run s ls s' := by
  induction ls generalizing s with
  | nil =>
    cases h
    exact Run.nil _
  | cons l ls ih =>
    simp only [exec, Option.bind_eq_some_iff] at h
    obtain ⟨t, ht, hr⟩ := h
    exact Run.cons ⟨hg.1, ht⟩ (ih hr (hg.2 t ht))

theorem exec_restrict_reachable {s₀ : σ} {f : σ → ℓ → Option σ} {G : σ → ℓ → Prop} {s : σ}
    {ls : List ℓ} (h : exec f s₀ ls = some s) (hg : Guarded f G s₀ ls) :
    ((ofFn s₀ f).restrict G).Reachable s :=
  ⟨s₀, ls, rfl, exec_restrict_run h hg⟩

end LTS

/-! ## Sequences of calls -/

section Calls

variable {σ ℓ : Type} {f : σ → ℓ → σ}

def EveryCall (f : σ → ℓ → σ) (P : σ → ℓ → Prop) : σ → List ℓ → Prop
  | _, [] => True
  | s, l :: ls => P s l ∧ EveryCall f P (f s l) ls

theorem everyCall_congr {I : σ → Prop} {P Q : σ → ℓ → Prop} (hstep : ∀ s l, I s → I (f s l))
    (h : ∀ s l, I s → (P s l ↔ Q s l)) {s : σ} (hs : I s) (ls : List ℓ) : EveryCall f P s ls ↔ EveryCall f Q s ls := by
  induction ls generalizing s with
  | nil => exact Iff.rfl
  | cons l ls ih => exact and_congr (h s l hs) (ih (hstep s l hs))

instance decidableEveryCall (f : σ → ℓ → σ) (P : σ → ℓ → Prop) [∀ s l, Decidable (P s l)] :
    (s : σ) → (ls : List ℓ) → Decidable (EveryCall f P s ls)
  | _, [] => isTrue trivial
  | s, l :: ls =>
    have := decidableEveryCall f P (f s l) ls
    inferInstanceAs (Decidable (P s l ∧ EveryCall f P (f s l) ls))

end Calls

end PerGo.Core

/-!
## Logs that grow at the end

A run is recorded in a list, oldest first. A statement about an entry and what came after it is
one about the ways to split the list at the entry; one more entry adds one split and prolongs the
others.
-/
namespace PerGo.Core

variable {α : Type}

theorem append_singleton_split {log before after : List α} {a x : α} (h : log ++ [a] = before ++ x :: after) :
    (after = [] ∧ before = log ∧ x = a) ∨ ∃ after', after = after' ++ [a] ∧ log = before ++ x :: after' := by
  rcases List.eq_nil_or_concat after with rfl | ⟨after', b, rfl⟩
  · obtain ⟨hl, hr⟩ := List.append_inj' h rfl
    exact .inl ⟨rfl, hl.symm, (List.cons.inj hr).1.symm⟩
  · have h' : log ++ [a] = (before ++ x :: after') ++ [b] := by simpa using h
    obtain ⟨hl, hr⟩ := List.append_inj' h' rfl
    obtain rfl := (List.cons.inj hr).1
    exact .inr ⟨after', by simp, hl⟩

end PerGo.Core
