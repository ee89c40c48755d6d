import PerGo.Core.Result

/-!
# Loops that end

A `for` loop as one round of it: the round goes again with a new state, leaves with a result, or ends
the call. A size that every further round makes smaller ends the loop.

* `run_eq`: the loop is a round and the loop after it.
* `run_safe_iff`: a loop is safe when every round that is reached is.
* `run_ok`, `run_ok_inv`: when it returns, and the rule of the invariant.
* `run_frames`: a loop over bytes that are equal frames.
-/
namespace PerGo.Core

open Result

inductive Next (σ ρ : Type)
  | again (s : σ)
  | leave (r : ρ)

structure Loop (ε σ ρ : Type) where
  round : σ → Result ε (Next σ ρ)
  size : σ → Nat
  shrinks : ∀ {s s'}, round s = .ok (.again s') → size s' < size s

namespace Loop

variable {ε σ ρ : Type} (l : Loop ε σ ρ)

def run (s : σ) : Result ε ρ :=
  match _h : l.round s with
  | .ok (.again s') => run s'
  | .ok (.leave r) => .ok r
  | .error e => .error e
  | .panic => .panic
termination_by l.size s
decreasing_by exact l.shrinks ‹_›

theorem run_eq (s : σ) :
    l.run s = l.round s >>= fun next => match next with
      | .again s' => l.run s'
      | .leave r => .ok r := by
  rw [run]
  split <;> simp only [*] <;> rfl

/-- The states in which a round of the loop begins. -/
inductive Reached (s : σ) : σ → Prop
  | start : Reached s s
  | again {t t' : σ} : Reached s t → l.round t = .ok (.again t') → Reached s t'

variable {l}

theorem Reached.head {s t u : σ} (h : l.round s = .ok (.again t)) (hu : l.Reached t u) : l.Reached s u := by
  induction hu with
  | start => exact .again .start h
  | again _ hround ih => exact .again ih hround

theorem Reached.inv {I : σ → Prop} (hround : ∀ s s', I s → l.round s = .ok (.again s') → I s') {s t : σ} (hs : I s)
    (ht : l.Reached s t) : I t := by
  induction ht with
  | start => exact hs
  | again _ h ih => exact hround _ _ ih h

variable (l)

theorem rec_on {P : σ → Prop} (h : ∀ s, (∀ s', l.round s = .ok (.again s') → P s') → P s) (s : σ) : P s := by
  induction hn : l.size s using Nat.strongRecOn generalizing s with
  | ind n ih => exact h s fun s' hs' => ih (l.size s') (hn ▸ l.shrinks hs') s' rfl

theorem run_safe_iff (s : σ) : (l.run s).Safe ↔ ∀ t, l.Reached s t → (l.round t).Safe := by
  induction s using l.rec_on with
  | h s ih =>
    rw [run_eq, safe_bind_iff]
    constructor
    · rintro ⟨hround, hrest⟩ t ht
      -- the first round, or one of the loop after it
      have hcases : t = s ∨ ∃ s', l.round s = .ok (.again s') ∧ l.Reached s' t := by
        induction ht with
        | start => exact .inl rfl
        | again _ hagain iht =>
          rcases iht with rfl | ⟨s', hs', hreach⟩
          · exact .inr ⟨_, hagain, .start⟩
          · exact .inr ⟨s', hs', .again hreach hagain⟩
      rcases hcases with rfl | ⟨s', hs', hreach⟩
      · exact hround
      · exact (ih s' hs').mp (hrest _ hs') t hreach
    · intro hall
      refine ⟨hall s .start, fun next hnext => ?_⟩
      cases next with
      | again s' => exact (ih s' hnext).mpr fun t ht => hall t (Reached.head hnext ht)
      | leave r => exact safe_ok r

theorem run_ok (h : ∀ s, ∃ next, l.round s = .ok next) (s : σ) : ∃ r, l.run s = .ok r := by
  induction s using l.rec_on with
  | h s ih =>
    obtain ⟨next, hnext⟩ := h s
    rw [run_eq, hnext, ok_bind]
    cases next with
    | again s' => exact ih s' hnext
    | leave r => exact ⟨r, rfl⟩

theorem run_ok_inv {I : σ → Prop} {Q : ρ → Prop} (hagain : ∀ s s', I s → l.round s = .ok (.again s') → I s')
    (hleave : ∀ s r, I s → l.round s = .ok (.leave r) → Q r) {s : σ} (hs : I s) {r : ρ} (h : l.run s = .ok r) : Q r := by
  induction s using l.rec_on with
  | h s ih =>
    rw [run_eq] at h
    obtain ⟨next, hnext, hrest⟩ := bind_eq_ok_iff.mp h
    cases next with
    | again s' => exact ih s' hnext (hagain s s' hs hnext) hrest
    | leave r' =>
      cases hrest
      exact hleave s r hs hnext

theorem run_frames {α : Type} (l : Loop ε (σ × List α) ρ) (frame : List α) (I : Nat → σ → Prop)
    (hround : ∀ k s rest, I k s → ∃ s', l.round (s, frame ++ rest) = .ok (.again (s', rest)) ∧ I (k + 1) s') (n : Nat)
    {k : Nat} {s : σ} (hs : I k s) :
    ∃ s', l.run (s, (List.replicate n frame).flatten) = l.run (s', []) ∧ I (k + n) s' := by
  induction n generalizing k s with
  | zero => exact ⟨s, rfl, hs⟩
  | succ n ih =>
    obtain ⟨s₁, hfirst, hs₁⟩ := hround k s (List.replicate n frame).flatten hs
    obtain ⟨s₂, hrest, hs₂⟩ := ih hs₁
    refine ⟨s₂, ?_, ?_⟩
    · rw [List.replicate_succ, List.flatten_cons, run_eq, hfirst, ok_bind]
      exact hrest
    · rw [Nat.add_succ, ← Nat.succ_add]
      exact hs₂

end Loop

end PerGo.Core

/-!
## Loops that may go on for ever

The rounds of a `for` loop that nothing makes smaller: what the loop does is what it does in `n` rounds,
for every `n`.

* `returns_of_size`: under an invariant that makes every round return, a size that every further round
  makes smaller ends the loop.
* `Returns.inv`: what the loop returns, by the rule of the invariant.
* `not_returns_of_inv`: a loop does not return when an invariant keeps every round from leaving.
-/
namespace PerGo.Core

open Result

variable {ε σ ρ : Type} (round : σ → Result ε (Next σ ρ))

/-- The loop, cut after `n` rounds. -/
def runFor : Nat → σ → Result ε (Next σ ρ)
  | 0, s => .ok (.again s)
  | n + 1, s => round s >>= fun next => match next with
    | .again s' => runFor n s'
    | .leave r => .ok (.leave r)

/-- The loop ends, with `r`. -/
def Returns (s : σ) (r : ρ) : Prop := ∃ n, runFor round n s = .ok (.leave r)

variable {round}

theorem returns_iff {s : σ} {r : ρ} :
    Returns round s r ↔ round s = .ok (.leave r) ∨ ∃ s', round s = .ok (.again s') ∧ Returns round s' r := by
  constructor
  · rintro ⟨n, hn⟩
    cases n with
    | zero => cases hn
    | succ n =>
      obtain ⟨next, hnext, hrest⟩ := bind_eq_ok_iff.mp hn
      cases next with
      | again s' => exact Or.inr ⟨s', hnext, n, hrest⟩
      | leave r' =>
        cases hrest
        exact Or.inl hnext
  · rintro (hleave | ⟨s', hagain, n, hn⟩)
    · exact ⟨1, by rw [runFor, hleave, ok_bind]⟩
    · exact ⟨n + 1, by rw [runFor, hagain, ok_bind]; exact hn⟩

theorem returns_of_size {I : σ → Prop} {size : σ → Nat} (hround : ∀ s, I s → ∃ next, round s = .ok next)
    (hagain : ∀ s s', I s → round s = .ok (.again s') → I s' ∧ size s' < size s) {s : σ} (hs : I s) :
    ∃ r, Returns round s r := by
  induction hn : size s using Nat.strongRecOn generalizing s with
  | ind n ih =>
    obtain ⟨next, hnext⟩ := hround s hs
    cases next with
    | leave r => exact ⟨r, returns_iff.mpr (Or.inl hnext)⟩
    | again s' =>
      obtain ⟨hs', hlt⟩ := hagain s s' hs hnext
      obtain ⟨r, hr⟩ := ih (size s') (hn ▸ hlt) hs' rfl
      exact ⟨r, returns_iff.mpr (Or.inr ⟨s', hnext, hr⟩)⟩

theorem Returns.inv {I : σ → Prop} {Q : ρ → Prop} (hagain : ∀ s s', I s → round s = .ok (.again s') → I s')
    (hleave : ∀ s r, I s → round s = .ok (.leave r) → Q r) {s : σ} {r : ρ} (hs : I s) (h : Returns round s r) : Q r := by
  obtain ⟨n, hn⟩ := h
  induction n generalizing s with
  | zero => cases hn
  | succ n ih =>
    obtain ⟨next, hnext, hrest⟩ := bind_eq_ok_iff.mp hn
    cases next with
    | again s' => exact ih (hagain s s' hs hnext) hrest
    | leave r' =>
      cases hrest
      exact hleave s r hs hnext

theorem not_returns_of_inv {I : σ → Prop} (hagain : ∀ s s', I s → round s = .ok (.again s') → I s')
    (hleave : ∀ s r, I s → round s ≠ .ok (.leave r)) {s : σ} (hs : I s) (r : ρ) : ¬ Returns round s r :=
  fun h => h.inv (Q := fun _ => False) hagain (fun s r hs hr => hleave s r hs hr) hs

end PerGo.Core
