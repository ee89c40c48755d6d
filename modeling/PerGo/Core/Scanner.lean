import Mathlib.Algebra.GroupWithZero.Nat
import PerGo.Core.Loop

/-!
# Scanners

A scanner looks for frames in a list: it takes the frame that begins where it stands and goes on behind it, or
goes on with the next element. It ends where too few of them are left.

* `Scanner.frames`: the frames it takes.
* `Loop.Advances`: every round of a loop leaves it or takes some of the list; such a loop returns (`Advances.run_ok`).
* `Follows.run_eq`: a loop that follows a scanner counts the frames of the scanner.
* `Loop.run_related`: two loops whose rounds are related have related results.
-/
namespace PerGo.Core

open Result

variable {ε σ τ ρ ρ' α β : Type}

inductive Next.Related (R : σ → τ → Prop) (Q : ρ → ρ' → Prop) : Next σ ρ → Next τ ρ' → Prop
  | again {s : σ} {t : τ} : R s t → Related R Q (.again s) (.again t)
  | leave {r : ρ} {r' : ρ'} : Q r r' → Related R Q (.leave r) (.leave r')

theorem Loop.run_related {l : Loop ε σ ρ} {l' : Loop ε τ ρ'} {R : σ → τ → Prop} {Q : ρ → ρ' → Prop}
    (hround : ∀ s t, R s t → ∃ next next', l.round s = .ok next ∧ l'.round t = .ok next' ∧ next.Related R Q next')
    {s : σ} {t : τ} (h : R s t) : ∃ r r', l.run s = .ok r ∧ l'.run t = .ok r' ∧ Q r r' := by
  induction s using l.rec_on generalizing t with
  | h s ih =>
    obtain ⟨next, next', hnext, hnext', hrel⟩ := hround s t h
    rw [l.run_eq, l'.run_eq, hnext, hnext', ok_bind, ok_bind]
    cases hrel with
    | again hR => exact ih _ hnext hR
    | leave hQ => exact ⟨_, _, rfl, rfl, hQ⟩

def Loop.Advances (l : Loop ε (σ × List α) ρ) : Prop :=
  ∀ s rest, (∃ r, l.round (s, rest) = .ok (.leave r)) ∨
    ∃ s' n, l.round (s, rest) = .ok (.again (s', rest.drop n)) ∧ 0 < n ∧ n ≤ rest.length

theorem Loop.Advances.run_ok {l : Loop ε (σ × List α) ρ} (h : l.Advances) (s : σ × List α) : ∃ r, l.run s = .ok r := by
  refine l.run_ok (fun t => ?_) s
  rcases h t.1 t.2 with ⟨r, hleave⟩ | ⟨s', n, hagain, -⟩
  · exact ⟨_, hleave⟩
  · exact ⟨_, hagain⟩

/-- `frameAt` is the frame at the front of a list, with its length. -/
structure Scanner (α β : Type) where
  need : Nat
  need_pos : 0 < need
  frameAt : List α → Option (β × Nat)
  within : ∀ {rest f n}, frameAt rest = some (f, n) → 0 < n ∧ n ≤ rest.length

namespace Scanner

variable (sc : Scanner α β)

def frames (rest : List α) : List β :=
  if rest.length < sc.need then []
  else match _h : sc.frameAt rest with
    | some (f, n) => f :: frames (rest.drop n)
    | none => frames (rest.drop 1)
termination_by rest.length
decreasing_by
  · have hwithin := sc.within _h
    rw [List.length_drop]
    omega
  · have hneed := sc.need_pos
    rw [List.length_drop]
    omega

theorem frames_stop {rest : List α} (h : rest.length < sc.need) : sc.frames rest = [] := by
  rw [frames, if_pos h]

theorem frames_take {rest : List α} {f : β} {n : Nat} (hneed : ¬ rest.length < sc.need)
    (h : sc.frameAt rest = some (f, n)) : sc.frames rest = f :: sc.frames (rest.drop n) := by
  rw [frames, if_neg hneed]
  split
  · rename_i hframe
    cases hframe.symm.trans h
    rfl
  · rename_i hframe
    cases hframe.symm.trans h

theorem frames_skip {rest : List α} (hneed : ¬ rest.length < sc.need) (h : sc.frameAt rest = none) :
    sc.frames rest = sc.frames (rest.drop 1) := by
  rw [frames, if_neg hneed]
  split
  · rename_i hframe
    cases hframe.symm.trans h
  · rfl

/-- The rounds of the loop are those of the scanner; `count` goes up by the weight of what is taken. -/
structure Follows (l : Loop ε (σ × List α) ρ) (count : σ → Nat) (result : ρ → Nat) (weight : β → Nat) : Prop where
  stop : ∀ s rest, rest.length < sc.need → ∃ r, l.round (s, rest) = .ok (.leave r) ∧ result r = count s
  skip : ∀ s rest, ¬ rest.length < sc.need → sc.frameAt rest = none →
    ∃ s', l.round (s, rest) = .ok (.again (s', rest.drop 1)) ∧ count s' = count s
  take : ∀ s rest f n, ¬ rest.length < sc.need → sc.frameAt rest = some (f, n) →
    ∃ s', l.round (s, rest) = .ok (.again (s', rest.drop n)) ∧ count s' = count s + weight f

variable {sc} {l : Loop ε (σ × List α) ρ} {count : σ → Nat} {result : ρ → Nat} {weight : β → Nat}

theorem Follows.advances (h : sc.Follows l count result weight) : l.Advances := by
  intro s rest
  by_cases hneed : rest.length < sc.need
  · obtain ⟨r, hround, -⟩ := h.stop s rest hneed
    exact Or.inl ⟨r, hround⟩
  · right
    cases hframe : sc.frameAt rest with
    | none =>
      obtain ⟨s', hround, -⟩ := h.skip s rest hneed hframe
      have hpos := sc.need_pos
      exact ⟨s', 1, hround, by omega, by omega⟩
    | some fn =>
      obtain ⟨s', hround, -⟩ := h.take s rest fn.1 fn.2 hneed hframe
      obtain ⟨hpos, hle⟩ := sc.within hframe
      exact ⟨s', fn.2, hround, hpos, hle⟩

theorem Follows.run_eq (h : sc.Follows l count result weight) {s : σ} {rest : List α} {r : ρ}
    (hrun : l.run (s, rest) = .ok r) : result r = count s + ((sc.frames rest).map weight).sum := by
  induction hn : rest.length using Nat.strongRecOn generalizing s rest with
  | ind n ih =>
    rw [l.run_eq] at hrun
    by_cases hneed : rest.length < sc.need
    · obtain ⟨r', hround, hcount⟩ := h.stop s rest hneed
      rw [hround, ok_bind] at hrun
      cases hrun
      rw [sc.frames_stop hneed]
      simpa using hcount
    · have hpos := sc.need_pos
      cases hframe : sc.frameAt rest with
      | none =>
        obtain ⟨s', hround, hcount⟩ := h.skip s rest hneed hframe
        rw [hround, ok_bind] at hrun
        rw [sc.frames_skip hneed hframe, ← hcount]
        exact ih _ (by rw [List.length_drop]; omega) hrun rfl
      | some fn =>
        obtain ⟨f, k⟩ := fn
        obtain ⟨s', hround, hcount⟩ := h.take s rest f k hneed hframe
        obtain ⟨hk, hle⟩ := sc.within hframe
        rw [hround, ok_bind] at hrun
        have hrest := ih _ (by rw [List.length_drop]; omega) hrun rfl
        rw [sc.frames_take hneed hframe, List.map_cons, List.sum_cons, hrest, hcount]
        omega

end Scanner

end PerGo.Core
