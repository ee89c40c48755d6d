import Mathlib.Data.List.Induction

/-!
# Publish-side deduplication

A store that keeps a published message unless, within a time window, it holds
one of the same topic with the same id. What is dropped so is not reported to
the publisher, so a publisher has to choose its ids such that two messages
with one id have one payload.

* `stored`: what is kept of a sequence of publishes.
* `Clash`: two publishes of which the store can drop the second although its
  payload is new.
* `stored_of_noClash`: without a clash every payload is kept.
-/
namespace PerGo.Core.DedupStream

/-- `topic = none`: no store takes the message. `id = none`: it is not deduplicated. -/
structure Msg (π : Type) where
  topic : Option String
  id : Option String
  payload : π
  time : Int

section Store

variable {π : Type} (window : Int)

/-- `m'` is there and hides `m`. -/
def Hides (m' m : Msg π) : Prop :=
  m'.topic = m.topic ∧ m.id ≠ none ∧ m'.id = m.id ∧ m.time - m'.time < window

instance (m' m : Msg π) : Decidable (Hides window m' m) := inferInstanceAs (Decidable (_ ∧ _))

def publish (kept : List (Msg π)) (m : Msg π) : List (Msg π) :=
  if ∃ m' ∈ kept, Hides window m' m then kept else kept ++ [m]

def stored (msgs : List (Msg π)) : List (Msg π) := msgs.foldl (publish window) []

theorem stored_append (msgs : List (Msg π)) (m : Msg π) :
    stored window (msgs ++ [m]) = publish window (stored window msgs) m := by
  simp [stored]

theorem stored_subset (msgs : List (Msg π)) : ∀ m ∈ stored window msgs, m ∈ msgs := by
  induction msgs using List.reverseRecOn with
  | nil => exact fun _ h => h
  | append_singleton msgs x ih =>
    intro m hm
    rw [stored_append, publish] at hm
    split at hm
    · exact List.mem_append_left _ (ih m hm)
    · rcases List.mem_append.mp hm with hm | hm
      · exact List.mem_append_left _ (ih m hm)
      · exact List.mem_append_right _ hm

/-- The second message can be dropped although its payload is new. -/
def Clash (m' m : Msg π) : Prop := m.topic ≠ none ∧ Hides window m' m ∧ m'.payload ≠ m.payload

instance [DecidableEq π] (m' m : Msg π) : Decidable (Clash window m' m) := inferInstanceAs (Decidable (_ ∧ _))

def NoClash (msgs : List (Msg π)) : Prop := msgs.Pairwise fun m' m => ¬ Clash window m' m

instance [DecidableEq π] (msgs : List (Msg π)) : Decidable (NoClash window msgs) :=
  inferInstanceAs (Decidable (List.Pairwise _ _))

def AllStored (msgs : List (Msg π)) : Prop :=
  ∀ m ∈ msgs, m.topic ≠ none →
    ∃ m' ∈ stored window msgs, m'.topic = m.topic ∧ m'.id = m.id ∧ m'.payload = m.payload

theorem stored_of_noClash {msgs : List (Msg π)} (h : NoClash window msgs) : AllStored window msgs := by
  induction msgs using List.reverseRecOn with
  | nil => exact fun _ hm => by cases hm
  | append_singleton msgs x ih =>
    obtain ⟨hmsgs, _, hx⟩ := List.pairwise_append.mp h
    intro m hm htop
    rw [stored_append, publish]
    rcases List.mem_append.mp hm with hm | hm
    · -- what was kept before stays
      obtain ⟨m', hm', heq⟩ := ih hmsgs m hm htop
      refine ⟨m', ?_, heq⟩
      split
      · exact hm'
      · exact List.mem_append_left _ hm'
    · rw [List.mem_singleton.mp hm] at htop ⊢
      split
      · rename_i hhid
        obtain ⟨m', hm', hh⟩ := hhid
        have hno := hx m' (stored_subset window msgs m' hm') x (List.mem_singleton_self x)
        refine ⟨m', hm', hh.1, hh.2.2.1, ?_⟩
        exact Classical.byContradiction fun hne => hno ⟨htop, hh, hne⟩
      · exact ⟨x, List.mem_append_right _ (List.mem_singleton_self x), rfl, rfl, rfl⟩

end Store

end PerGo.Core.DedupStream
