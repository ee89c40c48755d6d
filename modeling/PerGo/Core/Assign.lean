import PerGo.Core.Assoc

/-!
# Assignments one after another, and all at once

An assignment computes a value from a whole association list and writes it under its key.

* `sequential`: each assignment reads what the ones before it have written; `simultaneous`: all read the
  list as it was.
* `undisturbed_iff`: the keys get the simultaneous values exactly when no assignment computes anything else
  for what stood before it.
-/
namespace PerGo.Core.Assoc

variable {κ α : Type}

structure Assignment (κ α : Type) where
  key : κ
  value : List (κ × α) → α

variable [DecidableEq κ]

def sequential (m : List (κ × α)) (as : List (Assignment κ α)) : List (κ × α) :=
  as.foldl (fun m a => setKey m a.key (a.value m)) m

/-- The values that the assignments have on `m`. -/
def valuesOn (m : List (κ × α)) (as : List (Assignment κ α)) : List (κ × α) := as.map fun a => (a.key, a.value m)

def simultaneous (m : List (κ × α)) (as : List (Assignment κ α)) : List (κ × α) := merge m (valuesOn m as)

/-- No assignment takes notice of the ones before it. -/
def Undisturbed (m : List (κ × α)) (as : List (Assignment κ α)) : Prop :=
  ∀ before a rest, as = before ++ a :: rest → a.value (simultaneous m before) = a.value m

variable {m : List (κ × α)} {as before rest : List (Assignment κ α)} {a : Assignment κ α}

theorem sequential_append (m : List (κ × α)) (before rest : List (Assignment κ α)) :
    sequential m (before ++ rest) = sequential (sequential m before) rest :=
  List.foldl_append

theorem sequential_concat (m : List (κ × α)) (before : List (Assignment κ α)) (a : Assignment κ α) :
    sequential m (before ++ [a]) = setKey (sequential m before) a.key (a.value (sequential m before)) :=
  sequential_append m before [a]

theorem simultaneous_concat (m : List (κ × α)) (before : List (Assignment κ α)) (a : Assignment κ α) :
    simultaneous m (before ++ [a]) = setKey (simultaneous m before) a.key (a.value m) := by
  unfold simultaneous valuesOn merge
  rw [List.map_append, List.foldl_append]
  rfl

theorem Undisturbed.of_append (h : Undisturbed m (before ++ rest)) : Undisturbed m before := by
  intro before' a rest' heq
  refine h before' a (rest' ++ rest) ?_
  rw [heq, List.append_assoc]
  rfl

theorem undisturbed_iff_getElem? :
    Undisturbed m as ↔ ∀ i (a : Assignment κ α), as[i]? = some a → a.value (simultaneous m (as.take i)) = a.value m := by
  constructor
  · intro h i a ha
    obtain ⟨hi, hget⟩ := List.getElem?_eq_some_iff.mp ha
    refine h (as.take i) a (as.drop (i + 1)) ?_
    rw [← hget, List.getElem_cons_drop, List.take_append_drop]
  · intro h before a rest heq
    have hvalue := h before.length a (by rw [heq, List.getElem?_append_right (Nat.le_refl _), Nat.sub_self]; rfl)
    rwa [heq, List.take_left] at hvalue

theorem Undisturbed.sequential_eq (h : Undisturbed m as) : sequential m as = simultaneous m as := by
  induction as using List.reverseRecOn with
  | nil => rfl
  | append_singleton before a ih =>
    have heq := ih h.of_append
    rw [sequential_concat, simultaneous_concat, heq, h before a [] rfl]

variable [BEq κ] [LawfulBEq κ]

theorem lookup_sequential_of_not_mem {k : κ} (h : k ∉ as.map (·.key)) :
    (sequential m as).lookup k = m.lookup k := by
  induction as generalizing m with
  | nil => rfl
  | cons a as ih =>
    rw [List.map_cons, List.mem_cons, not_or] at h
    have hrest := ih (m := setKey m a.key (a.value m)) h.2
    rw [lookup_setKey, if_neg h.1] at hrest
    exact hrest

theorem lookup_sequential (hkeys : (as.map (·.key)).Nodup) (heq : as = before ++ a :: rest) :
    (sequential m as).lookup a.key = some (a.value (sequential m before)) := by
  rw [heq, List.map_append, List.map_cons] at hkeys
  have hlater : a.key ∉ rest.map (·.key) := (List.nodup_cons.mp (List.nodup_append.mp hkeys).2.1).1
  rw [heq, sequential_append]
  show (sequential (setKey _ a.key _) rest).lookup a.key = _
  rw [lookup_sequential_of_not_mem hlater, lookup_setKey, if_pos rfl]

theorem undisturbed_iff (hkeys : (as.map (·.key)).Nodup) :
    (∀ a ∈ as, (sequential m as).lookup a.key = some (a.value m)) ↔ Undisturbed m as := by
  constructor
  · intro h
    -- by induction on the assignments before: they have written the simultaneous values
    have hvalue : ∀ before a rest, as = before ++ a :: rest → a.value (sequential m before) = a.value m := by
      intro before a rest heq
      have hmem : a ∈ as := heq ▸ List.mem_append_right _ List.mem_cons_self
      have hlookup := h a hmem
      rw [lookup_sequential hkeys heq] at hlookup
      exact Option.some.inj hlookup
    have hbefore : ∀ before rest, as = before ++ rest → sequential m before = simultaneous m before := by
      intro before
      induction before using List.reverseRecOn with
      | nil => exact fun _ _ => rfl
      | append_singleton before a ih =>
        intro rest heq
        have hsplit : as = before ++ a :: rest := by rw [heq, List.append_assoc]; rfl
        rw [sequential_concat, simultaneous_concat, hvalue before a rest hsplit, ih (a :: rest) hsplit]
    intro before a rest heq
    rw [← hbefore before (a :: rest) heq]
    exact hvalue before a rest heq
  · intro h a hmem
    obtain ⟨before, rest, heq⟩ := List.append_of_mem hmem
    have hbefore : Undisturbed m before := (heq ▸ h).of_append
    rw [lookup_sequential hkeys heq, hbefore.sequential_eq, h before a rest heq]

end PerGo.Core.Assoc
