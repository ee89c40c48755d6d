import Mathlib.Data.List.Basic
import Mathlib.Data.List.Forall2

/-!
# Calls that may panic

A Go call returns a value, returns an error, or panics. `Result` has the three ends and is a monad;
`Safe` says that a call does not panic.

* `safe_bind_iff`: a sequence is safe when its first call is, and the next for each value of it.
* `foldlM_ok`, `mapM_ok`: a loop returns when every round does; `foldlM_inv`, `foldlM_of_mem`: what it keeps,
  and what one round makes; `mapM_eq_ok_iff`: it returns what the rounds return.
* `index`, `slice`, `quotient`: the expressions that panic, and when they do not.
-/
namespace PerGo.Core

inductive Result (ε α : Type)
  | ok (a : α)
  | error (e : ε)
  | panic
deriving DecidableEq

namespace Result

variable {ε α β : Type}

protected def bind : Result ε α → (α → Result ε β) → Result ε β
  | .ok a, f => f a
  | .error e, _ => .error e
  | .panic, _ => .panic

instance : Monad (Result ε) where
  pure := .ok
  bind := Result.bind

@[simp] theorem pure_eq (a : α) : (pure a : Result ε α) = .ok a := rfl

@[simp] theorem ok_bind (a : α) (f : α → Result ε β) : (Result.ok a >>= f) = f a := rfl

@[simp] theorem error_bind (e : ε) (f : α → Result ε β) : (Result.error e >>= f) = .error e := rfl

@[simp] theorem panic_bind (f : α → Result ε β) : (Result.panic >>= f) = .panic := rfl

def Safe (x : Result ε α) : Prop := x ≠ .panic

instance [DecidableEq ε] [DecidableEq α] (x : Result ε α) : Decidable x.Safe := inferInstanceAs (Decidable (x ≠ .panic))

@[simp] theorem safe_ok (a : α) : (Result.ok a : Result ε α).Safe := fun h => nomatch h

@[simp] theorem safe_error (e : ε) : (Result.error e : Result ε α).Safe := fun h => nomatch h

@[simp] theorem not_safe_panic : ¬ (Result.panic : Result ε α).Safe := fun h => h rfl

theorem safe_bind_iff {x : Result ε α} {f : α → Result ε β} :
    (x >>= f).Safe ↔ x.Safe ∧ ∀ a, x = .ok a → (f a).Safe := by
  cases x with
  | ok a =>
    constructor
    · intro h
      refine ⟨safe_ok a, ?_⟩
      rintro _ ⟨⟩
      exact h
    · exact fun h => h.2 a rfl
  | error e => simp
  | panic => simp

theorem safe_ite_iff {p : Prop} [Decidable p] {x y : Result ε α} :
    (if p then x else y).Safe ↔ (p → x.Safe) ∧ (¬ p → y.Safe) := by
  split
  · rename_i h
    simp [h]
  · rename_i h
    simp [h]

theorem bind_eq_ok_iff {x : Result ε α} {f : α → Result ε β} {b : β} :
    (x >>= f) = .ok b ↔ ∃ a, x = .ok a ∧ f a = .ok b := by
  cases x with
  | ok a => simp
  | error e => simp
  | panic => simp

instance : LawfulMonad (Result ε) :=
  LawfulMonad.mk' _ (fun x => by cases x <;> rfl) (fun _ _ => rfl) (fun x _ _ => by cases x <;> rfl)

/-! ## Loops -/

theorem foldlM_ok {σ : Type} {f : σ → α → Result ε σ} {l : List α} (h : ∀ a ∈ l, ∀ s, ∃ s', f s a = .ok s') (s : σ) :
    ∃ s', l.foldlM f s = .ok s' := by
  induction l generalizing s with
  | nil => exact ⟨s, rfl⟩
  | cons a l ih =>
    obtain ⟨s₁, hs₁⟩ := h a List.mem_cons_self s
    obtain ⟨s₂, hs₂⟩ := ih (fun b hb => h b (List.mem_cons_of_mem a hb)) s₁
    exact ⟨s₂, by rw [List.foldlM_cons, hs₁, ok_bind, hs₂]⟩

theorem foldlM_inv {σ : Type} {f : σ → α → Result ε σ} {I : σ → Prop} {l : List α}
    (hstep : ∀ a ∈ l, ∀ s s', I s → f s a = .ok s' → I s') {s s' : σ} (hs : I s) (h : l.foldlM f s = .ok s') : I s' := by
  induction l generalizing s with
  | nil =>
    cases h
    exact hs
  | cons a l ih =>
    rw [List.foldlM_cons] at h
    obtain ⟨s₁, hfirst, hrest⟩ := bind_eq_ok_iff.mp h
    exact ih (fun b hb => hstep b (List.mem_cons_of_mem a hb)) (hstep a List.mem_cons_self s s₁ hs hfirst) hrest

/-- What the round of one element makes, and the others keep. -/
theorem foldlM_of_mem {σ : Type} {f : σ → α → Result ε σ} {I Q : σ → Prop} {l : List α} {a : α} (ha : a ∈ l)
    (hI : ∀ b ∈ l, ∀ s s', I s → f s b = .ok s' → I s') (hQ : ∀ b ∈ l, ∀ s s', Q s → f s b = .ok s' → Q s')
    (hmake : ∀ s s', I s → f s a = .ok s' → Q s') {s s' : σ} (hs : I s) (h : l.foldlM f s = .ok s') : Q s' := by
  obtain ⟨before, behind, rfl⟩ := List.append_of_mem ha
  rw [List.foldlM_append] at h
  obtain ⟨s₁, hbefore, h⟩ := bind_eq_ok_iff.mp h
  rw [List.foldlM_cons] at h
  obtain ⟨s₂, hfirst, hbehind⟩ := bind_eq_ok_iff.mp h
  have hs₁ : I s₁ := foldlM_inv (fun b hb => hI b (List.mem_append_left _ hb)) hs hbefore
  exact foldlM_inv (fun b hb => hQ b (List.mem_append_right _ (List.mem_cons_of_mem a hb))) (hmake s₁ s₂ hs₁ hfirst) hbehind

theorem mapM_ok {f : α → Result ε β} {g : α → β} {l : List α} (h : ∀ a ∈ l, f a = .ok (g a)) :
    l.mapM f = .ok (l.map g) := by
  induction l with
  | nil => rfl
  | cons a l ih =>
    rw [List.mapM_cons, h a List.mem_cons_self, ok_bind, ih fun b hb => h b (List.mem_cons_of_mem a hb)]
    rfl

theorem exists_mapM_ok {f : α → Result ε β} {l : List α} (h : ∀ a ∈ l, ∃ b, f a = .ok b) :
    ∃ bs, l.mapM f = .ok bs := by
  induction l with
  | nil => exact ⟨[], rfl⟩
  | cons a l ih =>
    obtain ⟨b, hb⟩ := h a List.mem_cons_self
    obtain ⟨bs, hbs⟩ := ih fun c hc => h c (List.mem_cons_of_mem a hc)
    exact ⟨b :: bs, by rw [List.mapM_cons, hb, ok_bind, hbs]; rfl⟩

theorem length_mapM {f : α → Result ε β} {l : List α} {bs : List β} (h : l.mapM f = .ok bs) :
    bs.length = l.length := by
  induction l generalizing bs with
  | nil =>
    cases h
    rfl
  | cons a l ih =>
    rw [List.mapM_cons] at h
    obtain ⟨b, -, h⟩ := bind_eq_ok_iff.mp h
    obtain ⟨bs', hbs', h⟩ := bind_eq_ok_iff.mp h
    cases h
    rw [List.length_cons, List.length_cons, ih hbs']

theorem mapM_eq_ok_iff {f : α → Result ε β} {l : List α} {bs : List β} :
    l.mapM f = .ok bs ↔ List.Forall₂ (fun a b => f a = .ok b) l bs := by
  induction l generalizing bs with
  | nil =>
    rw [List.mapM_nil, pure_eq, List.forall₂_nil_left_iff, ok.injEq]
    exact eq_comm
  | cons a l ih =>
    rw [List.mapM_cons, bind_eq_ok_iff, List.forall₂_cons_left_iff]
    constructor
    · rintro ⟨b, hb, h⟩
      obtain ⟨bs', hbs', h⟩ := bind_eq_ok_iff.mp h
      exact ⟨b, bs', hb, ih.mp hbs', (ok.inj h).symm⟩
    · rintro ⟨b, bs', hb, hbs', rfl⟩
      exact ⟨b, hb, by rw [ih.mpr hbs']; rfl⟩

theorem mapM_eq_error {f : α → Result ε β} {l : List α} {e : ε} (h : l.mapM f = .error e) : ∃ a ∈ l, f a = .error e := by
  induction l with
  | nil => cases h
  | cons a l ih =>
    rw [List.mapM_cons] at h
    cases hfirst : f a with
    | error e' =>
      rw [hfirst, error_bind, error.injEq] at h
      exact ⟨a, List.mem_cons_self, by rw [hfirst, h]⟩
    | panic =>
      rw [hfirst] at h
      cases h
    | ok b =>
      rw [hfirst, ok_bind] at h
      cases hrest : l.mapM f with
      | ok bs =>
        rw [hrest] at h
        cases h
      | error e' =>
        rw [hrest, error_bind, error.injEq] at h
        obtain ⟨a', ha', herror⟩ := ih (by rw [hrest, h])
        exact ⟨a', List.mem_cons_of_mem a ha', herror⟩
      | panic =>
        rw [hrest] at h
        cases h

/-- The caller looks at the error and goes on either way. -/
def result {ε' : Type} (x : Result ε α) (f : α → Result ε' β) (h : ε → Result ε' β) : Result ε' β :=
  match x with
  | .ok a => f a
  | .error e => h e
  | .panic => .panic

theorem safe_result_iff {ε' : Type} {x : Result ε α} {f : α → Result ε' β} {h : ε → Result ε' β}
    (hf : ∀ a, (f a).Safe) (hh : ∀ e, (h e).Safe) : (x.result f h).Safe ↔ x.Safe := by
  cases x with
  | ok a => exact iff_of_true (hf a) (safe_ok a)
  | error e => exact iff_of_true (hh e) (safe_error e)
  | panic => exact Iff.rfl.trans (iff_of_false not_safe_panic not_safe_panic)

/-! ## Expressions -/

/-- `xs[i]`. -/
def index (xs : List α) (i : Nat) : Result ε α :=
  match xs[i]? with
  | some a => .ok a
  | none => .panic

/-- `xs[lo:hi]`. -/
def slice (xs : List α) (lo hi : Nat) : Result ε (List α) :=
  if lo ≤ hi ∧ hi ≤ xs.length then .ok ((xs.drop lo).take (hi - lo)) else .panic

/-- `a / b`, which rounds towards zero. -/
def quotient (a b : Int) : Result ε Int := if b = 0 then .panic else .ok (a.tdiv b)

theorem index_of_lt {xs : List α} {i : Nat} (h : i < xs.length) : (index xs i : Result ε α) = .ok xs[i] := by
  rw [index, List.getElem?_eq_getElem h]

@[simp] theorem index_cons_zero (a : α) (xs : List α) : (index (a :: xs) 0 : Result ε α) = .ok a := rfl

theorem slice_of_le {xs : List α} {lo hi : Nat} (h : lo ≤ hi) (h' : hi ≤ xs.length) :
    (slice xs lo hi : Result ε (List α)) = .ok ((xs.drop lo).take (hi - lo)) := if_pos ⟨h, h'⟩

/-- `xs[:n]`. -/
theorem slice_zero {xs : List α} {n : Nat} (h : n ≤ xs.length) :
    (slice xs 0 n : Result ε (List α)) = .ok (xs.take n) := by
  rw [slice_of_le (Nat.zero_le _) h, List.drop_zero, Nat.sub_zero]

/-- `xs[n:]`. -/
theorem slice_length {xs : List α} {n : Nat} (h : n ≤ xs.length) :
    (slice xs n xs.length : Result ε (List α)) = .ok (xs.drop n) := by
  rw [slice_of_le h (Nat.le_refl _), List.take_of_length_le (Nat.le_of_eq List.length_drop)]

theorem index_append {i : Nat} (front : List α) (a : α) (back : List α) (h : front.length = i) :
    (index (front ++ a :: back) i : Result ε α) = .ok a := by
  rw [index, ← h, List.getElem?_append_right (Nat.le_refl _), Nat.sub_self]
  rfl

theorem slice_append {lo hi : Nat} (front xs back : List α) (h : front.length = lo) (h' : lo + xs.length = hi) :
    (slice (front ++ (xs ++ back)) lo hi : Result ε (List α)) = .ok xs := by
  rw [slice_of_le (by omega) (by rw [List.length_append, List.length_append]; omega), ← h, List.drop_left,
    List.take_left' (by omega)]

theorem quotient_of_ne {a b : Int} (h : b ≠ 0) : (quotient a b : Result ε Int) = .ok (a.tdiv b) := if_neg h

@[simp] theorem quotient_zero (a : Int) : (quotient a 0 : Result ε Int) = .panic := if_pos rfl

end Result

end PerGo.Core
