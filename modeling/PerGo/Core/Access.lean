import Mathlib.Data.List.Basic

/-!
# Computations that record whose data they touch

`Access ω ε α` is a computation that touches data of owners in `ω`, in order,
and then fails with an `ε` or returns an `α`. What was touched before a failure
stays touched.

`Within P x Q` is its specification: every owner `x` touches satisfies `P`, and
every value it returns satisfies `Q`. There is one rule for each way to build a
computation, so that a proof about a program follows its text.
-/
namespace PerGo.Core

structure Access (ω ε α : Type) where
  touched : List ω
  result : Except ε α

namespace Access

variable {ω ε α β : Type}

def bind (x : Access ω ε α) (f : α → Access ω ε β) : Access ω ε β :=
  match x.result with
  | .error e => ⟨x.touched, .error e⟩
  | .ok a => ⟨x.touched ++ (f a).touched, (f a).result⟩

instance : Monad (Access ω ε) where
  pure a := ⟨[], .ok a⟩
  bind := bind

def touch (w : ω) : Access ω ε Unit := ⟨[w], .ok ()⟩

def fail (e : ε) : Access ω ε α := ⟨[], .error e⟩

/-- Fails with `e` unless `c` holds. -/
def require (c : Bool) (e : ε) : Access ω ε Unit := if c then pure () else fail e

/-- The value, or the failure `e`. -/
def orFail (o : Option α) (e : ε) : Access ω ε α :=
  match o with
  | none => fail e
  | some a => pure a

def fetch (owner : α → ω) (row : Option α) : Access ω ε (Option α) :=
  match row with
  | none => pure none
  | some a => ⟨[owner a], .ok (some a)⟩

def mapError (f : ε → ε) (x : Access ω ε α) : Access ω ε α := ⟨x.touched, x.result.mapError f⟩

def fetchAll (owner : α → ω) (rows : List α) : Access ω ε (List α) := ⟨rows.map owner, .ok rows⟩

/-- Runs `x` and goes on whether it failed or not. -/
def attempt (x : Access ω ε α) : Access ω ε (Except ε α) := ⟨x.touched, .ok x.result⟩

/-- Only owners in `P` are touched, and what is returned satisfies `Q`. -/
structure Within (P : ω → Prop) (x : Access ω ε α) (Q : α → Prop) : Prop where
  touched : ∀ w ∈ x.touched, P w
  result : ∀ a, x.result = .ok a → Q a

namespace Within

variable {P : ω → Prop} {Q Q' : α → Prop}

theorem pure {a : α} (h : Q a) : Within P (Pure.pure a : Access ω ε α) Q := by
  refine ⟨fun w hw => ?_, fun b hb => ?_⟩
  · cases hw
  · cases hb
    exact h

theorem fail {e : ε} : Within P (Access.fail e : Access ω ε α) Q := by
  refine ⟨fun w hw => ?_, fun b hb => ?_⟩
  · cases hw
  · cases hb

theorem touch {w : ω} (h : P w) : Within P (Access.touch w : Access ω ε Unit) fun _ => True := by
  refine ⟨fun v hv => ?_, fun _ _ => trivial⟩
  rw [List.mem_singleton.mp hv]
  exact h

theorem bind {x : Access ω ε α} {f : α → Access ω ε β} {R : β → Prop} (hx : Within P x Q)
    (hf : ∀ a, Q a → Within P (f a) R) : Within P (x >>= f) R := by
  show Within P (Access.bind x f) R
  unfold Access.bind
  split
  · exact ⟨hx.touched, fun b hb => by cases hb⟩
  · rename_i a ha
    have h := hf a (hx.result a ha)
    refine ⟨fun w hw => ?_, h.result⟩
    rcases List.mem_append.mp hw with hw | hw
    · exact hx.touched w hw
    · exact h.touched w hw

theorem mono {x : Access ω ε α} (hx : Within P x Q) (h : ∀ a, Q a → Q' a) : Within P x Q' :=
  ⟨hx.touched, fun a ha => h a (hx.result a ha)⟩

theorem require {c : Bool} {e : ε} : Within P (Access.require c e : Access ω ε Unit) fun _ => c = true := by
  unfold Access.require
  split
  · rename_i hc
    exact Within.pure hc
  · exact Within.fail

theorem orFail {o : Option α} {e : ε} : Within P (Access.orFail o e : Access ω ε α) fun a => o = some a := by
  unfold Access.orFail
  split
  · exact Within.fail
  · exact Within.pure rfl

theorem fetch {owner : α → ω} {row : Option α} (h : ∀ a, row = some a → P (owner a)) :
    Within P (Access.fetch owner row : Access ω ε (Option α)) fun r => r = row := by
  unfold Access.fetch
  split
  · exact Within.pure rfl
  · rename_i a
    refine ⟨fun v hv => ?_, fun b hb => ?_⟩
    · rw [List.mem_singleton.mp hv]
      exact h a rfl
    · cases hb
      rfl

theorem fetchAll {owner : α → ω} {rows : List α} (h : ∀ a ∈ rows, P (owner a)) :
    Within P (Access.fetchAll owner rows : Access ω ε (List α)) fun _ => True := by
  refine ⟨fun v hv => ?_, fun _ _ => trivial⟩
  obtain ⟨a, ha, rfl⟩ := List.mem_map.mp hv
  exact h a ha

theorem mapError {f : ε → ε} {x : Access ω ε α} (hx : Within P x Q) : Within P (x.mapError f) Q := by
  refine ⟨hx.touched, fun a ha => ?_⟩
  apply hx.result a
  cases hr : x.result with
  | error e => simp [Access.mapError, Except.mapError, hr] at ha
  | ok b => simpa [Access.mapError, Except.mapError, hr] using ha

theorem attempt {x : Access ω ε α} (hx : Within P x Q) :
    Within P x.attempt fun r => ∀ a, r = .ok a → Q a := by
  refine ⟨hx.touched, fun r hr => ?_⟩
  cases hr
  exact hx.result

theorem ite {c : Prop} [Decidable c] {x y : Access ω ε α} (hx : c → Within P x Q) (hy : ¬ c → Within P y Q) :
    Within P (if c then x else y) Q := by
  split
  · rename_i h
    exact hx h
  · rename_i h
    exact hy h

end Within

end Access

end PerGo.Core
