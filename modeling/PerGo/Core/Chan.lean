import PerGo.Core.Result

/-!
# Buffered channels

A Go channel with room for `cap` values that nobody waits on: what a `select` with a `default` does to it, and
`close`. Sending to a closed channel and closing one again panic.

* `trySend_open`: a send to an open channel puts the value in, or finds the buffer full.
* `buf_dropOldest`, `recv_eq_some`: what a receive takes is the oldest value.
-/
namespace PerGo.Core

variable {ε α : Type} {cap : Nat}

structure Chan (α : Type) (cap : Nat) where
  buf : List α
  closed : Bool
  bound : buf.length ≤ cap

namespace Chan

/-- `make(chan α, cap)` -/
def make : Chan α cap := ⟨[], false, Nat.zero_le cap⟩

/-- `select { case ch <- a: default: }`; the flag is whether the value went in. -/
def trySend (ch : Chan α cap) (a : α) : Result ε (Chan α cap × Bool) :=
  if ch.closed then .panic
  else if h : ch.buf.length < cap then
    .ok (⟨ch.buf ++ [a], false, by rw [List.length_append]; exact h⟩, true)
  else .ok (ch, false)

/-- `select { case <-ch: default: }` on an open channel -/
def dropOldest (ch : Chan α cap) : Chan α cap :=
  ⟨ch.buf.tail, ch.closed, by rw [List.length_tail]; exact Nat.le_trans (Nat.sub_le _ _) ch.bound⟩

/-- `<-ch`; `none` is a reader that waits, or sees the channel closed. -/
def recv (ch : Chan α cap) : Option (α × Chan α cap) :=
  match ch.buf with
  | [] => none
  | a :: _ => some (a, ch.dropOldest)

/-- `close(ch)` -/
def close (ch : Chan α cap) : Result ε (Chan α cap) :=
  if ch.closed then .panic else .ok { ch with closed := true }

@[simp] theorem buf_make : (make : Chan α cap).buf = [] := rfl

@[simp] theorem closed_make : (make : Chan α cap).closed = false := rfl

@[simp] theorem buf_dropOldest (ch : Chan α cap) : ch.dropOldest.buf = ch.buf.tail := rfl

@[simp] theorem closed_dropOldest (ch : Chan α cap) : ch.dropOldest.closed = ch.closed := rfl

theorem recv_eq_some {ch ch' : Chan α cap} {a : α} (h : ch.recv = some (a, ch')) :
    ch.buf = a :: ch'.buf ∧ ch'.closed = ch.closed := by
  unfold recv at h
  cases hbuf : ch.buf with
  | nil =>
    rw [hbuf] at h
    cases h
  | cons b rest =>
    rw [hbuf] at h
    cases h
    simp [hbuf]

theorem close_open {ch : Chan α cap} (h : ch.closed = false) :
    (ch.close : Result ε (Chan α cap)) = .ok { ch with closed := true } := by
  rw [close, if_neg (by simp [h])]

theorem trySend_open {ch : Chan α cap} (h : ch.closed = false) (a : α) :
    (∃ ch', (ch.trySend a : Result ε (Chan α cap × Bool)) = .ok (ch', true) ∧ ch'.buf = ch.buf ++ [a] ∧
        ch'.closed = false ∧ ch.buf.length < cap) ∨
      (ch.trySend a : Result ε (Chan α cap × Bool)) = .ok (ch, false) ∧ ch.buf.length = cap := by
  have hbound := ch.bound
  unfold trySend
  rw [if_neg (by simp [h])]
  split
  · rename_i hroom
    exact .inl ⟨_, rfl, rfl, rfl, hroom⟩
  · exact .inr ⟨rfl, by omega⟩

end Chan

end PerGo.Core
