import PerGo.L2Domain.Message

/-!
# Circuit breaker

`breaker/breaker.go`: per endpoint, closed until
`maxFailures` failures in a row, open for `resetTimeout`, then one probe.
-/
namespace PerGo.L3

open PerGo.Core PerGo.L2

/-- mirrors breaker.go:11-15 -/
inductive BreakerState
  | closed
  | opened
  | halfOpen
deriving DecidableEq

structure EndpointBreaker where
  state : BreakerState := .closed
  consecutiveFailures : Nat := 0
  openUntil : Time := 0

structure CircuitBreaker where
  endpoints : GoMap String EndpointBreaker
  maxFailures : Nat
  resetTimeout : Time

namespace CircuitBreaker

/-- mirrors breaker.go:30-42 -/
def new (maxFailures : Int) (resetTimeout : Time) : CircuitBreaker where
  endpoints := GoMap.empty
  maxFailures := if maxFailures ≤ 0 then 5 else maxFailures.toNat
  resetTimeout := if resetTimeout ≤ 0 then 300 * second else resetTimeout

/-- `false` is `ErrCircuitOpen`.
mirrors breaker.go:44-59 -/
def allow (cb : CircuitBreaker) (now : Time) (endpoint : String) : CircuitBreaker × Bool :=
  match cb.endpoints endpoint with
  | none => (cb, true)
  | some ep =>
    if ep.state = .closed then (cb, true)
    else if ep.state = .halfOpen ∨ now < ep.openUntil then (cb, false)
    else ({ cb with endpoints := cb.endpoints.set endpoint { ep with state := .halfOpen } }, true)

/-- mirrors breaker.go:61-70 -/
def recordSuccess (cb : CircuitBreaker) (endpoint : String) : CircuitBreaker :=
  match cb.endpoints endpoint with
  | none => cb
  | some _ => { cb with endpoints := cb.endpoints.set endpoint {} }

def failed (cb : CircuitBreaker) (now : Time) (ep : EndpointBreaker) : EndpointBreaker :=
  if ep.state = .halfOpen then
    { state := .opened, consecutiveFailures := cb.maxFailures, openUntil := now + cb.resetTimeout }
  else if cb.maxFailures ≤ ep.consecutiveFailures + 1 then
    { state := .opened, consecutiveFailures := ep.consecutiveFailures + 1, openUntil := now + cb.resetTimeout }
  else { ep with consecutiveFailures := ep.consecutiveFailures + 1 }

/-- mirrors breaker.go:82-104 -/
def recordFailure (cb : CircuitBreaker) (now : Time) (endpoint : String) : CircuitBreaker :=
  { cb with endpoints := cb.endpoints.set endpoint (cb.failed now ((cb.endpoints endpoint).getD {})) }

end CircuitBreaker

end PerGo.L3
