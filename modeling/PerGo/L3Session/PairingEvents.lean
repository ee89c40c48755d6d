import PerGo.Core.Chan
import PerGo.Core.LTS
import PerGo.L2Domain.UUID

/-!
# The events of a pairing session

`PairingSession` of `session/qr.go` as its subscribers see it: `Subscribe`, `broadcast` and `closeWithEvent`
under the lock of the session, and the readers of the channels, who take what is there at any time.

* A subscriber is named by its position in `St.subs`, which keeps every channel that was handed out.
* The loops over `ps.subscribers` go from one channel operation to the next (`Op`), so that a reader may come in
  between; a map has no order, so the label names the channel that is next.
* `emitted` and `final` are not in the code: the events that have been the latest, oldest first, and the one the
  session was closed with.
-/
namespace PerGo.L3.PairingEvents

open PerGo.Core PerGo.L2

/-- mirrors qr.go:47-55 -/
structure QREvent where
  status : String
  code : String
  qrDataURL : String
  pairingCode : String
  expiresAt : Option Time
  message : String
  connectionID : Option UUID
deriving DecidableEq

/-- `make(chan QREvent, 16)` -/
abbrev EventChan := Chan QREvent 16

/-- A channel that `Subscribe` returned, and what its reader has taken from it. -/
structure Subscriber where
  chan : EventChan
  received : List QREvent
  /-- the events emitted before the one that was the latest when it subscribed -/
  start : Nat
  /-- nothing is left to do for its `unsub` function -/
  spent : Bool
  /-- its `unsub` function has closed the channel -/
  left : Bool

def Subscriber.drained (sub : Subscriber) : List QREvent := sub.received ++ sub.chan.buf

/-- Where the loop of `broadcast` is with a channel. -/
inductive Stage
  | next
  /-- the buffer was full -/
  | full (i : Nat)
  /-- the oldest event was taken out, if there was one -/
  | dropped (i : Nat)
deriving DecidableEq

/-- Who holds the lock, and the channels it has yet to visit. -/
inductive Op
  | free
  | broadcasting (evt : QREvent) (pending : List Nat) (stage : Stage)
  | closing (evt : QREvent) (pending : List Nat)
deriving DecidableEq

/-- mirrors qr.go:58-68 -/
structure St where
  latestEvent : QREvent
  closed : Bool
  subscribers : List Nat
  subs : List Subscriber
  op : Op
  emitted : List QREvent
  final : Option QREvent

inductive Lbl
  | subscribe
  | unsubscribe (i : Nat)
  | broadcast (evt : QREvent)
  | closeWithEvent (evt : QREvent)
  /-- the loop goes on with a channel -/
  | visit (i : Nat)
  | dropOldest
  | retry
  /-- the loop is through, the lock is given back -/
  | finish
  | receive (i : Nat)

/-- The event a new session begins with. -/
def firstEvent (connID : UUID) : QREvent := ⟨"pending", "", "", "", none, "Waiting for QR code...", some connID⟩

/-- mirrors qr.go:71-86 -/
def init (connID : UUID) : St := ⟨firstEvent connID, false, [], [], .free, [firstEvent connID], none⟩

abbrev Res := Result Empty

def primed (latest : QREvent) : Res EventChan :=
  if latest.status ≠ "" then do
    let (ch, _) ← Chan.make.trySend latest
    return ch
  else .ok .make

/-- mirrors qr.go:116-149 -/
def subscribe (s : St) : Res St := do
  let ch ← primed s.latestEvent
  if s.closed then
    let ch ← ch.close
    return { s with subs := s.subs ++ [⟨ch, [], s.emitted.length - 1, true, false⟩] }
  else
    return { s with
      subs := s.subs ++ [⟨ch, [], s.emitted.length - 1, false, false⟩], subscribers := s.subscribers ++ [s.subs.length] }

def setSub (s : St) (i : Nat) (sub : Subscriber) : St := { s with subs := s.subs.set i sub }

/-- mirrors qr.go:139-148 -/
def unsubscribe (s : St) (i : Nat) (sub : Subscriber) : Res St :=
  if i ∈ s.subscribers then do
    let ch ← sub.chan.close
    return setSub { s with subscribers := s.subscribers.erase i } i { sub with chan := ch, spent := true, left := true }
  else .ok (setSub s i { sub with spent := true })

/-- The first of the three selects of a round. mirrors qr.go:159-161 -/
def broadcastTo (s : St) (evt : QREvent) (pending : List Nat) (i : Nat) (sub : Subscriber) : Res St := do
  let (ch, sent) ← sub.chan.trySend evt
  return setSub { s with op := .broadcasting evt (pending.erase i) (if sent then .next else .full i) } i
    { sub with chan := ch }

/-- The third one. mirrors qr.go:168-171 -/
def retryTo (s : St) (evt : QREvent) (pending : List Nat) (i : Nat) (sub : Subscriber) : Res St := do
  let (ch, _) ← sub.chan.trySend evt
  return setSub { s with op := .broadcasting evt pending .next } i { sub with chan := ch }

/-- One round of the loop of `closeWithEvent`. A reader between its two steps finds what it finds behind them.
mirrors qr.go:189-194 -/
def closeTo (s : St) (evt : QREvent) (pending : List Nat) (i : Nat) (sub : Subscriber) : Res St := do
  let (ch, _) ← sub.chan.trySend evt
  let ch ← ch.close
  return setSub { s with op := .closing evt (pending.erase i), subscribers := s.subscribers.erase i } i
    { sub with chan := ch }

/-- One step, when the label is enabled. -/
def step (s : St) : Lbl → Option (Res St)
  | .subscribe => if s.op = .free then some (subscribe s) else none
  | .unsubscribe i =>
    match s.subs[i]? with
    | none => none
    | some sub => if sub.spent then some (.ok s) else if s.op = .free then some (unsubscribe s i sub) else none
  | .broadcast evt =>
    -- no look at `closed`
    if s.op = .free then
      some (.ok { s with latestEvent := evt, op := .broadcasting evt s.subscribers .next, emitted := s.emitted ++ [evt] })
    else none
  | .closeWithEvent evt =>
    if s.op = .free then
      if s.closed then some (.ok s)
      else some (.ok { s with
        closed := true, latestEvent := evt, op := .closing evt s.subscribers, emitted := s.emitted ++ [evt],
        final := some evt })
    else none
  | .visit i =>
    match s.op, s.subs[i]? with
    | .broadcasting evt pending .next, some sub =>
      if i ∈ pending then some (broadcastTo s evt pending i sub) else none
    | .closing evt pending, some sub => if i ∈ pending then some (closeTo s evt pending i sub) else none
    | _, _ => none
  | .dropOldest =>
    match s.op with
    | .broadcasting evt pending (.full i) =>
      (s.subs[i]?).map fun sub =>
        .ok (setSub { s with op := .broadcasting evt pending (.dropped i) } i { sub with chan := sub.chan.dropOldest })
    | _ => none
  | .retry =>
    match s.op with
    | .broadcasting evt pending (.dropped i) => (s.subs[i]?).map fun sub => retryTo s evt pending i sub
    | _ => none
  | .finish =>
    match s.op with
    | .broadcasting _ [] .next | .closing _ [] => some (.ok { s with op := .free })
    | _ => none
  | .receive i =>
    match s.subs[i]? with
    | none => none
    | some sub => sub.chan.recv.map fun (evt, ch) =>
        .ok (setSub s i { sub with chan := ch, received := sub.received ++ [evt] })

def sys (connID : UUID) : LTS St Lbl := ⟨fun s => s = init connID, fun s l s' => step s l = some (.ok s')⟩

end PerGo.L3.PairingEvents
