import PerGo.Core.LTS
import PerGo.L2Domain.UUID

/-!
# Pairing sessions

The pairing of `session/qr.go` and `session/manager.go`: `pairingSessions`, one map for phones and
for connection IDs written as text, and `pairingCancels`, both under the manager's lock. A step is one critical section,
or one outcome of a client or of a pairing loop.

* A session is named by its position in `St.sessions`, which keeps every session ever started.
* `cancelledBy` holds the workspaces whose calls cancelled the session's context.
* The check of the connection limit comes before the lock and only refuses a start. What a loop broadcasts to its
  subscribers touches no map.
-/
namespace PerGo.L3.Pairing

open PerGo.Core PerGo.L2

/-- Why a pairing loop returns. mirrors qr.go:372-477 -/
inductive LoopEnd
  | cancelled
  | timeout
  | channelClosed
  | success
  | failed
deriving DecidableEq

inductive LoopPc
  /-- in the maps, its client not connected yet -/
  | starting
  | running
  /-- the loop has returned, and the cleanup is scheduled -/
  | ended (how : LoopEnd)
  | cleaned
deriving DecidableEq

/-- mirrors qr.go:58-67 -/
structure PairingSession where
  phone : String
  workspaceID : UUID
  connectionID : UUID
  cancelledBy : List UUID
  pc : LoopPc
deriving DecidableEq

structure St where
  sessions : List PairingSession
  pairingSessions : GoMap String Nat
  pairingCancels : GoMap UUID Nat

def init : St := ⟨[], .empty, .empty⟩

/-- `client` is what creating and connecting the client of a start gives. -/
inductive Lbl
  | start (ws : UUID) (phone : String) (connID : UUID)
  | client (i : Nat) (ok : Bool)
  | loopEnd (i : Nat) (how : LoopEnd)
  | cleanup (i : Nat)
  | cancelPairing (ws connID : UUID)
  | cancelPairingByPhone (ws : UUID) (phone : String)

def St.lookup (s : St) (key : String) : Option (Nat × PairingSession) := do
  let n ← s.pairingSessions key
  let ps ← s.sessions[n]?
  return (n, ps)

/-- `ps.cancel()`, called for `ws`. -/
def St.cancel (s : St) (n : Nat) (ws : UUID) : St :=
  { s with sessions := s.sessions.modify n fun ps => { ps with cancelledBy := ws :: ps.cancelledBy } }

/-- `if phone != "" { delete(m.pairingSessions, phone) }`. -/
def delPhone (m : GoMap String Nat) (phone : String) : GoMap String Nat := if phone = "" then m else m.del phone

/-- The session under a phone goes. mirrors qr.go:279-286, manager.go:271-276 -/
def dropPhone (s : St) (ws : UUID) (phone : String) : St :=
  match s.lookup phone with
  | some (n, ps) =>
    { s.cancel n ws with
      pairingCancels := s.pairingCancels.del ps.connectionID
      pairingSessions := (s.pairingSessions.del phone).del ps.connectionID.string }
  | none => s

/-- The session under a connection goes. mirrors qr.go:287-294 -/
def dropConnection (s : St) (ws connID : UUID) : St :=
  match s.lookup connID.string with
  | some (n, ps) =>
    { s.cancel n ws with
      pairingCancels := s.pairingCancels.del ps.connectionID
      pairingSessions := (delPhone s.pairingSessions ps.phone).del connID.string }
  | none => s

/-- mirrors qr.go:296-316 -/
def register (s : St) (ws : UUID) (phone : String) (connID : UUID) : St :=
  let j := s.sessions.length
  let named := if phone = "" then s.pairingSessions else s.pairingSessions.set phone j
  { sessions := s.sessions ++ [⟨phone, ws, connID, [], .starting⟩]
    pairingSessions := named.set connID.string j
    pairingCancels := s.pairingCancels.set connID j }

/-- The critical section of a start. mirrors qr.go:278-317 -/
def start (s : St) (ws : UUID) (phone : String) (connID : UUID) : St :=
  let s := if phone = "" then s else dropPhone s ws phone
  register (dropConnection s ws connID) ws phone connID

/-- mirrors qr.go:348-356 -/
def cleanupSession (s : St) (phone : String) (connID : UUID) : St :=
  { s with
    pairingSessions := (delPhone s.pairingSessions phone).del connID.string
    pairingCancels := s.pairingCancels.del connID }

/-- mirrors manager.go:250-263 -/
def cancelPairing (s : St) (ws connID : UUID) : St :=
  let s := match s.pairingCancels connID with
    | some n => { s.cancel n ws with pairingCancels := s.pairingCancels.del connID }
    | none => s
  match s.lookup connID.string with
  | some (_, ps) => { s with pairingSessions := delPhone (s.pairingSessions.del connID.string) ps.phone }
  | none => s

/-- mirrors manager.go:265-277 -/
def cancelPairingByPhone (s : St) (ws : UUID) (phone : String) : St :=
  if phone = "" then s else dropPhone s ws phone

def St.setPc (s : St) (i : Nat) (ps : PairingSession) (pc : LoopPc) : St :=
  { s with sessions := s.sessions.set i { ps with pc := pc } }

/-- A start that fails cleans up and cancels its own context. mirrors qr.go:319-345 -/
def client (s : St) (i : Nat) (ps : PairingSession) (ok : Bool) : Option St :=
  if ps.pc ≠ .starting then none
  else if ok then some (s.setPc i ps .running)
  else some ((cleanupSession s ps.phone ps.connectionID).setPc i
    { ps with cancelledBy := ps.workspaceID :: ps.cancelledBy } .cleaned)

/-- mirrors qr.go:358-479 -/
def loopEnd (s : St) (i : Nat) (ps : PairingSession) (how : LoopEnd) : Option St :=
  if ps.pc = .running ∧ (how = .cancelled → ps.cancelledBy ≠ []) then some (s.setPc i ps (.ended how)) else none

/-- The cleanup 30 seconds after the loop. mirrors qr.go:366-370 -/
def cleanup (s : St) (i : Nat) (ps : PairingSession) : Option St :=
  match ps.pc with
  | .ended _ => some ((cleanupSession s ps.phone ps.connectionID).setPc i ps .cleaned)
  | _ => none

def step (s : St) : Lbl → Option St
  | .start ws phone connID => some (start s ws phone connID)
  | .client i ok => s.sessions[i]?.bind fun ps => client s i ps ok
  | .loopEnd i how => s.sessions[i]?.bind fun ps => loopEnd s i ps how
  | .cleanup i => s.sessions[i]?.bind fun ps => cleanup s i ps
  | .cancelPairing ws connID => some (cancelPairing s ws connID)
  | .cancelPairingByPhone ws phone => some (cancelPairingByPhone s ws phone)

def sys : LTS St Lbl := .ofFn init step

end PerGo.L3.Pairing
