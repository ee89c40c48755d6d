import PerGo.Core.LTS
import PerGo.Core.Table
import PerGo.L2Domain.Message

/-!
# The session manager

`session/manager.go`, the pairing of `session/qr.go` and `ActiveSession` of
`session/registry.go`, over the WhatsApp rows of `connections`. Calls of `ReconnectAll`, of
`onPairingSuccess`, session goroutines and event handlers interleave in any order; a step is one write of the
table, one use of a lock, or one outcome of the client.

* A session is named by its position in `St.sessions`, which keeps every session ever added.
* The jitter and the semaphore of `ReconnectAll` only delay its goroutines. Adding a session, registering its
  handler and starting its goroutine are one step, since the goroutine acts only when `Run` returns.
* `parseJID` gives `jid.String()`, the registry's key, of a stored JID.
-/
namespace PerGo.L3.Sessions

open PerGo.Core PerGo.L1 PerGo.L2

/-! ## Data -/

/-- `connections.status`. mirrors session/device.go:11-15 -/
inductive DeviceStatus
  | connected
  | disconnected
  | disconnectedBanned
  | terminal
  | pending
  /-- of a connection created over MCP -/
  | pairing
  /-- of the other channels -/
  | active
deriving DecidableEq

/-- mirrors manager.go:41-49 -/
inductive SessionState
  | initializing
  | connecting
  | connected
  | disconnected
  | disconnectedBanned
  | reconnecting
  | terminal
deriving DecidableEq

/-- A row of `connections`. -/
structure Device where
  id : UUID
  workspaceID : UUID
  channel : String
  jid : Option String
  senderIdentity : String
  status : DeviceStatus
  connectedSince : Option Time

/-- An error, with the code of the `IQError` in its chain. -/
structure ClientError where
  iqCode : Option Int := none
  text : String
deriving DecidableEq

/-- mirrors whatsapp/adapter.go:268-284 -/
def isTerminalWhatsAppError (e : ClientError) : Bool :=
  e.iqCode = some 401 || e.iqCode = some 403 ||
    ["403", "401", "logged out", "unpaired", "banned"].any (containsStr (toLower e.text))

def ClientError.wrap (e : ClientError) (text : String) : ClientError := { e with text := text ++ ": " ++ e.text }

inductive RunPc
  | running
  /-- `Run` has returned the error -/
  | returned (err : Option ClientError)
  /-- the ban is stored and not yet announced -/
  | bannedStored
  /-- about to store `disconnected` -/
  | closing
  | closed
  /-- about to leave the registry -/
  | leaving
  | done
deriving DecidableEq

/-- mirrors registry.go:13-21 -/
structure Session where
  deviceID : UUID
  workspaceID : UUID
  senderIdentity : String
  /-- `jid.String()` -/
  jid : String
  cancelled : Bool
  pc : RunPc
deriving DecidableEq

/-- Where a `ReconnectAll` goroutine is with its device. -/
inductive CallPc
  | listed
  | createBanned (err : ClientError)
  /-- the session is added -/
  | connecting
  | connected
  /-- `reconnectDevice` returned the error -/
  | failed (err : ClientError)
  | failedStored
  | done

structure Call where
  device : Device
  pc : CallPc

inductive HandlerPc
  | received
  | stored
  | emitted
  | done

/-- A `LoggedOut` event in the handler of a session. -/
structure Handler where
  session : Nat
  pc : HandlerPc

/-- The arguments of `onPairingSuccess`; `jid` and `user` are the client's. -/
structure PairRequest where
  workspaceID : UUID
  connID : UUID
  jid : String
  user : String
  phone : String
  isExisting : Bool

inductive PairPc
  | persisted
  | registered
  | done

structure Pairing where
  req : PairRequest
  pc : PairPc

/-- mirrors manager.go:27-36 -/
structure ConnectionStatusEvent where
  workspaceID : UUID
  connectionID : UUID
  channel : String
  senderIdentity : String
  status : SessionState

structure St where
  devices : List Device
  health : GoMap UUID SessionState
  registry : GoMap String Nat
  sessions : List Session
  calls : List Call
  handlers : List Handler
  pairings : List Pairing
  /-- what is handed to the publisher -/
  events : List ConnectionStatusEvent

def init (devices : List Device) : St := ⟨devices, .empty, .empty, [], [], [], [], []⟩

inductive Answer
  | ok (now : Time)
  | err (e : ClientError)
  /-- the call's context is cancelled -/
  | cancelled

inductive Lbl
  | reconnectAll
  | reconnect (c : Nat) (ans : Answer)
  | runReturn (i : Nat) (err : Option ClientError)
  | exit (i : Nat) (ans : Answer)
  | loggedOut (i : Nat)
  | handle (h : Nat) (ans : Answer)
  | pair (req : PairRequest) (ans : Answer)
  | pairing (p : Nat)

/-! ## The table, the registry and the health map -/

/-- A banned or terminal row is locked against `disconnected` only. mirrors repository/connection.go:292-312 -/
def updateStatus (devices : List Device) (id : UUID) (status : DeviceStatus) (now : Time) : List Device :=
  let set (d : Device) : Device :=
    { d with
      status := status
      connectedSince := if status = .connected ∨ status = .active then some now else d.connectedSince }
  if status = .disconnected then
    updateWhere (fun d => d.id = id && d.status ∉ [.terminal, .disconnectedBanned]) set devices
  else updateWhere (fun d => d.id = id) set devices

def statusOf (devices : List Device) (id : UUID) : Option DeviceStatus :=
  (devices.find? fun d => d.id = id).map (·.status)

theorem statusOf_updateStatus (devices : List Device) (id : UUID) (status : DeviceStatus) (now : Time) (d : UUID) :
    statusOf (updateStatus devices id status now) d = (statusOf devices d).map fun old =>
      if d = id ∧ (status = .disconnected → old ∉ [.terminal, .disconnectedBanned]) then status else old := by
  have hfind : ∀ (p : Device → Bool) (f : Device → Device), (∀ x, (f x).id = x.id ∧ (f x).status = status) →
      statusOf (updateWhere p f devices) d =
        (devices.find? fun x => x.id = d).map fun x => if p x then status else x.status := by
    intro p f hf
    unfold statusOf
    rw [find?_updateWhere fun x => by rw [(hf x).1], Option.map_map]
    congr 1
    funext x
    simp only [Function.comp_apply]
    split
    · exact (hf x).2
    · rfl
  have hid : ∀ x, (devices.find? fun x => x.id = d) = some x → x.id = d := fun x hx => by
    simpa using List.find?_some hx
  unfold updateStatus
  simp only
  split
  · rename_i hst
    refine (hfind _ _ ?_).trans ?_
    · intro x
      exact ⟨rfl, rfl⟩
    · unfold statusOf
      rw [Option.map_map]
      refine Option.map_congr fun x hx => ?_
      simp [hid x hx, hst]
  · rename_i hst
    refine (hfind _ _ ?_).trans ?_
    · intro x
      exact ⟨rfl, rfl⟩
    · unfold statusOf
      rw [Option.map_map]
      refine Option.map_congr fun x hx => ?_
      simp [hid x hx, hst]

/-- `UpdateStatus` with what the database answers. -/
def St.write (s : St) (ans : Answer) (id : UUID) (status : DeviceStatus) : St :=
  match ans with
  | .ok now => { s with devices := updateStatus s.devices id status now }
  | _ => s

/-- mirrors manager.go:139-181 -/
def St.emitStatusEvent (s : St) (ws id : UUID) (sender : String) (state : SessionState) : St :=
  { s with
    health := s.health.set id state
    events := s.events ++ [⟨ws, id, "whatsapp", sender, state⟩] }

/-- `session.Cancel()`. -/
def St.cancel (s : St) (i : Nat) : St :=
  { s with sessions := s.sessions.modify i fun x => { x with cancelled := true } }

/-- mirrors registry.go:37-45 -/
def St.add (s : St) (sess : Session) : St :=
  let s := match s.registry sess.jid with
    | some old => s.cancel old
    | none => s
  { s with sessions := s.sessions ++ [sess], registry := s.registry.set sess.jid s.sessions.length }

/-- mirrors registry.go:48-52 -/
def St.remove (s : St) (jid : String) : St := { s with registry := s.registry.del jid }

/-- mirrors registry.go:55-59 -/
def St.get (s : St) (jid : String) : Option Nat := s.registry jid

def St.setCall (s : St) (c : Nat) (call : Call) (pc : CallPc) : St :=
  { s with calls := s.calls.set c { call with pc := pc } }

def St.setSession (s : St) (i : Nat) (sess : Session) (pc : RunPc) : St :=
  { s with sessions := s.sessions.set i { sess with pc := pc } }

def St.setHandler (s : St) (h : Nat) (hd : Handler) (pc : HandlerPc) : St :=
  { s with handlers := s.handlers.set h { hd with pc := pc } }

def St.setPairing (s : St) (p : Nat) (pr : Pairing) (pc : PairPc) : St :=
  { s with pairings := s.pairings.set p { pr with pc := pc } }

/-! ## Reconnecting -/

/-- mirrors manager.go:312-331 -/
def reconnectable (d : Device) : Bool :=
  d.channel = "whatsapp" && (d.jid.any fun j => j ≠ "") && d.status ∉ [.terminal, .disconnectedBanned]

/-- A goroutine for each device that is not skipped. mirrors manager.go:305-374 -/
def reconnectAll (s : St) : St :=
  { s with calls := s.calls ++ (s.devices.filter reconnectable).map fun d => ⟨d, .listed⟩ }

section Steps

variable (parseJID : String → Option String)

/-- The client for a device is created, and its session added. mirrors manager.go:382-433 -/
def createClient (s : St) (c : Nat) (call : Call) (ans : Answer) : Option St :=
  let d := call.device
  match d.jid.bind parseJID, ans with
  | none, .err e =>
    some ((s.emitStatusEvent d.workspaceID d.id d.senderIdentity .disconnected).setCall c call
      (.failed (e.wrap "parse JID")))
  | some jid, .ok _ =>
    some ((s.add ⟨d.id, d.workspaceID, d.senderIdentity, jid, false, .running⟩).setCall c call .connecting)
  | some _, .err e =>
    if isTerminalWhatsAppError e then
      some ((s.emitStatusEvent d.workspaceID d.id d.senderIdentity .disconnectedBanned).setCall c call (.createBanned e))
    else
      some ((s.emitStatusEvent d.workspaceID d.id d.senderIdentity .disconnected).setCall c call
        (.failed (e.wrap "create whatsapp client")))
  | _, _ => none

/-- The next step of a `ReconnectAll` goroutine. mirrors manager.go:334-369, 380-479 -/
def reconnect (s : St) (c : Nat) (call : Call) (ans : Answer) : Option St :=
  let d := call.device
  match call.pc, ans with
  | .listed, .cancelled => some (s.setCall c call .done)
  | .listed, ans => createClient parseJID s c call ans
  | .createBanned e, ans =>
    some ((s.write ans d.id .disconnectedBanned).setCall c call (.failed (e.wrap "create whatsapp client")))
  | .connecting, .ok now => some ((s.write (.ok now) d.id .connected).setCall c call .connected)
  | .connecting, .err e => some (s.setCall c call (.failed e))
  | .connecting, .cancelled => some (s.setCall c call (.failed { text := "context canceled" }))
  | .connected, _ =>
    some ((s.emitStatusEvent d.workspaceID d.id d.senderIdentity .connected).setCall c call .done)
  | .failed e, ans =>
    if isTerminalWhatsAppError e then some ((s.write ans d.id .disconnectedBanned).setCall c call .failedStored)
    else some ((s.write ans d.id .disconnected).setCall c call .done)
  | .failedStored, _ =>
    some ((s.emitStatusEvent d.workspaceID d.id d.senderIdentity .disconnectedBanned).setCall c call .done)
  | .done, _ => none

/-! ## Session goroutines and events -/

/-- `Run` returns nil only when the session is cancelled. mirrors whatsapp/client.go:196-208 -/
def runReturn (s : St) (i : Nat) (sess : Session) (err : Option ClientError) : Option St :=
  if sess.pc = .running ∧ (err = none → sess.cancelled) then some (s.setSession i sess (.returned err)) else none

/-- What a goroutine does after `Run`. mirrors manager.go:436-469, qr.go:604-633 -/
def exit (s : St) (i : Nat) (sess : Session) (ans : Answer) : Option St :=
  match sess.pc with
  | .running => none
  | .returned err =>
    if err.any isTerminalWhatsAppError then
      some ((s.write ans sess.deviceID .disconnectedBanned).setSession i sess .bannedStored)
    else if s.health sess.deviceID ∈ [some .disconnectedBanned, some .terminal] then some (s.setSession i sess .leaving)
    else some (s.setSession i sess .closing)
  | .bannedStored =>
    some ((s.emitStatusEvent sess.workspaceID sess.deviceID sess.senderIdentity .disconnectedBanned).setSession i sess
      .leaving)
  | .closing => some ((s.write ans sess.deviceID .disconnected).setSession i sess .closed)
  | .closed =>
    some ((s.emitStatusEvent sess.workspaceID sess.deviceID sess.senderIdentity .disconnected).setSession i sess .leaving)
  | .leaving => some ((s.remove sess.jid).setSession i sess .done)
  | .done => none

/-- mirrors manager.go:490-505 -/
def handle (s : St) (h : Nat) (hd : Handler) (sess : Session) (ans : Answer) : Option St :=
  match hd.pc with
  | .received => some ((s.write ans sess.deviceID .disconnectedBanned).setHandler h hd .stored)
  | .stored =>
    some ((s.emitStatusEvent sess.workspaceID sess.deviceID sess.senderIdentity .disconnectedBanned).setHandler h hd
      .emitted)
  | .emitted => some ((s.cancel hd.session).setHandler h hd .done)
  | .done => none

/-! ## Pairing -/

/-- mirrors qr.go:531-534 -/
def PairRequest.actualPhone (r : PairRequest) : String := if r.user = "" then r.phone else r.user

/-- The row is written, unless another has the sender identity or a new one has a used id.
mirrors qr.go:536-576 -/
def pairDevices (devices : List Device) (r : PairRequest) (now : Time) : Option (List Device) :=
  let taken := devices.any fun d => d.senderIdentity = r.actualPhone && d.id ≠ r.connID
  let known := devices.any fun d => d.id = r.connID
  if r.isExisting then
    if known ∧ taken then none
    else some (updateWhere (fun d => d.id = r.connID)
      (fun d => { d with
        jid := some r.jid
        senderIdentity := r.actualPhone
        status := .connected
        connectedSince := some now }) devices)
  else if known ∨ taken ∨ r.workspaceID = UUID.Nil then none
  else some (devices ++ [⟨r.connID, r.workspaceID, "whatsapp", some r.jid, r.actualPhone, .connected, some now⟩])

/-- `onPairingSuccess` begins with the row. -/
def pair (s : St) (r : PairRequest) (ans : Answer) : Option St :=
  match ans with
  | .ok now =>
    (pairDevices s.devices r now).map fun devices => { s with devices := devices, pairings := s.pairings ++ [⟨r, .persisted⟩] }
  | _ => some s

/-- mirrors qr.go:579-601, 636 -/
def pairing (s : St) (p : Nat) (pr : Pairing) : Option St :=
  let r := pr.req
  match pr.pc with
  | .persisted =>
    some ((s.add ⟨r.connID, r.workspaceID, r.actualPhone, r.jid, false, .running⟩).setPairing p pr .registered)
  | .registered =>
    some ((s.emitStatusEvent r.workspaceID r.connID r.actualPhone .connected).setPairing p pr .done)
  | .done => none

/-! ## The system -/

def step (s : St) : Lbl → Option St
  | .reconnectAll => some (reconnectAll s)
  | .reconnect c ans => s.calls[c]?.bind fun call => reconnect parseJID s c call ans
  | .runReturn i err => s.sessions[i]?.bind fun sess => runReturn s i sess err
  | .exit i ans => s.sessions[i]?.bind fun sess => exit s i sess ans
  | .loggedOut i => s.sessions[i]?.map fun _ => { s with handlers := s.handlers ++ [⟨i, .received⟩] }
  | .handle h ans => s.handlers[h]?.bind fun hd => s.sessions[hd.session]?.bind fun sess => handle s h hd sess ans
  | .pair req ans => pair s req ans
  | .pairing p => s.pairings[p]?.bind fun pr => pairing s p pr

def sys (devices : List Device) : LTS St Lbl := .ofFn (init devices) (step parseJID)

end Steps

/-! ## What a function leaves alone -/

@[simp] theorem St.write_calls (s : St) (ans : Answer) (id : UUID) (status : DeviceStatus) :
    (s.write ans id status).calls = s.calls := by
  cases ans <;> rfl

@[simp] theorem St.write_sessions (s : St) (ans : Answer) (id : UUID) (status : DeviceStatus) :
    (s.write ans id status).sessions = s.sessions := by
  cases ans <;> rfl

@[simp] theorem St.write_registry (s : St) (ans : Answer) (id : UUID) (status : DeviceStatus) :
    (s.write ans id status).registry = s.registry := by
  cases ans <;> rfl

@[simp] theorem St.add_devices (s : St) (sess : Session) : (s.add sess).devices = s.devices := by
  unfold St.add
  split <;> rfl

@[simp] theorem St.add_calls (s : St) (sess : Session) : (s.add sess).calls = s.calls := by
  unfold St.add
  split <;> rfl

end PerGo.L3.Sessions
