import PerGo.Core.Table
import PerGo.L2Domain.Campaign

/-!
# BroadcasterEngine

`campaign/engine.go` over `repository/campaign.go`, for one campaign.
Every operation is the sequence of the calls it makes on the repositories, the
publisher, the rate limiter and `Ingest`; between two calls anything else may happen.

* `Store` is what the calls read and write: the campaign row, its recipient rows, the
  tasks in the CAMPAIGNS stream and the ids published to it.
* `Cmd` is one call and `exec` its effect, given what the outside answers (`Answer`).
  A call that fails leaves the store as it was; only a publish may have been stored
  although it reports an error.
* `Point` is a place in an operation before one of its calls, with the variables that
  live there. `Point.cmd` is the call, `Point.next` where its answer leads: to the next
  call, or to the return of the operation.

The text and the template of the message handed to `Ingest` are not modelled, nor the
audit rows, nor how long the limiter and the delay between batches wait.
-/
namespace PerGo.L3.Campaign

open PerGo.Core PerGo.L1 PerGo.L2

/-! ## The store -/

/-- The tasks of the CAMPAIGNS stream. mirrors domain/campaign.go:97-113 -/
inductive Task
  | start
  | batch (recipients : List CampaignRecipient) (delaySeconds : Int)
deriving DecidableEq

/-- `phones`: `campaign_recipients` has a unique index on campaign and phone. -/
structure Store where
  camp : L2.Campaign
  rows : List CampaignRecipientRecord
  phones : (rows.map (·.phone)).Nodup
  queue : List Task
  published : List String

/-- One call of an operation. -/
inductive Cmd
  | getByID
  | updateStatus (status : CampaignStatus)
  | listPendingRecipients
  | claimDueScheduledCampaigns (now : Time)
  | rollbackClaim
  | listContactsByTag
  | addRecipients (records : List CampaignRecipientRecord)
  | publish (task : Task) (msgID : String)
  | wait
  | getOrCreateDispatch (to_ : String)
  | ingest (to_ : String)
  | updateRecipientStatusByPhone (phone : String) (status : RecipientStatus) (error : Option String)
  | updateCounters (sentInc failedInc : Int)
  | sleep
  | completeIfDone

structure Answer where
  /-- the call fails -/
  err : Option GoError
  /-- the stream has the message although the publish failed -/
  stored : Bool
  /-- the stream drops a message whose id it has seen -/
  duplicate : Bool
  /-- a due campaign is among the rows the claim picks -/
  claimed : Bool
  /-- the contacts of a tag -/
  contacts : UUID → Except GoError (List TagContact)
  /-- the status of the dispatch row -/
  dispatchStatus : String
  /-- `time.Now().UnixNano()` -/
  now : Int

def pendingRecipients (rows : List CampaignRecipientRecord) : List CampaignRecipient :=
  (rows.filter fun r => r.status = .pending).map fun r => ⟨r.phone, r.variables_⟩

/-- `INSERT … ON CONFLICT (campaign_id, phone) DO NOTHING`. -/
def insertRow (rows : List CampaignRecipientRecord) (r : CampaignRecipientRecord) : List CampaignRecipientRecord :=
  if r.phone ∈ rows.map (·.phone) then rows else rows ++ [r]

def insertRows (rows records : List CampaignRecipientRecord) : List CampaignRecipientRecord :=
  records.foldl insertRow rows

theorem insertRow_phones {rows : List CampaignRecipientRecord} (h : (rows.map (·.phone)).Nodup)
    (r : CampaignRecipientRecord) : ((insertRow rows r).map (·.phone)).Nodup := by
  unfold insertRow
  split
  · exact h
  · rename_i hr
    rw [List.map_append, List.nodup_append]
    refine ⟨h, by simp, ?_⟩
    intro a ha b hb
    simp only [List.map_cons, List.map_nil, List.mem_singleton] at hb
    rintro rfl
    exact hr (hb ▸ ha)

theorem insertRows_phones {rows : List CampaignRecipientRecord} (h : (rows.map (·.phone)).Nodup)
    (records : List CampaignRecipientRecord) : ((insertRows rows records).map (·.phone)).Nodup := by
  induction records generalizing rows with
  | nil => exact h
  | cons r records ih => exact ih (insertRow_phones h r)

/-- Status and error of the row of a phone. mirrors repository/campaign.go:467-484 -/
def setRowStatus (phone : String) (status : RecipientStatus) (error : Option String)
    (rows : List CampaignRecipientRecord) : List CampaignRecipientRecord :=
  updateWhere (fun r => r.phone = phone) (fun r => { r with status := status, errorMessage := error }) rows

theorem setRowStatus_phones (phone : String) (status : RecipientStatus) (error : Option String)
    (rows : List CampaignRecipientRecord) :
    (setRowStatus phone status error rows).map (·.phone) = rows.map (·.phone) := by
  unfold setRowStatus
  apply map_updateWhere
  intro r
  rfl

namespace Store

def setStatus (s : Store) (status : CampaignStatus) : Store :=
  { s with camp := { s.camp with status := status } }

/-- Rows that are not done. mirrors repository/campaign.go:452-464 -/
def unfinished (s : Store) : Bool := s.rows.any fun r => r.status = .pending || r.status = .processing

/-- The claim takes the campaign. mirrors repository/campaign.go:364-423 -/
def claims (s : Store) (now : Time) (a : Answer) : Bool :=
  s.camp.status = .scheduled && (s.camp.scheduledAt.any fun t => t ≤ now) && a.claimed

/-- The publish reaches the queue: the stream keeps it, and has not seen its id. -/
def enqueues (s : Store) (msgID : String) (a : Answer) : Bool :=
  (a.err.isNone || a.stored) && !(a.duplicate && s.published.contains msgID)

/-- The effect of a call that does not fail, and of a publish in any case. -/
def exec (s : Store) (a : Answer) : Cmd → Store
  | .publish task msgID =>
    if s.enqueues msgID a then { s with queue := s.queue ++ [task], published := msgID :: s.published } else s
  | cmd =>
    if a.err.isSome then s
    else match cmd with
      | .updateStatus status => s.setStatus status
      | .claimDueScheduledCampaigns now => if s.claims now a then s.setStatus .sending else s
      | .rollbackClaim => if s.camp.status = .sending then s.setStatus .scheduled else s
      | .completeIfDone => if s.camp.status = .sending && !s.unfinished then s.setStatus .completed else s
      | .addRecipients records =>
        if records = [] then s else
        { s with rows := insertRows s.rows records, phones := insertRows_phones s.phones records
                 camp := { s.camp with totalRecipients := (insertRows s.rows records).length } }
      | .updateRecipientStatusByPhone phone status error =>
        { s with rows := setRowStatus phone status error s.rows
                 phones := by rw [setRowStatus_phones]; exact s.phones }
      | .updateCounters sentInc failedInc =>
        { s with camp := { s.camp with sentRecipients := s.camp.sentRecipients + sentInc
                                       failedRecipients := s.camp.failedRecipients + failedInc } }
      | _ => s

end Store

/-! ## The operations -/

/-- The dependencies of the engine that may be nil. -/
structure Engine where
  dispatchRepo : Bool
  ingestor : Bool
  tagLister : Bool

inductive Op
  | start
  | pause
  | resume
  | cancel
  | triggerDue
  | startTask
  | batchTask
deriving DecidableEq

/-- The variables of the loop of `ProcessBatchTask`: the recipient in hand and those after it. -/
structure BatchVars where
  all : List CampaignRecipient
  delaySeconds : Int
  camp : L2.Campaign
  recipient : CampaignRecipient
  rest : List CampaignRecipient
deriving DecidableEq

/-- Numbered batches still to be published. -/
abbrev Batches := List (Nat × List CampaignRecipient)

/-- A place before a call. `matches_` is `scope.Matches(camp.WorkspaceID)`, `camp` the row the operation
read, `err` the error it is going to return. -/
inductive Point
  | startRead (matches_ : Bool)
  | startWrite (camp : L2.Campaign)
  | startPublish (camp : L2.Campaign)
  | startRollback (initialStatus : CampaignStatus) (err : String)
  | pauseRead (matches_ : Bool)
  | pauseWrite (camp : L2.Campaign)
  | resumeRead (matches_ : Bool)
  | resumeWrite (camp : L2.Campaign)
  | resumeList (camp : L2.Campaign)
  | resumeComplete
  | resumePublish (camp : L2.Campaign) (resumeCycle : Int) (idx : Nat) (batch : List CampaignRecipient)
      (rest : Batches)
  | cancelRead (matches_ : Bool)
  | cancelWrite (camp : L2.Campaign)
  | triggerClaim (now : Time)
  | triggerPublish
  | triggerRollback
  | taskRead
  | taskResolve (camp : L2.Campaign)
  | taskFail (camp : L2.Campaign) (err : String)
  | taskComplete (camp : L2.Campaign)
  | taskAdd (camp : L2.Campaign) (allRecords : List CampaignRecipientRecord)
      (mergedRecipients : List CampaignRecipient)
  | taskSending (camp : L2.Campaign) (mergedRecipients : List CampaignRecipient)
  | taskPublish (camp : L2.Campaign) (idx : Nat) (batch : List CampaignRecipient) (rest : Batches)
  | batchRead (recipients : List CampaignRecipient) (delaySeconds : Int)
  | batchWait (v : BatchVars) (first : Bool)
  | batchCheck (v : BatchVars)
  | batchDispatch (v : BatchVars)
  | batchMarkSent (v : BatchVars)
  | batchIngest (v : BatchVars)
  | batchRowSent (v : BatchVars)
  | batchCountSent (v : BatchVars)
  | batchCountFailed (v : BatchVars) (err : String)
  | batchRowFailed (v : BatchVars) (err : String)
  | batchSleep (all : List CampaignRecipient) (delaySeconds : Int)
  | batchComplete (all : List CampaignRecipient) (delaySeconds : Int)
deriving DecidableEq

namespace Point

def op : Point → Op
  | startRead _ | startWrite _ | startPublish _ | startRollback .. => .start
  | pauseRead _ | pauseWrite _ => .pause
  | resumeRead _ | resumeWrite _ | resumeList _ | resumeComplete | resumePublish .. => .resume
  | cancelRead _ | cancelWrite _ => .cancel
  | triggerClaim _ | triggerPublish | triggerRollback => .triggerDue
  | taskRead | taskResolve _ | taskFail .. | taskComplete _ | taskAdd .. | taskSending .. | taskPublish .. => .startTask
  | batchRead .. | batchWait .. | batchCheck _ | batchDispatch _ | batchMarkSent _ | batchIngest _
  | batchRowSent _ | batchCountSent _ | batchCountFailed .. | batchRowFailed .. | batchSleep ..
  | batchComplete .. => .batchTask

/-- The task the worker has in hand at a point of `ProcessStartTask` or `ProcessBatchTask`. -/
def task : Point → Option Task
  | taskRead | taskResolve _ | taskFail .. | taskComplete _ | taskAdd .. | taskSending .. | taskPublish .. =>
    some .start
  | batchRead rs delay => some (.batch rs delay)
  | batchWait v _ | batchCheck v | batchDispatch v | batchMarkSent v | batchIngest v | batchRowSent v
  | batchCountSent v | batchCountFailed v _ | batchRowFailed v _ => some (.batch v.all v.delaySeconds)
  | batchSleep all delay | batchComplete all delay => some (.batch all delay)
  | _ => none

/-- `campaign_<id>_start`. -/
def startMsgID (id : UUID) : String := "campaign_" ++ id.string ++ "_start"

/-- The call made at a point; `id` is the campaign's. -/
def cmd (id : UUID) : Point → Cmd
  | startRead _ | pauseRead _ | resumeRead _ | cancelRead _ | taskRead | batchRead .. | batchCheck _ => .getByID
  | startWrite _ | resumeWrite _ | taskSending .. => .updateStatus .sending
  | startPublish _ | triggerPublish => .publish .start (startMsgID id)
  | startRollback initialStatus _ => .updateStatus initialStatus
  | pauseWrite _ => .updateStatus .paused
  | resumeList _ => .listPendingRecipients
  | resumeComplete | taskComplete _ => .updateStatus .completed
  | resumePublish camp cycle idx batch _ => .publish (.batch batch camp.delaySeconds)
      ("campaign_" ++ id.string ++ "_resumed_" ++ formatInt cycle ++ "_batch_" ++ formatInt idx)
  | cancelWrite _ => .updateStatus .cancelled
  | triggerClaim now => .claimDueScheduledCampaigns now
  | triggerRollback => .rollbackClaim
  | taskResolve _ => .listContactsByTag
  | taskFail .. => .updateStatus .failed
  | taskAdd _ allRecords _ => .addRecipients allRecords
  | taskPublish camp idx batch _ => .publish (.batch batch camp.delaySeconds)
      ("campaign_" ++ id.string ++ "_batch_" ++ formatInt idx)
  | batchWait .. => .wait
  | batchDispatch v => .getOrCreateDispatch v.recipient.to_
  | batchMarkSent v | batchRowSent v => .updateRecipientStatusByPhone v.recipient.to_ .sent none
  | batchIngest v => .ingest v.recipient.to_
  | batchCountSent _ => .updateCounters 1 0
  | batchCountFailed .. => .updateCounters 0 1
  | batchRowFailed v err => .updateRecipientStatusByPhone v.recipient.to_ .failed (some err)
  | batchSleep .. => .sleep
  | batchComplete .. => .completeIfDone

end Point

/-- After a call: the next point, or the return of the operation. -/
inductive Next
  | goto (p : Point)
  | ret (err : Option String)

/-- `ErrInvalidCampaignTransition`. mirrors domain/campaign.go:115-123 -/
def invalidTransition (src dst : CampaignStatus) : String :=
  "campaign cannot transition from " ++ src.text ++ " to " ++ dst.text

def numbered (bs : List (List CampaignRecipient)) : Batches := bs.mapIdx fun i b => (i + 1, b)

/-- Read, check scope and status, and go on to the write; the common head of `Start`, `Pause`, `Resume`
and `Cancel`. -/
def checked (camp : L2.Campaign) (matches_ : Bool) (from_ : List CampaignStatus) (dst : CampaignStatus)
    (write : L2.Campaign → Point) : Next :=
  if !matches_ then .ret (some "campaign not found")
  else if camp.status ∉ from_ then .ret (some (invalidTransition camp.status dst))
  else .goto (write camp)

/-- The recipients `Resume` publishes. mirrors engine.go:334-341 -/
def resumeRecipients (camp : L2.Campaign) (listed : List CampaignRecipient) : List CampaignRecipient :=
  if listed = [] ∧ camp.recipients ≠ [] ∧ camp.sentRecipients < camp.recipients.length then
    camp.recipients.drop camp.sentRecipients.toNat
  else listed

def channelOf (camp : L2.Campaign) : String :=
  match camp.channel with
  | some c => if c ≠ "" then c else "whatsapp"
  | none => "whatsapp"

def publishNext (bs : Batches) (point : Nat → List CampaignRecipient → Batches → Point) : Next :=
  match bs with
  | [] => .ret none
  | (idx, batch) :: rest => .goto (point idx batch rest)

/-- The start task's audience: nothing to do, no one to write to, or recipients to add.
mirrors engine.go:514-541 -/
def resolved (e : Engine) (camp : L2.Campaign) (a : Answer) : Next :=
  match resolveTagRecipients (if e.tagLister then some a.contacts else none) camp.tagIDs (channelOf camp) with
  | .error err => .goto (.taskFail camp ("resolve tag recipients: " ++ err.text))
  | .ok tagRes =>
    let merged := mergeTagAndCSVRecipients tagRes camp.recipients
    if merged.1 = [] then .goto (.taskComplete camp) else .goto (.taskAdd camp merged.1 merged.2)

/-- The end of the recipient loop. mirrors engine.go:805-818 -/
def afterLoop (all : List CampaignRecipient) (delaySeconds : Int) : Next :=
  if delaySeconds > 0 then .goto (.batchSleep all delaySeconds) else .goto (.batchComplete all delaySeconds)

def nextRecipient (v : BatchVars) : Next :=
  match v.rest with
  | [] => afterLoop v.all v.delaySeconds
  | r :: rest => .goto (.batchWait { v with recipient := r, rest := rest } false)

/-- Without an ingestor every recipient fails. mirrors engine.go:771-774 -/
def toIngest (e : Engine) (v : BatchVars) : Next :=
  if e.ingestor then .goto (.batchIngest v)
  else .goto (.batchCountFailed v "outbound ingestor is not configured")

def toDispatch (e : Engine) (v : BatchVars) : Next :=
  if e.dispatchRepo then .goto (.batchDispatch v) else toIngest e v

/-- Where the answer to the call at a point leads; `camp` is the row as the call finds it.
mirrors engine.go:247-819 -/
def Point.next (e : Engine) (s : Store) (a : Answer) : Point → Next
  | startRead m => match a.err with
    | some err => .ret (some err.text)
    | none => checked s.camp m [.draft, .scheduled] .sending startWrite
  | startWrite camp => match a.err with
    | some err => .ret (some ("update status to sending: " ++ err.text))
    | none => .goto (startPublish camp)
  | startPublish camp => match a.err with
    | some err => .goto (startRollback camp.status ("publish start task: " ++ err.text))
    | none => .ret none
  | startRollback _ err => .ret (some err)
  | pauseRead m => match a.err with
    | some err => .ret (some err.text)
    | none => checked s.camp m [.sending] .paused pauseWrite
  | pauseWrite _ => match a.err with
    | some err => .ret (some ("update status to paused: " ++ err.text))
    | none => .ret none
  | resumeRead m => match a.err with
    | some err => .ret (some err.text)
    | none => checked s.camp m [.paused] .sending resumeWrite
  | resumeWrite camp => match a.err with
    | some err => .ret (some ("update status to sending: " ++ err.text))
    | none => .goto (resumeList camp)
  | resumeList camp => match a.err with
    | some err => .ret (some ("list pending recipients: " ++ err.text))
    | none =>
      let pending := resumeRecipients camp (pendingRecipients s.rows)
      if pending = [] then .goto resumeComplete
      else publishNext (numbered (batches camp.batchSize pending)) (resumePublish camp a.now)
  | resumeComplete => match a.err with
    | some err => .ret (some ("update status to completed: " ++ err.text))
    | none => .ret none
  | resumePublish camp cycle _ _ rest => match a.err with
    | some err => .ret (some ("publish batch task: " ++ err.text))
    | none => publishNext rest (resumePublish camp cycle)
  | cancelRead m => match a.err with
    | some err => .ret (some err.text)
    | none => checked s.camp m [.scheduled, .sending, .paused] .cancelled cancelWrite
  | cancelWrite _ => match a.err with
    | some err => .ret (some ("update status to cancelled: " ++ err.text))
    | none => .ret none
  | triggerClaim now => match a.err with
    | some err => .ret (some ("claim due scheduled campaigns: " ++ err.text))
    | none => if s.claims now a then .goto triggerPublish else .ret none
  | triggerPublish => match a.err with
    | some _ => .goto triggerRollback
    | none => .ret none
  | triggerRollback => .ret none
  | taskRead => match a.err with
    | some err => .ret (some ("get campaign: " ++ err.text))
    | none =>
      if s.camp.status = .cancelled ∨ s.camp.status = .failed then .ret none else .goto (taskResolve s.camp)
  | taskResolve camp => resolved e camp a
  | taskFail _ err => .ret (some err)
  | taskComplete _ => .ret none
  | taskAdd camp _ merged => match a.err with
    | some err => .goto (taskFail camp ("persist campaign recipients: " ++ err.text))
    | none => if merged = [] then .goto (taskComplete camp) else .goto (taskSending camp merged)
  | taskSending camp merged => match a.err with
    | some err => .ret (some ("update campaign status to sending: " ++ err.text))
    | none => publishNext (numbered (batches camp.batchSize merged)) (taskPublish camp)
  | taskPublish camp _ _ rest => match a.err with
    | some err => .ret (some ("publish batch task: " ++ err.text))
    | none => publishNext rest (taskPublish camp)
  | batchRead rs delay => match a.err with
    | some err => .ret (some ("get campaign: " ++ err.text))
    | none =>
      if s.camp.status = .cancelled ∨ s.camp.status = .failed ∨ s.camp.status = .paused then .ret none
      else match rs with
        | [] => afterLoop rs delay
        | r :: rest => .goto (batchWait ⟨rs, delay, s.camp, r, rest⟩ true)
  | batchWait v first => match a.err with
    | some _ => .ret none
    | none => if first then toDispatch e v else .goto (batchCheck v)
  | batchCheck v => match a.err with
    | some _ => toDispatch e v
    | none => if s.camp.status = .paused ∨ s.camp.status = .cancelled then .ret none else toDispatch e v
  | batchDispatch v => match a.err with
    | some err => .goto (batchCountFailed v err.text)
    | none =>
      if a.dispatchStatus = "delivered" ∨ a.dispatchStatus = "sent" then .goto (batchMarkSent v)
      else toIngest e v
  | batchMarkSent v => nextRecipient v
  | batchIngest v => match a.err with
    | some err => .goto (batchCountFailed v err.text)
    | none => .goto (batchRowSent v)
  | batchRowSent v => .goto (batchCountSent v)
  | batchCountSent v => nextRecipient v
  | batchCountFailed v err => .goto (batchRowFailed v err)
  | batchRowFailed v _ => nextRecipient v
  | batchSleep all delay => match a.err with
    | some err => .ret (some err.text)
    | none => .goto (batchComplete all delay)
  | batchComplete .. => .ret none

end PerGo.L3.Campaign
