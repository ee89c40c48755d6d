import PerGo.L2Domain.UUID

/-!
# Webhook verbs

The engine of `webhook/verbs.go` and its handlers: a subscriber answers a delivery with verbs, which are done in turn.
`Call` is what a handler asks of the rest of the program; `answer` is its error, given the calls before it.

* `execute_confined`: whatever the verbs say, they act in the workspace and on the contact of the event.
* `execute_retried`: a retry with the same verbs sends under a trace id what the first run sent under it.
-/
namespace PerGo.L3.Verbs

open PerGo.L1 PerGo.L2

/-- `null` is read like an object without fields. -/
inductive Params
  | empty
  | invalid
  | object (d : Document)

def Params.string (name : String) : Params → Option String
  | .object d => d.string name
  | _ => none

/-- mirrors verbs.go:41-43 -/
def Params.tags : Params → Option (List String)
  | .object d => match d.get? "tags" with
    | none | some .null => some []
    | some (.arr xs) => xs.mapM fun | .str s => some s | .null => some "" | _ => none
    | some _ => none
  | _ => none

/-- mirrors verbs.go:19-22 -/
structure Verb where
  action : String
  params : Params

/-- mirrors verbs.go:61-67 -/
structure VerbContext where
  workspaceID : UUID
  connectionID : UUID
  contactID : UUID
  traceID : String
  from_ : String
  to_ : String
  channel : String
  body : String

/-- A message of the AI agent `Webhook Verb`. -/
structure Message where
  ws : UUID
  traceID : String
  to_ : String
  channel : String
  body : String
  from_ : String
  connectionID : Option UUID
  contactID : Option UUID
deriving DecidableEq

inductive Call
  | ingest (m : Message)
  | addTagsByName (ws contact : UUID) (tags : List String)
  | closeChat (ws contact : UUID) (conn : Option UUID)
  | ensureChat (ws contact : UUID)
  | pauseAI (ws conn contact : UUID) (d : Int)
  | wait (d : Int)
deriving DecidableEq

/-- The flags are the dependencies that are not nil. -/
structure VerbsEngine where
  ingestor : Bool
  tagRepo : Bool
  chatEngine : Bool
  activity : Bool
  /-- the text of `json.Unmarshal`'s error for the params of an action -/
  unmarshalErr : String → Params → String
  parseDuration : String → Except String Int
  answer : List Call → Call → Option String
  isNotFound : String → Bool
  /-- `execCtx.Err()` before the verb of an index -/
  ctxErr : Nat → List Call → Option String

abbrev Handler := List Call → Option String × List Call

def fail (err : String) : Handler := fun calls => (some err, calls)

def VerbsEngine.call (e : VerbsEngine) (wrap : String) (c : Call) : Handler := fun calls =>
  ((e.answer calls c).map (wrap ++ ·), calls ++ [c])

section Handlers

variable (e : VerbsEngine) (vc : VerbContext) (params : Params)

def given (id : UUID) : Option UUID := if id = UUID.Nil then none else some id

def ingest (action : String) : Option Message → Handler
  | none => fail ("invalid params: " ++ e.unmarshalErr action params)
  | some m => if e.ingestor then e.call "" (.ingest m) else fun calls => (none, calls)

def replied : Option Message := (params.string "body").map fun body =>
  { ws := vc.workspaceID, traceID := vc.traceID, to_ := vc.from_, channel := vc.channel, body
    from_ := if vc.connectionID = UUID.Nil then vc.to_ else ""
    connectionID := given vc.connectionID, contactID := given vc.contactID }

/-- mirrors webhook/verb_handlers.go:34-63 -/
def replyHandler : Handler := ingest e params "reply" (replied vc params)

def invalidDuration (duration err : String) : Handler := fail ("invalid duration '" ++ duration ++ "': " ++ err)

/-- mirrors verb_handlers.go:71-92 -/
def waitHandler : Handler :=
  match params.string "duration" with
  | none => fail ("invalid params: " ++ e.unmarshalErr "wait" params)
  | some duration => match e.parseDuration duration with
    | .error err => invalidDuration duration err
    | .ok d => e.call "" (.wait (max (min d (10 * second)) 0))

def forwarded : Option Message :=
  match params.string "to", params.string "channel" with
  | some to_, some channel => some ⟨vc.workspaceID, vc.traceID, to_, channel, vc.body, "", none, none⟩
  | _, _ => none

/-- mirrors verb_handlers.go:110-129 -/
def forwardHandler : Handler := ingest e params "forward" (forwarded vc params)

/-- mirrors verb_handlers.go:143-158 -/
def tagHandler : Handler :=
  match params.tags with
  | none => fail ("invalid params: " ++ e.unmarshalErr "tag" params)
  | some tags =>
    if vc.contactID = UUID.Nil then fail "contact not resolved"
    else if e.tagRepo then e.call "db update failed: " (.addTagsByName vc.workspaceID vc.contactID tags)
    else fail "tag repository not configured"

/-- mirrors verb_handlers.go:177-202 -/
def closeHandler : Handler := fun calls =>
  let close conn := e.call "db update failed: " (.closeChat vc.workspaceID vc.contactID conn)
  let conn := given vc.connectionID
  if vc.contactID = UUID.Nil then fail "contact not resolved" calls
  else if !e.chatEngine then fail "chat engine not configured" calls
  else if (e.answer calls (.closeChat vc.workspaceID vc.contactID conn)).any e.isNotFound then
    match e.call "db update failed: " (.ensureChat vc.workspaceID vc.contactID) (close conn calls).2 with
    | (none, calls) => close none calls
    | failed => failed
  else close conn calls

/-- mirrors verb_handlers.go:220-246 -/
def pauseBotHandler : Handler :=
  if vc.contactID = UUID.Nil then fail "contact not resolved"
  else match (match params with | .empty => some "" | params => params.string "duration") with
    | none => fail ("invalid params: " ++ e.unmarshalErr "pause_bot" params)
    | some duration => match if duration = "" then .ok (12 * hour) else e.parseDuration duration with
      | .error err => invalidDuration duration err
      | .ok d =>
        if e.activity then e.call "db update failed: " (.pauseAI vc.workspaceID vc.connectionID vc.contactID d)
        else fail "activity recorder not configured"

/-- mirrors verbs.go:100-107 -/
def handlers : List (String × Handler) :=
  [("reply", replyHandler e vc params), ("wait", waitHandler e params), ("forward", forwardHandler e vc params),
   ("tag", tagHandler e vc params), ("close", closeHandler e vc), ("pause_bot", pauseBotHandler e vc params)]

/-- mirrors verbs.go:153-157 -/
structure ExecutedVerbLog where
  action : String
  status : String
  error : String

/-- mirrors verbs.go:241-244 -/
def traceAt (traceID : String) (i : Nat) : String :=
  if i > 0 ∧ traceID ≠ "" then traceID ++ "-" ++ formatInt i else traceID

abbrev Outcome := List ExecutedVerbLog × Option String × List Call

def Outcome.andThen (r : Outcome) (more : List Call → Outcome) : Outcome :=
  match r with
  | (logs, none, calls) => (logs ++ (more calls).1, (more calls).2)
  | failed => failed

/-- mirrors verbs.go:222-253 -/
def executeVerb (i : Nat) (verb : Verb) (calls : List Call) : Outcome :=
  match e.ctxErr i calls with
  | some err => ([], some err, calls)
  | none =>
    match (handlers e { vc with traceID := traceAt vc.traceID i } verb.params).lookup verb.action with
    | none => ([⟨verb.action, "failed", "unknown action"⟩],
        some ("verb " ++ formatInt i ++ " unknown action: " ++ verb.action), calls)
    | some handler => match handler calls with
      | (some err, calls) => ([⟨verb.action, "failed", err⟩],
          some ("verb " ++ formatInt i ++ " (" ++ verb.action ++ "): " ++ err), calls)
      | (none, calls) => ([⟨verb.action, "success", ""⟩], none, calls)

/-- The loop from the `i`-th verb on. mirrors verbs.go:221-254 -/
def execute (i : Nat) : List Verb → List Call → Outcome
  | [], calls => ([], none, calls)
  | verb :: verbs, calls => (executeVerb e vc i verb calls).andThen (execute (i + 1) verbs)

/-! ## What verbs do -/

/-- The call keeps to the workspace and to the contact of the event. -/
def Call.Confined (vc : VerbContext) : Call → Prop
  | .ingest m => m.ws = vc.workspaceID
  | .addTagsByName ws contact _ | .closeChat ws contact _ | .ensureChat ws contact | .pauseAI ws _ contact _ =>
    ws = vc.workspaceID ∧ contact = vc.contactID ∧ contact ≠ UUID.Nil
  | .wait d => 0 ≤ d ∧ d ≤ 10 * second

def Call.message? : Call → Option Message
  | .ingest m => some m
  | _ => none

/-- What a verb sends when it gets so far. -/
def message (action : String) : Option Message :=
  if action = "reply" then replied vc params else if action = "forward" then forwarded vc params else none

theorem message_own {action : String} {m : Message} (h : m ∈ message vc params action) :
    m.ws = vc.workspaceID ∧ m.traceID = vc.traceID := by
  unfold message at h
  split at h
  · obtain ⟨body, -, rfl⟩ := Option.map_eq_some_iff.mp h
    exact ⟨rfl, rfl⟩
  split at h
  · unfold forwarded at h
    split at h
    · rw [← Option.some.inj h]
      exact ⟨rfl, rfl⟩
    · simp at h
  · simp at h

/-- What verbs send from the `i`-th on. -/
def messages (i : Nat) : List Verb → List Message
  | [] => []
  | verb :: verbs =>
    (message { vc with traceID := traceAt vc.traceID i } verb.params verb.action).toList ++ messages (i + 1) verbs

/-- What is done from `calls` to `calls'`: confined calls, and some of the messages. -/
def Acts (msgs : List Message) (calls calls' : List Call) : Prop :=
  ∃ made, calls' = calls ++ made ∧ (∀ c ∈ made, c.Confined vc) ∧ (made.filterMap Call.message?).Sublist msgs

theorem Acts.mono {vc : VerbContext} {msgs msgs' : List Message} {calls calls' : List Call}
    (h : Acts vc msgs calls calls') (hs : msgs.Sublist msgs') : Acts vc msgs' calls calls' := by
  obtain ⟨made, hmade, hconfined, hmsgs⟩ := h
  exact ⟨made, hmade, hconfined, hmsgs.trans hs⟩

theorem Acts.trans {vc : VerbContext} {msgs msgs' : List Message} {calls calls' calls'' : List Call}
    (h : Acts vc msgs calls calls') (h' : Acts vc msgs' calls' calls'') :
    Acts vc (msgs ++ msgs') calls calls'' := by
  obtain ⟨made, rfl, hmade, hmsgs⟩ := h
  obtain ⟨made', rfl, hmade', hmsgs'⟩ := h'
  refine ⟨made ++ made', by simp, fun c hc => (List.mem_append.mp hc).elim (hmade c) (hmade' c), ?_⟩
  rw [List.filterMap_append]
  exact hmsgs.append hmsgs'

theorem acts_nothing (msgs : List Message) (calls : List Call) : Acts vc msgs calls calls := ⟨[], by simp⟩

theorem acts_call {c : Call} (wrap : String) (calls : List Call) (hc : c.Confined vc) :
    Acts vc c.message?.toList calls (e.call wrap c calls).2 := by
  refine ⟨[c], rfl, by simpa using hc, ?_⟩
  cases hmessage : c.message? <;> simp [hmessage]

def Keeps (m? : Option Message) (h : Handler) : Prop := ∀ calls, Acts vc m?.toList calls (h calls).2

theorem keeps_ingest (action : String) {m? : Option Message} (hm : ∀ m ∈ m?, m.ws = vc.workspaceID) :
    Keeps vc m? (ingest e params action m?) := by
  intro calls
  cases m? with
  | none => exact acts_nothing vc _ calls
  | some m =>
    unfold ingest
    split
    · exact acts_call e vc _ calls (hm m rfl)
    · exact acts_nothing vc _ calls

theorem keeps_close (m? : Option Message) : Keeps vc m? (closeHandler e vc) := by
  intro calls
  unfold closeHandler
  dsimp only
  split
  · exact acts_nothing vc _ calls
  rename_i hcontact
  have hclose : ∀ conn calls', Acts vc [] calls'
      (e.call "db update failed: " (.closeChat vc.workspaceID vc.contactID conn) calls').2 :=
    fun conn calls' => acts_call e vc _ calls' ⟨rfl, rfl, hcontact⟩
  split
  · exact acts_nothing vc _ calls
  split
  · have hensure := (hclose (given vc.connectionID) calls).trans
      (acts_call e vc "db update failed: " (c := .ensureChat vc.workspaceID vc.contactID) _ ⟨rfl, rfl, hcontact⟩)
    split
    · rename_i hres
      rw [hres] at hensure
      exact (hensure.trans (hclose none _)).mono (List.nil_sublist _)
    · exact hensure.mono (List.nil_sublist _)
  · exact (hclose _ calls).mono (List.nil_sublist _)

/-- One case for each kind of verb. -/
theorem handlers_keep {action : String} {handler : Handler} (h : (action, handler) ∈ handlers e vc params) :
    Keeps vc (message vc params action) handler := by
  have hfail : ∀ m? err, Keeps vc m? (fail err) := fun m? _ calls => acts_nothing vc _ calls
  have hcall : ∀ {c : Call} m? wrap, c.Confined vc → c.message? = none → Keeps vc m? (e.call wrap c) := by
    intro c m? wrap hc ht calls
    have hacts := acts_call e vc wrap calls hc
    rw [ht] at hacts
    exact hacts.mono (List.nil_sublist _)
  simp only [handlers, List.mem_cons, Prod.mk.injEq, List.not_mem_nil, or_false] at h
  obtain ⟨rfl, rfl⟩ | ⟨rfl, rfl⟩ | ⟨rfl, rfl⟩ | ⟨rfl, rfl⟩ | ⟨rfl, rfl⟩ | ⟨rfl, rfl⟩ := h
  · exact keeps_ingest e vc params _ fun m hm => (@message_own vc params "reply" m hm).1
  · unfold waitHandler
    split
    · exact hfail _ _
    split
    · exact hfail _ _
    · exact hcall _ "" ⟨le_max_right _ _, max_le (min_le_right _ _) (by decide)⟩ rfl
  · exact keeps_ingest e vc params _ fun m hm => (@message_own vc params "forward" m hm).1
  · unfold tagHandler
    split
    · exact hfail _ _
    split
    · exact hfail _ _
    split
    · exact hcall _ _ ⟨rfl, rfl, ‹_›⟩ rfl
    · exact hfail _ _
  · exact keeps_close e vc _
  · unfold pauseBotHandler
    split
    · exact hfail _ _
    split
    · exact hfail _ _
    split
    · exact hfail _ _
    split
    · exact hcall _ _ ⟨rfl, rfl, ‹_›⟩ rfl
    · exact hfail _ _

theorem executeVerb_acts (i : Nat) (verb : Verb) (calls : List Call) :
    Acts vc (message { vc with traceID := traceAt vc.traceID i } verb.params verb.action).toList calls
      (executeVerb e vc i verb calls).2.2 := by
  unfold executeVerb
  split
  · exact acts_nothing vc _ calls
  · split
    · exact acts_nothing vc _ calls
    · rename_i handler hfound
      have hacts := handlers_keep e _ verb.params (Core.Assoc.mem_of_lookup hfound) calls
      split
      · rename_i hres
        rw [hres] at hacts
        exact hacts
      · rename_i hres
        rw [hres] at hacts
        exact hacts

theorem execute_acts (i : Nat) (verbs : List Verb) (calls : List Call) :
    Acts vc (messages vc i verbs) calls (execute e vc i verbs calls).2.2 := by
  induction verbs generalizing i calls with
  | nil => exact acts_nothing vc _ calls
  | cons verb verbs ih =>
    have hfirst := executeVerb_acts e vc i verb calls
    rw [execute]
    rcases hres : executeVerb e vc i verb calls with ⟨logs, _ | err, calls'⟩ <;> rw [hres] at hfirst
    · exact hfirst.trans (ih (i + 1) calls')
    · exact hfirst.mono (List.sublist_append_left _ _)

theorem traceAt_injective {traceID : String} (h : traceID ≠ "") : Function.Injective (traceAt traceID) := by
  have hlonger : ∀ i : Nat, traceID ++ "-" ++ formatInt i ≠ traceID := by
    intro i heq
    have hlength := congrArg String.length heq
    simp only [String.length_append, show "-".length = 1 from rfl] at hlength
    omega
  intro i j hij
  unfold traceAt at hij
  split at hij <;> split at hij
  · exact Int.ofNat_inj.mp (formatInt_inj (by simpa using hij))
  · exact absurd hij (hlonger i)
  · exact absurd hij.symm (hlonger j)
  · simp_all

theorem traces_messages (i : Nat) (verbs : List Verb) :
    ((messages vc i verbs).map Message.traceID).Sublist
      ((List.range' i verbs.length).map (traceAt vc.traceID)) := by
  induction verbs generalizing i with
  | nil => exact List.nil_sublist _
  | cons verb verbs ih =>
    rw [messages, List.map_append, List.length_cons, List.range'_succ, List.map_cons]
    rw [← List.singleton_append]
    refine List.Sublist.append ?_ (ih (i + 1))
    cases hm : message { vc with traceID := traceAt vc.traceID i } verb.params verb.action with
    | none => exact List.nil_sublist _
    | some m => rw [Option.toList_some, List.map_singleton, (message_own _ _ hm).2]

theorem nodup_traces (htrace : vc.traceID ≠ "") (verbs : List Verb) :
    ((messages vc 0 verbs).map Message.traceID).Nodup :=
  (traces_messages vc 0 verbs).nodup (List.Nodup.map (traceAt_injective htrace) List.nodup_range')

/-- A run of any verbs makes confined calls only, and no two messages of a delivery with a trace have one trace id,
under which the second would be taken for a repetition. -/
theorem execute_confined (verbs : List Verb) :
    (∀ c ∈ (execute e vc 0 verbs []).2.2, c.Confined vc) ∧
      (vc.traceID ≠ "" →
        (((execute e vc 0 verbs []).2.2.filterMap Call.message?).map Message.traceID).Nodup) := by
  obtain ⟨made, hmade, hconfined, hmsgs⟩ := execute_acts e vc 0 verbs []
  rw [hmade, List.nil_append]
  exact ⟨hconfined, fun htrace => (hmsgs.map _).nodup (nodup_traces vc htrace verbs)⟩

/-- Whatever the calls of the two runs answer, and wherever each of them ends. -/
theorem execute_retried (e' : VerbsEngine) (htrace : vc.traceID ≠ "") (verbs : List Verb) {m m' : Message}
    (hm : Call.ingest m ∈ (execute e vc 0 verbs []).2.2) (hm' : Call.ingest m' ∈ (execute e' vc 0 verbs []).2.2)
    (hsame : m.traceID = m'.traceID) : m = m' := by
  have hsent : ∀ (e : VerbsEngine) {m}, Call.ingest m ∈ (execute e vc 0 verbs []).2.2 → m ∈ messages vc 0 verbs := by
    intro e m hm
    obtain ⟨made, hmade, -, hmsgs⟩ := execute_acts e vc 0 verbs []
    rw [hmade, List.nil_append] at hm
    exact hmsgs.subset (List.mem_filterMap.mpr ⟨_, hm, rfl⟩)
  exact List.inj_on_of_nodup_map (nodup_traces vc htrace verbs) (hsent e hm) (hsent e' hm') hsame

end Handlers

def event : VerbContext := ⟨1, 2, 3, "t", "5511999990000", "5511888880000", "whatsapp", "oi"⟩

def until_ (n : Nat) : VerbsEngine where
  ingestor := true
  tagRepo := true
  chatEngine := true
  activity := true
  unmarshalErr _ _ := "unexpected end of JSON input"
  parseDuration d := .error ("time: invalid duration \"" ++ d ++ "\"")
  answer _ _ := none
  isNotFound _ := false
  ctxErr i _ := if i < n then none else some "context deadline exceeded"

/-- The first run ends in front of the second reply, which the retry sends. -/
theorem reply_again : Message.mk 1 "t" "5511999990000" "whatsapp" "olá" "" (some 2) (some 3) =
    ⟨1, "t", "5511999990000", "whatsapp", "olá", "", some 2, some 3⟩ :=
  execute_retried (until_ 1) event (until_ 9) (by decide)
    [⟨"reply", .object ⟨[("body", .str "olá")], by simp⟩⟩, ⟨"reply", .object ⟨[], by simp⟩⟩]
    (by decide) (by decide) rfl

end PerGo.L3.Verbs
