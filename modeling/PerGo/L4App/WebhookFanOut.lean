import PerGo.Core.LTS
import PerGo.L3Webhook.Worker

/-!
# Fanning an event out to its subscriptions

`processEvent` publishes one delivery task for each subscription the event is due to.
When a publish fails the event is redelivered, and the loop begins again with the first
subscription. A task gets its id, and with it its `Nats-Msg-Id`, from `uuid.New()`, so
the server does not see that a task was published before.

* `FanOutSt`: the stream, the tasks it took from deliveries of the event, and whether
  the event is acked. In between, others publish what they like.
* `ExactlyOnce`: one task for each subscription the event is due to, and no other.
* `fanned_out_once`: an acked event is fanned out exactly once if and only if in none of
  its deliveries a publish failed after another one had succeeded.
-/
namespace PerGo.L4.WebhookFanOut

open PerGo.Core PerGo.L1 PerGo.L2 PerGo.L3 PerGo.L3.Webhook

/-- An event in its stream, and the subscriptions of its workspace. -/
structure Event where
  mode : DeliveryMode
  payload : Document
  subs : List WebhookSubscription
  ids : (subs.map (·.id)).Nodup
  /-- `uuid.Parse` -/
  parseUUID : String → Except String UUID

/-- What goes wrong in one delivery of the event. -/
structure Delivery where
  now : Time
  listErr : Option String
  publishErr : UUID → Option String

def Event.env (e : Event) (d : Delivery) : EventEnv where
  now := d.now
  parseUUID := e.parseUUID
  listByWorkspace := fun _ => match d.listErr with
    | some err => .error err
    | none => .ok e.subs
  publishErr := d.publishErr

/-- The event and its workspace, when it can be read and is no internal note. -/
def Event.target (e : Event) : Option (L3.Webhook.WebhookEvent × UUID) := do
  let evt ← L3.Webhook.WebhookEvent.unmarshal e.payload
  if safetyCheck e.payload then none
  else match e.parseUUID evt.workspaceID with
    | .error _ => none
    | .ok wsID => some (evt, wsID)

def Event.due (e : Event) : List WebhookSubscription :=
  match e.target with
  | none => []
  | some (evt, _) => e.subs.filter fun sub => sub.active && matchesAny sub.eventTypes evt.event

structure FanOutSt where
  st : WebhookSt
  /-- the tasks the stream took from deliveries of the event -/
  tasks : List WebhookDeliveryTask
  acked : Bool

inductive Lbl
  | deliver (d : Delivery)
  /-- someone else publishes a task -/
  | other (now : Time) (task : WebhookDeliveryTask)

def added (s s' : WebhookSt) : List WebhookDeliveryTask := (s'.stream.drop s.stream.length).map (·.payload)

def step (e : Event) (s : FanOutSt) : Lbl → Option FanOutSt
  | .deliver d =>
    if s.acked then none
    else
      let r := processEvent (e.env d) s.st e.mode e.payload
      some ⟨r.1, s.tasks ++ added s.st r.1, r.2 = .ack⟩
  | .other now task => some { s with st := s.st.publishTask now task }

/-- The event waits in its stream; nothing of it is published yet. -/
def init (s₀ : WebhookSt) : FanOutSt := ⟨s₀, [], false⟩

def sys (e : Event) (s₀ : WebhookSt) : LTS FanOutSt Lbl := LTS.ofFn (init s₀) (step e)

/-- Everything in the stream was published as a task. -/
def OfTasks (s : WebhookSt) : Prop := ∀ m ∈ s.stream, ∃ t, m = WebhookSt.taskMsg t m.payload

/-- `t` is a task of the event for `sub`. -/
def Event.TaskFor (e : Event) (t : WebhookDeliveryTask) (sub : WebhookSubscription) : Prop :=
  ∃ evt wsID, e.target = some (evt, wsID) ∧ t = evt.task t.id wsID sub e.mode e.payload

/-- One task for each subscription the event is due to, each in the stream, and none besides. -/
structure ExactlyOnce (e : Event) (s : FanOutSt) : Prop where
  once : ∀ sub ∈ e.due, (s.tasks.map (·.subscriptionID)).count sub.id = 1
  only : ∀ t ∈ s.tasks, ∃ sub ∈ e.due, e.TaskFor t sub
  stored : ∀ t ∈ s.tasks, t ∈ s.st.stream.map (·.payload)

/-- No publish fails after another one of the same delivery succeeded. -/
def Clean (e : Event) : Lbl → Prop
  | .deliver d => d.listErr ≠ none ∨ (∀ sub ∈ e.due, d.publishErr sub.id = none) ∨
      ∀ sub ∈ e.due.head?, d.publishErr sub.id ≠ none
  | .other .. => True

/-! ## One delivery -/

section Delivery

variable {e : Event} {d : Delivery} {s : WebhookSt}

def published (e : Event) (d : Delivery) : List WebhookSubscription :=
  if d.listErr ≠ none then [] else e.due.takeWhile fun sub => d.publishErr sub.id = none

theorem OfTasks.publishTask (h : OfTasks s) (now : Time) (task : WebhookDeliveryTask) :
    OfTasks (s.publishTask now task) := by
  unfold WebhookSt.publishTask
  split
  · exact h
  · intro m hm
    rcases List.mem_append.mp hm with hm | hm
    · exact h m hm
    · rw [List.mem_singleton.mp hm]
      exact ⟨now, rfl⟩

/-- What a delivery leaves in the stream: a task for each of `subs`, as `R` says, after what was there. -/
structure Adds (R : WebhookDeliveryTask → WebhookSubscription → Prop) (s s' : WebhookSt)
    (subs : List WebhookSubscription) : Prop where
  ofTasks : OfTasks s'
  grown : s'.stream.take s.stream.length = s.stream
  tasks : (added s s').map (·.subscriptionID) = subs.map (·.id)
  made : ∀ t ∈ added s s', ∃ sub ∈ subs, R t sub

variable {R : WebhookDeliveryTask → WebhookSubscription → Prop}

theorem Adds.refl (h : OfTasks s) : Adds R s s [] := ⟨h, by simp, by simp [added], by simp [added]⟩

theorem Adds.cons {s' : WebhookSt} {now : Time} {task : WebhookDeliveryTask} {sub : WebhookSubscription}
    {subs : List WebhookSubscription} (h : OfTasks s) (hid : task.id = s.newTaskID)
    (hsub : task.subscriptionID = sub.id) (hR : R task sub) (ha : Adds R (s.publishTask now task) s' subs) :
    Adds R s s' (sub :: subs) := by
  have hkept : (s.publishTask now task).stream = s.stream ++ [WebhookSt.taskMsg now task] := by
    unfold WebhookSt.publishTask
    rw [if_neg (WebhookSt.not_dropped hid h)]
  obtain ⟨hof, hgrown, htasks, hmade⟩ := ha
  unfold added at htasks hmade
  rw [hkept] at hgrown htasks hmade
  rw [List.length_append] at hgrown htasks hmade
  have hsplit : s'.stream = s.stream ++ [WebhookSt.taskMsg now task] ++ s'.stream.drop (s.stream.length + 1) := by
    rw [← hgrown]
    exact (List.take_append_drop _ _).symm
  have hadded : added s s' = task :: (s'.stream.drop (s.stream.length + 1)).map (·.payload) := by
    have hdrop : s'.stream.drop s.stream.length =
        WebhookSt.taskMsg now task :: s'.stream.drop (s.stream.length + 1) := by
      conv_lhs => rw [hsplit, List.append_assoc, List.drop_left]
      rfl
    unfold added
    rw [hdrop, List.map_cons, WebhookSt.taskMsg_payload]
  refine ⟨hof, ?_, ?_, ?_⟩
  · rw [hsplit, List.append_assoc, List.take_left]
  · rw [hadded, List.map_cons, hsub]
    exact congrArg _ htasks
  · rw [hadded]
    simp only [List.mem_cons, forall_eq_or_imp, exists_eq_or_imp]
    exact ⟨Or.inl hR, fun t ht => Or.inr (hmade t ht)⟩

/-- The loop publishes up to the first failure. -/
theorem fanOut_spec (env : EventEnv) (evt : L3.Webhook.WebhookEvent) (wsID : UUID) (mode : DeliveryMode) (payload : Document)
    (subs : List WebhookSubscription) {s : WebhookSt} (h : OfTasks s) :
    let due := subs.filter fun sub => sub.active && matchesAny sub.eventTypes evt.event
    Adds (fun t sub => t = evt.task t.id wsID sub mode payload) s (fanOut env evt wsID mode payload subs s).1
        (due.takeWhile fun sub => env.publishErr sub.id = none) ∧
      ((fanOut env evt wsID mode payload subs s).2 = .ack ↔ ∀ sub ∈ due, env.publishErr sub.id = none) := by
  induction subs generalizing s with
  | nil => exact ⟨.refl h, by simp [fanOut]⟩
  | cons sub subs ih =>
    unfold fanOut
    split
    · rename_i hdue
      cases herr : env.publishErr sub.id with
      | some err => simp [hdue, herr, Adds.refl h]
      | none =>
        obtain ⟨hadds, hack⟩ := ih (h.publishTask env.now (evt.task s.newTaskID wsID sub mode payload))
        have hcons : Adds _ s _ (sub :: _) := Adds.cons h rfl rfl rfl hadds
        simpa [hdue, herr] using And.intro hcons hack
    · rename_i hdue
      simpa [hdue] using ih h

/-- **What one delivery does.** -/
theorem processEvent_spec (e : Event) (d : Delivery) (h : OfTasks s) :
    Adds e.TaskFor s (processEvent (e.env d) s e.mode e.payload).1 (published e d) ∧
      ((processEvent (e.env d) s e.mode e.payload).2 = .ack ↔
        e.target = none ∨ d.listErr = none ∧ ∀ sub ∈ e.due, d.publishErr sub.id = none) := by
  have hbare : e.target = none → published e d = [] := by
    intro hnone
    simp [published, Event.due, hnone]
  unfold processEvent
  cases hu : L3.Webhook.WebhookEvent.unmarshal e.payload with
  | none =>
    have htarget : e.target = none := by simp [Event.target, hu]
    exact ⟨hbare htarget ▸ .refl h, by simp [htarget]⟩
  | some evt =>
    simp only
    split
    · rename_i hsafe
      have htarget : e.target = none := by simp [Event.target, hu, hsafe]
      exact ⟨hbare htarget ▸ .refl h, by simp [htarget]⟩
    · rename_i hsafe
      cases hp : e.parseUUID evt.workspaceID with
      | error err =>
        have htarget : e.target = none := by simp [Event.target, hu, hsafe, hp]
        simp only [Event.env, hp]
        exact ⟨hbare htarget ▸ .refl h, by simp [htarget]⟩
      | ok wsID =>
        have htarget : e.target = some (evt, wsID) := by simp [Event.target, hu, hsafe, hp]
        cases hl : d.listErr with
        | some err =>
          simp only [Event.env, hp, hl]
          have hnone : published e d = [] := by simp [published, hl]
          exact ⟨hnone ▸ .refl h, by simp [htarget]⟩
        | none =>
          have hspec := fanOut_spec (e.env d) evt wsID e.mode e.payload e.subs h
          have hmade : ∀ {s' : WebhookSt} {subs : List WebhookSubscription},
              Adds (fun t sub => t = evt.task t.id wsID sub e.mode e.payload) s s' subs → Adds e.TaskFor s s' subs := by
            intro s' subs ha
            refine ⟨ha.ofTasks, ha.grown, ha.tasks, fun t ht => ?_⟩
            obtain ⟨sub, hsub, heq⟩ := ha.made t ht
            exact ⟨sub, hsub, evt, wsID, htarget, heq⟩
          simp only [Event.env, hp, hl, published, Event.due, htarget] at hspec ⊢
          simpa using And.intro (hmade hspec.1) hspec.2

end Delivery

/-! ## All deliveries -/

section Run

variable {e : Event} {s₀ : WebhookSt} {s s' : FanOutSt}

def stepIDs (e : Event) : Lbl → List UUID
  | .deliver d => (published e d).map (·.id)
  | .other .. => []

def Acks (e : Event) : Lbl → Prop
  | .deliver d => e.target = none ∨ d.listErr = none ∧ ∀ sub ∈ e.due, d.publishErr sub.id = none
  | .other .. => False

structure Inv (e : Event) (s : FanOutSt) : Prop where
  ofTasks : OfTasks s.st
  only : ∀ t ∈ s.tasks, ∃ sub ∈ e.due, e.TaskFor t sub
  stored : ∀ t ∈ s.tasks, t ∈ s.st.stream.map (·.payload)

theorem mem_due_of_published {d : Delivery} {sub : WebhookSubscription} (h : sub ∈ published e d) : sub ∈ e.due := by
  unfold published at h
  split at h
  · cases h
  · exact (List.takeWhile_prefix _).subset h

theorem inv_step {l : Lbl} (hi : Inv e s) (h : step e s l = some s') : Inv e s' := by
  cases l with
  | deliver d =>
    simp only [step] at h
    split at h
    · cases h
    · cases h
      obtain ⟨hadds, -⟩ := processEvent_spec e d hi.ofTasks
      refine ⟨hadds.ofTasks, fun t ht => ?_, fun t ht => ?_⟩
      · rcases List.mem_append.mp ht with ht | ht
        · exact hi.only t ht
        · obtain ⟨sub, hsub, hfor⟩ := hadds.made t ht
          exact ⟨sub, mem_due_of_published hsub, hfor⟩
      · rcases List.mem_append.mp ht with ht | ht
        · have hold := hi.stored t ht
          rw [← hadds.grown] at hold
          exact List.map_subset _ (List.take_subset _ _) hold
        · exact List.map_subset _ (List.drop_subset _ _) ht
  | other now task =>
    cases h
    refine ⟨hi.ofTasks.publishTask now task, hi.only, fun t ht => ?_⟩
    have hold := hi.stored t ht
    show t ∈ (s.st.publishTask now task).stream.map (·.payload)
    unfold WebhookSt.publishTask
    split
    · exact hold
    · rw [List.map_append]
      exact List.mem_append_left _ hold

theorem inv_inductive {s₀ : WebhookSt} (hof : OfTasks s₀) : (sys e s₀).Inductive (Inv e) where
  init := by
    rintro s rfl
    exact ⟨hof, fun _ h => (by cases h), fun _ h => (by cases h)⟩
  step := fun _ _ _ hi hstep => inv_step hi hstep

theorem step_spec {l : Lbl} (h : step e s l = some s') (hof : OfTasks s.st) :
    OfTasks s'.st ∧ s'.tasks.map (·.subscriptionID) = s.tasks.map (·.subscriptionID) ++ stepIDs e l ∧
      (s'.acked = true ↔ s.acked = true ∨ Acks e l) := by
  cases l with
  | deliver d =>
    simp only [step] at h
    split at h
    · cases h
    · rename_i hopen
      cases h
      obtain ⟨hadds, hack⟩ := processEvent_spec e d hof
      refine ⟨hadds.ofTasks, ?_, ?_⟩
      · rw [List.map_append, hadds.tasks]
        rfl
      · simp [Acks, hopen, hack]
  | other now task =>
    cases h
    exact ⟨hof.publishTask now task, by simp [stepIDs], by simp [Acks]⟩

theorem step_acked {l : Lbl} (h : step e s l = some s') (hack : s.acked = true) : stepIDs e l = [] ∧ Clean e l := by
  cases l with
  | deliver d =>
    simp only [step, hack, if_true] at h
    cases h
  | other now task => exact ⟨rfl, trivial⟩

theorem run_acked {ls : List Lbl} (h : (sys e s₀).Run s ls s') (hof : OfTasks s.st) (hack : s.acked = true) :
    ls.flatMap (stepIDs e) = [] ∧ ∀ l ∈ ls, Clean e l := by
  induction h with
  | nil s => simp
  | cons hstep _ ih =>
    obtain ⟨hof', -, hack'⟩ := step_spec hstep hof
    obtain ⟨hids, hclean⟩ := step_acked hstep hack
    obtain ⟨hrest, hcleans⟩ := ih hof' (hack'.mpr (Or.inl hack))
    refine ⟨by simp [hids, hrest], ?_⟩
    simp only [List.mem_cons, forall_eq_or_imp]
    exact ⟨hclean, hcleans⟩

theorem run_tasks {ls : List Lbl} (h : (sys e s₀).Run s ls s') (hof : OfTasks s.st) :
    s'.tasks.map (·.subscriptionID) = s.tasks.map (·.subscriptionID) ++ ls.flatMap (stepIDs e) := by
  induction h with
  | nil s => simp
  | cons hstep _ ih =>
    obtain ⟨hof', hids, -⟩ := step_spec hstep hof
    rw [ih hof', hids, List.append_assoc, List.flatMap_cons]

theorem stepIDs_of_acks {l : Lbl} (h : Acks e l) : stepIDs e l = e.due.map (·.id) := by
  cases l with
  | deliver d =>
    rcases h with htarget | ⟨hlist, hall⟩
    · simp [stepIDs, published, Event.due, htarget]
    · have htake : e.due.takeWhile (fun sub => d.publishErr sub.id = none) = e.due := by
        rw [List.takeWhile_eq_self_iff]
        intro sub hsub
        exact decide_eq_true (hall sub hsub)
      simp [stepIDs, published, hlist, htake]
  | other now task => cases h

theorem clean_of_acks {l : Lbl} (h : Acks e l) : Clean e l := by
  cases l with
  | deliver d =>
    rcases h with htarget | ⟨-, hall⟩
    · exact Or.inr (Or.inl (by simp [Event.due, htarget]))
    · exact Or.inr (Or.inl hall)
  | other now task => trivial

/-- A step that does not ack is clean exactly when it publishes nothing of the event; otherwise the first
subscription gets a task. -/
theorem stepIDs_of_not_acks {l : Lbl} (h : ¬ Acks e l) :
    (Clean e l → stepIDs e l = []) ∧ (¬ Clean e l → ∃ sub ∈ e.due, sub.id ∈ stepIDs e l) := by
  cases l with
  | deliver d =>
    by_cases hlist : d.listErr = none
    · have hfail : ¬ ∀ sub ∈ e.due, d.publishErr sub.id = none := fun hall => h (Or.inr ⟨hlist, hall⟩)
      cases hdue : e.due with
      | nil => exact absurd (by simp [hdue]) hfail
      | cons sub subs =>
        constructor
        · rintro (hl | hall | hfirst)
          · exact absurd hlist hl
          · exact absurd hall hfail
          · have hne : d.publishErr sub.id ≠ none := hfirst sub (by simp [hdue])
            simp [stepIDs, published, hlist, hdue, hne]
        · intro hclean
          have hsome : d.publishErr sub.id = none := by
            by_contra hne
            exact hclean (Or.inr (Or.inr (by simpa [hdue] using hne)))
          exact ⟨sub, by simp, by simp [stepIDs, published, hlist, hdue, hsome]⟩
    · refine ⟨fun _ => by simp [stepIDs, published, hlist], fun hclean => ?_⟩
      exact absurd (Or.inl hlist) hclean
  | other now task => exact ⟨fun _ => rfl, fun hclean => absurd trivial hclean⟩

theorem run_published {ls : List Lbl} (h : (sys e s₀).Run s ls s') (hof : OfTasks s.st) (hopen : s.acked = false)
    (hack : s'.acked = true) :
    ((∀ l ∈ ls, Clean e l) → ls.flatMap (stepIDs e) = e.due.map (·.id)) ∧
    (∀ sub ∈ e.due, 1 ≤ (ls.flatMap (stepIDs e)).count sub.id) ∧
    ((∃ l ∈ ls, ¬ Clean e l) → ∃ sub ∈ e.due, 2 ≤ (ls.flatMap (stepIDs e)).count sub.id) := by
  induction h with
  | nil s =>
    rw [hopen] at hack
    cases hack
  | @cons s t s' l ls hstep hrun ih =>
    obtain ⟨hof', -, hack'⟩ := step_spec hstep hof
    simp only [List.flatMap_cons, List.count_append, List.mem_cons, forall_eq_or_imp, exists_eq_or_imp]
    by_cases hl : Acks e l
    · obtain ⟨hrest, hcleans⟩ := run_acked hrun hof' (hack'.mpr (Or.inr hl))
      rw [hrest, stepIDs_of_acks hl]
      refine ⟨fun _ => by simp, fun sub hsub => ?_, ?_⟩
      · have := List.one_le_count_iff.mpr (List.mem_map_of_mem (f := fun sub : WebhookSubscription => sub.id) hsub)
        omega
      · rintro (hno | ⟨l', hl', hno⟩)
        · exact absurd (clean_of_acks hl) hno
        · exact absurd (hcleans l' hl') hno
    · have hopen' : t.acked = false := by
        have hnot : ¬ t.acked = true := by
          rw [hack', hopen]
          simp [hl]
        simpa using hnot
      obtain ⟨hall, hone, htwo⟩ := ih hof' hopen' hack
      obtain ⟨hclean, hagain⟩ := stepIDs_of_not_acks hl
      refine ⟨?_, fun sub hsub => ?_, ?_⟩
      · rintro ⟨hc, hcs⟩
        rw [hclean hc, hall hcs, List.nil_append]
      · have := hone sub hsub
        omega
      · rintro (hno | hno)
        · obtain ⟨sub, hsub, hmem⟩ := hagain hno
          have h1 := List.one_le_count_iff.mpr hmem
          have h2 := hone sub hsub
          exact ⟨sub, hsub, by omega⟩
        · obtain ⟨sub, hsub, h2⟩ := htwo hno
          exact ⟨sub, hsub, by omega⟩

/-- **One task per subscription** when the event is acked, exactly when no delivery failed halfway. -/
theorem fanned_out_once (e : Event) {s₀ : WebhookSt} (hof : OfTasks s₀) {ls : List Lbl} {s : FanOutSt}
    (hrun : (sys e s₀).Run (init s₀) ls s) (hack : s.acked = true) :
    ExactlyOnce e s ↔ ∀ l ∈ ls, Clean e l := by
  have htasks := run_tasks hrun hof
  rw [show (init s₀).tasks = [] from rfl, List.map_nil, List.nil_append] at htasks
  obtain ⟨hall, -, htwo⟩ := run_published hrun hof rfl hack
  constructor
  · intro h l hl
    by_contra hno
    obtain ⟨sub, hsub, h2⟩ := htwo ⟨l, hl, hno⟩
    have h1 := h.once sub hsub
    rw [htasks] at h1
    omega
  · intro h
    rw [hall h] at htasks
    have hnodup : (e.due.map (·.id)).Nodup := by
      unfold Event.due
      split
      · exact List.nodup_nil
      · exact e.ids.sublist ((List.filter_sublist).map _)
    have hinv : Inv e s := (inv_inductive hof).reachable ⟨_, _, rfl, hrun⟩
    refine ⟨fun sub hsub => ?_, hinv.only, hinv.stored⟩
    rw [htasks]
    exact List.count_eq_one_of_mem hnodup (List.mem_map_of_mem hsub)

end Run

/-! ## Two subscriptions -/

/-- An event that two subscriptions of its workspace take. -/
def orderEvent : Event where
  mode := .outbound
  payload :=
    { fields := [("event", .str "message.delivered"), ("trace_id", .str "t-1"),
        ("workspace_id", .str "00000000-0000-0000-0000-000000000007")]
      distinct := by decide +kernel }
  subs := [⟨20, 7, "https://a.example/hook", "", ["message.*"], true⟩, ⟨21, 7, "https://b.example/hook", "", ["*"], true⟩]
  ids := by decide
  parseUUID := fun s =>
    if s = "00000000-0000-0000-0000-000000000007" then .ok 7 else .error "invalid UUID length"

/-- A delivery in which the publishes for `failing` fail. -/
def failingFor (failing : List UUID) (now : Time) : Delivery :=
  ⟨now, none, fun id => if id ∈ failing then some "nats: timeout" else none⟩

theorem ofTasks_new : OfTasks WebhookSt.new := fun _ h => by cases h

/-- The first delivery fails at the first subscription, the second one goes through. -/
theorem fanned_out_after_failure :
    OfTasks WebhookSt.new ∧
    ∃ s, (sys orderEvent WebhookSt.new).Run (init WebhookSt.new)
        [.deliver (failingFor [20] 0), .deliver (failingFor [] (5 * second))] s ∧
      s.acked = true ∧ ExactlyOnce orderEvent s := by
  have hrun : ((LTS.exec (step orderEvent) (init WebhookSt.new)
      [.deliver (failingFor [20] 0), .deliver (failingFor [] (5 * second))]).any fun s => s.acked) = true := by
    decide +kernel
  obtain ⟨s, hs, hack⟩ := (Option.any_eq_true _ _).mp hrun
  refine ⟨ofTasks_new, s, LTS.exec_run hs, hack, ?_⟩
  refine (fanned_out_once orderEvent ofTasks_new (LTS.exec_run hs) hack).mpr ?_
  have hdue : orderEvent.due = orderEvent.subs := by decide +kernel
  intro l hl
  simp only [List.mem_cons, List.not_mem_nil, or_false] at hl
  rcases hl with rfl | rfl
  · refine Or.inr (Or.inr ?_)
    rw [hdue]
    decide
  · refine Or.inr (Or.inl ?_)
    rw [hdue]
    decide

/-- The first delivery fails at the second subscription: the first one gets two tasks. -/
theorem fanned_out_twice :
    ∃ s, (sys orderEvent WebhookSt.new).Run (init WebhookSt.new)
        [.deliver (failingFor [21] 0), .deliver (failingFor [] (5 * second))] s ∧
      s.acked = true ∧ s.tasks.map (·.subscriptionID) = [20, 20, 21] ∧ ¬ ExactlyOnce orderEvent s := by
  have hrun : ((LTS.exec (step orderEvent) (init WebhookSt.new)
      [.deliver (failingFor [21] 0), .deliver (failingFor [] (5 * second))]).any fun s =>
        s.acked && decide (s.tasks.map (·.subscriptionID) = [20, 20, 21])) = true := by
    decide +kernel
  obtain ⟨s, hs, hp⟩ := (Option.any_eq_true _ _).mp hrun
  simp only [Bool.and_eq_true, decide_eq_true_eq] at hp
  refine ⟨s, LTS.exec_run hs, hp.1, hp.2, fun h => ?_⟩
  have hdue : orderEvent.due = orderEvent.subs := by decide +kernel
  have hone := h.once ⟨20, 7, "https://a.example/hook", "", ["message.*"], true⟩ (by rw [hdue]; decide)
  rw [hp.2] at hone
  exact absurd hone (by decide)

end PerGo.L4.WebhookFanOut
