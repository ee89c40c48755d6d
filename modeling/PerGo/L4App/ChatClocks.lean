import PerGo.L4App.ChatRun

/-!
# Snooze and the activity times of a chat

Five writers touch the status of a chat: the three activities of `Apply`, and `UpdateChatStatus` and
`SnoozeChat` of `repository/chat.go`, which write the row past it. A run has all of them in
any order, with activity times in any order.

* `Settled`: the status is a word of the vocabulary, and a time to wake up is there only while the
  chat is snoozed. A chat is created so (`Settled.created`), and every writer keeps it.
* `Clocked`: a field that keeps the latest of some of the operations' times. The three activity times
  are such fields, each with its own operations, so what a run does to them is one lemma.

Result: `snooze_and_times`.
-/
namespace PerGo.L4.ChatClocks

open PerGo.L1 PerGo.L2 ChatRun

/-- Another status than snoozed wakes the chat up. mirrors chat.go:373-388 -/
def updateChatStatus (s : ChatState) (status : ChatStatus) : ChatState :=
  if status = .snoozed then { s with status := status } else { s with status := status, snoozedUntil := none }

/-- mirrors chat.go:391-403 -/
def snoozeChat (s : ChatState) (snoozedUntil : Option Time) : ChatState :=
  { s with status := .snoozed, snoozedUntil := snoozedUntil }

inductive Op
  | apply (env : ApplyEnv) (a : Activity)
  | updateChatStatus (status : ChatStatus)
  | snoozeChat (snoozedUntil : Option Time)

def step (s : ChatState) : Op → ChatState
  | .apply env a => ChatRun.step s (env, a)
  | .updateChatStatus status => updateChatStatus s status
  | .snoozeChat snoozedUntil => snoozeChat s snoozedUntil

@[simp] theorem step_inbound (s : ChatState) (env : ApplyEnv) (act : InboundTurn) :
    step s (.apply env (.inbound act)) = inboundState env s act := by
  simp only [step, ChatRun.step, Activity.apply]

@[simp] theorem step_outbound (s : ChatState) (env : ApplyEnv) (act : OutboundActivity) :
    step s (.apply env (.outbound act)) = outboundState env s act := by
  simp only [step, ChatRun.step, Activity.apply]

@[simp] theorem step_aiChange (s : ChatState) (env : ApplyEnv) (act : AIChangeActivity) :
    step s (.apply env (.aiChange act)) = aiChangeState env s act := by
  simp only [step, ChatRun.step, Activity.apply]

def run (s : ChatState) (ops : List Op) : ChatState := ops.foldl step s

@[simp] theorem run_nil (s : ChatState) : run s [] = s := rfl

@[simp] theorem run_cons (s : ChatState) (op : Op) (ops : List Op) : run s (op :: ops) = run (step s op) ops := rfl

def ValidStatus (status : ChatStatus) : Prop :=
  status = .open_ ∨ status = .pending ∨ status = .closed ∨ status = .snoozed

/-- An activity has a time, and a status that is set is a valid one. -/
def Op.Allowed : Op → Prop
  | .apply _ a => a.at_ ≠ 0
  | .updateChatStatus status => ValidStatus status
  | .snoozeChat _ => True

def Op.Speaks : Op → Prop
  | .apply _ (.inbound _) => True
  | .apply _ (.outbound act) => senderOf act ≠ .system
  | _ => False

/-! ## Status and snooze -/

/-- A chat row is new, or has a status of the vocabulary. -/
structure Settled (s : ChatState) : Prop where
  status : s.status = .unset ∨ ValidStatus s.status
  snooze : s.snoozedUntil ≠ none → s.status = .snoozed

theorem Settled.created {s : ChatState} (hstatus : s.status = .unset) (hsnooze : s.snoozedUntil = none) : Settled s :=
  ⟨.inl hstatus, fun h => absurd hsnooze h⟩

def SettledPair (p : ChatStatus × Option Time) : Prop := ValidStatus p.1 ∧ (p.2 ≠ none → p.1 = .snoozed)

theorem SettledPair.opened : SettledPair (.open_, none) := ⟨.inl rfl, fun h => absurd rfl h⟩

theorem settledPair_reopen {s : ChatState} (h : Settled s) : SettledPair (reopen s.status s.snoozedUntil) ∧
    ((reopen s.status s.snoozedUntil).1 = .open_ ∨ (reopen s.status s.snoozedUntil).1 = .pending) := by
  unfold reopen
  split
  · exact ⟨.opened, .inl rfl⟩
  · rename_i hawake
    simp only [not_or] at hawake
    obtain ⟨hsnoozed, hclosed, hunset⟩ := hawake
    rcases h.status with hst | hvalid
    · exact absurd hst hunset
    · refine ⟨⟨hvalid, fun hu => absurd (h.snooze hu) hsnoozed⟩, ?_⟩
      rcases hvalid with hst | hst | hst | hst
      · exact .inl hst
      · exact .inr hst
      · exact absurd hst hclosed
      · exact absurd hst hsnoozed

theorem settledPair_normalizeSnooze {s : ChatState} (h : Settled s) (now : Time) :
    SettledPair (normalizeSnooze s.status s.snoozedUntil now) := by
  unfold normalizeSnooze
  split
  · rename_i hst
    refine ⟨.inl rfl, fun hu => ?_⟩
    have hsnoozed := h.snooze hu
    rw [hst] at hsnoozed
    cases hsnoozed
  · rename_i hst
    split
    · exact .opened
    · exact ⟨h.status.resolve_left hst, h.snooze⟩

theorem settledPair_outboundStatus {s : ChatState} (h : Settled s) (sender : SenderType) (at_ : Time) :
    SettledPair (outboundStatus s sender at_) := by
  unfold outboundStatus
  split
  · split
    · exact ⟨.inr (.inr (.inl rfl)), fun h => absurd rfl h⟩
    · exact settledPair_normalizeSnooze h at_
  · exact (settledPair_reopen h).1

theorem settled_of_pair {s : ChatState} {p : ChatStatus × Option Time} (hp : SettledPair p) (hstatus : s.status = p.1)
    (hsnooze : s.snoozedUntil = p.2) : Settled s := by
  refine ⟨.inr ?_, ?_⟩
  · rw [hstatus]
    exact hp.1
  · rw [hstatus, hsnooze]
    exact hp.2

theorem inboundState_status (env : ApplyEnv) (s : ChatState) (act : InboundTurn) :
    (inboundState env s act).status = (reopen s.status s.snoozedUntil).1 ∧
    (inboundState env s act).snoozedUntil = (reopen s.status s.snoozedUntil).2 := by
  unfold inboundState
  dsimp only
  split <;> exact ⟨rfl, rfl⟩

theorem outboundState_status (env : ApplyEnv) (s : ChatState) (act : OutboundActivity) :
    (outboundState env s act).status = (outboundStatus s (senderOf act) (atOf env act.at_)).1 ∧
    (outboundState env s act).snoozedUntil = (outboundStatus s (senderOf act) (atOf env act.at_)).2 := by
  simp only [outboundState, and_self]

theorem settled_step {s : ChatState} (h : Settled s) {op : Op} (hop : op.Allowed) : Settled (step s op) := by
  cases op with
  | apply env a =>
    cases a with
    | inbound act =>
      rw [step_inbound]
      obtain ⟨hstatus, hsnooze⟩ := inboundState_status env s act
      exact settled_of_pair (settledPair_reopen h).1 hstatus hsnooze
    | outbound act =>
      rw [step_outbound]
      obtain ⟨hstatus, hsnooze⟩ := outboundState_status env s act
      exact settled_of_pair (settledPair_outboundStatus h _ _) hstatus hsnooze
    | aiChange act => exact settled_of_pair (settledPair_normalizeSnooze h (atOf env act.at_)) rfl rfl
  | updateChatStatus status =>
    show Settled (updateChatStatus s status)
    unfold updateChatStatus
    split
    · rename_i hst
      exact ⟨.inr hop, fun _ => hst⟩
    · exact ⟨.inr hop, fun h => absurd rfl h⟩
  | snoozeChat snoozedUntil => exact ⟨.inr (.inr (.inr (.inr rfl))), fun _ => rfl⟩

theorem settled_run {s : ChatState} {ops : List Op} (h : Settled s) (hops : ∀ op ∈ ops, op.Allowed) :
    Settled (run s ops) := by
  induction ops generalizing s with
  | nil => exact h
  | cons op ops ih =>
    exact ih (settled_step h (hops op List.mem_cons_self)) fun o ho => hops o (List.mem_cons_of_mem _ ho)

theorem outboundStatus_of_ne {sender : SenderType} (h : sender ≠ .system) (s : ChatState) (at_ : Time) :
    outboundStatus s sender at_ = reopen s.status s.snoozedUntil := if_neg h

theorem speaks_status {s : ChatState} {op : Op} (hop : op.Speaks) :
    (step s op).status = (reopen s.status s.snoozedUntil).1 := by
  cases op with
  | apply env a =>
    cases a with
    | inbound act =>
      rw [step_inbound]
      exact (inboundState_status env s act).1
    | outbound act =>
      simp only [Op.Speaks] at hop
      rw [step_outbound, (outboundState_status env s act).1, outboundStatus_of_ne hop]
    | aiChange act => exact False.elim hop
  | updateChatStatus status => exact False.elim hop
  | snoozeChat snoozedUntil => exact False.elim hop

/-! ## The activity times -/

def Op.inboundAt? : Op → Option Time
  | .apply _ (.inbound act) => some act.at_
  | _ => none

def Op.outboundAt? : Op → Option Time
  | .apply _ (.outbound act) => some act.at_
  | _ => none

def Op.turnAt? (op : Op) : Option Time := op.inboundAt?.or op.outboundAt?

/-- `clock` keeps the latest of the times `time` finds. -/
def Clocked (clock : ChatState → Option Time) (time : Op → Option Time) : Prop :=
  ∀ s op, op.Allowed → clock (step s op) = (time op).elim (clock s) (laterOfOpt (clock s))

theorem max?_later (prev : Option Time) (at_ : Time) (l : List Time) :
    ((laterOfOpt prev at_).toList ++ l).max? = (prev.toList ++ at_ :: l).max? := by
  cases prev with
  | none => rfl
  | some p =>
    have hmax : laterOfOpt (some p) at_ = some (max p at_) := by
      simp only [laterOfOpt, Option.all_some, decide_eq_true_eq]
      split
      · rename_i h
        rw [max_eq_right (Int.le_of_lt h)]
      · rename_i h
        rw [max_eq_left (Int.not_lt.mp h)]
    simp only [hmax, Option.toList_some, List.singleton_append, List.max?_cons', List.foldl_cons]

theorem laterOfOpt_le {prev : Option Time} {t : Time} (at_ : Time) (h : prev = some t) :
    ∃ t', laterOfOpt prev at_ = some t' ∧ t ≤ t' := by
  subst h
  simp only [laterOfOpt, Option.all_some, decide_eq_true_eq]
  split
  · rename_i hlt
    exact ⟨at_, rfl, Int.le_of_lt hlt⟩
  · exact ⟨t, rfl, Int.le_refl t⟩

section Clock

variable {clock : ChatState → Option Time} {time : Op → Option Time}

theorem Clocked.run (h : Clocked clock time) (s : ChatState) {ops : List Op} (hops : ∀ op ∈ ops, op.Allowed) :
    clock (run s ops) = ((clock s).toList ++ ops.filterMap time).max? := by
  induction ops generalizing s with
  | nil => cases hc : clock s <;> simp [hc]
  | cons op ops ih =>
    rw [run_cons, ih (step s op) fun o ho => hops o (List.mem_cons_of_mem _ ho), h s op (hops op List.mem_cons_self)]
    cases ht : time op with
    | none => simp [ht]
    | some t =>
      rw [List.filterMap_cons_some ht]
      exact max?_later (clock s) t _

theorem Clocked.le (h : Clocked clock time) {s : ChatState} {op : Op} (hop : op.Allowed) {t : Time}
    (ht : clock s = some t) : ∃ t', clock (step s op) = some t' ∧ t ≤ t' := by
  rw [h s op hop]
  cases time op with
  | none => exact ⟨t, ht, Int.le_refl t⟩
  | some at_ => exact laterOfOpt_le at_ ht

end Clock

theorem updateChatStatus_times (s : ChatState) (status : ChatStatus) :
    (updateChatStatus s status).lastInboundAt = s.lastInboundAt ∧
    (updateChatStatus s status).lastOutboundAt = s.lastOutboundAt ∧
    (updateChatStatus s status).lastMessageAt = s.lastMessageAt := by
  unfold updateChatStatus
  split <;> exact ⟨rfl, rfl, rfl⟩

theorem inboundState_times (env : ApplyEnv) (s : ChatState) {act : InboundTurn} (hat : act.at_ ≠ 0) :
    (inboundState env s act).lastInboundAt = laterOfOpt s.lastInboundAt act.at_ ∧
    (inboundState env s act).lastOutboundAt = s.lastOutboundAt ∧
    (inboundState env s act).lastMessageAt = laterOf s.lastMessageAt act.at_ := by
  unfold inboundState
  rw [atOf_of_ne env hat]
  dsimp only
  split <;> exact ⟨rfl, rfl, rfl⟩

theorem outboundState_times (env : ApplyEnv) (s : ChatState) {act : OutboundActivity} (hat : act.at_ ≠ 0) :
    (outboundState env s act).lastInboundAt = s.lastInboundAt ∧
    (outboundState env s act).lastOutboundAt = laterOfOpt s.lastOutboundAt act.at_ ∧
    (outboundState env s act).lastMessageAt = laterOf s.lastMessageAt act.at_ := by
  unfold outboundState
  rw [atOf_of_ne env hat]
  exact ⟨rfl, rfl, rfl⟩

theorem some_laterOf (prev at_ : Time) : some (laterOf prev at_) = laterOfOpt (some prev) at_ := by
  simp only [laterOf, laterOfOpt, Option.all_some, decide_eq_true_eq]
  split <;> rfl

theorem clocked_inbound : Clocked ChatState.lastInboundAt Op.inboundAt? := by
  intro s op hop
  cases op with
  | apply env a =>
    cases a with
    | inbound act => exact (inboundState_times env s hop).1
    | outbound act => exact (outboundState_times env s hop).1
    | aiChange act => rfl
  | updateChatStatus status => exact (updateChatStatus_times s status).1
  | snoozeChat snoozedUntil => rfl

theorem clocked_outbound : Clocked ChatState.lastOutboundAt Op.outboundAt? := by
  intro s op hop
  cases op with
  | apply env a =>
    cases a with
    | inbound act => exact (inboundState_times env s hop).2.1
    | outbound act => exact (outboundState_times env s hop).2.1
    | aiChange act => rfl
  | updateChatStatus status => exact (updateChatStatus_times s status).2.1
  | snoozeChat snoozedUntil => rfl

theorem clocked_message : Clocked (fun s => some s.lastMessageAt) Op.turnAt? := by
  intro s op hop
  cases op with
  | apply env a =>
    cases a with
    | inbound act =>
      have htime := congrArg some (inboundState_times env s hop).2.2
      rw [some_laterOf] at htime
      exact htime
    | outbound act =>
      have htime := congrArg some (outboundState_times env s hop).2.2
      rw [some_laterOf] at htime
      exact htime
    | aiChange act => rfl
  | updateChatStatus status => exact congrArg some (updateChatStatus_times s status).2.2
  | snoozeChat snoozedUntil => rfl

/-! ## Every run -/

/-- No operation takes a clock back. -/
structure NotBack (s s' : ChatState) : Prop where
  inbound : ∀ t, s.lastInboundAt = some t → ∃ t', s'.lastInboundAt = some t' ∧ t ≤ t'
  outbound : ∀ t, s.lastOutboundAt = some t → ∃ t', s'.lastOutboundAt = some t' ∧ t ≤ t'
  message : s.lastMessageAt ≤ s'.lastMessageAt

theorem notBack_step (s : ChatState) {op : Op} (hop : op.Allowed) : NotBack s (step s op) := by
  refine ⟨fun t => clocked_inbound.le hop, fun t => clocked_outbound.le hop, ?_⟩
  obtain ⟨t', ht', hle⟩ := clocked_message.le hop (s := s) rfl
  rw [Option.some.inj ht']
  exact hle

/-- Every chat state reached has a time to wake up only while it is snoozed, its clocks show the latest
of the turns they are of, no operation takes them back, and whoever speaks finds the chat awake after it. -/
theorem snooze_and_times {s : ChatState} (hs : Settled s) {ops : List Op} (hops : ∀ op ∈ ops, op.Allowed) :
    ((run s ops).snoozedUntil ≠ none → (run s ops).status = .snoozed) ∧
    (run s ops).lastInboundAt = (s.lastInboundAt.toList ++ ops.filterMap Op.inboundAt?).max? ∧
    (run s ops).lastOutboundAt = (s.lastOutboundAt.toList ++ ops.filterMap Op.outboundAt?).max? ∧
    some (run s ops).lastMessageAt = (s.lastMessageAt :: ops.filterMap Op.turnAt?).max? ∧
    (∀ op, op.Allowed → NotBack (run s ops) (step (run s ops) op)) ∧
    ∀ op, op.Speaks → (step (run s ops) op).status = .open_ ∨ (step (run s ops) op).status = .pending :=
  have hsettled := settled_run hs hops
  ⟨hsettled.snooze, clocked_inbound.run s hops, clocked_outbound.run s hops, clocked_message.run s hops,
    fun _ hop => notBack_step _ hop, fun _ hop => by
      rw [speaks_status hop]
      exact (settledPair_reopen hsettled).2⟩

/-- A snoozed chat: the system's message leaves it so, the late human one wakes it up. -/
def snoozedDay : List Op :=
  [.apply noProduct (.outbound (reply (25 * hour) "system" "telegram")), .snoozeChat (some (60 * hour)),
    .apply noProduct (.outbound (reply (30 * hour) "system" "")), .updateChatStatus .snoozed,
    .apply noProduct (.outbound (reply (20 * hour) "human" "")), .updateChatStatus .pending]

theorem snooze_and_times_reordered : (run freshChat snoozedDay).lastOutboundAt = some (30 * hour) ∧
    (run freshChat snoozedDay).lastInboundAt = none ∧
    ((run freshChat snoozedDay).snoozedUntil ≠ none → (run freshChat snoozedDay).status = .snoozed) := by
  have hfresh : Settled freshChat := ⟨.inr (.inl rfl), fun h => absurd rfl h⟩
  have hops : ∀ op ∈ snoozedDay, op.Allowed := by simp [snoozedDay, Op.Allowed, Activity.at_, reply, ValidStatus, hour, minute, second]
  obtain ⟨hsnooze, hin, hout, -⟩ := snooze_and_times hfresh hops
  exact ⟨hout.trans (by decide), hin.trans (by decide), hsnooze⟩

end PerGo.L4.ChatClocks
