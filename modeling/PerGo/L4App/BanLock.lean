import PerGo.L3Session.Manager

/-!
# A banned device

`UpdateStatus` locks a banned row against `disconnected`; `connected` is written by a re-pairing, and by
`reconnectDevice` after it has started the session's goroutine. The ban of an event that arrives in between, or of
another session of the device, is overwritten.

* `Pending`: a goroutine of `ReconnectAll` has read the device's row and has not written `connected` yet.
* `Unpaired`: the labels do not re-pair the device.

Results: `ban_holds_iff`, from any state and for every run, and `ban_overwritten`.
-/
namespace PerGo.L4.BanLock

open PerGo.Core PerGo.L1 PerGo.L2 PerGo.L3 PerGo.L3.Sessions

/-- The stored status is `disconnected_banned`. -/
def Banned (s : St) (d : UUID) : Prop := statusOf s.devices d = some .disconnectedBanned

instance (s : St) (d : UUID) : Decidable (Banned s d) := inferInstanceAs (Decidable (_ = _))

def Unpaired (d : UUID) (ls : List Lbl) : Prop := ∀ req ans, Lbl.pair req ans ∈ ls → req.connID ≠ d

section Runs

variable (parseJID : String → Option String)

/-- The call can still write `connected`. -/
def pendingCall (call : Call) : Bool :=
  match call.pc with
  | .listed => (call.device.jid.bind parseJID).isSome
  | .connecting => true
  | _ => false

def Pending (s : St) (d : UUID) : Prop := ∃ call ∈ s.calls, call.device.id = d ∧ pendingCall parseJID call = true

variable {parseJID} {s s' : St} {d : UUID}

/-! ## One step -/

inductive DevicesStep (s : St) : Lbl → List Device → Prop
  | same (l : Lbl) : DevicesStep s l s.devices
  | stored (l : Lbl) (id : UUID) (status : DeviceStatus) (now : Time)
      (h : status = .disconnected ∨ status = .disconnectedBanned) :
      DevicesStep s l (updateStatus s.devices id status now)
  | connected (c : Nat) (call : Call) (now : Time) (hcall : s.calls[c]? = some call) (hpc : call.pc = .connecting) :
      DevicesStep s (.reconnect c (.ok now)) (updateStatus s.devices call.device.id .connected now)
  | paired (r : PairRequest) (now : Time) (devices : List Device) (h : pairDevices s.devices r now = some devices) :
      DevicesStep s (.pair r (.ok now)) devices

theorem devicesStep_write (l : Lbl) (ans : Answer) (id : UUID) {status : DeviceStatus}
    (h : status = .disconnected ∨ status = .disconnectedBanned) : DevicesStep s l (s.write ans id status).devices := by
  cases ans with
  | ok now => exact .stored l id status now h
  | err e => exact .same l
  | cancelled => exact .same l

theorem createClient_devices {c : Nat} {call : Call} {ans : Answer}
    (h : createClient parseJID s c call ans = some s') : s'.devices = s.devices := by
  unfold createClient at h
  simp only at h
  split at h
  · cases h
    rfl
  · cases h
    exact St.add_devices ..
  · split at h
    · cases h
      rfl
    · cases h
      rfl
  · cases h

theorem reconnect_devices {c : Nat} {call : Call} (hcall : s.calls[c]? = some call) {ans : Answer}
    (h : reconnect parseJID s c call ans = some s') : DevicesStep s (.reconnect c ans) s'.devices := by
  unfold reconnect at h
  simp only at h
  split at h
  · cases h
    exact .same _
  · rw [createClient_devices h]
    exact .same _
  · cases h
    exact devicesStep_write _ _ _ (Or.inr rfl)
  · rename_i now hpc
    cases h
    exact .connected c call now hcall hpc
  · cases h
    exact .same _
  · cases h
    exact .same _
  · cases h
    exact .same _
  · split at h
    · cases h
      exact devicesStep_write _ _ _ (Or.inr rfl)
    · cases h
      exact devicesStep_write _ _ _ (Or.inl rfl)
  · cases h
    exact .same _
  · cases h

theorem exit_frame {i : Nat} {sess : Session} {ans : Answer} (h : exit s i sess ans = some s') :
    DevicesStep s (.exit i ans) s'.devices ∧ s'.calls = s.calls := by
  unfold exit at h
  split at h
  · cases h
  · split at h
    · cases h
      exact ⟨devicesStep_write _ _ _ (Or.inr rfl), St.write_calls ..⟩
    · split at h
      · cases h
        exact ⟨.same _, rfl⟩
      · cases h
        exact ⟨.same _, rfl⟩
  · cases h
    exact ⟨.same _, rfl⟩
  · cases h
    exact ⟨devicesStep_write _ _ _ (Or.inl rfl), St.write_calls ..⟩
  · cases h
    exact ⟨.same _, rfl⟩
  · cases h
    exact ⟨.same _, rfl⟩
  · cases h

theorem handle_frame {n : Nat} {hd : Handler} {sess : Session} {ans : Answer} (h : handle s n hd sess ans = some s') :
    DevicesStep s (.handle n ans) s'.devices ∧ s'.calls = s.calls := by
  unfold handle at h
  split at h
  · cases h
    exact ⟨devicesStep_write _ _ _ (Or.inr rfl), St.write_calls ..⟩
  · cases h
    exact ⟨.same _, rfl⟩
  · cases h
    exact ⟨.same _, rfl⟩
  · cases h

theorem pairing_frame {p : Nat} {pr : Pairing} (h : pairing s p pr = some s') :
    s'.devices = s.devices ∧ s'.calls = s.calls := by
  unfold pairing at h
  simp only at h
  split at h
  · cases h
    exact ⟨St.add_devices .., St.add_calls ..⟩
  · cases h
    exact ⟨rfl, rfl⟩
  · cases h

inductive CallsStep (parseJID : String → Option String) (s : St) : Lbl → List Call → Prop
  | same (l : Lbl) : CallsStep parseJID s l s.calls
  | listed : CallsStep parseJID s .reconnectAll (reconnectAll s).calls
  | moved (c : Nat) (ans : Answer) (call : Call) (pc : CallPc) (hcall : s.calls[c]? = some call) (hl : pc ≠ .listed)
      (hc : pc = .connecting → pendingCall parseJID call = true) :
      CallsStep parseJID s (.reconnect c ans) (s.calls.set c { call with pc := pc })

theorem createClient_calls {c : Nat} {call : Call} (hcall : s.calls[c]? = some call) (hpc : call.pc = .listed)
    {ans : Answer} (h : createClient parseJID s c call ans = some s') :
    CallsStep parseJID s (.reconnect c ans) s'.calls := by
  unfold createClient at h
  simp only at h
  split at h
  · cases h
    exact .moved c _ call _ hcall (fun hc => nomatch hc) (fun hc => nomatch hc)
  · rename_i jid _ hjid
    cases h
    have hp : pendingCall parseJID call = true := by simp [pendingCall, hpc, hjid]
    show CallsStep parseJID s _ ((s.add _).calls.set c _)
    rw [St.add_calls]
    exact .moved c _ call _ hcall (fun hc => nomatch hc) (fun _ => hp)
  · split at h
    · cases h
      exact .moved c _ call _ hcall (fun hc => nomatch hc) (fun hc => nomatch hc)
    · cases h
      exact .moved c _ call _ hcall (fun hc => nomatch hc) (fun hc => nomatch hc)
  · cases h

theorem reconnect_calls {c : Nat} {call : Call} (hcall : s.calls[c]? = some call) {ans : Answer}
    (h : reconnect parseJID s c call ans = some s') : CallsStep parseJID s (.reconnect c ans) s'.calls := by
  have hmoved : ∀ {t : St} (pc : CallPc), t.calls = s.calls → pc ≠ .listed → pc ≠ .connecting →
      CallsStep parseJID s (.reconnect c ans) (t.setCall c call pc).calls := by
    intro t pc ht hl hc
    show CallsStep parseJID s _ (t.calls.set c _)
    rw [ht]
    exact .moved c ans call pc hcall hl fun h => absurd h hc
  unfold reconnect at h
  simp only at h
  split at h
  · cases h
    exact hmoved _ rfl (fun hc => nomatch hc) (fun hc => nomatch hc)
  · rename_i hpc _
    exact createClient_calls hcall hpc h
  · cases h
    exact hmoved _ (St.write_calls ..) (fun hc => nomatch hc) (fun hc => nomatch hc)
  · cases h
    exact hmoved _ rfl (fun hc => nomatch hc) (fun hc => nomatch hc)
  · cases h
    exact hmoved _ rfl (fun hc => nomatch hc) (fun hc => nomatch hc)
  · cases h
    exact hmoved _ rfl (fun hc => nomatch hc) (fun hc => nomatch hc)
  · cases h
    exact hmoved _ rfl (fun hc => nomatch hc) (fun hc => nomatch hc)
  · split at h
    · cases h
      exact hmoved _ (St.write_calls ..) (fun hc => nomatch hc) (fun hc => nomatch hc)
    · cases h
      exact hmoved _ (St.write_calls ..) (fun hc => nomatch hc) (fun hc => nomatch hc)
  · cases h
    exact hmoved _ rfl (fun hc => nomatch hc) (fun hc => nomatch hc)
  · cases h

theorem step_frame {l : Lbl} (h : step parseJID s l = some s') :
    DevicesStep s l s'.devices ∧ CallsStep parseJID s l s'.calls := by
  cases l with
  | reconnectAll =>
    cases h
    exact ⟨.same _, .listed⟩
  | reconnect c ans =>
    obtain ⟨call, hcall, h⟩ := Option.bind_eq_some_iff.mp h
    exact ⟨reconnect_devices hcall h, reconnect_calls hcall h⟩
  | runReturn i err =>
    obtain ⟨sess, -, h⟩ := Option.bind_eq_some_iff.mp h
    obtain ⟨-, h⟩ := Option.ite_none_right_eq_some.mp h
    cases h
    exact ⟨.same _, .same _⟩
  | exit i ans =>
    obtain ⟨sess, -, h⟩ := Option.bind_eq_some_iff.mp h
    obtain ⟨hdevices, hcalls⟩ := exit_frame h
    exact ⟨hdevices, hcalls ▸ .same _⟩
  | loggedOut i =>
    obtain ⟨sess, -, rfl⟩ := Option.map_eq_some_iff.mp h
    exact ⟨.same _, .same _⟩
  | handle n ans =>
    obtain ⟨hd, -, h⟩ := Option.bind_eq_some_iff.mp h
    obtain ⟨sess, -, h⟩ := Option.bind_eq_some_iff.mp h
    obtain ⟨hdevices, hcalls⟩ := handle_frame h
    exact ⟨hdevices, hcalls ▸ .same _⟩
  | pair r ans =>
    cases ans with
    | ok now =>
      obtain ⟨devices, hdevices, rfl⟩ := Option.map_eq_some_iff.mp h
      exact ⟨.paired r now devices hdevices, .same _⟩
    | err e =>
      cases h
      exact ⟨.same _, .same _⟩
    | cancelled =>
      cases h
      exact ⟨.same _, .same _⟩
  | pairing p =>
    obtain ⟨pr, -, h⟩ := Option.bind_eq_some_iff.mp h
    obtain ⟨hdevices, hcalls⟩ := pairing_frame h
    exact ⟨hdevices ▸ .same _, hcalls ▸ .same _⟩

/-! ## Runs -/

theorem banned_pairDevices {devices devices' : List Device} {r : PairRequest} {now : Time} (hne : r.connID ≠ d)
    (h : pairDevices devices r now = some devices') (hb : statusOf devices d = some .disconnectedBanned) :
    statusOf devices' d = some .disconnectedBanned := by
  unfold pairDevices at h
  simp only at h
  split at h
  · split at h
    · cases h
    · cases h
      unfold statusOf at hb ⊢
      rw [find?_updateWhere, Option.map_map, ← hb]
      · refine Option.map_congr fun x hx => ?_
        have hid : x.id = d := by simpa using List.find?_some hx
        have hx : x.id ≠ r.connID := hid ▸ Ne.symm hne
        simp [hx]
      · intro x
        rfl
  · split at h
    · cases h
    · cases h
      unfold statusOf at hb ⊢
      rw [List.find?_append]
      obtain ⟨x, hx, hst⟩ := Option.map_eq_some_iff.mp hb
      simp [hx, hst]

theorem ids_unique {l : Lbl} (hn : (s.devices.map (·.id)).Nodup) (h : step parseJID s l = some s') :
    (s'.devices.map (·.id)).Nodup := by
  have hupdate : ∀ id status now, ((updateStatus s.devices id status now).map (·.id)) = s.devices.map (·.id) := by
    intro id status now
    unfold updateStatus
    simp only
    split
    · apply map_updateWhere
      intro x
      rfl
    · apply map_updateWhere
      intro x
      rfl
  have hd := (step_frame h).1
  generalize s'.devices = devices at hd
  cases hd with
  | same => exact hn
  | stored _ id status now => rwa [hupdate]
  | connected c call now => rwa [hupdate]
  | paired r now _ hp =>
    unfold pairDevices at hp
    simp only at hp
    split at hp
    · split at hp
      · cases hp
      · cases hp
        rw [map_updateWhere]
        · exact hn
        · intro x
          rfl
    · split at hp
      · cases hp
      · rename_i hnew
        cases hp
        refine nodup_concat hn fun x hx hid => hnew (Or.inl ?_)
        exact List.any_eq_true.mpr ⟨x, hx, decide_eq_true hid⟩

/-- What a run keeps: the ban, and that no call can overwrite it. -/
structure Locked (parseJID : String → Option String) (s : St) (d : UUID) : Prop where
  ids : (s.devices.map (·.id)).Nodup
  banned : Banned s d
  settled : ¬ Pending parseJID s d

theorem Locked.banned_step (hl : Locked parseJID s d) {l : Lbl} (hl' : ∀ req ans, l = .pair req ans → req.connID ≠ d)
    (h : step parseJID s l = some s') : Banned s' d := by
  have hb : statusOf s.devices d = some .disconnectedBanned := hl.banned
  have hd := (step_frame h).1
  unfold Banned
  generalize s'.devices = devices at hd
  cases hd with
  | same => exact hb
  | stored _ id status now hst =>
    rw [statusOf_updateStatus, hb]
    rcases hst with rfl | rfl
    · simp
    · simp
  | connected c call now hcall hpc =>
    -- the call is pending, so the row it writes is another device's
    have hne : call.device.id ≠ d := fun hid =>
      hl.settled ⟨call, List.mem_of_getElem? hcall, hid, by simp [pendingCall, hpc]⟩
    rw [statusOf_updateStatus, hb]
    simp [Ne.symm hne]
  | paired r now _ hp =>
    have hne : r.connID ≠ d := hl' r _ rfl
    exact banned_pairDevices hne hp hb

/-- `ReconnectAll` skips the device, and no other step begins a call. -/
theorem Locked.settled_step (hl : Locked parseJID s d) {l : Lbl} (h : step parseJID s l = some s') :
    ¬ Pending parseJID s' d := by
  have hc := (step_frame h).2
  rintro ⟨call', hmem, hid, hp⟩
  generalize s'.calls = calls at hc hmem
  cases hc with
  | same => exact hl.settled ⟨call', hmem, hid, hp⟩
  | listed =>
    rcases List.mem_append.mp hmem with hmem | hmem
    · exact hl.settled ⟨call', hmem, hid, hp⟩
    · obtain ⟨x, hx, rfl⟩ := List.mem_map.mp hmem
      obtain ⟨hx, hrec⟩ := List.mem_filter.mp hx
      have hrow : (s.devices.find? fun x => x.id = d) = some x := (find?_key_iff hl.ids).mpr ⟨hx, hid⟩
      have hst : x.status = .disconnectedBanned := by
        have hb : statusOf s.devices d = some .disconnectedBanned := hl.banned
        simpa [statusOf, hrow] using hb
      simp [reconnectable, hst] at hrec
  | moved c ans call pc hcall hlisted hconn =>
    rcases List.mem_or_eq_of_mem_set hmem with hmem | rfl
    · exact hl.settled ⟨call', hmem, hid, hp⟩
    · refine hl.settled ⟨call, List.mem_of_getElem? hcall, hid, ?_⟩
      cases pc with
      | connecting => exact hconn rfl
      | listed => exact absurd rfl hlisted
      | _ => cases hp

theorem Locked.run {devices : List Device} (hl : Locked parseJID s d) {ls : List Lbl} (hls : Unpaired d ls)
    (h : (sys parseJID devices).Run s ls s') : Locked parseJID s' d := by
  induction h with
  | nil => exact hl
  | cons hstep _ ih =>
    refine ih ⟨ids_unique hl.ids hstep, hl.banned_step ?_ hstep, hl.settled_step hstep⟩ ?_
    · intro req ans heq
      exact hls req ans (heq ▸ List.mem_cons_self)
    · intro req ans hmem
      exact hls req ans (List.mem_cons_of_mem _ hmem)

theorem pending_connects (devices : List Device) {status : DeviceStatus} (hst : statusOf s.devices d = some status)
    (hp : Pending parseJID s d) :
    ∃ ls s', Unpaired d ls ∧ (sys parseJID devices).Run s ls s' ∧ statusOf s'.devices d = some .connected := by
  obtain ⟨call, hmem, hid, hp⟩ := hp
  obtain ⟨c, hcall⟩ := List.mem_iff_getElem?.mp hmem
  have hunpaired : ∀ ls : List Lbl, (∀ l ∈ ls, ∃ c ans, l = .reconnect c ans) → Unpaired d ls := by
    intro ls hls req ans hpair
    obtain ⟨c, ans', heq⟩ := hls _ hpair
    cases heq
  have hwrite : ∀ ds : List Device, statusOf ds d = some status →
      statusOf (updateStatus ds call.device.id .connected 0) d = some .connected := by
    intro ds hds
    rw [statusOf_updateStatus, hds]
    simp [hid]
  have hconnect : ∀ (t : St) (call' : Call), t.calls[c]? = some call' → call'.pc = .connecting →
      step parseJID t (.reconnect c (.ok 0)) =
        some ((t.write (.ok 0) call'.device.id .connected).setCall c call' .connected) := by
    intro t call' hc hpc
    simp only [step, hc, Option.bind_some, reconnect, hpc]
  unfold pendingCall at hp
  split at hp
  · rename_i hpc
    obtain ⟨jid, hjid⟩ := Option.isSome_iff_exists.mp hp
    let sess : Session :=
      ⟨call.device.id, call.device.workspaceID, call.device.senderIdentity, jid, false, .running⟩
    let t : St := (s.add sess).setCall c call .connecting
    have hcreate : step parseJID s (.reconnect c (.ok 0)) = some t := by
      simp only [step, hcall, Option.bind_some, reconnect, hpc, createClient, hjid]
      rfl
    have hlt : c < s.calls.length := (List.getElem?_eq_some_iff.mp hcall).1
    have hcall' : t.calls[c]? = some { call with pc := .connecting } := by
      show ((s.add sess).calls.set c _)[c]? = _
      rw [St.add_calls, List.getElem?_set_self hlt]
    refine ⟨[.reconnect c (.ok 0), .reconnect c (.ok 0)], _, hunpaired _ ?_,
      .cons hcreate (.cons (hconnect t _ hcall' rfl) (.nil _)), ?_⟩
    · simp
    · refine hwrite _ ?_
      show statusOf (s.add sess).devices d = _
      rw [St.add_devices]
      exact hst
  · rename_i hpc
    refine ⟨[.reconnect c (.ok 0)], _, hunpaired _ ?_, .cons (hconnect s call hcall hpc) (.nil _), hwrite _ hst⟩
    simp
  · cases hp

/-- **A ban is kept** in every run that does not re-pair the device exactly when no `ReconnectAll` goroutine
is between the read of the row and its `connected` when the ban is stored. -/
theorem ban_holds_iff (parseJID : String → Option String) (devices : List Device) (hids : (devices.map (·.id)).Nodup)
    (s : St) (hs : (sys parseJID devices).Reachable s) (d : UUID) (hban : Banned s d) :
    (∀ ls s', Unpaired d ls → (sys parseJID devices).Run s ls s' → Banned s' d) ↔ ¬ Pending parseJID s d := by
  constructor
  · intro h hp
    obtain ⟨ls, s', hls, hrun, hconn⟩ := pending_connects devices hban hp
    have hban' : statusOf s'.devices d = some .disconnectedBanned := h ls s' hls hrun
    rw [hconn] at hban'
    cases hban'
  · intro hp ls s' hls hrun
    have hinv : (sys parseJID devices).Inductive fun s => (s.devices.map (·.id)).Nodup := by
      refine ⟨?_, fun s l s' hn hstep => ids_unique hn hstep⟩
      rintro s rfl
      exact hids
    exact (Locked.run ⟨hinv.reachable hs, hban, hp⟩ hls hrun).banned

end Runs

/-! ## One device -/

def phone : Device := ⟨1, 10, "whatsapp", some "a@s", "a", .disconnected, none⟩

/-- The session is connected, and then a `LoggedOut` event arrives. -/
def bannedLate : List Lbl :=
  [.reconnectAll, .reconnect 0 (.ok 0), .reconnect 0 (.ok 0), .loggedOut 0, .handle 0 (.ok 0)]

/-- The event arrives before the goroutine of `ReconnectAll` has written `connected`. -/
def bannedEarly : List Lbl := [.reconnectAll, .reconnect 0 (.ok 0), .loggedOut 0, .handle 0 (.ok 0)]

instance (s : St) (d : UUID) : Decidable (Pending some s d) := inferInstanceAs (Decidable (∃ call ∈ s.calls, _))

theorem ban_holds_late : ∃ s, LTS.exec (step some) (init [phone]) bannedLate = some s ∧ Banned s 1 ∧
    ∀ ls s', Unpaired 1 ls → (sys some [phone]).Run s ls s' → Banned s' 1 := by
  obtain ⟨s, hs, hban, hp⟩ : ∃ s, LTS.exec (step some) (init [phone]) bannedLate = some s ∧ Banned s 1 ∧
      ¬ Pending some s 1 := by
    have hrun : (LTS.exec (step some) (init [phone]) bannedLate).any fun s => Banned s 1 && ¬ Pending some s 1 := by
      decide +kernel
    obtain ⟨s, hs, h⟩ := (Option.any_eq_true _ _).mp hrun
    simp only [Bool.and_eq_true, decide_eq_true_eq] at h
    exact ⟨s, hs, h⟩
  exact ⟨s, hs, hban, (ban_holds_iff some [phone] (by simp) s (LTS.exec_reachable hs) 1 hban).mpr hp⟩

/-- The stored ban, and what the post-start write makes of it. -/
theorem ban_overwritten : ∃ s s', LTS.exec (step some) (init [phone]) bannedEarly = some s ∧ Banned s 1 ∧
    (sys some [phone]).Run s [.reconnect 0 (.ok 0)] s' ∧ statusOf s'.devices 1 = some .connected := by
  have hrun : (LTS.exec (step some) (init [phone]) bannedEarly).any fun s =>
      Banned s 1 && ((step some s (.reconnect 0 (.ok 0))).any fun s' => statusOf s'.devices 1 = some .connected) := by
    decide +kernel
  obtain ⟨s, hs, h⟩ := (Option.any_eq_true _ _).mp hrun
  simp only [Bool.and_eq_true, decide_eq_true_eq] at h
  obtain ⟨s', hs', hconn⟩ := (Option.any_eq_true _ _).mp h.2
  exact ⟨s, s', hs, h.1, .cons hs' (.nil _), of_decide_eq_true hconn⟩

end PerGo.L4.BanLock
