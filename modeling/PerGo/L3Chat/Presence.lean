import PerGo.L2Domain.UUID

/-!
# Who is in a chat

`presence/tracker.go`. A call holds the mutex of the tracker, so a run is a list of calls; `now` is the clock at the
end of a call. What subscribers are sent is what a call returns, and is left out.

* `call_viewers`: what a call leaves of a user is what it says of them, if it has not expired.
* `active_viewers`: the list a call returns against the last heartbeats of its chat.
-/
namespace PerGo.L3.Presence

open PerGo.Core PerGo.L2

/-- mirrors tracker.go:13-19 -/
structure Viewer where
  userID : String
  name : String
  email : String
  status : String
  lastSeen : Time

/-- mirrors tracker.go:22-27 -/
structure Tracker where
  viewers : String → GoMap String Viewer
  ttl : Int

/-- mirrors tracker.go:30-39 -/
def newTracker (ttl : Int) : Tracker := ⟨fun _ => GoMap.empty, if ttl ≤ 0 then 15 * second else ttl⟩

/-- mirrors tracker.go:41-43 -/
def scopeKey (wsID : UUID) (chatID : String) : String := wsID.string ++ ":" ++ chatID

inductive Action
  /-- `seen` is the first reading of the clock -/
  | heartbeat (v : Viewer) (seen : Time)
  | leave (userID : String)
  | getActiveViewers

def Action.leaves : Action → Bool
  | .leave _ => true
  | _ => false

structure Call where
  wsID : UUID
  chatID : String
  action : Action
  now : Time

def fresh (ttl : Int) (now : Time) (v : Viewer) : Bool := now - v.lastSeen ≤ ttl

/-- The viewer a heartbeat writes down. mirrors tracker.go:55-59 -/
def noted (v : Viewer) (seen : Time) : Viewer :=
  { v with status := if v.status = "" then "viewing" else v.status, lastSeen := seen }

/-- mirrors tracker.go:62-67, 96-102 -/
def cleaned (ttl : Int) (now : Time) (room : GoMap String Viewer) : GoMap String Viewer :=
  fun userID => (room userID).filter (fresh ttl now)

/-- mirrors tracker.go:46-105 -/
def Action.room (ttl : Int) (now : Time) (room : GoMap String Viewer) : Action → GoMap String Viewer
  | .heartbeat v seen => cleaned ttl now (room.set v.userID (noted v seen))
  | .leave userID => room.del userID
  | .getActiveViewers => cleaned ttl now room

/-- The room after a call is what `buildActiveList` lists. -/
def Tracker.call (t : Tracker) (c : Call) : Tracker :=
  let key := scopeKey c.wsID c.chatID
  { t with viewers := Function.update t.viewers key (c.action.room t.ttl c.now (t.viewers key)) }

def run (ttl : Int) (calls : List Call) : Tracker := calls.foldl Tracker.call (newTracker ttl)

/-! ## Who is there -/

/-- What an action says of a user of whom `last` was the last heartbeat. -/
def Action.told (userID : String) (last : Option Viewer) : Action → Option Viewer
  | .heartbeat v seen => if userID = v.userID then some (noted v seen) else last
  | .leave user => if userID = user then none else last
  | .getActiveViewers => last

def lastHeartbeat (calls : List Call) (wsID : UUID) (chatID userID : String) : Option Viewer :=
  calls.foldl (fun last c => if c.wsID = wsID ∧ c.chatID = chatID then c.action.told userID last else last) none

theorem scopeKey_inj {wsID wsID' : UUID} {chatID chatID' : String} (h : scopeKey wsID chatID = scopeKey wsID' chatID') :
    wsID = wsID' ∧ chatID = chatID' := by
  have hbefore : ∀ (u : UUID) (s : String), (scopeKey u s).toList.takeWhile (· ≠ ':') = u.string.toList := by
    intro u s
    rw [scopeKey, String.toList_append, String.toList_append, List.append_assoc, List.takeWhile_append_of_pos]
    · simp
    · intro c hc
      rw [UUID.string, String.toList_ofList] at hc
      rcases mem_dashed hc with rfl | hhex
      · decide
      · obtain ⟨d, hd, rfl⟩ := List.mem_map.mp hhex
        have hne : ∀ d < 16, uuidDigit d ≠ ':' := by decide
        exact decide_eq_true (hne d (uuidDigits_lt (List.mem_reverse.mp hd)))
  obtain rfl : wsID = wsID' := UUID.string_inj (String.toList_inj.mp (by rw [← hbefore, h, hbefore]))
  exact ⟨rfl, by simpa [scopeKey] using h⟩

/-- Only `Leave` lets what has expired stand. -/
theorem room_told (ttl : Int) (now : Time) (room : GoMap String Viewer) (a : Action) (userID : String) :
    a.room ttl now room userID =
      if a.leaves then a.told userID (room userID) else (a.told userID (room userID)).filter (fresh ttl now) := by
  cases a <;> rfl

theorem call_viewers (t : Tracker) (c : Call) (wsID : UUID) (chatID : String) :
    (t.call c).viewers (scopeKey wsID chatID) =
      if c.wsID = wsID ∧ c.chatID = chatID then c.action.room t.ttl c.now (t.viewers (scopeKey wsID chatID))
      else t.viewers (scopeKey wsID chatID) := by
  show Function.update t.viewers _ _ _ = _
  rw [Function.update_apply]
  by_cases hchat : c.wsID = wsID ∧ c.chatID = chatID
  · rw [if_pos hchat, hchat.1, hchat.2, if_pos rfl]
  · rw [if_neg hchat, if_neg]
    intro hkey
    obtain ⟨rfl, rfl⟩ := scopeKey_inj hkey
    exact hchat ⟨rfl, rfl⟩

theorem told_filter {f : Viewer → Bool} {held last : Option Viewer} (h : held.filter f = last.filter f) (a : Action)
    (userID : String) : (a.told userID held).filter f = (a.told userID last).filter f := by
  cases a <;> simp only [Action.told]
  case heartbeat => split; exacts [rfl, h]
  case leave => split; exacts [rfl, h]
  case getActiveViewers => exact h

theorem filter_later {ttl : Int} {before now : Time} (hle : before ≤ now) (held : Option Viewer) :
    (held.filter (fresh ttl before)).filter (fresh ttl now) = held.filter (fresh ttl now) := by
  have hstill : ∀ v, fresh ttl now v = true → fresh ttl before v = true := fun v hv =>
    decide_eq_true ((Int.sub_le_sub_right hle _).trans (of_decide_eq_true hv))
  rw [Option.filter_filter]
  congr 1
  funext v
  exact Bool.and_eq_right_iff_imp.mpr (hstill v)

theorem run_fresh (ttl : Int) (calls : List Call) (wsID : UUID) (chatID userID : String) {now : Time}
    (hnow : ∀ c ∈ calls, c.now ≤ now) :
    ((run ttl calls).viewers (scopeKey wsID chatID) userID).filter (fresh (run ttl calls).ttl now) =
      (lastHeartbeat calls wsID chatID userID).filter (fresh (run ttl calls).ttl now) := by
  induction calls using List.reverseRecOn with
  | nil => rfl
  | append_singleton calls c ih =>
    have hbefore := ih fun c' hc' => hnow c' (List.mem_append_left _ hc')
    rw [run, lastHeartbeat, List.foldl_append, List.foldl_append]
    show (((run ttl calls).call c).viewers _ userID).filter (fresh (run ttl calls).ttl now) = _
    rw [call_viewers]
    simp only [List.foldl_cons, List.foldl_nil]
    split
    · rw [room_told]
      split
      · exact told_filter hbefore c.action userID
      · rw [filter_later (hnow c (by simp))]
        exact told_filter hbefore c.action userID
    · exact hbefore

/-- Whatever calls came before, in any chats: of the viewers a call lists, those that have not expired are the last
heartbeats of the users of its chat who have not left since. A call other than `Leave` lists no others. -/
theorem active_viewers (ttl : Int) (calls : List Call) (c : Call) (hclock : ∀ c' ∈ calls, c'.now ≤ c.now)
    (userID : String) :
    let t := run ttl (calls ++ [c])
    let listed := t.viewers (scopeKey c.wsID c.chatID) userID
    let active := (lastHeartbeat (calls ++ [c]) c.wsID c.chatID userID).filter (fresh t.ttl c.now)
    listed.filter (fresh t.ttl c.now) = active ∧ (c.action.leaves = false → listed = active) := by
  intro t listed active
  have hfresh : listed.filter (fresh t.ttl c.now) = active := by
    refine run_fresh ttl _ _ _ _ fun c' hc' => ?_
    rcases List.mem_append.mp hc' with hbefore | hc
    · exact hclock c' hbefore
    · rw [List.mem_singleton.mp hc]
  refine ⟨hfresh, fun hstays => ?_⟩
  rw [← hfresh]
  have hcall : t = (run ttl calls).call c := by simp [t, run, List.foldl_append]
  simp only [listed, hcall, call_viewers, and_self, if_true, room_told, hstays]
  simp [Tracker.call, Option.filter_filter]

def ana : Viewer := ⟨"u1", "Ana", "ana@exemplo.pt", "", 0⟩

/-- Her heartbeat in another chat does not keep her in this one. -/
theorem ana_has_gone :
    (run 0 [⟨1, "5", .heartbeat ana 0, 0⟩, ⟨1, "6", .heartbeat ana second, second⟩,
      ⟨1, "5", .getActiveViewers, 16 * second⟩]).viewers (scopeKey 1 "5") "u1" = none := by
  have h := active_viewers 0 [⟨1, "5", .heartbeat ana 0, 0⟩, ⟨1, "6", .heartbeat ana second, second⟩]
    ⟨1, "5", .getActiveViewers, 16 * second⟩ (by decide) "u1"
  exact (h.2 rfl).trans (by decide)

end PerGo.L3.Presence
