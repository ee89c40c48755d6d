import PerGo.Core.Paging
import PerGo.L3Chat.Reads
import PerGo.L3Chat.RecorderSpec

/-!
# Paging through the messages of a chat

`ListChatMessages` (repository/chat.go:505-617) answers without a cursor, before
one or after one, with three queries. A client walks back with the uid of the oldest message
it got, or forward with that of the newest, until a page is empty (`Core.backLoop`,
`Core.forwardLoop`).

* `transcript`: the messages of the chat in the order of (created_at, id), ties and all.
* `latest_page`, `pages_around`: what each query reads of it.
* `paging_complete`: both walks read all of it, each message once.

A row's id is a primary key. A uid is never empty: `named_inbound` and `named_outbound` for
the recorder, and a note's begins with `note_` (chat.go:448).
-/
namespace PerGo.L4.MessagePaging

open PerGo.Core PerGo.L2 PerGo.L3.Recorder PerGo.L3.Reads

/-! ## The uids of what is recorded -/

section Named

variable {db db' : ChatDB} {env : ActEnv} {ws : UUID}

/-- Every message can be asked for by its uid. -/
def Named (messages : List ChatMessage) : Prop := ∀ m ∈ messages, m.uid ≠ ""

theorem Named.append {messages : List ChatMessage} {msg : ChatMessage} (h : Named messages) (hmsg : msg.uid ≠ "") :
    Named (messages ++ [msg]) := by
  intro m hm
  rcases List.mem_append.mp hm with hm | hm
  · exact h m hm
  · rw [List.mem_singleton.mp hm]
    exact hmsg

theorem named_inbound {turn : L3.Recorder.InboundTurn} {r : InboundReceipt} (h : inbound db env ws turn = .ok (r, db'))
    (hdb : Named db.messages) : Named db'.messages := by
  obtain ⟨-, huid, -, st, db₁, hres, hcase⟩ := inbound_cases h
  have hsame := (resolveAndLockChat_ok hres).messages
  rcases hcase with ⟨-, -, rfl⟩ | ⟨act, hact, -, -, -, -, rfl⟩
  · rw [hsame]
    exact hdb
  · show Named (db₁.messages ++ [inboundMessage env.apply st act])
    rw [hsame]
    apply hdb.append
    rw [← hact]
    exact huid

theorem named_outbound {turn : L3.Recorder.OutboundTurn} {r : OutboundReceipt} (h : outbound db env ws turn = .ok (r, db'))
    (hdb : Named db.messages) : Named db'.messages := by
  obtain ⟨-, huid, -, st, db₁, allowCreate, hres, hcase⟩ := outbound_cases h
  have hsame := (resolveAndLockChat_ok hres).messages
  rcases hcase with ⟨-, -, -, rfl⟩ | ⟨own, channel, hs⟩
  · rw [hsame]
    exact hdb
  · obtain ⟨hstored, hmsg, -⟩ := storeOutbound_ok hs
    rw [hstored.messages, hsame]
    exact hdb.append (hmsg ▸ huid)

end Named

/-! ## The order -/

instance : Std.Total fun a b : ChatMessage => olderOrSame a b := by
  constructor
  intro a b
  simp only [olderOrSame, Bool.or_eq_true, Bool.and_eq_true, decide_eq_true_eq]
  rcases lt_trichotomy a.createdAt b.createdAt with h | h | h
  · exact Or.inl (Or.inl h)
  · rcases Nat.le_total a.id b.id with hid | hid
    · exact Or.inl (Or.inr ⟨h, hid⟩)
    · exact Or.inr (Or.inr ⟨h.symm, hid⟩)
  · exact Or.inr (Or.inl h)

instance : IsTrans ChatMessage fun a b => olderOrSame a b := by
  constructor
  intro a b c
  simp only [olderOrSame, Bool.or_eq_true, Bool.and_eq_true, decide_eq_true_eq]
  rintro (hab | ⟨hab, hid⟩) (hbc | ⟨hbc, hid'⟩)
  · exact Or.inl (hab.trans hbc)
  · exact Or.inl (hbc ▸ hab)
  · exact Or.inl (hab ▸ hbc)
  · exact Or.inr ⟨hab.trans hbc, Nat.le_trans hid hid'⟩

theorem id_eq_of_olderOrSame {a b : ChatMessage} (hab : olderOrSame a b) (hba : olderOrSame b a) : a.id = b.id := by
  simp only [olderOrSame, Bool.or_eq_true, Bool.and_eq_true, decide_eq_true_eq] at hab hba
  rcases hab with hab | ⟨htime, hab⟩
  · rcases hba with hba | ⟨htime, -⟩
    · exact absurd hab (lt_asymm hba)
    · exact absurd hab (htime ▸ lt_irrefl _)
  · rcases hba with hba | ⟨-, hba⟩
    · exact absurd hba (htime ▸ lt_irrefl _)
    · exact Nat.le_antisymm hab hba

theorem older_irrefl (a : ChatMessage) : older a a = false := by
  simp [older]

theorem older_asymm (a b : ChatMessage) (h : older a b) : older b a = false := by
  simp only [older, Bool.and_eq_true, Bool.not_eq_true'] at h
  simp [older, h.2]

/-! ## The pages -/

/-- The messages of a chat in the order of (created_at, id). -/
def transcript (db : ReadDB) (ws chatID : UUID) : List ChatMessage :=
  ascending (db.messages.filter fun m => m.workspaceID = ws && m.chatID = chatID)

section Pages

variable {env : ReadEnv} {db : ReadDB} {ws chatID : UUID}

theorem mem_transcript {m : ChatMessage} :
    m ∈ transcript db ws chatID ↔ m ∈ db.messages ∧ m.workspaceID = ws ∧ m.chatID = chatID := by
  simp [transcript, ascending, List.mem_insertionSort, List.mem_filter]

theorem transcript_perm :
    (transcript db ws chatID).Perm (db.messages.filter fun m => m.workspaceID = ws && m.chatID = chatID) :=
  List.perm_insertionSort _ _

theorem eq_of_id (hids : (db.messages.map (·.id)).Nodup) {a b : ChatMessage} (ha : a ∈ db.messages)
    (hb : b ∈ db.messages) (h : a.id = b.id) : a = b :=
  List.inj_on_of_nodup_map hids ha hb h

theorem transcript_nodup (hids : (db.messages.map (·.id)).Nodup) : (transcript db ws chatID).Nodup :=
  transcript_perm.nodup_iff.mpr ((List.Nodup.of_map _ hids).filter _)

theorem transcript_sorted (hids : (db.messages.map (·.id)).Nodup) :
    (transcript db ws chatID).Pairwise fun a b => older a b := by
  have hle : (transcript db ws chatID).Pairwise fun a b => olderOrSame a b := List.pairwise_insertionSort _ _
  have hboth := List.Pairwise.and hle (transcript_nodup hids)
  refine hboth.imp_of_mem ?_
  intro a b ha hb ⟨hab, hne⟩
  simp only [older, Bool.and_eq_true, Bool.not_eq_true']
  refine ⟨hab, Bool.eq_false_iff.mpr fun hba => hne ?_⟩
  exact eq_of_id hids (mem_transcript.mp ha).1 (mem_transcript.mp hb).1 (id_eq_of_olderOrSame hab hba)

theorem ascending_filter (hids : (db.messages.map (·.id)).Nodup) (p : ChatMessage → Bool) :
    ascending ((db.messages.filter fun m => m.workspaceID = ws && m.chatID = chatID).filter p) =
      (transcript db ws chatID).filter p := by
  apply insertionSort_filter
  intro a ha b hb hab hba
  exact eq_of_id hids (List.mem_filter.mp ha).1 (List.mem_filter.mp hb).1 (id_eq_of_olderOrSame hab hba)

theorem cursor_found {m : ChatMessage} (hm : m ∈ transcript db ws chatID) :
    (db.messages.find? fun r => r.workspaceID = ws && r.uid = m.uid) = some m := by
  obtain ⟨hmem, hws, -⟩ := mem_transcript.mp hm
  cases hfind : db.messages.find? fun r => r.workspaceID = ws && r.uid = m.uid with
  | none =>
    have := List.find?_eq_none.mp hfind m hmem
    simp [hws] at this
  | some r =>
    have hr := List.find?_some hfind
    simp only [Bool.and_eq_true, decide_eq_true_eq] at hr
    exact congrArg some (List.inj_on_of_nodup_map db.uids (List.mem_of_find?_eq_some hfind) hmem hr.2)

theorem clampLimit_pos (limit : Int) : 0 < clampLimit limit := by
  unfold clampLimit
  split
  · decide
  · split
    · decide
    · omega

theorem latest_page (hws : ws ≠ UUID.Nil) (hchat : chatID ≠ UUID.Nil) (hok : env.fails .listChatMessages = none)
    (limit : Int) :
    listChatMessages env db ws chatID "" "" limit = .ok (lastN (clampLimit limit) (transcript db ws chatID)) := by
  simp only [listChatMessages, if_neg hws, if_neg hchat, hok]
  rfl

theorem pages_around (hws : ws ≠ UUID.Nil) (hchat : chatID ≠ UUID.Nil) (hok : env.fails .listChatMessages = none)
    (hids : (db.messages.map (·.id)).Nodup) (huids : Named db.messages) (limit : Int) {pre post : List ChatMessage}
    {m : ChatMessage} (hsplit : transcript db ws chatID = pre ++ m :: post) :
    listChatMessages env db ws chatID m.uid "" limit = .ok (lastN (clampLimit limit) pre) ∧
      listChatMessages env db ws chatID "" m.uid limit = .ok (post.take (clampLimit limit)) := by
  have hm : m ∈ transcript db ws chatID := hsplit ▸ List.mem_append_right _ List.mem_cons_self
  have hsorted : (transcript db ws chatID).Pairwise fun a b => older a b := transcript_sorted hids
  rw [hsplit] at hsorted
  constructor
  · simp only [listChatMessages, if_neg hws, if_neg hchat, hok, if_pos (huids m (mem_transcript.mp hm).1),
      cursor_found hm, Option.any_some, ascending_filter hids, hsplit, filter_before hsorted older_irrefl older_asymm]
    rfl
  · simp only [listChatMessages, if_neg hws, if_neg hchat, hok, if_pos (huids m (mem_transcript.mp hm).1), ne_eq,
      not_true_eq_false, if_false, cursor_found hm, Option.any_some, ascending_filter hids, hsplit,
      filter_after hsorted older_irrefl older_asymm]

end Pages

/-! ## The walks -/

/-- The page before a cursor, the latest when there is none yet. -/
def olderPage (env : ReadEnv) (db : ReadDB) (ws chatID : UUID) (limit : Int) (cursor : Option String) :
    Except RepoError (List ChatMessage) :=
  listChatMessages env db ws chatID (cursor.getD "") "" limit

def newerPage (env : ReadEnv) (db : ReadDB) (ws chatID : UUID) (limit : Int) (cursor : String) :
    Except RepoError (List ChatMessage) :=
  listChatMessages env db ws chatID "" cursor limit

/-- All the messages that walking back gives, and all that walking on from a message gives. -/
theorem paging_complete (env : ReadEnv) (db : ReadDB) (ws chatID : UUID) (limit : Int) (hws : ws ≠ UUID.Nil)
    (hchat : chatID ≠ UUID.Nil) (hok : env.fails .listChatMessages = none)
    (hids : (db.messages.map (·.id)).Nodup) (huids : Named db.messages) :
    (transcript db ws chatID).Perm (db.messages.filter fun m => m.workspaceID = ws && m.chatID = chatID) ∧
      (transcript db ws chatID).Pairwise (fun a b => older a b) ∧
      (∀ fuel > (transcript db ws chatID).length,
        backLoop (olderPage env db ws chatID limit) (·.uid) fuel none = some (transcript db ws chatID)) ∧
      ∀ pre m post, transcript db ws chatID = pre ++ m :: post → ∀ fuel > post.length,
        forwardLoop (newerPage env db ws chatID limit) (·.uid) fuel m.uid = some post := by
  have hpos := clampLimit_pos limit
  refine ⟨transcript_perm, transcript_sorted hids, ?_, ?_⟩
  · intro fuel hfuel
    have hstart : olderPage env db ws chatID limit none = .ok (lastN (clampLimit limit) (transcript db ws chatID)) :=
      latest_page hws hchat hok limit
    have hpage : ∀ pre m post, transcript db ws chatID = pre ++ m :: post →
        olderPage env db ws chatID limit (some m.uid) = .ok (lastN (clampLimit limit) pre) := by
      intro pre m post hsplit
      exact (pages_around hws hchat hok hids huids limit hsplit).1
    exact backLoop_eq hpos hstart hpage hfuel
  · intro pre m post hsplit fuel hfuel
    have hpage : ∀ pre m post, transcript db ws chatID = pre ++ m :: post →
        newerPage env db ws chatID limit m.uid = .ok (post.take (clampLimit limit)) := by
      intro pre m post hsplit
      exact (pages_around hws hchat hok hids huids limit hsplit).2
    exact forwardLoop_eq hpos hpage fuel pre m post hsplit hfuel

def said (id : UUID) (uid : String) (later : Time) : ChatMessage :=
  { id := id, chatID := 7, workspaceID := 1, uid := uid, direction := .inbound, senderType := .contact,
    senderName := "", senderID := "", body := "", mediaURL := none, mediaType := none, isPrivate := false,
    reactions := [], replyToUID := none, metadata := [], createdAt := 5 * second + later }

/-- Three messages of one time and one after them, and a message of another chat. -/
def tied : ReadDB :=
  { chats := [], contacts := [], identities := [], connections := [], tags := [], dispatches := [],
    messages := [said 30 "c" 0, said 40 "d" second, said 10 "a" 0, { said 15 "x" 0 with chatID := 8 }, said 20 "b" 0],
    uids := by decide +kernel }

def calm : ReadEnv := ⟨0, 0, fun _ => none, fun _ _ => false⟩

/-- Two to a page, the tie is cut between pages and nothing is lost. -/
theorem tied_paged :
    transcript tied 1 7 = [said 10 "a" 0, said 20 "b" 0, said 30 "c" 0, said 40 "d" second] ∧
      backLoop (olderPage calm tied 1 7 2) (·.uid) 5 none = some (transcript tied 1 7) ∧
      forwardLoop (newerPage calm tied 1 7 2) (·.uid) 3 "b" = some [said 30 "c" 0, said 40 "d" second] := by
  have htranscript : transcript tied 1 7 = [said 10 "a" 0, said 20 "b" 0, said 30 "c" 0, said 40 "d" second] := by
    decide +kernel
  have hids : (tied.messages.map (·.id)).Nodup := by decide +kernel
  have hnamed : Named tied.messages := by
    unfold Named
    decide +kernel
  obtain ⟨-, -, hback, hforward⟩ := paging_complete calm tied 1 7 2 (by decide) (by decide) rfl hids hnamed
  have hlength : (transcript tied 1 7).length < 5 := by
    rw [htranscript]
    decide
  refine ⟨htranscript, hback 5 hlength, ?_⟩
  exact hforward [said 10 "a" 0] (said 20 "b" 0) _ htranscript 3 (by decide)

end PerGo.L4.MessagePaging
