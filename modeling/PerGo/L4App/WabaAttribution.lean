import PerGo.Core.Paired
import PerGo.L3Inbound.Waba

/-!
# Events of a Cloud API webhook and their numbers

An update is a batch of changes, each with the number it is for. `HandlePost` looks for one
connection in the whole body, checks the signature with it and makes every event with it;
and `Parse` reads no message of a change that has statuses.

`ToOwnNumber` is the property: the events handed over answer the statuses and messages of the
changes of known numbers, one by one, and each is of a connection that its change names.
`OneNumber` is the condition on the body and the connections.

* `events_to_own_number_iff`: it holds exactly under the condition;
* `first_number_misattributed`: a signed update with changes of two numbers.
-/
namespace PerGo.L4.WabaAttribution

open PerGo.Core PerGo.L1 PerGo.L2 PerGo.L3.WabaInbound PerGo.L3.WabaWebhook

def NamedBy (conns : List Connection) (v : ValueData) (c : Connection) : Prop :=
  c ∈ conns ∧ c.channel = "whatsapp_cloud" ∧ names c v.phoneNumberID v.displayPhoneNumber = true

instance (conns : List Connection) (v : ValueData) (c : Connection) : Decidable (NamedBy conns v c) :=
  inferInstanceAs (Decidable (_ ∧ _ ∧ _))

structure Item where
  change : ValueData
  id : String
  isStatus : Bool

def items (v : ValueData) : List Item :=
  v.statuses.map (fun s => ⟨v, s.id, true⟩) ++ v.messages.map fun m => ⟨v, m.id, false⟩

def Known (conns : List Connection) (v : ValueData) : Prop := ∃ c ∈ conns, NamedBy conns v c

instance (conns : List Connection) (v : ValueData) : Decidable (Known conns v) :=
  inferInstanceAs (Decidable (∃ _ ∈ _, _))

def due (conns : List Connection) (u : Payload) : List Item :=
  u.entry.flatten.flatMap fun v => if Known conns v then items v else []

def Answers (conns : List Connection) (item : Item) (e : ValueData × InboundEvent) : Prop :=
  e.1 = item.change ∧ e.2.messageID = item.id ∧ (e.2.metadata.lookup "type" = some "status_update" ↔ item.isStatus = true) ∧
    ∃ c, NamedBy conns item.change c ∧ e.2.connectionID = c.id

/-- The events answer the items one by one, whatever the processor takes. -/
def ToOwnNumber (g : Graph) (env : PostEnv) (conns : List Connection) (u : Payload) : Prop :=
  ∀ process, ∃ events, List.Forall₂ (Answers conns) (due conns u) events ∧
    (handlePost g { env with process := process } conns (some u)).2 = (handOver process events).1

/-- Every number the body names accepts its signature. -/
def Signed (env : PostEnv) (conns : List Connection) (u : Payload) : Prop :=
  ∀ v ∈ u.entry.flatten, ∀ c, NamedBy conns v c → signatureOK env c = true

/-! ## The condition -/

def cloudConns (conns : List Connection) : List Connection := conns.filter fun c => c.channel = "whatsapp_cloud"

/-- The first connection that the last phone number id or the last display number of the body names, or else the
first. -/
def bodyConn (conns : List Connection) (u : Payload) : Option Connection :=
  let phoneID := lastNonEmpty (u.entry.flatten.map (·.phoneNumberID))
  let display := lastNonEmpty (u.entry.flatten.map (·.displayPhoneNumber))
  ((cloudConns conns).find? fun c => names c phoneID display).or (cloudConns conns).head?

def Takes (env : PostEnv) (c : Connection) : Prop :=
  signatureOK env c = true ∧ (c.credentials.bind unmarshalCreds).isSome

instance (env : PostEnv) (c : Connection) : Decidable (Takes env c) := inferInstanceAs (Decidable (_ ∧ _))

/-- When the connection of the body takes it, every change with an item names that connection and has no
messages besides statuses; otherwise no change with an item names a known number. -/
def OneNumber (env : PostEnv) (conns : List Connection) (u : Payload) : Prop :=
  match (bodyConn conns u).filter fun c => Takes env c with
  | some c => ∀ v ∈ u.entry.flatten, items v ≠ [] →
      (v.statuses = [] ∨ v.messages = []) ∧ ∃ c' ∈ conns, NamedBy conns v c' ∧ c'.id = c.id
  | none => ∀ v ∈ u.entry.flatten, items v ≠ [] → ¬Known conns v

instance (env : PostEnv) (conns : List Connection) (u : Payload) : Decidable (OneNumber env conns u) := by
  unfold OneNumber
  have hitem : ∀ v, Decidable (items v ≠ []) := fun v =>
    decidable_of_iff (¬(v.statuses = [] ∧ v.messages = [])) (by simp [items])
  split <;> infer_instance

/-! ## The connection of the body -/

theorem matchingConn_eq (phoneID display : String) (acc : Option Connection) (conns : List Connection) :
    matchingConn phoneID display acc conns =
      ((cloudConns conns).find? fun c => names c phoneID display).or (acc.or (cloudConns conns).head?) := by
  induction conns generalizing acc with
  | nil => simp [matchingConn, cloudConns]
  | cons conn conns ih =>
    unfold matchingConn
    by_cases hcloud : conn.channel = "whatsapp_cloud"
    · have hcons : cloudConns (conn :: conns) = conn :: cloudConns conns := List.filter_cons_of_pos (by simpa using hcloud)
      rw [if_neg (not_not_intro hcloud), hcons, List.find?_cons, List.head?_cons]
      by_cases hnames : names conn phoneID display = true
      · -- a connection is named by what is there
        have hsome : phoneID ≠ "" ∨ display ≠ "" := by
          simp only [names, Bool.or_eq_true, Bool.and_eq_true, decide_eq_true_eq] at hnames
          exact hnames.imp (·.1) (·.1)
        rw [if_pos ⟨hsome, hnames⟩, hnames]
        rfl
      · rw [if_neg fun h => hnames h.2, ih, Bool.eq_false_iff.mpr hnames]
        simp only [Option.or_assoc]
        cases acc <;> rfl
    · have hcons : cloudConns (conn :: conns) = cloudConns conns := List.filter_cons_of_neg (by simpa using hcloud)
      rw [if_pos hcloud, hcons, ih]

theorem bodyConn_eq (conns : List Connection) (u : Payload) : bodyConn conns u =
    matchingConn (lastNonEmpty (u.entry.flatten.map (·.phoneNumberID)))
      (lastNonEmpty (u.entry.flatten.map (·.displayPhoneNumber))) none conns :=
  (matchingConn_eq _ _ none conns).symm

/-! ## What is handed over -/

/-- What `Parse` makes of the body with a connection. -/
def eventsWith (g : Graph) (c : Connection) (u : Payload) : List (ValueData × InboundEvent) :=
  u.entry.flatten.flatMap fun v => (v.events g c ((c.credentials.bind unmarshalCreds).getD "")).map (v, ·)

theorem handlePost_handed (g : Graph) (env : PostEnv) (conns : List Connection) (u : Payload) :
    (handlePost g env conns (some u)).2 = match (bodyConn conns u).filter fun c => Takes env c with
      | some c => (handOver env.process (eventsWith g c u)).1
      | none => [] := by
  simp only [handlePost, bodyConn_eq, Option.map_some, Option.getD_some]
  cases hc : matchingConn (lastNonEmpty (u.entry.flatten.map (·.phoneNumberID)))
      (lastNonEmpty (u.entry.flatten.map (·.displayPhoneNumber))) none conns with
  | none => rfl
  | some c =>
    cases hsig : signatureOK env c with
    | false =>
      have hnot : ¬Takes env c := fun h => by simp [Takes, hsig] at h
      simp [Option.filter, hnot, hsig]
    | true =>
      cases hcreds : c.credentials.bind unmarshalCreds with
      | none =>
        have hnot : ¬Takes env c := fun h => by simp [Takes, hcreds] at h
        simp [Option.filter, hnot, hsig, parseFrom, hcreds]
      | some token =>
        have htakes : Takes env c := ⟨hsig, by simp [hcreds]⟩
        simp [Option.filter, htakes, hsig, parseFrom, hcreds, eventsWith]

theorem handOver_all (events : List (ValueData × InboundEvent)) : handOver (fun _ => true) events = (events, true) := by
  induction events with
  | nil => rfl
  | cons e events ih => simp [handOver, ih]

/-! ## Items and events of one change -/

section Change

variable (g : Graph) (conns : List Connection) (c : Connection) (token : String) (v : ValueData)

theorem reply_type {m : Message} {r : L3.WabaInbound.Reply} (h : m.reply g c = some r) : r.type ≠ "status_update" := by
  unfold Message.reply at h
  split at h
  · split at h
    · obtain ⟨b, -, rfl⟩ := Option.map_eq_some_iff.mp h
      exact (by decide : "button_reply" ≠ "status_update")
    split at h
    · obtain ⟨l, -, rfl⟩ := Option.map_eq_some_iff.mp h
      exact (by decide : "list_reply" ≠ "status_update")
    split at h
    · obtain ⟨n, -, rfl⟩ := Option.map_eq_some_iff.mp h
      exact (by decide : "nfm_reply" ≠ "status_update")
    · cases h
  · split at h
    · obtain ⟨b, -, rfl⟩ := Option.map_eq_some_iff.mp h
      exact (by decide : "button_reply" ≠ "status_update")
    · cases h

theorem metaType_not_status (m : Message) : m.metaType g c ≠ some "status_update" := by
  unfold Message.metaType
  split
  · decide
  split
  · decide
  · intro h
    obtain ⟨r, hr, htype⟩ := Option.map_eq_some_iff.mp h
    exact reply_type g c hr htype

theorem message_not_status (m : Message) (recipient : String) :
    (m.event g c token recipient).metadata.lookup "type" ≠ some "status_update" := by
  have hmeta : (m.event g c token recipient).metadata = m.metadata g c := rfl
  have hmetaType := metaType_not_status g c m
  rw [hmeta, Message.metadata]
  cases hm : m.metaType g c with
  | some t =>
    rw [hm] at hmetaType
    simpa [List.lookup_cons] using hmetaType
  | none =>
    cases m.orderJSON g with
    | none => simp
    | some s => simp [List.lookup_cons]

variable {conns c v}

theorem events_length : (v.events g c token).length = v.statuses.length + if v.statuses = [] then v.messages.length else 0 := by
  unfold ValueData.events ValueData.read
  split <;> simp

theorem event_connection {e : InboundEvent} (h : e ∈ v.events g c token) : e.connectionID = c.id := by
  unfold ValueData.events at h
  rcases List.mem_append.mp h with h | h
  · obtain ⟨s, -, rfl⟩ := List.mem_map.mp h
    rfl
  · obtain ⟨m, -, rfl⟩ := List.mem_map.mp h
    rfl

theorem events_answer {c' : Connection} (hkind : v.statuses = [] ∨ v.messages = []) (hnamed : NamedBy conns v c')
    (hid : c'.id = c.id) : List.Forall₂ (Answers conns) (items v) ((v.events g c token).map (v, ·)) := by
  have hread : v.read = v.messages := by
    unfold ValueData.read
    split
    · rfl
    · rename_i hne
      exact (hkind.resolve_left hne).symm
  unfold items ValueData.events
  rw [hread, List.map_append, List.map_map, List.map_map]
  refine List.rel_append ?_ ?_
  · rw [List.forall₂_map_left_iff, List.forall₂_map_right_iff, List.forall₂_same]
    exact fun s _ => ⟨rfl, rfl, by simp [Status.event], c', hnamed, hid.symm⟩
  · rw [List.forall₂_map_left_iff, List.forall₂_map_right_iff, List.forall₂_same]
    refine fun m _ => ⟨rfl, rfl, ?_, c', hnamed, hid.symm⟩
    simpa using message_not_status g c token m (v.recipient c)

end Change

/-! ## Whole updates -/

theorem forall₂_flatMap {α β γ : Type} {R : β → γ → Prop} {f : α → List β} {h : α → List γ} {l : List α}
    (hl : ∀ a ∈ l, List.Forall₂ R (f a) (h a)) : List.Forall₂ R (l.flatMap f) (l.flatMap h) := by
  induction l with
  | nil => exact .nil
  | cons a l ih =>
    rw [List.flatMap_cons, List.flatMap_cons]
    exact List.rel_append (hl a List.mem_cons_self) (ih fun b hb => hl b (List.mem_cons_of_mem _ hb))

theorem count_tagged {α : Type} {f : ValueData → List α} {tag : α → ValueData} (hf : ∀ w, ∀ a ∈ f w, tag a = w)
    (l : List ValueData) (v : ValueData) : ((l.flatMap f).map tag).count v = l.count v * (f v).length := by
  induction l with
  | nil => simp
  | cons w l ih =>
    rw [List.flatMap_cons, List.map_append, List.count_append, ih, List.count_cons]
    have hpart : (f w).map tag = List.replicate (f w).length w :=
      List.eq_replicate_iff.mpr ⟨List.length_map _, fun x hx => by
        obtain ⟨a, ha, rfl⟩ := List.mem_map.mp hx
        exact hf w a ha⟩
    rw [hpart, List.count_replicate]
    by_cases hw : w = v
    · subst hw
      simp only [beq_self_eq_true, if_true]
      rw [Nat.add_one_mul, Nat.add_comm]
    · simp [hw]

theorem item_change {conns : List Connection} {v : ValueData} {item : Item}
    (h : item ∈ if Known conns v then items v else []) : item.change = v := by
  split at h
  · unfold items at h
    rcases List.mem_append.mp h with h | h
    · obtain ⟨s, -, rfl⟩ := List.mem_map.mp h
      rfl
    · obtain ⟨m, -, rfl⟩ := List.mem_map.mp h
      rfl
  · cases h

theorem items_length (v : ValueData) : (items v).length = v.statuses.length + v.messages.length := by
  simp [items]

theorem events_per_change {g : Graph} {conns : List Connection} {c : Connection} {u : Payload}
    (h : List.Forall₂ (Answers conns) (due conns u) (eventsWith g c u)) {v : ValueData} (hv : v ∈ u.entry.flatten) :
    (if Known conns v then items v else []).length =
      v.statuses.length + if v.statuses = [] then v.messages.length else 0 := by
  have htags : (due conns u).map (·.change) = (eventsWith g c u).map (·.1) := by
    rw [← List.forall₂_eq_eq_eq, List.forall₂_map_left_iff, List.forall₂_map_right_iff]
    exact h.imp fun _ _ ha => ha.1.symm
  have hcount := congrArg (fun l => l.count v) htags
  simp only [due, eventsWith] at hcount
  rw [count_tagged (fun w a ha => item_change ha), count_tagged (fun w a ha => by
    obtain ⟨e, -, rfl⟩ := List.mem_map.mp ha
    rfl)] at hcount
  have hpos : 0 < u.entry.flatten.count v := List.count_pos_iff.mpr hv
  have heq := Nat.eq_of_mul_eq_mul_left hpos hcount
  rw [heq, List.length_map, events_length]

theorem one_number_of_own {g : Graph} {env : PostEnv} {conns : List Connection} {u : Payload}
    (h : ToOwnNumber g env conns u) : OneNumber env conns u := by
  obtain ⟨events, hanswers, hhanded⟩ := h fun _ => true
  rw [handlePost_handed, handOver_all] at hhanded
  have htakes : ∀ c, Takes { env with process := fun _ => true } c ↔ Takes env c := fun _ => Iff.rfl
  simp only [htakes] at hhanded
  unfold OneNumber
  split at hhanded
  · rename_i c hc
    rw [handOver_all] at hhanded
    subst hhanded
    intro v hv hitems
    have hlength := events_per_change hanswers hv
    have hpos : 0 < (items v).length := List.length_pos_iff.mpr hitems
    rw [items_length] at hpos
    by_cases hknown : Known conns v
    · rw [if_pos hknown, items_length] at hlength
      refine ⟨?_, ?_⟩
      · by_cases hs : v.statuses = []
        · exact .inl hs
        · right
          rw [if_neg hs] at hlength
          exact List.length_eq_zero_iff.mp (by omega)
      · -- its first event is the connection's
        have hsome : v.events g c ((c.credentials.bind unmarshalCreds).getD "") ≠ [] := by
          rw [← List.length_pos_iff, events_length]
          omega
        obtain ⟨e, he⟩ := List.exists_mem_of_ne_nil _ hsome
        have hmem : (v, e) ∈ eventsWith g c u := List.mem_flatMap.mpr ⟨v, hv, List.mem_map_of_mem he⟩
        obtain ⟨item, -, hchange, -, -, c', hnamed, hid⟩ := forall₂_right hanswers hmem
        simp only at hchange hid
        rw [← hchange] at hnamed
        exact ⟨c', hnamed.1, hnamed, hid.symm.trans (event_connection g _ he)⟩
    · rw [if_neg hknown, List.length_nil] at hlength
      split at hlength <;> rename_i hs
      · rw [hs, List.length_nil] at hpos
        omega
      · exact absurd (List.length_eq_zero_iff.mp (by omega)) hs
  · subst hhanded
    intro v hv hitems hknown
    have hdue : due conns u = [] := List.forall₂_nil_right_iff.mp hanswers
    have hnone := List.flatMap_eq_nil_iff.mp hdue v hv
    rw [if_pos hknown] at hnone
    exact hitems hnone

theorem own_of_one_number (g : Graph) {env : PostEnv} {conns : List Connection} {u : Payload}
    (h : OneNumber env conns u) : ToOwnNumber g env conns u := by
  intro process
  have htakes : ∀ c, Takes { env with process := process } c ↔ Takes env c := fun _ => Iff.rfl
  rw [handlePost_handed]
  simp only [htakes]
  unfold OneNumber at h
  split
  · rename_i c hc
    rw [hc] at h
    refine ⟨eventsWith g c u, forall₂_flatMap fun v hv => ?_, rfl⟩
    by_cases hitems : items v = []
    · have hempty : v.statuses = [] ∧ v.messages = [] := by simpa [items] using hitems
      simp [hitems, ValueData.events, ValueData.read, hempty]
    · obtain ⟨hkind, c', hc', hnamed, hid⟩ := h v hv hitems
      rw [if_pos ⟨c', hc', hnamed⟩]
      exact events_answer g _ hkind hnamed hid
  · rename_i hc
    rw [hc] at h
    have hdue : due conns u = [] := by
      refine List.flatMap_eq_nil_iff.mpr fun v hv => ?_
      split
      · rename_i hknown
        by_contra hitems
        exact h v hv hitems hknown
      · rfl
    rw [hdue]
    exact ⟨[], .nil, rfl⟩

theorem events_to_own_number_iff (g : Graph) (env : PostEnv) (conns : List Connection) (u : Payload) :
    ToOwnNumber g env conns u ↔ OneNumber env conns u :=
  ⟨one_number_of_own, own_of_one_number g⟩

/-- A Cloud API connection of workspace 1; all share the app secret. -/
def shopNumber (id : UUID) (phoneID : String) : Connection :=
  ⟨id, 1, phoneID, "whatsapp_cloud", phoneID, false, some ⟨[("token", .str "tok"), ("app_secret", .str "app")], by decide⟩⟩

def shopMessage (id : String) : Message :=
  { «from» := "5511", id := id, timestamp := "1700000000", type := "text", text := some "hi", button := none,
    interactive := none, order := none, image := none, document := none, audio := none, video := none, location := none,
    contacts := [], reaction := none, referral := none }

def shopPost : PostEnv := ⟨true, true, fun secret => secret = "app", fun _ => true⟩

theorem first_number_misattributed : ∃ env conns u, Signed env conns u ∧ ∀ g, ¬ToOwnNumber g env conns u := by
  refine ⟨shopPost, [shopNumber 5 "111", shopNumber 6 "222"],
    ⟨[[⟨"", "111", [shopMessage "m-1"], []⟩, ⟨"", "222", [shopMessage "m-2"], []⟩]]⟩, ?_, fun g h => ?_⟩
  · intro v _ c hc
    obtain ⟨hmem, -, -⟩ := hc
    simp only [List.mem_cons, List.not_mem_nil, or_false] at hmem
    rcases hmem with rfl | rfl <;> decide +kernel
  · exact absurd (one_number_of_own h) (by decide +kernel)

end PerGo.L4.WabaAttribution
