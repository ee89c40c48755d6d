import PerGo.L2Domain.UUID

/-!
# Campaigns

`domain/campaign.go`: the campaign row, its recipients, and how a start
task finds them: contacts behind the tags (`resolveTagRecipients`), then the rows
of the uploaded list on top (`mergeTagAndCSVRecipients`).

The fields of `Campaign` that only fill in the text of a message (name, template,
body, interactive, connection) are left out. A map is an association list that
holds each key once.
-/
namespace PerGo.L2

open PerGo.L1

/-- mirrors campaign.go:17-26 -/
inductive CampaignStatus
  | draft
  | scheduled
  | sending
  | running
  | paused
  | completed
  | failed
  | cancelled
deriving DecidableEq

def CampaignStatus.text : CampaignStatus → String
  | .draft => "draft"
  | .scheduled => "scheduled"
  | .sending => "sending"
  | .running => "running"
  | .paused => "paused"
  | .completed => "completed"
  | .failed => "failed"
  | .cancelled => "cancelled"

/-- mirrors campaign.go:31-37 -/
inductive RecipientStatus
  | pending
  | processing
  | sent
  | failed
  | skipped
deriving DecidableEq

/-- mirrors campaign.go:40-43 -/
structure CampaignRecipient where
  to_ : String
  variables_ : StrMap
deriving DecidableEq

/-- A row of `campaign_recipients`, for one campaign. mirrors campaign.go:47-57 -/
structure CampaignRecipientRecord where
  contactID : Option UUID
  phone : String
  variables_ : StrMap
  status : RecipientStatus
  errorMessage : Option String
deriving DecidableEq

/-- mirrors campaign.go:67-93 -/
structure Campaign where
  id : UUID
  workspaceID : UUID
  status : CampaignStatus
  batchSize : Int
  delaySeconds : Int
  channel : Option String
  tagIDs : List UUID
  totalRecipients : Int
  sentRecipients : Int
  failedRecipients : Int
  recipients : List CampaignRecipient
  scheduledAt : Option Time
deriving DecidableEq

/-- mirrors campaign.go:153-167 -/
def sanitizePhone (phone : String) : String × Bool :=
  let cleaned := phone.toList.filter isDigit
  (String.ofList cleaned, 10 ≤ cleaned.length && cleaned.length ≤ 15)

/-- `m[k] = v`. -/
def setVariable (m : StrMap) (k v : String) : StrMap := m.filter (·.1 ≠ k) ++ [(k, v)]

/-- mirrors campaign.go:172-180 -/
def mergeVariables (dest src : StrMap) : StrMap := src.foldl (fun m kv => setVariable m kv.1 kv.2) dest

/-- mirrors campaign.go:228-238 -/
def deduplicateUUIDs (ids : List UUID) : List UUID :=
  ids.foldl (fun result id => if id ≠ UUID.Nil ∧ id ∉ result then result ++ [id] else result) []

/-- mirrors domain/contact.go:27-34 -/
structure ChannelIdentity where
  channel : String
  senderIdentity : String
deriving DecidableEq

/-- What the resolution reads of a contact. mirrors contact.go:14-24 -/
structure TagContact where
  id : UUID
  name : String
  email : Option String
  attributes : StrMap
  identities : List ChannelIdentity
deriving DecidableEq

/-- mirrors campaign.go:256-260 -/
structure TagResolutionResult where
  records : List CampaignRecipientRecord
  recipients : List CampaignRecipient
  seenIdentities : List String
deriving DecidableEq

/-- The first identity on the channel that can be written to; a number that is not one is kept for
channels other than WhatsApp. mirrors campaign.go:299-314 -/
def eligibleIdentity (channelFilter : String) : List ChannelIdentity → String
  | [] => ""
  | ident :: rest =>
    if channelFilter ≠ "" ∧ equalFold ident.channel channelFilter = false then eligibleIdentity channelFilter rest
    else if ident.senderIdentity ≠ "" then
      if (sanitizePhone ident.senderIdentity).2 then (sanitizePhone ident.senderIdentity).1
      else if channelFilter = "" ∨ hasPrefix (toLower channelFilter) "whatsapp" = false then ident.senderIdentity
      else eligibleIdentity channelFilter rest
    else eligibleIdentity channelFilter rest

/-- What stands for a contact without an eligible identity.
mirrors campaign.go:343-359 -/
def skippedIdentity (c : TagContact) : String :=
  let first := match c.identities.find? fun i => i.senderIdentity ≠ "" with
    | some i => if (sanitizePhone i.senderIdentity).2 then (sanitizePhone i.senderIdentity).1 else i.senderIdentity
    | none => ""
  let withEmail := if first = "" then c.email.getD "" else first
  if withEmail = "" then UUID.string c.id else withEmail

structure ResolveVars where
  result : TagResolutionResult
  seenContactIDs : List UUID

/-- One contact. mirrors campaign.go:291-371 -/
def resolveContact (channelFilter : String) (v : ResolveVars) (c : TagContact) :
    ResolveVars :=
  if c.id ≠ UUID.Nil ∧ c.id ∈ v.seenContactIDs then v
  else
    let seenContactIDs := if c.id ≠ UUID.Nil then c.id :: v.seenContactIDs else v.seenContactIDs
    let phone := eligibleIdentity channelFilter c.identities
    let vars := setVariable c.attributes "name" c.name
    let identity := if phone ≠ "" then phone else skippedIdentity c
    if identity ∈ v.result.seenIdentities then { v with seenContactIDs := seenContactIDs }
    else
      { seenContactIDs := seenContactIDs
        result :=
          { records := v.result.records ++
              [⟨some c.id, identity, vars, if phone ≠ "" then .pending else .skipped, none⟩]
            recipients := if phone ≠ "" then v.result.recipients ++ [⟨phone, vars⟩] else v.result.recipients
            seenIdentities := identity :: v.result.seenIdentities } }

/-- The loop over the tags; `none` is the nil lister. mirrors campaign.go:265-380 -/
def resolveTagRecipients (lister : Option (UUID → Except GoError (List TagContact)))
    (tagIDs : List UUID) (channelFilter : String) : Except GoError TagResolutionResult :=
  match lister with
  | none => .ok ⟨[], [], []⟩
  | some listContactsByTag =>
    let rec loop : List UUID → ResolveVars → Except GoError TagResolutionResult
      | [], v => .ok v.result
      | tagID :: rest, v =>
        match listContactsByTag tagID with
        | .error e => .error ⟨"list contacts by tag: " ++ e.text, e.terminal⟩
        | .ok contacts => loop rest (contacts.foldl (resolveContact channelFilter) v)
    loop (deduplicateUUIDs tagIDs) ⟨⟨[], [], []⟩, []⟩

/-- `Variables` of the first recipient with the phone. -/
def mergeInto (phone : String) (vars : StrMap) : List CampaignRecipient → List CampaignRecipient
  | [] => []
  | r :: rest =>
    if r.to_ = phone then { r with variables_ := mergeVariables r.variables_ vars } :: rest
    else r :: mergeInto phone vars rest

/-- The variables of the loop over the uploaded rows. -/
structure MergeVars where
  allRecords : List CampaignRecipientRecord
  mergedRecipients : List CampaignRecipient
  seenIdentities : List String

/-- The record of a phone that was seen before: the uploaded variables win, and a skipped contact becomes
a recipient. mirrors campaign.go:402-429 -/
def mergeSeen (phone : String) (vars : StrMap) (v : MergeVars) : MergeVars :=
  match v.allRecords.findIdx? fun r => r.phone = phone with
  | none => v
  | some i =>
    match v.allRecords[i]? with
    | none => v
    | some found =>
      let merged := mergeVariables found.variables_ vars
      let allRecords := v.allRecords.set i { found with status := .pending, variables_ := merged }
      match found.status with
      | .pending =>
        { v with allRecords := allRecords, mergedRecipients := mergeInto phone vars v.mergedRecipients }
      | .skipped =>
        { v with allRecords := allRecords, mergedRecipients := v.mergedRecipients ++ [⟨phone, merged⟩] }
      | _ => v

/-- One uploaded row. mirrors campaign.go:397-440 -/
def mergeRow (v : MergeVars) (csvRec : CampaignRecipient) : MergeVars :=
  let phone := if (sanitizePhone csvRec.to_).2 then (sanitizePhone csvRec.to_).1 else csvRec.to_
  if phone ∈ v.seenIdentities then mergeSeen phone csvRec.variables_ v
  else
    { allRecords := v.allRecords ++ [⟨none, phone, csvRec.variables_, .pending, none⟩]
      mergedRecipients := v.mergedRecipients ++ [⟨phone, csvRec.variables_⟩]
      seenIdentities := phone :: v.seenIdentities }

/-- mirrors campaign.go:385-443 -/
def mergeTagAndCSVRecipients (tagRes : TagResolutionResult) (csvRecipients : List CampaignRecipient) :
    List CampaignRecipientRecord × List CampaignRecipient :=
  let v := csvRecipients.foldl mergeRow ⟨tagRes.records, tagRes.recipients, tagRes.seenIdentities⟩
  (v.allRecords, v.mergedRecipients)

/-! ## A new audience has not been written to -/

def Unsent (r : CampaignRecipientRecord) : Prop := r.status = .pending ∨ r.status = .skipped

theorem unsent_append {rs : List CampaignRecipientRecord} (h : ∀ r ∈ rs, Unsent r) {x : CampaignRecipientRecord}
    (hx : Unsent x) : ∀ r ∈ rs ++ [x], Unsent r := by
  intro r hr
  rcases List.mem_append.mp hr with hr | hr
  · exact h r hr
  · rw [List.mem_singleton.mp hr]
    exact hx

theorem resolveContact_unsent {channelFilter : String} {v : ResolveVars} (h : ∀ r ∈ v.result.records, Unsent r)
    (c : TagContact) : ∀ r ∈ (resolveContact channelFilter v c).result.records, Unsent r := by
  unfold resolveContact
  split
  · exact h
  · simp only
    split
    · split
      · exact h
      · exact unsent_append h (Or.inl rfl)
    · split
      · exact h
      · exact unsent_append h (Or.inr rfl)

theorem resolveContacts_unsent {channelFilter : String} (contacts : List TagContact) {v : ResolveVars}
    (h : ∀ r ∈ v.result.records, Unsent r) :
    ∀ r ∈ (contacts.foldl (resolveContact channelFilter) v).result.records, Unsent r := by
  induction contacts generalizing v with
  | nil => exact h
  | cons c contacts ih => exact ih (resolveContact_unsent h c)

theorem resolveTagRecipients_loop_unsent {listed : UUID → Except GoError (List TagContact)} {channelFilter : String}
    (tags : List UUID) {v : ResolveVars} {res : TagResolutionResult} (h : ∀ r ∈ v.result.records, Unsent r)
    (hr : resolveTagRecipients.loop channelFilter listed tags v = .ok res) : ∀ r ∈ res.records, Unsent r := by
  induction tags generalizing v with
  | nil =>
    cases hr
    exact h
  | cons tag tags ih =>
    rw [resolveTagRecipients.loop] at hr
    cases hl : listed tag with
    | error err => rw [hl] at hr; cases hr
    | ok contacts =>
      rw [hl] at hr
      exact ih (resolveContacts_unsent contacts h) hr

theorem resolveTagRecipients_unsent {lister : Option (UUID → Except GoError (List TagContact))}
    {tagIDs : List UUID} {channelFilter : String} {res : TagResolutionResult}
    (hr : resolveTagRecipients lister tagIDs channelFilter = .ok res) : ∀ r ∈ res.records, Unsent r := by
  unfold resolveTagRecipients at hr
  cases lister with
  | none =>
    cases hr
    simp
  | some listed => exact resolveTagRecipients_loop_unsent _ (by simp) hr

theorem mergeSeen_unsent {phone : String} {vars : StrMap} {v : MergeVars} (h : ∀ r ∈ v.allRecords, Unsent r) :
    ∀ r ∈ (mergeSeen phone vars v).allRecords, Unsent r := by
  unfold mergeSeen
  split
  · exact h
  · rename_i i _
    split
    · exact h
    · rename_i found _
      have hset : ∀ r ∈ v.allRecords.set i
          { found with status := .pending, variables_ := mergeVariables found.variables_ vars }, Unsent r := by
        intro r hr
        rcases List.mem_or_eq_of_mem_set hr with hr | rfl
        · exact h r hr
        · exact Or.inl rfl
      simp only
      split
      · exact hset
      · exact hset
      · exact h

theorem mergeRow_unsent {v : MergeVars} (h : ∀ r ∈ v.allRecords, Unsent r) (csvRec : CampaignRecipient) :
    ∀ r ∈ (mergeRow v csvRec).allRecords, Unsent r := by
  unfold mergeRow
  simp only
  generalize (if (sanitizePhone csvRec.to_).2 then (sanitizePhone csvRec.to_).1 else csvRec.to_) = phone
  split
  · exact mergeSeen_unsent h
  · exact unsent_append h (Or.inl rfl)

theorem mergeTagAndCSVRecipients_unsent {tagRes : TagResolutionResult} (h : ∀ r ∈ tagRes.records, Unsent r)
    (csvRecipients : List CampaignRecipient) : ∀ r ∈ (mergeTagAndCSVRecipients tagRes csvRecipients).1, Unsent r := by
  unfold mergeTagAndCSVRecipients
  have hfold : ∀ (rs : List CampaignRecipient) (v : MergeVars), (∀ r ∈ v.allRecords, Unsent r) →
      ∀ r ∈ (rs.foldl mergeRow v).allRecords, Unsent r := by
    intro rs
    induction rs with
    | nil => exact fun v hv => hv
    | cons r rs ih => exact fun v hv => ih _ (mergeRow_unsent hv r)
  exact hfold csvRecipients _ h

/-- `items[i:end]` for `i = 0, n, 2n, …`; `fuel` bounds the number of slices. -/
def slices {α : Type} (n : Nat) : Nat → List α → List (List α)
  | 0, _ => []
  | _ + 1, [] => []
  | fuel + 1, x :: xs => (x :: xs.take (n - 1)) :: slices n fuel (xs.drop (n - 1))

/-- The batches of a list of recipients. mirrors campaign/engine.go:353-365, 581-594 -/
def batches (batchSize : Int) (recipients : List CampaignRecipient) : List (List CampaignRecipient) :=
  slices (if batchSize ≤ 0 then 100 else batchSize.toNat) recipients.length recipients

theorem mem_slices {α : Type} {n fuel : Nat} {xs : List α} (hf : xs.length ≤ fuel) {x : α} (hx : x ∈ xs) :
    ∃ b ∈ slices n fuel xs, x ∈ b := by
  induction fuel generalizing xs with
  | zero =>
    have := List.length_pos_of_mem hx
    omega
  | succ fuel ih =>
    cases xs with
    | nil => cases hx
    | cons y ys =>
      have hlen : (ys.drop (n - 1)).length ≤ fuel := by
        simp only [List.length_cons, List.length_drop] at hf ⊢
        omega
      rcases List.mem_cons.mp hx with rfl | hx
      · exact ⟨_, List.mem_cons_self, List.mem_cons_self⟩
      · rw [← List.take_append_drop (n - 1) ys] at hx
        rcases List.mem_append.mp hx with hx | hx
        · exact ⟨_, List.mem_cons_self, List.mem_cons_of_mem _ hx⟩
        · obtain ⟨b, hb, hxb⟩ := ih hlen hx
          exact ⟨b, List.mem_cons_of_mem _ hb, hxb⟩

theorem slices_flatten {α : Type} {n fuel : Nat} {xs : List α} (hf : xs.length ≤ fuel) :
    (slices n fuel xs).flatten = xs := by
  induction fuel generalizing xs with
  | zero =>
    obtain rfl := List.length_eq_zero_iff.mp (Nat.le_zero.mp hf)
    rfl
  | succ fuel ih =>
    cases xs with
    | nil => rfl
    | cons y ys =>
      have hlen : (ys.drop (n - 1)).length ≤ fuel := by
        simp only [List.length_cons, List.length_drop] at hf ⊢
        omega
      simp only [slices, List.flatten_cons, ih hlen, List.cons_append, List.take_append_drop]

theorem slices_bounded {α : Type} {n fuel : Nat} {xs b : List α} (hn : 0 < n) (hb : b ∈ slices n fuel xs) :
    b ≠ [] ∧ b.length ≤ n := by
  induction fuel generalizing xs with
  | zero => cases hb
  | succ fuel ih =>
    cases xs with
    | nil => cases hb
    | cons y ys =>
      rcases List.mem_cons.mp hb with rfl | hb
      · refine ⟨List.cons_ne_nil _ _, ?_⟩
        simp only [List.length_cons, List.length_take]
        omega
      · exact ih hb

theorem batches_flatten (batchSize : Int) (recipients : List CampaignRecipient) :
    (batches batchSize recipients).flatten = recipients :=
  slices_flatten (Nat.le_refl _)

theorem mem_batches {batchSize : Int} {recipients : List CampaignRecipient} {r : CampaignRecipient}
    (h : r ∈ recipients) : ∃ b ∈ batches batchSize recipients, r ∈ b :=
  mem_slices (Nat.le_refl _) h

end PerGo.L2
