import PerGo.Core.FirstBy
import PerGo.L3Campaign.Engine

/-!
# The audience behind the tags

What the loops of `ResolveTagRecipients` (domain/campaign.go:265-380) come to. A contact
is visited the first time it is listed, and stands for one identity: its first eligible one, or,
without any, what `skippedIdentity` takes. Of the visited contacts of one identity the first is the
record.

* `resolved_of_ok`: records, recipients and seen identities of a resolution that succeeds.
* `eligibleIdentity_eq`: the first eligible identity, as a search.
-/
namespace PerGo.L3.Campaign

open PerGo.Core PerGo.L1 PerGo.L2

/-! ## One contact -/

/-- An identity that the campaign can write to. -/
def eligible (channelFilter : String) (i : ChannelIdentity) : Bool :=
  (channelFilter = "" || equalFold i.channel channelFilter) && i.senderIdentity ≠ "" &&
    ((sanitizePhone i.senderIdentity).2 || channelFilter = "" || !hasPrefix (toLower channelFilter) "whatsapp")

/-- The text of an identity: the digits of a phone, or the identity as it is. -/
def address (i : ChannelIdentity) : String :=
  if (sanitizePhone i.senderIdentity).2 then (sanitizePhone i.senderIdentity).1 else i.senderIdentity

theorem sanitizePhone_ne_empty {s : String} (h : (sanitizePhone s).2 = true) : (sanitizePhone s).1 ≠ "" := by
  intro hempty
  simp only [sanitizePhone, Bool.and_eq_true, decide_eq_true_eq] at h hempty
  have hnil := congrArg String.toList hempty
  rw [String.toList_ofList] at hnil
  rw [hnil] at h
  exact absurd h.1 (by decide)

theorem address_ne_empty {channelFilter : String} {i : ChannelIdentity} (h : eligible channelFilter i = true) :
    address i ≠ "" := by
  unfold address
  split
  · rename_i hvalid
    exact sanitizePhone_ne_empty hvalid
  · simp only [eligible, Bool.and_eq_true, decide_eq_true_eq] at h
    exact h.1.2

theorem eligibleIdentity_eq (channelFilter : String) (identities : List ChannelIdentity) :
    eligibleIdentity channelFilter identities = ((identities.find? (eligible channelFilter)).map address).getD "" := by
  induction identities with
  | nil => rfl
  | cons i rest ih =>
    rw [eligibleIdentity, ih, List.find?_cons]
    by_cases hchannel : channelFilter ≠ "" ∧ equalFold i.channel channelFilter = false
    · have hno : eligible channelFilter i = false := by simp [eligible, hchannel.1, hchannel.2]
      rw [if_pos hchannel, hno]
    · have hon : (channelFilter = "" || equalFold i.channel channelFilter) = true := by
        by_cases hempty : channelFilter = ""
        · simp [hempty]
        · have := not_and.mp hchannel hempty
          simpa [hempty] using this
      rw [if_neg hchannel]
      by_cases hident : i.senderIdentity ≠ ""
      · rw [if_pos hident]
        by_cases hvalid : (sanitizePhone i.senderIdentity).2 = true
        · have hyes : eligible channelFilter i = true := by
            simp only [eligible, hon, hvalid, Bool.true_or, Bool.and_true, Bool.true_and]
            exact decide_eq_true hident
          rw [if_pos hvalid, hyes]
          simp [address, hvalid]
        · rw [if_neg hvalid]
          by_cases hfree : channelFilter = "" ∨ hasPrefix (toLower channelFilter) "whatsapp" = false
          · have hyes : eligible channelFilter i = true := by
              rcases hfree with hfree | hfree
              · simp [eligible, hfree, hident]
              · simp only [eligible, hon, hfree, Bool.not_false, Bool.or_true, Bool.and_true, Bool.true_and]
                exact decide_eq_true hident
            rw [if_pos hfree, hyes]
            simp [address, hvalid]
          · have hno : eligible channelFilter i = false := by
              obtain ⟨hf, hp⟩ := not_or.mp hfree
              simp [eligible, hvalid, hf, hp]
            rw [if_neg hfree, hno]
      · have hno : eligible channelFilter i = false := by simp [eligible, not_not.mp hident]
        rw [if_neg hident, hno]

theorem eligibleIdentity_ne_empty {channelFilter : String} {identities : List ChannelIdentity} :
    eligibleIdentity channelFilter identities ≠ "" ↔ ∃ i ∈ identities, eligible channelFilter i := by
  rw [eligibleIdentity_eq]
  cases hfind : identities.find? (eligible channelFilter) with
  | none =>
    have hall := List.find?_eq_none.mp hfind
    simpa using hall
  | some i =>
    have hi := List.find?_some hfind
    exact iff_of_true (address_ne_empty hi) ⟨i, List.mem_of_find?_eq_some hfind, hi⟩

section Contact

variable (channelFilter : String) (c : TagContact)

def isEligible : Bool := eligibleIdentity channelFilter c.identities ≠ ""

def identityOf : String :=
  if eligibleIdentity channelFilter c.identities ≠ "" then eligibleIdentity channelFilter c.identities
  else skippedIdentity c

def contactVariables : StrMap := setVariable c.attributes "name" c.name

def recordOf : CampaignRecipientRecord :=
  { contactID := some c.id, phone := identityOf channelFilter c, variables_ := contactVariables c
    status := if eligibleIdentity channelFilter c.identities ≠ "" then .pending else .skipped
    errorMessage := none }

end Contact

/-! ## The loop -/

def sameContact (d c : TagContact) : Bool := c.id ≠ UUID.Nil && d.id = c.id

def sameIdentity (channelFilter : String) (d c : TagContact) : Bool :=
  identityOf channelFilter d = identityOf channelFilter c

def visited (contacts : List TagContact) : List TagContact := firstBy sameContact contacts

def audience (channelFilter : String) (contacts : List TagContact) : List TagContact :=
  firstBy (sameIdentity channelFilter) (visited contacts)

structure Resolved (channelFilter : String) (contacts : List TagContact) (v : ResolveVars) : Prop where
  records : v.result.records = (audience channelFilter contacts).map (recordOf channelFilter)
  recipients : v.result.recipients = pendingRecipients v.result.records
  seen : ∀ i, i ∈ v.result.seenIdentities ↔ i ∈ (audience channelFilter contacts).map (identityOf channelFilter)
  ids : ∀ id, id ≠ UUID.Nil → (id ∈ v.seenContactIDs ↔ id ∈ (visited contacts).map (·.id))

theorem pendingRecipients_append (a b : List CampaignRecipientRecord) :
    pendingRecipients (a ++ b) = pendingRecipients a ++ pendingRecipients b := by
  simp [pendingRecipients]

section Loop

variable {channelFilter : String}

theorem visited_any {contacts : List TagContact} {v : ResolveVars} (h : Resolved channelFilter contacts v)
    (c : TagContact) : (visited contacts).any (sameContact · c) = true ↔ c.id ≠ UUID.Nil ∧ c.id ∈ v.seenContactIDs := by
  by_cases hnil : c.id = UUID.Nil
  · simp [sameContact, hnil]
  · rw [h.ids c.id hnil]
    simp [sameContact, hnil]

theorem audience_any {contacts : List TagContact} {v : ResolveVars} (h : Resolved channelFilter contacts v)
    (c : TagContact) : (audience channelFilter contacts).any (sameIdentity channelFilter · c) = true ↔
      identityOf channelFilter c ∈ v.result.seenIdentities := by
  rw [h.seen]
  simp [sameIdentity]

theorem resolved_step {contacts : List TagContact} {v : ResolveVars} (h : Resolved channelFilter contacts v)
    (c : TagContact) : Resolved channelFilter (contacts ++ [c]) (resolveContact channelFilter v c) := by
  unfold resolveContact
  by_cases hvisited : c.id ≠ UUID.Nil ∧ c.id ∈ v.seenContactIDs
  · -- visited before
    have hkept : visited (contacts ++ [c]) = visited contacts := by
      rw [visited, firstBy_concat]
      exact if_pos ((visited_any h c).mpr hvisited)
    rw [if_pos hvisited]
    refine ⟨?_, h.recipients, ?_, ?_⟩
    · rw [audience, hkept]
      exact h.records
    · rw [audience, hkept]
      exact h.seen
    · rw [hkept]
      exact h.ids
  · have hadded : visited (contacts ++ [c]) = visited contacts ++ [c] := by
      rw [visited, firstBy_concat]
      exact if_neg fun hany => hvisited ((visited_any h c).mp hany)
    have hids : ∀ id, id ≠ UUID.Nil → (id ∈ (if c.id ≠ UUID.Nil then c.id :: v.seenContactIDs else v.seenContactIDs) ↔
        id ∈ (visited (contacts ++ [c])).map (·.id)) := by
      intro id hid
      rw [hadded, List.map_append, List.mem_append, ← h.ids id hid]
      by_cases hc : c.id ≠ UUID.Nil
      · rw [if_pos hc]
        simp [or_comm]
      · rw [if_neg hc]
        have hne : id ≠ c.id := by
          rintro rfl
          exact hc hid
        simp [hne]
    rw [if_neg hvisited]
    -- the identity the contact stands for
    show Resolved channelFilter (contacts ++ [c])
      (if identityOf channelFilter c ∈ v.result.seenIdentities then _ else _)
    have haudience : audience channelFilter (contacts ++ [c]) =
        if identityOf channelFilter c ∈ v.result.seenIdentities then audience channelFilter contacts
        else audience channelFilter contacts ++ [c] := by
      rw [audience, hadded, firstBy_concat]
      exact ite_congr (propext (audience_any h c)) (fun _ => rfl) (fun _ => rfl)
    by_cases hseen : identityOf channelFilter c ∈ v.result.seenIdentities
    · rw [if_pos hseen] at haudience ⊢
      exact ⟨haudience ▸ h.records, h.recipients, haudience ▸ h.seen, hids⟩
    · rw [if_neg hseen] at haudience ⊢
      refine ⟨?_, ?_, ?_, hids⟩
      · rw [haudience, List.map_append, ← h.records]
        rfl
      · simp only
        rw [pendingRecipients_append, ← h.recipients]
        by_cases he : eligibleIdentity channelFilter c.identities ≠ ""
        · simp [he, pendingRecipients]
        · simp [he, pendingRecipients]
      · intro i
        rw [haudience, List.map_append, List.mem_append, ← h.seen i]
        simp only [List.map_cons, List.map_nil, List.mem_cons, List.not_mem_nil, or_false]
        exact or_comm

theorem resolved_fold {contacts : List TagContact} {v : ResolveVars} (h : Resolved channelFilter contacts v)
    (more : List TagContact) :
    Resolved channelFilter (contacts ++ more) (more.foldl (resolveContact channelFilter) v) := by
  induction more generalizing contacts v with
  | nil =>
    rw [List.append_nil]
    exact h
  | cons c more ih =>
    have hnext := ih (resolved_step h c)
    rwa [List.append_assoc] at hnext

end Loop

/-! ## The tags -/

/-- The contacts in the order of the loops; the resolution that succeeds had an answer for each tag. -/
def listedContacts (lister : Option (UUID → Except GoError (List TagContact))) (tagIDs : List UUID) : List TagContact :=
  match lister with
  | none => []
  | some listContactsByTag =>
    (deduplicateUUIDs tagIDs).flatMap fun tagID => (listContactsByTag tagID).toOption.getD []

section Tags

variable {lister : Option (UUID → Except GoError (List TagContact))} {tagIDs : List UUID} {channelFilter : String}
  {res : TagResolutionResult}

theorem loop_ok {listed : UUID → Except GoError (List TagContact)} (tags : List UUID) {v : ResolveVars}
    (h : resolveTagRecipients.loop channelFilter listed tags v = .ok res) :
    res = ((tags.flatMap fun tagID => (listed tagID).toOption.getD []).foldl (resolveContact channelFilter) v).result := by
  induction tags generalizing v with
  | nil =>
    cases h
    rfl
  | cons tag tags ih =>
    rw [resolveTagRecipients.loop] at h
    cases hl : listed tag with
    | error err => rw [hl] at h; cases h
    | ok contacts =>
      rw [hl] at h
      rw [List.flatMap_cons, List.foldl_append, hl]
      exact ih h

theorem resolved_of_ok (h : resolveTagRecipients lister tagIDs channelFilter = .ok res) :
    ∃ ids, Resolved channelFilter (listedContacts lister tagIDs) ⟨res, ids⟩ := by
  have hinit : Resolved channelFilter [] ⟨⟨[], [], []⟩, []⟩ := by
    refine ⟨rfl, rfl, ?_, ?_⟩
    · intro i
      exact Iff.rfl
    · intro id _
      exact Iff.rfl
  unfold resolveTagRecipients at h
  cases lister with
  | none =>
    cases h
    exact ⟨[], hinit⟩
  | some listed =>
    simp only at h
    have hres := loop_ok _ h
    have hfold := resolved_fold hinit (listedContacts (some listed) tagIDs)
    rw [List.nil_append] at hfold
    refine ⟨((listedContacts (some listed) tagIDs).foldl (resolveContact channelFilter) ⟨⟨[], [], []⟩, []⟩).seenContactIDs, ?_⟩
    rw [hres]
    exact hfold

theorem audience_phones (contacts : List TagContact) :
    (((audience channelFilter contacts).map (recordOf channelFilter)).map (·.phone)).Nodup := by
  rw [List.map_map]
  refine List.pairwise_map.mpr ((firstBy_pairwise _).imp ?_)
  intro d c hne heq
  have hsame : sameIdentity channelFilter d c = true := decide_eq_true heq
  rw [hsame] at hne
  cases hne

theorem find?_audience (channelFilter : String) (contacts : List TagContact) (i : String) :
    ((audience channelFilter contacts).map (recordOf channelFilter)).find? (fun r => r.phone = i) =
      ((visited contacts).find? fun c => identityOf channelFilter c = i).map (recordOf channelFilter) := by
  rw [List.find?_map, audience]
  congr 1
  apply find?_firstBy
  intro d c hsame
  have heq : identityOf channelFilter d = identityOf channelFilter c := of_decide_eq_true hsame
  show decide (identityOf channelFilter d = i) = decide (identityOf channelFilter c = i)
  rw [heq]

end Tags

end PerGo.L3.Campaign
