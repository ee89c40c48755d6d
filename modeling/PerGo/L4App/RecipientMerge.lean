import PerGo.Core.Pool
import PerGo.L3Campaign.Audience

/-!
# The recipients of a campaign, merged

`MergeTagAndCSVRecipients` (domain/campaign.go:385-443) adds the rows of an uploaded list
to what the tags resolved to.

* `Merged`: what the loop keeps for the rows it has read: one record for each phone, the recipients
  are those of the pending records, and the variables of a record are its tag contact's under those
  of the rows, the last row on top.
* `merged_row`, `merged_rows`: one row, and all of them.
* `merge_keyed_union`: the records and recipients that are returned.

The record and the recipient of an uploaded row share one map, and a later row of the phone is
written into it twice; the second time writes the same entries again. A pending contact of a tag has
a copy for each.
-/
namespace PerGo.L4.RecipientMerge

open PerGo.Core PerGo.L1 PerGo.L2 PerGo.L3.Campaign
open Assoc (Keyed)

/-! ## The keyed union -/

def rowPhone (r : CampaignRecipient) : String :=
  if (sanitizePhone r.to_).2 then (sanitizePhone r.to_).1 else r.to_

def valueOf (tags : List CampaignRecipientRecord) (rows : List CampaignRecipient) (phone k : String) : Option String :=
  ((rows.filter fun r => rowPhone r = phone).reverse.findSome? fun r => r.variables_.lookup k).or
    ((tags.find? fun t => t.phone = phone).bind fun t => t.variables_.lookup k)

structure KeyedUnion (tags : List CampaignRecipientRecord) (rows : List CampaignRecipient)
    (records : List CampaignRecipientRecord) (recipients : List CampaignRecipient) : Prop where
  phones : (records.map (·.phone)).Nodup
  paired : recipients.Perm (pendingRecipients records)
  tagged : ∀ t ∈ tags, ∃ r ∈ records, r.phone = t.phone ∧ r.contactID = t.contactID
  uploaded : ∀ row ∈ rows, ∃ r ∈ records, r.phone = rowPhone row ∧ r.status = .pending
  only : ∀ r ∈ records, r ∈ tags ∨ ∃ row ∈ rows, rowPhone row = r.phone
  variables_ : ∀ r ∈ records, ∀ k, r.variables_.lookup k = valueOf tags rows r.phone k

/-! ## The loop -/

structure Merged (tags : List CampaignRecipientRecord) (rows : List CampaignRecipient) (v : MergeVars) : Prop where
  union : KeyedUnion tags rows v.allRecords v.mergedRecipients
  seen : ∀ p, p ∈ v.seenIdentities ↔ p ∈ v.allRecords.map (·.phone)
  unsent : ∀ r ∈ v.allRecords, Unsent r

section Row

variable {tags : List CampaignRecipientRecord} {rows : List CampaignRecipient} {v : MergeVars}

theorem rows_concat (row : CampaignRecipient) (p : String) : ((rows ++ [row]).filter fun r => rowPhone r = p) =
    (rows.filter fun r => rowPhone r = p) ++ if rowPhone row = p then [row] else [] := by
  rw [List.filter_append]
  by_cases h : rowPhone row = p <;> simp [h]

theorem valueOf_other {row : CampaignRecipient} {p : String} (h : rowPhone row ≠ p) (k : String) :
    valueOf tags (rows ++ [row]) p k = valueOf tags rows p k := by
  rw [valueOf, rows_concat, if_neg h, List.append_nil]
  rfl

theorem valueOf_own {row : CampaignRecipient} {p : String} (h : rowPhone row = p) (k : String) :
    valueOf tags (rows ++ [row]) p k = (row.variables_.lookup k).or (valueOf tags rows p k) := by
  rw [valueOf, rows_concat, if_pos h, List.reverse_append, List.reverse_singleton, List.singleton_append,
    List.findSome?_cons]
  cases row.variables_.lookup k with
  | none => rfl
  | some val => rfl

def mergedRecord (vars : StrMap) (r : CampaignRecipientRecord) : CampaignRecipientRecord :=
  { r with status := .pending, variables_ := mergeVariables r.variables_ vars }

def mergedRecipient (phone : String) (vars : StrMap) (r : CampaignRecipient) : CampaignRecipient :=
  if r.to_ = phone then { r with variables_ := mergeVariables r.variables_ vars } else r

theorem mergeInto_eq_map {recipients : List CampaignRecipient} (hn : (recipients.map (·.to_)).Nodup) (phone : String)
    (vars : StrMap) : mergeInto phone vars recipients = recipients.map (mergedRecipient phone vars) := by
  induction recipients with
  | nil => rfl
  | cons r rest ih =>
    obtain ⟨hnew, hrest⟩ := List.nodup_cons.mp hn
    rw [mergeInto, List.map_cons]
    by_cases h : r.to_ = phone
    · have hothers : rest.map (mergedRecipient phone vars) = rest := by
        conv_rhs => rw [← List.map_id rest]
        apply List.map_congr_left
        intro r' hr'
        have hne : r'.to_ ≠ phone := by
          intro he
          apply hnew
          show r.to_ ∈ rest.map (·.to_)
          rw [h, ← he]
          exact List.mem_map_of_mem hr'
        simp [mergedRecipient, hne]
      rw [if_pos h, hothers]
      simp [mergedRecipient, h]
    · rw [if_neg h, ih hrest]
      simp [mergedRecipient, h]

theorem pendingRecipients_cons (r : CampaignRecipientRecord) (records : List CampaignRecipientRecord) :
    pendingRecipients (r :: records) =
      (if r.status = .pending then [⟨r.phone, r.variables_⟩] else []) ++ pendingRecipients records := by
  by_cases h : r.status = .pending <;> simp [pendingRecipients, h]

theorem pendingRecipients_to {records : List CampaignRecipientRecord} {r : CampaignRecipient}
    (h : r ∈ pendingRecipients records) : r.to_ ∈ records.map (·.phone) := by
  obtain ⟨rec, hrec, rfl⟩ := List.mem_map.mp h
  exact List.mem_map_of_mem (List.mem_filter.mp hrec).1

theorem map_mergedRecipient {records : List CampaignRecipientRecord} {phone : String} (vars : StrMap)
    (h : ∀ r ∈ records, r.phone ≠ phone) :
    (pendingRecipients records).map (mergedRecipient phone vars) = pendingRecipients records := by
  conv_rhs => rw [← List.map_id (pendingRecipients records)]
  apply List.map_congr_left
  intro r hr
  obtain ⟨rec, hrec, hphone⟩ := List.mem_map.mp (pendingRecipients_to hr)
  have hne : r.to_ ≠ phone := hphone ▸ h rec hrec
  simp [mergedRecipient, hne]

theorem mergeSeen_eq (h : Merged tags rows v) {phone : String} (hseen : phone ∈ v.seenIdentities) (vars : StrMap) :
    ∃ before found after, v.allRecords = before ++ found :: after ∧ found.phone = phone ∧
      (∀ r ∈ before ++ after, r.phone ≠ phone) ∧
      mergeSeen phone vars v =
        { v with allRecords := before ++ mergedRecord vars found :: after
                 mergedRecipients :=
                  if found.status = .pending then v.mergedRecipients.map (mergedRecipient phone vars)
                  else v.mergedRecipients ++ [⟨phone, mergeVariables found.variables_ vars⟩] } := by
  obtain ⟨rec, hrec, hphone⟩ := List.mem_map.mp ((h.seen phone).mp hseen)
  have hsome : (v.allRecords.findIdx? fun r => r.phone = phone).isSome := by
    rw [List.findIdx?_isSome]
    exact List.any_eq_true.mpr ⟨rec, hrec, decide_eq_true hphone⟩
  obtain ⟨i, hi⟩ := Option.isSome_iff_exists.mp hsome
  obtain ⟨hlt, hat, -⟩ := List.findIdx?_eq_some_iff_getElem.mp hi
  have hfound : v.allRecords[i]? = some v.allRecords[i] := List.getElem?_eq_getElem hlt
  have hp : v.allRecords[i].phone = phone := of_decide_eq_true hat
  generalize v.allRecords[i] = found at hfound hp
  have hsplit := split_at hfound
  have hset : ∀ x, v.allRecords.set i x = v.allRecords.take i ++ x :: v.allRecords.drop (i + 1) := by
    intro x
    rw [List.set_eq_take_append_cons_drop, if_pos hlt]
  have hothers : ∀ r ∈ v.allRecords.take i ++ v.allRecords.drop (i + 1), r.phone ≠ phone := by
    have hn := h.union.phones
    rw [hsplit, List.map_append, List.map_cons] at hn
    have hn' := (List.nodup_middle.mp hn)
    intro r hr heq
    apply (List.nodup_cons.mp hn').1
    rw [hp, ← heq, ← List.map_append]
    exact List.mem_map_of_mem hr
  refine ⟨_, found, _, hsplit, hp, hothers, ?_⟩
  have hrecipients : (v.mergedRecipients.map (·.to_)).Nodup := by
    have hpend : ((pendingRecipients v.allRecords).map (·.to_)).Nodup := by
      have hmap : (pendingRecipients v.allRecords).map (·.to_) =
          (v.allRecords.filter fun r => r.status = .pending).map (·.phone) := by
        simp [pendingRecipients, List.map_map, Function.comp_def]
      rw [hmap]
      exact h.union.phones.sublist (List.filter_sublist.map _)
    exact (h.union.paired.map _).nodup_iff.mpr hpend
  unfold mergeSeen
  rw [hi]
  simp only [hfound, hset]
  rcases h.unsent found (List.mem_of_getElem? hfound) with hstatus | hstatus
  · simp only [hstatus, if_true, mergeInto_eq_map hrecipients]
    rfl
  · simp only [hstatus]
    rfl

theorem paired_merged {recipients : List CampaignRecipient} {before after : List CampaignRecipientRecord}
    {found : CampaignRecipientRecord} (hunsent : Unsent found)
    (hothers : ∀ r ∈ before ++ after, r.phone ≠ found.phone)
    (hpaired : recipients.Perm (pendingRecipients (before ++ found :: after))) (vars : StrMap) :
    (if found.status = .pending then recipients.map (mergedRecipient found.phone vars)
      else recipients ++ [⟨found.phone, mergeVariables found.variables_ vars⟩]).Perm
      (pendingRecipients (before ++ mergedRecord vars found :: after)) := by
  have hnew : pendingRecipients (before ++ mergedRecord vars found :: after) =
      pendingRecipients before ++ ⟨found.phone, mergeVariables found.variables_ vars⟩ :: pendingRecipients after := by
    rw [pendingRecipients_append, pendingRecipients_cons]
    rfl
  rw [pendingRecipients_append, pendingRecipients_cons] at hpaired
  rw [hnew]
  rcases hunsent with hstatus | hstatus
  · have hbefore := map_mergedRecipient vars fun r hr => hothers r (List.mem_append_left after hr)
    have hafter := map_mergedRecipient vars fun r hr => hothers r (List.mem_append_right before hr)
    have hmap := hpaired.map (mergedRecipient found.phone vars)
    rw [if_pos hstatus, List.map_append, List.map_append, hbefore, hafter] at hmap
    rw [if_pos hstatus]
    refine hmap.trans (List.Perm.of_eq ?_)
    simp [mergedRecipient]
  · have hskipped : found.status ≠ .pending := by
      rw [hstatus]
      decide
    rw [if_neg hskipped] at hpaired ⊢
    rw [List.nil_append] at hpaired
    refine (hpaired.append_right _).trans ?_
    rw [List.append_assoc]
    exact List.perm_append_comm.append_left _

theorem merged_seen (h : Merged tags rows v) {row : CampaignRecipient} (hkeyed : Keyed row.variables_)
    (hseen : rowPhone row ∈ v.seenIdentities) :
    Merged tags (rows ++ [row]) (mergeSeen (rowPhone row) row.variables_ v) := by
  obtain ⟨before, found, after, hsplit, hphone, hothers, heq⟩ := mergeSeen_eq h hseen row.variables_
  have hold := h.union
  rw [hsplit] at hold
  rw [heq]
  -- a record is the one found or another, which stays
  have hmem : ∀ r ∈ before ++ found :: after, r = found ∨ r ∈ before ++ mergedRecord row.variables_ found :: after := by
    intro r hr
    simp only [List.mem_append, List.mem_cons] at hr ⊢
    tauto
  have hnew : ∀ r ∈ before ++ mergedRecord row.variables_ found :: after,
      r = mergedRecord row.variables_ found ∨ r ∈ before ++ after := by
    intro r hr
    simp only [List.mem_append, List.mem_cons] at hr ⊢
    tauto
  have hthere : mergedRecord row.variables_ found ∈ before ++ mergedRecord row.variables_ found :: after := by simp
  have hphones : (before ++ mergedRecord row.variables_ found :: after).map (·.phone) = v.allRecords.map (·.phone) := by
    rw [hsplit]
    simp [mergedRecord]
  refine ⟨⟨?_, ?_, ?_, ?_, ?_, ?_⟩, ?_, ?_⟩
  · rw [hphones]
    exact h.union.phones
  · have hunsent : Unsent found := h.unsent found (by rw [hsplit]; simp)
    have hpaired := paired_merged hunsent (by rwa [hphone]) hold.paired row.variables_
    rwa [hphone] at hpaired
  · intro t ht
    obtain ⟨r, hr, hp, hc⟩ := hold.tagged t ht
    rcases hmem r hr with rfl | hr
    · exact ⟨_, hthere, hp, hc⟩
    · exact ⟨r, hr, hp, hc⟩
  · intro row' hrow'
    rcases List.mem_append.mp hrow' with hrow' | hrow'
    · obtain ⟨r, hr, hp, hs⟩ := hold.uploaded row' hrow'
      rcases hmem r hr with rfl | hr
      · exact ⟨_, hthere, hp, rfl⟩
      · exact ⟨r, hr, hp, hs⟩
    · rw [List.mem_singleton.mp hrow']
      exact ⟨_, hthere, hphone, rfl⟩
  · intro r hr
    rcases hnew r hr with rfl | hr
    · exact Or.inr ⟨row, by simp, hphone.symm⟩
    · rcases hold.only r (by simp only [List.mem_append, List.mem_cons] at hr ⊢; tauto) with ht | ⟨row', hrow', hp⟩
      · exact Or.inl ht
      · exact Or.inr ⟨row', List.mem_append_left _ hrow', hp⟩
  · intro r hr k
    rcases hnew r hr with rfl | hr
    · have hmerged : (mergeVariables found.variables_ row.variables_).lookup k =
          (row.variables_.lookup k).or (found.variables_.lookup k) := Assoc.lookup_merge hkeyed _ k
      show (mergeVariables found.variables_ row.variables_).lookup k = valueOf tags (rows ++ [row]) found.phone k
      rw [hmerged, valueOf_own hphone.symm, hold.variables_ found (by simp) k]
    · rw [valueOf_other (hothers r hr).symm]
      exact hold.variables_ r (by simp only [List.mem_append, List.mem_cons] at hr ⊢; tauto) k
  · intro p
    rw [hphones]
    exact h.seen p
  · intro r hr
    rcases hnew r hr with rfl | hr
    · exact Or.inl rfl
    · apply h.unsent
      rw [hsplit]
      simp only [List.mem_append, List.mem_cons] at hr ⊢
      tauto

theorem merged_new (h : Merged tags rows v) {row : CampaignRecipient} (hnew : rowPhone row ∉ v.seenIdentities) :
    Merged tags (rows ++ [row])
      { allRecords := v.allRecords ++ [⟨none, rowPhone row, row.variables_, .pending, none⟩]
        mergedRecipients := v.mergedRecipients ++ [⟨rowPhone row, row.variables_⟩]
        seenIdentities := rowPhone row :: v.seenIdentities } := by
  have hfresh : ∀ r ∈ v.allRecords, r.phone ≠ rowPhone row := by
    intro r hr heq
    exact hnew ((h.seen _).mpr (heq ▸ List.mem_map_of_mem hr))
  -- nothing was known of the phone
  have hnone : ∀ k, valueOf tags rows (rowPhone row) k = none := by
    intro k
    have hrows : (rows.filter fun r => rowPhone r = rowPhone row) = [] := by
      apply List.filter_eq_nil_iff.mpr
      intro row' hrow' heq
      obtain ⟨r, hr, hp, -⟩ := h.union.uploaded row' hrow'
      exact hfresh r hr (hp.trans (of_decide_eq_true heq))
    have htags : (tags.find? fun t => t.phone = rowPhone row) = none := by
      apply List.find?_eq_none.mpr
      intro t ht heq
      obtain ⟨r, hr, hp, -⟩ := h.union.tagged t ht
      exact hfresh r hr (hp.trans (of_decide_eq_true heq))
    rw [valueOf, hrows, htags]
    rfl
  refine ⟨⟨?_, ?_, ?_, ?_, ?_, ?_⟩, ?_, ?_⟩
  · exact nodup_concat h.union.phones hfresh
  · rw [pendingRecipients_append]
    exact h.union.paired.append_right _
  · intro t ht
    obtain ⟨r, hr, hp, hc⟩ := h.union.tagged t ht
    exact ⟨r, List.mem_append_left _ hr, hp, hc⟩
  · intro row' hrow'
    rcases List.mem_append.mp hrow' with hrow' | hrow'
    · obtain ⟨r, hr, hp, hs⟩ := h.union.uploaded row' hrow'
      exact ⟨r, List.mem_append_left _ hr, hp, hs⟩
    · rw [List.mem_singleton.mp hrow']
      exact ⟨_, List.mem_append_right _ (List.mem_singleton_self _), rfl, rfl⟩
  · intro r hr
    rcases List.mem_append.mp hr with hr | hr
    · rcases h.union.only r hr with ht | ⟨row', hrow', hp⟩
      · exact Or.inl ht
      · exact Or.inr ⟨row', List.mem_append_left _ hrow', hp⟩
    · rw [List.mem_singleton.mp hr]
      exact Or.inr ⟨row, by simp, rfl⟩
  · intro r hr k
    rcases List.mem_append.mp hr with hr | hr
    · rw [valueOf_other (hfresh r hr).symm]
      exact h.union.variables_ r hr k
    · rw [List.mem_singleton.mp hr, valueOf_own rfl, hnone, Option.or_none]
  · intro p
    rw [List.map_append, List.mem_append, ← h.seen p]
    simp only [List.mem_cons, List.map_cons, List.map_nil, List.not_mem_nil, or_false]
    exact or_comm
  · exact unsent_append h.unsent (Or.inl rfl)

theorem merged_row (h : Merged tags rows v) {row : CampaignRecipient} (hkeyed : Keyed row.variables_) :
    Merged tags (rows ++ [row]) (mergeRow v row) := by
  show Merged tags (rows ++ [row]) (if rowPhone row ∈ v.seenIdentities then _ else _)
  split
  · rename_i hseen
    exact merged_seen h hkeyed hseen
  · rename_i hnew
    exact merged_new h hnew

theorem merged_rows {more : List CampaignRecipient} (h : Merged tags rows v) (hkeyed : ∀ r ∈ more, Keyed r.variables_) :
    Merged tags (rows ++ more) (more.foldl mergeRow v) := by
  induction more generalizing rows v with
  | nil =>
    rw [List.append_nil]
    exact h
  | cons row more ih =>
    have hnext := ih (merged_row h (hkeyed row List.mem_cons_self)) fun r hr => hkeyed r (List.mem_cons_of_mem _ hr)
    rwa [List.append_assoc] at hnext

end Row

/-! ## The merge -/

theorem merged_tags {channelFilter : String} {contacts : List TagContact} {res : TagResolutionResult} {ids : List UUID}
    (h : Resolved channelFilter contacts ⟨res, ids⟩) :
    Merged res.records [] ⟨res.records, res.recipients, res.seenIdentities⟩ := by
  have hrecords : res.records = (audience channelFilter contacts).map (recordOf channelFilter) := h.records
  have hphones : (res.records.map (·.phone)).Nodup := by
    rw [hrecords]
    exact audience_phones contacts
  refine ⟨⟨hphones, ?_, ?_, ?_, ?_, ?_⟩, ?_, ?_⟩
  · exact List.Perm.of_eq h.recipients
  · exact fun t ht => ⟨t, ht, rfl, rfl⟩
  · exact fun row hrow => nomatch hrow
  · exact fun r hr => Or.inl hr
  · intro r hr k
    have hfind : (res.records.find? fun t => t.phone = r.phone) = some r := (find?_key_iff hphones).mpr ⟨hr, rfl⟩
    rw [valueOf, hfind]
    rfl
  · intro p
    show p ∈ res.seenIdentities ↔ p ∈ res.records.map (·.phone)
    rw [h.seen p, hrecords, List.map_map]
    exact Iff.rfl
  · intro r hr
    have hr : r ∈ res.records := hr
    rw [hrecords] at hr
    obtain ⟨c, -, rfl⟩ := List.mem_map.mp hr
    unfold Unsent recordOf
    dsimp only
    split
    · exact Or.inl rfl
    · exact Or.inr rfl

/-- **The merge is a keyed union.** -/
theorem merge_keyed_union (lister : Option (UUID → Except GoError (List TagContact))) (tagIDs : List UUID)
    (channelFilter : String) (tagRes : TagResolutionResult) (csvRecipients : List CampaignRecipient)
    (hres : resolveTagRecipients lister tagIDs channelFilter = .ok tagRes)
    (hkeyed : ∀ r ∈ csvRecipients, Keyed r.variables_) :
    KeyedUnion tagRes.records csvRecipients (mergeTagAndCSVRecipients tagRes csvRecipients).1
      (mergeTagAndCSVRecipients tagRes csvRecipients).2 := by
  obtain ⟨ids, hresolved⟩ := resolved_of_ok hres
  exact (merged_rows (merged_tags hresolved) hkeyed).union

def customers : List TagContact :=
  [⟨11, "Ana", none, [("city", "Recife"), ("plan", "basic")], [⟨"whatsapp", "+55 11 99999-0000"⟩]⟩,
    ⟨12, "Bia", none, [], [⟨"telegram", "5511999990001"⟩]⟩]

/-- Two rows of Ana, one of Bia and one of nobody the tag knows. -/
def upload : List CampaignRecipient :=
  [⟨"5511999990000", [("plan", "gold")]⟩, ⟨"5511999990001", [("plan", "basic")]⟩, ⟨"(55) 11 99999-0000", [("plan", "black")]⟩,
    ⟨"5511999990002", []⟩]

def customersResolved : TagResolutionResult :=
  { records :=
      [⟨some 11, "5511999990000", [("city", "Recife"), ("plan", "basic"), ("name", "Ana")], .pending, none⟩,
        ⟨some 12, "5511999990001", [("name", "Bia")], .skipped, none⟩]
    recipients := [⟨"5511999990000", [("city", "Recife"), ("plan", "basic"), ("name", "Ana")]⟩]
    seenIdentities := ["5511999990001", "5511999990000"] }

/-- All three are written to, Ana with the plan of her second row. -/
theorem customers_merged :
    KeyedUnion customersResolved.records upload (mergeTagAndCSVRecipients customersResolved upload).1
        (mergeTagAndCSVRecipients customersResolved upload).2 ∧
      (mergeTagAndCSVRecipients customersResolved upload).2 =
        [⟨"5511999990000", [("city", "Recife"), ("name", "Ana"), ("plan", "black")]⟩,
          ⟨"5511999990001", [("name", "Bia"), ("plan", "basic")]⟩, ⟨"5511999990002", []⟩] := by
  have hres : resolveTagRecipients (some fun _ => .ok customers) [1] "whatsapp" = .ok customersResolved := by
    decide +kernel
  have hkeyed : ∀ r ∈ upload, Keyed r.variables_ := by
    unfold Keyed
    decide +kernel
  refine ⟨merge_keyed_union _ [1] "whatsapp" customersResolved upload hres hkeyed, ?_⟩
  decide +kernel

end PerGo.L4.RecipientMerge

/-!
## Contacts that are not written to

`ResolveTagRecipients` (campaign.go:286-373) enters a contact it skips under an
identity of any channel, in the set in which it looks up the identities it can write to. A contact
met later with that number on the channel is then passed over without a recipient.

* `Represented`: a pending record and a recipient for an identity.
* `represented_iff`: every contact with an eligible identity is represented if and only if for each
  the first visited contact that stands for this identity has it on the channel.
* `shadowed`: a number known on Telegram first.
-/
namespace PerGo.L4.EligibleContacts

open PerGo.Core PerGo.L1 PerGo.L2 PerGo.L3.Campaign

/-- The identity has a pending record and is written to. -/
def Represented (res : TagResolutionResult) (identity : String) : Prop :=
  ∃ r ∈ res.records, r.phone = identity ∧ r.status = .pending ∧ ⟨r.phone, r.variables_⟩ ∈ res.recipients

/-- Of the contacts visited, the first that stands for the identity can be written to. -/
def FirstEligible (channelFilter : String) (contacts : List TagContact) (identity : String) : Prop :=
  ∃ d, ((visited contacts).find? fun d => identityOf channelFilter d = identity) = some d ∧
    ∃ i ∈ d.identities, eligible channelFilter i

section Resolution

variable {channelFilter : String} {contacts : List TagContact} {res : TagResolutionResult} {ids : List UUID}

theorem recordOf_pending {d : TagContact} :
    (recordOf channelFilter d).status = .pending ↔ ∃ i ∈ d.identities, eligible channelFilter i := by
  rw [← eligibleIdentity_ne_empty]
  unfold recordOf
  dsimp only
  split
  · rename_i h
    exact iff_of_true rfl h
  · rename_i h
    exact iff_of_false (by decide) h

theorem represented_iff_firstEligible (h : Resolved channelFilter contacts ⟨res, ids⟩) (identity : String) :
    Represented res identity ↔ FirstEligible channelFilter contacts identity := by
  have hrecords : res.records = (audience channelFilter contacts).map (recordOf channelFilter) := h.records
  have hphones : (res.records.map (·.phone)).Nodup := by
    rw [hrecords]
    exact audience_phones contacts
  have hfind := find?_audience channelFilter contacts identity
  rw [← hrecords] at hfind
  constructor
  · rintro ⟨r, hr, hphone, hpending, -⟩
    have hrow : (res.records.find? fun r => r.phone = identity) = some r := (find?_key_iff hphones).mpr ⟨hr, hphone⟩
    rw [hfind, Option.map_eq_some_iff] at hrow
    obtain ⟨d, hd, rfl⟩ := hrow
    exact ⟨d, hd, recordOf_pending.mp hpending⟩
  · rintro ⟨d, hd, heligible⟩
    rw [hd, Option.map_some] at hfind
    obtain ⟨hr, hphone⟩ := (find?_key_iff hphones).mp hfind
    have hpending := recordOf_pending.mpr heligible
    refine ⟨_, hr, hphone, hpending, ?_⟩
    rw [show res.recipients = pendingRecipients res.records from h.recipients]
    exact List.mem_map.mpr ⟨_, List.mem_filter.mpr ⟨hr, decide_eq_true hpending⟩, rfl⟩

end Resolution

/-- Every contact with an eligible identity is represented by the first of them exactly when no contact without one
comes first with that identity. -/
theorem represented_iff (lister : Option (UUID → Except GoError (List TagContact))) (tagIDs : List UUID)
    (channelFilter : String) (res : TagResolutionResult)
    (hres : resolveTagRecipients lister tagIDs channelFilter = .ok res) :
    (∀ c ∈ listedContacts lister tagIDs, ∀ i, c.identities.find? (eligible channelFilter) = some i →
        Represented res (address i)) ↔
      ∀ c ∈ listedContacts lister tagIDs, ∀ i, c.identities.find? (eligible channelFilter) = some i →
        FirstEligible channelFilter (listedContacts lister tagIDs) (address i) := by
  obtain ⟨ids, hresolved⟩ := resolved_of_ok hres
  have hiff : ∀ i, Represented res (address i) ↔
      FirstEligible channelFilter (listedContacts lister tagIDs) (address i) :=
    fun i => represented_iff_firstEligible hresolved (address i)
  simp only [hiff]

/-! ## One number, two contacts -/

def onWhatsApp : TagContact := ⟨11, "Ana", none, [], [⟨"whatsapp", "+55 11 99999-0000"⟩]⟩

/-- The number is only known as a name on Telegram. -/
def onTelegram : TagContact := ⟨12, "Bia", none, [], [⟨"telegram", "5511999990000"⟩]⟩

def resolution (contacts : List TagContact) : Except GoError TagResolutionResult :=
  resolveTagRecipients (some fun _ => .ok contacts) [1] "whatsapp"

/-- When the contact that can be written to comes first, it is. -/
theorem whatsapp_first :
    ∃ res, resolution [onWhatsApp, onTelegram] = .ok res ∧
      ∀ c ∈ listedContacts (some fun _ => .ok [onWhatsApp, onTelegram]) [1], ∀ i,
        c.identities.find? (eligible "whatsapp") = some i → Represented res (address i) := by
  have hres : resolution [onWhatsApp, onTelegram] =
      .ok ⟨[⟨some 11, "5511999990000", [("name", "Ana")], .pending, none⟩],
        [⟨"5511999990000", [("name", "Ana")]⟩], ["5511999990000"]⟩ := by
    decide +kernel
  refine ⟨_, hres, (represented_iff _ [1] "whatsapp" _ hres).mpr ?_⟩
  have hlisted : listedContacts (some fun _ => .ok [onWhatsApp, onTelegram]) [1] = [onWhatsApp, onTelegram] := by
    decide +kernel
  rw [hlisted]
  intro c hc i hi
  rcases List.mem_pair.mp hc with rfl | rfl
  · have hfound : onWhatsApp.identities.find? (eligible "whatsapp") = some ⟨"whatsapp", "+55 11 99999-0000"⟩ := by
      decide +kernel
    obtain rfl := Option.some.inj (hfound.symm.trans hi)
    refine ⟨onWhatsApp, by decide +kernel, ⟨"whatsapp", "+55 11 99999-0000"⟩, ?_, by decide +kernel⟩
    exact List.mem_singleton_self _
  · have hnone : onTelegram.identities.find? (eligible "whatsapp") = none := by decide +kernel
    rw [hnone] at hi
    cases hi

/-- When the other comes first, nobody is. -/
theorem shadowed :
    ∃ res, resolution [onTelegram, onWhatsApp] = .ok res ∧ res.recipients = [] ∧
      ¬ ∀ c ∈ listedContacts (some fun _ => .ok [onTelegram, onWhatsApp]) [1], ∀ i,
        c.identities.find? (eligible "whatsapp") = some i → Represented res (address i) := by
  have hres : resolution [onTelegram, onWhatsApp] =
      .ok ⟨[⟨some 12, "5511999990000", [("name", "Bia")], .skipped, none⟩], [], ["5511999990000"]⟩ := by
    decide +kernel
  refine ⟨_, hres, rfl, fun hall => ?_⟩
  have hlisted : listedContacts (some fun _ => .ok [onTelegram, onWhatsApp]) [1] = [onTelegram, onWhatsApp] := by
    decide +kernel
  rw [hlisted] at hall
  have hfound : onWhatsApp.identities.find? (eligible "whatsapp") = some ⟨"whatsapp", "+55 11 99999-0000"⟩ := by
    decide +kernel
  obtain ⟨r, -, -, -, hrec⟩ := hall onWhatsApp (by simp) _ hfound
  cases hrec

end PerGo.L4.EligibleContacts
