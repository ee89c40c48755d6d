import PerGo.L3Campaign.Audience
import PerGo.L3Campaign.UploadCSV

/-!
# Personalised texts

A text is personalised for a recipient when every placeholder whose name is a key of the recipient's
variables, letter case aside, has become the value, and nothing else has changed.

`ResolveVariables` looks the lower-cased name up. The rows of an uploaded file have their headers
lower-cased (admin/campaign.go:271-276); a contact's attributes keep the case they
were given (domain/campaign.go:326-330).

* `text_personalised_iff`: with any variables the text is personalised exactly when each name with an equal
  key is, lower-cased, a key itself (or the value is the placeholder over again).
* `personalised_iff`: so for what a contact resolved from a tag brings along; for an uploaded row always.
* `city_unresolved`: an attribute `City` is never found.
-/
namespace PerGo.L4.Personalisation

open PerGo.Core PerGo.L1 PerGo.L2 PerGo.L3.Campaign

section Text

variable (casing : Casing) (vars : StrMap)

def lookedUp (inner : List Char) : String := casing.toLower (trimSpace (String.ofList inner))

/-- The name in the placeholder is the key, letter case aside. -/
def Names (inner : List Char) (k : String) : Prop := casing.toLower k = lookedUp casing inner

inductive Replaced (inner text : List Char) : Prop
  | value (k v : String) (entry : vars.lookup k = some v) (names : Names casing inner k) (text_eq : text = v.toList)
  | unknown (unnamed : ∀ k v, vars.lookup k = some v → ¬ Names casing inner k)
      (text_eq : text = (Segment.placeholder inner).source)

structure Personalised (input : String) : Prop where
  /-- The text is gone through once: values are written as they are, the characters in between stay. -/
  once : ∀ segs, Scan input.toList segs → resolveVariables casing vars input =
    String.ofList (segs.flatMap fun | .char c => [c] | .placeholder inner => replacement casing vars inner)
  replaced : ∀ segs, Scan input.toList segs → ∀ inner, .placeholder inner ∈ segs →
    Replaced casing vars inner (replacement casing vars inner)

/-- A key that the name is equal to can be found, or the value would not show. -/
def Found (inner : List Char) : Prop :=
  ∀ k v, vars.lookup k = some v → Names casing inner k →
    (vars.lookup (lookedUp casing inner)).isSome ∨
      ∃ k' v', vars.lookup k' = some v' ∧ Names casing inner k' ∧ (Segment.placeholder inner).source = v'.toList

end Text

variable {casing : Casing} {vars : StrMap}

theorem replacement_of_some {inner : List Char} {v : String} (h : vars.lookup (lookedUp casing inner) = some v) :
    replacement casing vars inner = v.toList := by
  unfold replacement
  rw [show vars.lookup (casing.toLower (trimSpace (String.ofList inner))) = some v from h]

theorem replacement_of_none {inner : List Char} (h : vars.lookup (lookedUp casing inner) = none) :
    replacement casing vars inner = (Segment.placeholder inner).source := by
  unfold replacement
  rw [show vars.lookup (casing.toLower (trimSpace (String.ofList inner))) = none from h]

theorem names_lookedUp (inner : List Char) : Names casing inner (lookedUp casing inner) :=
  casing.toLower_toLower _

theorem replaced_iff (inner : List Char) :
    Replaced casing vars inner (replacement casing vars inner) ↔ Found casing vars inner := by
  cases hlookup : vars.lookup (lookedUp casing inner) with
  | some v =>
    have hsome : (vars.lookup (lookedUp casing inner)).isSome := by rw [hlookup]; rfl
    exact iff_of_true (.value _ v hlookup (names_lookedUp inner) (replacement_of_some hlookup))
      fun _ _ _ _ => Or.inl hsome
  | none =>
    have hnone : ¬ (vars.lookup (lookedUp casing inner)).isSome := by simp [hlookup]
    rw [replacement_of_none hlookup]
    constructor
    · intro h k v hentry hnames
      cases h with
      | value k' v' hentry' hnames' heq => exact Or.inr ⟨k', v', hentry', hnames', heq⟩
      | unknown hunnamed _ => exact absurd hnames (hunnamed k v hentry)
    · intro h
      by_cases hany : ∃ k v, vars.lookup k = some v ∧ Names casing inner k
      · obtain ⟨k, v, hentry, hnames⟩ := hany
        obtain ⟨k', v', hentry', hnames', heq⟩ := (h k v hentry hnames).resolve_left hnone
        exact .value k' v' hentry' hnames' heq
      · exact .unknown (fun k v hentry hnames => hany ⟨k, v, hentry, hnames⟩) rfl

theorem resolveVariables_once {input : String} {segs : List Segment} (h : Scan input.toList segs) :
    resolveVariables casing vars input =
      String.ofList (segs.flatMap fun | .char c => [c] | .placeholder inner => replacement casing vars inner) := by
  obtain rfl := h.unique (segments_scan input)
  have hpiece : Segment.resolved casing vars =
      fun | .char c => [c] | .placeholder inner => replacement casing vars inner := by
    funext seg
    cases seg with
    | char c => rfl
    | placeholder inner => rfl
  rw [resolveVariables, hpiece]

theorem text_personalised_iff (casing : Casing) (vars : StrMap) (input : String) :
    Personalised casing vars input ↔ ∀ inner, .placeholder inner ∈ segments input → Found casing vars inner := by
  constructor
  · intro h inner hinner
    exact (replaced_iff inner).mp (h.replaced _ (segments_scan input) inner hinner)
  · intro h
    refine ⟨fun _ => resolveVariables_once, ?_⟩
    intro segs hscan inner hinner
    obtain rfl := hscan.unique (segments_scan input)
    exact (replaced_iff inner).mpr (h inner hinner)

/-- No key has a capital letter. -/
def LoweredKeys (casing : Casing) (vars : StrMap) : Prop := ∀ k v, vars.lookup k = some v → casing.Lowered k

theorem found_of_lowered (h : LoweredKeys casing vars) (inner : List Char) : Found casing vars inner := by
  intro k v hentry hnames
  have hkey : lookedUp casing inner = k := by
    rw [← show casing.toLower k = lookedUp casing inner from hnames]
    exact h k v hentry
  rw [hkey, hentry]
  exact Or.inl rfl

/-! ## Uploaded rows -/

theorem loweredKeys_setVariable (h : LoweredKeys casing vars) {key value : String} (hkey : casing.Lowered key) :
    LoweredKeys casing (setVariable vars key value) := by
  intro k v hentry
  have hlookup : (setVariable vars key value).lookup k = if k = key then some value else vars.lookup k :=
    Assoc.lookup_setKey vars key k value
  rw [hlookup] at hentry
  split at hentry
  · rename_i heq
    rw [heq]
    exact hkey
  · exact h k v hentry

theorem loweredKeys_setColumn (rawHeaders : List String) (h : LoweredKeys casing vars) (column : String × Nat) :
    LoweredKeys casing (setColumn (csvHeaders casing rawHeaders) vars column) := by
  refine loweredKeys_setVariable ?_ (casing.lowered_index column.2)
  split
  · rename_i header hheader
    have hmem := List.mem_of_getElem? hheader
    obtain ⟨raw, -, rfl⟩ := List.mem_map.mp hmem
    exact loweredKeys_setVariable h (casing.lowered_trimSpace raw)
  · exact h

theorem loweredKeys_columns (rawHeaders : List String) (columns : List (String × Nat)) (h : LoweredKeys casing vars) :
    LoweredKeys casing (columns.foldl (setColumn (csvHeaders casing rawHeaders)) vars) := by
  induction columns generalizing vars with
  | nil => exact h
  | cons column columns ih => exact ih (loweredKeys_setColumn rawHeaders h column)

theorem uploaded_variables {pick : Nat} {text : List Char} {preview : Preview}
    (h : uploadCSV casing pick text = .ok preview) {r : CampaignRecipient} (hr : r ∈ preview.recipients) :
    ∃ row, r.variables_ = rowVariables casing preview.rawHeaders row := by
  unfold uploadCSV at h
  split at h
  · cases h
  · unfold uploadWith at h
    split at h
    · cases h
    · cases h
    · rename_i rawHeaders rows _
      cases h
      dsimp only [processRows] at hr ⊢
      rw [(processRows_spec _ _ _).recipients, List.nil_append] at hr
      obtain ⟨line, -, rfl⟩ := List.mem_map.mp hr
      exact ⟨_, rfl⟩

/-! ## Contacts -/

theorem recipient_variables {lister : Option (UUID → Except GoError (List TagContact))} {tagIDs : List UUID}
    {channelFilter : String} {res : TagResolutionResult}
    (h : resolveTagRecipients lister tagIDs channelFilter = .ok res) {r : CampaignRecipient} (hr : r ∈ res.recipients) :
    ∃ c ∈ listedContacts lister tagIDs, r.variables_ = contactVariables c := by
  obtain ⟨ids, hres⟩ := resolved_of_ok h
  rw [show res.recipients = pendingRecipients res.records from hres.recipients] at hr
  obtain ⟨record, hrecord, rfl⟩ := List.mem_map.mp hr
  have hmem := (List.mem_filter.mp hrecord).1
  rw [show res.records = _ from hres.records] at hmem
  obtain ⟨c, hc, rfl⟩ := List.mem_map.mp hmem
  exact ⟨c, mem_of_mem_firstBy (mem_of_mem_firstBy hc), rfl⟩

/-- **A text is personalised** for a recipient resolved from a tag exactly when no placeholder misses a key of its
contact, and for every recipient of an uploaded file. -/
theorem personalised_iff (casing : Casing) (input : String) :
    (∀ lister tagIDs channelFilter res, resolveTagRecipients lister tagIDs channelFilter = .ok res →
      ∀ r ∈ res.recipients, ∃ c ∈ listedContacts lister tagIDs, r.variables_ = contactVariables c ∧
        (Personalised casing r.variables_ input ↔
          ∀ inner, .placeholder inner ∈ segments input → Found casing (contactVariables c) inner)) ∧
    ∀ pick text preview, uploadCSV casing pick text = .ok preview →
      ∀ r ∈ preview.recipients, Personalised casing r.variables_ input := by
  constructor
  · intro lister tagIDs channelFilter res h r hr
    obtain ⟨c, hc, hvars⟩ := recipient_variables h hr
    exact ⟨c, hc, hvars, hvars ▸ text_personalised_iff casing _ input⟩
  · intro pick text preview h r hr
    obtain ⟨row, hvars⟩ := uploaded_variables h hr
    rw [hvars]
    exact (text_personalised_iff casing _ input).mpr fun inner _ =>
      found_of_lowered (loweredKeys_columns _ row.zipIdx fun k v hentry => by cases hentry) inner

/-! ## An attribute with a capital letter -/

def ana : TagContact := ⟨11, "Ana", none, [("City", "Lisboa")], [⟨"whatsapp", "+55 11 99999-0000"⟩]⟩

def greeting : String := "Oi \x7b\x7bname\x7d\x7d de \x7b\x7b City \x7d\x7d"

/-- The name is filled in, the city is not. -/
theorem city_unresolved :
    ∃ res, resolveTagRecipients (some fun _ => .ok [ana]) [1] "whatsapp" = .ok res ∧
      ∃ r ∈ res.recipients,
        resolveVariables latinCasing r.variables_ greeting = "Oi Ana de \x7b\x7b City \x7d\x7d" ∧
        ¬ Personalised latinCasing r.variables_ greeting := by
  have hres : resolveTagRecipients (some fun _ => .ok [ana]) [1] "whatsapp" =
      .ok ⟨[⟨some 11, "5511999990000", [("City", "Lisboa"), ("name", "Ana")], .pending, none⟩],
        [⟨"5511999990000", [("City", "Lisboa"), ("name", "Ana")]⟩], ["5511999990000"]⟩ := by
    decide +kernel
  refine ⟨_, hres, _, List.mem_singleton_self _, by decide +kernel, ?_⟩
  intro h
  have hinner : Segment.placeholder " City ".toList ∈ segments greeting := by decide +kernel
  cases h.replaced _ (segments_scan greeting) _ hinner with
  | value k v hentry _ heq =>
    have hmem : (k, v) ∈ [("City", "Lisboa"), ("name", "Ana")] := Assoc.mem_of_lookup hentry
    rcases List.mem_pair.mp hmem with hkv | hkv
    · cases hkv
      exact absurd heq (by decide +kernel)
    · cases hkv
      exact absurd heq (by decide +kernel)
  | unknown hunnamed _ =>
    have hcity : Names latinCasing " City ".toList "City" := by
      unfold Names
      decide +kernel
    exact hunnamed "City" "Lisboa" (by decide +kernel) hcity

end PerGo.L4.Personalisation
