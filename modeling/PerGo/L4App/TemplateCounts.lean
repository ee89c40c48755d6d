import Mathlib.Data.List.Dedup
import PerGo.Core.Fallible
import PerGo.L3Outbound.TemplateParams

/-!
# The count check of template parameters

`CountTemplateVariables` writes one number for each of header, body and button,
`ValidateParameterCounts` one for each type of provided component, and compares the two for
the kinds that the definition has variables of; what is provided of another kind is ignored.
A number is written over when a type comes twice, so the check says what it means for a
definition and components in which no kind is repeated.

* `accepted_iff`: then the check passes exactly when each kind with variables gets as many
  parameters.
-/
namespace PerGo.L4.TemplateCounts

open PerGo.Core PerGo.L1 PerGo.L2 PerGo.L3.Outbound

/-! ## What is counted -/

inductive Kind
  | header
  | body
  | button
deriving DecidableEq

/-- The type of a provided component, and the key it is counted under. -/
def Kind.name : Kind → String
  | .header => "header"
  | .body => "body"
  | .button => "button"

def Kind.defined : Kind → String
  | .header => "header"
  | .body => "body"
  | .button => "buttons"

def components : RawComponents → List Json
  | .document (.arr parsed) => parsed
  | _ => []

def isDefined (k : Kind) : Json → Bool
  | .obj kvs => match mapField kvs "type" with
    | .str type => toLower type = k.defined
    | _ => false
  | _ => false

def placeholdersOf : Json → List String
  | .obj kvs => match mapField kvs "text" with
    | .str text => templateVars text
    | _ => []
  | _ => []

def variableButtons : Json → List Json
  | .obj kvs => match mapField kvs "buttons" with
    | .arr buttons => buttons.filter isVariableButton
    | _ => []
  | _ => []

/-- How many variables components have of a kind: the distinct placeholders of their texts, or their URL buttons with a
placeholder. -/
def countIn (k : Kind) (own : List Json) : Nat :=
  match k with
  | .button => (own.flatMap variableButtons).length
  | _ => (own.flatMap placeholdersOf).dedup.length

def variableCount (definition : RawComponents) (k : Kind) : Nat :=
  countIn k ((components definition).filter (isDefined k))

def parameterCount (c : TemplateComponent) : Nat :=
  match c.parameters with
  | .params ps => (ps.getD []).length
  | _ => 0

def isProvided (k : Kind) (c : TemplateComponent) : Bool := toLower c.type = k.name

/-- How many parameters are provided of a kind, over all its components. -/
def total (provided : List TemplateComponent) (k : Kind) : Nat :=
  ((provided.filter (isProvided k)).map parameterCount).sum

/-- As `NormalizeTemplateParams` leaves them. -/
def Normalized (provided : List TemplateComponent) : Prop := ∀ c ∈ provided, ∃ ps, c.parameters = .params ps

/-- No kind is defined twice. -/
def OnceDefined (definition : RawComponents) : Prop := ∀ k, ((components definition).filter (isDefined k)).length ≤ 1

/-- No kind is provided twice. -/
def OnceProvided (provided : List TemplateComponent) : Prop := ∀ k, (provided.filter (isProvided k)).length ≤ 1

/-! ## Maps of counts -/

theorem lookup_overwrite (m : List (String × Nat)) (k k' : String) (n : Nat) :
    (m.map fun e => if e.1 = k then (k, n) else e).lookup k' =
      if k' = k then (m.lookup k).map fun _ => n else m.lookup k' := by
  induction m with
  | nil => simp
  | cons e m ih =>
    obtain ⟨k₀, n₀⟩ := e
    rw [List.map_cons, List.lookup_cons, List.lookup_cons, List.lookup_cons, ih]
    by_cases h₀ : k₀ = k
    · subst h₀
      by_cases hk : k' = k₀
      · simp [hk]
      · have hne : (k' == k₀) = false := by simp [hk]
        simp [hk, hne]
    · have hne₀ : (k == k₀) = false := by simp [Ne.symm h₀]
      by_cases hk : k' = k₀
      · have hne : k' ≠ k := by rw [hk]; exact h₀
        simp [hk, h₀]
      · have hne : (k' == k₀) = false := by simp [hk]
        simp [h₀, hne, hne₀]

theorem lookup_setCount (m : List (String × Nat)) (k k' : String) (n : Nat) :
    (setCount m k n).lookup k' = if k' = k then some n else m.lookup k' := by
  have hmem : m.any (·.1 = k) = true ↔ m.lookup k ≠ none := by
    rw [Ne, List.lookup_eq_none_iff, List.any_eq_true]
    constructor
    · intro ⟨e, he, heq⟩ hnone
      have hne := hnone e he
      rw [of_decide_eq_true heq] at hne
      simp at hne
    · intro hsome
      simp only [not_forall] at hsome
      obtain ⟨e, he, heq⟩ := hsome
      have hk : k = e.1 := by simpa using heq
      exact ⟨e, he, decide_eq_true hk.symm⟩
  unfold setCount
  split
  · rename_i hany
    rw [lookup_overwrite]
    obtain ⟨v, hv⟩ := Option.ne_none_iff_exists'.mp (hmem.mp hany)
    simp [hv]
  · rename_i hany
    have hnone : m.lookup k = none := not_not.mp fun h => hany (hmem.mpr h)
    rw [List.lookup_append]
    by_cases hk : k' = k
    · simp [hk, hnone]
    · have hne : (k' == k) = false := by simp [hk]
      simp [hk, hne, List.lookup_cons]

theorem keyed_setCount {m : List (String × Nat)} (h : Assoc.Keyed m) (k : String) (n : Nat) :
    Assoc.Keyed (setCount m k n) := by
  unfold setCount
  split
  · have hkeys : (m.map fun e => if e.1 = k then (k, n) else e).map (·.1) = m.map (·.1) := by
      rw [List.map_map]
      apply List.map_congr_left
      intro e _
      by_cases he : e.1 = k
      · simp [he]
      · simp [he]
    unfold Assoc.Keyed
    rw [hkeys]
    exact h
  · rename_i hany
    have hnew : k ∉ m.map (·.1) := by
      intro hmem
      obtain ⟨e, he, heq⟩ := List.mem_map.mp hmem
      exact hany (List.any_eq_true.mpr ⟨e, he, by simpa using heq⟩)
    show (List.map (·.1) (m ++ [(k, n)])).Nodup
    rw [List.map_append, List.nodup_append]
    refine ⟨h, by simp, ?_⟩
    intro a ha b hb heq
    obtain rfl := List.mem_singleton.mp hb
    exact hnew (heq ▸ ha)

/-! ## What one component writes -/

theorem name_injective {k k' : Kind} (h : k.name = k'.name) : k = k' := by
  cases k <;> cases k' <;> first | rfl | exact absurd h (by simp [Kind.name])

theorem defined_injective {k k' : Kind} (h : k.defined = k'.defined) : k = k' := by
  cases k <;> cases k' <;> first | rfl | exact absurd h (by simp [Kind.defined])

theorem isDefined_type {k : Kind} {kvs : List (String × Json)} (h : isDefined k (.obj kvs) = true) :
    ∃ type, mapField kvs "type" = .str type ∧ toLower type = k.defined := by
  unfold isDefined at h
  cases htype : mapField kvs "type" with
  | str type =>
    simp only [htype, decide_eq_true_eq] at h
    exact ⟨type, rfl, h⟩
  | _ => simp [htype] at h

theorem isDefined_unique {k k' : Kind} {c : Json} (h : isDefined k c = true) (h' : isDefined k' c = true) : k = k' := by
  cases c with
  | obj kvs =>
    obtain ⟨type, htype, hk⟩ := isDefined_type h
    obtain ⟨type', htype', hk'⟩ := isDefined_type h'
    obtain rfl : type = type' := Json.str.inj (htype.symm.trans htype')
    exact defined_injective (hk.symm.trans hk')
  | _ => cases h

theorem expectedOf_of_isDefined {k : Kind} {kvs : List (String × Json)} (h : isDefined k (.obj kvs) = true) :
    expectedOf kvs = if 0 < countIn k [.obj kvs] then some (k.name, countIn k [.obj kvs]) else none := by
  obtain ⟨type, htype, hk⟩ := isDefined_type h
  cases k with
  | header | body =>
    simp only [Kind.defined] at hk
    simp only [expectedOf, htype, hk, countIn, List.flatMap_singleton, placeholdersOf, Kind.name]
    cases mapField kvs "text" <;> simp [List.dedup_nil]
  | button =>
    simp only [Kind.defined] at hk
    simp only [expectedOf, htype, hk, countIn, List.flatMap_singleton, variableButtons, Kind.name]
    cases mapField kvs "buttons" <;> simp [List.countP_eq_length_filter]

theorem expectedOf_of_not_isDefined {kvs : List (String × Json)} (h : ∀ k, isDefined k (.obj kvs) = false) :
    expectedOf kvs = none := by
  unfold expectedOf
  cases htype : mapField kvs "type" with
  | str type =>
    have hne : ∀ k : Kind, toLower type ≠ k.defined := by
      intro k heq
      have := h k
      simp [isDefined, htype, heq] at this
    have hheader := hne .header
    have hbody := hne .body
    have hbutton := hne .button
    simp only [Kind.defined] at hheader hbody hbutton
    simp [hheader, hbody, hbutton]
  | _ => rfl

theorem lookup_countComponent {m m' : List (String × Nat)} {c : Json} (h : countComponent m c = some m') (k : Kind) :
    m'.lookup k.name =
      if isDefined k c = true ∧ 0 < countIn k [c] then some (countIn k [c]) else m.lookup k.name := by
  cases c with
  | null =>
    cases h
    rfl
  | obj kvs =>
    by_cases hkind : ∃ k₀, isDefined k₀ (.obj kvs) = true
    · obtain ⟨k₀, hk₀⟩ := hkind
      simp only [countComponent, expectedOf_of_isDefined hk₀, Option.some.injEq] at h
      by_cases hpos : 0 < countIn k₀ [.obj kvs]
      · rw [if_pos hpos] at h
        rw [← h, lookup_setCount]
        by_cases hk : k = k₀
        · rw [hk, if_pos rfl, if_pos ⟨hk₀, hpos⟩]
        · rw [if_neg fun hname => hk (name_injective hname), if_neg fun hdef => hk (isDefined_unique hdef.1 hk₀)]
      · rw [if_neg hpos] at h
        rw [← h]
        by_cases hk : k = k₀
        · rw [hk, if_neg fun hdef => hpos hdef.2]
        · rw [if_neg fun hdef => hk (isDefined_unique hdef.1 hk₀)]
    · have hnone : ∀ k, isDefined k (.obj kvs) = false := fun k => by
        simpa using fun hk => hkind ⟨k, hk⟩
      simp only [countComponent, expectedOf_of_not_isDefined hnone, Option.some.injEq] at h
      rw [← h, hnone k]
      simp
  | _ => cases h

theorem countComponent_keyed {m m' : List (String × Nat)} {c : Json} (h : countComponent m c = some m')
    (hm : Assoc.Keyed m ∧ ∀ e ∈ m, ∃ k : Kind, e.1 = k.name) :
    Assoc.Keyed m' ∧ ∀ e ∈ m', ∃ k : Kind, e.1 = k.name := by
  cases c with
  | null =>
    cases h
    exact hm
  | obj kvs =>
    by_cases hkind : ∃ k₀, isDefined k₀ (.obj kvs) = true ∧ 0 < countIn k₀ [.obj kvs]
    · obtain ⟨k₀, hk₀, hpos⟩ := hkind
      simp only [countComponent, expectedOf_of_isDefined hk₀, if_pos hpos, Option.some.injEq] at h
      subst h
      refine ⟨keyed_setCount hm.1 _ _, ?_⟩
      intro e he
      unfold setCount at he
      split at he
      · obtain ⟨e₀, he₀, rfl⟩ := List.mem_map.mp he
        by_cases heq : e₀.1 = k₀.name
        · exact ⟨k₀, by rw [if_pos heq]⟩
        · rw [if_neg heq]
          exact hm.2 e₀ he₀
      · rcases List.mem_append.mp he with he | he
        · exact hm.2 e he
        · exact ⟨k₀, by rw [List.mem_singleton.mp he]⟩
    · have hnone : expectedOf kvs = none := by
        by_cases hdef : ∃ k₀, isDefined k₀ (.obj kvs) = true
        · obtain ⟨k₀, hk₀⟩ := hdef
          rw [expectedOf_of_isDefined hk₀, if_neg fun hpos => hkind ⟨k₀, hk₀, hpos⟩]
        · exact expectedOf_of_not_isDefined fun k => by simpa using fun hk => hdef ⟨k, hk⟩
      simp only [countComponent, hnone, Option.some.injEq] at h
      exact h ▸ hm
  | _ => cases h

/-! ## The two maps -/

theorem foldlM_countComponent_keyed {l : List Json} {m m' : List (String × Nat)} (h : l.foldlM countComponent m = some m')
    (hm : Assoc.Keyed m ∧ ∀ e ∈ m, ∃ k : Kind, e.1 = k.name) :
    Assoc.Keyed m' ∧ ∀ e ∈ m', ∃ k : Kind, e.1 = k.name := by
  induction l generalizing m with
  | nil =>
    cases h
    exact hm
  | cons c l ih =>
    rw [List.foldlM_cons] at h
    obtain ⟨m₁, hstep, hrest⟩ := Option.bind_eq_some_iff.mp h
    exact ih hrest (countComponent_keyed hstep hm)

theorem countIn_nil (k : Kind) : countIn k [] = 0 := by cases k <;> rfl

section Expected

variable {definition : RawComponents} {expected : List (String × Nat)}

theorem countTemplateVariables_some (h : countTemplateVariables definition = some expected) :
    (components definition).foldlM countComponent [] = some expected := by
  cases definition with
  | empty => exact h
  | invalid => cases h
  | document json =>
    cases json with
    | null => exact h
    | arr parsed => exact h
    | _ => cases h

theorem expected_keyed (h : countTemplateVariables definition = some expected) :
    Assoc.Keyed expected ∧ ∀ e ∈ expected, ∃ k : Kind, e.1 = k.name :=
  foldlM_countComponent_keyed (countTemplateVariables_some h) ⟨List.nodup_nil, fun _ he => by cases he⟩

theorem lookup_expected (h : countTemplateVariables definition = some expected) (hdef : OnceDefined definition)
    (k : Kind) :
    expected.lookup k.name = if 0 < variableCount definition k then some (variableCount definition k) else none := by
  have hrun := countTemplateVariables_some h
  have hframe : ∀ m c m', countComponent m c = some m' → isDefined k c = false →
      m'.lookup k.name = m.lookup k.name := by
    intro m c m' hstep hc
    rw [lookup_countComponent hstep, if_neg (by simp [hc])]
  unfold variableCount
  match hown : (components definition).filter (isDefined k), hdef k with
  | [], _ =>
    rw [foldlM_frame (fun m => m.lookup k.name) hframe hrun hown, countIn_nil]
    rfl
  | [c], _ =>
    obtain ⟨m₁, m₂, hbefore, hstep, hafter⟩ := foldlM_once (fun m => m.lookup k.name) hframe hrun hown
    have hc : isDefined k c = true := List.of_mem_filter (hown ▸ List.mem_singleton.mpr rfl : c ∈ _)
    rw [hafter, lookup_countComponent hstep, hbefore]
    simp [hc]
  | _ :: _ :: _, hle => simp at hle

end Expected

section Provided

variable {provided : List TemplateComponent}

theorem providedCounts_eq (h : Normalized provided) :
    providedCounts provided = provided.foldl (fun m c => setCount m (toLower c.type) (parameterCount c)) [] := by
  apply List.foldl_ext
  intro m c hc
  obtain ⟨ps, hps⟩ := h c hc
  rw [parameterCount, hps]

theorem lookup_providedCounts (h : Normalized provided) (hprov : OnceProvided provided) (k : Kind) :
    ((providedCounts provided).lookup k.name).getD 0 = total provided k := by
  have hframe : ∀ (m : List (String × Nat)) (c : TemplateComponent), isProvided k c = false →
      (setCount m (toLower c.type) (parameterCount c)).lookup k.name = m.lookup k.name := by
    intro m c hc
    rw [lookup_setCount, if_neg]
    intro hname
    simp [isProvided, hname] at hc
  rw [providedCounts_eq h]
  unfold total
  match hown : provided.filter (isProvided k), hprov k with
  | [], _ =>
    rw [foldl_frame (fun m => m.lookup k.name) hframe [] hown]
    rfl
  | [c], _ =>
    obtain ⟨m, -, hread⟩ := foldl_once (fun m => m.lookup k.name) hframe [] hown
    have hc : isProvided k c = true := List.of_mem_filter (hown ▸ List.mem_singleton.mpr rfl : c ∈ _)
    have hname : toLower c.type = k.name := of_decide_eq_true hc
    rw [hread, lookup_setCount, if_pos hname.symm]
    simp
  | _ :: _ :: _, hle => simp at hle

end Provided

/-! ## The check -/

theorem validateParameterCounts_none {provided : List TemplateComponent} {expected : List (String × Nat)} :
    validateParameterCounts provided expected = none ↔
      ∀ e ∈ expected, ((providedCounts provided).lookup e.1).getD 0 = e.2 := by
  unfold validateParameterCounts
  rw [List.findSome?_eq_none_iff]
  refine forall₂_congr fun e _ => ?_
  simp only [ite_eq_left_iff, reduceCtorEq, imp_false, not_not]

/-- The check passes exactly when each kind with variables gets as many parameters. -/
theorem accepted_iff {definition : RawComponents} {expected : List (String × Nat)} {provided : List TemplateComponent}
    (hcount : countTemplateVariables definition = some expected) (hnorm : Normalized provided)
    (hdef : OnceDefined definition) (hprov : OnceProvided provided) :
    validateParameterCounts provided expected = none ↔
      ∀ k, 0 < variableCount definition k → total provided k = variableCount definition k := by
  obtain ⟨hkeyed, hnames⟩ := expected_keyed hcount
  rw [validateParameterCounts_none]
  constructor
  · intro h k hpos
    have hlookup := lookup_expected hcount hdef k
    rw [if_pos hpos] at hlookup
    have := h _ ((Assoc.lookup_eq_some_iff hkeyed).mp hlookup)
    rwa [lookup_providedCounts hnorm hprov] at this
  · intro h e he
    obtain ⟨k, hk⟩ := hnames e he
    have hlookup : expected.lookup k.name = some e.2 := (Assoc.lookup_eq_some_iff hkeyed).mpr (hk ▸ he)
    rw [lookup_expected hcount hdef] at hlookup
    rw [hk, lookup_providedCounts hnorm hprov]
    by_cases hpos : 0 < variableCount definition k
    · rw [if_pos hpos] at hlookup
      rw [h k hpos, Option.some.inj hlookup]
    · rw [if_neg hpos] at hlookup
      cases hlookup

/-! ## Samples -/

def textComponent (type text : String) : Json := .obj [("type", .str type), ("text", .str text)]

def one : String := "\x7b\x7b1\x7d\x7d"

def greeting : RawComponents := .document (.arr [textComponent "BODY" one])

def links : RawComponents :=
  let urlButton : Json := .obj [("type", .str "URL"), ("url", .str one)]
  .document (.arr [.obj [("type", .str "BUTTONS"), ("buttons", .arr [urlButton, urlButton])]])

/-- Two bodies, the second with fewer variables. -/
def bodies : RawComponents :=
  .document (.arr [textComponent "BODY" "\x7b\x7b1\x7d\x7d\x7b\x7b2\x7d\x7d", textComponent "BODY" one])

/-- A component with `n` parameters. -/
def component (type : String) (n : Nat) : TemplateComponent := ⟨type, .params (some (List.replicate n ⟨"text", "a"⟩))⟩

theorem normalized_components (l : List (String × Nat)) : Normalized (l.map fun c => component c.1 c.2) := by
  intro c hc
  obtain ⟨e, -, rfl⟩ := List.mem_map.mp hc
  exact ⟨_, rfl⟩

theorem greeting_accepted : validateParameterCounts [component "BODY" 1] [("body", 1)] = none := by
  have h := @accepted_iff greeting [("body", 1)] [component "BODY" 1] (by decide +kernel)
    (normalized_components [("BODY", 1)]) (by intro k; cases k <;> decide +kernel)
    (by intro k; cases k <;> decide +kernel)
  exact h.mpr (by intro k; cases k <;> decide +kernel)

/-- The check says what it is for. -/
def Exact (definition : RawComponents) (provided : List TemplateComponent) : Prop :=
  ∀ expected, countTemplateVariables definition = some expected →
    (validateParameterCounts provided expected = none ↔ ∀ k, total provided k = variableCount definition k)

/-- A header that the definition does not have, a component for each of two buttons, and a definition with two
bodies. -/
theorem counts_diverge :
    (Normalized [component "BODY" 1, component "HEADER" 1] ∧ ¬ Exact greeting [component "BODY" 1, component "HEADER" 1]) ∧
    (Normalized [component "button" 1, component "button" 1] ∧
      ¬ Exact links [component "button" 1, component "button" 1]) ∧
    (Normalized [component "BODY" 2] ∧ ¬ Exact bodies [component "BODY" 2]) := by
  refine ⟨⟨normalized_components [("BODY", 1), ("HEADER", 1)], ?_⟩,
    ⟨normalized_components [("button", 1), ("button", 1)], ?_⟩, normalized_components [("BODY", 2)], ?_⟩
  · intro h
    have hcheck := (h [("body", 1)] (by decide +kernel)).mp (by decide +kernel)
    exact absurd (hcheck .header) (by decide +kernel)
  · intro h
    have hcheck := (h [("button", 2)] (by decide +kernel)).mpr (by intro k; cases k <;> decide +kernel)
    exact absurd hcheck (by decide +kernel)
  · intro h
    have hcheck := (h [("body", 1)] (by decide +kernel)).mpr (by intro k; cases k <;> decide +kernel)
    exact absurd hcheck (by decide +kernel)

end PerGo.L4.TemplateCounts
