import PerGo.L3Campaign.CreateForm

/-!
# Mapping the parameters of a template

The loop of `Create` writes the value of `waba_param_1` under "1", and reads "1" again for the parameters
behind it. The rows of an uploaded file have their columns under the same numbers.

Result: `simultaneous_iff`. Every recipient gets the values that the parameters have on its variables as
uploaded exactly when it has variables, and no parameter is another text for the values of those before it.
-/
namespace PerGo.L4.TemplateMapping

open PerGo.Core PerGo.L1 PerGo.L2 PerGo.L3.Campaign
open PerGo.Core.Assoc (valuesOn simultaneous sequential Undisturbed)

section Mapping

variable (casing : Casing) (form : Form)

structure MappedAtOnce (rec rec' : UploadedRecipient) : Prop where
  to_ : rec'.to_ = rec.to_
  values : ∀ i p, (params form)[i]? = some p → (rec'.variables_.getD []).lookup (formatInt (i + 1 : Nat)) =
    some (resolveVariables casing (rec.variables_.getD []) p)

/-- `Create` maps the parameters at once, for each recipient that it takes, and returns. -/
def Simultaneous (formTagIDs : List UUID) (recipients : List UploadedRecipient) : Prop :=
  match createRecipients casing form formTagIDs recipients with
  | .ok mapped => List.Forall₂ (MappedAtOnce casing form) recipients mapped
  | .error _ => True
  | .panic => False

/-- The variables as uploaded, and over them what the first `i` parameters are on these. -/
def mappedBefore (m : StrMap) (i : Nat) : StrMap :=
  mergeVariables m (valuesOn m (assignments casing 1 ((params form).take i)))

def ReadsUploaded (m : StrMap) : Prop :=
  ∀ i p, (params form)[i]? = some p →
    resolveVariables casing (mappedBefore casing form m i) p = resolveVariables casing m p

def Mappable (rec : UploadedRecipient) : Prop :=
  params form = [] ∨ ∃ m, rec.variables_ = some m ∧ ReadsUploaded casing form m

/-- Without a template nothing is mapped, and the values are there or not. -/
def AlreadyMapped (rec : UploadedRecipient) : Prop := MappedAtOnce casing form rec rec

end Mapping

variable {casing : Casing} {form : Form}

/-- The loop writes the values exactly when the assignments do not disturb each other. -/
theorem sequential_iff (casing : Casing) (form : Form) (m : StrMap) :
    (∀ i p, (params form)[i]? = some p →
      (sequential m (assignments casing 1 (params form))).lookup (formatInt (i + 1 : Nat)) =
        some (resolveVariables casing m p)) ↔ ReadsUploaded casing form m := by
  have hassigned := Assoc.undisturbed_iff (m := m) (nodup_assignments casing 1 (params form))
  have hvalues : (∀ a ∈ assignments casing 1 (params form),
        (sequential m (assignments casing 1 (params form))).lookup a.key = some (a.value m)) ↔
      ∀ i p, (params form)[i]? = some p →
        (sequential m (assignments casing 1 (params form))).lookup (formatInt (i + 1 : Nat)) =
          some (resolveVariables casing m p) := by
    constructor
    · intro h i p hp
      have hget := assignments_getElem? casing 1 i (params form)
      rw [hp, Option.map_some, Nat.add_comm 1 i] at hget
      exact h _ (List.mem_of_getElem? hget)
    · intro h a ha
      obtain ⟨i, hi⟩ := List.mem_iff_getElem?.mp ha
      rw [assignments_getElem?] at hi
      obtain ⟨p, hp, rfl⟩ := Option.map_eq_some_iff.mp hi
      rw [Nat.add_comm 1 i]
      exact h i p hp
  rw [← hvalues, hassigned, Assoc.undisturbed_iff_getElem?]
  constructor
  · intro h i p hp
    have hget := assignments_getElem? casing 1 i (params form)
    rw [hp, Option.map_some] at hget
    have hvalue := h i _ hget
    rw [assignments_take] at hvalue
    exact hvalue
  · intro h i a ha
    rw [assignments_getElem?] at ha
    obtain ⟨p, hp, rfl⟩ := Option.map_eq_some_iff.mp ha
    rw [assignments_take]
    exact h i p hp

theorem mapRecipient_iff (casing : Casing) (form : Form) (rec : UploadedRecipient) :
    (∃ rec', mapRecipient casing form rec = .ok rec' ∧ MappedAtOnce casing form rec rec') ↔
      Mappable casing form rec := by
  obtain ⟨to_, variables_⟩ := rec
  cases variables_ with
  | some m =>
    rw [mapRecipient_eq]
    constructor
    · rintro ⟨rec', heq, hmapped⟩
      cases heq
      exact Or.inr ⟨m, rfl, (sequential_iff casing form m).mp hmapped.values⟩
    · rintro (hnone | ⟨m', hm, hreads⟩)
      · refine ⟨_, rfl, rfl, ?_⟩
        intro i p hp
        rw [hnone] at hp
        cases hp
      · cases hm
        exact ⟨_, rfl, rfl, (sequential_iff casing form m).mpr hreads⟩
  | none =>
    rw [mapRecipient_eq]
    dsimp only
    by_cases hnone : params form = []
    · rw [if_pos hnone]
      refine iff_of_true ⟨_, rfl, rfl, ?_⟩ (Or.inl hnone)
      intro i p hp
      rw [hnone] at hp
      cases hp
    · rw [if_neg hnone]
      refine iff_of_false ?_ ?_
      · rintro ⟨rec', heq, -⟩
        cases heq
      · rintro (h | ⟨m, hm, -⟩)
        · exact hnone h
        · cases hm

theorem mapRecipients_iff (casing : Casing) (form : Form) (recipients : List UploadedRecipient) :
    (∃ mapped, recipients.mapM (mapRecipient casing form) = .ok mapped ∧
        List.Forall₂ (MappedAtOnce casing form) recipients mapped) ↔
      ∀ rec ∈ recipients, Mappable casing form rec := by
  induction recipients with
  | nil => exact iff_of_true ⟨[], rfl, .nil⟩ fun _ hrec => by cases hrec
  | cons rec recipients ih =>
    rw [List.forall_mem_cons, ← ih, ← mapRecipient_iff]
    constructor
    · rintro ⟨mapped, heq, hmapped⟩
      obtain ⟨rec', rest, hrec', hrest, rfl⟩ := List.forall₂_cons_left_iff.mp (Result.mapM_eq_ok_iff.mp heq)
      obtain ⟨hfirst, hothers⟩ := List.forall₂_cons.mp hmapped
      exact ⟨⟨rec', hrec', hfirst⟩, rest, Result.mapM_eq_ok_iff.mpr hrest, hothers⟩
    · rintro ⟨⟨rec', hrec', hfirst⟩, rest, hrest, hothers⟩
      exact ⟨rec' :: rest, Result.mapM_eq_ok_iff.mpr (.cons hrec' (Result.mapM_eq_ok_iff.mp hrest)),
        .cons hfirst hothers⟩

theorem mapRecipient_ne_error (casing : Casing) (form : Form) (rec : UploadedRecipient) (e : CreateError) :
    mapRecipient casing form rec ≠ .error e := by
  rw [mapRecipient_eq]
  cases rec.variables_ with
  | some m => exact fun h => nomatch h
  | none =>
    dsimp only
    split
    · exact fun h => nomatch h
    · exact fun h => nomatch h

/-- The parameters are mapped at once exactly when each recipient can be mapped so. -/
theorem simultaneous_iff (casing : Casing) (form : Form) (formTagIDs : List UUID) (recipients : List UploadedRecipient) :
    Simultaneous casing form formTagIDs recipients ↔
      if formValue form "template_select" = "" then ∀ rec ∈ recipients, AlreadyMapped casing form rec
      else ∀ rec ∈ recipients, Mappable casing form rec := by
  unfold Simultaneous createRecipients
  by_cases hempty : formTagIDs = [] ∧ recipients = []
  · rw [if_pos hempty, hempty.2]
    refine iff_of_true trivial ?_
    split
    · exact fun _ hrec => nomatch hrec
    · exact fun _ hrec => nomatch hrec
  · rw [if_neg hempty]
    dsimp only
    by_cases htemplate : formValue form "template_select" = ""
    · rw [if_neg (not_not.mpr htemplate), if_pos htemplate]
      exact List.forall₂_same
    · rw [if_pos htemplate, if_neg htemplate, ← mapRecipients_iff]
      cases hmapped : recipients.mapM (mapRecipient casing form) with
      | ok mapped => simp
      | error e =>
        obtain ⟨rec, -, herror⟩ := Result.mapM_eq_error hmapped
        exact absurd herror (mapRecipient_ne_error casing form rec e)
      | panic => simp

/-! ## Two columns that change places -/

def swapForm : Form :=
  [("template_select", "pedido_enviado"), ("waba_param_1", "\x7b\x7b2\x7d\x7d"), ("waba_param_2", "\x7b\x7b1\x7d\x7d")]

/-- The second parameter reads what the first has written, and without variables there is nothing to write
into. -/
theorem swapped_columns_lost :
    createRecipients latinCasing swapForm [] [⟨"5511999990000", some [("1", "Ana"), ("2", "Lisboa")]⟩] =
        .ok [⟨"5511999990000", some [("1", "Lisboa"), ("2", "Lisboa")]⟩] ∧
      resolveVariables latinCasing [("1", "Ana"), ("2", "Lisboa")] "\x7b\x7b1\x7d\x7d" = "Ana" ∧
      createRecipients latinCasing swapForm [] [⟨"5511999990000", none⟩] = .panic ∧
      ¬ Simultaneous latinCasing swapForm [] [⟨"5511999990000", some [("1", "Ana"), ("2", "Lisboa")]⟩] ∧
      ¬ Simultaneous latinCasing swapForm [] [⟨"5511999990000", none⟩] := by
  have hswap : createRecipients latinCasing swapForm [] [⟨"5511999990000", some [("1", "Ana"), ("2", "Lisboa")]⟩] =
      .ok [⟨"5511999990000", some [("1", "Lisboa"), ("2", "Lisboa")]⟩] := by decide +kernel
  have hpanic : createRecipients latinCasing swapForm [] [⟨"5511999990000", none⟩] = .panic := by decide +kernel
  have hana : resolveVariables latinCasing [("1", "Ana"), ("2", "Lisboa")] "\x7b\x7b1\x7d\x7d" = "Ana" := by
    decide +kernel
  have hparam : (params swapForm)[1]? = some "\x7b\x7b1\x7d\x7d" := by decide +kernel
  refine ⟨hswap, hana, hpanic, ?_, ?_⟩
  · unfold Simultaneous
    rw [hswap]
    intro h
    have hvalue := (List.forall₂_cons.mp h).1.values 1 _ hparam
    rw [Option.getD_some, Option.getD_some, hana] at hvalue
    exact absurd hvalue (by decide +kernel)
  · unfold Simultaneous
    rw [hpanic]
    exact fun h => h

end PerGo.L4.TemplateMapping
