import PerGo.Core.Assign
import PerGo.Core.Result
import PerGo.L2Domain.Campaign
import PerGo.L2Domain.Variables

/-!
# The parameters of a template, in the form of a campaign

`CampaignHandler.Create` (admin/campaign.go:404-592) reads `waba_param_1`,
`waba_param_2`, ... up to the first that is empty, and writes each, its placeholders resolved, into the
variables of every recipient under the number of the parameter. A recipient of `recipients_data` that came
without `variables` has a nil map.

* `mapParams_of_map`: on a map the loop is a sequence of assignments; `mapParams_of_nil`: on a nil map it
  panics as soon as there is a parameter.

The other fields of the form, and the checks on them, are left out.
-/
namespace PerGo.L3.Campaign

open PerGo.Core PerGo.L1 PerGo.L2
open PerGo.Core.Assoc (Assignment sequential)

/-- mirrors domain/campaign.go:40-43, with a map that can be nil -/
structure UploadedRecipient where
  to_ : String
  variables_ : Option StrMap
deriving DecidableEq

/-- The first value of each key of the request. -/
abbrev Form := List (String × String)

def formValue (form : Form) (key : String) : String := (form.lookup key).getD ""

/-- mirrors admin/campaign.go:489 -/
def paramKey (i : Nat) : String := "waba_param_" ++ formatInt i

inductive CreateError
  | noRecipients
deriving DecidableEq

def CreateError.text : CreateError → String
  | .noRecipients => "A campanha precisa de pelo menos um destinatário. Selecione uma tag ou envie um CSV."

section Create

variable (casing : Casing) (form : Form)

/-- `rec.Variables[k] = v`. -/
def setEntry (variables_ : Option StrMap) (k v : String) : Result CreateError (Option StrMap) :=
  match variables_ with
  | some m => .ok (some (setVariable m k v))
  | none => .panic

/-- The loop over the parameters from number `i`; `fuel` is more than there are values in the form.
mirrors admin/campaign.go:488-496 -/
def mapParams : Nat → Nat → Option StrMap → Result CreateError (Option StrMap)
  | 0, _, variables_ => .ok variables_
  | fuel + 1, i, variables_ =>
    let mappedVal := formValue form (paramKey i)
    if mappedVal = "" then .ok variables_
    else do
      let resolvedVal := resolveVariables casing (variables_.getD []) mappedVal
      let variables_ ← setEntry variables_ (formatInt i) resolvedVal
      mapParams fuel (i + 1) variables_

def mapRecipient (rec : UploadedRecipient) : Result CreateError UploadedRecipient := do
  let variables_ ← mapParams casing form (form.length + 1) 1 rec.variables_
  pure { rec with variables_ := variables_ }

/-- The recipients that `Create` hands to the engine.
mirrors admin/campaign.go:468-498 -/
def createRecipients (formTagIDs : List UUID) (recipients : List UploadedRecipient) :
    Result CreateError (List UploadedRecipient) :=
  if formTagIDs = [] ∧ recipients = [] then .error .noRecipients
  else
    let tName := formValue form "template_select"
    if tName ≠ "" then recipients.mapM (mapRecipient casing form) else .ok recipients

def wabaParams : Nat → Nat → List String
  | 0, _ => []
  | fuel + 1, i =>
    let mappedVal := formValue form (paramKey i)
    if mappedVal = "" then [] else mappedVal :: wabaParams fuel (i + 1)

/-- `waba_param_1`, ..., `waba_param_n`. -/
def params : List String := wabaParams form (form.length + 1) 1

/-- What the loop does with the parameters from number `i`. -/
def assignments : Nat → List String → List (Assignment String String)
  | _, [] => []
  | i, mappedVal :: ps => ⟨formatInt i, fun m => resolveVariables casing m mappedVal⟩ :: assignments (i + 1) ps

end Create

variable {casing : Casing} {form : Form}

/-! ## The loop -/

theorem mapParams_of_map (casing : Casing) (form : Form) (fuel i : Nat) (m : StrMap) :
    mapParams casing form fuel i (some m) =
      .ok (some (sequential m (assignments casing i (wabaParams form fuel i)))) := by
  induction fuel generalizing i m with
  | zero => rfl
  | succ fuel ih =>
    rw [mapParams, wabaParams]
    dsimp only
    split
    · rfl
    · rw [setEntry, Result.ok_bind, ih]
      rfl

theorem mapParams_of_nil (casing : Casing) (form : Form) (fuel i : Nat) :
    mapParams casing form fuel i none = if wabaParams form fuel i = [] then .ok none else .panic := by
  cases fuel with
  | zero => rfl
  | succ fuel =>
    rw [mapParams, wabaParams]
    dsimp only
    split
    · rfl
    · rw [if_neg (List.cons_ne_nil _ _)]
      rfl

theorem mapRecipient_eq (casing : Casing) (form : Form) (rec : UploadedRecipient) :
    mapRecipient casing form rec = match rec.variables_ with
      | some m => .ok { rec with variables_ := some (sequential m (assignments casing 1 (params form))) }
      | none => if params form = [] then .ok rec else .panic := by
  obtain ⟨to_, variables_⟩ := rec
  cases variables_ with
  | some m =>
    rw [mapRecipient, mapParams_of_map]
    rfl
  | none =>
    rw [mapRecipient, mapParams_of_nil]
    dsimp only
    by_cases hnone : params form = []
    · rw [if_pos hnone, if_pos (show wabaParams form (form.length + 1) 1 = [] from hnone)]
      rfl
    · rw [if_neg hnone, if_neg (show wabaParams form (form.length + 1) 1 ≠ [] from hnone)]
      rfl

theorem assignments_key (casing : Casing) (i : Nat) (ps : List String) :
    (assignments casing i ps).map (·.key) = (List.range' i ps.length).map fun (j : Nat) => formatInt j := by
  induction ps generalizing i with
  | nil => rfl
  | cons p ps ih =>
    rw [assignments, List.map_cons, ih, List.length_cons, List.range'_succ, List.map_cons]

/-- Each parameter has a number of its own. -/
theorem nodup_assignments (casing : Casing) (i : Nat) (ps : List String) :
    ((assignments casing i ps).map (·.key)).Nodup := by
  rw [assignments_key]
  refine List.Nodup.map ?_ List.nodup_range'
  intro j j' h
  exact Int.ofNat.inj (formatInt_inj h)

theorem assignments_getElem? (casing : Casing) (i j : Nat) (ps : List String) :
    (assignments casing i ps)[j]? =
      (ps[j]?).map fun p => ⟨formatInt (i + j : Nat), fun m => resolveVariables casing m p⟩ := by
  induction ps generalizing i j with
  | nil => rfl
  | cons p ps ih =>
    cases j with
    | zero => rfl
    | succ j =>
      rw [assignments, List.getElem?_cons_succ, List.getElem?_cons_succ, ih, show i + 1 + j = i + (j + 1) by omega]

theorem assignments_take (casing : Casing) (i j : Nat) (ps : List String) :
    (assignments casing i ps).take j = assignments casing i (ps.take j) := by
  induction ps generalizing i j with
  | nil => rw [assignments, List.take_nil, List.take_nil, assignments]
  | cons p ps ih =>
    cases j with
    | zero => rfl
    | succ j => rw [assignments, List.take_succ_cons, List.take_succ_cons, ih, assignments]

end PerGo.L3.Campaign
