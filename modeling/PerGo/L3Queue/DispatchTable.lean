import PerGo.Core.Table
import PerGo.L2Domain.Message

/-!
# The `message_dispatches` table

`repository/dispatch.go`. A `Dispatches` value carries the two unique
columns of migration 007 (`id`, `trace_id`) as fields, so a table that violates
them cannot be built; `provider_message_id` is unique as well (migration 026),
which is why `updateProviderMessageID` can refuse. `status` is a string, as in
the table: the inbound path writes whatever status the provider sent.

Callers use the lemmas `get_…` only: what the row of a trace is after each
operation, and that the rows of other traces are untouched.
-/
namespace PerGo.L3

open PerGo.Core PerGo.L1 PerGo.L2

/-- `fallbackIndex` is a number: only `0`, loop indices and copies of it are ever written.
mirrors dispatch.go:18-32 (without the two timestamps) -/
structure MessageDispatch where
  id : UUID
  workspaceID : UUID
  traceID : String
  currentChannel : String
  status : String
  fallbackIndex : Nat
  errorMessage : Option String
  campaignID : Option UUID
  templateName : Option String
  variablesJSON : StrMap
  providerMessageID : Option String
deriving DecidableEq

structure Dispatches where
  rows : List MessageDispatch
  ids : (rows.map (·.id)).Nodup
  traces : (rows.map (·.traceID)).Nodup

namespace Dispatches

def empty : Dispatches := ⟨[], List.nodup_nil, List.nodup_nil⟩

/-- The row of a trace. -/
def get (d : Dispatches) (trace : String) : Option MessageDispatch :=
  d.rows.find? fun r => r.traceID = trace

theorem get_mem {d : Dispatches} {t : String} {r : MessageDispatch} (h : d.get t = some r) :
    r ∈ d.rows ∧ r.traceID = t :=
  ⟨List.mem_of_find?_eq_some h, by simpa using List.find?_some h⟩

theorem id_ne_of_trace_ne {d : Dispatches} {t t' : String} {r r' : MessageDispatch}
    (h : d.get t = some r) (h' : d.get t' = some r') (ht : t' ≠ t) : r'.id ≠ r.id := by
  intro he
  obtain ⟨hm, hr⟩ := get_mem h
  obtain ⟨hm', hr'⟩ := get_mem h'
  have := eq_of_key_eq d.ids hm' hm he
  subst this
  exact ht (hr'.symm.trans hr)

/-- The row `INSERT … ON CONFLICT` adds for a new trace. -/
def newRow (d : Dispatches) (ws : UUID) (trace chan : String) (camp : Option UUID)
    (tmpl : Option String) (vars : StrMap) : MessageDispatch :=
  { id := freshKey (d.rows.map (·.id)), workspaceID := ws, traceID := trace, currentChannel := chan,
    status := "queued", fallbackIndex := 0, errorMessage := none, campaignID := camp,
    templateName := tmpl, variablesJSON := vars, providerMessageID := none }

def insert (d : Dispatches) (r : MessageDispatch) (hi : r.id ∉ d.rows.map (·.id))
    (ht : r.traceID ∉ d.rows.map (·.traceID)) : Dispatches :=
  ⟨d.rows ++ [r], by
    rw [List.map_append, List.nodup_append]
    refine ⟨d.ids, by simp, ?_⟩
    intro a ha b hb hab
    simp only [List.map_cons, List.map_nil, List.mem_singleton] at hb
    exact hi (hb ▸ hab ▸ ha), by
    rw [List.map_append, List.nodup_append]
    refine ⟨d.traces, by simp, ?_⟩
    intro a ha b hb hab
    simp only [List.map_cons, List.map_nil, List.mem_singleton] at hb
    exact ht (hb ▸ hab ▸ ha)⟩

theorem get_none_iff {d : Dispatches} {t : String} : d.get t = none ↔ t ∉ d.rows.map (·.traceID) := by
  simp only [get, List.find?_eq_none, List.mem_map, decide_eq_true_eq, not_exists, not_and]

/-- The row of the trace, inserted as `queued` when there is none.
mirrors dispatch.go:45-87 (the database part) -/
def getOrCreateDispatch (d : Dispatches) (ws : UUID) (trace chan : String) (camp : Option UUID)
    (tmpl : Option String) (vars : StrMap) : MessageDispatch × Dispatches :=
  match h : d.get trace with
  | some r => (r, d)
  | none =>
    (d.newRow ws trace chan camp tmpl vars,
      d.insert (d.newRow ws trace chan camp tmpl vars) (freshKey_not_mem _) (get_none_iff.mp h))

/-- `UPDATE message_dispatches SET f WHERE id = $n`, for an `f` that writes
neither unique column. -/
def updateByID (d : Dispatches) (id : UUID) (f : MessageDispatch → MessageDispatch)
    (hid : ∀ r, (f r).id = r.id) (htr : ∀ r, (f r).traceID = r.traceID) : Dispatches :=
  ⟨updateWhere (fun r => r.id = id) f d.rows, by rw [map_updateWhere hid]; exact d.ids,
    by rw [map_updateWhere htr]; exact d.traces⟩

/-- mirrors dispatch.go:90-98 -/
def updateDispatchStatus (d : Dispatches) (id : UUID) (status chan : String) (idx : Nat)
    (err : Option String) : Dispatches :=
  d.updateByID id
    (fun r => { r with status := status, currentChannel := chan, fallbackIndex := idx, errorMessage := err })
    (fun _ => rfl) (fun _ => rfl)

/-- `none` is the unique violation when another row has this provider id.
mirrors dispatch.go:126-134 -/
def updateProviderMessageID (d : Dispatches) (id : UUID) (pid : String) : Option Dispatches :=
  if d.rows.any (fun r => r.providerMessageID = some pid && r.id ≠ id) then none
  else some (d.updateByID id (fun r => { r with providerMessageID := some pid }) (fun _ => rfl) (fun _ => rfl))

/-- mirrors dispatch.go:137-159 -/
def getByProviderMessageID (d : Dispatches) (pid : String) : Option MessageDispatch :=
  d.rows.find? fun r => r.providerMessageID = some pid

/-! ## What a lookup by trace sees -/

theorem get_insert {d : Dispatches} {r : MessageDispatch} (hi ht) (t : String) :
    (d.insert r hi ht).get t = if r.traceID = t then some r else d.get t := by
  simp only [get, insert, List.find?_append]
  cases h : d.rows.find? (fun r => decide (r.traceID = t)) with
  | none =>
    rw [Option.none_or, List.find?_cons]
    by_cases hr : r.traceID = t
    · simp [hr]
    · simp [hr]
  | some r' =>
    have hm := List.mem_of_find?_eq_some h
    have hr' : r'.traceID = t := by simpa using List.find?_some h
    have hne : r.traceID ≠ t := fun he => ht (by rw [he, ← hr']; exact List.mem_map_of_mem hm)
    rw [if_neg hne]; rfl

theorem getOrCreate_of_some {d : Dispatches} {t : String} {r : MessageDispatch} (h : d.get t = some r)
    (ws : UUID) (chan : String) (camp : Option UUID) (tmpl : Option String) (vars : StrMap) :
    d.getOrCreateDispatch ws t chan camp tmpl vars = (r, d) := by
  unfold getOrCreateDispatch
  split
  · rename_i r' h'
    rw [h] at h'; cases h'; rfl
  · rename_i h'
    rw [h] at h'; cases h'

theorem getOrCreate_of_none {d : Dispatches} {t : String} (h : d.get t = none)
    (ws : UUID) (chan : String) (camp : Option UUID) (tmpl : Option String) (vars : StrMap) :
    (d.getOrCreateDispatch ws t chan camp tmpl vars).1 = d.newRow ws t chan camp tmpl vars := by
  unfold getOrCreateDispatch
  split
  · rename_i r' h'
    rw [h] at h'; cases h'
  · rfl

theorem get_getOrCreate (d : Dispatches) (ws : UUID) (t chan : String) (camp : Option UUID)
    (tmpl : Option String) (vars : StrMap) (t' : String) :
    (d.getOrCreateDispatch ws t chan camp tmpl vars).2.get t' =
      if t = t' then some (d.getOrCreateDispatch ws t chan camp tmpl vars).1 else d.get t' := by
  unfold getOrCreateDispatch
  split
  · rename_i r h
    by_cases ht : t = t'
    · subst ht; rw [if_pos rfl]; exact h
    · rw [if_neg ht]
  · rename_i h
    exact get_insert (freshKey_not_mem _) (get_none_iff.mp h) t'

theorem get_updateByID {d : Dispatches} {t : String} {r : MessageDispatch} (h : d.get t = some r)
    {f : MessageDispatch → MessageDispatch} (hid) (htr) (t' : String) :
    (d.updateByID r.id f hid htr).get t' = if t' = t then some (f r) else d.get t' := by
  have hg : (d.updateByID r.id f hid htr).get t' =
      (d.get t').map fun x => if decide (x.id = r.id) = true then f x else x :=
    find?_updateWhere (fun x => by simp only [htr]) d.rows
  rw [hg]
  by_cases ht : t' = t
  · subst ht; simp [h]
  · rw [if_neg ht]
    cases h' : d.get t' with
    | none => rfl
    | some r' => simp [id_ne_of_trace_ne h h' ht]

theorem get_updateDispatchStatus {d : Dispatches} {t : String} {r : MessageDispatch}
    (h : d.get t = some r) (status chan : String) (idx : Nat) (err : Option String) (t' : String) :
    (d.updateDispatchStatus r.id status chan idx err).get t' =
      if t' = t then
        some { r with status := status, currentChannel := chan, fallbackIndex := idx, errorMessage := err }
      else d.get t' :=
  get_updateByID h _ _ t'

theorem get_updateProviderMessageID {d d' : Dispatches} {t : String} {r : MessageDispatch}
    (h : d.get t = some r) {pid : String} (hu : d.updateProviderMessageID r.id pid = some d') (t' : String) :
    d'.get t' = if t' = t then some { r with providerMessageID := some pid } else d.get t' := by
  unfold updateProviderMessageID at hu
  split at hu
  · cases hu
  · cases hu
    exact get_updateByID h _ _ t'

theorem get_of_provider {d : Dispatches} {pid : String} {r : MessageDispatch}
    (h : d.getByProviderMessageID pid = some r) :
    d.get r.traceID = some r ∧ r.providerMessageID = some pid := by
  have hm := List.mem_of_find?_eq_some h
  refine ⟨?_, by simpa using List.find?_some h⟩
  cases hg : d.get r.traceID with
  | none => exact absurd (List.mem_map_of_mem hm) (get_none_iff.mp hg)
  | some r' =>
    obtain ⟨hm', ht⟩ := get_mem hg
    rw [eq_of_key_eq d.traces hm' hm ht]

end Dispatches

end PerGo.L3
