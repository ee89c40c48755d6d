import PerGo.Core.Paired
import PerGo.L2Domain.Message
import PerGo.L2Domain.Variables

/-!
# Interpolating an interactive message

`InterpolateInteractive` (domain/campaign.go:475-577) makes the message of one recipient out of
the campaign's: every text of it with its placeholders resolved, in objects of its own.

Values stand in memory here: what a pointer, a map or a slice refers to has an address, and `make` and
`&` take addresses that are not in use. `range` goes through a map in any order: `Orders` picks one for
the map that is being filled.

* `interpolateMap_spec`: the entries of the result, one write for each entry of the source.
* `child_interpolateValue`, `interpolateValue_child`: the parts of the result are the interpolated parts.
* `node_interpolateValue`: a value without clashing keys has one result, whatever the orders.
-/
namespace PerGo.L2.Interpolation

open PerGo.Core PerGo.L1 PerGo.L2

abbrev Addr := Nat

structure Ref (α : Type) where
  addr : Addr
  val : α

/-- An `interface{}`. -/
inductive Val
  | nil
  | bool (b : Bool)
  | float64 (x : Dec)
  | string (s : String)
  /-- `[]interface{}` -/
  | slice (addr : Addr) (xs : List Val)
  /-- `map[string]interface{}` -/
  | map (addr : Addr) (kvs : List (String × Val))
  | nilMap
  /-- a value of another type: its `%T` and its `%v` -/
  | scalar (typ text : String)
  /-- a value of another type that refers to memory -/
  | pointer (addr : Addr) (typ text : String)

/-! ## Paths into a value -/

inductive Step
  | key (k : String)
  | index (i : Nat)

/-- What a value is, without its parts and its address. -/
inductive Node
  | nil
  | bool (b : Bool)
  | float64 (x : Dec)
  | string (s : String)
  | slice (len : Nat)
  | map (size : Nat)
  | nilMap
  | scalar (typ text : String)
  | pointer (typ text : String)
deriving DecidableEq

namespace Val

def top : Val → Node
  | nil => .nil
  | bool b => .bool b
  | float64 x => .float64 x
  | string s => .string s
  | slice _ xs => .slice xs.length
  | map _ kvs => .map kvs.length
  | nilMap => .nilMap
  | scalar typ text => .scalar typ text
  | pointer _ typ text => .pointer typ text

/-- The memory a value refers to itself. -/
def addr? : Val → Option Addr
  | slice addr _ | map addr _ | pointer addr .. => some addr
  | _ => none

def child : Val → Step → Option Val
  | map _ kvs, .key k => kvs.lookup k
  | slice _ xs, .index i => xs[i]?
  | _, _ => none

def reach : Val → List Step → Option Val
  | v, [] => some v
  | v, step :: path => (v.child step).bind fun w => w.reach path

def node (v : Val) (path : List Step) : Option Node := (v.reach path).map top

/-- Some part of the value is at the address. -/
def Holds (v : Val) (addr : Addr) : Prop := ∃ path w, v.reach path = some w ∧ w.addr? = some addr

@[simp] theorem reach_nil (v : Val) : v.reach [] = some v := rfl

theorem reach_cons {v w : Val} {step : Step} (h : v.child step = some w) (path : List Step) :
    v.reach (step :: path) = w.reach path := by
  rw [reach, h, Option.bind_some]

theorem child_of_reach {v u : Val} {step : Step} {path : List Step} (h : v.reach (step :: path) = some u) :
    ∃ w, v.child step = some w ∧ w.reach path = some u := by
  rw [reach] at h
  exact Option.bind_eq_some_iff.mp h

end Val

/-! ## The message -/

structure Section where
  title : String
  rows : Option (Ref (List Row))

structure Action where
  button : String
  buttons : Option (Ref (List Button))
  sections : Option (Ref (List Section))
  flowToken : String
  flowID : String
  flowCTA : String
  flowAction : String
  flowActionPayload : Option (Ref (List (String × Val)))

structure Interactive where
  type : String
  header : Option (Ref TextContent)
  body : TextContent
  footer : Option (Ref TextContent)
  action : Action

/-! ## The walk -/

/-- For the map made at an address, the order in which its source is gone through. -/
abbrev Orders := Addr → Nat

/-- The writes of a `range`: the value of an entry is made when the entry's turn comes. -/
def assignAll : List (String × (Addr → Val × Addr)) → List (String × Val) → Addr → List (String × Val) × Addr
  | [], dst, next => (dst, next)
  | (key, value) :: rest, dst, next => assignAll rest (Assoc.setKey dst key (value next).1) (value next).2

/-- `make` and the `range` loop. -/
def rangeMap (orders : Orders) (entries : List (String × (Addr → Val × Addr))) (next : Addr) :
    List (String × Val) × Addr :=
  assignAll (Assoc.ranged (orders next) entries) [] (next + 1)

section Interpolate

variable (casing : Casing) (vars : StrMap) (orders : Orders)

mutual
/-- mirrors campaign.go:562-577 -/
def interpolateValue : Val → Addr → Val × Addr
  | .string s, next => (.string (resolveVariables casing vars s), next)
  | .map _ kvs, next =>
    let dst := rangeMap orders (interpolateEntries kvs) next
    (.map next dst.1, dst.2)
  | .slice _ xs, next =>
    let res := interpolateItems xs (next + 1)
    (.slice next res.1, res.2)
  | .nil, next => (.nil, next)
  | .bool b, next => (.bool b, next)
  | .float64 x, next => (.float64 x, next)
  | .nilMap, next => (.nilMap, next)
  | .scalar typ text, next => (.scalar typ text, next)
  | .pointer addr typ text, next => (.pointer addr typ text, next)
/-- For each entry of a map the key to write to, and how to make the value. -/
def interpolateEntries : List (String × Val) → List (String × (Addr → Val × Addr))
  | [] => []
  | (k, v) :: kvs => (resolveVariables casing vars k, interpolateValue v) :: interpolateEntries kvs
def interpolateItems : List Val → Addr → List Val × Addr
  | [], next => ([], next)
  | v :: xs, next =>
    let res := interpolateValue v next
    let rest := interpolateItems xs res.2
    (res.1 :: rest.1, rest.2)
end

/-- mirrors campaign.go:550-560 -/
def interpolateMap (src : Option (Ref (List (String × Val)))) (next : Addr) :
    Option (Ref (List (String × Val))) × Addr :=
  match src with
  | none => (none, next)
  | some src =>
    let dst := rangeMap orders (interpolateEntries casing vars orders src.val) next
    (some ⟨next, dst.1⟩, dst.2)

/-- `make` and its loop, for a slice that is not empty. -/
def copySlice {α : Type} (f : Nat → α → α) (src : Option (Ref (List α))) (addr : Addr) : Option (Ref (List α)) :=
  match src with
  | none => none
  | some src => if src.val.isEmpty then none else some ⟨addr, src.val.mapIdx f⟩

def interpolateText (t : TextContent) : TextContent := ⟨resolveVariables casing vars t.text⟩

def interpolateButton (b : Button) : Button :=
  ⟨b.type, ⟨resolveVariables casing vars b.reply.id, resolveVariables casing vars b.reply.title⟩⟩

def interpolateRow (r : Row) : Row :=
  ⟨resolveVariables casing vars r.id, resolveVariables casing vars r.title, resolveVariables casing vars r.description⟩

def interpolateSection (addr : Addr) (s : Section) : Section :=
  ⟨resolveVariables casing vars s.title, copySlice (fun _ => interpolateRow casing vars) s.rows addr⟩

def Action.sectionCount (a : Action) : Nat := ((a.sections.map fun s => s.val.length).getD 0)

/-- The `dst` of `InterpolateInteractive`. Every object has an address of its own: the message, its header,
its footer, the buttons, the sections, the rows of each section, and from there on the payload. -/
def interpolated (src : Interactive) (next : Addr) : Ref Interactive × Addr :=
  let payload := interpolateMap casing vars orders src.action.flowActionPayload (next + 5 + src.action.sectionCount)
  (⟨next,
    { type := src.type
      body := interpolateText casing vars src.body
      header := src.header.map fun t => ⟨next + 1, interpolateText casing vars t.val⟩
      footer := src.footer.map fun t => ⟨next + 2, interpolateText casing vars t.val⟩
      action :=
        { button := resolveVariables casing vars src.action.button
          flowToken := resolveVariables casing vars src.action.flowToken
          flowID := resolveVariables casing vars src.action.flowID
          flowCTA := resolveVariables casing vars src.action.flowCTA
          flowAction := resolveVariables casing vars src.action.flowAction
          buttons := copySlice (fun _ => interpolateButton casing vars) src.action.buttons (next + 3)
          sections := copySlice (fun i => interpolateSection casing vars (next + 5 + i)) src.action.sections (next + 4)
          flowActionPayload := payload.1 } }⟩, payload.2)

/-- mirrors campaign.go:478-548 -/
def interpolateInteractive (src : Option (Ref Interactive)) (next : Addr) : Option (Ref Interactive) × Addr :=
  match src with
  | none => (none, next)
  | some src =>
    let dst := interpolated casing vars orders src.val next
    (some dst.1, dst.2)

end Interpolate

/-! ## What is made -/

variable {casing : Casing} {vars : StrMap} {orders : Orders}

theorem interpolateEntries_eq (kvs : List (String × Val)) :
    interpolateEntries casing vars orders kvs =
      kvs.map fun kv => (resolveVariables casing vars kv.1, interpolateValue casing vars orders kv.2) := by
  induction kvs with
  | nil => rfl
  | cons kv kvs ih =>
    obtain ⟨k, v⟩ := kv
    rw [interpolateEntries, ih]
    rfl

def Grows (value : Addr → Val × Addr) : Prop := ∀ next, next ≤ (value next).2

theorem assignAll_grows {entries : List (String × (Addr → Val × Addr))} (h : ∀ e ∈ entries, Grows e.2)
    (dst : List (String × Val)) (next : Addr) : next ≤ (assignAll entries dst next).2 := by
  induction entries generalizing dst next with
  | nil => exact Nat.le_refl _
  | cons e entries ih =>
    obtain ⟨hfirst, hrest⟩ := List.forall_mem_cons.mp h
    exact Nat.le_trans (hfirst next) (ih hrest _ _)

theorem rangeMap_grows {entries : List (String × (Addr → Val × Addr))} (h : ∀ e ∈ entries, Grows e.2)
    (next : Addr) : next ≤ (rangeMap orders entries next).2 := by
  have hranged : ∀ e ∈ Assoc.ranged (orders next) entries, Grows e.2 :=
    fun e he => h e ((Assoc.ranged_perm _ _).mem_iff.mp he)
  exact Nat.le_trans (Nat.le_succ next) (assignAll_grows hranged [] (next + 1))

mutual
theorem interpolateValue_grows : ∀ v, Grows (interpolateValue casing vars orders v)
  | .string _, _ | .nil, _ | .bool _, _ | .float64 _, _ | .nilMap, _ | .scalar .., _ | .pointer .., _ => by
    rw [interpolateValue]
  | .map _ kvs, next => by
    rw [interpolateValue]
    exact rangeMap_grows (interpolateEntries_grow kvs) next
  | .slice _ xs, next => by
    rw [interpolateValue]
    exact Nat.le_trans (Nat.le_succ next) (interpolateItems_grow xs (next + 1))
theorem interpolateEntries_grow : ∀ kvs, ∀ e ∈ interpolateEntries casing vars orders kvs, Grows e.2
  | [], _, he => by
    rw [interpolateEntries] at he
    cases he
  | (_, v) :: kvs, e, he => by
    rw [interpolateEntries] at he
    rcases List.mem_cons.mp he with rfl | he
    · exact interpolateValue_grows v
    · exact interpolateEntries_grow kvs e he
theorem interpolateItems_grow : ∀ xs next, next ≤ (interpolateItems casing vars orders xs next).2
  | [], _ => by
    rw [interpolateItems]
  | v :: xs, next => by
    rw [interpolateItems]
    exact Nat.le_trans (interpolateValue_grows v next) (interpolateItems_grow xs _)
end

theorem assignAll_spec {entries : List (String × (Addr → Val × Addr))} (h : ∀ e ∈ entries, Grows e.2)
    (dst : List (String × Val)) (next : Addr) :
    ∃ writes, (assignAll entries dst next).1 = Assoc.merge dst writes ∧
      List.Forall₂ (fun e w => w.1 = e.1 ∧ ∃ m, next ≤ m ∧ w.2 = (e.2 m).1) entries writes := by
  induction entries generalizing dst next with
  | nil => exact ⟨[], rfl, .nil⟩
  | cons e entries ih =>
    obtain ⟨hfirst, hrest⟩ := List.forall_mem_cons.mp h
    obtain ⟨writes, hmerge, hwrites⟩ := ih hrest (Assoc.setKey dst e.1 (e.2 next).1) (e.2 next).2
    refine ⟨(e.1, (e.2 next).1) :: writes, hmerge, .cons ⟨rfl, next, Nat.le_refl _, rfl⟩ ?_⟩
    refine hwrites.imp ?_
    rintro e' w ⟨hkey, m, hm, hvalue⟩
    exact ⟨hkey, m, Nat.le_trans (hfirst next) hm, hvalue⟩

/-- The value is made of `v`, with addresses from `next` on. -/
def MadeOf (casing : Casing) (vars : StrMap) (orders : Orders) (next : Addr) (v w : Val) : Prop :=
  ∃ m, next ≤ m ∧ w = (interpolateValue casing vars orders v m).1

theorem MadeOf.mono {next next' : Addr} {v w : Val} (h : MadeOf casing vars orders next' v w) (hle : next ≤ next') :
    MadeOf casing vars orders next v w := by
  obtain ⟨m, hm, rfl⟩ := h
  exact ⟨m, Nat.le_trans hle hm, rfl⟩

theorem interpolateMap_spec (orders : Orders) (kvs : List (String × Val)) (next : Addr) :
    ∃ kvs' writes, kvs'.Perm kvs ∧
      (rangeMap orders (interpolateEntries casing vars orders kvs) next).1 = Assoc.merge [] writes ∧
      List.Forall₂ (fun kv w => w.1 = resolveVariables casing vars kv.1 ∧
        MadeOf casing vars orders (next + 1) kv.2 w.2) kvs' writes := by
  have hgrow : ∀ e ∈ Assoc.ranged (orders next) (interpolateEntries casing vars orders kvs), Grows e.2 :=
    fun e he => interpolateEntries_grow kvs e ((Assoc.ranged_perm _ _).mem_iff.mp he)
  obtain ⟨writes, hmerge, hwrites⟩ := assignAll_spec hgrow [] (next + 1)
  rw [interpolateEntries_eq, Assoc.ranged_map, List.forall₂_map_left_iff] at hwrites
  exact ⟨Assoc.ranged (orders next) kvs, writes, Assoc.ranged_perm _ _, hmerge, hwrites⟩

theorem interpolateItems_spec (orders : Orders) (xs : List Val) (next : Addr) :
    List.Forall₂ (MadeOf casing vars orders next) xs (interpolateItems casing vars orders xs next).1 := by
  induction xs generalizing next with
  | nil =>
    rw [interpolateItems]
    exact .nil
  | cons v xs ih =>
    rw [interpolateItems]
    refine .cons ⟨next, Nat.le_refl _, rfl⟩ ?_
    exact (ih _).imp fun _ _ h => h.mono (interpolateValue_grows v next)

/-! ## Part by part -/

def Step.resolved (casing : Casing) (vars : StrMap) : Step → Step
  | .key k => .key (resolveVariables casing vars k)
  | .index i => .index i

def Node.resolved (casing : Casing) (vars : StrMap) : Node → Node
  | .string s => .string (resolveVariables casing vars s)
  | node => node

/-- No two keys of the map come to the same. -/
def Apart (casing : Casing) (vars : StrMap) : Val → Prop
  | .map _ kvs => (kvs.map fun kv => resolveVariables casing vars kv.1).Nodup
  | _ => True

/-- No two keys of any map inside. -/
def Distinct (casing : Casing) (vars : StrMap) (v : Val) : Prop :=
  ∀ path w, v.reach path = some w → Apart casing vars w

theorem Distinct.child {v w : Val} {step : Step} (h : Distinct casing vars v) (hw : v.child step = some w) :
    Distinct casing vars w := by
  intro path u hu
  exact h (step :: path) u ((Val.reach_cons hw path).trans hu)

theorem writes_keys {next : Addr} {kvs writes : List (String × Val)}
    (h : List.Forall₂ (fun kv w => w.1 = resolveVariables casing vars kv.1 ∧ MadeOf casing vars orders next kv.2 w.2)
      kvs writes) :
    writes.map (·.1) = kvs.map fun kv => resolveVariables casing vars kv.1 := by
  induction h with
  | nil => rfl
  | cons hfirst _ ih => rw [List.map_cons, List.map_cons, hfirst.1, ih]

theorem map_entries (orders : Orders) {addr : Addr} {kvs : List (String × Val)} (h : Apart casing vars (.map addr kvs)) (next : Addr) :
    ∃ kvs' writes, kvs'.Perm kvs ∧ Assoc.Keyed writes ∧
      (interpolateValue casing vars orders (.map addr kvs) next).1 = .map next writes ∧
      List.Forall₂ (fun kv w => w.1 = resolveVariables casing vars kv.1 ∧
        MadeOf casing vars orders (next + 1) kv.2 w.2) kvs' writes := by
  obtain ⟨kvs', writes, hperm, hmerge, hwrites⟩ := interpolateMap_spec orders kvs next
  have hkeyed : Assoc.Keyed writes := by
    rw [Assoc.Keyed, writes_keys hwrites, (hperm.map _).nodup_iff]
    exact h
  refine ⟨kvs', writes, hperm, hkeyed, ?_, hwrites⟩
  rw [interpolateValue, hmerge, Assoc.merge_eq_append hkeyed fun _ _ hmem => by cases hmem]
  rfl

theorem Apart.keyed {addr : Addr} {kvs : List (String × Val)} (h : Apart casing vars (.map addr kvs)) :
    Assoc.Keyed kvs := by
  have hmap : (kvs.map fun kv => resolveVariables casing vars kv.1) =
      (kvs.map (·.1)).map (resolveVariables casing vars) := by
    rw [List.map_map]
    rfl
  have hnodup : (kvs.map fun kv => resolveVariables casing vars kv.1).Nodup := h
  rw [hmap] at hnodup
  exact hnodup.of_map

theorem interpolateValue_child (orders : Orders) {v u : Val} (h : Apart casing vars v) {step : Step} (hu : v.child step = some u)
    (next : Addr) :
    ∃ w, (interpolateValue casing vars orders v next).1.child (step.resolved casing vars) = some w ∧
      MadeOf casing vars orders next u w := by
  cases v with
  | map addr kvs =>
    cases step with
    | index i => cases hu
    | key k =>
      obtain ⟨kvs', writes, hperm, hkeyed, hvalue, hwrites⟩ := map_entries orders h next
      have hmem : (k, u) ∈ kvs' := hperm.mem_iff.mpr (Assoc.mem_of_lookup hu)
      obtain ⟨⟨k', w⟩, hw, hkey, hmade⟩ := forall₂_left hwrites hmem
      refine ⟨w, ?_, hmade.mono (Nat.le_succ next)⟩
      rw [hvalue]
      exact (Assoc.lookup_eq_some_iff hkeyed).mpr (hkey ▸ hw)
  | slice addr xs =>
    cases step with
    | key k => cases hu
    | index i =>
      have hitems : List.Forall₂ (MadeOf casing vars orders (next + 1)) xs _ := interpolateItems_spec orders xs _
      obtain ⟨w, hw, hmade⟩ := forall₂_at_left hitems hu
      refine ⟨w, ?_, hmade.mono (Nat.le_succ next)⟩
      rw [interpolateValue]
      exact hw
  | _ => cases step <;> cases hu

theorem child_interpolateValue {v w : Val} (h : Apart casing vars v) {next : Addr} {step' : Step}
    (hw : (interpolateValue casing vars orders v next).1.child step' = some w) :
    ∃ step u, step.resolved casing vars = step' ∧ v.child step = some u ∧ MadeOf casing vars orders next u w := by
  cases v with
  | map addr kvs =>
    obtain ⟨kvs', writes, hperm, hkeyed, hvalue, hwrites⟩ := map_entries orders h next
    rw [hvalue] at hw
    cases step' with
    | index i => cases hw
    | key k' =>
      obtain ⟨⟨k, u⟩, hmem, hkey, hmade⟩ := forall₂_right hwrites (Assoc.mem_of_lookup hw)
      have hlookup := (Assoc.lookup_eq_some_iff h.keyed).mpr (hperm.mem_iff.mp hmem)
      exact ⟨.key k, u, congrArg Step.key hkey.symm, hlookup, hmade.mono (Nat.le_succ next)⟩
  | slice addr xs =>
    rw [interpolateValue] at hw
    cases step' with
    | key k' => cases hw
    | index i =>
      have hitems : List.Forall₂ (MadeOf casing vars orders (next + 1)) xs _ := interpolateItems_spec orders xs _
      obtain ⟨u, hu, hmade⟩ := forall₂_at_right hitems hw
      exact ⟨.index i, u, rfl, hu, hmade.mono (Nat.le_succ next)⟩
  | _ =>
    rw [interpolateValue] at hw
    cases step' <;> cases hw

theorem top_interpolateValue {v : Val} (h : Apart casing vars v) (next : Addr) :
    (interpolateValue casing vars orders v next).1.top = v.top.resolved casing vars := by
  cases v with
  | map addr kvs =>
    obtain ⟨kvs', writes, hperm, -, hvalue, hwrites⟩ := map_entries orders h next
    have hlen : writes.length = kvs.length := hwrites.length_eq.symm.trans hperm.length_eq
    rw [hvalue]
    exact congrArg Node.map hlen
  | slice addr xs =>
    have hitems : List.Forall₂ (MadeOf casing vars orders (next + 1)) xs _ := interpolateItems_spec orders xs _
    rw [interpolateValue]
    exact congrArg Node.slice hitems.length_eq.symm
  | _ => rw [interpolateValue]; rfl

/-! ## The whole value -/

theorem interpolateValue_reach (orders : Orders) {v u : Val} (h : Distinct casing vars v) {path : List Step} (hu : v.reach path = some u)
    (next : Addr) :
    ∃ w, (interpolateValue casing vars orders v next).1.reach (path.map (Step.resolved casing vars)) = some w ∧
      MadeOf casing vars orders next u w := by
  induction path generalizing v next with
  | nil =>
    obtain rfl := Option.some.inj hu
    exact ⟨_, rfl, next, Nat.le_refl _, rfl⟩
  | cons step path ih =>
    obtain ⟨v', hchild, hreach⟩ := Val.child_of_reach hu
    obtain ⟨_, hchild', m, hm, rfl⟩ := interpolateValue_child orders (h [] v rfl) hchild next
    obtain ⟨w, hw, hmade⟩ := ih (h.child hchild) hreach m
    exact ⟨w, (Val.reach_cons hchild' _).trans hw, hmade.mono hm⟩

theorem reach_interpolateValue {v w : Val} (h : Distinct casing vars v) {next : Addr} {path' : List Step}
    (hw : (interpolateValue casing vars orders v next).1.reach path' = some w) :
    ∃ path u, path.map (Step.resolved casing vars) = path' ∧ v.reach path = some u ∧
      MadeOf casing vars orders next u w := by
  induction path' generalizing v next with
  | nil =>
    obtain rfl := Option.some.inj hw
    exact ⟨[], v, rfl, rfl, next, Nat.le_refl _, rfl⟩
  | cons step' path' ih =>
    obtain ⟨w', hchild', hreach'⟩ := Val.child_of_reach hw
    obtain ⟨step, v', rfl, hchild, m, hm, rfl⟩ := child_interpolateValue (h [] v rfl) hchild'
    obtain ⟨path, u, rfl, hreach, hmade⟩ := ih (h.child hchild) hreach'
    exact ⟨step :: path, u, rfl, (Val.reach_cons hchild _).trans hreach, hmade.mono hm⟩

theorem node_interpolateValue {v : Val} (h : Distinct casing vars v) (next : Addr) (path' : List Step) (nd : Node) :
    (interpolateValue casing vars orders v next).1.node path' = some nd ↔
      ∃ path nd', path.map (Step.resolved casing vars) = path' ∧ v.node path = some nd' ∧
        nd = nd'.resolved casing vars := by
  constructor
  · intro hnode
    obtain ⟨w, hw, rfl⟩ := Option.map_eq_some_iff.mp hnode
    obtain ⟨path, u, hpath, hu, m, -, rfl⟩ := reach_interpolateValue h hw
    exact ⟨path, u.top, hpath, by rw [Val.node, hu]; rfl, top_interpolateValue (h path u hu) m⟩
  · rintro ⟨path, nd', rfl, hnode, rfl⟩
    obtain ⟨u, hu, rfl⟩ := Option.map_eq_some_iff.mp hnode
    obtain ⟨w, hw, m, -, rfl⟩ := interpolateValue_reach orders h hu next
    rw [Val.node, hw, Option.map_some, top_interpolateValue (h path u hu) m]

end PerGo.L2.Interpolation
