import Mathlib.Data.Finset.Dedup
import Mathlib.Data.Finset.Range
import PerGo.L2Domain.Interpolation

/-!
# Interpolation, whatever the order of a map

An execution of `InterpolateInteractive` chooses an order for every map it goes through and addresses
that nothing of the source has. The executions of one source should have equal results, with an entry
for each entry of the source and no object of the source.

They do exactly when no map of the payload has two keys that come to the same
(domain/campaign.go:555-558 writes one over the other), and the payload holds no reference of
another type (the `default` case returns it as it is).

* `faithful_iff`: the exact condition.
* `clash`: two keys, two orders, two results.
-/
namespace PerGo.L4.InterpolationOrder

open PerGo.Core PerGo.L1 PerGo.L2.Interpolation
open PerGo.L2 (Casing resolveVariables latinCasing)

/-! ## What a message is, and what it holds -/

def unplaced {α : Type} (r : Ref α) : Ref α := { r with addr := 0 }

def unplacedSection (s : Section) : Section := { s with rows := s.rows.map unplaced }

/-- The message but for its payload and its addresses. -/
def frame (i : Interactive) : Interactive :=
  { i with
    header := i.header.map unplaced
    footer := i.footer.map unplaced
    action := { i.action with
      buttons := i.action.buttons.map unplaced
      sections := i.action.sections.map fun s => ⟨0, s.val.map unplacedSection⟩
      flowActionPayload := none } }

def payload (i : Interactive) : Val :=
  match i.action.flowActionPayload with
  | none => .nilMap
  | some r => .map r.addr r.val

def addrOf {α : Type} (r : Option (Ref α)) : List Addr := r.toList.map (·.addr)

def addrs (i : Interactive) : List Addr :=
  addrOf i.header ++ addrOf i.footer ++ addrOf i.action.buttons ++ addrOf i.action.sections ++
    i.action.sections.toList.flatMap fun s => s.val.flatMap fun sec => addrOf sec.rows

def Holds (r : Ref Interactive) (addr : Addr) : Prop :=
  addr = r.addr ∨ addr ∈ addrs r.val ∨ (payload r.val).Holds addr

/-! ## Executions -/

structure Execution (src : Ref Interactive) where
  orders : Orders
  next : Addr
  unused : ∀ addr, Holds src addr → addr < next

variable {src : Ref Interactive}

def Execution.result (x : Execution src) (casing : Casing) (vars : StrMap) : Ref Interactive :=
  (interpolateInteractive casing vars x.orders (some src) x.next).1.get rfl

structure Faithful (casing : Casing) (vars : StrMap) (src : Ref Interactive) : Prop where
  runs : Nonempty (Execution src)
  /-- The result is the same for all runs. -/
  same : ∀ x x' : Execution src, frame (x.result casing vars).val = frame (x'.result casing vars).val ∧
    (payload (x.result casing vars).val).node = (payload (x'.result casing vars).val).node
  /-- Every map has as many entries in it as in the source. -/
  kept : ∀ x : Execution src, ∀ path size, (payload src.val).node path = some (.map size) →
    (payload (x.result casing vars).val).node (path.map (Step.resolved casing vars)) = some (.map size)
  /-- Nothing in it is at an address of the source. -/
  apart : ∀ x : Execution src, ∀ addr, Holds (x.result casing vars) addr → ¬ Holds src addr

/-- No part of the value is a reference of a type other than slices and maps of `interface{}`. -/
def NoPointer (v : Val) : Prop := ∀ path addr typ text, v.reach path ≠ some (.pointer addr typ text)

/-! ## Addresses of a value -/

theorem holds_cases {v : Val} {addr : Addr} (h : v.Holds addr) :
    v.addr? = some addr ∨ ∃ step w, v.child step = some w ∧ w.Holds addr := by
  obtain ⟨path, w, hreach, haddr⟩ := h
  cases path with
  | nil =>
    obtain rfl := Option.some.inj hreach
    exact Or.inl haddr
  | cons step path =>
    obtain ⟨v', hchild, hreach'⟩ := Val.child_of_reach hreach
    exact Or.inr ⟨step, v', hchild, path, w, hreach', haddr⟩

def Bounded (v : Val) : Prop := ∃ next, ∀ addr, v.Holds addr → addr < next

theorem bounded_of_parts {v : Val} (next : Addr) (haddr : ∀ addr, v.addr? = some addr → addr < next)
    (hparts : ∀ step w, v.child step = some w → ∀ addr, w.Holds addr → addr < next) : Bounded v := by
  refine ⟨next, fun addr h => ?_⟩
  rcases holds_cases h with h | ⟨step, w, hchild, h⟩
  · exact haddr addr h
  · exact hparts step w hchild addr h

theorem bounded_scalar {v : Val} (haddr : v.addr? = none) (hchild : ∀ step, v.child step = none) : Bounded v := by
  refine bounded_of_parts 0 ?_ ?_
  · intro addr h
    rw [haddr] at h
    cases h
  · intro step w h
    rw [hchild] at h
    cases h

mutual
theorem bounded : ∀ v, Bounded v
  | .nil | .bool _ | .float64 _ | .string _ | .nilMap | .scalar .. => bounded_scalar rfl fun step => by cases step <;> rfl
  | .pointer a typ text => by
    refine bounded_of_parts (a + 1) ?_ ?_
    · rintro addr h
      cases h
      exact Nat.lt_succ_self _
    · intro step w h
      cases step <;> cases h
  | .map a kvs => by
    obtain ⟨next, hnext⟩ := bounded_entries kvs
    refine bounded_of_parts (max next (a + 1)) ?_ ?_
    · rintro addr h
      cases h
      exact Nat.lt_of_lt_of_le (Nat.lt_succ_self _) (Nat.le_max_right next (a + 1))
    · intro step w h addr hw
      cases step with
      | index i => cases h
      | key k =>
        exact Nat.lt_of_lt_of_le (hnext _ (Assoc.mem_of_lookup h) addr hw) (Nat.le_max_left next (a + 1))
  | .slice a xs => by
    obtain ⟨next, hnext⟩ := bounded_items xs
    refine bounded_of_parts (max next (a + 1)) ?_ ?_
    · rintro addr h
      cases h
      exact Nat.lt_of_lt_of_le (Nat.lt_succ_self _) (Nat.le_max_right next (a + 1))
    · intro step w h addr hw
      cases step with
      | key k => cases h
      | index i =>
        exact Nat.lt_of_lt_of_le (hnext _ (List.mem_of_getElem? h) addr hw) (Nat.le_max_left next (a + 1))
theorem bounded_entries : ∀ kvs : List (String × Val), ∃ next, ∀ kv ∈ kvs, ∀ addr, kv.2.Holds addr → addr < next
  | [] => ⟨0, fun _ h => by cases h⟩
  | (_, v) :: kvs => by
    obtain ⟨n, hn⟩ := bounded v
    obtain ⟨m, hm⟩ := bounded_entries kvs
    refine ⟨max n m, fun kv hkv addr h => ?_⟩
    rcases List.mem_cons.mp hkv with rfl | hkv
    · exact Nat.lt_of_lt_of_le (hn addr h) (Nat.le_max_left n m)
    · exact Nat.lt_of_lt_of_le (hm kv hkv addr h) (Nat.le_max_right n m)
theorem bounded_items : ∀ xs : List Val, ∃ next, ∀ v ∈ xs, ∀ addr, v.Holds addr → addr < next
  | [] => ⟨0, fun _ h => by cases h⟩
  | v :: xs => by
    obtain ⟨n, hn⟩ := bounded v
    obtain ⟨m, hm⟩ := bounded_items xs
    refine ⟨max n m, fun w hw addr h => ?_⟩
    rcases List.mem_cons.mp hw with rfl | hw
    · exact Nat.lt_of_lt_of_le (hn addr h) (Nat.le_max_left n m)
    · exact Nat.lt_of_lt_of_le (hm w hw addr h) (Nat.le_max_right n m)
end

/-! ## The result's payload, its frame and its addresses -/

variable {casing : Casing} {vars : StrMap} {orders : Orders}

def payloadFrom (src : Interactive) (next : Addr) : Addr := next + 5 + src.action.sectionCount

theorem payload_interpolated (src : Interactive) (next : Addr) :
    payload (interpolated casing vars orders src next).1.val =
      (interpolateValue casing vars orders (payload src) (payloadFrom src next)).1 := by
  cases h : src.action.flowActionPayload with
  | none =>
    simp only [payload, interpolated, interpolateMap, h]
    rw [interpolateValue]
  | some r =>
    simp only [payload, interpolated, interpolateMap, h]
    rw [interpolateValue]
    rfl

theorem unplaced_copySlice {α : Type} (f : Nat → α → α) (src : Option (Ref (List α))) (addr addr' : Addr) :
    (copySlice f src addr).map unplaced = (copySlice f src addr').map unplaced := by
  cases src with
  | none => rfl
  | some src =>
    simp only [copySlice]
    split
    · rfl
    · rfl

theorem unplaced_sections (casing : Casing) (vars : StrMap) (src : Option (Ref (List Section))) (next next' addr addr' : Addr) :
    ((copySlice (fun i => interpolateSection casing vars (next + 5 + i)) src addr).map
        fun s => (⟨0, s.val.map unplacedSection⟩ : Ref (List Section))) =
      (copySlice (fun i => interpolateSection casing vars (next' + 5 + i)) src addr').map
        fun s => (⟨0, s.val.map unplacedSection⟩ : Ref (List Section)) := by
  have hsection : ∀ (a a' : Addr) (s : Section),
      unplacedSection (interpolateSection casing vars a s) = unplacedSection (interpolateSection casing vars a' s) := by
    intro a a' s
    simp only [unplacedSection, interpolateSection]
    rw [unplaced_copySlice]
  cases src with
  | none => rfl
  | some src =>
    have hlist : (src.val.mapIdx fun i => interpolateSection casing vars (next + 5 + i)).map unplacedSection =
        (src.val.mapIdx fun i => interpolateSection casing vars (next' + 5 + i)).map unplacedSection := by
      apply List.ext_getElem?
      intro i
      rw [List.getElem?_map, List.getElem?_map, List.getElem?_mapIdx, List.getElem?_mapIdx]
      cases src.val[i]? with
      | none => rfl
      | some s => exact congrArg some (hsection _ _ s)
    simp only [copySlice]
    split
    · rfl
    · rw [Option.map_some, Option.map_some, hlist]

theorem frame_interpolated (orders' : Orders) (src : Interactive) (next next' : Addr) :
    frame (interpolated casing vars orders src next).1.val = frame (interpolated casing vars orders' src next').1.val := by
  have hbuttons := unplaced_copySlice (fun _ => interpolateButton casing vars) src.action.buttons (next + 3) (next' + 3)
  have hsections := unplaced_sections casing vars src.action.sections next next' (next + 4) (next' + 4)
  simp only [frame, interpolated, Option.map_map]
  rw [hbuttons, hsections]
  rfl

theorem mem_addrOf {α : Type} {o : Option (Ref α)} {addr : Addr} (h : addr ∈ addrOf o) :
    ∃ r, o = some r ∧ addr = r.addr := by
  obtain ⟨r, hr, rfl⟩ := List.mem_map.mp h
  exact ⟨r, Option.mem_toList.mp hr, rfl⟩

theorem copySlice_some {α : Type} {f : Nat → α → α} {src : Option (Ref (List α))} {addr : Addr} {r : Ref (List α)}
    (h : copySlice f src addr = some r) : r.addr = addr ∧ ∃ xs, r.val = List.mapIdx f xs := by
  cases src with
  | none => cases h
  | some src =>
    simp only [copySlice] at h
    split at h
    · cases h
    · obtain rfl := Option.some.inj h
      exact ⟨rfl, src.val, rfl⟩

theorem addrs_interpolated {src : Interactive} {next addr : Addr}
    (h : addr ∈ addrs (interpolated casing vars orders src next).1.val) : next ≤ addr := by
  simp only [addrs, List.mem_append] at h
  rcases h with (((h | h) | h) | h) | h
  · obtain ⟨r, hr, rfl⟩ := mem_addrOf h
    obtain ⟨t, -, rfl⟩ := Option.map_eq_some_iff.mp hr
    exact Nat.le_add_right next 1
  · obtain ⟨r, hr, rfl⟩ := mem_addrOf h
    obtain ⟨t, -, rfl⟩ := Option.map_eq_some_iff.mp hr
    exact Nat.le_add_right next 2
  · obtain ⟨r, hr, rfl⟩ := mem_addrOf h
    rw [(copySlice_some hr).1]
    exact Nat.le_add_right next 3
  · obtain ⟨r, hr, rfl⟩ := mem_addrOf h
    rw [(copySlice_some hr).1]
    exact Nat.le_add_right next 4
  · obtain ⟨s, hs, hinside⟩ := List.mem_flatMap.mp h
    obtain ⟨sec, hsec, hrows⟩ := List.mem_flatMap.mp hinside
    obtain ⟨-, xs, hxs⟩ := copySlice_some (Option.mem_toList.mp hs)
    rw [hxs] at hsec
    obtain ⟨i, _, rfl⟩ := List.mem_mapIdx.mp hsec
    obtain ⟨r, hr, rfl⟩ := mem_addrOf hrows
    rw [(copySlice_some hr).1, Nat.add_assoc]
    exact Nat.le_add_right next (5 + i)

theorem addr_interpolateValue {v : Val} (h : ∀ addr typ text, v ≠ .pointer addr typ text) {next addr : Addr}
    (haddr : (interpolateValue casing vars orders v next).1.addr? = some addr) : next = addr := by
  cases v with
  | pointer a typ text => exact absurd rfl (h a typ text)
  | map a kvs =>
    rw [interpolateValue] at haddr
    exact Option.some.inj haddr
  | slice a xs =>
    rw [interpolateValue] at haddr
    exact Option.some.inj haddr
  | _ =>
    rw [interpolateValue] at haddr
    cases haddr

theorem holds_interpolateValue {v : Val} (h : Distinct casing vars v) (hpointer : NoPointer v) {next addr : Addr}
    (hholds : (interpolateValue casing vars orders v next).1.Holds addr) : next ≤ addr := by
  obtain ⟨path', w, hw, haddr⟩ := hholds
  obtain ⟨path, u, -, hu, m, hm, rfl⟩ := reach_interpolateValue h hw
  have hplain : ∀ a typ text, u ≠ .pointer a typ text := by
    rintro a typ text rfl
    exact hpointer path a typ text hu
  rw [← addr_interpolateValue hplain haddr]
  exact hm

/-! ## Clashes lose entries -/

/-- When no entry is lost, no two keys came to the same. -/
theorem apart_of_size (orders : Orders) {v : Val} (next : Addr)
    (h : ∀ size, v.top = .map size → (interpolateValue casing vars orders v next).1.top = .map size) :
    Apart casing vars v := by
  cases v with
  | map addr kvs =>
    obtain ⟨kvs', writes, hperm, hmerge, hwrites⟩ := interpolateMap_spec orders kvs next
    have hsize := h kvs.length rfl
    rw [interpolateValue, hmerge] at hsize
    have hlen : (Assoc.merge [] writes).length = kvs.length := Node.map.inj hsize
    have hall : ([] : List (String × Val)).length + writes.length ≤ (Assoc.merge [] writes).length := by
      rw [hlen, ← hperm.length_eq, hwrites.length_eq, List.length_nil, Nat.zero_add]
    have hnodup := (Assoc.keyed_of_length_merge hall).1
    rw [Assoc.Keyed, writes_keys hwrites] at hnodup
    exact (hperm.map _).nodup_iff.mp hnodup
  | _ => exact True.intro

theorem distinct_of_kept {v : Val} {next : Addr}
    (h : ∀ path size, v.node path = some (.map size) →
      (interpolateValue casing vars orders v next).1.node (path.map (Step.resolved casing vars)) = some (.map size)) :
    Distinct casing vars v := by
  intro path u hu
  have hapart : Apart casing vars v := by
    refine apart_of_size orders next fun size hsize => ?_
    exact Option.some.inj (h [] size (congrArg some hsize))
  induction path generalizing v next with
  | nil =>
    obtain rfl := Option.some.inj hu
    exact hapart
  | cons step path ih =>
    obtain ⟨v', hchild, hreach⟩ := Val.child_of_reach hu
    obtain ⟨w, hchild', m, -, rfl⟩ := interpolateValue_child orders hapart hchild next
    have hkept : ∀ path size, v'.node path = some (.map size) →
        (interpolateValue casing vars orders v' m).1.node (path.map (Step.resolved casing vars)) =
          some (.map size) := by
      intro path size hnode
      have := h (step :: path) size (by rw [Val.node, Val.reach_cons hchild]; exact hnode)
      rwa [Val.node, List.map_cons, Val.reach_cons hchild'] at this
    refine ih hkept hreach (apart_of_size orders m fun size hsize => ?_)
    exact Option.some.inj (hkept [] size (congrArg some hsize))

/-! ## Exactly then -/

theorem execution_exists (src : Ref Interactive) : Nonempty (Execution src) := by
  obtain ⟨n, hn⟩ := bounded (payload src.val)
  obtain ⟨m, hm⟩ := (addrs src.val).toFinset.exists_nat_subset_range
  refine ⟨⟨fun _ => 0, max (max n m) (src.addr + 1), ?_⟩⟩
  rintro addr (rfl | h | h)
  · exact Nat.lt_of_lt_of_le (Nat.lt_succ_self _) (Nat.le_max_right _ _)
  · have hlt : addr < m := Finset.mem_range.mp (hm (List.mem_toFinset.mpr h))
    exact Nat.lt_of_lt_of_le hlt (Nat.le_trans (Nat.le_max_right n m) (Nat.le_max_left _ _))
  · exact Nat.lt_of_lt_of_le (hn addr h) (Nat.le_trans (Nat.le_max_left n m) (Nat.le_max_left _ _))

namespace Execution

variable (x x' : Execution src)

theorem payload_result : payload (x.result casing vars).val =
    (interpolateValue casing vars x.orders (payload src.val) (payloadFrom src.val x.next)).1 :=
  payload_interpolated src.val x.next

theorem frame_result : frame (x.result casing vars).val = frame (x'.result casing vars).val :=
  frame_interpolated x'.orders src.val x.next x'.next

variable (h : Distinct casing vars (payload src.val))
include h

theorem node_result : (payload (x.result casing vars).val).node = (payload (x'.result casing vars).val).node := by
  funext path
  apply Option.ext
  intro nd
  rw [payload_result, payload_result]
  exact (node_interpolateValue h _ path nd).trans (node_interpolateValue h _ path nd).symm

theorem size_result {path : List Step} {size : Nat} (hnode : (payload src.val).node path = some (.map size)) :
    (payload (x.result casing vars).val).node (path.map (Step.resolved casing vars)) = some (.map size) := by
  rw [payload_result]
  exact (node_interpolateValue h _ _ _).mpr ⟨path, .map size, rfl, hnode, rfl⟩

theorem apart_result (hpointer : NoPointer (payload src.val)) {addr : Addr}
    (hholds : Holds (x.result casing vars) addr) : ¬ Holds src addr := by
  have hle : x.next ≤ addr := by
    rcases hholds with heq | hframe | hpayload
    · exact Nat.le_of_eq heq.symm
    · exact addrs_interpolated hframe
    · rw [payload_result] at hpayload
      refine Nat.le_trans ?_ (holds_interpolateValue h hpointer hpayload)
      exact Nat.le_trans (Nat.le_add_right _ 5) (Nat.le_add_right _ _)
  exact fun hsrc => Nat.lt_irrefl _ (Nat.lt_of_lt_of_le (x.unused addr hsrc) hle)

theorem pointer_result {path : List Step} {addr : Addr} {typ text : String}
    (hreach : (payload src.val).reach path = some (.pointer addr typ text)) :
    Holds (x.result casing vars) addr ∧ Holds src addr := by
  obtain ⟨w, hw, m, -, rfl⟩ := interpolateValue_reach x.orders h hreach (payloadFrom src.val x.next)
  rw [← payload_result, interpolateValue] at hw
  exact ⟨Or.inr (Or.inr ⟨_, _, hw, rfl⟩), Or.inr (Or.inr ⟨_, _, hreach, rfl⟩)⟩

end Execution

/-- The executions agree, keep every entry and share nothing exactly when no two keys of a map of the payload
resolve to the same, and nothing in it is a reference of another type. -/
theorem faithful_iff (casing : Casing) (vars : StrMap) (src : Ref Interactive) :
    Faithful casing vars src ↔ Distinct casing vars (payload src.val) ∧ NoPointer (payload src.val) := by
  constructor
  · intro h
    obtain ⟨x⟩ := h.runs
    have hkept : ∀ path size, (payload src.val).node path = some (.map size) →
        (interpolateValue casing vars x.orders (payload src.val) (payloadFrom src.val x.next)).1.node
          (path.map (Step.resolved casing vars)) = some (.map size) := by
      intro path size hnode
      rw [← x.payload_result]
      exact h.kept x path size hnode
    have hdistinct := distinct_of_kept hkept
    refine ⟨hdistinct, fun path addr typ text hreach => ?_⟩
    obtain ⟨hr, hsrc⟩ := x.pointer_result hdistinct hreach
    exact h.apart x addr hr hsrc
  · rintro ⟨hdistinct, hpointer⟩
    exact
      { runs := execution_exists src
        same := fun x x' => ⟨x.frame_result x', x.node_result x' hdistinct⟩
        kept := fun x path size hnode => x.size_result hdistinct hnode
        apart := fun x addr => x.apart_result hdistinct hpointer }

/-! ## Two keys that come to the same -/

def twins : StrMap := [("first", "plan"), ("second", "plan")]

/-- The payload `{"{{first}}": "A", "{{second}}": "B"}`. -/
def flow : Ref Interactive :=
  ⟨1, { type := "flow", header := none, body := ⟨"Oi"⟩, footer := none
        action := ⟨"", none, none, "", "77", "Abrir", "navigate",
          some ⟨2, [("\x7b\x7bfirst\x7d\x7d", .string "A"), ("\x7b\x7bsecond\x7d\x7d", .string "B")]⟩⟩ }⟩

theorem string_holds_nothing (s : String) (addr : Addr) : ¬ (Val.string s).Holds addr := by
  intro h
  rcases holds_cases h with haddr | ⟨step, w, hchild, -⟩
  · cases haddr
  · cases step <;> cases hchild

theorem flow_holds {addr : Addr} (h : Holds flow addr) : addr < 3 := by
  rcases h with rfl | h | h
  · decide
  · cases h
  · rcases holds_cases h with haddr | ⟨step, w, hchild, hw⟩
    · obtain rfl := Option.some.inj haddr
      decide
    · cases step with
      | index i => cases hchild
      | key k =>
        have hmem : (k, w) ∈ [("\x7b\x7bfirst\x7d\x7d", Val.string "A"), ("\x7b\x7bsecond\x7d\x7d", Val.string "B")] :=
          Assoc.mem_of_lookup hchild
        rcases List.mem_pair.mp hmem with hkv | hkv
        · obtain ⟨rfl, rfl⟩ := Prod.mk.inj hkv
          exact absurd hw (string_holds_nothing _ addr)
        · obtain ⟨rfl, rfl⟩ := Prod.mk.inj hkv
          exact absurd hw (string_holds_nothing _ addr)

def inOrder (pick : Nat) : Execution flow := ⟨fun _ => pick, 3, fun _ => flow_holds⟩

/-- Two orders, two results, and one entry where there were two. -/
theorem clash :
    (payload ((inOrder 0).result latinCasing twins).val).node [.key "plan"] = some (.string "B") ∧
      (payload ((inOrder 1).result latinCasing twins).val).node [.key "plan"] = some (.string "A") ∧
      (payload ((inOrder 0).result latinCasing twins).val).node [] = some (.map 1) ∧
      ¬ Faithful latinCasing twins flow := by
  have hfirst : (payload ((inOrder 0).result latinCasing twins).val).node [.key "plan"] = some (.string "B") := by
    decide +kernel
  have hsecond : (payload ((inOrder 1).result latinCasing twins).val).node [.key "plan"] = some (.string "A") := by
    decide +kernel
  refine ⟨hfirst, hsecond, by decide +kernel, fun h => ?_⟩
  have hsame := congrFun (h.same (inOrder 0) (inOrder 1)).2 [.key "plan"]
  rw [hfirst, hsecond] at hsame
  exact absurd hsame (by decide)

end PerGo.L4.InterpolationOrder
