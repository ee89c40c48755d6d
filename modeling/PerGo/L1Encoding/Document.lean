import PerGo.L1Encoding.Json

/-!
# JSON objects and how structs read them

An event payload is the JSON object some `json.Marshal` of a struct wrote: no
two of its keys fold to one name. `encoding/json` fills a struct field from the
key that folds to its name; a missing key and a `null` leave the zero value, a
value of another type is an error of the whole `Unmarshal`.

`Jsonb` is what a `JSONB` column does to such an object: it keeps keys and
values, not their order nor the spelling of nested values.
-/
namespace PerGo.L1

/-- One letter of `encoding/json`'s `foldName`, as far as it yields ASCII. -/
def foldRune (c : Char) : Char :=
  if 'A' ≤ c ∧ c ≤ 'Z' then Char.ofNat (c.toNat + 32)
  else if c.toNat = 0x17F then 's'
  else if c.toNat = 0x212A then 'k'
  else c

def foldName (s : String) : List Char := s.toList.map foldRune

structure Document where
  fields : List (String × Json)
  distinct : (fields.map fun kv => foldName kv.1).Nodup
deriving DecidableEq

namespace Document

/-- The value that fills the struct field `name`. -/
def get? (d : Document) (name : String) : Option Json :=
  (d.fields.find? fun kv => foldName kv.1 = foldName name).map (·.2)

/-- A `string` field; `none` is a type error. -/
def string (d : Document) (name : String) : Option String :=
  match d.get? name with
  | none | some .null => some ""
  | some (.str s) => some s
  | some _ => none

/-- A `bool` field; `none` is a type error. -/
def bool (d : Document) (name : String) : Option Bool :=
  match d.get? name with
  | none | some .null => some false
  | some (.bool b) => some b
  | some _ => none

/-- An `any` field; `none` is the nil interface. -/
def any (d : Document) (name : String) : Option Json :=
  match d.get? name with
  | none | some .null => none
  | some v => some v

/-- One entry of a decoded `map[string]string`. -/
def setEntry (m : StrMap) (kv : String × Json) : Option StrMap :=
  match kv.2 with
  | .str s => some (m.filter (·.1 ≠ kv.1) ++ [(kv.1, s)])
  | .null => some (m.filter (·.1 ≠ kv.1) ++ [(kv.1, "")])
  | _ => none

/-- A `map[string]string` field; `none` is a type error, the nil map `[]`. -/
def stringMap (d : Document) (name : String) : Option StrMap :=
  match d.get? name with
  | none | some .null => some []
  | some (.obj kvs) => kvs.foldlM setEntry []
  | some _ => none

/-- What `json.Marshal` writes of a struct: its fields in order, less those `omitempty` drops. -/
def present (entries : List (String × Option Json)) : List (String × Json) :=
  entries.filterMap fun kv => kv.2.map (kv.1, ·)

theorem present_keys (entries : List (String × Option Json)) :
    ((present entries).map (·.1)).Sublist (entries.map (·.1)) := by
  induction entries with
  | nil => exact List.Sublist.slnil
  | cons kv entries ih =>
    obtain ⟨k, v⟩ := kv
    cases v with
    | none => exact ih.cons k
    | some v => exact ih.cons_cons k

def ofEntries (entries : List (String × Option Json)) (h : (entries.map fun kv => foldName kv.1).Nodup) : Document :=
  ⟨present entries, by
    have hs : ((present entries).map fun kv => foldName kv.1).Sublist (entries.map fun kv => foldName kv.1) := by
      have := (present_keys entries).map foldName
      simpa only [List.map_map, Function.comp_def] using this
    exact hs.nodup h⟩

end Document

/-- `json:",omitempty"` on a string. -/
def omitEmpty (s : String) : Option Json := if s = "" then none else some (.str s)

/-- `json:",omitempty"` on a `map[string]string`; keys are written in order. -/
def omitEmptyMap (m : StrMap) : Option Json :=
  if m = [] then none
  else some (.obj ((m.insertionSort fun a b => a.1 ≤ b.1).map fun kv => (kv.1, .str kv.2)))

namespace Document

/-! ## Reading back what was written -/

section Written

variable {entries : List (String × Option Json)} {h : (entries.map fun kv => foldName kv.1).Nodup}

theorem find?_present {name : String} {v : Option Json} (hn : (entries.map fun kv => foldName kv.1).Nodup)
    (hmem : (name, v) ∈ entries) :
    ((present entries).find? fun kv => foldName kv.1 = foldName name).map (·.2) = v := by
  induction entries with
  | nil => cases hmem
  | cons kv entries ih =>
    obtain ⟨k, w⟩ := kv
    rw [List.map_cons, List.nodup_cons] at hn
    rcases List.mem_cons.mp hmem with heq | hrest
    · obtain ⟨rfl, rfl⟩ := Prod.mk.inj heq
      cases v with
      | some v =>
        show (((name, v) :: present entries).find? _).map _ = _
        rw [List.find?_cons_of_pos (by simp)]
        rfl
      | none =>
        -- no later key folds to the name
        show ((present entries).find? _).map _ = none
        rw [List.find?_eq_none.mpr, Option.map_none]
        intro kv hkv
        have hkey := (present_keys entries).subset (List.mem_map_of_mem hkv)
        obtain ⟨kv', hkv', heq⟩ := List.mem_map.mp hkey
        intro hfold
        refine hn.1 (List.mem_map.mpr ⟨kv', hkv', ?_⟩)
        rw [heq]
        simpa using hfold
    · have hne : foldName k ≠ foldName name := by
        intro he
        exact hn.1 (List.mem_map.mpr ⟨_, hrest, he.symm⟩)
      cases w with
      | none => exact ih hn.2 hrest
      | some w =>
        show (((k, w) :: present entries).find? _).map _ = _
        rw [List.find?_cons_of_neg (by simpa using hne)]
        exact ih hn.2 hrest

theorem get?_ofEntries {name : String} {v : Option Json} (hmem : (name, v) ∈ entries) :
    (ofEntries entries h).get? name = v := find?_present h hmem

theorem mem_present {entries : List (String × Option Json)} {name : String} {v : Json} :
    (name, v) ∈ present entries ↔ (name, some v) ∈ entries := by
  unfold present
  rw [List.mem_filterMap]
  constructor
  · rintro ⟨⟨k, w⟩, hmem, hkv⟩
    cases w with
    | none => cases hkv
    | some w =>
      cases hkv
      exact hmem
  · intro hmem
    exact ⟨_, hmem, rfl⟩

theorem get?_ofEntries_absent {name : String} (habs : foldName name ∉ entries.map fun kv => foldName kv.1) :
    (ofEntries entries h).get? name = none := by
  unfold get? ofEntries
  rw [List.find?_eq_none.mpr, Option.map_none]
  intro kv hkv
  obtain ⟨kv', hkv', heq⟩ := List.mem_map.mp ((present_keys entries).subset (List.mem_map_of_mem hkv))
  intro hfold
  refine habs (List.mem_map.mpr ⟨kv', hkv', ?_⟩)
  rw [heq]
  simpa using hfold

end Written

variable {d : Document} {name : String}

theorem get?_of_mem {v : Json} (h : (name, v) ∈ d.fields) : d.get? name = some v := by
  have hentries : (name, some v) ∈ d.fields.map fun kv => (kv.1, some kv.2) :=
    List.mem_map_of_mem (f := fun kv => (kv.1, some kv.2)) h
  have hpresent : present (d.fields.map fun kv => (kv.1, some kv.2)) = d.fields := by
    unfold present
    rw [List.filterMap_map]
    exact List.filterMap_some
  have hfind := find?_present (by simpa only [List.map_map, Function.comp_def] using d.distinct) hentries
  rwa [hpresent] at hfind

theorem string_of_str {s : String} (h : d.get? name = some (.str s)) : d.string name = some s := by
  unfold string
  rw [h]

theorem string_of_omitEmpty {s : String} (h : d.get? name = omitEmpty s) : d.string name = some s := by
  unfold string
  rw [h]
  unfold omitEmpty
  by_cases hs : s = ""
  · simp [hs]
  · simp [hs]

theorem string_of_none (h : d.get? name = none) : d.string name = some "" := by
  unfold string
  rw [h]

theorem any_of_none (h : d.get? name = none) : d.any name = none := by
  unfold any
  rw [h]

theorem any_of_get? {v : Option Json} (h : d.get? name = v) (hv : v ≠ some .null) : d.any name = v := by
  unfold any
  rw [h]
  split
  · rfl
  · exact absurd rfl hv
  · rfl

theorem foldlM_setEntry : ∀ (kvs acc : StrMap), ((acc ++ kvs).map (·.1)).Nodup →
    (kvs.map fun kv => (kv.1, Json.str kv.2)).foldlM setEntry acc = some (acc ++ kvs)
  | [], acc, _ => by rw [List.append_nil]; rfl
  | (k, v) :: kvs, acc, hn => by
    have hacc : acc.filter (fun kv => decide (kv.1 ≠ k)) = acc := by
      refine List.filter_eq_self.mpr fun kv hkv => ?_
      rw [List.map_append, List.map_cons] at hn
      have hne := (List.nodup_append.mp hn).2.2 kv.1 (List.mem_map_of_mem hkv) k List.mem_cons_self
      simpa using hne
    have hrest := foldlM_setEntry kvs (acc ++ [(k, v)]) (by rwa [List.append_assoc, List.singleton_append])
    rw [List.append_assoc, List.singleton_append] at hrest
    show (setEntry acc (k, .str v) >>= fun m => (kvs.map fun kv => (kv.1, Json.str kv.2)).foldlM setEntry m) = _
    show ((kvs.map fun kv => (kv.1, Json.str kv.2)).foldlM setEntry (acc.filter (fun kv => kv.1 ≠ k) ++ [(k, v)])) = _
    rw [hacc, hrest]

theorem stringMap_of_omitEmptyMap {m : StrMap} (hm : (m.map (·.1)).Nodup) (h : d.get? name = omitEmptyMap m) :
    d.stringMap name = some (m.insertionSort fun a b => a.1 ≤ b.1) := by
  have hperm := List.perm_insertionSort (fun a b : String × String => a.1 ≤ b.1) m
  unfold stringMap
  rw [h]
  unfold omitEmptyMap
  by_cases hnil : m = []
  · subst hnil
    rfl
  · rw [if_neg hnil]
    have hfold := foldlM_setEntry (m.insertionSort fun a b => a.1 ≤ b.1) []
      (by rw [List.nil_append]; exact (hperm.map _).nodup_iff.mpr hm)
    rwa [List.nil_append] at hfold

theorem stringMap_of_none (h : d.get? name = none) : d.stringMap name = some [] := by
  unfold stringMap
  rw [h]

end Document

/-! ## JSONB -/

inductive Json.SameShape : Json → Json → Prop
  | null : Json.SameShape .null .null
  | bool (b : Bool) : Json.SameShape (.bool b) (.bool b)
  | str (s : String) : Json.SameShape (.str s) (.str s)
  | num (m n : Dec) : Json.SameShape (.num m) (.num n)
  | arr (xs ys : List Json) : Json.SameShape (.arr xs) (.arr ys)
  | obj (xs ys : List (String × Json)) : Json.SameShape (.obj xs) (.obj ys)

/-- A `JSONB` column: a document comes back with the same keys, its values normalised, in the column's
own order; and what came back once comes back unchanged. -/
structure Jsonb where
  norm : Document → Document
  value : Json → Json
  sameShape : ∀ v, Json.SameShape v (value v)
  fields : ∀ d, (norm d).fields.Perm (d.fields.map fun kv => (kv.1, value kv.2))
  norm_norm : ∀ d, norm (norm d) = norm d

theorem find?_perm_of_nodup {α β : Type} [DecidableEq β] (key : α → β) {xs ys : List α} (h : xs.Perm ys)
    (hn : (xs.map key).Nodup) (b : β) :
    (xs.find? fun x => key x = b) = ys.find? fun x => key x = b := by
  induction h with
  | nil => rfl
  | cons x _ ih =>
    simp only [List.find?_cons]
    rw [ih (List.nodup_cons.mp hn).2]
  | swap x y l =>
    have hne : key y ≠ key x := by
      intro he
      simp [he] at hn
    simp only [List.find?_cons]
    by_cases hx : key x = b
    · have hy : key y ≠ b := fun hy => hne (hy.trans hx.symm)
      simp [hx, hy]
    · simp [hx]
  | trans h₁ _ ih₁ ih₂ =>
    rw [ih₁ hn, ih₂ ((h₁.map key).nodup_iff.mp hn)]

namespace Jsonb

variable (J : Jsonb)

def Same (a b : Document) : Prop := J.norm a = J.norm b

instance (a b : Document) : Decidable (J.Same a b) := inferInstanceAs (Decidable (_ = _))

theorem get?_norm (d : Document) (name : String) : (J.norm d).get? name = (d.get? name).map J.value := by
  have hperm := find?_perm_of_nodup (fun kv : String × Json => foldName kv.1) (J.fields d)
    (J.norm d).distinct (foldName name)
  unfold Document.get?
  rw [hperm, List.find?_map, Option.map_map, Option.map_map]
  rfl

theorem string_norm (d : Document) (name : String) : (J.norm d).string name = d.string name := by
  unfold Document.string
  rw [J.get?_norm]
  cases d.get? name with
  | none => rfl
  | some v =>
    have hv := J.sameShape v
    simp only [Option.map_some]
    generalize J.value v = w at hv
    cases hv <;> rfl

theorem bool_norm (d : Document) (name : String) : (J.norm d).bool name = d.bool name := by
  unfold Document.bool
  rw [J.get?_norm]
  cases d.get? name with
  | none => rfl
  | some v =>
    have hv := J.sameShape v
    simp only [Option.map_some]
    generalize J.value v = w at hv
    cases hv <;> rfl

end Jsonb

end PerGo.L1
