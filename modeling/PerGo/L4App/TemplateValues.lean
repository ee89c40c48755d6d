import PerGo.Core.Fallible
import PerGo.Core.Paired
import PerGo.L3Outbound.TemplateParams

/-!
# Template parameters and their values

Each entry of a JSON object whose keys are numbers, and each element of a JSON array, should come out
of `NormalizeTemplateParams` as a parameter of its own, with its own type and its own text or link.

* `normalized_own_iff`: exactly when the entries do. The keys are read as numbers and written again for
  the lookup (outbound/template_params.go:64-76), so the entry of a number written in another
  way, `01` or `+1`, gets the value under `1`, or none; and of an element with a link only its type
  is kept (:28-40), as `TemplateParameter` has a text and nothing else.
* `leading_zero`: an entry whose number is written with a zero in front.
-/
namespace PerGo.L4.TemplateValues

open PerGo.Core PerGo.L1 PerGo.L2 PerGo.L3.Outbound

/-! ## What an entry stands for -/

/-- The link of an image, a video or a document, in the form that the channel sends
(whatsapp/waba.go:70-82). -/
def mediaLink (type : String) (kvs : List (String × GoVal)) : String :=
  if type = "image" ∨ type = "video" ∨ type = "document" then
    match kvs.lookup type with
    | some (.map media) => match media.lookup "link" with
      | some (.string link) => link
      | _ => ""
    | _ => ""
  else ""

/-- The parameter of a value: a text, the type and the text or link of an object, or the text of
anything else. An object whose type or text is no string has none. -/
def own : GoVal → Option TemplateParameter
  | .string s => some ⟨"text", s⟩
  | .map kvs => (paramOfMap kvs).map fun tp =>
    ⟨if tp.type = "" ∧ tp.text ≠ "" then "text" else tp.type, if tp.text = "" then mediaLink tp.type kvs else tp.text⟩
  | .param p => some p
  | v => some ⟨"text", v.format⟩

/-- The value is no object, or one whose type and text are strings and that has no link for a text. -/
def Expressible : GoVal → Prop
  | .map kvs => ∃ tp, paramOfMap kvs = some tp ∧ (tp.text = "" → mediaLink tp.type kvs = "")
  | _ => True

theorem toParam_own (v : GoVal) : (∃ p, toParam v = .ok p ∧ own v = some p) ↔ Expressible v := by
  cases v with
  | map kvs =>
    cases htp : paramOfMap kvs with
    | none =>
      constructor
      · rintro ⟨p, hp, -⟩
        simp only [toParam, htp] at hp
        cases hp
      · rintro ⟨tp, hsome, -⟩
        rw [htp] at hsome
        cases hsome
    | some tp =>
      let type := if tp.type = "" ∧ tp.text ≠ "" then "text" else tp.type
      have hcode : toParam (.map kvs) = .ok ⟨type, tp.text⟩ := by
        simp only [toParam, htp, type]
        split <;> rfl
      have hown : own (.map kvs) = some ⟨type, if tp.text = "" then mediaLink tp.type kvs else tp.text⟩ := by
        simp only [own, htp, Option.map_some, type]
      constructor
      · rintro ⟨p, hp, hp'⟩
        obtain rfl := Except.ok.inj (hcode.symm.trans hp)
        have htexts := congrArg TemplateParameter.text (Option.some.inj (hown.symm.trans hp'))
        refine ⟨tp, htp, fun hempty => ?_⟩
        simpa [hempty] using htexts
      · rintro ⟨tp', htp', hlink⟩
        obtain rfl := Option.some.inj (htp.symm.trans htp')
        have htext : (if tp.text = "" then mediaLink tp.type kvs else tp.text) = tp.text := by
          by_cases hempty : tp.text = ""
          · rw [if_pos hempty, hlink hempty, hempty]
          · rw [if_neg hempty]
        exact ⟨_, hcode, htext ▸ hown⟩
  | _ => exact iff_of_true ⟨_, rfl, rfl⟩ True.intro

/-! ## Objects and arrays -/

def numberOf (k : String) : Int := (parseInt64 k).getD 0

/-- The value under the number of a key, as `strconv.Itoa` writes it. -/
def found (kvs : List (String × GoVal)) (k : String) : GoVal := (kvs.lookup (formatInt (numberOf k))).getD .nil

/-- One parameter for each entry, by ascending keys. -/
def ObjectKept (kvs : List (String × GoVal)) : Prop :=
  ∃ ps, normalizeTemplateParams (.map kvs) = .ok ps ∧
    ∃ entries, entries.Perm kvs ∧ entries.Pairwise (fun a b => numberOf a.1 ≤ numberOf b.1) ∧
      List.Forall₂ (fun kv p => own kv.2 = some p) entries (ps.getD [])

/-- One parameter for each element, in their order. -/
def ArrayKept (xs : List GoVal) : Prop :=
  ∃ ps, normalizeTemplateParams (.slice xs) = .ok ps ∧ List.Forall₂ (fun v p => own v = some p) xs (ps.getD [])

theorem getD_appended (out : List TemplateParameter) : (appended out).getD [] = out := by
  unfold appended
  split
  · rename_i h
    rw [h]
    rfl
  · rfl

theorem bind_appended (x : Except String (List TemplateParameter)) :
    (do let out ← x; pure (appended out)) = x.map appended := by
  cases x <;> rfl

theorem map_appended {x : Except String (List TemplateParameter)} {ps : Option (List TemplateParameter)} :
    x.map appended = .ok ps ↔ x = .ok (ps.getD []) ∧ ps = appended (ps.getD []) := by
  cases x with
  | error e => exact iff_of_false (fun h => by cases h) (fun h => by cases h.1)
  | ok out =>
    constructor
    · intro h
      obtain rfl := Except.ok.inj h
      rw [getD_appended]
      exact ⟨rfl, rfl⟩
    · rintro ⟨hout, hps⟩
      rw [Except.ok.inj hout]
      exact congrArg Except.ok hps.symm

theorem normalize_slice {xs : List GoVal} {ps : Option (List TemplateParameter)} :
    normalizeTemplateParams (.slice xs) = .ok ps ↔
      List.Forall₂ (fun v p => toParam v = .ok p) xs (ps.getD []) ∧ ps = appended (ps.getD []) := by
  have hcode : normalizeTemplateParams (.slice xs) = (xs.mapM toParam).map appended := by
    rw [normalizeTemplateParams]
    exact bind_appended _
  rw [hcode, map_appended, mapM_ok_iff]

theorem arrayKept_iff (xs : List GoVal) : ArrayKept xs ↔ ∀ v ∈ xs, Expressible v := by
  constructor
  · rintro ⟨ps, hps, hown⟩ v hv
    obtain ⟨p, -, hp⟩ := forall₂_left (forall₂_and (normalize_slice.mp hps).1 hown) hv
    exact (toParam_own v).mp ⟨p, hp⟩
  · intro h
    obtain ⟨out, hout⟩ := exists_forall₂ fun v hv => (toParam_own v).mpr (h v hv)
    refine ⟨appended out, normalize_slice.mpr ?_, ?_⟩
    · rw [getD_appended]
      exact ⟨hout.imp fun _ _ hp => hp.1, rfl⟩
    · rw [getD_appended]
      exact hout.imp fun _ _ hp => hp.2

/-- Every key is a number. -/
def Numeric (kvs : List (String × GoVal)) : Prop := ∀ kv ∈ kvs, (parseInt64 kv.1).isSome

theorem numericKeys_ok {kvs : List (String × GoVal)} (h : Numeric kvs) :
    numericKeys (kvs.map (·.1)) = .ok (kvs.map fun kv => numberOf kv.1) := by
  induction kvs with
  | nil => rfl
  | cons kv kvs ih =>
    obtain ⟨hfirst, hrest⟩ := List.forall_mem_cons.mp h
    obtain ⟨n, hn⟩ := Option.isSome_iff_exists.mp hfirst
    have hnumber : numberOf kv.1 = n := by rw [numberOf, hn, Option.getD_some]
    rw [List.map_cons, numericKeys, hn, ih hrest, List.map_cons, hnumber]
    rfl

/-- The keys in ascending order are the keys of the entries in ascending order. -/
theorem sorted_numbers {kvs entries : List (String × GoVal)} (hperm : entries.Perm kvs)
    (hsorted : entries.Pairwise fun a b => numberOf a.1 ≤ numberOf b.1) :
    (kvs.map fun kv => numberOf kv.1).insertionSort (· ≤ ·) = entries.map fun kv => numberOf kv.1 := by
  have hnumbers : (entries.map fun kv => numberOf kv.1).Pairwise (· ≤ ·) := List.pairwise_map.mpr hsorted
  have hsame := (List.perm_insertionSort (· ≤ ·) (kvs.map fun kv => numberOf kv.1)).trans (hperm.map _).symm
  exact hsame.eq_of_pairwise' (List.pairwise_insertionSort _ _) hnumbers

theorem normalize_map {kvs entries : List (String × GoVal)} (h : Numeric kvs) (hperm : entries.Perm kvs)
    (hsorted : entries.Pairwise fun a b => numberOf a.1 ≤ numberOf b.1) {ps : Option (List TemplateParameter)} :
    normalizeTemplateParams (.map kvs) = .ok ps ↔
      List.Forall₂ (fun kv p => toParam (found kvs kv.1) = .ok p) entries (ps.getD []) ∧ ps = appended (ps.getD []) := by
  let param := fun n => toParam ((kvs.lookup (formatInt n)).getD .nil)
  have hcode : normalizeTemplateParams (.map kvs) =
      ((entries.map fun kv => numberOf kv.1).mapM param).map appended := by
    rw [← sorted_numbers hperm hsorted, normalizeTemplateParams, numericKeys_ok h]
    exact bind_appended _
  rw [hcode, map_appended, mapM_ok_iff, List.forall₂_map_left_iff]
  exact Iff.rfl

def ascending (kvs : List (String × GoVal)) : List (String × GoVal) :=
  kvs.insertionSort fun a b => numberOf a.1 ≤ numberOf b.1

theorem ascending_sorted (kvs : List (String × GoVal)) :
    (ascending kvs).Pairwise fun a b => numberOf a.1 ≤ numberOf b.1 := by
  have htotal : Std.Total fun a b : String × GoVal => numberOf a.1 ≤ numberOf b.1 := ⟨fun _ _ => Int.le_total _ _⟩
  have htrans : IsTrans (String × GoVal) fun a b => numberOf a.1 ≤ numberOf b.1 := ⟨fun _ _ _ => Int.le_trans⟩
  exact List.pairwise_insertionSort _ _

theorem found_of_lookup {kvs : List (String × GoVal)} {k : String} {v : GoVal}
    (h : kvs.lookup (formatInt (numberOf k)) = some v) : found kvs k = v := by
  rw [found, h, Option.getD_some]

/-- The key that is looked up is looked up again under itself. -/
theorem numberOf_formatInt {k : String} (h : (parseInt64 k).isSome) : numberOf (formatInt (numberOf k)) = numberOf k := by
  obtain ⟨n, hn⟩ := Option.isSome_iff_exists.mp h
  have hnumber : numberOf k = n := by rw [numberOf, hn, Option.getD_some]
  rw [hnumber, numberOf, parseInt64_formatInt (parseInt64_range hn), Option.getD_some]

theorem objectKept_iff {kvs : List (String × GoVal)} (h : Numeric kvs) :
    ObjectKept kvs ↔ ∀ kv ∈ kvs, Expressible (found kvs kv.1) ∧ own (found kvs kv.1) = own kv.2 := by
  constructor
  · rintro ⟨ps, hps, entries, hperm, hsorted, hown⟩
    have hcode := (normalize_map h hperm hsorted).mp hps
    have hentry : ∀ kv ∈ kvs, ∃ p, toParam (found kvs kv.1) = .ok p ∧ own kv.2 = some p := by
      intro kv hkv
      obtain ⟨p, -, hp⟩ := forall₂_left (forall₂_and hcode.1 hown) (hperm.mem_iff.mpr hkv)
      exact ⟨p, hp⟩
    intro kv hkv
    obtain ⟨p, hparam, hvalue⟩ := hentry kv hkv
    have hfound : Expressible (found kvs kv.1) := by
      cases hlookup : kvs.lookup (formatInt (numberOf kv.1)) with
      | none =>
        have hnil : found kvs kv.1 = .nil := by rw [found, hlookup, Option.getD_none]
        rw [hnil]
        exact True.intro
      | some v =>
        -- the value found is the value of an entry that finds itself
        obtain ⟨p', hparam', hvalue'⟩ := hentry _ (Assoc.mem_of_lookup hlookup)
        have hself : found kvs (formatInt (numberOf kv.1)) = v := by
          rw [found, numberOf_formatInt (h kv hkv), hlookup, Option.getD_some]
        rw [hself] at hparam'
        rw [found_of_lookup hlookup]
        exact (toParam_own v).mp ⟨p', hparam', hvalue'⟩
    obtain ⟨p', hparam', hvalue'⟩ := (toParam_own _).mpr hfound
    obtain rfl := Except.ok.inj (hparam.symm.trans hparam')
    exact ⟨hfound, hvalue'.trans hvalue.symm⟩
  · intro hall
    have hperm : (ascending kvs).Perm kvs := List.perm_insertionSort _ _
    have hsorted := ascending_sorted kvs
    have hparams : ∀ kv ∈ ascending kvs, ∃ p, toParam (found kvs kv.1) = .ok p ∧ own kv.2 = some p := by
      intro kv hkv
      obtain ⟨hfound, hsame⟩ := hall kv (hperm.mem_iff.mp hkv)
      rw [← hsame]
      exact (toParam_own _).mpr hfound
    obtain ⟨out, hout⟩ := exists_forall₂ hparams
    refine ⟨appended out, (normalize_map h hperm hsorted).mpr ?_, ascending kvs, hperm, hsorted, ?_⟩
    · rw [getD_appended]
      exact ⟨hout.imp fun _ _ hp => hp.1, rfl⟩
    · rw [getD_appended]
      exact hout.imp fun _ _ hp => hp.2

/-- The entries of an object with numbers for keys all come out exactly when what is found for each is expressible
and stands for the same parameter; the elements of an array exactly when each is expressible. -/
theorem normalized_own_iff (kvs : List (String × GoVal)) (h : Numeric kvs) (xs : List GoVal) :
    (ObjectKept kvs ↔ ∀ kv ∈ kvs, Expressible (found kvs kv.1) ∧ own (found kvs kv.1) = own kv.2) ∧
      (ArrayKept xs ↔ ∀ v ∈ xs, Expressible v) :=
  ⟨objectKept_iff h, arrayKept_iff xs⟩

/-- An object with the keys `10` and `2`, and an array of a text. -/
theorem two_before_ten :
    (ObjectKept [("10", .string "Bia"), ("2", .string "Ana")] ∧ ArrayKept [.string "Ana"]) ∧
      normalizeTemplateParams (.map [("10", .string "Bia"), ("2", .string "Ana")]) =
        .ok (some [⟨"text", "Ana"⟩, ⟨"text", "Bia"⟩]) := by
  have hnumeric : Numeric [("10", .string "Bia"), ("2", .string "Ana")] := by
    unfold Numeric
    decide +kernel
  obtain ⟨hobject, harray⟩ :=
    normalized_own_iff [("10", .string "Bia"), ("2", .string "Ana")] hnumeric [.string "Ana"]
  refine ⟨⟨hobject.mpr ?_, harray.mpr ?_⟩, by decide +kernel⟩
  · intro kv hkv
    rcases List.mem_pair.mp hkv with rfl | rfl
    · exact ⟨True.intro, by decide +kernel⟩
    · exact ⟨True.intro, by decide +kernel⟩
  · intro v hv
    obtain rfl := List.mem_singleton.mp hv
    exact True.intro

/-! ## Values that do not come out -/

/-- The entry under `01` is looked up under `1`. -/
theorem leading_zero :
    normalizeTemplateParams (.map [("01", .string "Ana")]) = .ok (some [⟨"text", "<nil>"⟩]) ∧
      Numeric [("01", .string "Ana")] ∧ ¬ ObjectKept [("01", .string "Ana")] := by
  have hcode : normalizeTemplateParams (.map [("01", .string "Ana")]) = .ok (some [⟨"text", "<nil>"⟩]) := by
    decide +kernel
  refine ⟨hcode, by unfold Numeric; decide +kernel, ?_⟩
  rintro ⟨ps, hps, entries, hperm, -, hown⟩
  obtain rfl := Except.ok.inj (hcode.symm.trans hps)
  obtain rfl := List.perm_singleton.mp hperm
  cases hown with
  | cons hfirst _ => exact absurd hfirst (by decide)

end PerGo.L4.TemplateValues
