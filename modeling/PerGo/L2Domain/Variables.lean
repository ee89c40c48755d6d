import PerGo.L1Encoding.GoString

/-!
# Placeholders in a text

`ResolveVariables` (domain/campaign.go:169-192) replaces what the expression of two opening
braces, `.+?` and two closing braces matches: from the left, each match as short as it can be, and none
inside another. `.` is any character but a line feed.

* `Match`, `Scan`: what the expression matches, and how a text divides into its matches and the
  characters between them.
* `segments_scan`: the scanner divides a text so; `Scan.unique`: in one way only.
* `Scan.source`: nothing of the text is lost.

`unicode.ToLower` is a parameter (`Casing`): a map of characters that changes nothing the second time, and no
digit.
-/
namespace PerGo.L2

open PerGo.L1

/-- `unicode.ToLower`. -/
structure Casing where
  lower : Char → Char
  idem : ∀ c, lower (lower c) = lower c
  digit : ∀ c, c.isDigit → lower c = c

/-- `strings.ToLower`. -/
def Casing.toLower (casing : Casing) (s : String) : String := String.ofList (s.toList.map casing.lower)

theorem Casing.toLower_toLower (casing : Casing) (s : String) :
    casing.toLower (casing.toLower s) = casing.toLower s := by
  simp only [Casing.toLower, String.toList_ofList, List.map_map]
  congr 1
  apply List.map_congr_left
  intro c _
  exact casing.idem c

/-- Nothing in `s` has a smaller letter. -/
def Casing.Lowered (casing : Casing) (s : String) : Prop := casing.toLower s = s

theorem Casing.lowered_of_forall {casing : Casing} {s : String} (h : ∀ c ∈ s.toList, casing.lower c = c) :
    casing.Lowered s := by
  rw [Lowered, toLower, List.map_congr_left h, List.map_id', String.ofList_toList]

theorem mem_of_mem_trimSpace {s : String} {c : Char} (h : c ∈ (trimSpace s).toList) : c ∈ s.toList := by
  rw [trimSpace, String.toList_ofList, List.mem_reverse] at h
  have hleft := (List.dropWhile_sublist _).mem h
  exact (List.dropWhile_sublist _).mem (List.mem_reverse.mp hleft)

theorem Casing.lowered_trimSpace (casing : Casing) (s : String) :
    casing.Lowered (trimSpace (casing.toLower s)) := by
  apply lowered_of_forall
  intro c hc
  have hmem := mem_of_mem_trimSpace hc
  rw [toLower, String.toList_ofList, List.mem_map] at hmem
  obtain ⟨c₀, -, rfl⟩ := hmem
  exact casing.idem c₀

theorem Casing.lowered_index (casing : Casing) (n : Nat) : casing.Lowered (formatInt n) := by
  apply lowered_of_forall
  intro c hc
  rw [formatInt, if_neg (by omega), String.toList_ofList] at hc
  exact casing.digit c (Nat.isDigit_of_mem_toDigits (by decide) (by decide) hc)

theorem lowerChar_of_small : ∀ n : Fin 26, lowerChar (Char.ofNat (97 + n)) = Char.ofNat (97 + n) := by decide

theorem lowerChar_lowerChar (c : Char) : lowerChar (lowerChar c) = lowerChar c := by
  by_cases hcapital : 'A' ≤ c ∧ c ≤ 'Z'
  · have hlow : 65 ≤ c.toNat := hcapital.1
    have hhigh : c.toNat ≤ 90 := hcapital.2
    have hletter := lowerChar_of_small ⟨c.toNat - 65, by omega⟩
    have hcode : 97 + (c.toNat - 65) = c.toNat + 32 := by omega
    have hc : lowerChar c = Char.ofNat (c.toNat + 32) := if_pos hcapital
    rw [hc, ← hcode]
    exact hletter
  · by_cases hdotted : c.toNat = 0x130
    · have hc : lowerChar c = 'i' := by rw [lowerChar, if_neg hcapital, if_pos hdotted]
      rw [hc]
      decide
    · by_cases hkelvin : c.toNat = 0x212A
      · have hc : lowerChar c = 'k' := by rw [lowerChar, if_neg hcapital, if_neg hdotted, if_pos hkelvin]
        rw [hc]
        decide
      · have hc : lowerChar c = c := by rw [lowerChar, if_neg hcapital, if_neg hdotted, if_neg hkelvin]
        rw [hc, hc]

theorem lowerChar_digit (c : Char) (h : c.isDigit) : lowerChar c = c := by
  have hhigh : c.toNat ≤ 57 := by
    simp only [Char.isDigit, Bool.and_eq_true, decide_eq_true_eq] at h
    exact h.2
  have hcapital : ¬ ('A' ≤ c ∧ c ≤ 'Z') := by
    intro hcapital
    have hlow : 65 ≤ c.toNat := hcapital.1
    omega
  rw [lowerChar, if_neg hcapital, if_neg (by omega), if_neg (by omega)]

/-- The letters of `lowerChar`. -/
def latinCasing : Casing := ⟨lowerChar, lowerChar_lowerChar, lowerChar_digit⟩

/-! ## The expression -/

/-- The text starts with a match around `inner`, and goes on with `tail`. -/
def Match (cs inner tail : List Char) : Prop :=
  cs = '\x7b' :: '\x7b' :: (inner ++ '\x7d' :: '\x7d' :: tail) ∧ inner ≠ [] ∧ '\n' ∉ inner

inductive Segment
  | char (c : Char)
  | placeholder (inner : List Char)
deriving DecidableEq

def Segment.source : Segment → List Char
  | .char c => [c]
  | .placeholder inner => '\x7b' :: '\x7b' :: (inner ++ ['\x7d', '\x7d'])

inductive Scan : List Char → List Segment → Prop
  | done : Scan [] []
  | placeholder {cs inner tail : List Char} {segments : List Segment} (at_ : Match cs inner tail)
      (shortest : ∀ inner' tail', Match cs inner' tail' → inner.length ≤ inner'.length) (rest : Scan tail segments) :
      Scan cs (.placeholder inner :: segments)
  | char {c : Char} {cs : List Char} {segments : List Segment} (none_ : ∀ inner tail, ¬ Match (c :: cs) inner tail)
      (rest : Scan cs segments) : Scan (c :: cs) (.char c :: segments)

/-! ## The scanner -/

/-- Up to the next two closing braces, on the same line. -/
def closing : List Char → Option (List Char × List Char)
  | [] => none
  | c :: rest =>
    if c = '\x7d' ∧ rest.head? = some '\x7d' then some ([], rest.tail)
    else if c = '\n' then none
    else (closing rest).map fun x => (c :: x.1, x.2)

def matchAt : List Char → Option (List Char × List Char)
  | '\x7b' :: '\x7b' :: c :: rest => if c = '\n' then none else (closing rest).map fun x => (c :: x.1, x.2)
  | _ => none

/-- `fuel` is the length of the text. -/
def scan : Nat → List Char → List Segment
  | 0, _ => []
  | _, [] => []
  | fuel + 1, c :: rest => match matchAt (c :: rest) with
    | some (inner, tail) => .placeholder inner :: scan fuel tail
    | none => .char c :: scan fuel rest

def segments (input : String) : List Segment := scan input.toList.length input.toList

section ResolveVariables

variable (casing : Casing) (row : StrMap)

/-- What a match is replaced with. mirrors campaign.go:184-191 -/
def replacement (inner : List Char) : List Char :=
  match row.lookup (casing.toLower (trimSpace (String.ofList inner))) with
  | some val => val.toList
  | none => (Segment.placeholder inner).source

def Segment.resolved : Segment → List Char
  | .char c => [c]
  | .placeholder inner => replacement casing row inner

/-- mirrors campaign.go:183-192 -/
def resolveVariables (input : String) : String :=
  String.ofList ((segments input).flatMap (Segment.resolved casing row))

end ResolveVariables

/-! ## The scanner finds the matches -/

theorem closing_some {cs inner tail : List Char} (h : closing cs = some (inner, tail)) :
    cs = inner ++ '\x7d' :: '\x7d' :: tail ∧ '\n' ∉ inner ∧
      ∀ inner' tail', cs = inner' ++ '\x7d' :: '\x7d' :: tail' → inner.length ≤ inner'.length := by
  induction cs generalizing inner with
  | nil => cases h
  | cons c rest ih =>
    rw [closing] at h
    split at h
    · rename_i hc
      obtain ⟨rfl, rfl⟩ := Prod.mk.inj (Option.some.inj h)
      obtain ⟨rfl, hhead⟩ := hc
      obtain ⟨more, rfl⟩ := List.head?_eq_some_iff.mp hhead
      exact ⟨rfl, List.not_mem_nil, fun _ _ _ => Nat.zero_le _⟩
    · rename_i hc
      split at h
      · cases h
      · rename_i hline
        obtain ⟨⟨inner₀, tail₀⟩, hrest, hpair⟩ := Option.map_eq_some_iff.mp h
        obtain ⟨rfl, rfl⟩ := Prod.mk.inj hpair
        obtain ⟨rfl, hno, hshort⟩ := ih hrest
        refine ⟨rfl, ?_, ?_⟩
        · simp only [List.mem_cons, not_or]
          exact ⟨fun he => hline he.symm, hno⟩
        · intro inner' tail' heq
          cases inner' with
          | nil =>
            obtain ⟨rfl, hrest'⟩ := List.cons.inj heq
            exact absurd ⟨rfl, by rw [hrest']; rfl⟩ hc
          | cons c' inner' =>
            obtain ⟨-, hrest'⟩ := List.cons.inj heq
            exact Nat.succ_le_succ (hshort inner' tail' hrest')

theorem closing_none {cs : List Char} (h : closing cs = none) (inner tail : List Char) :
    cs = inner ++ '\x7d' :: '\x7d' :: tail → '\n' ∈ inner := by
  induction cs generalizing inner with
  | nil =>
    intro heq
    simp at heq
  | cons c rest ih =>
    intro heq
    rw [closing] at h
    split at h
    · cases h
    · rename_i hc
      cases inner with
      | nil =>
        obtain ⟨rfl, hrest⟩ := List.cons.inj heq
        exact absurd ⟨rfl, by rw [hrest]; rfl⟩ hc
      | cons c' inner =>
        obtain ⟨rfl, hrest⟩ := List.cons.inj heq
        split at h
        · rename_i hline
          rw [hline]
          exact List.mem_cons_self
        · exact List.mem_cons_of_mem _ (ih (Option.map_eq_none_iff.mp h) inner hrest)

theorem matchAt_some {cs inner tail : List Char} (h : matchAt cs = some (inner, tail)) :
    Match cs inner tail ∧ ∀ inner' tail', Match cs inner' tail' → inner.length ≤ inner'.length := by
  unfold matchAt at h
  split at h
  · rename_i c rest
    split at h
    · cases h
    · rename_i hline
      obtain ⟨⟨inner₀, tail₀⟩, hrest, hpair⟩ := Option.map_eq_some_iff.mp h
      obtain ⟨rfl, rfl⟩ := Prod.mk.inj hpair
      obtain ⟨rfl, hno, hshort⟩ := closing_some hrest
      refine ⟨⟨rfl, List.cons_ne_nil _ _, ?_⟩, ?_⟩
      · simp only [List.mem_cons, not_or]
        exact ⟨fun he => hline he.symm, hno⟩
      · rintro inner' tail' ⟨heq, hne, -⟩
        cases inner' with
        | nil => exact absurd rfl hne
        | cons c' inner' =>
          simp only [List.cons_append, List.cons.injEq, true_and] at heq
          exact Nat.succ_le_succ (hshort inner' tail' heq.2)
  · cases h

theorem matchAt_none {cs : List Char} (h : matchAt cs = none) (inner tail : List Char) : ¬ Match cs inner tail := by
  rintro ⟨rfl, hne, hno⟩
  cases inner with
  | nil => exact hne rfl
  | cons c inner =>
    simp only [List.cons_append, matchAt] at h
    split at h
    · rename_i hline
      exact hno (hline ▸ List.mem_cons_self)
    · have hline := closing_none (Option.map_eq_none_iff.mp h) inner tail rfl
      exact hno (List.mem_cons_of_mem _ hline)

theorem Match.tail_lt {cs inner tail : List Char} (h : Match cs inner tail) : tail.length < cs.length := by
  rw [h.1]
  simp only [List.length_cons, List.length_append]
  omega

theorem scan_spec {fuel : Nat} {cs : List Char} (h : cs.length ≤ fuel) : Scan cs (scan fuel cs) := by
  induction fuel generalizing cs with
  | zero =>
    obtain rfl := List.length_eq_zero_iff.mp (Nat.le_zero.mp h)
    exact .done
  | succ fuel ih =>
    cases cs with
    | nil => exact .done
    | cons c rest =>
      rw [scan]
      cases hm : matchAt (c :: rest) with
      | none =>
        exact .char (matchAt_none hm) (ih (Nat.le_of_succ_le_succ h))
      | some x =>
        obtain ⟨inner, tail⟩ := x
        obtain ⟨hmatch, hshort⟩ := matchAt_some hm
        have htail := hmatch.tail_lt
        exact .placeholder hmatch hshort (ih (by omega))

theorem segments_scan (input : String) : Scan input.toList (segments input) := scan_spec (Nat.le_refl _)

/-- There is one division of a text. -/
theorem Scan.unique {cs : List Char} {segs segs' : List Segment} (h : Scan cs segs) (h' : Scan cs segs') :
    segs = segs' := by
  induction h generalizing segs' with
  | done =>
    cases h' with
    | done => rfl
    | placeholder at_ => cases at_.1
  | placeholder at_ shortest rest ih =>
    rename_i inner _ _
    cases h' with
    | done => cases at_.1
    | placeholder at_' shortest' rest' =>
      rename_i inner' _ _
      have hlen : inner.length = inner'.length :=
        Nat.le_antisymm (shortest _ _ at_') (shortest' _ _ at_)
      have heq := at_.1.symm.trans at_'.1
      simp only [List.cons.injEq, true_and] at heq
      obtain ⟨rfl, htail⟩ := List.append_inj heq hlen
      obtain rfl := (List.cons.inj (List.cons.inj htail).2).2
      rw [ih rest']
    | char none_' _ => exact absurd at_ (none_' _ _)
  | char none_ _ ih =>
    cases h' with
    | placeholder at_' _ _ => exact absurd at_' (none_ _ _)
    | char _ rest' => rw [ih rest']

theorem Scan.source {cs : List Char} {segs : List Segment} (h : Scan cs segs) : segs.flatMap Segment.source = cs := by
  induction h with
  | done => rfl
  | placeholder at_ _ _ ih =>
    rw [List.flatMap_cons, ih, at_.1]
    simp [Segment.source]
  | char _ _ ih =>
    rw [List.flatMap_cons, ih]
    rfl

end PerGo.L2
