import Mathlib.Data.List.MinMax
import PerGo.L1Encoding.JsonText

/-!
# Character references in attribute values of HTML

What a browser makes of the text between the quotes of an attribute. A reference is named (the longest name counts)
or numbered. A name without a semicolon stands for itself when a letter, a digit or `=` follows. The table of names
and the characters of the numbers are parameters.

* `decode_append`, `decode_param`: text without an ampersand stays, and so does an ampersand in front of the name of
  a query parameter.
* `decode_break`: no reference goes on behind a character that stands in none.
-/
namespace PerGo.L1

structure CharacterReferences where
  /-- Names, most of them with a semicolon at the end, and what they stand for. -/
  named : List (List Char × List Char)
  words : ∀ e ∈ named, ∃ word, (∀ c ∈ word, c.isAlphanum = true) ∧ word ≠ [] ∧ (e.1 = word ∨ e.1 = word ++ [';'])
  numbered : Nat → Char

namespace CharacterReferences

variable (refs : CharacterReferences)

def longest (s : List Char) : Option (List Char × List Char) :=
  (refs.named.filter fun e => e.1.isPrefixOf s).argmax fun e => e.1.length

/-- The characters that keep a name without a semicolon from being a reference. -/
def goesOn (c : Char) : Bool := c = '=' || c.isAlphanum

def byName (s : List Char) : Option (List Char × List Char) :=
  (refs.longest s).bind fun e =>
    let rest := s.drop e.1.length
    if e.1.getLast? ≠ some ';' ∧ rest.head?.any goesOn = true then none else some (e.2, rest)

def dropSemicolon (s : List Char) : List Char := if s.head? = some ';' then s.tail else s

def number (base : Nat) (isDigit : Char → Bool) (s : List Char) : Option (List Char × List Char) :=
  if s.takeWhile isDigit = [] then none
  else some ([refs.numbered ((s.takeWhile isDigit).foldl (fun n c => base * n + (JsonText.hexValue c).getD 0) 0)],
    dropSemicolon (s.dropWhile isDigit))

/-- Behind `&#`. -/
def byNumber (s : List Char) : Option (List Char × List Char) :=
  if s.head? = some 'x' ∨ s.head? = some 'X' then refs.number 16 (fun c => (JsonText.hexValue c).isSome) s.tail
  else refs.number 10 isDigit s

/-- Behind an ampersand: what the reference stands for, and the rest. -/
def reference (s : List Char) : Option (List Char × List Char) :=
  if s.head? = some '#' then refs.byNumber s.tail else refs.byName s

/-- The first `n` steps of decoding. -/
def decodeUpTo : Nat → List Char → List Char
  | 0, _ => []
  | _ + 1, [] => []
  | n + 1, c :: s =>
    match if c = '&' then refs.reference s else none with
    | some (text, rest) => text ++ decodeUpTo n rest
    | none => c :: decodeUpTo n s

def decode (s : List Char) : List Char := refs.decodeUpTo s.length s

variable {refs}

theorem length_dropSemicolon (s : List Char) : (dropSemicolon s).length ≤ s.length := by
  unfold dropSemicolon
  split
  · rw [List.length_tail]
    omega
  · exact Nat.le_refl _

theorem number_length {base : Nat} {isDigit : Char → Bool} {s text rest : List Char}
    (h : refs.number base isDigit s = some (text, rest)) : rest.length ≤ s.length := by
  unfold number at h
  split at h
  · cases h
  · cases h
    exact (length_dropSemicolon _).trans (List.dropWhile_sublist isDigit).length_le

theorem reference_length {s text rest : List Char} (h : refs.reference s = some (text, rest)) : rest.length ≤ s.length := by
  unfold reference at h
  split at h
  · unfold byNumber at h
    split at h
    · have hrest := number_length h
      simp only [List.length_tail] at hrest
      omega
    · have hrest := number_length h
      rw [List.length_tail] at hrest
      omega
  · obtain ⟨e, -, h⟩ := Option.bind_eq_some_iff.mp h
    dsimp only at h
    split at h
    · cases h
    · cases h
      rw [List.length_drop]
      omega

theorem decodeUpTo_enough {n m : Nat} {s : List Char} (hn : s.length ≤ n) (hm : s.length ≤ m) :
    refs.decodeUpTo n s = refs.decodeUpTo m s := by
  induction n generalizing s m with
  | zero =>
    obtain rfl := List.length_eq_zero_iff.mp (Nat.le_zero.mp hn)
    cases m <;> rfl
  | succ n ih =>
    cases s with
    | nil => cases m <;> rfl
    | cons c s =>
      rw [List.length_cons] at hn hm
      obtain ⟨m, rfl⟩ : ∃ k, m = k + 1 := ⟨m - 1, by omega⟩
      rw [decodeUpTo, decodeUpTo]
      split
      · rename_i text rest hreference
        have hlength : rest.length ≤ s.length := by
          split at hreference
          · exact reference_length hreference
          · cases hreference
        rw [ih (m := m) (by omega) (by omega)]
      · rw [ih (m := m) (by omega) (by omega)]

theorem decode_cons (c : Char) (s : List Char) : refs.decode (c :: s) =
    match if c = '&' then refs.reference s else none with
    | some (text, rest) => text ++ refs.decode rest
    | none => c :: refs.decode s := by
  unfold decode
  rw [List.length_cons, decodeUpTo]
  split
  · rename_i text rest hreference
    have hlength : rest.length ≤ s.length := by
      split at hreference
      · exact reference_length hreference
      · cases hreference
    rw [decodeUpTo_enough hlength (Nat.le_refl _)]
  · rfl

theorem decode_append {plain : List Char} (h : '&' ∉ plain) (s : List Char) :
    refs.decode (plain ++ s) = plain ++ refs.decode s := by
  induction plain with
  | nil => rfl
  | cons c plain ih =>
    rw [List.mem_cons, not_or] at h
    rw [List.cons_append, decode_cons, if_neg (Ne.symm h.1), ih h.2]
    rfl

theorem decode_plain {s : List Char} (h : '&' ∉ s) : refs.decode s = s := by
  have happend : refs.decode (s ++ []) = s ++ refs.decode [] := decode_append h []
  rw [List.append_nil] at happend
  rw [happend]
  exact List.append_nil s

/-! ## Where references end -/

theorem longest_spec {s : List Char} {e : List Char × List Char} (h : refs.longest s = some e) :
    e ∈ refs.named ∧ e.1 <+: s := by
  have hmem := List.argmax_mem h
  rw [List.mem_filter, List.isPrefixOf_iff_prefix] at hmem
  exact hmem

theorem not_goesOn_of_byName {s text rest : List Char} (h : refs.byName s = some (text, rest)) :
    ∃ name, s = name ++ rest ∧ (∃ e ∈ refs.named, e.1 = name) ∧ (name.getLast? = some ';' ∨ rest.head?.any goesOn = false) := by
  obtain ⟨e, he, h⟩ := Option.bind_eq_some_iff.mp h
  obtain ⟨hmem, hprefix⟩ := longest_spec he
  obtain ⟨behind, rfl⟩ := hprefix
  dsimp only at h
  rw [List.drop_left] at h
  split at h
  · cases h
  · rename_i hno
    cases h
    refine ⟨e.1, rfl, ⟨e, hmem, rfl⟩, ?_⟩
    rw [not_and_or, not_not, Bool.not_eq_true] at hno
    exact hno

/-- Letters in front of more text end at a `=` in it. -/
theorem letters_before_equals {letters more word value : List Char} (hletters : ∀ c ∈ letters, c.isAlphanum = true)
    (h : letters ++ more = word ++ '=' :: value) : ∃ left, word = letters ++ left ∧ more = left ++ '=' :: value := by
  rcases List.append_eq_append_iff.mp h with ⟨left, hword, hmore⟩ | ⟨beyond, hbeyond, hvalue⟩
  · exact ⟨left, hword, hmore⟩
  · cases beyond with
    | nil =>
      rw [List.append_nil] at hbeyond
      exact ⟨[], by rw [hbeyond, List.append_nil], hvalue.symm⟩
    | cons c beyond =>
      obtain ⟨rfl, -⟩ := List.cons.inj hvalue
      have hequals := hletters '=' (by rw [hbeyond]; simp)
      exact absurd hequals (by decide)

theorem reference_param {word : List Char} (hne : word ≠ []) (hword : ∀ c ∈ word, c.isAlphanum = true)
    (value : List Char) : refs.reference (word ++ '=' :: value) = none := by
  obtain ⟨first, more, hfirst⟩ := List.exists_cons_of_ne_nil hne
  have hnumber : ¬ (word ++ '=' :: value).head? = some '#' := by
    rw [hfirst, List.cons_append, List.head?_cons, Option.some.injEq]
    rintro rfl
    have hhash := hword '#' (by rw [hfirst]; exact List.mem_cons_self)
    exact absurd hhash (by decide)
  unfold reference
  rw [if_neg hnumber]
  cases hname : refs.byName (word ++ '=' :: value) with
  | none => rfl
  | some found =>
    exfalso
    obtain ⟨name, hsplit, ⟨e, hmem, hname⟩, hend⟩ := not_goesOn_of_byName hname
    obtain ⟨letters, hletters, -, he⟩ := refs.words e hmem
    rw [hname] at he
    rcases he with rfl | rfl
    · obtain ⟨left, rfl, hrest⟩ := letters_before_equals hletters hsplit.symm
      rcases hend with hend | hend
      · exact absurd (hletters ';' (List.mem_of_getLast? hend)) (by decide)
      · rw [hrest] at hend
        cases left with
        | nil => simp [goesOn] at hend
        | cons c left =>
          have hc := hword c (by simp)
          simp [goesOn, hc] at hend
    · rw [List.append_assoc] at hsplit
      obtain ⟨left, rfl, hrest⟩ := letters_before_equals hletters hsplit.symm
      cases left with
      | nil => exact absurd (List.cons.inj hrest).1 (by decide)
      | cons c left =>
        obtain ⟨rfl, -⟩ := List.cons.inj hrest
        exact absurd (hword ';' (by simp)) (by decide)

theorem decode_param {word : List Char} (hne : word ≠ []) (hword : ∀ c ∈ word, c.isAlphanum = true) (value : List Char) :
    refs.decode ('&' :: (word ++ '=' :: value)) = '&' :: (word ++ '=' :: refs.decode value) := by
  have hplain : '&' ∉ word ++ ['='] := by
    rw [List.mem_append, not_or]
    refine ⟨fun h => ?_, by decide⟩
    exact absurd (hword '&' h) (by decide)
  have hvalue : refs.decode (word ++ ['='] ++ value) = word ++ ['='] ++ refs.decode value := decode_append hplain value
  rw [List.append_assoc, List.append_assoc] at hvalue
  rw [decode_cons, if_pos rfl, reference_param hne hword]
  exact congrArg ('&' :: ·) hvalue

def isBreak (c : Char) : Bool := !(goesOn c || c = ';' || c = '#' || c = '&')

theorem alphanum_of_hexValue {c : Char} (h : (JsonText.hexValue c).isSome = true) : c.isAlphanum = true := by
  unfold JsonText.hexValue at h
  unfold Char.isAlphanum Char.isAlpha Char.isUpper Char.isLower Char.isDigit
  simp only [Bool.or_eq_true, Bool.and_eq_true, decide_eq_true_eq]
  split at h
  · rename_i hdigit
    exact .inr hdigit
  · split at h
    · rename_i hsmall
      have hhigh : c.val ≤ 102 := hsmall.2
      exact .inl (.inr ⟨hsmall.1, UInt32.le_trans hhigh (by decide)⟩)
    · split at h
      · rename_i hcapital
        have hhigh : c.val ≤ 70 := hcapital.2
        exact .inl (.inl ⟨hcapital.1, UInt32.le_trans hhigh (by decide)⟩)
      · cases h

section Break

variable {c : Char} (hc : isBreak c = true)
include hc

theorem goesOn_break : goesOn c = false := by
  unfold isBreak at hc
  simp only [Bool.not_or, Bool.and_eq_true, Bool.not_eq_true'] at hc
  exact hc.1.1.1

theorem break_ne : c ≠ ';' ∧ c ≠ '#' ∧ c ≠ '&' := by
  unfold isBreak at hc
  simp only [Bool.not_or, Bool.and_eq_true, Bool.not_eq_true', decide_eq_false_iff_not] at hc
  exact ⟨hc.1.1.2, hc.1.2, hc.2⟩

theorem not_alphanum_break : c.isAlphanum = false := by
  have h := goesOn_break hc
  unfold goesOn at h
  rw [Bool.or_eq_false_iff] at h
  exact h.2

theorem longest_break (x y : List Char) : refs.longest (x ++ c :: y) = refs.longest x := by
  unfold longest
  congr 1
  refine List.filter_congr fun e he => ?_
  obtain ⟨word, hword, -, hname⟩ := refs.words e he
  have hnot : c ∉ e.1 := by
    have hletters : c ∉ word := fun h => by
      have halnum := not_alphanum_break hc
      rw [hword c h] at halnum
      cases halnum
    rcases hname with hname | hname
    · rwa [hname]
    · rw [hname, List.mem_append, List.mem_singleton, not_or]
      exact ⟨hletters, (break_ne hc).1⟩
  rw [Bool.eq_iff_iff, List.isPrefixOf_iff_prefix, List.isPrefixOf_iff_prefix]
  constructor
  · rintro ⟨t, ht⟩
    rcases List.append_eq_append_iff.mp ht with ⟨left, hx, -⟩ | ⟨beyond, hbeyond, hrest⟩
    · exact ⟨left, hx.symm⟩
    · cases beyond with
      | nil => exact ⟨[], by rw [hbeyond]; simp⟩
      | cons d beyond =>
        obtain ⟨rfl, -⟩ := List.cons.inj hrest
        exact absurd (by rw [hbeyond]; simp) hnot
  · exact fun h => h.trans (List.prefix_append _ _)

theorem byName_break (x y : List Char) :
    refs.byName (x ++ c :: y) = (refs.byName x).map fun r => (r.1, r.2 ++ c :: y) := by
  unfold byName
  rw [longest_break hc]
  cases hlongest : refs.longest x with
  | none => rfl
  | some e =>
    obtain ⟨rest, rfl⟩ := (longest_spec hlongest).2
    simp only [Option.bind_some, List.append_assoc, List.drop_left]
    have hhead : (rest ++ c :: y).head?.any goesOn = rest.head?.any goesOn := by
      cases rest with
      | nil => exact goesOn_break hc
      | cons d rest => rfl
    rw [hhead]
    split <;> rfl

theorem number_break {base : Nat} {isDigit : Char → Bool} (hdigit : isDigit c = false) (x y : List Char) :
    refs.number base isDigit (x ++ c :: y) = (refs.number base isDigit x).map fun r => (r.1, r.2 ++ c :: y) := by
  have htake : (x ++ c :: y).takeWhile isDigit = x.takeWhile isDigit := by
    rw [List.takeWhile_append]
    split
    · rename_i hall
      have hx : x.takeWhile isDigit = x := (List.takeWhile_prefix isDigit).eq_of_length hall
      rw [hx, List.takeWhile_cons_of_neg (by simp [hdigit]), List.append_nil]
    · rfl
  have hdrop : (x ++ c :: y).dropWhile isDigit = x.dropWhile isDigit ++ c :: y := by
    rw [List.dropWhile_append]
    split
    · rename_i hall
      rw [List.isEmpty_iff] at hall
      rw [hall, List.dropWhile_cons_of_neg (by simp [hdigit]), List.nil_append]
    · rfl
  have hsemicolon : ∀ s : List Char, dropSemicolon (s ++ c :: y) = dropSemicolon s ++ c :: y := by
    intro s
    unfold dropSemicolon
    cases s with
    | nil =>
      rw [List.nil_append, List.head?_cons, if_neg (by simpa using (break_ne hc).1)]
      rfl
    | cons d s =>
      rw [List.cons_append, List.head?_cons, List.head?_cons]
      split <;> rfl
  unfold number
  rw [htake, hdrop, hsemicolon]
  split <;> rfl

theorem reference_break (x y : List Char) :
    refs.reference (x ++ c :: y) = (refs.reference x).map fun r => (r.1, r.2 ++ c :: y) := by
  have hnot := not_alphanum_break hc
  have hhex : (JsonText.hexValue c).isSome = false := by
    by_contra hdigit
    rw [Bool.not_eq_false] at hdigit
    rw [alphanum_of_hexValue hdigit] at hnot
    cases hnot
  have hdecimal : isDigit c = false := by
    by_contra hdigit
    rw [Bool.not_eq_false, isDigit, Bool.and_eq_true, decide_eq_true_eq, decide_eq_true_eq] at hdigit
    have hvalue : (JsonText.hexValue c).isSome = true := by rw [JsonText.hexValue, if_pos hdigit, Option.isSome_some]
    rw [hvalue] at hhex
    cases hhex
  have hnumber : ∀ s, refs.byNumber (s ++ c :: y) = (refs.byNumber s).map fun r => (r.1, r.2 ++ c :: y) := by
    intro s
    unfold byNumber
    cases s with
    | nil =>
      have hx : c ≠ 'x' ∧ c ≠ 'X' := by
        constructor <;> (rintro rfl; exact absurd hnot (by decide))
      rw [List.nil_append, List.head?_cons, if_neg (by simpa using hx), if_neg (by simp)]
      exact number_break hc hdecimal [] y
    | cons d s =>
      rw [List.cons_append, List.head?_cons, List.head?_cons]
      split
      · exact number_break hc hhex s y
      · exact number_break hc hdecimal (d :: s) y
  unfold reference
  cases x with
  | nil =>
    rw [List.nil_append, List.head?_cons, if_neg (by simpa using (break_ne hc).2.1), if_neg (by simp)]
    exact byName_break hc [] y
  | cons d x =>
    rw [List.cons_append, List.head?_cons, List.head?_cons]
    split
    · exact hnumber x
    · exact byName_break hc (d :: x) y

end Break

theorem decode_break {c : Char} (hc : isBreak c = true) (x y : List Char) :
    refs.decode (x ++ c :: y) = refs.decode x ++ c :: refs.decode y := by
  induction hlength : x.length using Nat.strongRecOn generalizing x with
  | ind n ih =>
    cases x with
    | nil =>
      rw [List.nil_append, decode_cons, if_neg (break_ne hc).2.2]
      rfl
    | cons d x =>
      rw [List.length_cons] at hlength
      rw [List.cons_append, decode_cons, decode_cons]
      by_cases hd : d = '&'
      · rw [if_pos hd, if_pos hd, reference_break hc]
        cases href : refs.reference x with
        | none =>
          simp only [Option.map_none]
          rw [ih x.length (by omega) x rfl, List.cons_append]
        | some r =>
          have hrest : r.2.length ≤ x.length := reference_length href
          simp only [Option.map_some]
          rw [ih r.2.length (by omega) r.2 rfl, List.append_assoc]
      · rw [if_neg hd, if_neg hd]
        simp only
        rw [ih x.length (by omega) x rfl, List.cons_append]

end CharacterReferences

end PerGo.L1
