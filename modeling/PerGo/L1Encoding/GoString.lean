import Mathlib.Algebra.Group.Int.Defs
import Mathlib.Algebra.GroupWithZero.Nat
import Mathlib.Data.List.DropRight

/-!
# The parts of Go's `strings`, `strconv` and `map[string]string` the code uses

Everything works on the list of code points (`String.toList`), so that the
functions evaluate in the kernel. A `map[string]string` is an association list
with at most one entry per key in use; the nil map is `[]`, and reading a
missing key gives the empty string, as in Go.
-/
namespace PerGo.L1

theorem forall_mem_of_all {α : Type} {p : α → Prop} [DecidablePred p] {l : List α}
    (h : (l.all fun a => decide (p a)) = true) : ∀ a ∈ l, p a :=
  fun a ha => of_decide_eq_true (List.all_eq_true.mp h a ha)

/-- `unicode.IsSpace`: the Latin-1 blanks and the code points of category Z
and property White_Space. -/
def isSpace (c : Char) : Bool :=
  c = ' ' || (9 ≤ c.toNat && c.toNat ≤ 13) || c.toNat = 0x85 || c.toNat = 0xA0 ||
  c.toNat = 0x1680 || (0x2000 ≤ c.toNat && c.toNat ≤ 0x200A) || c.toNat = 0x2028 ||
  c.toNat = 0x2029 || c.toNat = 0x202F || c.toNat = 0x205F || c.toNat = 0x3000

/-- `strings.TrimSpace`. -/
def trimSpace (s : String) : String :=
  String.ofList ((s.toList.dropWhile isSpace).reverse.dropWhile isSpace).reverse

/-- What starts a list stripped of its leading `p`s does not satisfy `p`. -/
theorem dropWhile_of_prefix {p : Char → Bool} {l l' : List Char} (h : l' <+: l.dropWhile p) :
    l'.dropWhile p = l' := by
  cases l' with
  | nil => rfl
  | cons a t =>
    obtain ⟨r, hr⟩ := h
    have hne : l.dropWhile p ≠ [] := by rw [← hr]; simp
    have ha : p a = false := by simpa [← hr] using List.head_dropWhile_not p hne
    simp [ha]

theorem trimSpace_trimSpace (s : String) : trimSpace (trimSpace s) = trimSpace s := by
  have hp : ((s.toList.dropWhile isSpace).reverse.dropWhile isSpace).reverse <+: s.toList.dropWhile isSpace :=
    List.rdropWhile_prefix isSpace (s.toList.dropWhile isSpace)
  simp only [trimSpace, String.toList_ofList, dropWhile_of_prefix hp, List.reverse_reverse, List.dropWhile_idempotent]

/-- `strings.Contains(s, string(c))`. -/
def containsChar (s : String) (c : Char) : Bool := s.toList.contains c

/-- `strings.Contains`. -/
def containsStr (s sub : String) : Bool := s.toList.tails.any fun t => sub.toList.isPrefixOf t

/-- `strings.HasPrefix`. -/
def hasPrefix (s p : String) : Bool := p.toList.isPrefixOf s.toList

/-- `strings.TrimPrefix`. -/
def trimPrefix (s p : String) : String :=
  if hasPrefix s p then String.ofList (s.toList.drop p.toList.length) else s

/-- `strings.HasSuffix`. -/
def hasSuffix (s t : String) : Bool := t.toList.isSuffixOf s.toList

/-- `unicode.ToLower` as far as it yields ASCII: the letters `A` to `Z`, the dotted capital I and the
Kelvin sign. Other letters stay; they never become ASCII, and the code only compares lowered strings
with ASCII words. -/
def lowerChar (c : Char) : Char :=
  if 'A' ≤ c ∧ c ≤ 'Z' then Char.ofNat (c.toNat + 32)
  else if c.toNat = 0x130 then 'i'
  else if c.toNat = 0x212A then 'k'
  else c

/-- `strings.ToLower`. -/
def toLower (s : String) : String := String.ofList (s.toList.map lowerChar)

def isDigit (c : Char) : Bool := '0' ≤ c && c ≤ '9'

/-- The ASCII letter a letter folds with: the long s and the Kelvin sign are the two letters outside
ASCII that fold with one inside. -/
def foldChar (c : Char) : Char :=
  if 'A' ≤ c ∧ c ≤ 'Z' then Char.ofNat (c.toNat + 32)
  else if c.toNat = 0x17F then 's'
  else if c.toNat = 0x212A then 'k'
  else c

/-- `strings.EqualFold` where one side is ASCII, as a channel, a role, a type and a phone number are: whatever stands
on the other side, only these letters fold into it. -/
def equalFold (s word : String) : Bool := s.toList.map foldChar = word.toList.map foldChar

/-- `strings.SplitN(s, " ", 2)` when it has two parts. -/
def splitSpace (s : String) : Option (String × String) :=
  match s.toList.dropWhile (· ≠ ' ') with
  | [] => none
  | _ :: rest => some (String.ofList (s.toList.takeWhile (· ≠ ' ')), String.ofList rest)

def digitsValue (ds : List Char) : Nat := ds.foldl (fun n c => 10 * n + (c.toNat - 48)) 0

/-- `strconv.ParseInt(s, 10, 64)`. -/
def parseInt64 (s : String) : Option Int :=
  let (neg, ds) := match s.toList with
    | '-' :: ds => (true, ds)
    | '+' :: ds => (false, ds)
    | ds => (false, ds)
  if ds = [] || !ds.all isDigit then none
  else
    let v : Int := if neg then -(digitsValue ds) else digitsValue ds
    if -(2 ^ 63) ≤ v ∧ v < 2 ^ 63 then some v else none

/-- `strconv.FormatInt(n, 10)`. -/
def formatInt (n : Int) : String :=
  if n < 0 then String.ofList ('-' :: Nat.toDigits 10 n.natAbs) else String.ofList (Nat.toDigits 10 n.natAbs)

theorem digit_ne_minus {n : Nat} {c : Char} (h : c ∈ Nat.toDigits 10 n) : c ≠ '-' := by
  have hd := Nat.isDigit_of_mem_toDigits (by decide) (by decide) h
  rintro rfl
  exact absurd hd (by decide)

theorem digit_not_space {n : Nat} {c : Char} (h : c ∈ Nat.toDigits 10 n) : isSpace c = false := by
  have hd := Nat.isDigit_of_mem_toDigits (by decide) (by decide) h
  have hrange : 48 ≤ c.toNat ∧ c.toNat ≤ 57 := by
    simp only [Char.isDigit, Bool.and_eq_true, decide_eq_true_eq] at hd
    exact ⟨hd.1, hd.2⟩
  have hne : c ≠ ' ' := by
    rintro rfl
    exact absurd hrange.1 (by decide)
  simp only [isSpace, Bool.or_eq_false_iff, Bool.and_eq_false_iff, decide_eq_false_iff_not]
  refine ⟨⟨⟨⟨⟨⟨⟨⟨⟨⟨hne, ?_⟩, ?_⟩, ?_⟩, ?_⟩, ?_⟩, ?_⟩, ?_⟩, ?_⟩, ?_⟩, ?_⟩ <;> omega

theorem toDigits_inj {m n : Nat} (h : Nat.toDigits 10 m = Nat.toDigits 10 n) : m = n := by
  rw [← Nat.ofDigitChars_toDigits (n := m) (b := 10) (by decide) (by decide), h,
    Nat.ofDigitChars_toDigits (by decide) (by decide)]

theorem formatInt_inj {m n : Int} (h : formatInt m = formatInt n) : m = n := by
  have hminus : ∀ {k l : Nat}, '-' :: Nat.toDigits 10 k ≠ Nat.toDigits 10 l := by
    intro k l he
    exact digit_ne_minus (he ▸ List.mem_cons_self) rfl
  unfold formatInt at h
  by_cases hm : m < 0 <;> by_cases hn : n < 0 <;> simp only [hm, hn, if_true, if_false] at h
  · have := toDigits_inj (List.cons.inj (String.ofList_injective h)).2
    omega
  · exact absurd (String.ofList_injective h) hminus
  · exact absurd (String.ofList_injective h).symm hminus
  · have := toDigits_inj (String.ofList_injective h)
    omega

theorem trimSpace_of_forall {s : String} (h : ∀ c ∈ s.toList, isSpace c = false) : trimSpace s = s := by
  have hid : ∀ l : List Char, (∀ c ∈ l, isSpace c = false) → l.dropWhile isSpace = l := by
    intro l hl
    cases l with
    | nil => rfl
    | cons c t => simp [hl c List.mem_cons_self]
  unfold trimSpace
  rw [hid _ h, hid _ (fun c hc => h c (List.mem_reverse.mp hc)), List.reverse_reverse, String.ofList_toList]

/-- A text given by its characters, none of them a blank. -/
theorem trimSpace_ofList {l : List Char} (h : (l.all fun c => !isSpace c) = true) :
    trimSpace (String.ofList l) = String.ofList l := by
  apply trimSpace_of_forall
  intro c hc
  rw [String.toList_ofList] at hc
  simpa using List.all_eq_true.mp h c hc

theorem trimPrefix_append (p s : String) : trimPrefix (p ++ s) p = s := by
  simp [trimPrefix, hasPrefix]

theorem trimSpace_formatInt (n : Int) : trimSpace (formatInt n) = formatInt n := by
  apply trimSpace_of_forall
  intro c hc
  unfold formatInt at hc
  split at hc
  · rw [String.toList_ofList, List.mem_cons] at hc
    obtain rfl | hc := hc
    · decide
    · exact digit_not_space hc
  · rw [String.toList_ofList] at hc
    exact digit_not_space hc

theorem formatInt_ne_empty (n : Int) : formatInt n ≠ "" := by
  intro h
  have hnil : (formatInt n).toList = [] := by rw [h]; rfl
  unfold formatInt at hnil
  split at hnil
  · simp at hnil
  · rw [String.toList_ofList] at hnil
    exact Nat.toDigits_ne_nil hnil

theorem isDigit_of_mem_toDigits {n : Nat} {c : Char} (h : c ∈ Nat.toDigits 10 n) : isDigit c = true := by
  have hd := Nat.isDigit_of_mem_toDigits (by decide) (by decide) h
  simpa [isDigit, Char.isDigit, Char.le_def] using hd

theorem parseInt64_formatInt {n : Int} (h : -(2 ^ 63) ≤ n ∧ n < 2 ^ 63) : parseInt64 (formatInt n) = some n := by
  have hval : digitsValue (Nat.toDigits 10 n.natAbs) = n.natAbs := by
    have := Nat.ofDigitChars_toDigits (n := n.natAbs) (b := 10) (by decide) (by decide)
    rwa [Nat.ofDigitChars_eq_foldl] at this
  have hall : (Nat.toDigits 10 n.natAbs).all isDigit = true :=
    List.all_eq_true.mpr fun c hc => isDigit_of_mem_toDigits hc
  have hne : Nat.toDigits 10 n.natAbs ≠ [] := Nat.toDigits_ne_nil
  by_cases hneg : n < 0
  · have hv : -(n.natAbs : Int) = n := by omega
    unfold formatInt parseInt64
    rw [if_pos hneg]
    simp only [String.toList_ofList, hall, hne, hval, hv, decide_false, Bool.not_true, Bool.or_false,
      Bool.false_eq_true, if_false, if_true]
    exact if_pos h
  · have hv : (n.natAbs : Int) = n := by omega
    have hsign : ∀ c l, Nat.toDigits 10 n.natAbs = c :: l → c ≠ '-' ∧ c ≠ '+' := by
      intro c l heq
      have hd := isDigit_of_mem_toDigits (heq ▸ List.mem_cons_self)
      constructor
      · rintro rfl
        exact absurd hd (by decide)
      · rintro rfl
        exact absurd hd (by decide)
    unfold formatInt parseInt64
    rw [if_neg hneg, String.toList_ofList]
    split
    · rename_i neg ds hmatch
      split at hmatch
      · rename_i l heq
        exact absurd rfl (hsign _ _ heq).1
      · rename_i l heq
        exact absurd rfl (hsign _ _ heq).2
      · obtain ⟨rfl, rfl⟩ := Prod.mk.inj hmatch
        simp only [hall, hne, hval, hv, decide_false, Bool.not_true, Bool.or_false, Bool.false_eq_true, if_false]
        exact if_pos h

theorem parseInt64_range {s : String} {n : Int} (h : parseInt64 s = some n) : -(2 ^ 63) ≤ n ∧ n < 2 ^ 63 := by
  have hread : ∀ {v : Int} {bad : Bool},
      (if bad then none else if -(2 ^ 63) ≤ v ∧ v < 2 ^ 63 then some v else none) = some n → -(2 ^ 63) ≤ n ∧ n < 2 ^ 63 := by
    intro v bad hv
    split at hv
    · cases hv
    · split at hv
      · rename_i hrange
        rw [← Option.some.inj hv]
        exact hrange
      · cases hv
  unfold parseInt64 at h
  split at h
  exact hread h

/-- `map[string]string`. -/
abbrev StrMap := List (String × String)

/-- `m[k]`: the empty string when the key is missing (or the map nil). -/
def StrMap.get (m : StrMap) (k : String) : String := (m.lookup k).getD ""

end PerGo.L1

/-!
## `path.Match`

The shell patterns of Go's `path` package. A pattern is read as a whole first,
since a malformed one is an error whatever the name is.
-/
namespace PerGo.L1

inductive GlobTerm
  | star
  | any
  | lit (c : Char)
  | cls (negated : Bool) (ranges : List (Char × Char))

/-- One character of a class, maybe escaped; a class cannot end with it. -/
def getEsc : List Char → Option (Char × List Char)
  | [] | '-' :: _ | ']' :: _ | ['\\'] => none
  | '\\' :: c :: rest | c :: rest => if rest = [] then none else some (c, rest)

/-- `hi` defaults to `lo`. -/
def parseRange (cs : List Char) : Option ((Char × Char) × List Char) := do
  let (lo, cs) ← getEsc cs
  match cs with
  | '-' :: cs =>
    let (hi, cs) ← getEsc cs
    return ((lo, hi), cs)
  | _ => return ((lo, lo), cs)

def parseRanges : Nat → List Char → Option (List (Char × Char) × List Char)
  | 0, _ => none
  | fuel + 1, cs => do
    let (r, cs) ← parseRange cs
    match cs with
    | ']' :: rest => return ([r], rest)
    | _ =>
      let (rs, rest) ← parseRanges fuel cs
      return (r :: rs, rest)

def parseTerm : List Char → Option (GlobTerm × List Char)
  | [] | ['\\'] => none
  | '*' :: cs => some (.star, cs)
  | '?' :: cs => some (.any, cs)
  | '\\' :: c :: cs => some (.lit c, cs)
  | '[' :: '^' :: cs => (parseRanges cs.length cs).map fun (rs, rest) => (.cls true rs, rest)
  | '[' :: cs => (parseRanges cs.length cs).map fun (rs, rest) => (.cls false rs, rest)
  | c :: cs => some (.lit c, cs)

def parseTerms : Nat → List Char → Option (List GlobTerm)
  | _, [] => some []
  | 0, _ => none
  | fuel + 1, cs => do
    let (t, rest) ← parseTerm cs
    let ts ← parseTerms fuel rest
    return t :: ts

/-- Any run of characters other than `/`, then `k`. -/
def matchStar (k : List Char → Bool) : List Char → Bool
  | [] => k []
  | c :: s => k (c :: s) || (c ≠ '/' && matchStar k s)

def GlobTerm.accepts : GlobTerm → Char → Bool
  | .star, _ => false
  | .any, c => c ≠ '/'
  | .lit c', c => c = c'
  | .cls negated ranges, c => (ranges.any fun r => r.1 ≤ c && c ≤ r.2) != negated

def matchTerms : List GlobTerm → List Char → Bool
  | [], s => s = []
  | .star :: ts, s => matchStar (matchTerms ts) s
  | _ :: _, [] => false
  | t :: ts, c :: s => t.accepts c && matchTerms ts s

/-- `path.Match`; `none` is `ErrBadPattern`. -/
def pathMatch (pattern name : String) : Option Bool :=
  (parseTerms pattern.toList.length pattern.toList).map fun ts => matchTerms ts name.toList

end PerGo.L1
