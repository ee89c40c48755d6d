import PerGo.L1Encoding.GoString

/-!
# JSON text

The syntax of `encoding/json`: `parse` is what `Unmarshal` reads a text as before it fills a
value, and `writeObject` what `Marshal` writes of a struct of strings and integers.

* A text is cut into tokens, and a machine with a stack puts them together, one token a step.
* A number is kept as its literal: which literals a field takes depends on its type.
* A surrogate without its other half is U+FFFD. Nesting goes up to 10000 levels.

`parse_writeObject`: what is written is read back.
-/
namespace PerGo.L1.JsonText

inductive Node
  | null
  | bool (b : Bool)
  | num (literal : List Char)
  | str (s : List Char)
  | arr (xs : List Node)
  | obj (kvs : List (List Char × Node))

inductive Token
  | lbrace
  | rbrace
  | lbrack
  | rbrack
  | colon
  | comma
  | null
  | bool (b : Bool)
  | num (literal : List Char)
  | str (s : List Char)

/-! ## Strings -/

def hexValue (c : Char) : Option Nat :=
  if '0' ≤ c ∧ c ≤ '9' then some (c.toNat - 48)
  else if 'a' ≤ c ∧ c ≤ 'f' then some (c.toNat - 87)
  else if 'A' ≤ c ∧ c ≤ 'F' then some (c.toNat - 55)
  else none

def hexDigit (n : Nat) : Char := if n < 10 then Char.ofNat (n + 48) else Char.ofNat (n + 87)

def hex4 (a b c d : Char) : Option Nat := do
  let w ← hexValue a
  let x ← hexValue b
  let y ← hexValue c
  let z ← hexValue d
  pure (((w * 16 + x) * 16 + y) * 16 + z)

def isSurrogate (n : Nat) : Bool := 0xD800 ≤ n && n < 0xE000

/-- `utf16.DecodeRune`. -/
def surrogatePair (hi lo : Nat) : Option Char :=
  if hi < 0xDC00 ∧ 0xDC00 ≤ lo ∧ lo < 0xE000 then
    some (Char.ofNat (0x10000 + (hi - 0xD800) * 0x400 + (lo - 0xDC00)))
  else none

/-- What stands for itself, or for a control character, after a backslash. -/
def simpleEscape (c : Char) : Option Char :=
  if c = '"' ∨ c = '\\' ∨ c = '/' then some c
  else if c = 'b' then some (Char.ofNat 8)
  else if c = 'f' then some (Char.ofNat 12)
  else if c = 'n' then some '\n'
  else if c = 'r' then some '\r'
  else if c = 't' then some '\t'
  else none

def push (c : Char) (r : Option (List Char × List Char)) : Option (List Char × List Char) :=
  r.map fun p => (c :: p.1, p.2)

/-- The string up to its closing quote, and what follows. -/
def unquote : List Char → Option (List Char × List Char)
  | [] => none
  | c :: l =>
    if c = '"' then some ([], l)
    else if c = '\\' then
      match l with
      | [] => none
      | e :: l =>
        if e = 'u' then
          match l with
          | x₁ :: x₂ :: x₃ :: x₄ :: l =>
            match hex4 x₁ x₂ x₃ x₄ with
            | none => none
            | some hi =>
              if isSurrogate hi then
                match l with
                | s :: u :: y₁ :: y₂ :: y₃ :: y₄ :: l' =>
                  match (if s = '\\' ∧ u = 'u' then (hex4 y₁ y₂ y₃ y₄).bind (surrogatePair hi) else none) with
                  | some c => push c (unquote l')
                  | none => push (Char.ofNat 0xFFFD) (unquote (s :: u :: y₁ :: y₂ :: y₃ :: y₄ :: l'))
                | l => push (Char.ofNat 0xFFFD) (unquote l)
              else push (Char.ofNat hi) (unquote l)
          | _ => none
        else match simpleEscape e with
          | some c => push c (unquote l)
          | none => none
    else if c.toNat < 0x20 then none
    else push c (unquote l)

/-- A character as `Marshal` writes it, HTML escaped. -/
def escape (c : Char) : List Char :=
  if c = '"' ∨ c = '\\' then ['\\', c]
  else if c = Char.ofNat 8 then ['\\', 'b']
  else if c = Char.ofNat 12 then ['\\', 'f']
  else if c = '\n' then ['\\', 'n']
  else if c = '\r' then ['\\', 'r']
  else if c = '\t' then ['\\', 't']
  else if c.toNat < 0x20 ∨ c = '<' ∨ c = '>' ∨ c = '&' then
    ['\\', 'u', '0', '0', hexDigit (c.toNat / 16), hexDigit (c.toNat % 16)]
  else if c.toNat = 0x2028 ∨ c.toNat = 0x2029 then ['\\', 'u', '2', '0', '2', hexDigit (c.toNat % 16)]
  else [c]

def quote (s : List Char) : List Char := '"' :: s.flatMap escape ++ ['"']

theorem hexValue_hexDigit : ∀ n < 16, hexValue (hexDigit n) = some n := by decide

theorem unquote_simple {e c : Char} (he : e ≠ 'u') (h : simpleEscape e = some c) (l : List Char) :
    unquote ('\\' :: e :: l) = push c (unquote l) := by
  rw [unquote.eq_def]
  simp only [if_neg (show '\\' ≠ '"' by decide), if_true, if_neg he, h]

theorem unquote_hex {x₁ x₂ x₃ x₄ : Char} {n : Nat} (h : hex4 x₁ x₂ x₃ x₄ = some n) (hn : n < 0xD800) (l : List Char) :
    unquote ('\\' :: 'u' :: x₁ :: x₂ :: x₃ :: x₄ :: l) = push (Char.ofNat n) (unquote l) := by
  have hs : isSurrogate n = false := by simp [isSurrogate]; omega
  rw [unquote.eq_def]
  simp only [if_neg (show '\\' ≠ '"' by decide), if_true, h, hs, Bool.false_eq_true, if_false]

theorem unquote_plain {c : Char} (hq : c ≠ '"') (hb : c ≠ '\\') (hc : ¬ c.toNat < 0x20) (l : List Char) :
    unquote (c :: l) = push c (unquote l) := by
  rw [unquote.eq_def]
  simp only [if_neg hq, if_neg hb, if_neg hc]

theorem unquote_escape (c : Char) (l : List Char) : unquote (escape c ++ l) = push c (unquote l) := by
  unfold escape
  split
  · rename_i h
    rcases h with rfl | rfl
    · exact unquote_simple (by decide) rfl l
    · exact unquote_simple (by decide) rfl l
  rename_i hquote
  split
  · subst c
    exact unquote_simple (by decide) rfl l
  split
  · subst c
    exact unquote_simple (by decide) rfl l
  split
  · subst c
    exact unquote_simple (by decide) rfl l
  split
  · subst c
    exact unquote_simple (by decide) rfl l
  split
  · subst c
    exact unquote_simple (by decide) rfl l
  split
  · rename_i h
    have hlt : c.toNat < 128 := by
      rcases h with h | rfl | rfl | rfl
      · omega
      · decide
      · decide
      · decide
    have hhex : hex4 '0' '0' (hexDigit (c.toNat / 16)) (hexDigit (c.toNat % 16)) = some c.toNat := by
      have hval : (((0 * 16 + 0) * 16 + c.toNat / 16) * 16 + c.toNat % 16) = c.toNat := by omega
      simp only [hex4, hexValue_hexDigit _ (show c.toNat / 16 < 16 by omega),
        hexValue_hexDigit _ (show c.toNat % 16 < 16 by omega)]
      exact congrArg some hval
    have := unquote_hex hhex (by omega) l
    rwa [Char.ofNat_toNat] at this
  rename_i hplain
  split
  · rename_i h
    have hhex : hex4 '2' '0' '2' (hexDigit (c.toNat % 16)) = some c.toNat := by
      have hval : (((2 * 16 + 0) * 16 + 2) * 16 + c.toNat % 16) = c.toNat := by omega
      simp only [hex4, hexValue_hexDigit _ (show c.toNat % 16 < 16 by omega)]
      exact congrArg some hval
    have := unquote_hex hhex (by omega) l
    rwa [Char.ofNat_toNat] at this
  · exact unquote_plain (fun h => hquote (Or.inl h)) (fun h => hquote (Or.inr h)) (fun h => hplain (Or.inl h)) l

theorem unquote_quote (s l : List Char) : unquote (s.flatMap escape ++ '"' :: l) = some (s, l) := by
  induction s with
  | nil =>
    rw [List.flatMap_nil, List.nil_append, unquote.eq_def]
    exact if_pos rfl
  | cons c s ih =>
    rw [List.flatMap_cons, List.append_assoc, unquote_escape, ih]
    rfl

/-! ## Numbers -/

def digits (l : List Char) : List Char × List Char := (l.takeWhile isDigit, l.dropWhile isDigit)

/-- No zero stands in front of another digit. -/
def intPart : List Char → Option (List Char × List Char)
  | [] => none
  | c :: l =>
    if c = '0' then some ([c], l)
    else if isDigit c then some (c :: (digits l).1, (digits l).2)
    else none

def fraction : List Char → Option (List Char × List Char)
  | [] => some ([], [])
  | c :: l =>
    if c = '.' then
      if (digits l).1 = [] then none else some (c :: (digits l).1, (digits l).2)
    else some ([], c :: l)

def exponent : List Char → Option (List Char × List Char)
  | [] => some ([], [])
  | c :: l =>
    if c = 'e' ∨ c = 'E' then
      let (sign, l) := match l with
        | s :: l => if s = '+' ∨ s = '-' then ([s], l) else ([], s :: l)
        | [] => ([], [])
      if (digits l).1 = [] then none else some (c :: sign ++ (digits l).1, (digits l).2)
    else some ([], c :: l)

/-- The literal at the front, and what follows. -/
def number (l : List Char) : Option (List Char × List Char) := do
  let (sign, l) := match l with
    | c :: l => if c = '-' then ([c], l) else ([], c :: l)
    | [] => ([], [])
  let (i, l) ← intPart l
  let (f, l) ← fraction l
  let (e, l) ← exponent l
  pure (sign ++ i ++ f ++ e, l)

/-- No number goes on here. -/
def Ends (l : List Char) : Prop := ∀ c l', l = c :: l' → isDigit c = false ∧ c ≠ '.' ∧ c ≠ 'e' ∧ c ≠ 'E'

theorem ends_cons {c : Char} {l : List Char} (h : isDigit c = false ∧ c ≠ '.' ∧ c ≠ 'e' ∧ c ≠ 'E') : Ends (c :: l) := by
  intro c' l' heq
  cases heq
  exact h

theorem digits_append {ds l : List Char} (hds : ∀ c ∈ ds, isDigit c = true) (hl : Ends l) :
    digits (ds ++ l) = (ds, l) := by
  have hnone : l.takeWhile isDigit = [] ∧ l.dropWhile isDigit = l := by
    cases l with
    | nil => exact ⟨rfl, rfl⟩
    | cons c l =>
      have hc := (hl c l rfl).1
      exact ⟨by rw [List.takeWhile_cons, hc]; rfl, by rw [List.dropWhile_cons, hc]; rfl⟩
  unfold digits
  rw [List.takeWhile_append_of_pos hds, List.dropWhile_append_of_pos hds, hnone.1, hnone.2, List.append_nil]

theorem toDigits_head (n : Nat) : ∃ c l, Nat.toDigits 10 n = c :: l ∧ (c = '0' → l = []) := by
  induction n using Nat.strongRecOn with
  | ind n ih =>
    rw [Nat.toDigits_eq_if (by decide)]
    split
    · exact ⟨_, [], rfl, fun _ => rfl⟩
    · obtain ⟨c, l, heq, hc⟩ := ih (n / 10) (by omega)
      refine ⟨c, l ++ [Nat.digitChar (n % 10)], by rw [heq]; rfl, ?_⟩
      rintro rfl
      -- a leading zero would make the rest of the number zero
      rw [hc rfl] at heq
      have hval := Nat.ofDigitChars_toDigits (n := n / 10) (b := 10) (by decide) (by decide)
      rw [heq] at hval
      have hzero : Nat.ofDigitChars 10 ['0'] 0 = 0 := rfl
      omega

theorem intPart_toDigits (n : Nat) {l : List Char} (hl : Ends l) :
    intPart (Nat.toDigits 10 n ++ l) = some (Nat.toDigits 10 n, l) := by
  obtain ⟨c, ds, heq, hc⟩ := toDigits_head n
  have hmem : ∀ d ∈ ds, isDigit d = true := by
    intro d hd
    exact isDigit_of_mem_toDigits (heq ▸ List.mem_cons_of_mem c hd)
  have hfirst : isDigit c = true := isDigit_of_mem_toDigits (heq ▸ List.mem_cons_self)
  rw [heq, List.cons_append, intPart, if_pos hfirst]
  split
  · rename_i h
    rw [hc h]
    rfl
  · rw [digits_append hmem hl]

theorem fraction_ends {l : List Char} (hl : Ends l) : fraction l = some ([], l) := by
  cases l with
  | nil => rfl
  | cons c l => exact if_neg (hl c l rfl).2.1

theorem exponent_ends {l : List Char} (hl : Ends l) : exponent l = some ([], l) := by
  cases l with
  | nil => rfl
  | cons c l =>
    have hc := (hl c l rfl).2.2
    exact if_neg fun h => h.elim hc.1 hc.2

theorem number_formatInt (n : Int) {l : List Char} (hl : Ends l) :
    number ((formatInt n).toList ++ l) = some ((formatInt n).toList, l) := by
  have hint := intPart_toDigits n.natAbs hl
  unfold formatInt
  split
  · rw [String.toList_ofList, List.cons_append, number]
    simp only [if_true, hint, fraction_ends hl, exponent_ends hl, bind, Option.bind_some, pure, List.append_nil]
    rfl
  · rw [String.toList_ofList]
    obtain ⟨c, ds, heq, -⟩ := toDigits_head n.natAbs
    have hc : c ≠ '-' := digit_ne_minus (heq ▸ List.mem_cons_self)
    rw [heq] at hint ⊢
    rw [List.cons_append] at hint ⊢
    rw [number]
    simp only [if_neg hc, hint, fraction_ends hl, exponent_ends hl, bind, Option.bind_some, pure, List.append_nil]
    rfl

/-! ## Tokens -/

def isBlank (c : Char) : Bool := c = ' ' || c = '\t' || c = '\r' || c = '\n'

def dropWord (word l : List Char) : Option (List Char) := if word.isPrefixOf l then some (l.drop word.length) else none

/-- The token at the front of `c :: l`, and what follows. -/
def token (c : Char) (l : List Char) : Option (Token × List Char) :=
  if c = '\x7b' then some (.lbrace, l)
  else if c = '\x7d' then some (.rbrace, l)
  else if c = '[' then some (.lbrack, l)
  else if c = ']' then some (.rbrack, l)
  else if c = ':' then some (.colon, l)
  else if c = ',' then some (.comma, l)
  else if c = '"' then (unquote l).map fun p => (.str p.1, p.2)
  else if c = 'n' then (dropWord ['u', 'l', 'l'] l).map fun l => (.null, l)
  else if c = 't' then (dropWord ['r', 'u', 'e'] l).map fun l => (.bool true, l)
  else if c = 'f' then (dropWord ['a', 'l', 's', 'e'] l).map fun l => (.bool false, l)
  else (number (c :: l)).map fun p => (.num p.1, p.2)

/-- The tokens of a text of at most `n` characters. -/
def tokens : Nat → List Char → Option (List Token)
  | _, [] => some []
  | 0, _ :: _ => none
  | n + 1, c :: l =>
    if isBlank c then tokens n l
    else match token c l with
      | none => none
      | some (t, l) => (tokens n l).map (t :: ·)

/-! ## Values -/

/-- A container that is open: the elements so far, or the members so far and a key; the last comes first. -/
inductive Frame
  | arr (xs : List Node)
  | obj (kvs : List (List Char × Node)) (k : List Char)

/-- What must come next. -/
inductive Mode
  | value
  | firstElement
  | firstKey
  | key (kvs : List (List Char × Node))
  | colon (kvs : List (List Char × Node)) (k : List Char)
  /-- a value is complete -/
  | done (v : Node)

def startValue (stack : List Frame) : Token → Option (Mode × List Frame)
  | .null => some (.done .null, stack)
  | .bool b => some (.done (.bool b), stack)
  | .num lit => some (.done (.num lit), stack)
  | .str s => some (.done (.str s), stack)
  | .lbrace => if stack.length < 10000 then some (.firstKey, stack) else none
  | .lbrack => if stack.length < 10000 then some (.firstElement, stack) else none
  | _ => none

def step : Mode × List Frame → Token → Option (Mode × List Frame)
  | (.value, stack), t => startValue stack t
  | (.firstElement, stack), .rbrack => some (.done (.arr []), stack)
  | (.firstElement, stack), t => startValue (.arr [] :: stack) t
  | (.firstKey, stack), .rbrace => some (.done (.obj []), stack)
  | (.firstKey, stack), .str k => some (.colon [] k, stack)
  | (.key kvs, stack), .str k => some (.colon kvs k, stack)
  | (.colon kvs k, stack), .colon => some (.value, .obj kvs k :: stack)
  | (.done v, .arr xs :: stack), .comma => some (.value, .arr (v :: xs) :: stack)
  | (.done v, .arr xs :: stack), .rbrack => some (.done (.arr (v :: xs).reverse), stack)
  | (.done v, .obj kvs k :: stack), .comma => some (.key ((k, v) :: kvs), stack)
  | (.done v, .obj kvs k :: stack), .rbrace => some (.done (.obj ((k, v) :: kvs).reverse), stack)
  | _, _ => none

def run (ts : List Token) : Option Node :=
  match ts.foldlM step (.value, []) with
  | some (.done v, []) => some v
  | _ => none

/-- The value a text stands for, if it is well formed. -/
def parse (l : List Char) : Option Node := (tokens l.length l).bind run

/-! ## Writing objects -/

inductive Scalar
  | str (s : String)
  | int (n : Int)

def Scalar.text : Scalar → List Char
  | .str s => quote s.toList
  | .int n => (formatInt n).toList

def Scalar.token : Scalar → Token
  | .str s => .str s.toList
  | .int n => .num (formatInt n).toList

def Scalar.node : Scalar → Node
  | .str s => .str s.toList
  | .int n => .num (formatInt n).toList

def writeMembers : List (String × Scalar) → List Char
  | [] => ['\x7d']
  | [kv] => quote kv.1.toList ++ ':' :: kv.2.text ++ ['\x7d']
  | kv :: kvs => quote kv.1.toList ++ ':' :: kv.2.text ++ ',' :: writeMembers kvs

/-- `Marshal` of a struct. -/
def writeObject (kvs : List (String × Scalar)) : List Char := '\x7b' :: writeMembers kvs

def memberTokens : List (String × Scalar) → List Token
  | [] => [.rbrace]
  | [kv] => [.str kv.1.toList, .colon, kv.2.token, .rbrace]
  | kv :: kvs => .str kv.1.toList :: .colon :: kv.2.token :: .comma :: memberTokens kvs

/-! ## Reading back what was written -/

def Lexes (l : List Char) (ts : List Token) : Prop := ∀ n, l.length ≤ n → tokens n l = some ts

theorem lexes_nil : Lexes [] [] := by
  intro n _
  cases n <;> rfl

theorem lexes_cons {c : Char} {l l' : List Char} {t : Token} {ts : List Token} (hc : isBlank c = false)
    (ht : token c l = some (t, l')) (hlen : l'.length ≤ l.length) (h : Lexes l' ts) : Lexes (c :: l) (t :: ts) := by
  intro n hn
  rw [List.length_cons] at hn
  obtain ⟨n, rfl⟩ : ∃ m, n = m + 1 := ⟨n - 1, by omega⟩
  rw [tokens, hc, ht]
  simp only [Bool.false_eq_true, if_false]
  rw [h n (by omega)]
  rfl

theorem lexes_char {c : Char} {l : List Char} {t : Token} {ts : List Token} (hc : isBlank c = false)
    (ht : token c l = some (t, l)) (h : Lexes l ts) : Lexes (c :: l) (t :: ts) :=
  lexes_cons hc ht (Nat.le_refl _) h

theorem lexes_quote (s : List Char) {l : List Char} {ts : List Token} (h : Lexes l ts) :
    Lexes (quote s ++ l) (.str s :: ts) := by
  have happ : quote s ++ l = '"' :: (s.flatMap escape ++ '"' :: l) := by simp [quote]
  rw [happ]
  have htok : token '"' (s.flatMap escape ++ '"' :: l) = some (.str s, l) := by
    show ((unquote (s.flatMap escape ++ '"' :: l)).map fun p => (Token.str p.1, p.2)) = _
    rw [unquote_quote]
    rfl
  refine lexes_cons (by decide) htok ?_ h
  rw [List.length_append, List.length_cons]
  omega

theorem token_number {c : Char} (h : isDigit c = true ∨ c = '-') (l : List Char) :
    isBlank c = false ∧ token c l = (number (c :: l)).map fun p => (.num p.1, p.2) := by
  have hrange : 45 ≤ c.toNat ∧ c.toNat ≤ 57 := by
    rcases h with h | rfl
    · simp only [isDigit, Bool.and_eq_true, decide_eq_true_eq, Char.le_def, UInt32.le_iff_toNat_le] at h
      exact ⟨Nat.le_trans (by decide) h.1, h.2⟩
    · decide
  have hne : ∀ d : Char, d.toNat < 45 ∨ 57 < d.toNat → c ≠ d := by
    intro d hd hcd
    rw [hcd] at hrange
    omega
  constructor
  · simp [isBlank, hne]
  · unfold token
    simp only [if_neg (hne '\x7b' (by decide)), if_neg (hne '\x7d' (by decide)), if_neg (hne '[' (by decide)),
      if_neg (hne ']' (by decide)), if_neg (hne ':' (by decide)), if_neg (hne ',' (by decide)),
      if_neg (hne '"' (by decide)), if_neg (hne 'n' (by decide)), if_neg (hne 't' (by decide)),
      if_neg (hne 'f' (by decide))]

theorem lexes_int (n : Int) {l : List Char} {ts : List Token} (hl : Ends l) (h : Lexes l ts) :
    Lexes ((formatInt n).toList ++ l) (.num (formatInt n).toList :: ts) := by
  have hnum := number_formatInt n hl
  obtain ⟨c, ds, heq, hc⟩ : ∃ c ds, (formatInt n).toList = c :: ds ∧ (isDigit c = true ∨ c = '-') := by
    unfold formatInt
    split
    · exact ⟨'-', _, String.toList_ofList, Or.inr rfl⟩
    · obtain ⟨c, ds, heq, -⟩ := toDigits_head n.natAbs
      exact ⟨c, ds, by rw [String.toList_ofList, heq], Or.inl (isDigit_of_mem_toDigits (heq ▸ List.mem_cons_self))⟩
  rw [heq] at hnum ⊢
  rw [List.cons_append] at hnum ⊢
  obtain ⟨hblank, htok⟩ := token_number hc (ds ++ l)
  refine lexes_cons hblank (by rw [htok, hnum]; rfl) ?_ h
  rw [List.length_append]
  omega

theorem lexes_scalar (v : Scalar) {l : List Char} {ts : List Token} (hl : Ends l) (h : Lexes l ts) :
    Lexes (v.text ++ l) (v.token :: ts) := by
  cases v with
  | str s => exact lexes_quote s.toList h
  | int n => exact lexes_int n hl h

theorem lexes_member (kv : String × Scalar) {l : List Char} {ts : List Token} (hl : Ends l) (h : Lexes l ts) :
    Lexes (quote kv.1.toList ++ ':' :: kv.2.text ++ l) (.str kv.1.toList :: .colon :: kv.2.token :: ts) := by
  rw [List.append_assoc]
  exact lexes_quote _ (lexes_char (by decide) rfl (lexes_scalar kv.2 hl h))

theorem lexes_members (kvs : List (String × Scalar)) : Lexes (writeMembers kvs) (memberTokens kvs) := by
  have hclose : Lexes ['\x7d'] [.rbrace] := lexes_char (by decide) rfl lexes_nil
  fun_induction writeMembers kvs with
  | case1 => exact hclose
  | case2 kv => exact lexes_member kv (ends_cons (by decide)) hclose
  | case3 kv kvs hne ih =>
    rw [memberTokens]
    · exact lexes_member kv (ends_cons (by decide)) (lexes_char (by decide) rfl ih)
    · exact hne

theorem startValue_scalar (v : Scalar) (stack : List Frame) : startValue stack v.token = some (.done v.node, stack) := by
  cases v <;> rfl

theorem run_members (kv : String × Scalar) (kvs : List (String × Scalar)) (acc : List (List Char × Node))
    (stack : List Frame) :
    (memberTokens (kv :: kvs)).foldlM step (.key acc, stack) =
      some (.done (.obj (acc.reverse ++ (kv :: kvs).map fun kv => (kv.1.toList, kv.2.node))), stack) := by
  have hmember : ∀ (kv : String × Scalar) (acc : List (List Char × Node)) (ts : List Token),
      (Token.str kv.1.toList :: .colon :: kv.2.token :: ts).foldlM step (.key acc, stack) =
        ts.foldlM step (.done kv.2.node, .obj acc kv.1.toList :: stack) := by
    intro kv acc ts
    simp only [List.foldlM_cons, step, bind, Option.bind_some, startValue_scalar]
  induction kvs generalizing kv acc with
  | nil =>
    rw [memberTokens, hmember]
    simp [step]
  | cons kv' kvs ih =>
    have hts : memberTokens (kv :: kv' :: kvs) =
        .str kv.1.toList :: .colon :: kv.2.token :: .comma :: memberTokens (kv' :: kvs) := rfl
    rw [hts, hmember, List.foldlM_cons]
    simp only [step, bind, Option.bind_some]
    rw [ih]
    simp

theorem parse_writeObject (kvs : List (String × Scalar)) :
    parse (writeObject kvs) = some (.obj (kvs.map fun kv => (kv.1.toList, kv.2.node))) := by
  have hlex : Lexes (writeObject kvs) (.lbrace :: memberTokens kvs) := lexes_char (by decide) rfl (lexes_members kvs)
  unfold parse
  rw [hlex _ (Nat.le_refl _), Option.bind_some]
  unfold run
  rw [List.foldlM_cons]
  cases kvs with
  | nil => rfl
  | cons kv kvs =>
    -- the first key is read like any other
    have hfirst : (memberTokens (kv :: kvs)).foldlM step (.firstKey, []) =
        (memberTokens (kv :: kvs)).foldlM step (.key [], []) := by
      cases kvs <;> rfl
    have hrun := run_members kv kvs [] []
    simp only [step, startValue, List.length_nil, bind] at hrun ⊢
    rw [if_pos (by decide), Option.bind_some, hfirst, hrun]
    rfl

end PerGo.L1.JsonText
