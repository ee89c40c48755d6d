import PerGo.L1Encoding.GoString

/-!
# Expressions of `regexp`

An expression gives every way in which it can match the start of a text, in the order in which it is tried: the first
is the match. Repetitions take as much as they can. What an expression captures is its value.

* `Reads`: the text of each way and what it leaves are the whole text.
* `Within.ways`: the ways that stay in a first piece of a text are the ways in that piece alone.
* `source_pieces`: a text is what stands between the matches, and the matches.
* `find_match`: a match, taken by itself, is matched in the same way.
-/
namespace PerGo.L1.Pattern

def Expr (α : Type) := List Char → List (α × List Char)

def Expr.pure {α : Type} (a : α) : Expr α := fun s => [(a, s)]

def Expr.bind {α β : Type} (e : Expr α) (f : α → Expr β) : Expr β := fun s => (e s).flatMap fun way => f way.1 way.2

instance : Monad Expr where
  pure := Expr.pure
  bind := Expr.bind

def one (p : Char → Bool) : Expr (List Char)
  | [] => []
  | c :: s => if p c then [([c], s)] else []

/-- `p*` -/
def many (p : Char → Bool) : Expr (List Char)
  | [] => [([], [])]
  | c :: s => if p c then (many p s).map (fun way => (c :: way.1, way.2)) ++ [([], c :: s)] else [([], c :: s)]

/-- `p+` -/
def some (p : Char → Bool) : Expr (List Char) := do
  let c ← one p
  let cs ← many p
  return c ++ cs

/-- `(e)?` -/
def optional (e : Expr (List Char)) : Expr (List Char) := fun s => e s ++ [([], s)]

/-- A word, in any letter case. -/
def word : List Char → Expr (List Char)
  | [] => return []
  | c :: cs => do
    let d ← one fun d => foldChar d = c
    let ds ← word cs
    return d ++ ds

/-! ## What a way reads -/

section Reads

def Reads {α : Type} (text : α → List Char) (e : Expr α) : Prop := ∀ s, ∀ way ∈ e s, s = text way.1 ++ way.2

theorem reads_one (p : Char → Bool) : Reads id (one p) := by
  intro s way hway
  cases s with
  | nil => cases hway
  | cons c s =>
    rw [one] at hway
    split at hway
    · rw [List.mem_singleton] at hway
      rw [hway]
      rfl
    · cases hway

theorem reads_many (p : Char → Bool) : Reads id (many p) := by
  intro s
  induction s with
  | nil =>
    intro way hway
    rw [many, List.mem_singleton] at hway
    rw [hway]
    rfl
  | cons c s ih =>
    intro way hway
    rw [many] at hway
    split at hway
    · rcases List.mem_append.mp hway with hway | hway
      · obtain ⟨more, hmore, rfl⟩ := List.mem_map.mp hway
        exact congrArg (c :: ·) (ih more hmore)
      · rw [List.mem_singleton] at hway
        rw [hway]
        rfl
    · rw [List.mem_singleton] at hway
      rw [hway]
      rfl

theorem reads_optional {e : Expr (List Char)} (h : Reads id e) : Reads id (optional e) := by
  intro s way hway
  rcases List.mem_append.mp hway with hway | hway
  · exact h s way hway
  · rw [List.mem_singleton] at hway
    rw [hway]
    rfl

theorem mem_bind {α β : Type} {e : Expr α} {f : α → Expr β} {s : List Char} {way : β × List Char} :
    way ∈ (e >>= f) s ↔ ∃ first ∈ e s, way ∈ f first.1 first.2 := List.mem_flatMap

theorem mem_pure {α : Type} {a : α} {s : List Char} {way : α × List Char} : way ∈ (pure a : Expr α) s ↔ way = (a, s) :=
  List.mem_singleton

theorem reads_bind {e : Expr (List Char)} {f : List Char → Expr (List Char)} (he : Reads id e)
    (hf : ∀ a s, ∀ way ∈ f a s, ∃ read, way.1 = a ++ read ∧ s = read ++ way.2) : Reads id (e >>= f) := by
  intro s way hway
  obtain ⟨⟨a, s₁⟩, ha, hway⟩ := mem_bind.mp hway
  obtain ⟨read, hread, hs₁⟩ := hf a s₁ way hway
  have hs : s = a ++ s₁ := he s (a, s₁) ha
  rw [id_eq, hread, hs, hs₁, List.append_assoc]

theorem reads_append {e f : Expr (List Char)} (he : Reads id e) (hf : Reads id f) :
    Reads id (do let a ← e; let b ← f; return a ++ b) := by
  refine reads_bind he fun a s way hway => ?_
  obtain ⟨⟨b, s₁⟩, hb, hway⟩ := mem_bind.mp hway
  rw [mem_pure.mp hway]
  exact ⟨b, rfl, hf s (b, s₁) hb⟩

theorem reads_some (p : Char → Bool) : Reads id (some p) := reads_append (reads_one p) (reads_many p)

theorem reads_word (cs : List Char) : Reads id (word cs) := by
  induction cs with
  | nil =>
    intro s way hway
    rw [mem_pure.mp hway]
    rfl
  | cons c cs ih => exact reads_append (reads_one _) ih

/-! ### Which characters are read -/

theorem mem_one {p : Char → Bool} {s : List Char} {way : List Char × List Char} (h : way ∈ one p s) :
    ∃ c, p c = true ∧ way.1 = [c] := by
  cases s with
  | nil => cases h
  | cons c s =>
    rw [one] at h
    split at h
    · rename_i hp
      rw [List.mem_singleton] at h
      exact ⟨c, hp, by rw [h]⟩
    · cases h

theorem all_many {p : Char → Bool} {s : List Char} {way : List Char × List Char} (h : way ∈ many p s) :
    ∀ c ∈ way.1, p c = true := by
  induction s generalizing way with
  | nil =>
    rw [many, List.mem_singleton] at h
    rw [h]
    simp
  | cons c s ih =>
    rw [many] at h
    split at h
    · rename_i hp
      rcases List.mem_append.mp h with h | h
      · obtain ⟨more, hmore, rfl⟩ := List.mem_map.mp h
        intro d hd
        rcases List.mem_cons.mp hd with rfl | hd
        · exact hp
        · exact ih hmore d hd
      · rw [List.mem_singleton] at h
        rw [h]
        simp
    · rw [List.mem_singleton] at h
      rw [h]
      simp

theorem all_some {p : Char → Bool} {s : List Char} {way : List Char × List Char} (h : way ∈ some p s) :
    way.1 ≠ [] ∧ ∀ c ∈ way.1, p c = true := by
  obtain ⟨⟨a, s₁⟩, ha, h⟩ := mem_bind.mp h
  obtain ⟨⟨b, s₂⟩, hb, h⟩ := mem_bind.mp h
  obtain ⟨c, hc, rfl⟩ := mem_one ha
  rw [mem_pure.mp h]
  refine ⟨by simp, fun d hd => ?_⟩
  rcases List.mem_append.mp hd with hd | hd
  · rw [List.mem_singleton] at hd
    rw [hd]
    exact hc
  · exact all_many hb d hd

theorem map_foldChar_word {cs s : List Char} {way : List Char × List Char} (h : way ∈ word cs s) :
    way.1.map foldChar = cs := by
  induction cs generalizing s way with
  | nil =>
    rw [mem_pure.mp h]
    rfl
  | cons c cs ih =>
    obtain ⟨⟨d, s₁⟩, hd, h⟩ := mem_bind.mp h
    obtain ⟨⟨ds, s₂⟩, hds, h⟩ := mem_bind.mp h
    obtain ⟨first, hfold, rfl⟩ := mem_one hd
    rw [mem_pure.mp h, List.map_append, ih hds, List.map_singleton, of_decide_eq_true hfold]
    rfl

theorem mem_optional {e : Expr (List Char)} {s : List Char} {way : List Char × List Char} (h : way ∈ optional e s) :
    way ∈ e s ∨ way = ([], s) := by
  rcases List.mem_append.mp h with h | h
  · exact .inl h
  · exact .inr (List.mem_singleton.mp h)

end Reads

/-! ## Ways within a piece of the text -/

/-- No way leaves more than there was, and the ways that leave all of `y` are the ways without it. -/
structure Within {α : Type} (e : Expr α) : Prop where
  shrinks : ∀ s, ∀ way ∈ e s, way.2.length ≤ s.length
  ways : ∀ x y, (e (x ++ y)).filter (fun way => y.length ≤ way.2.length) = (e x).map fun way => (way.1, way.2 ++ y)

theorem flatMap_filter_of_nil {α β : Type} {p : α → Bool} {f : α → List β} {l : List α}
    (h : ∀ a ∈ l, p a = false → f a = []) : (l.filter p).flatMap f = l.flatMap f := by
  induction l with
  | nil => rfl
  | cons a l ih =>
    rw [List.flatMap_cons, ← ih fun b hb => h b (List.mem_cons_of_mem a hb)]
    cases hp : p a with
    | true => rw [List.filter_cons_of_pos hp, List.flatMap_cons]
    | false => rw [List.filter_cons_of_neg (by simp [hp]), h a List.mem_cons_self hp, List.nil_append]

theorem Within.pure {α : Type} (a : α) : Within (pure a : Expr α) where
  shrinks := by
    intro s way hway
    rw [mem_pure.mp hway]
  ways := by
    intro x y
    have hfits : y.length ≤ (x ++ y).length := by simp
    change [(a, x ++ y)].filter _ = [(a, x)].map _
    simp

theorem Within.bind {α β : Type} {e : Expr α} {f : α → Expr β} (he : Within e) (hf : ∀ a, Within (f a)) :
    Within (e >>= f) where
  shrinks := by
    intro s way hway
    obtain ⟨first, hfirst, hrest⟩ := mem_bind.mp hway
    exact ((hf first.1).shrinks first.2 way hrest).trans (he.shrinks s first hfirst)
  ways := by
    intro x y
    have hshort : ∀ first ∈ e (x ++ y), decide (y.length ≤ first.2.length) = false →
        (f first.1 first.2).filter (fun way => decide (y.length ≤ way.2.length)) = [] := by
      intro first _ hlength
      rw [decide_eq_false_iff_not] at hlength
      rw [List.filter_eq_nil_iff]
      intro way hway
      have hway := (hf first.1).shrinks first.2 way hway
      rw [decide_eq_true_eq]
      omega
    change ((e (x ++ y)).flatMap fun first => f first.1 first.2).filter _ = ((e x).flatMap fun first => f first.1 first.2).map _
    rw [List.filter_flatMap, ← flatMap_filter_of_nil hshort, he.ways x y, List.flatMap_map, List.map_flatMap]
    simp only [(hf _).ways]

theorem Within.one (p : Char → Bool) : Within (one p) where
  shrinks := by
    intro s way hway
    have hread := reads_one p s way hway
    rw [hread, List.length_append]
    omega
  ways := by
    intro x y
    cases x with
    | nil =>
      rw [List.nil_append, List.filter_eq_nil_iff.mpr]
      · rfl
      · intro way hway
        cases y with
        | nil => cases hway
        | cons c y =>
          rw [Pattern.one] at hway
          split at hway
          · rw [List.mem_singleton] at hway
            rw [hway]
            simp
          · cases hway
    | cons c x =>
      rw [List.cons_append, Pattern.one, Pattern.one]
      split <;> simp

theorem Within.many (p : Char → Bool) : Within (many p) where
  shrinks := by
    intro s way hway
    have hread := reads_many p s way hway
    rw [hread, List.length_append]
    omega
  ways := by
    intro x y
    induction x with
    | nil =>
      rw [List.nil_append]
      cases y with
      | nil => rfl
      | cons c y =>
        have hshort : ((Pattern.many p y).map fun way => (c :: way.1, way.2)).filter
            (fun way => decide ((c :: y).length ≤ way.2.length)) = [] := by
          rw [List.filter_eq_nil_iff]
          intro way hway
          obtain ⟨more, hmore, rfl⟩ := List.mem_map.mp hway
          have hread := reads_many p y more hmore
          have hlength : more.2.length ≤ y.length := by
            rw [hread, List.length_append]
            omega
          rw [decide_eq_true_eq, List.length_cons]
          dsimp only
          omega
        rw [Pattern.many, Pattern.many]
        split
        · rw [List.filter_append, hshort]
          simp
        · simp
    | cons c x ih =>
      have hall : ∀ l : List (List Char × List Char), (l.map fun way => (c :: way.1, way.2)).filter
          (fun way => decide (y.length ≤ way.2.length)) =
          (l.filter fun way => decide (y.length ≤ way.2.length)).map fun way => (c :: way.1, way.2) := by
        intro l
        rw [List.filter_map]
        rfl
      have hlast : [(([] : List Char), c :: (x ++ y))].filter (fun way => decide (y.length ≤ way.2.length)) =
          [([], c :: (x ++ y))] := by
        rw [List.filter_cons_of_pos, List.filter_nil]
        rw [decide_eq_true_eq, List.length_cons, List.length_append]
        omega
      rw [List.cons_append, Pattern.many, Pattern.many]
      split
      · rw [List.filter_append, hall, ih, hlast]
        simp
      · rw [hlast]
        rfl

theorem Within.some (p : Char → Bool) : Within (some p) :=
  (Within.one p).bind fun _ => (Within.many p).bind fun _ => Within.pure _

theorem Within.optional {e : Expr (List Char)} (h : Within e) : Within (optional e) where
  shrinks := by
    intro s way hway
    rcases List.mem_append.mp hway with hway | hway
    · exact h.shrinks s way hway
    · rw [List.mem_singleton] at hway
      rw [hway]
  ways := by
    intro x y
    unfold Pattern.optional
    rw [List.filter_append, h.ways x y]
    simp

theorem Within.word (cs : List Char) : Within (word cs) := by
  induction cs with
  | nil => exact Within.pure []
  | cons c cs ih => exact (Within.one _).bind fun _ => ih.bind fun _ => Within.pure _

/-! ## Matches -/

inductive Piece (α : Type)
  | text (c : Char)
  | found (a : α)

section Matches

variable {α : Type} (e : Expr α)

/-- The leftmost matches and the characters between them; the text has at most `n` characters. -/
def piecesUpTo : Nat → List Char → List (Piece α)
  | 0, _ => []
  | _ + 1, [] => []
  | n + 1, c :: s => match (e (c :: s)).head? with
    | .some way => .found way.1 :: piecesUpTo n way.2
    | none => .text c :: piecesUpTo n s

def pieces (s : List Char) : List (Piece α) := piecesUpTo e s.length s

/-- `FindStringSubmatch`: the first match. -/
def find : List Char → Option α
  | [] => none
  | c :: s => match (e (c :: s)).head? with
    | .some way => .some way.1
    | none => find s

def Piece.write (f : α → List Char) : Piece α → List Char
  | .text c => [c]
  | .found a => f a

/-- `ReplaceAllStringFunc`: `f` is applied to what was captured. -/
def replaceAll (f : α → List Char) (s : List Char) : List Char := (pieces e s).flatMap (Piece.write f)

variable {e} {text : α → List Char} (hreads : Reads text e) (hne : ∀ s, ∀ way ∈ e s, text way.1 ≠ [])
include hreads hne

theorem source_pieces (s : List Char) : (pieces e s).flatMap (Piece.write text) = s := by
  have hall : ∀ n s, s.length ≤ n → (piecesUpTo e n s).flatMap (Piece.write text) = s := by
    intro n
    induction n with
    | zero =>
      intro s hs
      rw [List.length_eq_zero_iff.mp (Nat.le_zero.mp hs)]
      rfl
    | succ n ih =>
      intro s hs
      cases s with
      | nil => rfl
      | cons c s =>
        rw [piecesUpTo]
        split
        · rename_i way hway
          have hmem := List.mem_of_head? hway
          have hread := hreads (c :: s) way hmem
          have hpos : 0 < (text way.1).length := List.length_pos_iff.mpr (hne (c :: s) way hmem)
          have hlength := congrArg List.length hread
          rw [List.length_append] at hlength
          rw [List.flatMap_cons, ih way.2 (by omega)]
          exact hread.symm
        · rw [List.flatMap_cons, ih s (by rw [List.length_cons] at hs; omega)]
          rfl
  exact hall s.length s (Nat.le_refl _)

omit hreads hne in
theorem mem_piecesUpTo {n : Nat} {s : List Char} {a : α} (h : .found a ∈ piecesUpTo e n s) :
    ∃ s' rest, (e s').head? = .some (a, rest) := by
  induction n generalizing s with
  | zero => cases h
  | succ n ih =>
    cases s with
    | nil => cases h
    | cons c s =>
      rw [piecesUpTo] at h
      split at h
      · rename_i way hway
        rcases List.mem_cons.mp h with h | h
        · cases h
          exact ⟨c :: s, way.2, hway⟩
        · exact ih h
      · rcases List.mem_cons.mp h with h | h
        · cases h
        · exact ih h

theorem find_match (hwithin : Within e) {s : List Char} {a : α} (h : .found a ∈ pieces e s) :
    find e (text a) = .some a := by
  obtain ⟨s', rest, hhead⟩ := mem_piecesUpTo h
  have hmem := List.mem_of_head? hhead
  have hread : s' = text a ++ rest := hreads s' (a, rest) hmem
  have hways := hwithin.ways (text a) rest
  rw [← hread] at hways
  obtain ⟨others, hothers⟩ := List.head?_eq_some_iff.mp hhead
  rw [hothers, List.filter_cons_of_pos (by simp)] at hways
  obtain ⟨c, more, hmore⟩ := List.exists_cons_of_ne_nil (hne s' (a, rest) hmem)
  cases hself : e (text a) with
  | nil =>
    rw [hself] at hways
    cases hways
  | cons way ways =>
    rw [hself, List.map_cons] at hways
    have hfirst := (Prod.mk.inj (List.cons.inj hways).1).1
    dsimp only at hmore
    rw [hmore] at hself ⊢
    rw [find, hself]
    dsimp only [List.head?_cons]
    rw [hfirst]

end Matches

end PerGo.L1.Pattern
