import Mathlib.Data.List.Sort

/-!
# Keyset paging over an ordered list

A reader that asks for one page after another, each time with the key of an element of the
page before, until a page is empty. The server has the elements in one order; a page before
a key is the last `n` of those before the element, a page after it the first `n` after.

* `backLoop_eq`: walking back from the end gives the whole list.
* `forwardLoop_eq`: walking forward from an element gives what is after it.
* `insertionSort_filter`: over elements that the order tells apart, a selection of the rows
  sorted is the selection of the sorted rows.
* `filter_before`, `filter_after`: the rows before and after one, in a strictly ordered list.
-/
namespace PerGo.Core

variable {α κ ε : Type}

/-! ## The two walks -/

/-- Pages from the newest to the oldest, put together in order; `none` when a fetch fails or
the fuel runs out. -/
def backLoop (fetch : Option κ → Except ε (List α)) (key : α → κ) : Nat → Option κ → Option (List α)
  | 0, _ => none
  | fuel + 1, cursor => match fetch cursor with
    | .error _ => none
    | .ok page => match page.head? with
      | none => some []
      | some oldest => (backLoop fetch key fuel (some (key oldest))).map (· ++ page)

def forwardLoop (fetch : κ → Except ε (List α)) (key : α → κ) : Nat → κ → Option (List α)
  | 0, _ => none
  | fuel + 1, cursor => match fetch cursor with
    | .error _ => none
    | .ok page => match page.getLast? with
      | none => some []
      | some newest => (forwardLoop fetch key fuel (key newest)).map (page ++ ·)

def lastN (n : Nat) (l : List α) : List α := (l.reverse.take n).reverse

theorem lastN_eq_drop (n : Nat) (l : List α) : lastN n l = l.drop (l.length - n) := by
  rw [lastN, List.take_reverse, List.reverse_reverse]

theorem lastN_append (n : Nat) (l : List α) : l.take (l.length - n) ++ lastN n l = l := by
  rw [lastN_eq_drop]
  exact List.take_append_drop _ _

theorem lastN_cons {n : Nat} {l : List α} (hn : 0 < n) (hl : l ≠ []) :
    ∃ m rest, lastN n l = m :: rest ∧ (l.take (l.length - n)).length < l.length := by
  have hpos : 0 < l.length := List.length_pos_iff.mpr hl
  have hlen : (lastN n l).length = min n l.length := by
    simp [lastN]
  cases hpage : lastN n l with
  | nil =>
    rw [hpage] at hlen
    simp only [List.length_nil] at hlen
    omega
  | cons m rest =>
    refine ⟨m, rest, rfl, ?_⟩
    rw [List.length_take]
    omega

section Back

variable {fetch : Option κ → Except ε (List α)} {key : α → κ} {S : List α} {n : Nat}

theorem backLoop_part (hn : 0 < n)
    (hpage : ∀ pre m post, S = pre ++ m :: post → fetch (some (key m)) = .ok (lastN n pre)) :
    ∀ fuel (pre post : List α) (cursor : Option κ), S = pre ++ post → fetch cursor = .ok (lastN n pre) →
      pre.length < fuel → backLoop fetch key fuel cursor = some pre := by
  intro fuel
  induction fuel with
  | zero =>
    intro pre post cursor _ _ hfuel
    omega
  | succ fuel ih =>
    intro pre post cursor hS hfetch hfuel
    rw [backLoop, hfetch]
    by_cases hpre : pre = []
    · subst hpre
      simp [lastN]
    · obtain ⟨m, rest, hm, hshort⟩ := lastN_cons hn hpre
      have hwhole : pre.take (pre.length - n) ++ m :: rest = pre := by
        rw [← hm]
        exact lastN_append n pre
      have hsplit : S = pre.take (pre.length - n) ++ m :: (rest ++ post) := by
        rw [hS]
        nth_rewrite 1 [← hwhole]
        simp
      have hrest := ih (pre.take (pre.length - n)) (m :: (rest ++ post)) (some (key m)) hsplit
        (hpage _ _ _ hsplit) (by omega)
      simp only [hm, List.head?_cons, hrest, Option.map_some, hwhole]

theorem backLoop_eq (hn : 0 < n) (hstart : fetch none = .ok (lastN n S))
    (hpage : ∀ pre m post, S = pre ++ m :: post → fetch (some (key m)) = .ok (lastN n pre))
    {fuel : Nat} (hfuel : S.length < fuel) : backLoop fetch key fuel none = some S := by
  have hS : S = S ++ [] := (List.append_nil S).symm
  exact backLoop_part hn hpage fuel S [] none hS hstart hfuel

end Back

section Forward

variable {fetch : κ → Except ε (List α)} {key : α → κ} {S : List α} {n : Nat}

theorem forwardLoop_eq (hn : 0 < n)
    (hpage : ∀ pre m post, S = pre ++ m :: post → fetch (key m) = .ok (post.take n)) :
    ∀ fuel (pre : List α) (m : α) (post : List α), S = pre ++ m :: post → post.length < fuel →
      forwardLoop fetch key fuel (key m) = some post := by
  intro fuel
  induction fuel with
  | zero =>
    intro pre m post _ hfuel
    omega
  | succ fuel ih =>
    intro pre m post hS hfuel
    rw [forwardLoop, hpage pre m post hS]
    by_cases hpost : post = []
    · subst hpost
      simp
    · have hne : post.take n ≠ [] := by
        intro h
        rcases List.take_eq_nil_iff.mp h with h | h
        · omega
        · exact hpost h
      -- the page ends in the next cursor
      obtain ⟨front, newest, hfront⟩ := List.eq_nil_or_concat (post.take n) |>.resolve_left hne
      have hwhole : front ++ newest :: post.drop n = post := by
        have := List.take_append_drop n post
        rw [hfront] at this
        simpa using this
      have hsplit : S = (pre ++ m :: front) ++ newest :: post.drop n := by
        rw [hS]
        nth_rewrite 1 [← hwhole]
        simp
      have hshort : (post.drop n).length < fuel := by
        rw [List.length_drop]
        have := List.length_pos_iff.mpr hpost
        omega
      have hrest := ih _ newest _ hsplit hshort
      have hlast : (post.take n).getLast? = some newest := by
        rw [hfront]
        simp
      simp only [hlast, hrest, Option.map_some, List.take_append_drop]

end Forward

/-! ## One order for every page -/

section Order

variable {r : α → α → Prop} [DecidableRel r] [Std.Total r] [IsTrans α r]

theorem insertionSort_filter {rows : List α} (hdist : ∀ a ∈ rows, ∀ b ∈ rows, r a b → r b a → a = b)
    (p : α → Bool) : (rows.filter p).insertionSort r = (rows.insertionSort r).filter p := by
  have hperm : ((rows.filter p).insertionSort r).Perm ((rows.insertionSort r).filter p) :=
    (List.perm_insertionSort r _).trans ((List.perm_insertionSort r rows).filter p).symm
  refine hperm.eq_of_pairwise ?_ (List.pairwise_insertionSort r _) ((List.pairwise_insertionSort r rows).filter p)
  intro a b ha hb hab hba
  have harow := (List.mem_filter.mp ((List.mem_insertionSort r).mp ha)).1
  have hbrow := (List.mem_insertionSort r).mp (List.mem_filter.mp hb).1
  exact hdist a harow b hbrow hab hba

end Order

section Strict

variable {lt : α → α → Bool} {pre post : List α} {m : α}

theorem filter_before (h : (pre ++ m :: post).Pairwise fun a b => lt a b) (hirr : ∀ a, lt a a = false)
    (hasymm : ∀ a b, lt a b → lt b a = false) : (pre ++ m :: post).filter (lt · m) = pre := by
  obtain ⟨-, hpost, hacross⟩ := List.pairwise_append.mp h
  have hpre : pre.filter (lt · m) = pre := by
    apply List.filter_eq_self.mpr
    intro a ha
    exact hacross a ha m List.mem_cons_self
  have hnone : post.filter (lt · m) = [] := by
    apply List.filter_eq_nil_iff.mpr
    intro a ha
    rw [hasymm m a ((List.pairwise_cons.mp hpost).1 a ha)]
    exact Bool.false_ne_true
  rw [List.filter_append, List.filter_cons, hpre, hnone, hirr m]
  simp

theorem filter_after (h : (pre ++ m :: post).Pairwise fun a b => lt a b) (hirr : ∀ a, lt a a = false)
    (hasymm : ∀ a b, lt a b → lt b a = false) : (pre ++ m :: post).filter (lt m ·) = post := by
  obtain ⟨-, hpost, hacross⟩ := List.pairwise_append.mp h
  have hnone : pre.filter (lt m ·) = [] := by
    apply List.filter_eq_nil_iff.mpr
    intro a ha
    rw [hasymm a m (hacross a ha m List.mem_cons_self)]
    exact Bool.false_ne_true
  have hkeep : post.filter (lt m ·) = post := by
    apply List.filter_eq_self.mpr
    intro a ha
    exact (List.pairwise_cons.mp hpost).1 a ha
  rw [List.filter_append, List.filter_cons, hkeep, hnone, hirr m]
  simp

end Strict

end PerGo.Core
