import Mathlib.Logic.Basic

/-!
# SQL expressions

Typed expressions over the columns and parameters of a row, with the three truth values: `none` is `NULL`, and of a
truth value unknown. A condition holds when it is true; `CASE` and `WHERE` take unknown for false.

Results: what it is for each connective to hold (`holds_and`, `holds_or`, `holds_eq`, `holds_le`, `holds_gt`,
`holds_case`), and what a `CASE` is worth (`eval_case`).
-/
namespace PerGo.Core.SQL

inductive Ty
  | bool
  | text
  | timestamptz

/-- The values that are not `NULL`; a time is a number of its units. -/
def Ty.Val : Ty → Type
  | .bool => Bool
  | .text => String
  | .timestamptz => Int

instance : (ty : Ty) → DecidableEq ty.Val
  | .bool => inferInstanceAs (DecidableEq Bool)
  | .text => inferInstanceAs (DecidableEq String)
  | .timestamptz => inferInstanceAs (DecidableEq Int)

inductive Expr : Ty → Type
  /-- a column, a parameter or a function without arguments, under its text -/
  | column (ty : Ty) (name : String) : Expr ty
  | text (s : String) : Expr .text
  | eq {ty : Ty} (a b : Expr ty) : Expr .bool
  | le (a b : Expr .timestamptz) : Expr .bool
  | gt (a b : Expr .timestamptz) : Expr .bool
  | and (a b : Expr .bool) : Expr .bool
  | or (a b : Expr .bool) : Expr .bool
  | isNull {ty : Ty} (a : Expr ty) : Expr .bool
  | isNotNull {ty : Ty} (a : Expr ty) : Expr .bool
  /-- `CASE WHEN c THEN a ELSE b END`; further `WHEN`s are a `case` in the last place -/
  | case {ty : Ty} (c : Expr .bool) (a b : Expr ty) : Expr ty

/-- What columns and parameters are worth. -/
abbrev Row := (ty : Ty) → String → Option ty.Val

/-- A false side decides, an unknown one spoils. -/
def and3 : Option Bool → Option Bool → Option Bool
  | some false, _ => some false
  | _, some false => some false
  | some true, some true => some true
  | _, _ => none

def or3 : Option Bool → Option Bool → Option Bool
  | some true, _ => some true
  | _, some true => some true
  | some false, some false => some false
  | _, _ => none

/-- A comparison is unknown when a side is `NULL`. -/
def compare3 {α : Type} (p : α → α → Bool) (a b : Option α) : Option Bool := a.bind fun x => b.map (p x)

def Expr.eval (row : Row) : {ty : Ty} → Expr ty → Option ty.Val
  | _, .column ty name => row ty name
  | _, .text s => some s
  | _, .eq a b => compare3 (fun x y => decide (x = y)) (a.eval row) (b.eval row)
  | _, .le a b => compare3 (fun x y : Int => decide (x ≤ y)) (a.eval row) (b.eval row)
  | _, .gt a b => compare3 (fun x y : Int => decide (x > y)) (a.eval row) (b.eval row)
  | _, .and a b => and3 (a.eval row) (b.eval row)
  | _, .or a b => or3 (a.eval row) (b.eval row)
  | _, .isNull a => some (a.eval row).isNone
  | _, .isNotNull a => some (a.eval row).isSome
  | _, .case c a b => match c.eval row with
    | some true => a.eval row
    | _ => b.eval row

/-- A condition is true. -/
def Holds (row : Row) (c : Expr .bool) : Prop := c.eval row = some true

instance (row : Row) (c : Expr .bool) : Decidable (Holds row c) :=
  match h : c.eval row with
  | some true => .isTrue h
  | some false => .isFalse fun h' => by cases h.symm.trans h'
  | none => .isFalse fun h' => by cases h.symm.trans h'

section Rules

variable {row : Row}

theorem and3_eq_true {a b : Option Bool} : and3 a b = some true ↔ a = some true ∧ b = some true := by
  rcases a with _ | _ | _ <;> rcases b with _ | _ | _ <;> decide

theorem or3_eq_true {a b : Option Bool} : or3 a b = some true ↔ a = some true ∨ b = some true := by
  rcases a with _ | _ | _ <;> rcases b with _ | _ | _ <;> decide

theorem compare3_eq_true {α : Type} {p : α → α → Bool} {a b : Option α} :
    compare3 p a b = some true ↔ ∃ x y, a = some x ∧ b = some y ∧ p x y = true := by
  cases a with
  | none => simp [compare3]
  | some x =>
    cases b with
    | none => simp [compare3]
    | some y => simp [compare3]

@[simp] theorem holds_and {a b : Expr .bool} : Holds row (.and a b) ↔ Holds row a ∧ Holds row b := and3_eq_true

@[simp] theorem holds_or {a b : Expr .bool} : Holds row (.or a b) ↔ Holds row a ∨ Holds row b := or3_eq_true

theorem holds_eq {ty : Ty} {a b : Expr ty} : Holds row (.eq a b) ↔ ∃ x, a.eval row = some x ∧ b.eval row = some x := by
  refine compare3_eq_true.trans ⟨fun ⟨x, y, ha, hb, h⟩ => ?_, fun ⟨x, ha, hb⟩ => ⟨x, x, ha, hb, decide_eq_true rfl⟩⟩
  have hxy : x = y := of_decide_eq_true h
  exact ⟨x, ha, hxy ▸ hb⟩

theorem holds_le {a b : Expr .timestamptz} :
    Holds row (.le a b) ↔ ∃ x y : Int, a.eval row = some x ∧ b.eval row = some y ∧ x ≤ y := by
  refine compare3_eq_true.trans (exists₂_congr fun x y => and_congr_right fun _ => and_congr_right fun _ => ?_)
  exact decide_eq_true_iff

theorem holds_gt {a b : Expr .timestamptz} :
    Holds row (.gt a b) ↔ ∃ x y : Int, a.eval row = some x ∧ b.eval row = some y ∧ x > y := by
  refine compare3_eq_true.trans (exists₂_congr fun x y => and_congr_right fun _ => and_congr_right fun _ => ?_)
  exact decide_eq_true_iff

@[simp] theorem holds_isNull {ty : Ty} {a : Expr ty} : Holds row (.isNull a) ↔ a.eval row = none := by
  show some (a.eval row).isNone = some true ↔ _
  rw [Option.some_inj, Option.isNone_iff_eq_none]

@[simp] theorem holds_isNotNull {ty : Ty} {a : Expr ty} : Holds row (.isNotNull a) ↔ ∃ x, a.eval row = some x := by
  show some (a.eval row).isSome = some true ↔ _
  rw [Option.some_inj, Option.isSome_iff_exists]

/-- A `CASE` takes its first branch when the condition is true, and not when it is unknown. -/
theorem eval_case {ty : Ty} {c : Expr .bool} {a b : Expr ty} :
    (Expr.case c a b).eval row = if Holds row c then a.eval row else b.eval row := by
  show (match c.eval row with | some true => a.eval row | _ => b.eval row) = _
  by_cases h : Holds row c
  · rw [if_pos h]
    unfold Holds at h
    rw [h]
  · rw [if_neg h]
    split
    · rename_i hc
      exact absurd hc h
    · rfl

theorem holds_case {c a b : Expr .bool} :
    Holds row (.case c a b) ↔ if Holds row c then Holds row a else Holds row b := by
  show (Expr.case c a b).eval row = some true ↔ _
  rw [eval_case]
  by_cases h : Holds row c
  · rw [if_pos h, if_pos h]
    rfl
  · rw [if_neg h, if_neg h]
    rfl

end Rules

end PerGo.Core.SQL
