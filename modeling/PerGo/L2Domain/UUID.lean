import Mathlib.Data.Nat.Digits.Defs
import PerGo.L2Domain.Message

/-!
# `uuid.UUID.String`

Thirty-two hexadecimal digits in groups of 8, 4, 4, 4 and 12. Different UUIDs
have different texts, so a text can stand for its UUID where the code uses it
as a key.
-/
namespace PerGo.L2

open PerGo.L1

def uuidDigit (d : Nat) : Char := if d < 10 then Char.ofNat (48 + d) else Char.ofNat (87 + d)

def digitValue (c : Char) : Nat := if c.toNat < 58 then c.toNat - 48 else c.toNat - 87

theorem digitValue_uuidDigit {d : Nat} (h : d < 16) : digitValue (uuidDigit d) = d ∧ uuidDigit d ≠ '-' := by
  have hall : ∀ i : Fin 16, digitValue (uuidDigit i) = i ∧ uuidDigit i ≠ '-' := by decide
  exact hall ⟨d, h⟩

def uuidDigits (u : UUID) : List Nat :=
  Nat.digits 16 u ++ List.replicate (32 - (Nat.digits 16 u).length) 0

def uuidHex (u : UUID) : List Char := (uuidDigits u).reverse.map uuidDigit

def dashed (l : List Char) : List Char :=
  l.take 8 ++ '-' :: ((l.drop 8).take 4 ++ '-' :: (((l.drop 8).drop 4).take 4 ++
    '-' :: ((((l.drop 8).drop 4).drop 4).take 4 ++ '-' :: (((l.drop 8).drop 4).drop 4).drop 4)))

/-- `uuid.UUID.String()`. -/
def UUID.string (u : UUID) : String := String.ofList (dashed (uuidHex u))

theorem uuidDigits_lt {u : UUID} {d : Nat} (h : d ∈ uuidDigits u) : d < 16 := by
  rcases List.mem_append.mp h with h | h
  · exact Nat.digits_lt_base (by omega) h
  · rw [List.eq_of_mem_replicate h]
    omega

theorem ofDigits_uuidDigits (u : UUID) : Nat.ofDigits 16 (uuidDigits u) = u := by
  rw [uuidDigits, Nat.ofDigits_append_replicate_zero, Nat.ofDigits_digits]

theorem filter_dashed {l : List Char} (h : ∀ c ∈ l, c ≠ '-') : (dashed l).filter (· ≠ '-') = l := by
  have hself : ∀ l' : List Char, (∀ c ∈ l', c ≠ '-') → l'.filter (· ≠ '-') = l' := by
    intro l' h'
    exact List.filter_eq_self.mpr fun c hc => by simpa using h' c hc
  have hplain : (dashed l).filter (· ≠ '-') = l.filter (· ≠ '-') := by
    simp only [dashed, List.filter_append, List.filter_cons, ne_eq, not_true_eq_false, decide_false,
      Bool.false_eq_true, if_false]
    simp only [← List.filter_append, List.take_append_drop]
  rw [hplain, hself l h]

theorem uuidHex_ne_dash {u : UUID} {c : Char} (h : c ∈ uuidHex u) : c ≠ '-' := by
  obtain ⟨d, hd, rfl⟩ := List.mem_map.mp h
  exact (digitValue_uuidDigit (uuidDigits_lt (List.mem_reverse.mp hd))).2

theorem digitValue_uuidHex (u : UUID) : ((uuidHex u).map digitValue).reverse = uuidDigits u := by
  have hmap : ∀ ds : List Nat, (∀ d ∈ ds, d < 16) → (ds.map uuidDigit).map digitValue = ds := by
    intro ds hds
    calc (ds.map uuidDigit).map digitValue = ds.map id := by
          rw [List.map_map]
          exact List.map_congr_left fun d hd => (digitValue_uuidDigit (hds d hd)).1
      _ = ds := List.map_id ds
  rw [uuidHex, hmap _ (fun d hd => uuidDigits_lt (List.mem_reverse.mp hd)), List.reverse_reverse]

theorem UUID.string_inj {u v : UUID} (h : u.string = v.string) : u = v := by
  have hd : dashed (uuidHex u) = dashed (uuidHex v) := by simpa [UUID.string] using congrArg String.toList h
  have hx : uuidHex u = uuidHex v := by
    rw [← filter_dashed (fun _ => uuidHex_ne_dash (u := u)), hd, filter_dashed fun _ => uuidHex_ne_dash]
  calc u = Nat.ofDigits 16 (uuidDigits u) := (ofDigits_uuidDigits u).symm
    _ = Nat.ofDigits 16 (uuidDigits v) := by rw [← digitValue_uuidHex, hx, digitValue_uuidHex]
    _ = v := ofDigits_uuidDigits v

theorem UUID.string_ne_empty (u : UUID) : 0 < u.string.toList.length := by
  simp [UUID.string, dashed]

theorem isSpace_uuidDigit {d : Nat} (h : d < 16) : isSpace (uuidDigit d) = false := by
  have hall : ∀ i : Fin 16, isSpace (uuidDigit i) = false := by decide
  exact hall ⟨d, h⟩

theorem mem_dashed {l : List Char} {c : Char} (h : c ∈ dashed l) : c = '-' ∨ c ∈ l := by
  simp only [dashed, List.mem_append, List.mem_cons] at h
  rcases h with h | h | h | h | h | h | h | h | h
  · exact Or.inr (List.mem_of_mem_take h)
  · exact Or.inl h
  · exact Or.inr (List.mem_of_mem_drop (List.mem_of_mem_take h))
  · exact Or.inl h
  · exact Or.inr (List.mem_of_mem_drop (List.mem_of_mem_drop (List.mem_of_mem_take h)))
  · exact Or.inl h
  · exact Or.inr (List.mem_of_mem_drop (List.mem_of_mem_drop (List.mem_of_mem_drop (List.mem_of_mem_take h))))
  · exact Or.inl h
  · exact Or.inr (List.mem_of_mem_drop (List.mem_of_mem_drop (List.mem_of_mem_drop (List.mem_of_mem_drop h))))

theorem UUID.trimSpace_string (u : UUID) : trimSpace u.string = u.string := by
  apply trimSpace_of_forall
  intro c hc
  rw [UUID.string, String.toList_ofList] at hc
  rcases mem_dashed hc with rfl | hc
  · decide
  · obtain ⟨d, hd, rfl⟩ := List.mem_map.mp hc
    exact isSpace_uuidDigit (uuidDigits_lt (List.mem_reverse.mp hd))

example : UUID.string 0x123e4567e89b12d3a456426614174000 = "123e4567-e89b-12d3-a456-426614174000" := by
  decide +kernel

end PerGo.L2
