import PerGo.L1Encoding.Json
import PerGo.L2Domain.Variables

/-!
# What the audit of a request keeps of its body

`sanitizeJSONMap` of `middleware/audit.go`, on a body that has been read into `any`.

`sanitized_at`: off the secret keys the record reads as the body does; at one it says so and no more, at any depth.
-/
namespace PerGo.L3.Audit

open PerGo.L1 PerGo.L2

section Sanitize

variable (casing : Casing)

def isSecretKey (k : String) : Bool :=
  ["password", "token", "secret", "credential", "private_key", "api_key", "kek"].any (containsStr (casing.toLower k))

mutual
/-- The type switch on a value. -/
def sanitizeJSON : Json → Json
  | .obj m => .obj (sanitizeJSONMap m)
  | .arr xs => .arr (sanitizeJSONSlice xs)
  | v => v

/-- mirrors audit.go:234-255 -/
def sanitizeJSONMap : List (String × Json) → List (String × Json)
  | [] => []
  | (k, v) :: m => (k, if isSecretKey casing k then .str "[REDACTED]" else sanitizeJSON v) :: sanitizeJSONMap m

/-- mirrors audit.go:257-269 -/
def sanitizeJSONSlice : List Json → List Json
  | [] => []
  | x :: xs => sanitizeJSON x :: sanitizeJSONSlice xs
end

theorem lookup_sanitizeJSONMap (m : List (String × Json)) (k : String) :
    (sanitizeJSONMap casing m).lookup k =
      (m.lookup k).map fun v => if isSecretKey casing k then .str "[REDACTED]" else sanitizeJSON casing v := by
  induction m with
  | nil => rfl
  | cons kv m ih =>
    obtain ⟨k', v⟩ := kv
    rw [sanitizeJSONMap, lookup_cons_ite, lookup_cons_ite, ih]
    split
    · rename_i hk
      simp [hk]
    · rfl

theorem sanitizeJSONSlice_eq_map (xs : List Json) : sanitizeJSONSlice casing xs = xs.map (sanitizeJSON casing) := by
  induction xs with
  | nil => rfl
  | cons x xs ih => rw [sanitizeJSONSlice, List.map_cons, ih]

/-! ## Paths into a document -/

inductive Step
  | key (k : String)
  | index (i : Nat)

def atPath : List Step → Json → Option Json
  | [], v => some v
  | .key k :: p, .obj m => (m.lookup k).bind (atPath p)
  | .index i :: p, .arr xs => xs[i]?.bind (atPath p)
  | _ :: _, _ => none

def Step.secret : Step → Bool
  | .key k => isSecretKey casing k
  | .index _ => false

theorem sanitized_at {p : List Step} (hp : ∀ s ∈ p, s.secret casing = false) (v : Json) :
    atPath p (sanitizeJSON casing v) = (atPath p v).map (sanitizeJSON casing) ∧
      ∀ k rest, isSecretKey casing k = true → atPath (p ++ .key k :: rest) (sanitizeJSON casing v) =
        if rest = [] then (atPath (p ++ [.key k]) v).map fun _ => .str "[REDACTED]" else none := by
  induction p generalizing v with
  | nil =>
    refine ⟨rfl, fun k rest hk => ?_⟩
    cases v with
    | obj m =>
      have hbelow : ∀ s, rest ≠ [] → atPath rest (.str s) = none := by
        intro s hrest
        cases rest with
        | nil => exact absurd rfl hrest
        | cons step rest => cases step <;> rfl
      simp only [List.nil_append, sanitizeJSON, atPath, lookup_sanitizeJSONMap, hk, if_true]
      cases m.lookup k with
      | none => simp
      | some v =>
        by_cases hrest : rest = []
        · simp [hrest, atPath]
        · simp [hrest, hbelow]
    | _ => simp [sanitizeJSON, atPath]
  | cons s p ih =>
    have hs := hp s List.mem_cons_self
    have hrest := fun v => ih (fun s' hs' => hp s' (List.mem_cons_of_mem s hs')) v
    cases s with
    | key k =>
      cases v with
      | obj m =>
        have hk : isSecretKey casing k = false := hs
        simp only [List.cons_append, sanitizeJSON, atPath, lookup_sanitizeJSONMap, hk, Bool.false_eq_true, if_false]
        cases m.lookup k with
        | none => simp
        | some v => exact hrest v
      | _ => simp [sanitizeJSON, atPath]
    | index i =>
      cases v with
      | arr xs =>
        simp only [List.cons_append, sanitizeJSON, atPath, sanitizeJSONSlice_eq_map, List.getElem?_map]
        cases xs[i]? with
        | none => simp
        | some v => exact hrest v
      | _ => simp [sanitizeJSON, atPath]

end Sanitize

def signUp : Json := .obj [("to", .str "5511999990000"), ("auth", .arr [.obj [("Access_Token", .str "t0k3n")]])]

/-- A token in a list is not kept. -/
theorem nested_token_hidden :
    atPath [.key "auth", .index 0, .key "Access_Token"] (sanitizeJSON latinCasing signUp) = some (.str "[REDACTED]") :=
  ((sanitized_at latinCasing (p := [.key "auth", .index 0]) (by decide) signUp).2 "Access_Token" [] (by decide)).trans
    (by decide)

end PerGo.L3.Audit
