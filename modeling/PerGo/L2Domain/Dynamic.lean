import PerGo.L2Domain.Message

/-!
# Values of type `interface{}`

What `encoding/json` and `fmt` make of a `GoVal`: `encode` is `json.Marshal`, `decode` is
`json.Unmarshal` into an `interface{}`, and `format` is `%v`. A typed slice is written as
an array of objects, and reads back as an `[]interface{}` of maps: `decode` never yields
one of the two domain types.

`QueueMessage.requeued` is a message that was marshalled by `Ingest` and unmarshalled by
the worker. Its typed fields survive: `encoding/json` reads back what it writes of a
string, a number, a UUID, a time, a `json.RawMessage` and of slices, maps and structs of
these. The fields of type `interface{}` do not.
-/
namespace PerGo.L2

open PerGo.L1

/-! ## JSON -/

/-- mirrors domain/message.go:253-257 -/
def TemplateParameter.encode (p : TemplateParameter) : Json :=
  .obj (("type", .str p.type) :: (if p.text = "" then [] else [("text", .str p.text)]))

mutual
/-- `json.Marshal`; `none` when it fails. -/
def GoVal.encode : GoVal → Option Json
  | .nil => some .null
  | .bool b => some (.bool b)
  | .float64 x => some (.num x)
  | .string s => some (.str s)
  | .slice xs => (GoVal.encodeSlice xs).map .arr
  | .map kvs => (GoVal.encodeMap kvs).map .obj
  | .param p => some p.encode
  | .params none => some .null
  | .params (some ps) => some (.arr (ps.map TemplateParameter.encode))
  | .other _ _ json => json
def GoVal.encodeSlice : List GoVal → Option (List Json)
  | [] => some []
  | x :: xs => do
    let j ← GoVal.encode x
    let js ← GoVal.encodeSlice xs
    pure (j :: js)
def GoVal.encodeMap : List (String × GoVal) → Option (List (String × Json))
  | [] => some []
  | (k, x) :: kvs => do
    let j ← GoVal.encode x
    let js ← GoVal.encodeMap kvs
    pure ((k, j) :: js)
end

mutual
/-- `json.Unmarshal` into an `interface{}`. -/
def GoVal.decode : Json → GoVal
  | .null => .nil
  | .bool b => .bool b
  | .num x => .float64 x
  | .str s => .string s
  | .arr xs => .slice (GoVal.decodeSlice xs)
  | .obj kvs => .map (GoVal.decodeMap kvs)
def GoVal.decodeSlice : List Json → List GoVal
  | [] => []
  | x :: xs => GoVal.decode x :: GoVal.decodeSlice xs
def GoVal.decodeMap : List (String × Json) → List (String × GoVal)
  | [] => []
  | (k, x) :: kvs => (k, GoVal.decode x) :: GoVal.decodeMap kvs
end

/-- A component, marshalled and unmarshalled. -/
def TemplateComponent.requeued (c : TemplateComponent) : Option TemplateComponent := do
  let parameters ← c.parameters.encode
  pure { c with parameters := GoVal.decode parameters }

/-- An interactive message, marshalled and unmarshalled. -/
def Interactive.requeued (i : Interactive) : Option Interactive := do
  let payload ← GoVal.encodeMap i.action.flowActionPayload
  pure { i with action := { i.action with flowActionPayload := GoVal.decodeMap payload } }

/-- The message as the worker unmarshals it; `none` when `Ingest` cannot marshal it. -/
def QueueMessage.requeued (q : QueueMessage) : Option QueueMessage := do
  let components ← q.components.mapM TemplateComponent.requeued
  let interactive ← match q.interactive with
    | none => some none
    | some i => i.requeued.map some
  pure { q with components := components, interactive := interactive }

/-- Only the fields of type `interface{}` change. -/
theorem QueueMessage.requeued_eq {q q' : QueueMessage} (h : q.requeued = some q') :
    ∃ interactive, q' = { q with components := q'.components, interactive := interactive } ∧
      q.components.mapM TemplateComponent.requeued = some q'.components := by
  unfold QueueMessage.requeued at h
  cases hc : q.components.mapM TemplateComponent.requeued with
  | none => simp [hc] at h
  | some components =>
    simp only [hc, Option.bind_eq_bind, Option.bind_some] at h
    cases hi : q.interactive with
    | none =>
      simp only [hi, pure, Option.some.injEq] at h
      subst h
      exact ⟨none, rfl, rfl⟩
    | some i =>
      simp only [hi] at h
      cases hr : i.requeued with
      | none => simp [hr] at h
      | some i' =>
        simp only [hr, Option.map_some, Option.bind_some, pure, Option.some.injEq] at h
        subst h
        exact ⟨some i', rfl, rfl⟩

theorem GoVal.decode_ne_params (j : Json) (ps : Option (List TemplateParameter)) : GoVal.decode j ≠ .params ps := by
  cases j <;> simp [GoVal.decode]

/-! ## `%v` -/

/-- A `float64` under `%v`: the shortest decimal, in `%e` form for exponents below -4 or from 6 on. -/
def formatFloat (d : Dec) : String :=
  let digits := (Nat.toDigits 10 d.mant).reverse.dropWhile (· = '0') |>.reverse
  let exp := d.exp + ((Nat.toDigits 10 d.mant).length - digits.length : Nat)
  let sign := if d.neg then "-" else ""
  if digits = [] then sign ++ "0"
  else
    let x := exp + digits.length - 1
    let abs :=
      if x < -4 ∨ 6 ≤ x then
        let frac := digits.drop 1
        let e := Nat.toDigits 10 x.natAbs
        String.ofList (digits.take 1) ++ (if frac = [] then "" else "." ++ String.ofList frac) ++
          (if x < 0 then "e-" else "e+") ++ String.ofList (if e.length < 2 then '0' :: e else e)
      else if 0 ≤ exp then String.ofList (digits ++ List.replicate exp.toNat '0')
      else if 0 ≤ x then
        String.ofList (digits.take (x + 1).toNat) ++ "." ++ String.ofList (digits.drop (x + 1).toNat)
      else "0." ++ String.ofList (List.replicate (-x - 1).toNat '0' ++ digits)
    sign ++ abs

def TemplateParameter.format (p : TemplateParameter) : String := "\x7b" ++ p.type ++ " " ++ p.text ++ "\x7d"

mutual
/-- `fmt.Sprintf("%v", v)`. -/
def GoVal.format : GoVal → String
  | .nil => "<nil>"
  | .bool b => if b then "true" else "false"
  | .float64 x => formatFloat x
  | .string s => s
  | .slice xs => "[" ++ " ".intercalate (GoVal.formatSlice xs) ++ "]"
  | .map kvs =>
    let entries := (GoVal.formatMap kvs).insertionSort fun a b => a.1 ≤ b.1
    "map[" ++ " ".intercalate (entries.map fun e => e.1 ++ ":" ++ e.2) ++ "]"
  | .param p => p.format
  | .params ps => "[" ++ " ".intercalate ((ps.getD []).map TemplateParameter.format) ++ "]"
  | .other _ text _ => text
def GoVal.formatSlice : List GoVal → List String
  | [] => []
  | x :: xs => GoVal.format x :: GoVal.formatSlice xs
def GoVal.formatMap : List (String × GoVal) → List (String × String)
  | [] => []
  | (k, x) :: kvs => (k, GoVal.format x) :: GoVal.formatMap kvs
end

/-- `%T`. -/
def GoVal.typeName : GoVal → String
  | .nil => "<nil>"
  | .bool _ => "bool"
  | .float64 _ => "float64"
  | .string _ => "string"
  | .slice _ => "[]interface \x7b\x7d"
  | .map _ => "map[string]interface \x7b\x7d"
  | .param _ => "domain.TemplateParameter"
  | .params _ => "[]domain.TemplateParameter"
  | .other typ _ _ => typ

end PerGo.L2
