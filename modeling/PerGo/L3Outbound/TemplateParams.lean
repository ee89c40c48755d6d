import PerGo.L2Domain.Dynamic
import PerGo.L2Domain.Request

/-!
# Template parameters

`outbound/template_params.go`: the parameters of a component, as a caller may
write them, become a list of `TemplateParameter`; the numbers of parameters are compared
with the placeholders of the stored template.

A Go map is ranged over in any order; the model takes the order of the list, which only
decides which of several errors is reported.
-/
namespace PerGo.L3.Outbound

open PerGo.L1 PerGo.L2

/-! ## Normalising -/

/-- One entry of an object that is unmarshalled into a `TemplateParameter`; `none` is a type error. -/
def paramField (tp : TemplateParameter) (kv : String × Json) : Option TemplateParameter :=
  if foldName kv.1 = foldName "type" then
    match kv.2 with
    | .str s => some { tp with type := s }
    | .null => some tp
    | _ => none
  else if foldName kv.1 = foldName "text" then
    match kv.2 with
    | .str s => some { tp with text := s }
    | .null => some tp
    | _ => none
  else some tp

/-- `json.Marshal` of the map, which sorts its keys, and `json.Unmarshal` into a `TemplateParameter`. -/
def paramOfMap (kvs : List (String × GoVal)) : Option TemplateParameter := do
  let fields ← GoVal.encodeMap (kvs.insertionSort fun a b => a.1 ≤ b.1)
  fields.foldlM paramField ⟨"", ""⟩

def paramError : String := "json: cannot convert parameter"

/-- mirrors template_params.go:23-46 -/
def toParam : GoVal → Except String TemplateParameter
  | .string s => .ok ⟨"text", s⟩
  | .map kvs => match paramOfMap kvs with
    | none => .error paramError
    | some tp => .ok (if tp.type = "" ∧ tp.text ≠ "" then { tp with type := "text" } else tp)
  | .param p => .ok p
  | v => .ok ⟨"text", v.format⟩

/-- `var out []T` with the items appended. -/
def appended (ps : List TemplateParameter) : Option (List TemplateParameter) := if ps = [] then none else some ps

def numericKeys : List String → Except String (List Int)
  | [] => .ok []
  | k :: ks => match parseInt64 k with
    | none => .error ("invalid map key: " ++ k ++ " (must be numeric)")
    | some n => (numericKeys ks).map (n :: ·)

/-- The slice it returns; `none` is the nil slice. mirrors template_params.go:18-87 -/
def normalizeTemplateParams : GoVal → Except String (Option (List TemplateParameter))
  | .nil => .ok none
  | .slice xs => do
    let out ← xs.mapM toParam
    pure (appended out)
  | .map kvs => do
    let keys ← numericKeys (kvs.map (·.1))
    let out ← (keys.insertionSort (· ≤ ·)).mapM fun k => toParam ((kvs.lookup (formatInt k)).getD .nil)
    pure (appended out)
  | .params ps => .ok ps
  | v => .error ("unsupported parameter format: " ++ v.typeName)

/-! ## Counting -/

/-- A placeholder, two braces around digits, at the head: the digits and what follows. -/
def placeholder : List Char → Option (String × List Char)
  | '\x7b' :: '\x7b' :: rest =>
    let digits := rest.takeWhile isDigit
    match rest.dropWhile isDigit with
    | '\x7d' :: '\x7d' :: tail => if digits = [] then none else some (String.ofList digits, tail)
    | _ => none
  | _ => none

/-- `FindAllStringSubmatch`; `fuel` is the length of the text. -/
def placeholders : Nat → List Char → List String
  | 0, _ => []
  | _, [] => []
  | fuel + 1, c :: rest => match placeholder (c :: rest) with
    | some (digits, tail) => digits :: placeholders fuel tail
    | none => placeholders fuel rest

def templateVars (text : String) : List String := placeholders text.toList.length text.toList

def mapField (kvs : List (String × Json)) (k : String) : Json := (kvs.reverse.lookup k).getD .null

def isVariableButton : Json → Bool
  | .obj kvs => match mapField kvs "type", mapField kvs "url" with
    | .str type, .str url => toLower type = "url" && templateVars url ≠ []
    | _, _ => false
  | _ => false

/-- What one component expects, if it has placeholders. mirrors template_params.go:103-145 -/
def expectedOf (kvs : List (String × Json)) : Option (String × Nat) :=
  match mapField kvs "type" with
  | .str type =>
    let cType := toLower type
    if cType = "header" ∨ cType = "body" then
      match mapField kvs "text" with
      | .str text => let n := (templateVars text).dedup.length; if n > 0 then some (cType, n) else none
      | _ => none
    else if cType = "buttons" then
      match mapField kvs "buttons" with
      | .arr buttons => let n := buttons.countP isVariableButton; if n > 0 then some ("button", n) else none
      | _ => none
    else none
  | _ => none

/-- `m[k] = n`. -/
def setCount (m : List (String × Nat)) (k : String) (n : Nat) : List (String × Nat) :=
  if m.any (·.1 = k) then m.map fun e => if e.1 = k then (k, n) else e else m ++ [(k, n)]

def countComponent (expected : List (String × Nat)) : Json → Option (List (String × Nat))
  | .obj kvs => some (match expectedOf kvs with
    | some (k, n) => setCount expected k n
    | none => expected)
  | .null => some expected
  | _ => none

/-- The raw components of a stored template: no bytes, bytes that are no JSON, or a document. -/
inductive RawComponents
  | empty
  | invalid
  | document (json : Json)

/-- `none` when the components cannot be parsed. mirrors template_params.go:91-146 -/
def countTemplateVariables : RawComponents → Option (List (String × Nat))
  | .empty | .document .null => some []
  | .document (.arr parsed) => parsed.foldlM countComponent []
  | _ => none

def providedCounts (provided : List TemplateComponent) : List (String × Nat) :=
  provided.foldl (fun m c => match c.parameters with
    | .params ps => setCount m (toLower c.type) (ps.getD []).length
    | .slice xs => setCount m (toLower c.type) xs.length
    | _ => m) []

/-- `strings.ToUpper` of the names of components. -/
def upperName (cType : String) : String :=
  if cType = "header" then "HEADER" else if cType = "body" then "BODY" else "BUTTON"

/-- The error, if there is one. mirrors template_params.go:150-175 -/
def validateParameterCounts (provided : List TemplateComponent) (expected : List (String × Nat)) : Option String :=
  let counts := providedCounts provided
  expected.findSome? fun e =>
    let got := (counts.lookup e.1).getD 0
    if got = e.2 then none
    else some ("component " ++ upperName e.1 ++ " expects " ++ formatInt e.2 ++ " parameters, got " ++ formatInt got)

end PerGo.L3.Outbound
