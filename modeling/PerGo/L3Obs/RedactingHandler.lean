import PerGo.L2Domain.Message
import PerGo.L2Domain.Variables

/-!
# The redacting log handler

`obs/redacting_handler.go`, over `log/slog`. An attribute is a key and a value; a
value is a leaf, a group of attributes, or a `LogValuer`, which stands for what its `LogValue`
returns (for an error, when `LogValue` panics).

The wrapped handler is the list of its own `WithAttrs` and `WithGroup` calls: what it writes of a
record is decided by them and the record it gets.
-/
namespace PerGo.L3.Obs

open PerGo.L1 PerGo.L2

/-! ## Attributes -/

inductive Leaf (α : Type)
  | string (s : String)
  | any (a : α)
  /-- the error of a chain of `LogValuer`s that does not end -/
  | tooManyLogValues

inductive Value (α : Type)
  | leaf (a : Leaf α)
  | group (attrs : List (String × Value α))
  | valuer (v : Value α)

/-- `slog.Attr`. -/
abbrev Attr (α : Type) := String × Value α

def maxLogValues : Nat := 100

/-- `Value.Resolve`, with the calls of `LogValue` that are left. -/
def Value.resolve {α : Type} : Nat → Value α → Value α
  | 0, _ => .leaf .tooManyLogValues
  | n + 1, .valuer v => v.resolve n
  | _ + 1, v => v

def Value.isEmptyGroup {α : Type} : Value α → Bool
  | .group [] => true
  | _ => false

/-- Attributes without the empty groups among them, as `GroupValue` and `AddAttrs` take them. -/
def withoutEmptyGroups {α : Type} (attrs : List (Attr α)) : List (Attr α) := attrs.filter fun a => !a.2.isEmptyGroup

structure Record (α : Type) where
  time : Time
  level : Int
  message : String
  pc : Nat
  attrs : List (Attr α)

inductive Op (α : Type)
  | withAttrs (attrs : List (Attr α))
  | withGroup (name : String)

/-! ## Sensitive keys -/

def redactionPlaceholder : String := "[REDACTED]"

/-- mirrors redacting_handler.go:12-46 -/
def defaultSensitiveKeys : List String :=
  ["phone", "phone_number", "recipient", "sender", "contact", "email", "body", "text", "content", "message_body",
   "payload", "password", "token", "secret", "credentials", "api_key", "key", "kek", "authorization", "access_key",
   "secret_key", "private_key", "bearer", "webhook_secret", "access_token", "client_secret", "refresh_token",
   "auth_token", "master_key", "session_secret"]

def sensitiveParts : List String :=
  ["password", "secret", "token", "credential", "private_key", "api_key", "auth_header"]

structure RedactingHandler (α : Type) where
  casing : Casing
  /-- the calls on the wrapped handler -/
  handler : List (Op α)
  sensitiveKeys : List String
  customOverride : Bool

/-- mirrors redacting_handler.go:58-77 -/
inductive HandlerOption
  | withSensitiveKeys (keys : List String)
  | withExtraSensitiveKeys (keys : List String)

section Handler

variable {α : Type}

def HandlerOption.apply (h : RedactingHandler α) : HandlerOption → RedactingHandler α
  | .withSensitiveKeys keys => { h with customOverride := true, sensitiveKeys := keys.map h.casing.toLower }
  | .withExtraSensitiveKeys keys => { h with sensitiveKeys := h.sensitiveKeys ++ keys.map h.casing.toLower }

/-- mirrors redacting_handler.go:79-91 -/
def newRedactingHandler (casing : Casing) (opts : List HandlerOption) : RedactingHandler α :=
  opts.foldl HandlerOption.apply ⟨casing, [], defaultSensitiveKeys.map casing.toLower, false⟩

/-- mirrors redacting_handler.go:136-156 -/
def RedactingHandler.isSensitive (h : RedactingHandler α) (key : String) : Bool :=
  if key = "" then false
  else
    let lower := h.casing.toLower key
    if lower ∈ h.sensitiveKeys then true
    else !h.customOverride && sensitiveParts.any fun part => containsStr lower part

/-! ## Redaction -/

section Redaction

variable (sensitive : String → Bool)

mutual

def redactValue : Nat → Value α → Value α
  | 0, _ => .leaf .tooManyLogValues
  | _ + 1, .leaf a => .leaf a
  | _ + 1, .group attrs => .group (withoutEmptyGroups (redactAttrs attrs))
  | n + 1, .valuer v => redactValue n v

def redactAttrs : List (Attr α) → List (Attr α)
  | [] => []
  | (key, v) :: rest =>
    (if sensitive key then (key, .leaf (.string redactionPlaceholder)) else (key, redactValue maxLogValues v)) ::
      redactAttrs rest

end

/-- mirrors redacting_handler.go:159-181 -/
def redactAttr (a : Attr α) : Attr α :=
  if sensitive a.1 then (a.1, .leaf (.string redactionPlaceholder)) else (a.1, redactValue sensitive maxLogValues a.2)

theorem redactAttrs_eq_map (attrs : List (Attr α)) : redactAttrs sensitive attrs = attrs.map (redactAttr sensitive) := by
  induction attrs with
  | nil => rw [redactAttrs, List.map_nil]
  | cons a attrs ih =>
    obtain ⟨key, v⟩ := a
    rw [redactAttrs, List.map_cons, ih]
    rfl

end Redaction

/-! ## The handler -/

/-- The calls of the wrapped handler, and the record it gets. mirrors redacting_handler.go:99-106 -/
def RedactingHandler.handle (h : RedactingHandler α) (r : Record α) : List (Op α) × Record α :=
  (h.handler, { r with attrs := withoutEmptyGroups (r.attrs.map (redactAttr h.isSensitive)) })

/-- mirrors redacting_handler.go:109-122 -/
def RedactingHandler.withAttrs (h : RedactingHandler α) (attrs : List (Attr α)) : RedactingHandler α :=
  if attrs.length = 0 then h
  else { h with handler := h.handler ++ [.withAttrs (attrs.map (redactAttr h.isSensitive))] }

/-- mirrors redacting_handler.go:125-134 -/
def RedactingHandler.withGroup (h : RedactingHandler α) (name : String) : RedactingHandler α :=
  if name = "" then h else { h with handler := h.handler ++ [.withGroup name] }

def RedactingHandler.apply (h : RedactingHandler α) : Op α → RedactingHandler α
  | .withAttrs attrs => h.withAttrs attrs
  | .withGroup name => h.withGroup name

def RedactingHandler.build (h : RedactingHandler α) (ops : List (Op α)) : RedactingHandler α := ops.foldl apply h

end Handler

end PerGo.L3.Obs
