import PerGo.L1Encoding.GoString
import Mathlib.Data.BitVec

/-!
# The part of Go's `net/netip` the code uses

`netip.ParseAddr` takes the first of `.`, `:` and `%` in the text as its kind: dotted decimal,
colon-separated hexadecimal with an optional zone, or an error. `netip.ParsePrefix` cuts at the last `/`.
The texts are lists of code points; what is not a digit, a letter `a` to `f`, `.`, `:`, `/` or `%` can
only stand in a zone.
-/
namespace PerGo.L1.NetIP

/-- A valid `netip.Addr`. -/
inductive Addr
  | v4 (bits : BitVec 32)
  | v6 (bits : BitVec 128) (zone : String)
deriving DecidableEq

/-- `netip.Prefix`. -/
structure Prefix where
  addr : Addr
  bits : Nat
deriving DecidableEq

def Addr.zone : Addr → String
  | .v4 _ => ""
  | .v6 _ zone => zone

def bytesValue (bytes : List Nat) : Nat := bytes.foldl (fun n b => 256 * n + b) 0

/-- `Is4In6`: under `::ffff:0:0/96`. -/
def Addr.is4In6 : Addr → Bool
  | .v4 _ => false
  | .v6 b _ => b >>> 32 = 0xffff

/-- `Unmap`: the wrapped IPv4 address of a mapped one, without its zone. -/
def Addr.unmap (a : Addr) : Addr :=
  match a with
  | .v4 b => .v4 b
  | .v6 b zone => if (Addr.v6 b zone).is4In6 then .v4 (b.setWidth 32) else .v6 b zone

theorem Addr.unmap_unmap (a : Addr) : a.unmap.unmap = a.unmap := by
  cases a with
  | v4 b => rfl
  | v6 b zone =>
    cases h : (Addr.v6 b zone).is4In6 with
    | true => simp only [unmap, h, if_true]
    | false => simp [unmap, h]

/-! ## Classes of addresses -/

/-- `ip.v4(i)`: one octet of an IPv4 address. -/
def octet (b : BitVec 32) (i : Nat) : Nat := b.toNat >>> (8 * (3 - i)) &&& 0xff

/-- `ip.v6(0)`: the first byte of an IPv6 address. -/
def firstByte (b : BitVec 128) : Nat := b.toNat >>> 120

/-- `ip.v6u16(0)`: the first group of an IPv6 address. -/
def firstGroup (b : BitVec 128) : Nat := b.toNat >>> 112

/-- `IsUnspecified`: compared with `0.0.0.0` and the `::` without a zone. -/
def Addr.isUnspecified (a : Addr) : Bool := a = .v4 0 ∨ a = .v6 0 ""

/-- `IsLoopback`. -/
def Addr.isLoopback (a : Addr) : Bool :=
  match a.unmap with
  | .v4 b => octet b 0 = 127
  | .v6 b _ => b = 1

/-- `IsLinkLocalUnicast`. -/
def Addr.isLinkLocalUnicast (a : Addr) : Bool :=
  match a.unmap with
  | .v4 b => octet b 0 = 169 ∧ octet b 1 = 254
  | .v6 b _ => firstGroup b &&& 0xffc0 = 0xfe80

/-- `IsLinkLocalMulticast`. -/
def Addr.isLinkLocalMulticast (a : Addr) : Bool :=
  match a.unmap with
  | .v4 b => octet b 0 = 224 ∧ octet b 1 = 0 ∧ octet b 2 = 0
  | .v6 b _ => firstGroup b &&& 0xff0f = 0xff02

/-- `IsMulticast`. -/
def Addr.isMulticast (a : Addr) : Bool :=
  match a.unmap with
  | .v4 b => octet b 0 &&& 0xf0 = 0xe0
  | .v6 b _ => firstByte b = 0xff

/-- `IsPrivate`. -/
def Addr.isPrivate (a : Addr) : Bool :=
  match a.unmap with
  | .v4 b =>
    octet b 0 = 10 ∨ (octet b 0 = 172 ∧ octet b 1 &&& 0xf0 = 16) ∨ (octet b 0 = 192 ∧ octet b 1 = 168)
  | .v6 b _ => firstByte b &&& 0xfe = 0xfc

/-- `Prefix.Contains`: false for an address with a zone or of the other family. -/
def Prefix.contains (p : Prefix) (a : Addr) : Bool :=
  match p.addr, a with
  | .v4 q, .v4 b => (b ^^^ q) >>> (32 - p.bits) = 0
  | .v6 q _, .v6 b zone => zone = "" ∧ (b ^^^ q) >>> (128 - p.bits) = 0
  | _, _ => false

/-- `netip.AddrFromSlice`. -/
def addrFromSlice (ip : List UInt8) : Option Addr :=
  let value := bytesValue (ip.map UInt8.toNat)
  if ip.length = 4 then some (.v4 (BitVec.ofNat 32 value))
  else if ip.length = 16 then some (.v6 (BitVec.ofNat 128 value) "")
  else none

/-! ## Parsing -/

def digitValue (c : Char) : Nat := c.toNat - '0'.toNat

def isHexDigit (c : Char) : Bool := isDigit c || ('a' ≤ c && c ≤ 'f') || ('A' ≤ c && c ≤ 'F')

def hexValue (c : Char) : Nat :=
  if isDigit c then digitValue c
  else if 'a' ≤ c then c.toNat - 'a'.toNat + 10
  else c.toNat - 'A'.toNat + 10

/-- The loop of `parseIPv4Fields`: `val` and `digLen` are of the current octet, `fields` the finished
ones. -/
def fieldsLoop : List Char → Nat → Nat → List Nat → Option (List Nat)
  | [], val, _, fields => if fields.length < 3 then none else some (fields ++ [val])
  | c :: s, val, digLen, fields =>
    if isDigit c then
      if digLen = 1 ∧ val = 0 then none
      else if 255 < val * 10 + digitValue c then none
      else fieldsLoop s (val * 10 + digitValue c) (digLen + 1) fields
    else if c = '.' then
      -- no digit since the start or the dot before, or nothing after this dot
      if digLen = 0 ∨ s = [] then none
      else if fields.length = 3 then none
      else fieldsLoop s 0 0 (fields ++ [val])
    else none

/-- `parseIPv4Fields`. -/
def parseIPv4Fields (s : List Char) : Option (List Nat) := fieldsLoop s 0 0 []

def parseIPv4 (s : List Char) : Option Addr :=
  (parseIPv4Fields s).map fun fields => .v4 (BitVec.ofNat 32 (bytesValue fields))

/-- The loop of `parseIPv6`, `for i < 16`: the first argument counts the groups there is still room for,
`ip` holds the bytes read, `ellipsis` where the `::` stood. What is left of the text is returned. -/
def groupsLoop : Nat → List Char → List Nat → Option Nat → Option (List Char × List Nat × Option Nat)
  | 0, s, ip, ellipsis => some (s, ip, ellipsis)
  | room + 1, s, ip, ellipsis =>
    let digits := s.takeWhile isHexDigit
    let acc := digits.foldl (fun n c => 16 * n + hexValue c) 0
    let ip' := ip ++ [acc / 256, acc % 256]
    if digits = [] ∨ 4 < digits.length then none
    else
      match s.dropWhile isHexDigit with
      | [] => some ([], ip', ellipsis)
      | c :: s =>
        if c = '.' then
          if ellipsis = none ∧ ip.length ≠ 12 then none
          else if 16 < ip.length + 4 then none
          else (parseIPv4Fields (digits ++ c :: s)).map fun fields => ([], ip ++ fields, ellipsis)
        else if c ≠ ':' then none
        else
          match s with
          | [] => none
          | d :: s =>
            if d = ':' then
              if ellipsis ≠ none then none
              else if s = [] then some ([], ip', some ip'.length)
              else groupsLoop room s ip' (some ip'.length)
            else groupsLoop room (d :: s) ip' ellipsis

/-- The end of `parseIPv6`: the ellipsis is expanded with zero bytes. -/
def expand (ip : List Nat) : Option Nat → Option (List Nat)
  | none => if ip.length < 16 then none else some ip
  | some k =>
    if ip.length < 16 then some (ip.take k ++ List.replicate (16 - ip.length) 0 ++ ip.drop k) else none

/-- The groups of `parseIPv6`, which may have the ellipsis in front. -/
def readGroups (s : List Char) : Option (List Char × List Nat × Option Nat) :=
  if s = [':', ':'] then some ([], [], some 0)
  else if [':', ':'].isPrefixOf s then groupsLoop 8 (s.drop 2) [] (some 0)
  else groupsLoop 8 s [] none

/-- `parseIPv6` on the text before the zone: all of it must be read. -/
def parseGroups (s : List Char) : Option (BitVec 128) :=
  match readGroups s with
  | some ([], ip, ellipsis) => (expand ip ellipsis).map fun bytes => BitVec.ofNat 128 (bytesValue bytes)
  | _ => none

/-- `parseIPv6`: what follows the first `%` is the zone, which must not be empty. -/
def parseIPv6 (s : List Char) : Option Addr :=
  let body := s.takeWhile (· ≠ '%')
  match s.dropWhile (· ≠ '%') with
  | [] => (parseGroups body).map (.v6 · "")
  | _ :: zone => if zone = [] then none else (parseGroups body).map (.v6 · (String.ofList zone))

/-- `netip.ParseAddr`. -/
def parseAddr (s : List Char) : Option Addr :=
  match s.find? fun c => c = '.' || c = ':' || c = '%' with
  | some '.' => parseIPv4 s
  | some ':' => parseIPv6 s
  | _ => none

/-- `strconv.Atoi` of the bits: digits only, and no leading zero before others. -/
def parseBits (s : List Char) : Option Nat :=
  if s = [] ∨ ¬s.all isDigit ∨ (1 < s.length ∧ s.head? = some '0') then none else some (digitsValue s)

/-- The text before and after the last `/`. -/
def cutLastSlash (s : List Char) : Option (List Char × List Char) :=
  match s.reverse.dropWhile (· ≠ '/') with
  | [] => none
  | _ :: before => some (before.reverse, (s.reverse.takeWhile (· ≠ '/')).reverse)

/-- `netip.ParsePrefix`. -/
def parsePrefix (s : List Char) : Option Prefix := do
  let (text, bitsStr) ← cutLastSlash s
  let ip ← parseAddr text
  if ip.zone ≠ "" then none
  else
    let bits ← parseBits bitsStr
    let maxBits := match ip with
      | .v4 _ => 32
      | .v6 _ _ => 128
    if maxBits < bits then none else some ⟨ip, bits⟩

example : parseAddr "::ffff:10.0.0.1".toList = some (.v6 0xffff0a000001 "") := by decide +kernel
example : parsePrefix "fe80::/10".toList = some ⟨.v6 (0xfe80 <<< 112) "", 10⟩ := by decide +kernel

end PerGo.L1.NetIP
