import PerGo.Core.Table
import PerGo.L2Domain.Message

/-!
# API keys

The rows of `repository/apikey.go`, the three statements on them, and
the two functions of `crypto/hash.go`. SHA-256 is a parameter.
-/
namespace PerGo.L3

open PerGo.Core PerGo.L2

/-- mirrors apikey.go:17-27 -/
structure APIKey where
  id : UUID
  workspaceID : UUID
  keyPrefix : String
  keyHash : List UInt8
  name : String
  revokedAt : Option Time
  keyID : String
  keyVersion : Int
  createdAt : Time
deriving DecidableEq

def apiKeyPrefixLength : Nat := 8

/-- `key[:min(8, len(key))]`; a key is hex, so a byte is a character. -/
def apiKeyPrefix (key : String) : String := String.ofList (key.toList.take apiKeyPrefixLength)

section Hash

variable (sha256 : String → List UInt8)

/-- mirrors hash.go:15-18 -/
def hashAPIKey (key : String) : List UInt8 × String := (sha256 key, apiKeyPrefix key)

/-- mirrors hash.go:21-24 -/
def verifyAPIKey (key : String) (storedHash : List UInt8) : Bool := sha256 key = storedHash

end Hash

/-- The table `api_keys`; its id is the primary key. -/
structure APIKeys where
  rows : List APIKey
  ids : (rows.map (·.id)).Nodup

namespace APIKeys

def empty : APIKeys := ⟨[], List.nodup_nil⟩

def fresh (d : APIKeys) : UUID := freshKey (d.rows.map (·.id))

/-- mirrors apikey.go:66-74 -/
def newRow (d : APIKeys) (ws : UUID) (hashed : List UInt8 × String) (name keyID : String) (now : Time) : APIKey where
  id := d.fresh
  workspaceID := ws
  keyPrefix := hashed.2
  keyHash := hashed.1
  name := name
  revokedAt := none
  keyID := keyID
  keyVersion := 1
  createdAt := now

def insert (d : APIKeys) (ws : UUID) (hashed : List UInt8 × String) (name keyID : String) (now : Time) : APIKeys :=
  ⟨d.rows ++ [d.newRow ws hashed name keyID now], by
    rw [List.map_append, List.nodup_append]
    refine ⟨d.ids, by simp, ?_⟩
    intro a ha b hb hab
    simp only [List.map_cons, List.map_nil, List.mem_singleton] at hb
    subst hb
    exact freshKey_not_mem _ (hab ▸ ha)⟩

/-- The rows of `WHERE key_prefix = $1 AND revoked_at IS NULL`. -/
def liveWith (d : APIKeys) (keyPrefix : String) : List APIKey :=
  d.rows.filter fun r => r.keyPrefix = keyPrefix && r.revokedAt.isNone

def live (d : APIKeys) : List UUID := (d.rows.filter fun r => r.revokedAt.isNone).map (·.id)

def setRevoked (d : APIKeys) (id : UUID) (now : Time) : APIKeys :=
  ⟨updateWhere (fun r => r.id = id) (fun r => { r with revokedAt := some now }) d.rows, by
    rw [map_updateWhere (f := fun r : APIKey => { r with revokedAt := some now }) (fun _ => rfl)]
    exact d.ids⟩

/-- `RETURNING key_prefix`; `none` when there is no such row.
mirrors apikey.go:117-122 -/
def revoke (d : APIKeys) (id : UUID) (now : Time) : Option (String × APIKeys) :=
  match d.rows.find? fun r => r.id = id with
  | none => none
  | some r => some (r.keyPrefix, d.setRevoked id now)

theorem mem_live {d : APIKeys} {id : UUID} :
    id ∈ d.live ↔ ∃ r ∈ d.rows, r.id = id ∧ r.revokedAt = none := by
  simp only [live, List.mem_map, List.mem_filter, Option.isNone_iff_eq_none]
  constructor
  · intro ⟨r, ⟨hr, hn⟩, hid⟩
    exact ⟨r, hr, hid, hn⟩
  · intro ⟨r, hr, hid, hn⟩
    exact ⟨r, ⟨hr, hn⟩, hid⟩

theorem mem_liveWith {d : APIKeys} {keyPrefix : String} {r : APIKey} :
    r ∈ d.liveWith keyPrefix ↔ r ∈ d.rows ∧ r.keyPrefix = keyPrefix ∧ r.revokedAt = none := by
  simp [liveWith]

theorem eq_of_id {d : APIKeys} {r r' : APIKey} (h : r ∈ d.rows) (h' : r' ∈ d.rows) (hid : r.id = r'.id) :
    r = r' :=
  eq_of_key_eq d.ids h h' hid

/-- The row with the id, prefix and hash of a key, in whatever state. -/
def Known (d : APIKeys) (id : UUID) (keyPrefix : String) (keyHash : List UInt8) : Prop :=
  ∃ r ∈ d.rows, r.id = id ∧ r.keyPrefix = keyPrefix ∧ r.keyHash = keyHash

theorem Known.of_mem {d : APIKeys} {r : APIKey} (h : r ∈ d.rows) : d.Known r.id r.keyPrefix r.keyHash :=
  ⟨r, h, rfl, rfl, rfl⟩

theorem Known.keyPrefix_eq {d : APIKeys} {id : UUID} {p p' : String} {h h' : List UInt8} (a : d.Known id p h)
    (b : d.Known id p' h') : p = p' ∧ h = h' := by
  obtain ⟨r, hr, hid, rfl, rfl⟩ := a
  obtain ⟨r', hr', hid', rfl, rfl⟩ := b
  rw [eq_of_id hr hr' (hid.trans hid'.symm)]
  exact ⟨rfl, rfl⟩

/-- What every statement keeps: a key stays known, and a key that was there does not come back to life. -/
structure Extends (d d' : APIKeys) : Prop where
  known : ∀ {id p h}, d.Known id p h → d'.Known id p h
  live : ∀ {id p h}, d.Known id p h → id ∈ d'.live → id ∈ d.live

theorem Extends.refl (d : APIKeys) : Extends d d := ⟨fun h => h, fun _ h => h⟩

theorem insert_extends (d : APIKeys) (ws : UUID) (hashed : List UInt8 × String) (name keyID : String) (now : Time) :
    Extends d (d.insert ws hashed name keyID now) := by
  constructor
  · intro id p h ⟨r, hr, hk⟩
    exact ⟨r, List.mem_append_left _ hr, hk⟩
  · intro id p h ⟨r, hr, hid, _⟩ hl
    obtain ⟨r', hr', hid', hn⟩ := mem_live.mp hl
    rcases List.mem_append.mp hr' with hr' | hr'
    · exact mem_live.mpr ⟨r', hr', hid', hn⟩
    · rw [List.mem_singleton.mp hr'] at hid'
      have hin : d.fresh ∈ d.rows.map (·.id) := List.mem_map.mpr ⟨r, hr, hid.trans hid'.symm⟩
      exact absurd hin (freshKey_not_mem _)

theorem revoke_spec {d d' : APIKeys} {id : UUID} {now : Time} {keyPrefix : String}
    (h : d.revoke id now = some (keyPrefix, d')) :
    Extends d d' ∧ (∃ hash, d'.Known id keyPrefix hash) ∧ id ∉ d'.live := by
  unfold revoke at h
  split at h
  · cases h
  · rename_i r hf
    cases h
    have hr := List.mem_of_find?_eq_some hf
    have hid : r.id = id := by simpa using List.find?_some hf
    have hknown : ∀ {id' p h}, d.Known id' p h → (d.setRevoked id now).Known id' p h := by
      intro id' p h ⟨r', hr', hk⟩
      refine ⟨_, List.mem_map_of_mem hr', ?_⟩
      split
      · exact hk
      · exact hk
    refine ⟨⟨hknown, ?_⟩, ⟨r.keyHash, hknown (hid ▸ Known.of_mem hr)⟩, ?_⟩
    · intro id' p h _ hl
      obtain ⟨r', hr', hid', hn⟩ := mem_live.mp hl
      obtain ⟨r₀, hr₀, rfl⟩ := mem_updateWhere hr'
      split at hn
      · cases hn
      · rename_i hne
        rw [if_neg hne] at hid'
        exact mem_live.mpr ⟨r₀, hr₀, hid', hn⟩
    · intro hl
      obtain ⟨r', hr', hid', hn⟩ := mem_live.mp hl
      obtain ⟨r₀, hr₀, rfl⟩ := mem_updateWhere hr'
      split at hn
      · cases hn
      · rename_i hne
        rw [if_neg hne] at hid'
        exact hne (by simpa using hid')

end APIKeys

end PerGo.L3
