import PerGo.Core.Result
import PerGo.L1Encoding.Bytes

/-!
# Encryption at rest and of flow data

`crypto/encrypt.go`, and the two places that decrypt what Meta sends: the flow
reply of a webhook and the data exchange of a flow.

AES-GCM is a parameter (`AESGCM`): with a valid key and a nonce of 12 bytes it inverts itself, and
a ciphertext is 16 bytes longer than its plaintext. `cipher.NewGCM` takes nonces of 12 bytes only;
`Seal` and `Open` panic on another length.
-/
namespace PerGo.L3.Encryption

open PerGo.Core PerGo.L1

/-- The key sizes of AES. -/
def ValidKey (key : List UInt8) : Prop := key.length = 16 ∨ key.length = 24 ∨ key.length = 32

instance (key : List UInt8) : Decidable (ValidKey key) :=
  inferInstanceAs (Decidable (key.length = 16 ∨ key.length = 24 ∨ key.length = 32))

def nonceSize : Nat := 12

def overhead : Nat := 16

/-- AES-GCM, without additional data: key, nonce, text. -/
structure AESGCM where
  seal_ : List UInt8 → List UInt8 → List UInt8 → List UInt8
  open_ : List UInt8 → List UInt8 → List UInt8 → Option (List UInt8)
  length_seal : ∀ key nonce p, (seal_ key nonce p).length = p.length + overhead
  length_open : ∀ key nonce c p, open_ key nonce c = some p → c.length = p.length + overhead
  open_seal : ∀ key nonce p, ValidKey key → nonce.length = nonceSize → open_ key nonce (seal_ key nonce p) = some p

/-- The laws can be had: the text itself, and a tag of zeros. -/
instance : Inhabited AESGCM where
  default :=
    { seal_ := fun _ _ p => p ++ List.replicate overhead 0,
      open_ := fun _ _ c =>
        if overhead ≤ c.length ∧ c.drop (c.length - overhead) = List.replicate overhead 0 then
          some (c.take (c.length - overhead))
        else none,
      length_seal := fun _ _ p => by rw [List.length_append, List.length_replicate],
      length_open := fun _ _ c p h => by
        split at h
        · rename_i hc
          cases h
          rw [List.length_take]
          omega
        · cases h
      open_seal := fun _ _ p _ _ => by
        have hlen : (p ++ List.replicate overhead (0 : UInt8)).length - overhead = p.length := by
          rw [List.length_append, List.length_replicate]
          omega
        rw [hlen, List.drop_left, List.take_left, if_pos ⟨by simp, rfl⟩] }

/-- A `cipher.AEAD` of a key. -/
structure GCM where
  key : List UInt8
  valid : ValidKey key

/-- `aes.NewCipher` and `cipher.NewGCM`. -/
def newGCM (key : List UInt8) : Result String GCM :=
  if h : ValidKey key then .ok ⟨key, h⟩ else .error "crypto/aes: invalid key size"

/-- The random bytes of the `i`-th read, if it succeeds. -/
structure Rand where
  read : Nat → Nat → Option (List UInt8)
  length_read : ∀ i n b, read i n = some b → b.length = n

def Rand.bytes (r : Rand) (i n : Nat) : Result String (List UInt8) :=
  match r.read i n with
  | some b => .ok b
  | none => .error "rand"

/-- mirrors encrypt.go:12-23 -/
structure Encryptor where
  kek : List UInt8
  length_kek : kek.length = 32

section Calls

variable (g : AESGCM)

/-- `gcm.Seal(nil, nonce, p, nil)`. -/
def GCM.seal_ (gcm : GCM) (nonce p : List UInt8) : Result String (List UInt8) :=
  if nonce.length = nonceSize then .ok (g.seal_ gcm.key nonce p) else .panic

/-- `gcm.Open(nil, nonce, c, nil)`. -/
def GCM.open_ (gcm : GCM) (nonce c : List UInt8) : Result String (List UInt8) :=
  if nonce.length = nonceSize then
    match g.open_ gcm.key nonce c with
    | some p => .ok p
    | none => .error "cipher: message authentication failed"
  else .panic

/-- The ciphertext, its key id and its key version. mirrors encrypt.go:27-77 -/
def encrypt (r : Rand) (e : Encryptor) (plaintext : List UInt8) : Result String (List UInt8 × String × Nat) := do
  let dek ← r.bytes 0 32
  let gcm ← newGCM e.kek
  let dekNonce ← r.bytes 1 nonceSize
  let wrappedDEK ← gcm.seal_ g dekNonce dek
  let plainGCM ← newGCM dek
  let plainNonce ← r.bytes 2 nonceSize
  let encrypted ← plainGCM.seal_ g plainNonce plaintext
  pure (UInt8.ofNat dekNonce.length :: (dekNonce ++ wrappedDEK ++ plainNonce ++ encrypted), "default", 1)

/-- The plaintext under the unwrapped key. mirrors encrypt.go:116-134 -/
def decryptRest (dek rest : List UInt8) : Result String (List UInt8) := do
  let plainGCM ← newGCM dek
  if rest.length < nonceSize then .error "ciphertext too short for plaintext nonce"
  else do
    let plainNonce ← Result.slice rest 0 nonceSize
    let encrypted ← Result.slice rest nonceSize rest.length
    plainGCM.open_ g plainNonce encrypted

/-- mirrors encrypt.go:83-134 -/
def decrypt (e : Encryptor) (ciphertext : List UInt8) : Result String (List UInt8) :=
  if ciphertext.length < 1 then .error "ciphertext too short"
  else do
    let dekNonceLen := (← Result.index ciphertext 0).toNat
    if ciphertext.length < 1 + dekNonceLen then .error "ciphertext too short for DEK nonce"
    else do
      let dekNonce ← Result.slice ciphertext 1 (1 + dekNonceLen)
      let rest ← Result.slice ciphertext (1 + dekNonceLen) ciphertext.length
      let gcm ← newGCM e.kek
      let wrappedDEKLen := overhead + 32
      if rest.length < wrappedDEKLen then .error "ciphertext too short for wrapped DEK"
      else do
        let wrappedDEK ← Result.slice rest 0 wrappedDEKLen
        let rest ← Result.slice rest wrappedDEKLen rest.length
        let dek ← gcm.open_ g dekNonce wrappedDEK
        decryptRest g dek rest

/-- mirrors encrypt.go:150-162 -/
def decryptAES128GCM (key iv ciphertext tag : List UInt8) : Result String (List UInt8) := do
  let gcm ← newGCM key
  gcm.open_ g iv (ciphertext ++ tag)

/-! ## What Meta sends -/

/-- The encrypted fields of a flow reply, or of a data exchange. -/
structure FlowEnvelope where
  encryptedFlowData : String
  encryptedAESKey : String
  initialVector : String

abbrev PrivateKey := List UInt8 → Option (List UInt8)

/-- The plaintext of an encrypted flow reply, if there is one; `base64` errors are not looked at.
mirrors whatsapp/waba_inbound.go:340-353 -/
def decryptFlowReply (privKey : Option PrivateKey) (f : FlowEnvelope) : Result String (Option (List UInt8)) :=
  if f.encryptedFlowData = "" then .ok none
  else match privKey.bind fun privKey => privKey (Base64.decodeStd f.encryptedAESKey).1 with
    | none => .ok none
    | some aesKey =>
      let flowCipher := (Base64.decodeStd f.encryptedFlowData).1
      let iv := (Base64.decodeStd f.initialVector).1
      let tagSize := 16
      if flowCipher.length > tagSize then do
        let ciphertext ← Result.slice flowCipher 0 (flowCipher.length - tagSize)
        let tag ← Result.slice flowCipher (flowCipher.length - tagSize) flowCipher.length
        (decryptAES128GCM g aesKey iv ciphertext tag).result (fun plaintext => .ok (some plaintext)) fun _ => .ok none
      else .ok none

/-- The plaintext of a data exchange, or the text of the response.
mirrors handler/flow_data_exchange.go:116-150 -/
def decryptFlowRequest (privKey : PrivateKey) (f : FlowEnvelope) : Result String (List UInt8) :=
  let encAESKey := Base64.decodeStd f.encryptedAESKey
  let iv := Base64.decodeStd f.initialVector
  let encFlowData := Base64.decodeStd f.encryptedFlowData
  if !encAESKey.2 then .error "invalid encrypted_aes_key"
  else if !iv.2 then .error "invalid initial_vector"
  else if !encFlowData.2 then .error "invalid encrypted_flow_data"
  else match privKey encAESKey.1 with
    | none => .error "decryption failed"
    | some aesKey =>
      if encFlowData.1.length < 16 then .error "flow data too short"
      else do
        let tagSize := 16
        let ciphertext ← Result.slice encFlowData.1 0 (encFlowData.1.length - tagSize)
        let tag ← Result.slice encFlowData.1 (encFlowData.1.length - tagSize) encFlowData.1.length
        (decryptAES128GCM g aesKey iv.1 ciphertext tag).result .ok fun _ => .error "decryption failed"

end Calls

end PerGo.L3.Encryption
