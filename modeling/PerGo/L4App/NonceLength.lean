import PerGo.L3Channel.Encryption

/-!
# Decryption and the length of its nonce

`Open` panics unless its nonce has 12 bytes. `Decrypt` takes the length of the nonce from the
first byte of the ciphertext, and `DecryptAES128GCM` takes any initialisation vector.

* `decrypt_safe_iff`, `decryptAES128GCM_safe_iff`: when the two return.
* `decryption_returns_iff`: when every call of the repository returns, and that what `Encrypt` wrote comes back.
-/
namespace PerGo.L4.NonceLength

open PerGo.Core PerGo.Core.Result PerGo.L1 PerGo.L3.Encryption

section Open

variable {g : AESGCM}

theorem open_safe_iff {gcm : GCM} {nonce c : List UInt8} : (gcm.open_ g nonce c).Safe ↔ nonce.length = nonceSize := by
  unfold GCM.open_
  rw [safe_ite_iff]
  constructor
  · intro h
    by_contra hne
    exact not_safe_panic (h.2 hne)
  · intro hlen
    refine ⟨fun _ => ?_, fun hne => absurd hlen hne⟩
    cases g.open_ gcm.key nonce c with
    | some p => exact safe_ok p
    | none => exact safe_error _

theorem newGCM_safe (key : List UInt8) : (newGCM key).Safe := by
  unfold newGCM
  split
  · exact safe_ok _
  · exact safe_error _

theorem newGCM_of_valid {key : List UInt8} (h : ValidKey key) : newGCM key = .ok ⟨key, h⟩ := dif_pos h

theorem newGCM_ok {key : List UInt8} {gcm : GCM} (h : newGCM key = .ok gcm) : ValidKey key ∧ gcm.key = key := by
  unfold newGCM at h
  split at h
  · cases h
    exact ⟨‹_›, rfl⟩
  · cases h

theorem decryptAES128GCM_safe_iff (key iv ciphertext tag : List UInt8) :
    (decryptAES128GCM g key iv ciphertext tag).Safe ↔ (ValidKey key → iv.length = nonceSize) := by
  unfold decryptAES128GCM
  rw [safe_bind_iff]
  constructor
  · rintro ⟨-, h⟩ hvalid
    exact open_safe_iff.mp (h _ (newGCM_of_valid hvalid))
  · intro h
    refine ⟨newGCM_safe key, ?_⟩
    intro gcm hgcm
    exact open_safe_iff.mpr (h (newGCM_ok hgcm).1)

theorem decryptRest_safe (dek rest : List UInt8) : (decryptRest g dek rest).Safe := by
  unfold decryptRest
  rw [safe_bind_iff]
  refine ⟨newGCM_safe dek, ?_⟩
  intro gcm _
  rw [safe_ite_iff]
  refine ⟨fun _ => safe_error _, ?_⟩
  intro hlen
  have hle : nonceSize ≤ rest.length := Nat.le_of_not_lt hlen
  rw [slice_zero hle, ok_bind, slice_length hle, ok_bind, open_safe_iff, List.length_take]
  exact Nat.min_eq_left hle

/-! ## Envelopes -/

/-- What `Decrypt` makes of an envelope that is long enough for its nonce and the wrapped key. -/
theorem decrypt_eq (e : Encryptor) (n : UInt8) (tail : List UInt8) (hlen : n.toNat + 48 ≤ tail.length) :
    decrypt g e (n :: tail) =
      (GCM.open_ g ⟨e.kek, .inr (.inr e.length_kek)⟩ (tail.take n.toNat) ((tail.drop n.toNat).take 48) >>= fun dek =>
        decryptRest g dek ((tail.drop n.toNat).drop 48)) := by
  have hvalid : ValidKey e.kek := .inr (.inr e.length_kek)
  have hrest : overhead + 32 ≤ (tail.drop n.toNat).length := by
    rw [List.length_drop]
    show 48 ≤ _
    omega
  have hnonce : (slice (n :: tail) 1 (1 + n.toNat) : Result String (List UInt8)) = .ok (tail.take n.toNat) := by
    rw [slice_of_le (by omega) (by rw [List.length_cons]; omega)]
    simp
  have htail : (slice (n :: tail) (1 + n.toNat) (n :: tail).length : Result String (List UInt8)) =
      .ok (tail.drop n.toNat) := by
    rw [slice_length (by rw [List.length_cons]; omega), Nat.add_comm, List.drop_succ_cons]
  unfold decrypt
  rw [if_neg (by rw [List.length_cons]; omega), index_cons_zero, ok_bind,
    if_neg (by rw [List.length_cons]; omega), hnonce, ok_bind, htail, ok_bind, newGCM_of_valid hvalid, ok_bind]
  show (if _ then _ else _) = _
  rw [if_neg (Nat.not_lt.mpr hrest), slice_zero hrest, ok_bind, slice_length hrest, ok_bind]
  rfl

/-- The first byte says 12, or the ciphertext is too short for what it says. -/
def EnvelopeOk : List UInt8 → Prop
  | [] => True
  | n :: tail => n.toNat = nonceSize ∨ tail.length < n.toNat + 48

theorem decrypt_safe_iff (e : Encryptor) (c : List UInt8) : (decrypt g e c).Safe ↔ EnvelopeOk c := by
  cases c with
  | nil =>
    show (Result.error _).Safe ↔ True
    simp
  | cons n tail =>
    show _ ↔ n.toNat = nonceSize ∨ tail.length < n.toNat + 48
    by_cases hlen : n.toNat + 48 ≤ tail.length
    · rw [decrypt_eq e n tail hlen, safe_bind_iff, open_safe_iff, List.length_take]
      have hle : n.toNat ≤ tail.length := by omega
      rw [Nat.min_eq_left hle]
      constructor
      · exact fun h => .inl h.1
      · intro h
        have hn : n.toNat = nonceSize := h.resolve_right (by omega)
        exact ⟨hn, fun dek _ => decryptRest_safe dek _⟩
    · refine iff_of_true ?_ (.inr (by omega))
      -- one of the two checks of the length fails
      unfold decrypt
      rw [if_neg (by rw [List.length_cons]; omega), index_cons_zero, ok_bind, safe_ite_iff]
      refine ⟨fun _ => safe_error _, ?_⟩
      intro h₁
      rw [List.length_cons] at h₁
      rw [slice_of_le (by omega) (by rw [List.length_cons]; omega), ok_bind,
        slice_length (by rw [List.length_cons]; omega), ok_bind, safe_bind_iff]
      refine ⟨newGCM_safe _, ?_⟩
      intro gcm _
      rw [if_pos]
      · exact safe_error _
      · rw [List.length_drop, List.length_cons]
        show _ < 16 + 32
        omega

end Open

/-! ## What was encrypted -/

section RoundTrip

variable {g : AESGCM} {r : Rand}

theorem length_of_bytes {i n : Nat} {b : List UInt8} (h : r.bytes i n = .ok b) : b.length = n := by
  unfold Rand.bytes at h
  cases hread : r.read i n with
  | some b' =>
    rw [hread] at h
    cases h
    exact r.length_read i n b hread
  | none =>
    rw [hread] at h
    cases h

theorem bytes_safe (i n : Nat) : (r.bytes i n).Safe := by
  unfold Rand.bytes
  cases r.read i n with
  | some b => exact safe_ok b
  | none => exact safe_error _

theorem seal_of_length {gcm : GCM} {nonce p : List UInt8} (h : nonce.length = nonceSize) :
    gcm.seal_ g nonce p = .ok (g.seal_ gcm.key nonce p) := if_pos h

/-- `Encrypt` returns: its nonces have the right length. -/
theorem encrypt_safe (e : Encryptor) (p : List UInt8) : (encrypt g r e p).Safe := by
  unfold encrypt
  rw [safe_bind_iff]
  refine ⟨bytes_safe 0 32, fun dek _ => ?_⟩
  rw [safe_bind_iff]
  refine ⟨newGCM_safe _, fun gcm _ => ?_⟩
  rw [safe_bind_iff]
  refine ⟨bytes_safe 1 nonceSize, fun dekNonce hdek => ?_⟩
  rw [seal_of_length (length_of_bytes hdek), ok_bind, safe_bind_iff]
  refine ⟨newGCM_safe _, fun plainGCM _ => ?_⟩
  rw [safe_bind_iff]
  refine ⟨bytes_safe 2 nonceSize, fun plainNonce hplain => ?_⟩
  rw [seal_of_length (length_of_bytes hplain)]
  exact safe_ok _

theorem encrypt_ok {e : Encryptor} {p c : List UInt8} {keyID : String} {keyVersion : Nat}
    (h : encrypt g r e p = .ok (c, keyID, keyVersion)) :
    ∃ dek dekNonce plainNonce, dek.length = 32 ∧ dekNonce.length = nonceSize ∧ plainNonce.length = nonceSize ∧
      c = 12 :: (dekNonce ++ g.seal_ e.kek dekNonce dek ++ plainNonce ++ g.seal_ dek plainNonce p) := by
  obtain ⟨dek, hdek, h⟩ := bind_eq_ok_iff.mp h
  obtain ⟨gcm, hgcm, h⟩ := bind_eq_ok_iff.mp h
  obtain ⟨dekNonce, hdekNonce, h⟩ := bind_eq_ok_iff.mp h
  rw [seal_of_length (length_of_bytes hdekNonce), ok_bind] at h
  obtain ⟨plainGCM, hplain, h⟩ := bind_eq_ok_iff.mp h
  obtain ⟨plainNonce, hplainNonce, h⟩ := bind_eq_ok_iff.mp h
  rw [seal_of_length (length_of_bytes hplainNonce), ok_bind] at h
  cases h
  obtain ⟨-, hkey⟩ := newGCM_ok hgcm
  obtain ⟨-, hplainKey⟩ := newGCM_ok hplain
  have hn := length_of_bytes hdekNonce
  refine ⟨dek, dekNonce, plainNonce, length_of_bytes hdek, hn, length_of_bytes hplainNonce, ?_⟩
  rw [hn, hkey, hplainKey]
  rfl

theorem decrypt_encrypt {e : Encryptor} {p c : List UInt8} {keyID : String} {keyVersion : Nat}
    (h : encrypt g r e p = .ok (c, keyID, keyVersion)) : decrypt g e c = .ok p := by
  obtain ⟨dek, dekNonce, plainNonce, hdek, hn, hpn, rfl⟩ := encrypt_ok h
  have hwrapped : (g.seal_ e.kek dekNonce dek).length = 48 := by
    rw [g.length_seal, hdek]
    rfl
  have htwelve : (12 : UInt8).toNat = dekNonce.length := hn.symm
  rw [List.append_assoc, List.append_assoc, decrypt_eq e 12 _ (by
    rw [htwelve, List.length_append, List.length_append, hwrapped]
    omega)]
  rw [htwelve, List.take_left, List.drop_left, ← hwrapped, List.take_left, List.drop_left]
  have hkek : ValidKey e.kek := .inr (.inr e.length_kek)
  have hvalid : ValidKey dek := .inr (.inr hdek)
  have hunwrap : GCM.open_ g ⟨e.kek, .inr (.inr e.length_kek)⟩ dekNonce (g.seal_ e.kek dekNonce dek) = .ok dek := by
    unfold GCM.open_
    rw [if_pos hn, g.open_seal _ _ _ hkek hn]
  rw [hunwrap, ok_bind]
  have hlen : nonceSize ≤ (plainNonce ++ g.seal_ dek plainNonce p).length := by
    rw [List.length_append, hpn]
    omega
  unfold decryptRest
  rw [newGCM_of_valid hvalid, ok_bind, if_neg (Nat.not_lt.mpr hlen), slice_zero hlen, ok_bind, slice_length hlen, ok_bind,
    ← hpn, List.take_left, List.drop_left]
  unfold GCM.open_
  rw [if_pos hpn, g.open_seal _ _ _ hvalid hpn]

end RoundTrip

/-! ## What Meta sends -/

section Flow

variable {g : AESGCM}

theorem tagged_safe_iff {β : Type} {key iv data : List UInt8} {f : List UInt8 → Result String β}
    {h : String → Result String β} (hlen : 16 ≤ data.length) (hf : ∀ a, (f a).Safe) (hh : ∀ e, (h e).Safe) :
    (do
      let ciphertext ← slice data 0 (data.length - 16)
      let tag ← slice data (data.length - 16) data.length
      (decryptAES128GCM g key iv ciphertext tag).result f h).Safe ↔ (ValidKey key → iv.length = nonceSize) := by
  rw [slice_zero (by omega), ok_bind, slice_length (by omega), ok_bind, safe_result_iff hf hh, decryptAES128GCM_safe_iff]

/-- An encrypted reply whose key is unwrapped to an AES key has a vector of 12 bytes. -/
def ReplyOk (privKey : Option PrivateKey) (f : FlowEnvelope) : Prop :=
  f.encryptedFlowData ≠ "" → 16 < (Base64.decodeStd f.encryptedFlowData).1.length →
    ∀ aesKey, (privKey.bind fun privKey => privKey (Base64.decodeStd f.encryptedAESKey).1) = some aesKey →
      ValidKey aesKey → (Base64.decodeStd f.initialVector).1.length = nonceSize

theorem decryptFlowReply_safe_iff (privKey : Option PrivateKey) (f : FlowEnvelope) :
    (decryptFlowReply g privKey f).Safe ↔ ReplyOk privKey f := by
  unfold decryptFlowReply ReplyOk
  rw [safe_ite_iff, and_iff_right fun _ => safe_ok _]
  refine imp_congr_right fun _ => ?_
  cases hkey : privKey.bind fun privKey => privKey (Base64.decodeStd f.encryptedAESKey).1 with
  | none => exact iff_of_true (safe_ok _) fun _ _ h => nomatch h
  | some aesKey =>
    simp only [Option.some.injEq, forall_eq']
    rw [safe_ite_iff, and_iff_left fun _ => safe_ok _]
    refine imp_congr_right fun hlen => ?_
    exact tagged_safe_iff hlen.le (fun _ => safe_ok _) fun _ => safe_ok _

/-- The same of a data exchange, which is refused when a part is not well formed. -/
def RequestOk (privKey : PrivateKey) (f : FlowEnvelope) : Prop :=
  (Base64.decodeStd f.encryptedAESKey).2 = true → (Base64.decodeStd f.initialVector).2 = true →
    (Base64.decodeStd f.encryptedFlowData).2 = true → 16 ≤ (Base64.decodeStd f.encryptedFlowData).1.length →
      ∀ aesKey, privKey (Base64.decodeStd f.encryptedAESKey).1 = some aesKey →
        ValidKey aesKey → (Base64.decodeStd f.initialVector).1.length = nonceSize

theorem decryptFlowRequest_safe_iff (privKey : PrivateKey) (f : FlowEnvelope) :
    (decryptFlowRequest g privKey f).Safe ↔ RequestOk privKey f := by
  unfold decryptFlowRequest RequestOk
  simp only [Bool.not_eq_true']
  rw [safe_ite_iff, and_iff_right fun _ => safe_error _, Bool.not_eq_false]
  refine imp_congr_right fun _ => ?_
  rw [safe_ite_iff, and_iff_right fun _ => safe_error _, Bool.not_eq_false]
  refine imp_congr_right fun _ => ?_
  rw [safe_ite_iff, and_iff_right fun _ => safe_error _, Bool.not_eq_false]
  refine imp_congr_right fun _ => ?_
  cases hkey : privKey (Base64.decodeStd f.encryptedAESKey).1 with
  | none => exact iff_of_true (safe_error _) fun _ _ h => nomatch h
  | some aesKey =>
    simp only [Option.some.injEq, forall_eq']
    rw [safe_ite_iff, and_iff_right fun _ => safe_error _, Nat.not_lt]
    refine imp_congr_right fun hlen => ?_
    exact tagged_safe_iff hlen safe_ok fun _ => safe_error _

end Flow

/-! ## Every call -/

/-- When the calls of the repository return; what was encrypted comes back. -/
theorem decryption_returns_iff (g : AESGCM) (e : Encryptor) :
    (∀ c, (decrypt g e c).Safe ↔ EnvelopeOk c) ∧
    (∀ key iv ciphertext tag,
      (decryptAES128GCM g key iv ciphertext tag).Safe ↔ (ValidKey key → iv.length = nonceSize)) ∧
    (∀ privKey f, (decryptFlowReply g privKey f).Safe ↔ ReplyOk privKey f) ∧
    (∀ privKey f, (decryptFlowRequest g privKey f).Safe ↔ RequestOk privKey f) ∧
    ∀ r p, (encrypt g r e p).Safe ∧
      ∀ c keyID keyVersion, encrypt g r e p = .ok (c, keyID, keyVersion) → decrypt g e c = .ok p :=
  ⟨decrypt_safe_iff e, fun key iv ciphertext tag => decryptAES128GCM_safe_iff key iv ciphertext tag,
    decryptFlowReply_safe_iff, decryptFlowRequest_safe_iff,
    fun _ p => ⟨encrypt_safe e p, fun _ _ _ => decrypt_encrypt⟩⟩

/-- An exchange with the vector of 16 bytes that Meta sends, under an AES key of 16. -/
def metaExchange : FlowEnvelope :=
  ⟨"AAAAAAAAAAAAAAAAAAAAAA==", "AAAA", "AAAAAAAAAAAAAAAAAAAAAA=="⟩

/-- A ciphertext that starts with 13, and a vector of 16 bytes. -/
theorem nonce_length_panics :
    (¬ ∃ g e, ∀ c, (decrypt g e c).Safe) ∧
    (¬ ∃ g, ∀ privKey f, (decryptFlowReply g (some privKey) f).Safe) ∧
    ¬ ∃ g, ∀ privKey f, (decryptFlowRequest g privKey f).Safe := by
  refine ⟨?_, ?_, ?_⟩
  · rintro ⟨g, e, h⟩
    have hok := (decrypt_safe_iff e _).mp (h (13 :: List.replicate 61 0))
    exact absurd hok (by unfold EnvelopeOk; decide)
  · rintro ⟨g, h⟩
    have hok := (decryptFlowReply_safe_iff _ _).mp (h (fun _ => some (List.replicate 16 0))
      { metaExchange with encryptedFlowData := "AAAAAAAAAAAAAAAAAAAAAAAA" })
    have hlen := hok (by decide) (by decide +kernel) _ rfl (by decide)
    exact absurd hlen (by decide +kernel)
  · rintro ⟨g, h⟩
    have hok := (decryptFlowRequest_safe_iff _ _).mp (h (fun _ => some (List.replicate 16 0)) metaExchange)
    have hlen := hok (by decide +kernel) (by decide +kernel) (by decide +kernel) (by decide +kernel) _ rfl (by decide)
    exact absurd hlen (by decide +kernel)

end PerGo.L4.NonceLength
