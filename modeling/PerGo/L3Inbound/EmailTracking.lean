import PerGo.L2Domain.UUID
import PerGo.L3Channel.EmailTracking
import PerGo.L3Queue.DispatchTable

/-!
# The endpoints of e-mail tracking

`HandleOpen` and `HandleClick` of `inbound/email.go`, which have their own copy of the signature. The
parameters of a request are byte strings. Without a repository nothing is recorded.
-/
namespace PerGo.L3.EmailTracking

open PerGo.L1
open PerGo.L2
open PerGo.L3

inductive Response
  | gif
  | redirect (url : List UInt8)
  | badRequest

/-- mirrors repository/dispatch.go:162-170 -/
def UpdateStatusByProviderMessageID (rows : List MessageDispatch) (providerMsgID : List UInt8) (status : String) :
    List MessageDispatch :=
  rows.map fun row =>
    if row.providerMessageID.map (fun id => utf8 id.toList) = some providerMsgID ∨
        utf8 row.id.string.toList = providerMsgID then { row with status := status }
    else row

def param (query : Query.Values) (name : String) : List UInt8 := Query.get query (utf8 name.toList)

section Handler

variable (hmacSHA256 : List UInt8 → List UInt8 → Vector UInt8 32) (secretKey : List UInt8)

/-- mirrors email.go:39-43 -/
def generateTrackingHMAC (messageID payload secret : List UInt8) : String :=
  Webhook.hexEncode (hmacSHA256 secret (messageID ++ utf8 [':'] ++ payload)).toList

/-- mirrors email.go:45-48 -/
def verifyTrackingHMAC (messageID payload sig secret : List UInt8) : Bool :=
  utf8 (generateTrackingHMAC hmacSHA256 messageID payload secret).toList = sig

def recordRead (dispatchRepo : Option (List MessageDispatch)) (msgID : List UInt8) : Option (List MessageDispatch) :=
  dispatchRepo.map fun rows => UpdateStatusByProviderMessageID rows msgID "read"

/-- mirrors email.go:51-66 -/
def HandleOpen (dispatchRepo : Option (List MessageDispatch)) (query : Query.Values) :
    Response × Option (List MessageDispatch) :=
  let msgID := param query "m"
  let sig := param query "sig"
  if msgID ≠ [] ∧ sig ≠ [] ∧ verifyTrackingHMAC hmacSHA256 msgID (utf8 "open".toList) sig secretKey = true then
    (.gif, recordRead dispatchRepo msgID)
  else (.gif, dispatchRepo)

/-- mirrors email.go:69-88 -/
def HandleClick (dispatchRepo : Option (List MessageDispatch)) (query : Query.Values) :
    Response × Option (List MessageDispatch) :=
  let msgID := param query "m"
  let targetURL := param query "url"
  let sig := param query "sig"
  if msgID ≠ [] ∧ targetURL ≠ [] ∧ sig ≠ [] ∧ verifyTrackingHMAC hmacSHA256 msgID targetURL sig secretKey = true then
    (.redirect targetURL, recordRead dispatchRepo msgID)
  else if targetURL ≠ [] then (.redirect targetURL, dispatchRepo)
  else (.badRequest, dispatchRepo)

end Handler

section Signatures

variable {hmacSHA256 : List UInt8 → List UInt8 → Vector UInt8 32}

/-- The two copies agree. -/
theorem generateTrackingHMAC_eq (messageID payload secret : List UInt8) :
    generateTrackingHMAC hmacSHA256 messageID payload secret =
      Email.GenerateTrackingHMAC hmacSHA256 messageID payload secret := rfl

theorem generateTrackingHMAC_ne (messageID payload secret : List UInt8) :
    utf8 (generateTrackingHMAC hmacSHA256 messageID payload secret).toList ≠ [] := by
  unfold generateTrackingHMAC Webhook.hexEncode
  generalize hmacSHA256 secret (messageID ++ utf8 [':'] ++ payload) = mac
  have hlength : mac.toList.length = 32 := by simp
  obtain ⟨b, bs, hb⟩ := List.exists_cons_of_length_pos (l := mac.toList) (by omega)
  rw [String.toList_ofList, hb, List.flatMap_cons, List.cons_append, utf8_cons]
  exact List.append_ne_nil_of_left_ne_nil String.utf8EncodeChar_ne_nil _

theorem handleClick_redirect {secretKey : List UInt8} {repo : Option (List MessageDispatch)} {query : Query.Values}
    {url : List UInt8} : (HandleClick hmacSHA256 secretKey repo query).1 = .redirect url ↔
      url ≠ [] ∧ param query "url" = url := by
  unfold HandleClick
  dsimp only
  split
  · rename_i h
    constructor
    · intro hurl
      cases hurl
      exact ⟨h.2.1, rfl⟩
    · rintro ⟨-, rfl⟩
      rfl
  · split
    · rename_i hne
      constructor
      · intro hurl
        cases hurl
        exact ⟨hne, rfl⟩
      · rintro ⟨-, rfl⟩
        rfl
    · rename_i hempty
      rw [not_not] at hempty
      rw [hempty]
      constructor
      · intro hurl
        cases hurl
      · rintro ⟨hne, rfl⟩
        exact absurd rfl hne

end Signatures

end PerGo.L3.EmailTracking
