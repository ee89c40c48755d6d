import PerGo.L4App.TrackedLinks

/-!
# Where the open pixel goes

`InjectOpenPixel` looks for the last `</body>` in a lowered copy and slices the body at the place it found there.

* `inject_eq`: what it returns, in terms of the body: the place is the number of bytes that the lowered text in front
  of the last `</body>` has.
* `pixelInserted_iff`: the pixel stands where it should when the text in front of `</body>` has as many bytes as its
  lowered copy, and otherwise only when the text between the two places cannot be told from the pixel.
-/
namespace PerGo.L4.OpenPixel

open PerGo.L1
open PerGo.L3.Email

section Inserted

variable (hmacSHA256 : List UInt8 → List UInt8 → Vector UInt8 32) (messageID baseURL secret : String)

def closeTag : List Char := "</body>".toList

/-- The text starts with `</body>`, in any letter case. -/
def startsClose (s : List Char) : Bool := closeTag.isPrefixOf (s.map lowerChar)

def pixelLine : List UInt8 := utf8 (pixelTag hmacSHA256 messageID baseURL secret) ++ utf8 ['\n']

/-- The body with a pixel in front of its last `</body>`, or at its end. -/
def withPixel (htmlBody : String) : List UInt8 :=
  match lastSplit startsClose htmlBody.toList with
  | some (a, b) => utf8 a ++ pixelLine hmacSHA256 messageID baseURL secret ++ utf8 b
  | none => utf8 htmlBody.toList ++ utf8 ['\n'] ++ utf8 (pixelTag hmacSHA256 messageID baseURL secret)

def PixelInserted (lowering : Lowering) (htmlBody : String) : Prop :=
  InjectOpenPixel hmacSHA256 messageID baseURL secret lowering htmlBody =
    some (withPixel hmacSHA256 messageID baseURL secret htmlBody)

/-- What stands between two places. -/
def between (body : List UInt8) (i j : Nat) : List UInt8 := (body.drop (min i j)).take (max i j - min i j)

/-- There is a body. In front of its last `</body>` stand as many bytes as in the lowered copy, or what stands between
the two places could as well stand on the other side of the pixel. -/
def PlaceKept (lowering : Lowering) (htmlBody : String) : Prop :=
  htmlBody ≠ "" ∧ ∀ a b, lastSplit startsClose htmlBody.toList = some (a, b) →
    (utf8 (a.map lowering.lower)).length ≤ (utf8 htmlBody.toList).length ∧
      between (utf8 htmlBody.toList) (utf8 a).length (utf8 (a.map lowering.lower)).length ++
          pixelLine hmacSHA256 messageID baseURL secret =
        pixelLine hmacSHA256 messageID baseURL secret ++
          between (utf8 htmlBody.toList) (utf8 a).length (utf8 (a.map lowering.lower)).length

end Inserted

/-! ## The lowered copy -/

theorem lastSplit_map {f : Char → Char} {p q : List Char → Bool} (h : ∀ t, p (t.map f) = q t) (s : List Char) :
    lastSplit p (s.map f) = (lastSplit q s).map fun ab => (ab.1.map f, ab.2.map f) := by
  induction s with
  | nil => rfl
  | cons c s ih =>
    have hhead : p (f c :: s.map f) = q (c :: s) := h (c :: s)
    rw [List.map_cons, lastSplit, lastSplit, ih, hhead]
    cases lastSplit q s with
    | some ab => rfl
    | none =>
      simp only [Option.map_none]
      split <;> rfl

theorem closeTag_ascii : ∀ c ∈ closeTag, c.toNat < 128 := forall_mem_of_all (by decide +kernel)

theorem prefix_lowered (lowering : Lowering) {word : List Char} (hword : ∀ c ∈ word, c.toNat < 128) (t : List Char) :
    word.isPrefixOf (t.map lowering.lower) = word.isPrefixOf (t.map lowerChar) := by
  have hletter : ∀ c x : Char, x.toNat < 128 → (lowering.lower c = x ↔ lowerChar c = x) := by
    intro c x hx
    constructor
    · intro h
      rw [← lowering.ascii c (.inl (by rw [h]; exact hx)), h]
    · intro h
      rw [lowering.ascii c (.inr (by rw [h]; exact hx)), h]
  induction word generalizing t with
  | nil => rfl
  | cons x word ih =>
    cases t with
    | nil => rfl
    | cons c t =>
      have hx := hletter c x (hword x List.mem_cons_self)
      have hrest := ih (fun y hy => hword y (List.mem_cons_of_mem x hy)) t
      rw [List.map_cons, List.map_cons, List.isPrefixOf_cons_cons, List.isPrefixOf_cons_cons, hrest]
      congr 1
      rw [Bool.eq_iff_iff, beq_iff_eq, beq_iff_eq, eq_comm, hx, eq_comm]

theorem lastIndex_lowered (lowering : Lowering) (s : List Char) :
    lastIndex (utf8 closeTag) (utf8 (s.map lowering.lower)) =
      (lastSplit startsClose s).map fun ab => (utf8 (ab.1.map lowering.lower)).length := by
  have hsame : ∀ t : List Char, closeTag.isPrefixOf (t.map lowering.lower) = startsClose t :=
    fun t => prefix_lowered lowering closeTag_ascii t
  rw [lastIndex_utf8 closeTag_ascii (by decide +kernel), lastSplit_map hsame]
  cases lastSplit startsClose s <;> rfl

/-! ## Two places -/

/-- The same text is put in at two places: the results are one when it can change places with what stands between. -/
theorem insert_eq_iff {body line : List UInt8} {i j : Nat} (hi : i ≤ body.length) (hj : j ≤ body.length) :
    body.take j ++ line ++ body.drop j = body.take i ++ line ++ body.drop i ↔
      between body i j ++ line = line ++ between body i j := by
  have hle : ∀ {i j : Nat}, i ≤ j → j ≤ body.length → (body.take j ++ line ++ body.drop j = body.take i ++ line ++ body.drop i ↔
      (body.drop i).take (j - i) ++ line = line ++ (body.drop i).take (j - i)) := by
    intro i j hij hj
    have htake : body.take j = body.take i ++ (body.drop i).take (j - i) := by
      rw [← List.take_add]
      congr 1
      omega
    have hdrop : body.drop i = (body.drop i).take (j - i) ++ body.drop j := by
      have hsplit := List.take_append_drop (j - i) (body.drop i)
      rw [List.drop_drop] at hsplit
      have hsum : i + (j - i) = j := by omega
      rw [hsum] at hsplit
      exact hsplit.symm
    rw [htake]
    conv_lhs => rhs; rw [hdrop]
    generalize (body.drop i).take (j - i) = w
    constructor
    · intro h
      simp only [List.append_assoc, List.append_cancel_left_eq] at h
      rw [← List.append_assoc, ← List.append_assoc] at h
      exact List.append_cancel_right h
    · intro h
      simp only [List.append_assoc, List.append_cancel_left_eq]
      rw [← List.append_assoc, h, List.append_assoc]
  unfold between
  rcases Nat.le_total i j with hij | hji
  · rw [Nat.min_eq_left hij, Nat.max_eq_right hij]
    exact hle hij hj
  · rw [Nat.min_eq_right hji, Nat.max_eq_left hji, eq_comm]
    exact hle hji hi

/-! ## When the pixel is inserted -/

section Result

variable {hmacSHA256 : List UInt8 → List UInt8 → Vector UInt8 32} {messageID baseURL secret : String}

theorem pixelLine_ne : utf8 ['\n'] ++ utf8 (pixelTag hmacSHA256 messageID baseURL secret) ≠ [] := by
  rw [utf8_cons, List.append_assoc]
  exact List.append_ne_nil_of_left_ne_nil String.utf8EncodeChar_ne_nil _

theorem inject_iff {lowering : Lowering} {htmlBody : String} (hne : htmlBody ≠ "") :
    PixelInserted hmacSHA256 messageID baseURL secret lowering htmlBody ↔
      ∀ a b, lastSplit startsClose htmlBody.toList = some (a, b) →
        (utf8 (a.map lowering.lower)).length ≤ (utf8 htmlBody.toList).length ∧
          between (utf8 htmlBody.toList) (utf8 a).length (utf8 (a.map lowering.lower)).length ++
              pixelLine hmacSHA256 messageID baseURL secret =
            pixelLine hmacSHA256 messageID baseURL secret ++
              between (utf8 htmlBody.toList) (utf8 a).length (utf8 (a.map lowering.lower)).length := by
  unfold PixelInserted InjectOpenPixel withPixel
  rw [if_neg hne]
  dsimp only
  rw [show "</body>".toList = closeTag from rfl, lastIndex_lowered]
  cases hsplit : lastSplit startsClose htmlBody.toList with
  | none => simp
  | some ab =>
    obtain ⟨a, b⟩ := ab
    have hbody : utf8 htmlBody.toList = utf8 a ++ utf8 b := by
      rw [(lastSplit_some hsplit).1]
      exact List.flatMap_append
    have hplace : (utf8 a).length ≤ (utf8 htmlBody.toList).length := by
      rw [hbody, List.length_append]
      omega
    have hright : utf8 a ++ pixelLine hmacSHA256 messageID baseURL secret ++ utf8 b =
        (utf8 htmlBody.toList).take (utf8 a).length ++ pixelLine hmacSHA256 messageID baseURL secret ++
          (utf8 htmlBody.toList).drop (utf8 a).length := by
      rw [hbody, List.take_left, List.drop_left]
    simp only [Option.map_some, Option.some.injEq, Prod.mk.injEq]
    rw [hright]
    constructor
    · rintro h a' b' ⟨rfl, rfl⟩
      split at h
      · rename_i hidx
        have h := Option.some.inj h
        rw [List.append_assoc ((utf8 htmlBody.toList).take _)] at h
        exact ⟨hidx, (insert_eq_iff hplace hidx).mp h⟩
      · cases h
    · intro h
      obtain ⟨hidx, hcommute⟩ := h a b ⟨rfl, rfl⟩
      rw [if_pos hidx, List.append_assoc ((utf8 htmlBody.toList).take _)]
      exact congrArg some ((insert_eq_iff hplace hidx).mpr hcommute)

theorem pixelInserted_iff (lowering : Lowering) (htmlBody : String) :
    PixelInserted hmacSHA256 messageID baseURL secret lowering htmlBody ↔
      PlaceKept hmacSHA256 messageID baseURL secret lowering htmlBody := by
  by_cases hempty : htmlBody = ""
  · constructor
    · intro h
      exfalso
      rw [hempty] at h
      have hnothing := Option.some.inj h
      exact pixelLine_ne hnothing.symm
    · exact fun h => absurd hempty h.1
  · rw [inject_iff hempty, PlaceKept, and_iff_right hempty]

end Result

end PerGo.L4.OpenPixel

/-!
## What tracking does to an e-mail

The three parts of e-mail tracking side by side: the links that `RewriteClickLinks` changes and where a click on them
leads, the place of the pixel, and the addresses that `HandleClick` redirects to. `email_tracking` says for each when it
does what it should; a link with a character reference, a letter that shrinks when it is lowered, and a request without
a signature show that none of the conditions is always met.
-/
namespace PerGo.L4.EmailTracking

open PerGo.L1 PerGo.L1.Pattern
open PerGo.L3.Email PerGo.L3.EmailTracking
open PerGo.L3 (MessageDispatch)
open PerGo.L4.TrackedLinks PerGo.L4.OpenPixel

variable (hmacSHA256 : List UInt8 → List UInt8 → Vector UInt8 32)

/-- The signature of the request is that of the address, for the message of the request. -/
def Signed (secretKey : List UInt8) (query : Query.Values) (url : List UInt8) : Prop :=
  param query "sig" = utf8 (generateTrackingHMAC hmacSHA256 (param query "m") url secretKey).toList

def OnlySigned (secretKey : List UInt8) (dispatchRepo : Option (List MessageDispatch)) (query : Query.Values) : Prop :=
  ∀ url, (HandleClick hmacSHA256 secretKey dispatchRepo query).1 = .redirect url → Signed hmacSHA256 secretKey query url

theorem onlySigned_iff (secretKey : List UInt8) (dispatchRepo : Option (List MessageDispatch)) (query : Query.Values) :
    OnlySigned hmacSHA256 secretKey dispatchRepo query ↔
      param query "url" = [] ∨ Signed hmacSHA256 secretKey query (param query "url") := by
  unfold OnlySigned
  constructor
  · intro h
    by_cases hempty : param query "url" = []
    · exact .inl hempty
    · exact .inr (h _ (handleClick_redirect.mpr ⟨hempty, rfl⟩))
  · rintro h url hurl
    obtain ⟨hne, rfl⟩ := handleClick_redirect.mp hurl
    exact h.resolve_left hne

/-- `RewriteClickLinks` keeps what stands between the matches. -/
theorem rewriteClickLinks_eq (messageID baseURL secret htmlBody : String) :
    (pieces hrefRegex htmlBody.toList).flatMap (Piece.write Link.text) = htmlBody.toList ∧
      (RewriteClickLinks hmacSHA256 messageID baseURL secret htmlBody).toList =
        (pieces hrefRegex htmlBody.toList).flatMap
          (Piece.write fun link => rewriteMatch hmacSHA256 messageID baseURL secret link.text) := by
  refine ⟨source_pieces hrefRegex_reads hrefRegex_ne_nil htmlBody.toList, ?_⟩
  unfold RewriteClickLinks
  split
  · rename_i hempty
    rw [hempty]
    rfl
  · rw [String.toList_ofList]
    rfl

/-- What is kept of an e-mail. Between the matches all of it is; in the matches nothing but the address changes, and a
click leads to it, when the base URL and the ID can be used and each address is kept; the pixel is inserted in its
place when the place is kept; and a redirect is signed when the request is. -/
theorem email_tracking (refs : CharacterReferences) (lowering : Lowering) (messageID baseURL secret htmlBody : String) :
    ((pieces hrefRegex htmlBody.toList).flatMap (Piece.write Link.text) = htmlBody.toList ∧
      (RewriteClickLinks hmacSHA256 messageID baseURL secret htmlBody).toList =
        (pieces hrefRegex htmlBody.toList).flatMap
          (Piece.write fun link => rewriteMatch hmacSHA256 messageID baseURL secret link.text)) ∧
    (LinksPreserved refs hmacSHA256 messageID baseURL secret htmlBody ↔
      ∀ link ∈ links htmlBody, UsableBase refs baseURL ∧ messageID ≠ "" ∧ Kept refs link) ∧
    (PixelInserted hmacSHA256 messageID baseURL secret lowering htmlBody ↔
      PlaceKept hmacSHA256 messageID baseURL secret lowering htmlBody) ∧
    ∀ secretKey dispatchRepo query, OnlySigned hmacSHA256 secretKey dispatchRepo query ↔
      param query "url" = [] ∨ Signed hmacSHA256 secretKey query (param query "url") :=
  ⟨rewriteClickLinks_eq hmacSHA256 messageID baseURL secret htmlBody, linksPreserved_iff htmlBody,
    pixelInserted_iff lowering htmlBody, onlySigned_iff hmacSHA256⟩

/-! ## Bodies and requests that fail -/

/-- Some of the references of HTML. -/
def someNames : List (List Char × List Char) :=
  [("amp;".toList, ['&']), ("amp".toList, ['&']), ("lt;".toList, ['<']), ("quot;".toList, ['"'])]

theorem someNames_words (e : List Char × List Char) (he : e ∈ someNames) :
    ∃ word : List Char, (∀ c ∈ word, c.isAlphanum = true) ∧ word ≠ [] ∧ (e.1 = word ∨ e.1 = word ++ [';']) := by
  unfold someNames at he
  simp only [List.mem_cons, List.not_mem_nil, or_false] at he
  rcases he with rfl | rfl | rfl | rfl
  · exact ⟨"amp".toList, forall_mem_of_all (by decide +kernel), by decide +kernel, .inr (by decide +kernel)⟩
  · exact ⟨"amp".toList, forall_mem_of_all (by decide +kernel), by decide +kernel, .inl rfl⟩
  · exact ⟨"lt".toList, forall_mem_of_all (by decide +kernel), by decide +kernel, .inr (by decide +kernel)⟩
  · exact ⟨"quot".toList, forall_mem_of_all (by decide +kernel), by decide +kernel, .inr (by decide +kernel)⟩

def someReferences : CharacterReferences where
  named := someNames
  words := someNames_words
  numbered := Char.ofNat

def asciiLowering : Lowering := ⟨lowerChar, fun _ _ => rfl⟩

def zeroMac (_ _ : List UInt8) : Vector UInt8 32 := Vector.replicate 32 0

def shopLink : Link := ⟨"<a href=\"".toList, "https://loja.pt/?a=1&amp;b=2".toList, ['"']⟩

/-- A click does not lead to the shop's address, the pixel is put one byte too early, and a request without a signature
is redirected. -/
theorem tracking_fails :
    ¬ LinksPreserved someReferences zeroMac "m1" "https://pergo.dev" "k" "<a href=\"https://loja.pt/?a=1&amp;b=2\">Loja</a>" ∧
    ¬ PixelInserted zeroMac "m1" "https://pergo.dev" "k" asciiLowering "<body>İzmir</body>" ∧
    ¬ OnlySigned zeroMac (utf8 ['k']) none [(utf8 "url".toList, utf8 "https://outro.pt".toList)] := by
  refine ⟨?_, ?_, ?_⟩
  · rw [linksPreserved_iff]
    intro h
    have hmem : shopLink ∈ links "<a href=\"https://loja.pt/?a=1&amp;b=2\">Loja</a>" := by decide +kernel
    exact absurd (h shopLink hmem).2.2.plain (by decide +kernel)
  · rw [pixelInserted_iff]
    rintro ⟨-, h⟩
    have hsplit : lastSplit startsClose "<body>İzmir</body>".toList = some ("<body>İzmir".toList, "</body>".toList) := by
      decide +kernel
    exact absurd (h _ _ hsplit).2 (by decide +kernel)
  · rw [onlySigned_iff]
    unfold Signed
    decide +kernel

end PerGo.L4.EmailTracking
