import PerGo.L3Channel.Email

/-!
# What a message is written from can be read back

The payload of `BuildMIMEPayload` is read as a MIME message: its fields, and the parts between the lines with the
declared boundary. `GivesBack` says that exactly the intended fields come back, each with exactly its value, and
exactly the text and the HTML part, each with `ending` behind it.

* `payload_eq`: the payload is the intended fields, a blank line, and the body or the parts, each with a line break
  behind it.
* `givesBack_iff`: the ending is that line break, no value has a line break, the boundary can stand in quotes, and
  no line of a body begins with the boundary.
* `mime_round_trip`: this for every message that `Dispatch` writes.
-/
namespace PerGo.L4.MimeParts

open PerGo.L1
open PerGo.L1.Mime
open PerGo.L2 PerGo.L3.Email

section Mail

variable (mail : Mail)

def intended : List Field :=
  (bytes "From", mailbox mail.from_ mail.fromName) ::
  (mail.msg.to_.take 1).map (fun to_ => (bytes "To", bytes to_)) ++
  (if mail.msg.replyTo ≠ "" then [(bytes "Reply-To", bytes mail.msg.replyTo)] else []) ++
  [(bytes "Subject", bytes mail.msg.subject),
    (bytes "Message-ID", bytes "<" ++ bytes mail.msgID ++ bytes "@pergo.dev>"),
    (bytes "MIME-Version", bytes "1.0"),
    (contentType, if mail.msg.htmlBody ≠ "" then alternative mail.msgID else textPlain)]

def textPart (ending : List UInt8) : Part := ⟨[(contentType, textPlain)], bytes mail.msg.textBody ++ ending⟩

def htmlPart (ending : List UInt8) : Part := ⟨[(contentType, textHTML)], bytes mail.msg.htmlBody ++ ending⟩

def given (ending : List UInt8) : List Part :=
  if mail.msg.htmlBody ≠ "" then [textPart mail ending, htmlPart mail ending] else [textPart mail ending]

def GivesBack (ending : List UInt8) : Prop :=
  ∃ parsed, message mail.payload = some parsed ∧ parsed.fields.Perm (intended mail) ∧ parsed.parts = given mail ending

/-! ## The condition -/

def OneLine (s : String) : Prop := lf ∉ bytes s

def OneLineValues : Prop :=
  OneLine mail.from_ ∧ OneLine mail.fromName ∧ (∀ to_ ∈ mail.msg.to_.take 1, OneLine to_) ∧ OneLine mail.msg.replyTo ∧
    OneLine mail.msg.subject ∧ OneLine mail.msgID

def QuotableBoundary : Prop := 34 ∉ (bytes mail.msgID).take 8 ∧ 92 ∉ (bytes mail.msgID).take 8

def NoDelimiter (text : String) : Prop :=
  ∀ l ∈ lines (bytes text ++ [cr]), ¬ bytes "--" ++ boundary mail.msgID <+: l

def Unambiguous : Prop :=
  OneLineValues mail ∧
    (mail.msg.htmlBody ≠ "" →
      QuotableBoundary mail ∧ NoDelimiter mail mail.msg.textBody ∧ NoDelimiter mail mail.msg.htmlBody)

end Mail

/-! ## The fixed texts -/

theorem fixed_oneLine : ∀ s ∈ ["", " <", ">", "<", "@pergo.dev>", "1.0", "--", "---=_PerGo_Boundary_", "\"",
    "multipart/alternative; boundary=\"", "text/plain; charset=UTF-8", "text/html; charset=UTF-8"], OneLine s := by
  unfold OneLine
  decide

theorem fixed_bytes :
    bytes "\"" = [34] ∧ 34 ∉ bytes "---=_PerGo_Boundary_" ∧ 92 ∉ bytes "---=_PerGo_Boundary_" ∧
      (dashes ++ bytes "---=_PerGo_Boundary_").length = 22 ∧ contentType.head? = some 67 ∧
      multipart.isPrefixOf textPlain = false := by
  decide

/-! ## What is written -/

section Written

variable {mail : Mail}

theorem payload_eq (hheaders : mail.msg.headers = []) : mail.payload =
    writeFields (intended mail) ++ ([cr] ++ lf ::
      if mail.msg.htmlBody ≠ "" then writeParts (dashes ++ boundary mail.msgID) (given mail crlf)
      else bytes mail.msg.textBody ++ crlf) := by
  unfold Mail.payload BuildMIMEPayload writeHeaders intended given
  rw [hheaders]
  by_cases hhtml : mail.msg.htmlBody = ""
  · by_cases hreply : mail.msg.replyTo = "" <;> cases mail.msg.to_ <;>
      simp [hhtml, hreply, writeFields, contentType, crlf]
  · by_cases hreply : mail.msg.replyTo = "" <;> cases mail.msg.to_ <;>
      simp [hhtml, hreply, writeFields, writeParts, writePart, textPart, htmlPart, contentType, crlf, dashes]

def fieldNames : List (List UInt8) :=
  [bytes "From", bytes "To", bytes "Reply-To", bytes "Subject", bytes "Message-ID", bytes "MIME-Version", contentType]

theorem intended_names : ∀ f ∈ intended mail, f.1 ∈ fieldNames := by
  unfold intended fieldNames
  intro f hf
  simp only [List.mem_append, List.mem_cons, List.mem_map, List.not_mem_nil, or_false] at hf
  rcases hf with ((rfl | ⟨to_, -, rfl⟩) | hf) | rfl | rfl | rfl | rfl
  · simp
  · simp
  · split at hf
    · rw [List.mem_singleton] at hf
      simp [hf]
    · cases hf
  · simp
  · simp
  · simp
  · simp

theorem fieldNames_spec :
    (∀ name ∈ fieldNames, IsName name) ∧ ∀ name ∈ fieldNames.dropLast, (contentType == name) = false := by
  unfold IsName
  decide

theorem lookup_contentType : (intended mail).lookup contentType =
    some (if mail.msg.htmlBody ≠ "" then alternative mail.msgID else textPlain) := by
  have hnames := fieldNames_spec.2
  simp only [fieldNames, List.dropLast, List.forall_mem_cons] at hnames
  obtain ⟨hfrom, hto, hreply, hsubject, hid, hversion, -⟩ := hnames
  unfold intended
  by_cases hr : mail.msg.replyTo = "" <;> cases mail.msg.to_ <;>
    simp [hr, List.lookup_cons, hfrom, hto, hreply, hsubject, hid, hversion]

theorem boundary_oneLine (h : OneLine mail.msgID) : lf ∉ boundary mail.msgID := by
  unfold boundary
  rw [List.mem_append, not_or]
  exact ⟨fixed_oneLine _ (by simp), fun hmem => h (List.mem_of_mem_take hmem)⟩

theorem bytes_append_not_mem {s : String} (hs : lf ∉ bytes s) {v : List UInt8} : lf ∈ bytes s ++ v ↔ lf ∈ v := by
  rw [List.mem_append, or_iff_right hs]

theorem intended_oneLine : (∀ f ∈ intended mail, lf ∉ f.2) ↔ OneLineValues mail := by
  have hmailbox : lf ∉ mailbox mail.from_ mail.fromName ↔ OneLine mail.from_ ∧ OneLine mail.fromName := by
    unfold mailbox OneLine
    split
    · rw [List.append_assoc, List.append_assoc, List.mem_append, bytes_append_not_mem (fixed_oneLine _ (by simp)),
        List.mem_append, or_iff_left (fixed_oneLine ">" (by simp)), not_or, and_comm]
    · rename_i hname
      rw [not_not] at hname
      rw [hname]
      exact (and_iff_left (fixed_oneLine "" (by simp))).symm
  have hreply : (∀ f ∈ (if mail.msg.replyTo ≠ "" then [(bytes "Reply-To", bytes mail.msg.replyTo)] else []), lf ∉ f.2) ↔
      OneLine mail.msg.replyTo := by
    unfold OneLine
    split
    · simp
    · rename_i hempty
      rw [not_not] at hempty
      rw [hempty]
      exact iff_of_true (by simp) (fixed_oneLine "" (by simp))
  have hid : lf ∉ bytes "<" ++ bytes mail.msgID ++ bytes "@pergo.dev>" ↔ OneLine mail.msgID := by
    rw [List.append_assoc, bytes_append_not_mem (fixed_oneLine _ (by simp)), List.mem_append,
      or_iff_left (fixed_oneLine "@pergo.dev>" (by simp)), OneLine]
  have hversion : lf ∉ bytes "1.0" := fixed_oneLine "1.0" (by simp)
  have hvalue : OneLine mail.msgID → lf ∉ if mail.msg.htmlBody ≠ "" then alternative mail.msgID else textPlain := by
    intro hid
    split
    · unfold alternative
      rw [List.append_assoc, bytes_append_not_mem (fixed_oneLine _ (by simp)), List.mem_append,
        or_iff_left (fixed_oneLine "\"" (by simp))]
      exact boundary_oneLine hid
    · exact fixed_oneLine _ (by simp)
  unfold intended OneLineValues
  simp only [List.forall_mem_append, List.forall_mem_cons, List.forall_mem_map, hmailbox, hreply, hid, hversion]
  constructor
  · rintro ⟨⟨⟨⟨hfrom, hname⟩, hto⟩, hreply⟩, hsubject, hid, -⟩
    exact ⟨hfrom, hname, hto, hreply, hsubject, hid⟩
  · rintro ⟨hfrom, hname, hto, hreply, hsubject, hid⟩
    refine ⟨⟨⟨⟨hfrom, hname⟩, hto⟩, hreply⟩, hsubject, hid, not_false, hvalue hid, ?_⟩
    simp

theorem header_payload (hheaders : mail.msg.headers = []) (hvalues : OneLineValues mail) :
    header (lines mail.payload) = some (intended mail, lines
      (if mail.msg.htmlBody ≠ "" then writeParts (dashes ++ boundary mail.msgID) (given mail crlf)
        else bytes mail.msg.textBody ++ crlf)) := by
  have hnames : ∀ f ∈ intended mail, IsName f.1 := fun f hf => fieldNames_spec.1 f.1 (intended_names f hf)
  rw [payload_eq hheaders, lines_writeFields fun f hf => ⟨hnames f hf, intended_oneLine.mpr hvalues f hf⟩, lines_append,
    lines_of_not_mem (by decide : lf ∉ [cr]), List.singleton_append, header_write hnames]

theorem message_text (hheaders : mail.msg.headers = []) (hvalues : OneLineValues mail) (hhtml : mail.msg.htmlBody = "") :
    message mail.payload = some ⟨intended mail, given mail crlf⟩ := by
  have hplain : ¬ multipart.isPrefixOf textPlain = true := Bool.eq_false_iff.mp fixed_bytes.2.2.2.2.2
  unfold message
  rw [header_payload hheaders hvalues, Option.bind_eq_bind, Option.bind_some]
  simp only [lookup_contentType, hhtml, ne_eq, not_true_eq_false, if_false, hplain, join_lines, given, textPart]
  rfl

theorem message_html (hheaders : mail.msg.headers = []) (hvalues : OneLineValues mail) (hhtml : mail.msg.htmlBody ≠ "") :
    message mail.payload = (quoted (boundary mail.msgID ++ [34])).bind fun b =>
      (readParts (dashes ++ b) (lines (writeParts (dashes ++ boundary mail.msgID) (given mail crlf)))).bind fun ps =>
        some ⟨intended mail, ps⟩ := by
  have hshape : alternative mail.msgID = multipart ++ (boundary mail.msgID ++ [34]) := by
    have hquote : bytes "\"" = [34] := fixed_bytes.1
    unfold alternative multipart
    rw [hquote, List.append_assoc]
  have hprefix : multipart.isPrefixOf (alternative mail.msgID) = true := by
    rw [hshape, List.isPrefixOf_iff_prefix]
    exact List.prefix_append _ _
  have hdrop : (alternative mail.msgID).drop multipart.length = boundary mail.msgID ++ [34] := by
    rw [hshape, List.drop_left]
  unfold message
  rw [header_payload hheaders hvalues, Option.bind_eq_bind, Option.bind_some]
  simp only [lookup_contentType, hhtml, ne_eq, not_false_eq_true, if_true, hprefix, hdrop]
  rfl

theorem quoted_boundary {b : List UInt8} :
    quoted (boundary mail.msgID ++ [34]) = some b ↔ QuotableBoundary mail ∧ b = boundary mail.msgID := by
  obtain ⟨-, hquote, hbackslash, -⟩ := fixed_bytes
  have hboundary : (34 ∈ boundary mail.msgID ∨ 92 ∈ boundary mail.msgID) ↔ ¬ QuotableBoundary mail := by
    unfold QuotableBoundary boundary
    rw [List.mem_append, List.mem_append, or_iff_right hquote, or_iff_right hbackslash]
    tauto
  rw [quoted_concat]
  by_cases hquotable : QuotableBoundary mail
  · rw [if_neg (by rwa [hboundary, not_not]), Option.some.injEq]
    exact ⟨fun h => ⟨hquotable, h.symm⟩, fun h => h.2.symm⟩
  · rw [if_pos (hboundary.mpr hquotable)]
    exact ⟨fun h => (nomatch h), fun h => absurd h.1 hquotable⟩

/-! ## What is read -/

theorem delimiter_oneLine (hvalues : OneLineValues mail) : lf ∉ dashes ++ boundary mail.msgID := by
  rw [List.mem_append, not_or]
  exact ⟨fixed_oneLine "--" (by simp), boundary_oneLine hvalues.2.2.2.2.2⟩

theorem writable_part {contentTypeValue : List UInt8} (hvalue : lf ∉ contentTypeValue) (body : List UInt8) :
    Writable (dashes ++ boundary mail.msgID) ⟨[(contentType, contentTypeValue)], body⟩ where
  fields := by
    intro f hf
    rw [List.mem_singleton] at hf
    rw [hf]
    exact ⟨fieldNames_spec.1 contentType (by simp [fieldNames]), hvalue⟩
  head := by
    have hdash : ∀ l : Line, l.head? ≠ some 45 → ¬ dashes ++ boundary mail.msgID <+: l := by
      rintro l hl ⟨rest, rfl⟩
      exact hl rfl
    intro l hl
    simp only [headLines, List.map_cons, List.map_nil, List.singleton_append, List.mem_cons, List.not_mem_nil, or_false] at hl
    rcases hl with rfl | rfl
    · refine hdash _ ?_
      have hhead : contentType.head? = some 67 := fixed_bytes.2.2.2.2.1
      simp [fieldLine, hhead]
    · exact hdash _ (by decide)

theorem writable_given : ∀ p ∈ given mail crlf, Writable (dashes ++ boundary mail.msgID) p := by
  have hplain : lf ∉ textPlain := fixed_oneLine _ (by simp)
  have hhtml : lf ∉ textHTML := fixed_oneLine _ (by simp)
  unfold given textPart htmlPart
  split
  · simp [writable_part hplain, writable_part hhtml]
  · simp [writable_part hplain]

theorem free_iff (fields : List Field) (text : String) :
    Free (dashes ++ boundary mail.msgID) ⟨fields, bytes text ++ crlf⟩ ↔ NoDelimiter mail text := by
  have hlines : bodyLines ⟨fields, bytes text ++ crlf⟩ = lines (bytes text ++ [cr]) ++ [[cr]] := by
    have hshape : bytes text ++ crlf ++ [cr] = (bytes text ++ [cr]) ++ lf :: [cr] := by simp [crlf]
    unfold bodyLines
    rw [hshape, lines_append, lines_of_not_mem (by decide : lf ∉ [cr])]
  have hblank : ¬ dashes ++ boundary mail.msgID <+: [cr] := by
    rintro ⟨rest, hrest⟩
    have hhead : some (45 : UInt8) = some cr := congrArg List.head? hrest
    exact absurd hhead (by decide)
  unfold Free NoDelimiter
  rw [hlines, List.forall_mem_append, List.forall_mem_singleton, and_iff_left hblank]
  rfl

theorem unambiguous_of_givesBack (hheaders : mail.msg.headers = []) {ending : List UInt8} (h : GivesBack mail ending) :
    ending = crlf ∧ Unambiguous mail := by
  obtain ⟨parsed, hmessage, hfields, hparts⟩ := h
  have hvalues : OneLineValues mail := by
    obtain ⟨body, hheader⟩ := header_of_message hmessage
    refine intended_oneLine.mp fun f hf => ?_
    exact fields_oneLine not_mem_lines hheader f (hfields.mem_iff.mpr hf)
  by_cases hhtml : mail.msg.htmlBody = ""
  · rw [message_text hheaders hvalues hhtml] at hmessage
    cases hmessage
    simp only [given, textPart, hhtml, ne_eq, not_true_eq_false, if_false, List.cons.injEq, Mime.Part.mk.injEq,
      List.append_cancel_left_eq, true_and, and_true] at hparts
    exact ⟨hparts.symm, hvalues, fun hne => absurd hhtml hne⟩
  · rw [message_html hheaders hvalues hhtml] at hmessage
    obtain ⟨b, hb, hmessage⟩ := Option.bind_eq_some_iff.mp hmessage
    obtain ⟨hquotable, rfl⟩ := quoted_boundary.mp hb
    obtain ⟨ps, hps, hparsed⟩ := Option.bind_eq_some_iff.mp hmessage
    cases hparsed
    have hdelimiter := delimiter_oneLine hvalues
    have hgiven : ∀ e, given mail e = [textPart mail e, htmlPart mail e] := fun e => if_pos hhtml
    have hfree : ∀ p ∈ given mail crlf, Free (dashes ++ boundary mail.msgID) p := by
      by_contra hnot
      push Not at hnot
      obtain ⟨pq, hpq, hshort⟩ := readParts_short hdelimiter writable_given hnot hps
      -- the delimiter is longer than what the builder puts behind a body
      have hlong : 22 ≤ (dashes ++ boundary mail.msgID).length := by
        have hprefix : (dashes ++ bytes "---=_PerGo_Boundary_").length = 22 := fixed_bytes.2.2.2.1
        unfold boundary
        rw [← List.append_assoc, List.length_append, hprefix]
        omega
      have hcrlf : crlf.length = 2 := rfl
      dsimp only at hparts
      rw [hparts, hgiven, hgiven] at hpq
      simp only [List.zip_cons_cons, List.zip_nil_right, List.mem_cons, List.not_mem_nil, or_false] at hpq
      rcases hpq with rfl | rfl
      · simp only [textPart, List.length_append] at hshort hlong
        omega
      · simp only [htmlPart, List.length_append] at hshort hlong
        omega
    have hread := readParts_write hdelimiter writable_given hfree
    have hsame : given mail crlf = given mail ending := Option.some.inj (hread.symm.trans (hps.trans (congrArg some hparts)))
    rw [hgiven, List.forall_mem_cons, List.forall_mem_singleton, textPart, htmlPart, free_iff, free_iff] at hfree
    rw [hgiven, hgiven] at hsame
    have htext := congrArg Part.body (List.cons.inj hsame).1
    exact ⟨(List.append_cancel_left htext).symm, hvalues, fun _ => ⟨hquotable, hfree.1, hfree.2⟩⟩

theorem givesBack_crlf (hheaders : mail.msg.headers = []) (h : Unambiguous mail) : GivesBack mail crlf := by
  obtain ⟨hvalues, hparts⟩ := h
  refine ⟨⟨intended mail, given mail crlf⟩, ?_, List.Perm.refl _, rfl⟩
  by_cases hhtml : mail.msg.htmlBody = ""
  · exact message_text hheaders hvalues hhtml
  · obtain ⟨hquotable, htext, hbody⟩ := hparts hhtml
    have hgiven : given mail crlf = [textPart mail crlf, htmlPart mail crlf] := if_pos hhtml
    have hfree : ∀ p ∈ given mail crlf, Free (dashes ++ boundary mail.msgID) p := by
      rw [hgiven, List.forall_mem_cons, List.forall_mem_singleton, textPart, htmlPart, free_iff, free_iff]
      exact ⟨htext, hbody⟩
    rw [message_html hheaders hvalues hhtml, quoted_boundary.mpr ⟨hquotable, rfl⟩, Option.bind_some,
      readParts_write (delimiter_oneLine hvalues) writable_given hfree]
    rfl

theorem givesBack_iff (hheaders : mail.msg.headers = []) (ending : List UInt8) :
    GivesBack mail ending ↔ ending = crlf ∧ Unambiguous mail := by
  constructor
  · exact unambiguous_of_givesBack hheaders
  · rintro ⟨rfl, h⟩
    exact givesBack_crlf hheaders h

end Written

/-- What `Dispatch` writes is never given back to the byte, as each body has a line break behind it. Apart from that
it is given back exactly when nothing in it is ambiguous. -/
theorem mime_round_trip {cfg : SMTPConfig} {newID : String} {m : MessagePayload} {mail : Mail}
    (h : passed cfg newID m = some mail) :
    ¬ GivesBack mail [] ∧ (GivesBack mail crlf ↔ Unambiguous mail) := by
  have hheaders : mail.msg.headers = [] := by rw [passed_msg h, emailMessage_headers]
  constructor
  · rw [givesBack_iff hheaders]
    rintro ⟨hending, -⟩
    cases hending
  · rw [givesBack_iff hheaders]
    exact and_iff_right rfl

def localhost : SMTPConfig := ⟨"localhost", 1025, "noreply@pergo.dev", "PerGo Platform"⟩

def payloadOf (subject body : String) : MessagePayload :=
  { messageID := "7f1c9a52-5b0e", connectionID := 1, senderIdentity := "", traceID := "", to_ := "ana@example.com",
    channel := "email", body := body, media := none, metadata := [("subject", subject)], templateName := "",
    language := "", components := [], interactive := none, channelOverrides := [], fallbackBehavior := "", type := "",
    product := none }

def mailOf (subject body : String) : Mail :=
  ⟨"noreply@pergo.dev", "PerGo Platform", emailMessage (payloadOf subject body), "7f1c9a52-5b0e"⟩

/-- A text that is HTML too is given back, in both parts. -/
theorem html_given_back : passed localhost "" (payloadOf "Oi" "<p>Ola</p>") = some (mailOf "Oi" "<p>Ola</p>") ∧
    GivesBack (mailOf "Oi" "<p>Ola</p>") crlf := by
  have hpassed : passed localhost "" (payloadOf "Oi" "<p>Ola</p>") = some (mailOf "Oi" "<p>Ola</p>") := by decide +kernel
  refine ⟨hpassed, (mime_round_trip hpassed).2.mpr ?_⟩
  unfold Unambiguous OneLineValues OneLine QuotableBoundary NoDelimiter
  decide +kernel

/-- A line break in the subject starts another field. -/
theorem subject_adds_field :
    passed localhost "" (payloadOf "Oi\r\nBcc: eva@example.com" "Ola") =
      some (mailOf "Oi\r\nBcc: eva@example.com" "Ola") ∧
    (message (mailOf "Oi\r\nBcc: eva@example.com" "Ola").payload).any
      (fun parsed => (bytes "Bcc", bytes "eva@example.com") ∈ parsed.fields) = true ∧
    ∀ ending, ¬ GivesBack (mailOf "Oi\r\nBcc: eva@example.com" "Ola") ending := by
  refine ⟨by decide +kernel, by decide +kernel, fun ending h => ?_⟩
  have hheaders : (mailOf "Oi\r\nBcc: eva@example.com" "Ola").msg.headers = [] := emailMessage_headers _
  have hsubject := (unambiguous_of_givesBack hheaders h).2.1.2.2.2.2.1
  unfold OneLine at hsubject
  exact hsubject (by decide +kernel)

end PerGo.L4.MimeParts
