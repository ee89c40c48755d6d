import Mathlib.Data.List.Infix
import PerGo.L3Campaign.UploadCSV

/-!
# The rows of an uploaded file

Each data row of a file that is accepted becomes a recipient or is skipped, whatever the file. The rest is up to
its headers: a header can have a keyword inside another word ("total" has "to"), two columns can have one
name, or a header be the number of a column, and the first line can have two candidates for the delimiter.

* `classified_iff`: all that is expected of an upload holds exactly when the headers do none of these.
* `sameForAll_iff`: the answer is one for all orders of the map exactly when, with several leading candidates,
  the file has one column to each of them.
-/
namespace PerGo.L4.UploadedRows

open PerGo.Core PerGo.L1 PerGo.L2 PerGo.L3.Campaign

section Properties

variable (casing : Casing) (pick : Nat) (text : List Char)

def firstLine : List Char := text.takeWhile (· ≠ '\n')

def recordsOf (delimiter : Char) : Except Csv.Error (List (List String)) := Csv.readAll (uploadReader delimiter) text

def dataRows (rows : List (List String)) : List (List String × Nat) :=
  (csvLines rows).filter fun line => !blankRow line.1

structure IsRecipient (rawHeaders : List String) (line : List String × Nat) (r : CampaignRecipient) : Prop where
  to_ : r.to_ = (phoneOf casing rawHeaders line.1).1
  variables_ : ∀ (c : Nat) (header : String), (csvHeaders casing rawHeaders)[c]? = some header → r.variables_.lookup header = line.1[c]?

/-- What is expected of the answer to a file with these records. -/
structure Classified (rawHeaders : List String) (rows : List (List String)) (p : Preview) : Prop where
  total : p.total = p.valid + p.duplicate + p.invalid
  /-- the skipped rows are data rows, each once -/
  skipped : (p.skipped.map fun s => (s.lineNumber, s.rawInput)).Sublist
    ((dataRows rows).map (lineInput (sniffDelimiter pick (firstLine text))))
  /-- and the others are the recipients, in the order of the file -/
  recipients : List.Forall₂ (IsRecipient casing rawHeaders)
    ((dataRows rows).filter fun line => line.2 ∉ p.skipped.map (·.lineNumber)) p.recipients
  distinct : (p.recipients.map (·.to_)).Nodup
  digits : ∀ r ∈ p.recipients, (∀ c ∈ r.to_.toList, isDigit c) ∧ 10 ≤ r.to_.toList.length ∧ r.to_.toList.length ≤ 15
  phone : (∃ h ∈ csvHeaders casing rawHeaders, h ∈ phoneKeywords) →
    ∃ h ∈ phoneKeywords, (csvHeaders casing rawHeaders)[phoneColumn (csvHeaders casing rawHeaders)]? = some h
  sameForAll : ∀ pick', uploadCSV casing pick' text = .ok p

def KeywordFirst (headers : List String) : Prop :=
  (∃ h ∈ headers, h ∈ phoneKeywords) →
    ∃ h ∈ phoneKeywords, (headers.find? fun h => phoneKeywords.any fun kw => containsStr h kw) = some h

/-- In each row with a phone that no row before it has, the last column with the name of a column, as its header or
its number, has the same value. -/
def OwnNames (rawHeaders : List String) (rows : List (List String)) : Prop :=
  ∀ before line after_, csvLines rows = before ++ line :: after_ → blankRow line.1 = false →
    (phoneOf casing rawHeaders line.1).2 = true →
    (∀ other ∈ before, blankRow other.1 = false → (phoneOf casing rawHeaders other.1).2 = true →
      (phoneOf casing rawHeaders other.1).1 ≠ (phoneOf casing rawHeaders line.1).1) →
    ∀ (c : Nat) (header : String), (csvHeaders casing rawHeaders)[c]? = some header →
      valueUnder (csvHeaders casing rawHeaders) line.1 header = line.1[c]?

def OneColumn (delimiter : Char) : Prop := ∃ rows, recordsOf text delimiter = .ok rows ∧ ∀ row ∈ rows, row.length = 1

/-- Two candidates lead only where the file has one column to each. -/
def DelimitersAgree : Prop :=
  ∀ d d', Leading (firstLine text) d → Leading (firstLine text) d' → d ≠ d' → OneColumn text d

end Properties

variable {casing : Casing} {pick : Nat} {text : List Char} {p : Preview}

/-! ## The records of an accepted file -/

theorem uploadWith_ok {d : Char} (h : uploadWith casing d text = .ok p) :
    ∃ rawHeaders rows, recordsOf text d = .ok (rawHeaders :: rows) ∧ p.rawHeaders = rawHeaders := by
  unfold uploadWith at h
  cases hrecords : Csv.readAll (uploadReader d) text with
  | error e =>
    rw [hrecords] at h
    cases h
  | ok all =>
    rw [hrecords] at h
    cases all with
    | nil => cases h
    | cons rawHeaders rows =>
      cases h
      exact ⟨rawHeaders, rows, hrecords, rfl⟩

theorem uploadCSV_ok (h : uploadCSV casing pick text = .ok p) :
    text ≠ [] ∧ uploadWith casing (sniffDelimiter pick (firstLine text)) text = .ok p := by
  unfold uploadCSV at h
  split at h
  · cases h
  · rename_i hne
    exact ⟨hne, h⟩

theorem mem_candidates_of_leading {line : List Char} {d : Char} (h : Leading line d) : d ∈ candidates := by
  unfold Leading at h
  split at h
  · rw [h]
    decide
  · exact h.1

theorem lazy_uploadReader {d : Char} (h : d ∈ candidates) : Csv.Lazy (uploadReader d) := by
  have hchar : d ≠ '\n' ∧ d ≠ '"' := by
    simp only [candidates, List.mem_cons, List.not_mem_nil, or_false] at h
    rcases h with rfl | rfl | rfl <;> exact ⟨by decide, by decide⟩
  exact ⟨rfl, rfl, hchar.1, hchar.2⟩

/-! ## The delimiters -/

theorem intercalate_single {delimiter : String} {row : List String} (h : row.length = 1) :
    delimiter.intercalate row = row.headD "" := by
  obtain ⟨field, rfl⟩ := List.length_eq_one_iff.mp h
  rfl

theorem processRow_single {rawHeaders : List String} {d d' : Char} {line : List String × Nat} (h : line.1.length = 1)
    (v : UploadVars) : processRow casing rawHeaders d v line = processRow casing rawHeaders d' v line := by
  unfold processRow
  dsimp only
  rw [intercalate_single h, intercalate_single h]

theorem processRows_single {rawHeaders : List String} {d d' : Char} {rows : List (List String)}
    (h : ∀ row ∈ rows, row.length = 1) :
    processRows casing rawHeaders d rows = processRows casing rawHeaders d' rows := by
  unfold processRows
  have hlines : ∀ line ∈ csvLines rows, line.1.length = 1 := by
    intro line hline
    exact h line.1 (List.fst_mem_of_mem_zipIdx hline)
  generalize csvLines rows = lines at hlines
  generalize (⟨rows.length, 0, 0, 0, [], [], [], []⟩ : UploadVars) = v
  induction lines generalizing v with
  | nil => rfl
  | cons line lines ih =>
    rw [List.foldl_cons, List.foldl_cons, processRow_single (hlines line List.mem_cons_self)]
    exact ih (fun l hl => hlines l (List.mem_cons_of_mem _ hl)) _

/-- Two leading delimiters that both find one column find the same rows. -/
theorem recordsOf_eq {d d' : Char} (hd : d ∈ candidates) (hd' : d' ∈ candidates) (h : OneColumn text d)
    (h' : OneColumn text d') : recordsOf text d' = recordsOf text d := by
  by_cases hne : d = d'
  · rw [hne]
  · obtain ⟨rows, hrows, hone⟩ := h
    obtain ⟨rows', hrows', hone'⟩ := h'
    have hparse := Csv.parse_of_readAll hrows
    have hparse' := Csv.parse_of_readAll hrows'
    have hsame : Csv.parse (uploadReader d') .start (Csv.normalize text) =
        Csv.parse (uploadReader d) .start (Csv.normalize text) := by
      refine Csv.parse_with_of_single (r := uploadReader d) (d := d') (lazy_uploadReader hd) hne (lazy_uploadReader hd')
        (by decide) rfl ?_ ?_
      · intro fields hmem
        rw [hparse] at hmem
        obtain ⟨row, hrow, heq⟩ := List.mem_map.mp hmem
        obtain rfl : row = fields := Except.ok.inj heq
        exact hone row hrow
      · intro fields hmem
        rw [show (uploadReader d).withComma d' = uploadReader d' from rfl, hparse'] at hmem
        obtain ⟨row, hrow, heq⟩ := List.mem_map.mp hmem
        obtain rfl : row = fields := Except.ok.inj heq
        exact hone' row hrow
    unfold recordsOf Csv.readAll Csv.records
    rw [hsame]
    rfl

theorem uploadWith_eq {d d' : Char} (hd : d ∈ candidates) (hd' : d' ∈ candidates) (h : OneColumn text d)
    (h' : OneColumn text d') : uploadWith casing d' text = uploadWith casing d text := by
  have hrecords := recordsOf_eq hd hd' h h'
  obtain ⟨rows, hrows, hone⟩ := h
  rw [hrows] at hrecords
  unfold uploadWith
  rw [show Csv.readAll (uploadReader d') text = .ok rows from hrecords,
    show Csv.readAll (uploadReader d) text = .ok rows from hrows]
  cases rows with
  | nil => rfl
  | cons rawHeaders rows =>
    have hdata := @processRows_single casing rawHeaders d' d _
      fun row hrow => hone row (List.mem_cons_of_mem _ hrow)
    dsimp only
    rw [hdata]

theorem sameForAll_iff (h : uploadCSV casing pick text = .ok p) :
    (∀ pick', uploadCSV casing pick' text = .ok p) ↔ DelimitersAgree text := by
  obtain ⟨hne, hupload⟩ := uploadCSV_ok h
  constructor
  · intro hall d d' hd hd' hother
    obtain ⟨pick₁, rfl⟩ := leading_iff.mp hd
    obtain ⟨pick₂, rfl⟩ := leading_iff.mp hd'
    obtain ⟨rawHeaders, rows, hrows, heq⟩ := uploadWith_ok (uploadCSV_ok (hall pick₁)).2
    obtain ⟨rawHeaders', rows', hrows', heq'⟩ := uploadWith_ok (uploadCSV_ok (hall pick₂)).2
    obtain rfl : rawHeaders = rawHeaders' := heq.symm.trans heq'
    -- the header record is the same to both, so it has one field
    have hhead : rawHeaders.length = 1 :=
      Csv.length_of_same_head (s := .start) (lazy_uploadReader (mem_candidates_of_leading hd)) hother
        (lazy_uploadReader (mem_candidates_of_leading hd')) (by decide) (Csv.parse_of_readAll hrows) (Csv.parse_of_readAll hrows')
    have hrest := Csv.readAll_sameFields rfl hrows
    refine ⟨_, hrows, ?_⟩
    intro row hrow
    rcases List.mem_cons.mp hrow with rfl | hrow
    · exact hhead
    · rw [hrest row hrow, hhead]
  · intro hagree pick'
    have hlead := leading_sniffDelimiter pick (firstLine text)
    have hlead' := leading_sniffDelimiter pick' (firstLine text)
    rw [uploadCSV, if_neg hne]
    by_cases hsame : sniffDelimiter pick' (firstLine text) = sniffDelimiter pick (firstLine text)
    · rw [← hupload]
      exact congrArg (uploadWith casing · text) hsame
    · rw [← hupload]
      exact uploadWith_eq (mem_candidates_of_leading hlead) (mem_candidates_of_leading hlead')
        (hagree _ _ hlead hlead' (Ne.symm hsame)) (hagree _ _ hlead' hlead hsame)

/-! ## The column of the phones -/

theorem getElem?_findIdx? {q : String → Bool} {xs : List String} {i : Nat} (h : xs.findIdx? q = some i) :
    xs[i]? = xs.find? q := by
  induction xs generalizing i with
  | nil => cases h
  | cons x xs ih =>
    rw [List.findIdx?_cons] at h
    rw [List.find?_cons]
    split at h
    · rename_i hx
      rw [← Option.some.inj h, hx]
      rfl
    · rename_i hx
      obtain ⟨j, hj, rfl⟩ := Option.map_eq_some_iff.mp h
      rw [Bool.eq_false_iff.mpr hx, List.getElem?_cons_succ]
      exact ih hj

theorem containsStr_self (s : String) : containsStr s s = true := by
  refine List.any_eq_true.mpr ⟨s.toList, ?_, List.isPrefixOf_iff_prefix.mpr List.prefix_rfl⟩
  rw [List.mem_tails]

theorem phoneColumn_eq {headers : List String} (h : ∃ h ∈ headers, h ∈ phoneKeywords) :
    headers[phoneColumn headers]? = headers.find? fun h => phoneKeywords.any fun kw => containsStr h kw := by
  unfold phoneColumn
  cases hfind : headers.findIdx? fun h => phoneKeywords.any fun kw => containsStr h kw with
  | some i => exact getElem?_findIdx? hfind
  | none =>
    obtain ⟨header, hheader, hkeyword⟩ := h
    have hnone := List.findIdx?_eq_none_iff.mp hfind header hheader
    rw [List.any_eq_true.mpr ⟨header, hkeyword, containsStr_self header⟩] at hnone
    cases hnone

theorem phone_iff (headers : List String) :
    ((∃ h ∈ headers, h ∈ phoneKeywords) → ∃ h ∈ phoneKeywords, headers[phoneColumn headers]? = some h) ↔
      KeywordFirst headers := by
  unfold KeywordFirst
  constructor
  · intro h hany
    obtain ⟨header, hkeyword, hget⟩ := h hany
    exact ⟨header, hkeyword, by rw [← phoneColumn_eq hany, hget]⟩
  · intro h hany
    obtain ⟨header, hkeyword, hget⟩ := h hany
    exact ⟨header, hkeyword, by rw [phoneColumn_eq hany, hget]⟩

/-! ## The rows -/

theorem sanitizePhone_digits {s : String} (h : (sanitizePhone s).2 = true) :
    (∀ c ∈ (sanitizePhone s).1.toList, isDigit c) ∧ 10 ≤ (sanitizePhone s).1.toList.length ∧
      (sanitizePhone s).1.toList.length ≤ 15 := by
  simp only [sanitizePhone, Bool.and_eq_true, decide_eq_true_eq] at h ⊢
  rw [String.toList_ofList]
  exact ⟨fun c hc => (List.mem_filter.mp hc).2, h⟩

theorem padRow_of_length {n : Nat} {row : List String} (h : row.length = n) : padRow n row = row := by
  rw [padRow, h, Nat.sub_self, List.replicate_zero, List.append_nil]

theorem nodup_lines (rows : List (List String)) : ((csvLines rows).map (·.2)).Nodup := by
  rw [csvLines, show (rows.zipIdx 2).map (·.2) = List.range' 2 rows.length from List.zipIdx_map_snd 2 rows]
  exact List.nodup_range'

theorem isRecipient_iff {rawHeaders : List String} {line : List String × Nat} (hlength : line.1.length = rawHeaders.length) :
    IsRecipient casing rawHeaders line (recipientOf casing rawHeaders line) ↔
      ∀ (c : Nat) (header : String), (csvHeaders casing rawHeaders)[c]? = some header →
        valueUnder (csvHeaders casing rawHeaders) line.1 header = line.1[c]? := by
  have hheaders : line.1.length = (csvHeaders casing rawHeaders).length := by
    rw [csvHeaders, List.length_map, hlength]
  have hvariables : ∀ header, (recipientOf casing rawHeaders line).variables_.lookup header =
      valueUnder (csvHeaders casing rawHeaders) line.1 header := by
    intro header
    rw [recipientOf, lookup_rowVariables, padRow_of_length hheaders]
  constructor
  · intro h c header hheader
    rw [← hvariables]
    exact h.variables_ c header hheader
  · intro h
    refine ⟨rfl, fun c header hheader => ?_⟩
    rw [hvariables]
    exact h c header hheader

/-- An upload is classified as expected exactly when the headers do not get in the way. -/
theorem classified_iff (h : uploadCSV casing pick text = .ok p) :
    ∃ rawHeaders rows, recordsOf text (sniffDelimiter pick (firstLine text)) = .ok (rawHeaders :: rows) ∧
      (Classified casing pick text rawHeaders rows p ↔
        KeywordFirst (csvHeaders casing rawHeaders) ∧ OwnNames casing rawHeaders rows ∧ DelimitersAgree text) := by
  obtain ⟨rawHeaders, rows, hrows, -⟩ := uploadWith_ok (uploadCSV_ok h).2
  refine ⟨rawHeaders, rows, hrows, ?_⟩
  have hlength : ∀ line ∈ csvLines rows, line.1.length = rawHeaders.length := by
    intro line hline
    exact Csv.readAll_sameFields rfl hrows line.1 (List.fst_mem_of_mem_zipIdx hline)
  -- what the loop has made
  obtain ⟨v, hv, hp⟩ : ∃ v, processRows casing rawHeaders (sniffDelimiter pick (firstLine text)) rows = v ∧
      p = ⟨v.total, v.validCount, v.dupCount, v.invalidCount, rawHeaders, v.sampleRows, v.recipients, v.skipped⟩ := by
    have hupload := (uploadCSV_ok h).2
    unfold uploadWith at hupload
    rw [show Csv.readAll (uploadReader (sniffDelimiter pick (firstLine text))) text = .ok (rawHeaders :: rows) from hrows]
      at hupload
    exact ⟨_, rfl, (Except.ok.inj hupload).symm⟩
  have hspec := @processRows_spec casing rawHeaders (sniffDelimiter pick (firstLine text))
    ⟨rows.length, 0, 0, 0, [], [], [], []⟩ (csvLines rows)
  rw [show (csvLines rows).foldl (processRow casing rawHeaders (sniffDelimiter pick (firstLine text))) _ = v from hv] at hspec
  have hrecipients : p.recipients = (takenRows casing rawHeaders [] (csvLines rows)).map (recipientOf casing rawHeaders) := by
    rw [hp]
    exact hspec.recipients
  have hskipped : p.skipped.map (fun s => (s.lineNumber, s.rawInput)) =
      (skippedRows casing rawHeaders [] (csvLines rows)).map (lineInput (sniffDelimiter pick (firstLine text))) := by
    rw [hp]
    exact hspec.skipped
  have hnumbers : p.skipped.map (·.lineNumber) = (skippedRows casing rawHeaders [] (csvLines rows)).map (·.2) := by
    have hfirst := congrArg (List.map Prod.fst) hskipped
    rwa [List.map_map, List.map_map] at hfirst
  have htaken : (dataRows rows).filter (fun line => line.2 ∉ p.skipped.map (·.lineNumber)) =
      takenRows casing rawHeaders [] (csvLines rows) := by
    rw [hnumbers]
    exact takenRows_eq_filter [] (nodup_lines rows)
  have hmatch : List.Forall₂ (IsRecipient casing rawHeaders)
      ((dataRows rows).filter fun line => line.2 ∉ p.skipped.map (·.lineNumber)) p.recipients ↔ OwnNames casing rawHeaders rows := by
    rw [htaken, hrecipients, List.forall₂_map_right_iff, List.forall₂_same]
    constructor
    · intro hall before line after_ heq hblank hvalid hbefore
      have hmem : line ∈ takenRows casing rawHeaders [] (csvLines rows) :=
        mem_takenRows.mpr ⟨before, after_, heq, hblank, hvalid, List.not_mem_nil, hbefore⟩
      exact (isRecipient_iff (hlength line ((takenRows_sublist _ _).mem hmem))).mp (hall line hmem)
    · intro hall line hmem
      obtain ⟨before, after_, heq, hblank, hvalid, -, hbefore⟩ := mem_takenRows.mp hmem
      exact (isRecipient_iff (hlength line ((takenRows_sublist _ _).mem hmem))).mpr
        (hall before line after_ heq hblank hvalid hbefore)
  constructor
  · intro hall
    exact ⟨(phone_iff _).mp hall.phone, hmatch.mp hall.recipients, (sameForAll_iff h).mp hall.sameForAll⟩
  · rintro ⟨hphone, hnames, hagree⟩
    refine ⟨?_, ?_, hmatch.mpr hnames, ?_, ?_, (phone_iff _).mpr hphone, (sameForAll_iff h).mpr hagree⟩
    · have htotal := hspec.total
      have hvalid := hspec.valid
      have hrefused := hspec.refused
      have hsum := @length_takenRows casing rawHeaders [] (csvLines rows)
      rw [csvLines, List.length_zipIdx, ← csvLines] at hsum
      rw [hp]
      dsimp only at htotal hvalid hrefused ⊢
      omega
    · rw [hskipped]
      exact (skippedRows_sublist _ _).map _
    · rw [hrecipients, List.map_map]
      exact takenRows_phones [] (csvLines rows)
    · intro r hr
      rw [hrecipients] at hr
      obtain ⟨line, hline, rfl⟩ := List.mem_map.mp hr
      obtain ⟨-, -, -, -, hvalid, -⟩ := mem_takenRows.mp hline
      exact sanitizePhone_digits hvalid

/-- Ana, her number once more under another name, and a phone that is too short. -/
def plainFile : List Char := "phone,nome\n+55 11 99999-0000,Ana\n5511999990000,Rui\n123,Eva\n".toList

/-- The headers are in nobody's way. -/
theorem plain_file :
    ∃ p, uploadCSV latinCasing 0 plainFile = .ok p ∧ p.recipients.map (·.to_) = ["5511999990000"] ∧
      p.skipped.map (·.rawInput) = ["5511999990000,Rui", "123,Eva"] ∧
      ∃ rawHeaders rows,
        recordsOf plainFile (sniffDelimiter 0 (firstLine plainFile)) = .ok (rawHeaders :: rows) ∧
        (Classified latinCasing 0 plainFile rawHeaders rows p ↔
          KeywordFirst (csvHeaders latinCasing rawHeaders) ∧ OwnNames latinCasing rawHeaders rows ∧
            DelimitersAgree plainFile) := by
  have hupload : uploadCSV latinCasing 0 plainFile =
      .ok ⟨3, 1, 1, 1, ["phone", "nome"], [["+55 11 99999-0000", "Ana"]],
        [⟨"5511999990000", [("phone", "+55 11 99999-0000"), ("0", "+55 11 99999-0000"), ("nome", "Ana"), ("1", "Ana")]⟩],
        [⟨3, "5511999990000,Rui", "numero de telefone duplicado"⟩,
          ⟨4, "123,Eva", "numero de telefone invalido (tamanho 3)"⟩]⟩ := by
    decide +kernel
  exact ⟨_, hupload, rfl, rfl, classified_iff hupload⟩

/-! ## Headers in the way -/

def totalFile : List Char := "total,phone\n3,5511999990000\n".toList

def mixedFile : List Char := "phone;nome,cidade\n5511999990000;Ana,Lisboa\n".toList

/-- "total" has "to" in it, and is read as the phone; a line with a comma and a semicolon is divided at either. -/
theorem headers_in_the_way :
    (∃ p, uploadCSV latinCasing 0 totalFile = .ok p ∧ p.recipients = [] ∧
        ¬ Classified latinCasing 0 totalFile ["total", "phone"] [["3", "5511999990000"]] p) ∧
      ∃ p p', uploadCSV latinCasing 0 mixedFile = .ok p ∧ uploadCSV latinCasing 1 mixedFile = .ok p' ∧
        p.rawHeaders = ["phone;nome", "cidade"] ∧ p'.rawHeaders = ["phone", "nome,cidade"] := by
  have htotal : uploadCSV latinCasing 0 totalFile =
      .ok ⟨1, 0, 0, 1, ["total", "phone"], [], [],
        [⟨2, "3,5511999990000", "numero de telefone invalido (tamanho 1)"⟩]⟩ := by decide +kernel
  refine ⟨⟨_, htotal, rfl, ?_⟩, ?_⟩
  · intro h
    have hheaders : csvHeaders latinCasing ["total", "phone"] = ["total", "phone"] := by decide +kernel
    have hphone := h.phone
    rw [hheaders] at hphone
    obtain ⟨header, hkeyword, hget⟩ := hphone ⟨"phone", by decide, by decide⟩
    have htotal : header = "total" := by
      have hcolumn : (["total", "phone"] : List String)[phoneColumn ["total", "phone"]]? = some "total" := by decide +kernel
      exact Option.some.inj (hget.symm.trans hcolumn)
    rw [htotal] at hkeyword
    exact absurd hkeyword (by decide)
  · have hcomma : uploadCSV latinCasing 0 mixedFile =
        .ok ⟨1, 1, 0, 0, ["phone;nome", "cidade"], [["5511999990000;Ana", "Lisboa"]],
          [⟨"5511999990000",
            [("phone;nome", "5511999990000;Ana"), ("0", "5511999990000;Ana"), ("cidade", "Lisboa"), ("1", "Lisboa")]⟩], []⟩ := by
      decide +kernel
    have hsemicolon : uploadCSV latinCasing 1 mixedFile =
        .ok ⟨1, 1, 0, 0, ["phone", "nome,cidade"], [["5511999990000", "Ana,Lisboa"]],
          [⟨"5511999990000",
            [("phone", "5511999990000"), ("0", "5511999990000"), ("nome,cidade", "Ana,Lisboa"), ("1", "Ana,Lisboa")]⟩], []⟩ := by
      decide +kernel
    exact ⟨_, _, hcomma, hsemicolon, rfl, rfl⟩

end PerGo.L4.UploadedRows
