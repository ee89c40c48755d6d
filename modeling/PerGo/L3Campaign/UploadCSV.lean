import PerGo.L1Encoding.Csv
import PerGo.L2Domain.Campaign
import PerGo.L2Domain.Variables

/-!
# The uploaded file of a campaign

`UploadCSV` (admin/campaign.go:233-377): the delimiter is sniffed in the first line, the
column of the phones is looked for in the headers, and each row becomes a recipient or is skipped.

* `leading_iff`: the delimiters that the sniffer can come to are those that occur most often; which one is up
  to the order in which Go goes through a map.
* `processRows_spec`: the loop over the rows, by `takenRows` and `skippedRows`.
* `lookup_rowVariables`: under each name, the last column that has it as its header or its number.
-/
namespace PerGo.L3.Campaign

open PerGo.Core PerGo.L1 PerGo.L2

/-! ## The delimiter -/

def candidates : List Char := [',', ';', '\t']

/-- The entries of `counts`. mirrors domain/campaign.go:131-139 -/
def delimiterCounts (firstLine : List Char) : List (Char × Nat) :=
  (candidates.map fun cand => (cand, firstLine.count cand)).filter fun entry => 0 < entry.2

/-- `pick` is the order in which the map is gone through. mirrors domain/campaign.go:131-150 -/
def sniffDelimiter (pick : Nat) (firstLine : List Char) : Char :=
  ((Assoc.ranged pick (delimiterCounts firstLine)).foldl
    (fun best entry => if entry.2 > best.2 then entry else best) (',', 0)).1

/-! ## The columns -/

section Columns

variable (casing : Casing)

/-- mirrors admin/campaign.go:271-276 -/
def csvHeaders (rawHeaders : List String) : List String := rawHeaders.map fun h => trimSpace (casing.toLower h)

def setColumn (headers : List String) (variables_ : StrMap) (column : String × Nat) : StrMap :=
  let variables_ := match headers[column.2]? with
    | some header => setVariable variables_ header column.1
    | none => variables_
  setVariable variables_ (formatInt column.2) column.1

/-- mirrors admin/campaign.go:348-357 -/
def rowVariables (rawHeaders row : List String) : StrMap :=
  row.zipIdx.foldl (setColumn (csvHeaders casing rawHeaders)) []

end Columns

/-- mirrors admin/campaign.go:280 -/
def phoneKeywords : List String :=
  ["phone", "telefone", "fone", "tel", "to", "number", "numero", "celular", "contato", "contact"]

/-- The first header that has a keyword in it, or else the first column.
mirrors admin/campaign.go:279-295 -/
def phoneColumn (headers : List String) : Nat :=
  (headers.findIdx? fun h => phoneKeywords.any fun kw => containsStr h kw).getD 0

/-! ## The rows -/

/-- mirrors domain/campaign.go:60-64 -/
structure SkippedRow where
  lineNumber : Nat
  rawInput : String
  reason : String
deriving DecidableEq

structure UploadVars where
  total : Int
  validCount : Nat
  dupCount : Nat
  invalidCount : Nat
  seen : List String
  recipients : List CampaignRecipient
  skipped : List SkippedRow
  sampleRows : List (List String)

/-- The answer. mirrors admin/campaign.go:369-376 -/
structure Preview where
  total : Int
  valid : Nat
  duplicate : Nat
  invalid : Nat
  rawHeaders : List String
  sampleRows : List (List String)
  recipients : List CampaignRecipient
  skipped : List SkippedRow
deriving DecidableEq

inductive UploadError
  | empty
  | parse (e : Csv.Error)
  | noData
deriving DecidableEq

def UploadError.text : UploadError → String
  | .empty => "uploaded file is empty"
  | .parse e => "failed to parse CSV: " ++ e.text
  | .noData => "CSV contains no data"

/-- A line without fields. -/
def blankRow (row : List String) : Bool := row = [] || row = [""]

/-- mirrors admin/campaign.go:319-321 -/
def padRow (n : Nat) (row : List String) : List String := row ++ List.replicate (n - row.length) ""

section Upload

variable (casing : Casing) (rawHeaders : List String)

def phoneOf (row : List String) : String × Bool :=
  let headers := csvHeaders casing rawHeaders
  sanitizePhone ((padRow headers.length row).getD (phoneColumn headers) "")

/-- mirrors admin/campaign.go:307-366; the row comes with its line -/
def processRow (delimiter : Char) (v : UploadVars) (line : List String × Nat) : UploadVars :=
  let row := line.1
  if blankRow row then { v with total := v.total - 1 }
  else
    let rawInput := (String.singleton delimiter).intercalate row
    let padded := padRow (csvHeaders casing rawHeaders).length row
    let (cleanPhone, isValid) := phoneOf casing rawHeaders row
    if !isValid then
      { v with
        invalidCount := v.invalidCount + 1
        skipped := v.skipped ++
          [⟨line.2, rawInput, "numero de telefone invalido (tamanho " ++ formatInt cleanPhone.length ++ ")"⟩] }
    else if cleanPhone ∈ v.seen then
      { v with
        dupCount := v.dupCount + 1
        skipped := v.skipped ++ [⟨line.2, rawInput, "numero de telefone duplicado"⟩] }
    else
      { v with
        seen := cleanPhone :: v.seen
        validCount := v.validCount + 1
        recipients := v.recipients ++ [⟨cleanPhone, rowVariables casing rawHeaders padded⟩]
        sampleRows := if v.sampleRows.length < 5 then v.sampleRows ++ [padded] else v.sampleRows }

def csvLines (rows : List (List String)) : List (List String × Nat) := rows.zipIdx 2

def processRows (delimiter : Char) (rows : List (List String)) : UploadVars :=
  (csvLines rows).foldl (processRow casing rawHeaders delimiter) ⟨rows.length, 0, 0, 0, [], [], [], []⟩

end Upload

def uploadReader (delimiter : Char) : Csv.Reader :=
  { comma := delimiter, lazyQuotes := true, trimLeadingSpace := false, sameFields := true }

/-- mirrors admin/campaign.go:257-376 -/
def uploadWith (casing : Casing) (delimiter : Char) (text : List Char) : Except UploadError Preview :=
  match Csv.readAll (uploadReader delimiter) text with
  | .error e => .error (.parse e)
  | .ok [] => .error .noData
  | .ok (rawHeaders :: rows) =>
    let v := processRows casing rawHeaders delimiter rows
    .ok ⟨v.total, v.validCount, v.dupCount, v.invalidCount, rawHeaders, v.sampleRows, v.recipients, v.skipped⟩

/-- mirrors admin/campaign.go:233-377 -/
def uploadCSV (casing : Casing) (pick : Nat) (text : List Char) : Except UploadError Preview :=
  if text = [] then .error .empty
  else uploadWith casing (sniffDelimiter pick (text.takeWhile (· ≠ '\n'))) text

/-! ## The sniffer -/

/-- A candidate that no other occurs more often than, or the comma when none occurs. -/
def Leading (firstLine : List Char) (d : Char) : Prop :=
  if candidates.all fun cand => firstLine.count cand = 0 then d = ','
  else d ∈ candidates ∧ ∀ cand ∈ candidates, firstLine.count cand ≤ firstLine.count d

theorem mem_delimiterCounts {firstLine : List Char} {entry : Char × Nat} :
    entry ∈ delimiterCounts firstLine ↔ entry.1 ∈ candidates ∧ entry.2 = firstLine.count entry.1 ∧ 0 < entry.2 := by
  unfold delimiterCounts
  rw [List.mem_filter, List.mem_map, decide_eq_true_eq]
  constructor
  · rintro ⟨⟨cand, hcand, rfl⟩, hpos⟩
    exact ⟨hcand, rfl, hpos⟩
  · rintro ⟨hcand, hcount, hpos⟩
    exact ⟨⟨entry.1, hcand, by rw [← hcount]⟩, hpos⟩

theorem foldl_best (entries : List (Char × Nat)) (best : Char × Nat) :
    (entries.foldl (fun best entry => if entry.2 > best.2 then entry else best) best = best ∨
        entries.foldl (fun best entry => if entry.2 > best.2 then entry else best) best ∈ entries) ∧
      best.2 ≤ (entries.foldl (fun best entry => if entry.2 > best.2 then entry else best) best).2 ∧
      ∀ entry ∈ entries, entry.2 ≤ (entries.foldl (fun best entry => if entry.2 > best.2 then entry else best) best).2 := by
  induction entries generalizing best with
  | nil => exact ⟨Or.inl rfl, Nat.le_refl _, fun _ h => nomatch h⟩
  | cons entry entries ih =>
    obtain ⟨hmem, hle, hall⟩ := ih (if entry.2 > best.2 then entry else best)
    have hboth : best.2 ≤ (if entry.2 > best.2 then entry else best).2 ∧
        entry.2 ≤ (if entry.2 > best.2 then entry else best).2 := by
      split <;> omega
    rw [List.foldl_cons]
    refine ⟨?_, hboth.1.trans hle, ?_⟩
    · rcases hmem with hmem | hmem
      · rw [hmem]
        split
        · exact Or.inr List.mem_cons_self
        · exact Or.inl rfl
      · exact Or.inr (List.mem_cons_of_mem _ hmem)
    · intro e he
      rcases List.mem_cons.mp he with rfl | he
      · exact hboth.2.trans hle
      · exact hall e he

theorem leading_sniffDelimiter (pick : Nat) (firstLine : List Char) : Leading firstLine (sniffDelimiter pick firstLine) := by
  have hperm := Assoc.ranged_perm pick (delimiterCounts firstLine)
  obtain ⟨hmem, -, hall⟩ := foldl_best (Assoc.ranged pick (delimiterCounts firstLine)) (',', 0)
  unfold Leading sniffDelimiter
  generalize hbest : (Assoc.ranged pick (delimiterCounts firstLine)).foldl
    (fun best entry => if entry.2 > best.2 then entry else best) (',', 0) = best at hmem hall ⊢
  have hcount : ∀ cand ∈ candidates, firstLine.count cand ≤ best.2 := by
    intro cand hcand
    by_cases hpos : 0 < firstLine.count cand
    · have hentry : (cand, firstLine.count cand) ∈ delimiterCounts firstLine :=
        mem_delimiterCounts.mpr ⟨hcand, rfl, hpos⟩
      exact hall _ (hperm.mem_iff.mpr hentry)
    · omega
  rcases hmem with rfl | hmem
  · -- none occurs
    rw [if_pos]
    simpa using hcount
  · obtain ⟨hcand, hnum, hpos⟩ := mem_delimiterCounts.mp (hperm.mem_iff.mp hmem)
    rw [if_neg]
    · exact ⟨hcand, fun cand h => hnum ▸ hcount cand h⟩
    · intro hnone
      have hzero := List.all_eq_true.mp hnone best.1 hcand
      rw [decide_eq_true_eq] at hzero
      omega

/-- With the entry of a leading candidate in front, no other comes to its place. -/
theorem foldl_best_of_first {first : Char × Nat} (hpos : 0 < first.2) {entries : List (Char × Nat)}
    (h : ∀ entry ∈ entries, entry.2 ≤ first.2) :
    (first :: entries).foldl (fun best entry => if entry.2 > best.2 then entry else best) (',', 0) = first := by
  have hstay : ∀ es : List (Char × Nat), (∀ entry ∈ es, entry.2 ≤ first.2) →
      es.foldl (fun best entry => if entry.2 > best.2 then entry else best) first = first := by
    intro es
    induction es with
    | nil => exact fun _ => rfl
    | cons e es ih =>
      intro he
      have hle := he e List.mem_cons_self
      rw [List.foldl_cons, if_neg (by omega)]
      exact ih fun entry hentry => he entry (List.mem_cons_of_mem _ hentry)
  rw [List.foldl_cons, if_pos hpos]
  exact hstay entries h

theorem leading_iff {firstLine : List Char} {d : Char} :
    Leading firstLine d ↔ ∃ pick, sniffDelimiter pick firstLine = d := by
  constructor
  · intro h
    by_cases hnone : candidates.all fun cand => firstLine.count cand = 0
    · refine ⟨0, ?_⟩
      have hsniff := leading_sniffDelimiter 0 firstLine
      rw [Leading, if_pos hnone] at h hsniff
      rw [h, hsniff]
    · rw [Leading, if_neg hnone] at h
      obtain ⟨hd, hmax⟩ := h
      have hpos : 0 < firstLine.count d := by
        by_contra hzero
        refine hnone (List.all_eq_true.mpr fun cand hcand => ?_)
        have := hmax cand hcand
        exact decide_eq_true (by omega)
      have hentry : (d, firstLine.count d) ∈ delimiterCounts firstLine := mem_delimiterCounts.mpr ⟨hd, rfl, hpos⟩
      have hperm := List.perm_cons_erase hentry
      obtain ⟨pick, hpick⟩ := Assoc.exists_ranged hperm.symm
      refine ⟨pick, ?_⟩
      rw [sniffDelimiter, hpick, foldl_best_of_first hpos]
      intro entry hmem
      obtain ⟨hcand, hnum, -⟩ := mem_delimiterCounts.mp (List.mem_of_mem_erase hmem)
      rw [hnum]
      exact hmax _ hcand
  · rintro ⟨pick, rfl⟩
    exact leading_sniffDelimiter pick firstLine

/-! ## The variables of a row -/

def named (headers : List String) (name : String) (column : String × Nat) : Bool :=
  headers[column.2]? = some name || formatInt column.2 = name

def valueUnder (headers row : List String) (name : String) : Option String :=
  (row.zipIdx.reverse.find? (named headers name)).map (·.1)

theorem lookup_setColumn (headers : List String) (variables_ : StrMap) (column : String × Nat) (name : String) :
    (setColumn headers variables_ column).lookup name =
      if named headers name column then some column.1 else variables_.lookup name := by
  unfold setColumn named
  dsimp only
  rw [show (setVariable _ (formatInt column.2) column.1).lookup name = _ from Assoc.lookup_setKey _ _ name _]
  by_cases hindex : name = formatInt column.2
  · simp [hindex]
  · rw [if_neg hindex]
    cases hheader : headers[column.2]? with
    | none => simp [Ne.symm hindex]
    | some header =>
      dsimp only
      rw [show (setVariable variables_ header column.1).lookup name = _ from Assoc.lookup_setKey _ _ name _]
      simp [Ne.symm hindex, eq_comm]

theorem lookup_columns (headers : List String) (columns : List (String × Nat)) (variables_ : StrMap) (name : String) :
    (columns.foldl (setColumn headers) variables_).lookup name =
      ((columns.reverse.find? (named headers name)).map (·.1)).or (variables_.lookup name) := by
  induction columns generalizing variables_ with
  | nil => rfl
  | cons column columns ih =>
    rw [List.foldl_cons, ih, lookup_setColumn, List.reverse_cons, List.find?_append]
    cases columns.reverse.find? (named headers name) with
    | some last => rfl
    | none =>
      by_cases hnamed : named headers name column = true
      · simp [hnamed]
      · simp [hnamed]

theorem lookup_rowVariables (casing : Casing) (rawHeaders row : List String) (name : String) :
    (rowVariables casing rawHeaders row).lookup name = valueUnder (csvHeaders casing rawHeaders) row name := by
  rw [rowVariables, lookup_columns, List.lookup_nil, Option.or_none]
  rfl

/-! ## The rows that are taken -/

section Rows

variable (casing : Casing) (rawHeaders : List String)

def isTaken (seen : List String) (row : List String) : Bool :=
  !blankRow row && (phoneOf casing rawHeaders row).2 && !seen.contains (phoneOf casing rawHeaders row).1

def seenAfter (seen : List String) (row : List String) : List String :=
  if isTaken casing rawHeaders seen row then (phoneOf casing rawHeaders row).1 :: seen else seen

def takenRows : List String → List (List String × Nat) → List (List String × Nat)
  | _, [] => []
  | seen, line :: rest =>
    let others := takenRows (seenAfter casing rawHeaders seen line.1) rest
    if isTaken casing rawHeaders seen line.1 then line :: others else others

def skippedRows : List String → List (List String × Nat) → List (List String × Nat)
  | _, [] => []
  | seen, line :: rest =>
    let others := skippedRows (seenAfter casing rawHeaders seen line.1) rest
    if !blankRow line.1 && !isTaken casing rawHeaders seen line.1 then line :: others else others

/-- mirrors admin/campaign.go:359-362 -/
def recipientOf (line : List String × Nat) : CampaignRecipient :=
  ⟨(phoneOf casing rawHeaders line.1).1,
    rowVariables casing rawHeaders (padRow (csvHeaders casing rawHeaders).length line.1)⟩

end Rows

variable {casing : Casing} {rawHeaders : List String}

/-- A line of the file as it is kept for a skipped row. -/
def lineInput (delimiter : Char) (line : List String × Nat) : Nat × String :=
  (line.2, (String.singleton delimiter).intercalate line.1)

structure Processed (casing : Casing) (rawHeaders : List String) (delimiter : Char) (v : UploadVars)
    (lines : List (List String × Nat)) (v' : UploadVars) : Prop where
  recipients : v'.recipients = v.recipients ++ (takenRows casing rawHeaders v.seen lines).map (recipientOf casing rawHeaders)
  skipped : v'.skipped.map (fun s => (s.lineNumber, s.rawInput)) = v.skipped.map (fun s => (s.lineNumber, s.rawInput)) ++
    (skippedRows casing rawHeaders v.seen lines).map (lineInput delimiter)
  valid : v'.validCount = v.validCount + (takenRows casing rawHeaders v.seen lines).length
  refused : v'.dupCount + v'.invalidCount = v.dupCount + v.invalidCount + (skippedRows casing rawHeaders v.seen lines).length
  total : v'.total = v.total - (lines.filter fun line => blankRow line.1).length

theorem processRow_spec (delimiter : Char) (v : UploadVars) (line : List String × Nat) :
    Processed casing rawHeaders delimiter v [line] (processRow casing rawHeaders delimiter v line) ∧
      (processRow casing rawHeaders delimiter v line).seen = seenAfter casing rawHeaders v.seen line.1 := by
  unfold processRow seenAfter
  by_cases hblank : blankRow line.1 = true
  · have htaken : isTaken casing rawHeaders v.seen line.1 = false := by simp [isTaken, hblank]
    refine ⟨⟨?_, ?_, ?_, ?_, ?_⟩, ?_⟩ <;> simp [takenRows, skippedRows, htaken, hblank]
  · have hblank' : blankRow line.1 = false := Bool.eq_false_iff.mpr hblank
    by_cases hvalid : (phoneOf casing rawHeaders line.1).2 = true
    · by_cases hseen : (phoneOf casing rawHeaders line.1).1 ∈ v.seen
      · have htaken : isTaken casing rawHeaders v.seen line.1 = false := by simp [isTaken, hseen]
        refine ⟨⟨?_, ?_, ?_, ?_, ?_⟩, ?_⟩ <;>
          simp [takenRows, skippedRows, htaken, hblank', hvalid, hseen, lineInput]
        omega
      · have htaken : isTaken casing rawHeaders v.seen line.1 = true := by simp [isTaken, hblank', hvalid, hseen]
        refine ⟨⟨?_, ?_, ?_, ?_, ?_⟩, ?_⟩ <;>
          simp [takenRows, skippedRows, htaken, hblank', hvalid, hseen, recipientOf]
    · have hvalid' : (phoneOf casing rawHeaders line.1).2 = false := Bool.eq_false_iff.mpr hvalid
      have htaken : isTaken casing rawHeaders v.seen line.1 = false := by simp [isTaken, hvalid']
      refine ⟨⟨?_, ?_, ?_, ?_, ?_⟩, ?_⟩ <;> simp [takenRows, skippedRows, htaken, hblank', hvalid', lineInput]
      omega

theorem takenRows_cons (seen : List String) (line : List String × Nat) (rest : List (List String × Nat)) :
    takenRows casing rawHeaders seen (line :: rest) = takenRows casing rawHeaders seen [line] ++
      takenRows casing rawHeaders (seenAfter casing rawHeaders seen line.1) rest := by
  rw [takenRows, takenRows]
  split
  · rfl
  · rfl

theorem skippedRows_cons (seen : List String) (line : List String × Nat) (rest : List (List String × Nat)) :
    skippedRows casing rawHeaders seen (line :: rest) = skippedRows casing rawHeaders seen [line] ++
      skippedRows casing rawHeaders (seenAfter casing rawHeaders seen line.1) rest := by
  rw [skippedRows, skippedRows]
  split
  · rfl
  · rfl

theorem processRows_spec (delimiter : Char) (v : UploadVars) (lines : List (List String × Nat)) :
    Processed casing rawHeaders delimiter v lines (lines.foldl (processRow casing rawHeaders delimiter) v) := by
  induction lines generalizing v with
  | nil =>
    refine ⟨?_, ?_, ?_, ?_, ?_⟩ <;> simp [takenRows, skippedRows]
  | cons line rest ih =>
    obtain ⟨hone, hseen⟩ := @processRow_spec casing rawHeaders delimiter v line
    have hrest := ih (processRow casing rawHeaders delimiter v line)
    rw [List.foldl_cons]
    refine ⟨?_, ?_, ?_, ?_, ?_⟩
    · rw [hrest.recipients, hone.recipients, hseen, takenRows_cons v.seen line rest, List.map_append, List.append_assoc]
    · rw [hrest.skipped, hone.skipped, hseen, skippedRows_cons v.seen line rest, List.map_append, List.append_assoc]
    · rw [hrest.valid, hone.valid, hseen, takenRows_cons v.seen line rest, List.length_append, Nat.add_assoc]
    · rw [hrest.refused, hone.refused, hseen, skippedRows_cons v.seen line rest, List.length_append, Nat.add_assoc]
    · rw [hrest.total, hone.total, show line :: rest = [line] ++ rest from rfl, List.filter_append, List.length_append]
      omega

/-! ## Taken and skipped -/

theorem skippedRows_sublist (seen : List String) (lines : List (List String × Nat)) :
    (skippedRows casing rawHeaders seen lines).Sublist (lines.filter fun line => !blankRow line.1) := by
  induction lines generalizing seen with
  | nil => exact List.Sublist.refl _
  | cons first rest ih =>
    have hrest := ih (seenAfter casing rawHeaders seen first.1)
    rw [skippedRows, List.filter_cons]
    by_cases hblank : blankRow first.1 = true
    · rw [if_neg (by simp [hblank]), if_neg (by simp [hblank])]
      exact hrest
    · have hblank' : (!blankRow first.1) = true := by simp [hblank]
      rw [if_pos hblank']
      split
      · exact hrest.cons_cons first
      · exact hrest.cons first

theorem mem_skippedRows {seen : List String} {lines : List (List String × Nat)} {line : List String × Nat}
    (h : line ∈ skippedRows casing rawHeaders seen lines) : line ∈ lines :=
  List.mem_of_mem_filter ((skippedRows_sublist seen lines).subset h)

theorem takenRows_eq_filter (seen : List String) {lines : List (List String × Nat)} (hlines : (lines.map (·.2)).Nodup) :
    (lines.filter fun line => !blankRow line.1).filter
        (fun line => line.2 ∉ (skippedRows casing rawHeaders seen lines).map (·.2)) =
      takenRows casing rawHeaders seen lines := by
  induction lines generalizing seen with
  | nil => rfl
  | cons first rest ih =>
    obtain ⟨hfirst, hnodup⟩ := List.nodup_cons.mp hlines
    have hrest := ih (seenAfter casing rawHeaders seen first.1) hnodup
    have hother : ∀ line ∈ rest, line.2 ≠ first.2 := by
      intro line hline heq
      have hmem : line.2 ∈ rest.map (·.2) := List.mem_map_of_mem hline
      rw [heq] at hmem
      exact hfirst hmem
    have hnew : first.2 ∉ (skippedRows casing rawHeaders (seenAfter casing rawHeaders seen first.1) rest).map (·.2) := by
      intro hmem
      obtain ⟨line, hline, heq⟩ := List.mem_map.mp hmem
      exact hother line (mem_skippedRows hline) heq
    rw [takenRows, skippedRows, List.filter_cons]
    by_cases hblank : blankRow first.1 = true
    · have htaken : isTaken casing rawHeaders seen first.1 = false := by simp [isTaken, hblank]
      simp only [hblank, Bool.not_true, Bool.false_and, Bool.false_eq_true, if_false, htaken]
      exact hrest
    · have hblank' : blankRow first.1 = false := Bool.eq_false_iff.mpr hblank
      by_cases htaken : isTaken casing rawHeaders seen first.1 = true
      · simp only [hblank', htaken, Bool.not_false, Bool.not_true, Bool.and_false, Bool.false_eq_true, if_false, if_true]
        rw [List.filter_cons_of_pos (by simpa using hnew), hrest]
      · have htaken' : isTaken casing rawHeaders seen first.1 = false := Bool.eq_false_iff.mpr htaken
        simp only [hblank', htaken', Bool.not_false, Bool.and_self, if_true, Bool.false_eq_true, if_false]
        rw [List.filter_cons_of_neg (by simp), ← hrest]
        refine List.filter_congr fun line hline => ?_
        have hne := hother line (List.mem_of_mem_filter hline)
        simp [hne]

theorem length_takenRows (seen : List String) (lines : List (List String × Nat)) :
    (takenRows casing rawHeaders seen lines).length + (skippedRows casing rawHeaders seen lines).length +
      (lines.filter fun line => blankRow line.1).length = lines.length := by
  induction lines generalizing seen with
  | nil => rfl
  | cons first rest ih =>
    have hrest := ih (seenAfter casing rawHeaders seen first.1)
    rw [takenRows, skippedRows, List.filter_cons, List.length_cons]
    by_cases hblank : blankRow first.1 = true
    · have htaken : isTaken casing rawHeaders seen first.1 = false := by simp [isTaken, hblank]
      simp only [hblank, htaken, Bool.not_true, Bool.false_and, Bool.false_eq_true, if_false, if_true, List.length_cons]
      omega
    · have hblank' : blankRow first.1 = false := Bool.eq_false_iff.mpr hblank
      by_cases htaken : isTaken casing rawHeaders seen first.1 = true
      · simp only [hblank', htaken, Bool.not_false, Bool.not_true, Bool.and_false, Bool.false_eq_true, if_false, if_true,
          List.length_cons]
        omega
      · have htaken' : isTaken casing rawHeaders seen first.1 = false := Bool.eq_false_iff.mpr htaken
        simp only [hblank', htaken', Bool.not_false, Bool.and_self, Bool.false_eq_true, if_false, if_true, List.length_cons]
        omega

theorem mem_takenRows {seen : List String} {lines : List (List String × Nat)} {line : List String × Nat} :
    line ∈ takenRows casing rawHeaders seen lines ↔ ∃ before after_, lines = before ++ line :: after_ ∧
      blankRow line.1 = false ∧ (phoneOf casing rawHeaders line.1).2 = true ∧
      (phoneOf casing rawHeaders line.1).1 ∉ seen ∧
      ∀ other ∈ before, blankRow other.1 = false → (phoneOf casing rawHeaders other.1).2 = true →
        (phoneOf casing rawHeaders other.1).1 ≠ (phoneOf casing rawHeaders line.1).1 := by
  induction lines generalizing seen with
  | nil => simp [takenRows]
  | cons first rest ih =>
    have hcons : line ∈ takenRows casing rawHeaders seen (first :: rest) ↔
        isTaken casing rawHeaders seen first.1 = true ∧ line = first ∨
          line ∈ takenRows casing rawHeaders (seenAfter casing rawHeaders seen first.1) rest := by
      rw [takenRows]
      split
      · rename_i htaken
        simp [htaken]
      · rename_i htaken
        simp [htaken]
    rw [hcons, ih]
    constructor
    · rintro (⟨htaken, rfl⟩ | ⟨before, after_, rfl, hblank, hvalid, hseen, hbefore⟩)
      · simp only [isTaken, Bool.and_eq_true, Bool.not_eq_true', List.contains_eq_mem, decide_eq_false_iff_not] at htaken
        exact ⟨[], rest, rfl, htaken.1.1, htaken.1.2, htaken.2, fun _ h => nomatch h⟩
      · refine ⟨first :: before, after_, rfl, hblank, hvalid, ?_, ?_⟩
        · unfold seenAfter at hseen
          split at hseen
          · exact fun h => hseen (List.mem_cons_of_mem _ h)
          · exact hseen
        · intro other hother hb hv heq
          rcases List.mem_cons.mp hother with rfl | hother
          · unfold seenAfter at hseen
            split at hseen
            · exact hseen (heq ▸ List.mem_cons_self)
            · rename_i htaken
              rw [← heq] at hseen
              exact htaken (by simp [isTaken, hb, hv, hseen])
          · exact hbefore other hother hb hv heq
    · rintro ⟨before, after_, heq, hblank, hvalid, hseen, hbefore⟩
      cases before with
      | nil =>
        obtain ⟨rfl, rfl⟩ := List.cons.inj heq
        left
        exact ⟨by simp [isTaken, hblank, hvalid, hseen], rfl⟩
      | cons head before =>
        obtain ⟨rfl, rfl⟩ := List.cons.inj heq
        right
        refine ⟨before, after_, rfl, hblank, hvalid, ?_, fun other hother => hbefore other (List.mem_cons_of_mem _ hother)⟩
        unfold seenAfter
        split
        · rename_i htaken
          simp only [isTaken, Bool.and_eq_true, Bool.not_eq_true'] at htaken
          have hne := hbefore first List.mem_cons_self htaken.1.1 htaken.1.2
          simp [hseen, Ne.symm hne]
        · exact hseen

theorem takenRows_sublist (seen : List String) (lines : List (List String × Nat)) :
    (takenRows casing rawHeaders seen lines).Sublist lines := by
  induction lines generalizing seen with
  | nil => exact List.Sublist.refl _
  | cons first rest ih =>
    rw [takenRows]
    split
    · exact (ih _).cons_cons first
    · exact (ih _).cons first

theorem takenRows_phones (seen : List String) (lines : List (List String × Nat)) :
    ((takenRows casing rawHeaders seen lines).map fun line => (phoneOf casing rawHeaders line.1).1).Nodup := by
  induction lines generalizing seen with
  | nil => exact List.nodup_nil
  | cons first rest ih =>
    rw [takenRows]
    split
    · rename_i htaken
      refine List.nodup_cons.mpr ⟨?_, ih _⟩
      intro hmem
      obtain ⟨line, hline, heq⟩ := List.mem_map.mp hmem
      obtain ⟨-, -, -, -, -, hseen, -⟩ := mem_takenRows.mp hline
      rw [seenAfter, if_pos htaken, heq] at hseen
      exact hseen List.mem_cons_self
    · exact ih _

end PerGo.L3.Campaign
