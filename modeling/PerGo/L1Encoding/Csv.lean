import PerGo.L1Encoding.GoString

/-!
# `encoding/csv`

The reader as a machine that takes one character at a time, after `\r\n` has become `\n`: `LazyQuotes`,
`TrimLeadingSpace` and the two ways of counting fields that are used. The writer with its default options.

* `readAll_sameFields`: records that are read together have one number of fields, and at least one.
* `records_writeAll`: what is written is read back, when no field has a carriage return (the reader turns
  `\r\n` into `\n`, in quotes too).

Comments, and positions in errors, are left out.
-/
namespace PerGo.L1.Csv

/-! ## The reader -/

structure Reader where
  comma : Char
  lazyQuotes : Bool
  trimLeadingSpace : Bool
  /-- `FieldsPerRecord` is 0, and not -1 -/
  sameFields : Bool

inductive Error
  | bareQuote
  | quote
  | fieldCount
deriving DecidableEq

def Error.text : Error → String
  | .bareQuote => "bare \" in non-quoted field"
  | .quote => "extraneous or missing \" in quoted-field"
  | .fieldCount => "wrong number of fields"

/-- Where the reader is: at the start of a line or of a field, in a field, behind a quote in a quoted field, or
in the rest of a line with an error. -/
inductive Mode
  | line
  | field
  | plain
  | quoted
  | closed
  | skip
deriving DecidableEq

structure State where
  mode : Mode
  field : List Char
  record : List String

abbrev Record := Except Error (List String)

def State.start : State := ⟨.line, [], []⟩

def State.fields (s : State) : List String := s.record ++ [String.ofList s.field]

def State.next (s : State) : State := ⟨.field, [], s.fields⟩

def State.add (s : State) (mode : Mode) (cs : List Char) : State := ⟨mode, s.field ++ cs, s.record⟩

section Reader

variable (r : Reader)

def startField (s : State) (c : Char) : State :=
  if r.trimLeadingSpace && isSpace c then s.add .field []
  else if c = '"' then s.add .quoted []
  else if c = r.comma then s.next
  else s.add .plain [c]

def step (s : State) (c : Char) : State × List Record :=
  match s.mode with
  | .line => if c = '\n' then (s, []) else (startField r s c, [])
  | .field => if c = '\n' then (.start, [.ok s.fields]) else (startField r s c, [])
  | .plain =>
    if c = '\n' then (.start, [.ok s.fields])
    else if c = r.comma then (s.next, [])
    else if c = '"' && !r.lazyQuotes then (⟨.skip, [], []⟩, [.error .bareQuote])
    else (s.add .plain [c], [])
  | .quoted => if c = '"' then (s.add .closed [], []) else (s.add .quoted [c], [])
  | .closed =>
    if c = '"' then (s.add .quoted ['"'], [])
    else if c = r.comma then (s.next, [])
    else if c = '\n' then (.start, [.ok s.fields])
    else if r.lazyQuotes then (s.add .quoted ['"', c], [])
    else (⟨.skip, [], []⟩, [.error .quote])
  | .skip => if c = '\n' then (.start, []) else (s, [])

def finish (s : State) : List Record :=
  match s.mode with
  | .line | .skip => []
  | .quoted => [if r.lazyQuotes then .ok s.fields else .error .quote]
  | .field | .plain | .closed => [.ok s.fields]

def parse (s : State) : List Char → List Record
  | [] => finish r s
  | c :: rest => (step r s c).2 ++ parse (step r s c).1 rest

/-- `readLine`: a carriage return is dropped before a line feed and at the end of the file. -/
def normalize : List Char → List Char
  | [] => []
  | c :: rest =>
    if c = '\r' ∧ (rest = [] ∨ rest.head? = some '\n') then normalize rest else c :: normalize rest

def checkCounts : Option Nat → List Record → List Record
  | _, [] => []
  | n, .error e :: rest => .error e :: checkCounts n rest
  | none, .ok fields :: rest => .ok fields :: checkCounts (some fields.length) rest
  | some n, .ok fields :: rest =>
    (if fields.length = n then .ok fields else .error .fieldCount) :: checkCounts (some n) rest

/-- What `Read` returns, call after call. -/
def records (text : List Char) : List Record :=
  let all := parse r .start (normalize text)
  if r.sameFields then checkCounts none all else all

def collect : List Record → Except Error (List (List String))
  | [] => .ok []
  | .error e :: _ => .error e
  | .ok fields :: rest => (collect rest).map (fields :: ·)

/-- `ReadAll`. -/
def readAll (text : List Char) : Except Error (List (List String)) := collect (records r text)

end Reader

/-! ## The writer -/

section Writer

variable (comma : Char)

def fieldNeedsQuotes (field : String) : Bool :=
  field ≠ "" && (field = "\\." || field.toList.any (fun c => c = '\n' || c = '\r' || c = '"' || c = comma) ||
    field.toList.head?.any isSpace)

def doubled (cs : List Char) : List Char := cs.flatMap fun c => if c = '"' then ['"', '"'] else [c]

def writeField (field : String) : List Char :=
  if fieldNeedsQuotes comma field then '"' :: (doubled field.toList ++ ['"']) else field.toList

def writeFields : List String → List Char
  | [] => []
  | [field] => writeField comma field
  | field :: rest => writeField comma field ++ comma :: writeFields rest

def writeRecord (fields : List String) : List Char := writeFields comma fields ++ ['\n']

def writeAll (rows : List (List String)) : List Char := rows.flatMap (writeRecord comma)

end Writer

theorem writeFields_cons_cons (comma : Char) (field field' : String) (rest : List String) :
    writeFields comma (field :: field' :: rest) = writeField comma field ++ comma :: writeFields comma (field' :: rest) :=
  rfl

variable {r : Reader}

/-! ## Numbers of fields -/

theorem collect_eq_ok {all : List Record} {rows : List (List String)} (h : collect all = .ok rows) :
    all = rows.map .ok := by
  induction all generalizing rows with
  | nil =>
    cases h
    rfl
  | cons first rest ih =>
    cases first with
    | error e => cases h
    | ok fields =>
      rw [collect] at h
      cases hrest : collect rest with
      | error e =>
        rw [hrest] at h
        cases h
      | ok rows' =>
        rw [hrest] at h
        cases h
        rw [List.map_cons, ih hrest]

theorem checkCounts_some {n : Nat} {all : List Record} {rows : List (List String)}
    (h : checkCounts (some n) all = rows.map .ok) : ∀ fields ∈ rows, fields.length = n := by
  induction all generalizing rows with
  | nil =>
    have hnone : rows = [] := List.map_eq_nil_iff.mp h.symm
    rw [hnone]
    exact fun _ hmem => nomatch hmem
  | cons first rest ih =>
    cases rows with
    | nil => cases first <;> exact nomatch h
    | cons row rows =>
      cases first with
      | error e =>
        rw [checkCounts, List.map_cons] at h
        cases (List.cons.inj h).1
      | ok fields =>
        rw [checkCounts, List.map_cons] at h
        obtain ⟨hfirst, hrest⟩ := List.cons.inj h
        split at hfirst
        · rename_i hlength
          cases hfirst
          intro fields' hmem
          rcases List.mem_cons.mp hmem with rfl | hmem
          · exact hlength
          · exact ih hrest fields' hmem
        · cases hfirst

theorem checkCounts_none {all : List Record} {first : List String} {rows : List (List String)}
    (h : checkCounts none all = (first :: rows).map .ok) : ∀ fields ∈ rows, fields.length = first.length := by
  cases all with
  | nil => cases h
  | cons head rest =>
    cases head with
    | error e =>
      rw [checkCounts, List.map_cons] at h
      cases (List.cons.inj h).1
    | ok fields =>
      rw [checkCounts, List.map_cons] at h
      obtain ⟨hfirst, hrest⟩ := List.cons.inj h
      cases hfirst
      exact checkCounts_some hrest

theorem readAll_sameFields (hsame : r.sameFields = true) {text : List Char} {first : List String}
    {rows : List (List String)} (h : readAll r text = .ok (first :: rows)) : ∀ fields ∈ rows, fields.length = first.length := by
  have hall := collect_eq_ok h
  unfold records at hall
  dsimp only at hall
  rw [if_pos hsame] at hall
  exact checkCounts_none hall

/-! ## What is written is read back -/

/-- The state after the text, and the records that were completed. -/
def run (r : Reader) (s : State) : List Char → State × List Record
  | [] => (s, [])
  | c :: rest => ((run r (step r s c).1 rest).1, (step r s c).2 ++ (run r (step r s c).1 rest).2)

theorem parse_append (r : Reader) (s : State) (a b : List Char) :
    parse r s (a ++ b) = (run r s a).2 ++ parse r (run r s a).1 b := by
  induction a generalizing s with
  | nil => rfl
  | cons c a ih => rw [List.cons_append, parse, ih, run, List.append_assoc]

theorem run_append (r : Reader) (s : State) (a b : List Char) :
    run r s (a ++ b) = ((run r (run r s a).1 b).1, (run r s a).2 ++ (run r (run r s a).1 b).2) := by
  induction a generalizing s with
  | nil => rfl
  | cons c a ih => rw [List.cons_append, run, ih, run, List.append_assoc]

theorem normalize_of_not_mem {text : List Char} (h : '\r' ∉ text) : normalize text = text := by
  induction text with
  | nil => rfl
  | cons c rest ih =>
    rw [List.mem_cons, not_or] at h
    rw [normalize, if_neg fun hc => h.1 hc.1.symm, ih h.2]

/-- A character that ends neither a field nor a quotation. -/
def Inner (comma c : Char) : Prop := c ≠ '\n' ∧ c ≠ '"' ∧ c ≠ comma

theorem run_plain {record : List String} {pre cs : List Char} (h : ∀ c ∈ cs, Inner r.comma c) :
    run r ⟨.plain, pre, record⟩ cs = (⟨.plain, pre ++ cs, record⟩, []) := by
  induction cs generalizing pre with
  | nil => rw [List.append_nil, run]
  | cons c cs ih =>
    obtain ⟨hline, hquote, hcomma⟩ := h c List.mem_cons_self
    have hstep : step r ⟨.plain, pre, record⟩ c = (⟨.plain, pre ++ [c], record⟩, []) := by
      simp [step, State.add, hline, hquote, hcomma]
    rw [run, hstep]
    dsimp only
    rw [ih fun c' hc' => h c' (List.mem_cons_of_mem c hc'), List.append_assoc]
    rfl

theorem run_quoted {record : List String} (pre cs : List Char) :
    run r ⟨.quoted, pre, record⟩ (doubled cs) = (⟨.quoted, pre ++ cs, record⟩, []) := by
  induction cs generalizing pre with
  | nil => rw [List.append_nil, doubled, List.flatMap_nil, run]
  | cons c cs ih =>
    rw [doubled, List.flatMap_cons, run_append]
    have hchar : run r ⟨.quoted, pre, record⟩ (if c = '"' then ['"', '"'] else [c]) =
        (⟨.quoted, pre ++ [c], record⟩, []) := by
      split
      · rename_i hc
        simp [run, step, State.add, hc]
      · rename_i hc
        simp [run, step, State.add, hc]
    rw [hchar]
    dsimp only
    rw [show List.flatMap _ cs = doubled cs from rfl, ih, List.append_assoc]
    rfl

/-- The start of a field. -/
def Fresh (s : State) : Prop := (s.mode = .line ∨ s.mode = .field) ∧ s.field = []

/-- The field has been read, and its end comes. -/
def Full (s : State) (field : String) (s' : State) : Prop :=
  s'.fields = s.record ++ [field] ∧ (s'.mode = .field ∨ s'.mode = .plain ∨ s'.mode = .closed ∨ s' = s ∧ field = "")

theorem step_fresh {s : State} {c : Char} (h : Fresh s) (hline : c ≠ '\n') : step r s c = (startField r s c, []) := by
  unfold step
  rcases h.1 with hmode | hmode <;> rw [hmode] <;> exact if_neg hline

theorem run_writeField {s : State} (h : Fresh s) (field : String) :
    (run r s (writeField r.comma field)).2 = [] ∧ Full s field (run r s (writeField r.comma field)).1 := by
  obtain ⟨mode, cs, record⟩ := s
  obtain rfl : cs = [] := h.2
  unfold writeField
  by_cases hquotes : fieldNeedsQuotes r.comma field = true
  · -- in quotes
    have hspace : isSpace '"' = false := by decide
    have hopen : step r ⟨mode, [], record⟩ '"' = (⟨.quoted, [], record⟩, []) := by
      rw [step_fresh h (by decide)]
      simp [startField, State.add, hspace]
    rw [if_pos hquotes, run, hopen, run_append, run_quoted]
    dsimp only
    refine ⟨rfl, ?_, Or.inr (Or.inr (Or.inl rfl))⟩
    simp [run, step, State.add, State.fields]
  · rw [if_neg hquotes]
    have hinner : ∀ c ∈ field.toList, Inner r.comma c := by
      intro c hc
      have hne : field ≠ "" := by
        rintro rfl
        cases hc
      simp only [fieldNeedsQuotes, Bool.and_eq_true, Bool.or_eq_true, decide_eq_true_eq, List.any_eq_true, not_and,
        not_or, not_exists] at hquotes
      have hchar := (hquotes hne).1.2 c hc
      exact ⟨hchar.1.1.1, hchar.1.2, hchar.2⟩
    cases hfield : field.toList with
    | nil =>
      have hempty : field = "" := String.toList_inj.mp hfield
      refine ⟨rfl, ?_, ?_⟩
      · rw [hempty]
        rfl
      · exact Or.inr (Or.inr (Or.inr ⟨rfl, hempty⟩))
    | cons c rest =>
      rw [hfield] at hinner
      obtain ⟨hline, hquote, hcomma⟩ := hinner c List.mem_cons_self
      have hspace : isSpace c = false := by
        have hne : field ≠ "" := by
          rintro rfl
          cases hfield
        simp only [fieldNeedsQuotes, Bool.and_eq_true, Bool.or_eq_true, decide_eq_true_eq, not_and, not_or] at hquotes
        have hhead := (hquotes hne).2
        rw [hfield, List.head?_cons, Option.any_some] at hhead
        exact Bool.eq_false_iff.mpr hhead
      have hfirst : step r ⟨mode, [], record⟩ c = (⟨.plain, [c], record⟩, []) := by
        rw [step_fresh h hline]
        simp [startField, State.add, hspace, hquote, hcomma]
      rw [run, hfirst, run_plain fun c' hc' => hinner c' (List.mem_cons_of_mem c hc')]
      refine ⟨rfl, ?_, Or.inr (Or.inl rfl)⟩
      show record ++ [String.ofList (c :: rest)] = record ++ [field]
      rw [← hfield, String.ofList_toList]

theorem step_comma {s s' : State} {field : String} (hs : Fresh s) (h : Full s field s') (hcomma : r.comma ≠ '\n')
    (hquote : r.comma ≠ '"') (hspace : isSpace r.comma = false) :
    step r s' r.comma = (⟨.field, [], s.record ++ [field]⟩, []) := by
  have hfields := h.1
  have hstart : ∀ t : State, t.fields = s.record ++ [field] → startField r t r.comma = ⟨.field, [], s.record ++ [field]⟩ := by
    intro t ht
    simp [startField, hspace, hquote, State.next, ht]
  unfold step
  rcases h.2 with hmode | hmode | hmode | ⟨rfl, -⟩
  · rw [hmode]
    dsimp only
    rw [if_neg hcomma, hstart s' hfields]
  · rw [hmode]
    dsimp only
    rw [if_neg hcomma, if_pos rfl, State.next, hfields]
  · rw [hmode]
    dsimp only
    rw [if_neg hquote, if_pos rfl, State.next, hfields]
  · rcases hs.1 with hmode | hmode <;> rw [hmode] <;> dsimp only <;> rw [if_neg hcomma, hstart s' hfields]

theorem step_line {s s' : State} {field : String} (hs : Fresh s) (h : Full s field s') (hcomma : r.comma ≠ '\n')
    (hblank : s.mode = .line → field ≠ "") : step r s' '\n' = (.start, [.ok (s.record ++ [field])]) := by
  have hfields := h.1
  unfold step
  rcases h.2 with hmode | hmode | hmode | ⟨rfl, hempty⟩
  · rw [hmode]
    dsimp only
    rw [if_pos rfl, hfields]
  · rw [hmode]
    dsimp only
    rw [if_pos rfl, hfields]
  · rw [hmode]
    dsimp only
    rw [if_neg (by decide), if_neg (Ne.symm hcomma), if_pos rfl, hfields]
  · rcases hs.1 with hmode | hmode
    · exact absurd hempty (hblank hmode)
    · rw [hmode]
      dsimp only
      rw [if_pos rfl, hfields]

structure Delimits (comma : Char) : Prop where
  line : comma ≠ '\n'
  quote : comma ≠ '"'
  space : isSpace comma = false

theorem run_writeRecord (hd : Delimits r.comma) {s : State} (h : Fresh s) {fields : List String} (hne : fields ≠ [])
    (hblank : s.mode = .line → fields ≠ [""]) :
    run r s (writeRecord r.comma fields) = (.start, [.ok (s.record ++ fields)]) := by
  induction fields generalizing s with
  | nil => exact absurd rfl hne
  | cons field rest ih =>
    obtain ⟨hnone, hfull⟩ := run_writeField (r := r) h field
    cases rest with
    | nil =>
      rw [writeRecord, writeFields, run_append, hnone, run]
      have hline := step_line h hfull hd.line fun hmode hempty => hblank hmode (by rw [hempty])
      rw [hline]
      rfl
    | cons field' rest =>
      have hnext : Fresh ⟨.field, [], s.record ++ [field]⟩ := ⟨Or.inr rfl, rfl⟩
      have hrest := ih hnext (List.cons_ne_nil _ _) fun hmode => nomatch hmode
      rw [writeRecord, writeFields_cons_cons, List.append_assoc, run_append, hnone, List.cons_append, run,
        step_comma h hfull hd.line hd.quote hd.space]
      dsimp only
      rw [show writeFields r.comma (field' :: rest) ++ ['\n'] = writeRecord r.comma (field' :: rest) from rfl, hrest]
      simp

theorem parse_writeAll (hd : Delimits r.comma) {rows : List (List String)} (h : ∀ fields ∈ rows, fields ≠ [] ∧ fields ≠ [""]) :
    parse r .start (writeAll r.comma rows) = rows.map .ok := by
  induction rows with
  | nil => rfl
  | cons fields rows ih =>
    obtain ⟨hne, hblank⟩ := h fields List.mem_cons_self
    rw [writeAll, List.flatMap_cons, parse_append,
      run_writeRecord (s := .start) hd ⟨Or.inl rfl, rfl⟩ hne fun _ => hblank]
    dsimp only
    rw [show List.flatMap (writeRecord r.comma) rows = writeAll r.comma rows from rfl,
      ih fun row hrow => h row (List.mem_cons_of_mem _ hrow)]
    rfl

theorem mem_writeField {comma c : Char} {field : String} (h : c ∈ writeField comma field) : c = '"' ∨ c ∈ field.toList := by
  unfold writeField at h
  split at h
  · simp only [doubled, List.mem_cons, List.mem_append, List.mem_flatMap, List.not_mem_nil, or_false] at h
    rcases h with h | ⟨c', hc', h⟩ | h
    · exact Or.inl h
    · split at h
      · left
        simpa using h
      · right
        rwa [List.mem_singleton.mp h]
    · exact Or.inl h
  · exact Or.inr h

theorem not_mem_writeAll {comma : Char} (hcomma : comma ≠ '\r') {rows : List (List String)}
    (h : ∀ fields ∈ rows, ∀ field ∈ fields, '\r' ∉ field.toList) : '\r' ∉ writeAll comma rows := by
  intro hmem
  obtain ⟨fields, hfields, hmem⟩ := List.mem_flatMap.mp hmem
  have hall := h fields hfields
  clear h hfields
  rw [writeRecord, List.mem_append] at hmem
  rcases hmem with hmem | hmem
  · induction fields with
    | nil => cases hmem
    | cons field rest ih =>
      have hfield : '\r' ∉ writeField comma field := by
        intro hin
        rcases mem_writeField hin with heq | hin
        · exact absurd heq (by decide)
        · exact hall field List.mem_cons_self hin
      cases rest with
      | nil => exact hfield hmem
      | cons field' rest =>
        rw [writeFields_cons_cons, List.mem_append, List.mem_cons] at hmem
        rcases hmem with hmem | heq | hmem
        · exact hfield hmem
        · exact hcomma heq.symm
        · exact ih (fun f hf => hall f (List.mem_cons_of_mem _ hf)) hmem
  · exact absurd hmem (by decide)

theorem records_writeAll (hd : Delimits r.comma) (hcomma : r.comma ≠ '\r') (hany : r.sameFields = false)
    {rows : List (List String)} (h : ∀ fields ∈ rows, fields ≠ [] ∧ fields ≠ [""])
    (hreturn : ∀ fields ∈ rows, ∀ field ∈ fields, '\r' ∉ field.toList) :
    records r (writeAll r.comma rows) = rows.map .ok := by
  unfold records
  dsimp only
  rw [if_neg (by rw [hany]; decide), normalize_of_not_mem (not_mem_writeAll hcomma hreturn), parse_writeAll hd h]

/-! ## Two delimiters

With lazy quotes there are no errors, and a reader with another delimiter goes through the same states up to
the first delimiter that stands outside quotes. -/

structure Lazy (r : Reader) : Prop where
  lazyQuotes : r.lazyQuotes = true
  untrimmed : r.trimLeadingSpace = false
  line : r.comma ≠ '\n'
  quote : r.comma ≠ '"'

inductive Steps (r : Reader) (s : State) (c : Char) : Prop
  | ends (line : c = '\n') (out : step r s c = (.start, [.ok s.fields]))
  | next (comma : c = r.comma ∧ s.mode ≠ .quoted) (out : step r s c = (s.next, []))
  | add (mode : Mode) (cs : List Char) (begun : mode ≠ .line ∧ mode ≠ .skip) (out : step r s c = (s.add mode cs, []))

theorem step_cases (hr : Lazy r) {s : State} (hmode : s.mode ≠ .skip) (c : Char) (hblank : s.mode = .line → c ≠ '\n') :
    Steps r s c := by
  have hstart : s.mode = .line ∨ s.mode = .field → c ≠ '\n' → step r s c = (startField r s c, []) := by
    intro hfresh hline
    unfold step
    rcases hfresh with h | h <;> rw [h] <;> exact if_neg hline
  have hfield : step r s c = (startField r s c, []) → s.mode ≠ .quoted → Steps r s c := by
    intro h hunquoted
    by_cases hquote : c = '"'
    · exact .add .quoted [] ⟨by decide, by decide⟩ (by rw [h]; simp [startField, hr.untrimmed, hquote])
    · by_cases hcomma : c = r.comma
      · refine .next ⟨hcomma, hunquoted⟩ ?_
        rw [h]
        simp [startField, hr.untrimmed, hcomma, hr.quote]
      · exact .add .plain [c] ⟨by decide, by decide⟩ (by rw [h]; simp [startField, hr.untrimmed, hquote, hcomma])
  cases hm : s.mode with
  | line => exact hfield (hstart (Or.inl hm) (hblank hm)) (by simp [hm])
  | field =>
    by_cases hline : c = '\n'
    · exact .ends hline (by simp [step, hm, hline])
    · exact hfield (hstart (Or.inr hm) hline) (by simp [hm])
  | plain =>
    by_cases hline : c = '\n'
    · exact .ends hline (by simp [step, hm, hline])
    · by_cases hcomma : c = r.comma
      · exact .next ⟨hcomma, by simp [hm]⟩ (by simp [step, hm, hcomma, hr.line])
      · exact .add .plain [c] ⟨by decide, by decide⟩ (by simp [step, hm, hline, hcomma, hr.lazyQuotes])
  | quoted =>
    by_cases hquote : c = '"'
    · exact .add .closed [] ⟨by decide, by decide⟩ (by simp [step, hm, hquote])
    · exact .add .quoted [c] ⟨by decide, by decide⟩ (by simp [step, hm, hquote])
  | closed =>
    by_cases hquote : c = '"'
    · exact .add .quoted ['"'] ⟨by decide, by decide⟩ (by simp [step, hm, hquote])
    · by_cases hcomma : c = r.comma
      · exact .next ⟨hcomma, by simp [hm]⟩ (by simp [step, hm, hcomma, hr.quote])
      · by_cases hline : c = '\n'
        · exact .ends hline (by simp [step, hm, hline, Ne.symm hr.line])
        · exact .add .quoted ['"', c] ⟨by decide, by decide⟩ (by simp [step, hm, hquote, hcomma, hline, hr.lazyQuotes])
  | skip => exact absurd hm hmode

def Extends (s : State) (fields : List String) : Prop :=
  s.record <+: fields ∧ ∃ f, fields[s.record.length]? = some f ∧ s.field <+: f.toList

theorem extends_fields (s : State) : Extends s s.fields := by
  refine ⟨List.prefix_append _ _, String.ofList s.field, by simp [State.fields], ?_⟩
  exact String.toList_ofList.symm ▸ List.prefix_rfl

theorem Extends.of_add {s : State} {mode : Mode} {cs : List Char} {fields : List String}
    (h : Extends (s.add mode cs) fields) : Extends s fields := by
  obtain ⟨hpre, f, hget, hfield⟩ := h
  exact ⟨hpre, f, hget, (List.prefix_append _ _).trans hfield⟩

theorem Extends.of_next {s : State} {fields : List String} (h : Extends s.next fields) :
    s.record <+: fields ∧ fields[s.record.length]? = some (String.ofList s.field) := by
  obtain ⟨t, rfl⟩ := h.1
  have hlt : s.record.length < s.next.record.length := by simp [State.next, State.fields]
  refine ⟨⟨[String.ofList s.field] ++ t, by simp [State.next, State.fields]⟩, ?_⟩
  rw [List.getElem?_append_left hlt]
  simp [State.next, State.fields]

theorem parse_begun (hr : Lazy r) {s : State} (hmode : s.mode ≠ .line ∧ s.mode ≠ .skip) (text : List Char) :
    ∃ fields rest, parse r s text = .ok fields :: rest ∧ Extends s fields := by
  induction text generalizing s with
  | nil =>
    have hfinish : parse r s [] = [.ok s.fields] := by
      rw [parse, finish]
      obtain ⟨hline, hskip⟩ := hmode
      cases hm : s.mode with
      | line => exact absurd hm hline
      | skip => exact absurd hm hskip
      | quoted => simp [hr.lazyQuotes]
      | field => rfl
      | plain => rfl
      | closed => rfl
    exact ⟨s.fields, [], hfinish, extends_fields s⟩
  | cons c text ih =>
    rw [parse]
    cases step_cases hr hmode.2 c fun h => absurd h hmode.1 with
    | ends _ hstep =>
      rw [hstep]
      exact ⟨s.fields, _, rfl, extends_fields s⟩
    | next _ hstep =>
      rw [hstep]
      obtain ⟨fields, rest, hparse, hext⟩ := ih (s := s.next) ⟨nofun, nofun⟩
      obtain ⟨hpre, hget⟩ := hext.of_next
      refine ⟨fields, rest, hparse, hpre, _, hget, ?_⟩
      exact String.toList_ofList.symm ▸ List.prefix_rfl
    | add mode cs hbegun hstep =>
      rw [hstep]
      obtain ⟨fields, rest, hparse, hext⟩ := ih (s := s.add mode cs) hbegun
      exact ⟨fields, rest, hparse, hext.of_add⟩

def Reader.withComma (r : Reader) (d : Char) : Reader := { r with comma := d }

theorem Lazy.withComma (hr : Lazy r) {d : Char} (hline : d ≠ '\n') (hquote : d ≠ '"') : Lazy (r.withComma d) :=
  ⟨hr.lazyQuotes, hr.untrimmed, hline, hquote⟩

theorem step_withComma {d : Char} {s : State} {c : Char} (h : s.mode = .quoted ∨ c ≠ r.comma ∧ c ≠ d) :
    step (r.withComma d) s c = step r s c := by
  rcases h with h | ⟨hcomma, hd⟩
  · unfold step
    rw [h]
  · have hstart : startField (r.withComma d) s c = startField r s c := by
      simp [startField, Reader.withComma, hcomma, hd]
    unfold step
    rw [hstart]
    cases s.mode with
    | line => rfl
    | field => rfl
    | quoted => rfl
    | skip => rfl
    | plain => simp [Reader.withComma, hcomma, hd]
    | closed =>
      show (if c = '"' then _ else if c = d then _ else _) = (if c = '"' then _ else if c = r.comma then _ else _)
      rw [if_neg hd, if_neg hcomma]
      rfl

/-- A delimiter outside quotes: one reader ends the field, the other goes on with it. -/
theorem step_comma_with (hr : Lazy r) {d : Char} (hd : r.comma ≠ d) {s : State} (hmode : s.mode ≠ .skip ∧ s.mode ≠ .quoted) :
    step r s r.comma = (s.next, []) ∧
      ∃ mode cs, cs ≠ [] ∧ (mode ≠ .line ∧ mode ≠ .skip) ∧ step (r.withComma d) s r.comma = (s.add mode cs, []) := by
  obtain ⟨hskip, hquoted⟩ := hmode
  have hnext : startField r s r.comma = s.next := by simp [startField, hr.untrimmed, hr.quote]
  have hadd : startField (r.withComma d) s r.comma = s.add .plain [r.comma] := by
    simp [startField, Reader.withComma, hr.untrimmed, hr.quote, hd]
  cases hm : s.mode with
  | line =>
    refine ⟨by simp [step, hm, hr.line, hnext], .plain, [r.comma], by simp, ⟨by decide, by decide⟩, ?_⟩
    simp [step, hm, hr.line, hadd]
  | field =>
    refine ⟨by simp [step, hm, hr.line, hnext], .plain, [r.comma], by simp, ⟨by decide, by decide⟩, ?_⟩
    simp [step, hm, hr.line, hadd]
  | plain =>
    refine ⟨by simp [step, hm, hr.line], .plain, [r.comma], by simp, ⟨by decide, by decide⟩, ?_⟩
    simp [step, hm, hr.line, Reader.withComma, hd, hr.lazyQuotes]
  | closed =>
    refine ⟨by simp [step, hm, hr.quote], .quoted, ['"', r.comma], by simp, ⟨by decide, by decide⟩, ?_⟩
    simp [step, hm, hr.line, hr.quote, Reader.withComma, hd, hr.lazyQuotes]
  | quoted => exact absurd hm hquoted
  | skip => exact absurd hm hskip

/-- At such a delimiter the readers come to different records, and the one that ends the field to two fields at
least. -/
theorem parse_comma_with (hr : Lazy r) {d : Char} (hd : r.comma ≠ d) (hr' : Lazy (r.withComma d)) {s : State}
    (hmode : s.mode ≠ .skip ∧ s.mode ≠ .quoted) (text : List Char) :
    ∃ fields rest fields' rest', parse r s (r.comma :: text) = .ok fields :: rest ∧
      parse (r.withComma d) s (r.comma :: text) = .ok fields' :: rest' ∧ fields ≠ fields' ∧ s.record.length + 2 ≤ fields.length := by
  obtain ⟨hnext, mode, cs, hcs, hbegun, hadd⟩ := step_comma_with hr hd hmode
  obtain ⟨fields, rest, hparse, hext⟩ := parse_begun hr (s := s.next) ⟨nofun, nofun⟩ text
  obtain ⟨fields', rest', hparse', hext'⟩ := parse_begun hr' (s := s.add mode cs) hbegun text
  refine ⟨fields, rest, fields', rest', ?_, ?_, ?_, ?_⟩
  · rw [parse, hnext]
    exact hparse
  · rw [parse, hadd]
    exact hparse'
  · rintro rfl
    obtain ⟨-, hget⟩ := hext.of_next
    obtain ⟨-, f, hget', hfield⟩ := hext'
    have heq : f = String.ofList s.field := Option.some.inj (hget'.symm.trans hget)
    rw [heq, String.toList_ofList] at hfield
    have hlength := hfield.length_le
    rw [State.add, List.length_append] at hlength
    exact hcs (List.length_eq_zero_iff.mp (by omega))
  · obtain ⟨-, f, hget, -⟩ := hext
    have hlt := (List.getElem?_eq_some_iff.mp hget).1
    simp only [State.next, State.fields, List.length_append, List.length_singleton] at hlt
    omega

theorem parse_delimiter_with (hr : Lazy r) {d : Char} (hd : r.comma ≠ d) (hr' : Lazy (r.withComma d)) {s : State} {c : Char}
    (hmode : s.mode ≠ .skip) (h : ¬ (s.mode = .quoted ∨ c ≠ r.comma ∧ c ≠ d)) (text : List Char) :
    ∃ fields rest fields' rest', parse r s (c :: text) = .ok fields :: rest ∧
      parse (r.withComma d) s (c :: text) = .ok fields' :: rest' ∧ fields ≠ fields' ∧
      (s.record.length + 2 ≤ fields.length ∨ s.record.length + 2 ≤ fields'.length) := by
  obtain ⟨hquoted, hchar⟩ := not_or.mp h
  by_cases hcomma : c = r.comma
  · obtain ⟨fields, rest, fields', rest', hparse, hparse', hne, hlength⟩ :=
      parse_comma_with hr hd hr' ⟨hmode, hquoted⟩ text
    rw [hcomma]
    exact ⟨fields, rest, fields', rest', hparse, hparse', hne, Or.inl hlength⟩
  · obtain rfl : c = d := by
      by_contra hother
      exact hchar ⟨hcomma, hother⟩
    have hback : (r.withComma c).withComma r.comma = r := rfl
    obtain ⟨fields, rest, fields', rest', hparse, hparse', hne, hlength⟩ :=
      parse_comma_with (r := r.withComma c) hr' hd.symm (hback ▸ hr) ⟨hmode, hquoted⟩ text
    rw [hback] at hparse'
    exact ⟨fields', rest', fields, rest, hparse', hparse, hne.symm, Or.inr hlength⟩

theorem length_of_same_head (hr : Lazy r) {d : Char} (hd : r.comma ≠ d) (hr' : Lazy (r.withComma d)) {s : State}
    (hmode : s.mode ≠ .skip) {text : List Char} {fields : List String} {rest rest' : List Record}
    (h : parse r s text = .ok fields :: rest) (h' : parse (r.withComma d) s text = .ok fields :: rest') :
    fields.length = s.record.length + 1 := by
  have hself : s.fields.length = s.record.length + 1 := by simp [State.fields]
  induction text generalizing s with
  | nil =>
    rw [parse, finish] at h
    cases hm : s.mode with
    | line =>
      rw [hm] at h
      cases h
    | skip => exact absurd hm hmode
    | quoted =>
      rw [hm] at h
      simp only [hr.lazyQuotes, if_true, List.cons.injEq, Except.ok.injEq] at h
      rw [← h.1, hself]
    | field =>
      rw [hm] at h
      cases h
      exact hself
    | plain =>
      rw [hm] at h
      cases h
      exact hself
    | closed =>
      rw [hm] at h
      cases h
      exact hself
  | cons c text ih =>
    by_cases hsame : s.mode = .quoted ∨ c ≠ r.comma ∧ c ≠ d
    · rw [parse] at h
      rw [parse, step_withComma hsame] at h'
      by_cases hblank : s.mode = .line ∧ c = '\n'
      · have hstay : step r s c = (s, []) := by simp [step, hblank.1, hblank.2]
        rw [hstay] at h h'
        exact ih hmode h h' hself
      · cases step_cases hr hmode c fun hm hc => hblank ⟨hm, hc⟩ with
        | ends _ hstep =>
          rw [hstep] at h
          cases (List.cons.inj h).1
          exact hself
        | next hcomma _ =>
          rcases hsame with hquoted | hother
          · exact absurd hquoted hcomma.2
          · exact absurd hcomma.1 hother.1
        | add mode cs hbegun hstep =>
          rw [hstep] at h h'
          exact ih (s := s.add mode cs) hbegun.2 h h' (by simp [State.fields])
    · obtain ⟨_, _, _, _, hparse, hparse', hne, -⟩ := parse_delimiter_with hr hd hr' hmode hsame text
      rw [h] at hparse
      rw [h'] at hparse'
      cases hparse
      cases hparse'
      exact absurd rfl hne

theorem parse_with_of_single (hr : Lazy r) {d : Char} (hd : r.comma ≠ d) (hr' : Lazy (r.withComma d)) {s : State}
    (hmode : s.mode ≠ .skip) (hrecord : s.record = []) {text : List Char}
    (h : ∀ fields, .ok fields ∈ parse r s text → fields.length = 1)
    (h' : ∀ fields, .ok fields ∈ parse (r.withComma d) s text → fields.length = 1) :
    parse (r.withComma d) s text = parse r s text := by
  induction text generalizing s with
  | nil => rfl
  | cons c text ih =>
    by_cases hsame : s.mode = .quoted ∨ c ≠ r.comma ∧ c ≠ d
    · rw [parse, step_withComma hsame] at h' ⊢
      rw [parse] at h ⊢
      have hrest : (step r s c).1.mode ≠ .skip ∧ (step r s c).1.record = [] := by
        by_cases hblank : s.mode = .line ∧ c = '\n'
        · have hstay : step r s c = (s, []) := by simp [step, hblank.1, hblank.2]
          rw [hstay]
          exact ⟨hmode, hrecord⟩
        · cases step_cases hr hmode c fun hm hc => hblank ⟨hm, hc⟩ with
          | ends _ hstep =>
            rw [hstep]
            exact ⟨nofun, rfl⟩
          | next hcomma _ =>
            rcases hsame with hquoted | hother
            · exact absurd hquoted hcomma.2
            · exact absurd hcomma.1 hother.1
          | add mode cs hbegun hstep =>
            rw [hstep]
            exact ⟨hbegun.2, hrecord⟩
      rw [ih hrest.1 hrest.2 (fun fields hmem => h fields (List.mem_append_right _ hmem))
        fun fields hmem => h' fields (List.mem_append_right _ hmem)]
    · obtain ⟨fields, _, fields', _, hparse, hparse', -, hlength⟩ := parse_delimiter_with hr hd hr' hmode hsame text
      have hone := h fields (by rw [hparse]; exact List.mem_cons_self)
      have hone' := h' fields' (by rw [hparse']; exact List.mem_cons_self)
      omega

/-! ## Reading all records -/

theorem checkCounts_eq_ok {n : Option Nat} {all : List Record} {rows : List (List String)}
    (h : checkCounts n all = rows.map .ok) : all = rows.map .ok := by
  induction all generalizing n rows with
  | nil =>
    rw [checkCounts] at h
    exact h
  | cons first rest ih =>
    cases rows with
    | nil => cases first <;> cases n <;> exact nomatch h
    | cons row rows =>
      cases first with
      | error e =>
        rw [checkCounts, List.map_cons] at h
        cases (List.cons.inj h).1
      | ok fields =>
        cases n with
        | none =>
          rw [checkCounts, List.map_cons] at h
          obtain ⟨hfirst, hrest⟩ := List.cons.inj h
          rw [List.map_cons, hfirst, ih hrest]
        | some n =>
          rw [checkCounts, List.map_cons] at h
          obtain ⟨hfirst, hrest⟩ := List.cons.inj h
          split at hfirst
          · rw [List.map_cons, hfirst, ih hrest]
          · cases hfirst

theorem parse_of_readAll {text : List Char} {rows : List (List String)} (h : readAll r text = .ok rows) :
    parse r .start (normalize text) = rows.map .ok := by
  have hall := collect_eq_ok h
  unfold records at hall
  dsimp only at hall
  split at hall
  · exact checkCounts_eq_ok hall
  · exact hall

end PerGo.L1.Csv
