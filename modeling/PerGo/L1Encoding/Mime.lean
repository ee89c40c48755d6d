import PerGo.Core.Fallible
import PerGo.L1Encoding.Bytes

/-!
# MIME messages

A reader of messages. The fields end at the first blank line, and folded lines are put together again; the blank
behind the colon of a field is not part of its value, every other character is. In a `multipart/alternative`
body a line that begins with the declared boundary is a delimiter (RFC 2046: the rest of the line does not
matter), and the line break in front of it belongs to it.

* `fields_oneLine`: the value of a field has no line break.
* `header_write`: fields that are written one by one are read back.
* `readParts_write`, `readParts_short`: parts that are written are read back when none has a line that begins with
  the delimiter; otherwise one comes back shorter.

Nested parts, comments and encoded words are left out.
-/
namespace PerGo.L1.Mime

abbrev Line := List UInt8

abbrev Field := List UInt8 × List UInt8

def lf : UInt8 := 10

def cr : UInt8 := 13

def crlf : List UInt8 := [cr, lf]

def colon : UInt8 := 58

def space : UInt8 := 32

def bytes (s : String) : List UInt8 := utf8 s.toList

/-! ## Lines -/

def lines (bs : List UInt8) : List Line := bs.splitOn lf

def join (ls : List Line) : List UInt8 := [lf].intercalate ls

/-- A line without the carriage return that ends it. -/
def chomp (l : Line) : Line := if l.getLast? = some cr then l.dropLast else l

theorem join_lines (bs : List UInt8) : join (lines bs) = bs := List.intercalate_splitOn lf

theorem lines_append (a b : List UInt8) : lines (a ++ lf :: b) = lines a ++ lines b :=
  List.splitOn_append_cons_self a b

theorem lines_of_not_mem {l : Line} (h : lf ∉ l) : lines l = [l] := List.splitOn_eq_singleton h

theorem not_mem_lines {bs : List UInt8} : ∀ l ∈ lines bs, lf ∉ l := by
  induction bs with
  | nil => simp [lines]
  | cons b bs ih =>
    unfold lines at ih ⊢
    rw [List.splitOn_cons_eq_if_modifyHead]
    split
    · intro l hl
      rcases List.mem_cons.mp hl with rfl | hl
      · simp
      · exact ih l hl
    · rename_i hb
      obtain ⟨first, rest, hsplit⟩ := List.exists_cons_of_ne_nil (List.splitOn_ne_nil lf bs)
      rw [hsplit] at ih ⊢
      intro l hl
      rw [List.modifyHead_cons] at hl
      rcases List.mem_cons.mp hl with rfl | hl
      · rw [List.mem_cons, not_or]
        exact ⟨fun hb' => hb (by rw [← hb']; exact beq_self_eq_true lf), ih first List.mem_cons_self⟩
      · exact ih l (List.mem_cons_of_mem _ hl)

theorem join_cons {l : Line} {ls : List Line} (h : ls ≠ []) : join (l :: ls) = l ++ lf :: join ls := by
  unfold join
  rw [List.intercalate_cons_of_ne_nil h]
  simp

theorem join_nil : join [] = [] := rfl

theorem join_singleton (l : Line) : join [l] = l := by simp [join]

theorem length_join_le (ls : List Line) (l : Line) (rest : List Line) :
    (join ls).length + l.length ≤ (join (ls ++ l :: rest)).length := by
  have hhead : l.length ≤ (join (l :: rest)).length := by
    cases rest with
    | nil => rw [join_singleton]
    | cons m rest =>
      rw [join_cons (List.cons_ne_nil m rest), List.length_append]
      omega
  induction ls with
  | nil =>
    rw [join_nil, List.nil_append, List.length_nil]
    omega
  | cons first ls ih =>
    have hne : ls ++ l :: rest ≠ [] := List.append_ne_nil_of_right_ne_nil ls (List.cons_ne_nil l rest)
    rw [List.cons_append, join_cons hne]
    cases ls with
    | nil =>
      rw [join_singleton, List.nil_append, List.length_append, List.length_cons]
      omega
    | cons m ls =>
      rw [join_cons (List.cons_ne_nil m ls)]
      simp only [List.length_append, List.length_cons] at ih ⊢
      omega

theorem chomp_concat (l : Line) : chomp (l ++ [cr]) = l := by
  unfold chomp
  rw [if_pos (List.getLast?_concat), List.dropLast_concat]

theorem length_chomp (l : Line) : (chomp l).length ≤ l.length := by
  unfold chomp
  split
  · rw [List.length_dropLast]
    omega
  · exact Nat.le_refl _

theorem mem_chomp {l : Line} {b : UInt8} (h : b ∈ chomp l) : b ∈ l := by
  unfold chomp at h
  split at h
  · exact List.dropLast_subset l h
  · exact h

/-! ## Fields -/

def isContinuation (l : Line) : Bool := l.head? = some space || l.head? = some 9

def hasText (l : Line) : Bool := chomp l ≠ []

def unfolded : List Line → List Line
  | [] => []
  | l :: ls => match unfolded ls with
    | m :: ms => if isContinuation m then (l ++ m) :: ms else l :: m :: ms
    | [] => [l]

/-- `Name: value`. -/
def field (l : Line) : Option Field :=
  match l.dropWhile (· ≠ colon) with
  | _ :: value => some (l.takeWhile (· ≠ colon), if value.head? = some space then value.tail else value)
  | [] => none

/-- The fields, and the lines behind the blank line that ends them. -/
def header (ls : List Line) : Option (List Field × List Line) :=
  match ls.dropWhile hasText with
  | _ :: body => ((unfolded ((ls.takeWhile hasText).map chomp)).mapM field).map (·, body)
  | [] => none

theorem not_mem_unfolded {ls : List Line} (h : ∀ l ∈ ls, lf ∉ l) : ∀ l ∈ unfolded ls, lf ∉ l := by
  induction ls with
  | nil => exact h
  | cons l ls ih =>
    have hl := h l List.mem_cons_self
    have ih := ih fun l' hl' => h l' (List.mem_cons_of_mem _ hl')
    rw [unfolded]
    split
    · rename_i m ms hms
      rw [hms] at ih
      have hm := ih m List.mem_cons_self
      have hrest : ∀ l' ∈ ms, lf ∉ l' := fun l' hl' => ih l' (List.mem_cons_of_mem _ hl')
      split
      · intro l' hl'
        rcases List.mem_cons.mp hl' with rfl | hl'
        · rw [List.mem_append, not_or]
          exact ⟨hl, hm⟩
        · exact hrest l' hl'
      · intro l' hl'
        rcases List.mem_cons.mp hl' with rfl | hl'
        · exact hl
        · exact ih l' hl'
    · intro l' hl'
      rw [List.mem_singleton] at hl'
      rw [hl']
      exact hl

theorem not_mem_field {l : Line} {f : Field} (hl : lf ∉ l) (h : field l = some f) : lf ∉ f.2 := by
  unfold field at h
  split at h
  · rename_i value hvalue
    cases h
    have hin : lf ∉ value := by
      intro hmem
      have hdrop : lf ∈ l.dropWhile (· ≠ colon) := by
        rw [hvalue]
        exact List.mem_cons_of_mem _ hmem
      exact hl ((List.dropWhile_sublist _).mem hdrop)
    dsimp only
    split
    · exact fun hmem => hin (List.mem_of_mem_tail hmem)
    · exact hin
  · cases h

theorem fields_oneLine {ls : List Line} {fs : List Field} {body : List Line} (hls : ∀ l ∈ ls, lf ∉ l)
    (h : header ls = some (fs, body)) : ∀ f ∈ fs, lf ∉ f.2 := by
  unfold header at h
  split at h
  · obtain ⟨fs', hfs, heq⟩ := Option.map_eq_some_iff.mp h
    cases heq
    have hlines : ∀ l ∈ unfolded ((ls.takeWhile hasText).map chomp), lf ∉ l := by
      refine not_mem_unfolded fun l hl => ?_
      obtain ⟨l', hl', rfl⟩ := List.mem_map.mp hl
      exact fun hmem => hls l' ((List.takeWhile_sublist _).mem hl') (mem_chomp hmem)
    intro f hf
    obtain ⟨l, hl, hfield⟩ := Core.mem_of_mapM hfs f hf
    exact not_mem_field (hlines l hl) hfield
  · cases h

/-! ### Fields that are written -/

def writeField (f : Field) : List UInt8 := f.1 ++ [colon, space] ++ f.2 ++ crlf

def writeFields (fs : List Field) : List UInt8 := fs.flatMap writeField

def IsName (name : List UInt8) : Prop :=
  name ≠ [] ∧ colon ∉ name ∧ lf ∉ name ∧ name.head? ≠ some space ∧ name.head? ≠ some 9

theorem field_write {name : List UInt8} (h : colon ∉ name) (value : List UInt8) :
    field (name ++ [colon, space] ++ value) = some (name, value) := by
  have hall : ∀ b ∈ name, decide (b ≠ colon) = true := by
    intro b hb
    rw [decide_eq_true_eq]
    intro heq
    exact h (heq ▸ hb)
  unfold field
  simp only [List.append_assoc]
  rw [List.dropWhile_append_of_pos hall, List.takeWhile_append_of_pos hall]
  simp

theorem unfolded_of_forall {ls : List Line} (h : ∀ l ∈ ls, isContinuation l = false) : unfolded ls = ls := by
  induction ls with
  | nil => rfl
  | cons l ls ih =>
    rw [unfolded, ih fun l' hl' => h l' (List.mem_cons_of_mem l hl')]
    cases ls with
    | nil => rfl
    | cons m ms =>
      have hm := h m (List.mem_cons_of_mem l List.mem_cons_self)
      simp [hm]

def fieldLine (f : Field) : Line := f.1 ++ [colon, space] ++ f.2

theorem lines_writeFields {fs : List Field} (h : ∀ f ∈ fs, IsName f.1 ∧ lf ∉ f.2) (rest : List UInt8) :
    lines (writeFields fs ++ rest) = (fs.map fun f => fieldLine f ++ [cr]) ++ lines rest := by
  induction fs with
  | nil => rfl
  | cons f fs ih =>
    obtain ⟨hname, hvalue⟩ := h f List.mem_cons_self
    have hline : lf ∉ fieldLine f ++ [cr] := by
      simp only [fieldLine, List.mem_append, List.mem_cons, List.not_mem_nil, or_false, not_or]
      exact ⟨⟨⟨hname.2.2.1, by decide, by decide⟩, hvalue⟩, by decide⟩
    have hshape : writeFields (f :: fs) ++ rest = (fieldLine f ++ [cr]) ++ lf :: (writeFields fs ++ rest) := by
      simp [writeFields, writeField, fieldLine, crlf]
    rw [hshape, lines_append, lines_of_not_mem hline, ih fun f' hf' => h f' (List.mem_cons_of_mem f hf')]
    rfl

theorem header_write {fs : List Field} (h : ∀ f ∈ fs, IsName f.1) (body : List Line) :
    header ((fs.map fun f => fieldLine f ++ [cr]) ++ [cr] :: body) = some (fs, body) := by
  have hfull : ∀ l ∈ fs.map (fun f => fieldLine f ++ [cr]), hasText l = true := by
    intro l hl
    obtain ⟨f, -, rfl⟩ := List.mem_map.mp hl
    rw [hasText, chomp_concat]
    simp [fieldLine]
  have hblank : ¬ hasText [cr] = true := by decide
  have hchomp : (fs.map fun f => fieldLine f ++ [cr]).map chomp = fs.map fieldLine := by
    rw [List.map_map]
    exact List.map_congr_left fun f _ => chomp_concat (fieldLine f)
  have hplain : ∀ l ∈ fs.map fieldLine, isContinuation l = false := by
    intro l hl
    obtain ⟨f, hf, rfl⟩ := List.mem_map.mp hl
    obtain ⟨hne, -, -, hspace, htab⟩ := h f hf
    obtain ⟨b, name, hb⟩ := List.exists_cons_of_ne_nil hne
    rw [hb] at hspace htab
    simp only [List.head?_cons, ne_eq, Option.some.injEq] at hspace htab
    simp [isContinuation, fieldLine, hb, hspace, htab]
  have hfields : (fs.map fieldLine).mapM field = some fs := by
    have hread : fs.mapM (fun f => field (fieldLine f)) = some (fs.map id) :=
      Core.mapM_of_forall fun f hf => field_write (h f hf).2.1 f.2
    rw [List.map_id] at hread
    rw [List.mapM_map]
    exact hread
  unfold header
  rw [List.dropWhile_append_of_pos hfull, List.takeWhile_append_of_pos hfull, List.dropWhile_cons_of_neg hblank,
    List.takeWhile_cons_of_neg hblank, List.append_nil, hchomp, unfolded_of_forall hplain, hfields]
  rfl

/-! ## Parts -/

structure Part where
  fields : List Field
  body : List UInt8

structure Message where
  fields : List Field
  parts : List Part

def dashes : List UInt8 := bytes "--"

/-- The lines of the parts. `cur` holds the lines of the part that is read, `none` in front of the first
delimiter. -/
def parts (delimiter : Line) (cur : Option (List Line)) : List Line → Option (List (List Line))
  | [] => none
  | l :: ls =>
    if (delimiter ++ dashes).isPrefixOf l then some cur.toList
    else if delimiter.isPrefixOf l then (parts delimiter (some []) ls).map (cur.toList ++ ·)
    else parts delimiter (cur.map (· ++ [l])) ls

def part (ls : List Line) : Option Part := (header ls).map fun h => ⟨h.1, chomp (join h.2)⟩

def readParts (delimiter : Line) (ls : List Line) : Option (List Part) := (parts delimiter none ls).bind (·.mapM part)

def contentType : List UInt8 := bytes "Content-Type"

def multipart : List UInt8 := bytes "multipart/alternative; boundary=\""

/-- The rest of a boundary in quotes. No character of a boundary needs a backslash. -/
def quoted : List UInt8 → Option (List UInt8)
  | [] => none
  | b :: bs =>
    if b = 34 then if bs = [] then some [] else none
    else if b = 92 then none
    else (quoted bs).map (b :: ·)

/-- A message that is not `multipart` has one part, with its own content type. -/
def message (bs : List UInt8) : Option Message := do
  let (fields, body) ← header (lines bs)
  match fields.lookup contentType with
  | none => return ⟨fields, [⟨[], join body⟩]⟩
  | some value =>
    if multipart.isPrefixOf value then
      let boundary ← quoted (value.drop multipart.length)
      let parts ← readParts (dashes ++ boundary) body
      return ⟨fields, parts⟩
    else return ⟨fields, [⟨[(contentType, value)], join body⟩]⟩

theorem header_of_message {bs : List UInt8} {m : Message} (h : message bs = some m) :
    ∃ body, header (lines bs) = some (m.fields, body) := by
  obtain ⟨⟨fields, body⟩, hheader, h⟩ := Option.bind_eq_some_iff.mp h
  refine ⟨body, ?_⟩
  dsimp only at h
  split at h
  · cases h
    exact hheader
  · split at h
    · obtain ⟨b, -, h⟩ := Option.bind_eq_some_iff.mp h
      obtain ⟨ps, -, h⟩ := Option.bind_eq_some_iff.mp h
      cases h
      exact hheader
    · cases h
      exact hheader

theorem quoted_concat (bs : List UInt8) : quoted (bs ++ [34]) = if 34 ∈ bs ∨ 92 ∈ bs then none else some bs := by
  induction bs with
  | nil => rfl
  | cons b bs ih =>
    rw [List.cons_append, quoted, ih]
    by_cases hquote : b = 34
    · simp [hquote]
    · by_cases hslash : b = 92
      · simp [hslash]
      · rw [if_neg hquote, if_neg hslash]
        simp only [List.mem_cons, Ne.symm hquote, Ne.symm hslash, false_or]
        split <;> rfl

section Parts

variable {delimiter : Line}

theorem parts_append {ls : List Line} (h : ∀ l ∈ ls, ¬ delimiter <+: l) (cur : Option (List Line)) (rest : List Line) :
    parts delimiter cur (ls ++ rest) = parts delimiter (cur.map (· ++ ls)) rest := by
  induction ls generalizing cur with
  | nil => simp
  | cons l ls ih =>
    have hl := h l List.mem_cons_self
    have hclose : ¬ (delimiter ++ dashes).isPrefixOf l = true := by
      rw [List.isPrefixOf_iff_prefix]
      exact fun hpre => hl ((List.prefix_append _ _).trans hpre)
    rw [List.cons_append, parts, if_neg hclose, if_neg (by rwa [List.isPrefixOf_iff_prefix]),
      ih fun l' hl' => h l' (List.mem_cons_of_mem l hl')]
    cases cur with
    | none => rfl
    | some cur => simp

theorem head_parts {ls : List Line} {l : Line} {cur : List Line} {rest : List Line} {sections : List (List Line)}
    (hls : ∀ l ∈ ls, ¬ delimiter <+: l) (hl : delimiter <+: l)
    (h : parts delimiter (some cur) (ls ++ l :: rest) = some sections) : sections.head? = some (cur ++ ls) := by
  rw [parts_append hls, Option.map_some, parts] at h
  split at h
  · cases h
    rfl
  · rw [if_pos (List.isPrefixOf_iff_prefix.mpr hl)] at h
    obtain ⟨more, -, rfl⟩ := Option.map_eq_some_iff.mp h
    rfl

theorem parts_delimiter {l : Line} (hopen : delimiter <+: l) (hclose : ¬ delimiter ++ dashes <+: l)
    (cur : Option (List Line)) (rest : List Line) :
    parts delimiter cur (l :: rest) = (parts delimiter (some []) rest).map (cur.toList ++ ·) := by
  rw [parts, if_neg (by rwa [List.isPrefixOf_iff_prefix]), if_pos (List.isPrefixOf_iff_prefix.mpr hopen)]

theorem parts_close {l : Line} (hclose : delimiter ++ dashes <+: l) (cur : Option (List Line)) (rest : List Line) :
    parts delimiter cur (l :: rest) = some cur.toList := by rw [parts, if_pos (List.isPrefixOf_iff_prefix.mpr hclose)]

end Parts

/-! ### Parts that are written -/

def writePart (delimiter : Line) (p : Part) : List UInt8 :=
  delimiter ++ crlf ++ writeFields p.fields ++ crlf ++ p.body ++ crlf

def writeParts (delimiter : Line) (ps : List Part) : List UInt8 :=
  ps.flatMap (writePart delimiter) ++ delimiter ++ dashes ++ crlf

def headLines (p : Part) : List Line := (p.fields.map fun f => fieldLine f ++ [cr]) ++ [[cr]]

def bodyLines (p : Part) : List Line := lines (p.body ++ [cr])

def Free (delimiter : Line) (p : Part) : Prop := ∀ l ∈ bodyLines p, ¬ delimiter <+: l

structure Writable (delimiter : Line) (p : Part) : Prop where
  fields : ∀ f ∈ p.fields, IsName f.1 ∧ lf ∉ f.2
  head : ∀ l ∈ headLines p, ¬ delimiter <+: l

section Written

variable {delimiter : Line}

theorem lines_writePart (hdelimiter : lf ∉ delimiter) {p : Part} (hp : Writable delimiter p) (rest : List UInt8) :
    lines (writePart delimiter p ++ rest) = (delimiter ++ [cr]) :: (headLines p ++ bodyLines p) ++ lines rest := by
  have hshape : writePart delimiter p ++ rest =
      (delimiter ++ [cr]) ++ lf :: (writeFields p.fields ++ ([cr] ++ lf :: ((p.body ++ [cr]) ++ lf :: rest))) := by
    simp [writePart, crlf]
  have hopen : lf ∉ delimiter ++ [cr] := by
    rw [List.mem_append, not_or]
    exact ⟨hdelimiter, by decide⟩
  rw [hshape, lines_append, lines_of_not_mem hopen, lines_writeFields hp.fields, lines_append,
    lines_of_not_mem (l := [cr]) (by decide), lines_append]
  simp [headLines, bodyLines]

theorem lines_writeParts (hdelimiter : lf ∉ delimiter) {ps : List Part} (hps : ∀ p ∈ ps, Writable delimiter p) :
    lines (writeParts delimiter ps) =
      (ps.flatMap fun p => (delimiter ++ [cr]) :: (headLines p ++ bodyLines p)) ++ [delimiter ++ dashes ++ [cr], []] := by
  unfold writeParts
  induction ps with
  | nil =>
    have hclose : lf ∉ delimiter ++ dashes ++ [cr] := by
      simp only [List.mem_append, not_or]
      exact ⟨⟨hdelimiter, by decide⟩, by decide⟩
    have hshape : delimiter ++ dashes ++ crlf = (delimiter ++ dashes ++ [cr]) ++ lf :: [] := by simp [crlf]
    simp only [List.flatMap_nil, List.nil_append]
    rw [hshape, lines_append, lines_of_not_mem hclose]
    rfl
  | cons p ps ih =>
    simp only [List.flatMap_cons, List.append_assoc] at ih ⊢
    rw [lines_writePart hdelimiter (hps p List.mem_cons_self), ih fun q hq => hps q (List.mem_cons_of_mem p hq)]

theorem part_cut {p : Part} (hp : Writable delimiter p) (ls : List Line) :
    part (headLines p ++ ls) = some ⟨p.fields, chomp (join ls)⟩ := by
  unfold part headLines
  rw [List.append_assoc, List.singleton_append, header_write fun f hf => (hp.fields f hf).1]
  rfl

theorem part_written {p : Part} (hp : Writable delimiter p) : part (headLines p ++ bodyLines p) = some p := by
  rw [part_cut hp, bodyLines, join_lines, chomp_concat]

theorem not_close : ¬ delimiter ++ dashes <+: delimiter ++ [cr] := by
  rw [List.prefix_append_right_inj]
  decide

def Cut (delimiter : Line) (p : Part) (section_ : List Line) : Prop :=
  ∃ ls l rest, bodyLines p = ls ++ l :: rest ∧ delimiter <+: l ∧ section_ = headLines p ++ ls

theorem headBody_free {p : Part} (hp : Writable delimiter p) (hfree : Free delimiter p) :
    ∀ l ∈ headLines p ++ bodyLines p, ¬ delimiter <+: l := by
  intro l hl
  rcases List.mem_append.mp hl with hl | hl
  · exact hp.head l hl
  · exact hfree l hl

theorem sections_free {ps : List Part} (hps : ∀ p ∈ ps, Writable delimiter p) (hfree : ∀ p ∈ ps, Free delimiter p)
    (cur : Option (List Line)) (rest : List Line) :
    parts delimiter cur ((ps.flatMap fun p => (delimiter ++ [cr]) :: (headLines p ++ bodyLines p)) ++
      (delimiter ++ dashes ++ [cr]) :: rest) = some (cur.toList ++ ps.map fun p => headLines p ++ bodyLines p) := by
  induction ps generalizing cur with
  | nil =>
    rw [List.flatMap_nil, List.nil_append, parts_close (List.prefix_append _ _)]
    simp
  | cons p ps ih =>
    have hkept := headBody_free (hps p List.mem_cons_self) (hfree p List.mem_cons_self)
    rw [List.flatMap_cons, List.cons_append, List.cons_append, List.append_assoc,
      parts_delimiter (List.prefix_append _ _) not_close, parts_append hkept,
      ih (fun q hq => hps q (List.mem_cons_of_mem p hq)) fun q hq => hfree q (List.mem_cons_of_mem p hq)]
    simp

theorem exists_cut {ps : List Part} (hps : ∀ p ∈ ps, Writable delimiter p) (hnot : ∃ p ∈ ps, ¬ Free delimiter p)
    {cur : Option (List Line)} {rest : List Line} {sections : List (List Line)}
    (h : parts delimiter cur ((ps.flatMap fun p => (delimiter ++ [cr]) :: (headLines p ++ bodyLines p)) ++ rest) =
      some sections) :
    ∃ sections', sections = cur.toList ++ sections' ∧ ∃ ps' ∈ ps.zip sections', Cut delimiter ps'.1 ps'.2 := by
  induction ps generalizing cur sections with
  | nil =>
    obtain ⟨p, hp, -⟩ := hnot
    cases hp
  | cons p ps ih =>
    have hp := hps p List.mem_cons_self
    rw [List.flatMap_cons, List.cons_append, List.cons_append, List.append_assoc,
      parts_delimiter (List.prefix_append _ _) not_close] at h
    obtain ⟨sections', hsections', rfl⟩ := Option.map_eq_some_iff.mp h
    refine ⟨sections', rfl, ?_⟩
    by_cases hfree : Free delimiter p
    · have hrest : ∃ q ∈ ps, ¬ Free delimiter q := by
        obtain ⟨q, hq, hq'⟩ := hnot
        rcases List.mem_cons.mp hq with rfl | hq
        · exact absurd hfree hq'
        · exact ⟨q, hq, hq'⟩
      rw [parts_append (headBody_free hp hfree)] at hsections'
      obtain ⟨more, rfl, q, hq, hcut⟩ := ih (fun q hq => hps q (List.mem_cons_of_mem p hq)) hrest hsections'
      exact ⟨q, List.mem_cons_of_mem _ hq, hcut⟩
    · unfold Free at hfree
      push Not at hfree
      obtain ⟨l, hl, hprefix⟩ := hfree
      -- the first line with the delimiter
      have hfind : ((bodyLines p).find? (delimiter.isPrefixOf ·)).isSome := by
        rw [List.find?_isSome]
        exact ⟨l, hl, List.isPrefixOf_iff_prefix.mpr hprefix⟩
      obtain ⟨first, hfirst⟩ := Option.isSome_iff_exists.mp hfind
      obtain ⟨hpre, ls, more, hbody, hls⟩ := List.find?_eq_some_iff_append.mp hfirst
      rw [List.isPrefixOf_iff_prefix] at hpre
      have hbefore : ∀ l ∈ headLines p ++ ls, ¬ delimiter <+: l := by
        intro l hl
        rcases List.mem_append.mp hl with hl | hl
        · exact hp.head l hl
        · have hno := hls l hl
          rw [Bool.not_eq_true', Bool.eq_false_iff, ne_eq, List.isPrefixOf_iff_prefix] at hno
          exact hno
      have hshape : headLines p ++ bodyLines p ++ ((ps.flatMap fun p => (delimiter ++ [cr]) ::
          (headLines p ++ bodyLines p)) ++ rest) = (headLines p ++ ls) ++ first :: (more ++
          ((ps.flatMap fun p => (delimiter ++ [cr]) :: (headLines p ++ bodyLines p)) ++ rest)) := by
        rw [hbody]
        simp
      rw [hshape] at hsections'
      obtain ⟨tail, rfl⟩ := List.head?_eq_some_iff.mp (head_parts hbefore hpre hsections')
      exact ⟨(p, [] ++ (headLines p ++ ls)), List.mem_cons_self, ls, first, more, hbody, hpre, rfl⟩

theorem readParts_write (hdelimiter : lf ∉ delimiter) {ps : List Part} (hps : ∀ p ∈ ps, Writable delimiter p)
    (hfree : ∀ p ∈ ps, Free delimiter p) : readParts delimiter (lines (writeParts delimiter ps)) = some ps := by
  have hread : (ps.map fun p => headLines p ++ bodyLines p).mapM part = some (ps.map id) := by
    rw [List.mapM_map]
    exact Core.mapM_of_forall fun p hp => part_written (hps p hp)
  rw [List.map_id] at hread
  unfold readParts
  rw [lines_writeParts hdelimiter hps, sections_free hps hfree]
  exact hread

theorem readParts_short (hdelimiter : lf ∉ delimiter) {ps qs : List Part} (hps : ∀ p ∈ ps, Writable delimiter p)
    (hnot : ∃ p ∈ ps, ¬ Free delimiter p) (h : readParts delimiter (lines (writeParts delimiter ps)) = some qs) :
    ∃ pq ∈ ps.zip qs, pq.2.body.length + delimiter.length ≤ pq.1.body.length + 1 := by
  unfold readParts at h
  rw [lines_writeParts hdelimiter hps] at h
  obtain ⟨sections, hsections, hread⟩ := Option.bind_eq_some_iff.mp h
  obtain ⟨sections', rfl, ps', hmem, ls, l, rest, hbody, hpre, hcut⟩ := exists_cut hps hnot hsections
  obtain ⟨q, hq, hpart⟩ := Core.zip_of_mapM hread hmem
  refine ⟨(ps'.1, q), hq, ?_⟩
  rw [hcut, part_cut (hps ps'.1 (List.of_mem_zip hmem).1)] at hpart
  cases hpart
  have htotal : (join (bodyLines ps'.1)).length = ps'.1.body.length + 1 := by
    rw [bodyLines, join_lines, List.length_append]
    rfl
  have hcutLength := length_join_le ls l rest
  have hchomp := length_chomp (join ls)
  have hline := hpre.length_le
  rw [← hbody, htotal] at hcutLength
  dsimp only
  omega

end Written

end PerGo.L1.Mime
