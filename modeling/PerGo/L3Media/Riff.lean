import PerGo.L3Media.Wav

/-!
# The chunks of a WAV file

A file as a list of chunks, each with what is there of its bytes. `chunksOf` cuts bytes up as the chunk
loop of `DecodeWAV` does, which takes a chunk to end where its size says.

* `chunkLoop_eq`: the chunk loop is a fold over the chunks.
* `chunksOf_bytes`: chunks that are written one after the other are found again.
* `foldlM_takeChunk`: the fields after the loop are those that the last `fmt ` chunks declare.
* `decodeWAV_ok`: what is said of a file that is read.
-/
namespace PerGo.L3.Media

open PerGo.Core PerGo.Core.Result PerGo.L1

structure Chunk where
  id : List UInt8
  size : Nat
  body : List UInt8

inductive Ending
  | whole
  | cutInId
  | cutInSize
deriving DecidableEq

/-- The chunks of a byte string, and how it ends. -/
def chunksOf (r : List UInt8) : List Chunk × Ending :=
  if r.length = 0 then ([], .whole)
  else if r.length < 4 then ([], .cutInId)
  else if r.length < 8 then ([], .cutInSize)
  else
    let size := leNat ((r.drop 4).take 4)
    let rest := chunksOf (r.drop (8 + size))
    (⟨r.take 4, size, (r.drop 8).take size⟩ :: rest.1, rest.2)
termination_by r.length
decreasing_by
  rw [List.length_drop]
  omega

/-- A field of a `fmt ` chunk, if it is there. -/
def fieldAt (body : List UInt8) (offset width old : Nat) : Nat :=
  if offset + width ≤ body.length then leNat ((body.drop offset).take width) else old

variable (int16Of : Float32 → Int16)

def takeChunk (vars : WavVars) (c : Chunk) : Result AudioError WavVars :=
  if c.id = fmtID then
    if c.size < 16 then .error (.corruptAudioData "invalid fmt chunk size")
    else .ok { vars with
      audioFormat := fieldAt c.body 0 2 vars.audioFormat
      numChannels := fieldAt c.body 2 2 vars.numChannels
      sampleRate := fieldAt c.body 4 4 vars.sampleRate
      bitsPerSample := fieldAt c.body 14 2 vars.bitsPerSample }
  else if c.id = dataID then do
    let pcmSamples ← readSamples int16Of vars c.body
    return { vars with pcmSamples }
  else .ok vars

def Ending.finish (vars : WavVars) : Ending → Result AudioError WavVars
  | .whole => .ok vars
  | .cutInId => .error (.corruptAudioData "error reading chunk header")
  | .cutInSize => .error (.corruptAudioData "error reading chunk size")

variable {int16Of}

/-! ## The loop is a fold over the chunks -/

theorem readField_eq (offset : Nat) {width : Nat} (hwidth : 0 < width) (r : List UInt8) (old : Nat) :
    (readField width (r.drop offset) old).1 = fieldAt r offset width old := by
  unfold readField fieldAt
  rw [List.length_drop]
  by_cases hthere : offset + width ≤ r.length
  · rw [if_pos (by omega), if_pos hthere]
  · rw [if_neg (by omega), if_neg hthere]

theorem fieldAt_take {r : List UInt8} {offset width size : Nat} (h : offset + width ≤ size) (old : Nat) :
    fieldAt (r.take size) offset width old = fieldAt r offset width old := by
  unfold fieldAt
  rw [List.length_take]
  by_cases hthere : offset + width ≤ r.length
  · rw [if_pos (by omega), if_pos hthere, List.drop_take, List.take_take, Nat.min_eq_left (by omega)]
  · rw [if_neg (by omega), if_neg hthere]

theorem readFmt_eq (vars : WavVars) (r : List UInt8) {size : Nat} (h : 16 ≤ size) :
    readFmt vars size r =
      ({ vars with
          audioFormat := fieldAt (r.take size) 0 2 vars.audioFormat
          numChannels := fieldAt (r.take size) 2 2 vars.numChannels
          sampleRate := fieldAt (r.take size) 4 4 vars.sampleRate
          bitsPerSample := fieldAt (r.take size) 14 2 vars.bitsPerSample }, r.drop size) := by
  refine Prod.ext ?_ (readFmt_rest vars r h)
  have hformat := readField_eq 0 (by decide : 0 < 2) r vars.audioFormat
  rw [List.drop_zero] at hformat
  unfold readFmt
  simp only [readField_rest, List.drop_drop, Nat.reduceAdd]
  rw [hformat, readField_eq 2 (by decide), readField_eq 4 (by decide), readField_eq 14 (by decide),
    fieldAt_take (by omega), fieldAt_take (by omega), fieldAt_take (by omega), fieldAt_take (by omega)]

theorem readChunk_eq (vars : WavVars) {r : List UInt8} (h : 8 ≤ r.length) :
    readChunk int16Of vars r =
      takeChunk int16Of vars ⟨r.take 4, leNat ((r.drop 4).take 4), (r.drop 8).take (leNat ((r.drop 4).take 4))⟩ >>=
        fun vars => .ok (.again (vars, r.drop (8 + leNat ((r.drop 4).take 4)))) := by
  have hid : readFull 4 r = .ok (r.take 4, r.drop 4) := if_pos (by omega)
  have hsize : readFull 4 (r.drop 4) = .ok ((r.drop 4).take 4, r.drop 8) := by
    rw [readFull, if_pos (by rw [List.length_drop]; omega), List.drop_drop]
  unfold readChunk takeChunk
  rw [hid]
  simp only
  rw [hsize]
  simp only
  generalize leNat ((r.drop 4).take 4) = size
  have hrest : (r.drop 8).drop size = r.drop (8 + size) := List.drop_drop ..
  split
  · split
    · rfl
    · rename_i hfmt
      rw [readFmt_eq vars (r.drop 8) (by omega), ← hrest]
      rfl
  · split
    · rw [hrest, bind_assoc]
      rfl
    · rw [hrest]
      rfl

theorem readChunk_cut (vars : WavVars) {r : List UInt8} (hpos : r.length ≠ 0) (h : r.length < 8) :
    readChunk int16Of vars r =
      .error (.corruptAudioData (if r.length < 4 then "error reading chunk header" else "error reading chunk size")) := by
  have hne : r.isEmpty = false := by
    cases r
    · exact absurd rfl hpos
    · rfl
  unfold readChunk
  by_cases hid : r.length < 4
  · have hcut : readFull 4 r = .error .unexpectedEOF := by
      rw [readFull, if_neg (by omega), hne]
      rfl
    rw [hcut, if_pos hid]
  · have hfull : readFull 4 r = .ok (r.take 4, r.drop 4) := if_pos (by omega)
    have hcut : ∃ e, readFull 4 (r.drop 4) = .error e := by
      rw [readFull, if_neg (by rw [List.length_drop]; omega)]
      split
      · exact ⟨_, rfl⟩
      · exact ⟨_, rfl⟩
    obtain ⟨e, he⟩ := hcut
    rw [hfull, if_neg hid]
    simp only
    rw [he]

theorem chunkLoop_eq (vars : WavVars) (r : List UInt8) :
    (chunkLoop int16Of).run (vars, r) = (chunksOf r).1.foldlM (takeChunk int16Of) vars >>= fun vars => (chunksOf r).2.finish vars := by
  induction hn : r.length using Nat.strongRecOn generalizing vars r with
  | ind n ih =>
    have hround : (chunkLoop int16Of).round (vars, r) = readChunk int16Of vars r := rfl
    rw [Loop.run_eq, hround, chunksOf]
    by_cases hnil : r.length = 0
    · rw [if_pos hnil, List.length_eq_zero_iff.mp hnil]
      rfl
    · by_cases hcut : r.length < 8
      · rw [if_neg hnil, readChunk_cut vars hnil hcut]
        by_cases hid : r.length < 4
        · rw [if_pos hid, if_pos hid]
          rfl
        · rw [if_neg hid, if_neg hid, if_pos hcut]
          rfl
      · rw [if_neg hnil, if_neg (by omega), if_neg hcut, readChunk_eq vars (by omega)]
        simp only [List.foldlM_cons, bind_assoc, ok_bind]
        congr 1
        funext vars'
        exact ih _ (by rw [List.length_drop]; omega) vars' _ rfl

/-! ## Chunks that are written are found -/

structure Chunk.Whole (c : Chunk) : Prop where
  id : c.id.length = 4
  size : c.size < 2 ^ 32
  body : c.body.length = c.size

def Chunk.bytes (c : Chunk) : List UInt8 := c.id ++ leBytes 4 c.size ++ c.body

theorem chunksOf_bytes {c : Chunk} (h : c.Whole) (rest : List UInt8) :
    chunksOf (c.bytes ++ rest) = (c :: (chunksOf rest).1, (chunksOf rest).2) := by
  have hsize : leNat (leBytes 4 c.size) = c.size := leNat_leBytes_of_lt (by have := h.size; omega)
  have hbytes : c.bytes ++ rest = c.id ++ (leBytes 4 c.size ++ (c.body ++ rest)) := by
    rw [Chunk.bytes, List.append_assoc, List.append_assoc]
  have hlen : (c.bytes ++ rest).length = 8 + c.size + rest.length := by
    rw [hbytes, List.length_append, List.length_append, List.length_append, length_leBytes, h.id, h.body]
    omega
  have hid : (c.bytes ++ rest).take 4 = c.id := by rw [hbytes, ← h.id, List.take_left]
  have hdrop : (c.bytes ++ rest).drop 4 = leBytes 4 c.size ++ (c.body ++ rest) := by rw [hbytes, ← h.id, List.drop_left]
  have hfield : ((c.bytes ++ rest).drop 4).take 4 = leBytes 4 c.size := by
    rw [hdrop, List.take_left' (length_leBytes 4 c.size)]
  have hbody : (c.bytes ++ rest).drop 8 = c.body ++ rest := by
    rw [show 8 = 4 + 4 from rfl, ← List.drop_drop, hdrop, List.drop_left' (length_leBytes 4 c.size)]
  have htake : ((c.bytes ++ rest).drop 8).take c.size = c.body := by rw [hbody, List.take_left' h.body]
  have hrest : (c.bytes ++ rest).drop (8 + c.size) = rest := by
    rw [← List.drop_drop, hbody, List.drop_left' h.body]
  rw [chunksOf, hlen, if_neg (by omega), if_neg (by omega), if_neg (by omega)]
  simp only [hfield, hsize, hid, htake, hrest]

theorem chunksOf_flatMap {cs : List Chunk} (h : ∀ c ∈ cs, c.Whole) (rest : List UInt8) :
    chunksOf (cs.flatMap Chunk.bytes ++ rest) = (cs ++ (chunksOf rest).1, (chunksOf rest).2) := by
  induction cs with
  | nil => rfl
  | cons c cs ih =>
    rw [List.flatMap_cons, List.append_assoc, chunksOf_bytes (h c List.mem_cons_self),
      ih fun c' hc' => h c' (List.mem_cons_of_mem c hc')]
    rfl

theorem chunksOf_nil : chunksOf [] = ([], .whole) := by
  rw [chunksOf]
  rfl

/-! ## Samples -/

/-- A PCM sample in 16 bits: a byte holds one from 0 to 255, more bytes hold a signed one. -/
def sampleOf (word : List UInt8) : Int16 :=
  if word.length = 1 then Int16.ofInt ((leNat word - 128) * 256)
  else Int16.ofNat (leNat (word.drop (word.length - 2)))

def pcmSamples (bits : Nat) (body : List UInt8) : List Int16 :=
  let width := (bits + 7) / 8
  (List.range (body.length / width)).map fun i => sampleOf ((body.drop (i * width)).take width)

theorem length_group {body : List UInt8} {width i : Nat} (h : i ∈ List.range (body.length / width)) :
    i * width + width ≤ body.length := by
  have hi : i + 1 ≤ body.length / width := List.mem_range.mp h
  have hmul : (i + 1) * width ≤ body.length := (Nat.mul_le_mul_right width hi).trans (Nat.div_mul_le_self _ _)
  rw [Nat.add_mul, Nat.one_mul] at hmul
  exact hmul

theorem slice_group {body : List UInt8} {width i : Nat} (h : i ∈ List.range (body.length / width)) :
    (slice body (i * width) (i * width + width) : Result AudioError (List UInt8)) =
      .ok ((body.drop (i * width)).take width) := by
  rw [slice_of_le (Nat.le_add_right _ _) (length_group h), Nat.add_sub_cancel_left]

theorem length_word {body : List UInt8} {width i : Nat} (h : i ∈ List.range (body.length / width)) :
    ((body.drop (i * width)).take width).length = width := by
  have := length_group h
  rw [List.length_take, List.length_drop]
  omega

theorem readSamples_ok (vars : WavVars) (body : List UInt8) : ∃ pcm, readSamples int16Of vars body = .ok pcm := by
  unfold readSamples
  split
  · exact exists_mapM_ok fun i hi => ⟨_, by rw [slice_group hi]; rfl⟩
  · split
    · exact ⟨_, rfl⟩
    · split
      · refine exists_mapM_ok fun i hi => ?_
        have hgroup := length_group hi
        exact ⟨_, by rw [index_of_lt (by omega), index_of_lt (by omega)]; rfl⟩
      · split
        · exact exists_mapM_ok fun i hi => ⟨_, by rw [slice_group hi]; rfl⟩
        · exact ⟨_, rfl⟩

theorem length_readSamples {vars : WavVars} {body : List UInt8} {pcm : List Int16} (h : readSamples int16Of vars body = .ok pcm) :
    pcm.length ≤ max body.length vars.pcmSamples.length := by
  unfold readSamples at h
  split at h
  · have hlen := length_mapM h
    rw [List.length_range] at hlen
    omega
  · split at h
    · cases h
      rw [List.length_map]
      exact Nat.le_max_left ..
    · split at h
      · have hlen := length_mapM h
        rw [List.length_range] at hlen
        omega
      · split at h
        · have hlen := length_mapM h
          rw [List.length_range] at hlen
          omega
        · cases h
          exact Nat.le_max_right ..

/-- The widths that `DecodeWAV` reads. -/
def readableBits : List Nat := [8, 16, 24, 32]

theorem drop_take_two {body : List UInt8} {n : Nat} (h : n + 1 < body.length) :
    (body.drop n).take 2 = [body[n], body[n + 1]] := by
  rw [List.drop_eq_getElem_cons (by omega), List.take_succ_cons, List.drop_eq_getElem_cons h, List.take_succ_cons,
    List.take_zero]

theorem pcmSamples_eight (body : List UInt8) :
    pcmSamples 8 body = body.map fun b => Int16.ofInt (((b.toNat : Int) - 128) * 256) := by
  have hword : ∀ i (h : i < body.length), (body.drop (i * 1)).take 1 = [body[i]] := by
    intro i h
    rw [Nat.mul_one, List.drop_eq_getElem_cons h, List.take_succ_cons, List.take_zero]
  refine List.ext_getElem (by simp [pcmSamples]) fun i hi hi' => ?_
  rw [List.length_map] at hi'
  simp only [pcmSamples, List.getElem_map, List.getElem_range, Nat.reduceAdd, Nat.reduceDiv]
  rw [hword i hi']
  simp [sampleOf, leNat]

theorem readSamples_pcm (vars : WavVars) (hformat : vars.audioFormat = 1) (hbits : vars.bitsPerSample ∈ readableBits)
    (body : List UInt8) : readSamples int16Of vars body = .ok (pcmSamples vars.bitsPerSample body) := by
  unfold readSamples
  simp only [readableBits, List.mem_cons, List.not_mem_nil, or_false] at hbits
  rcases hbits with h | h | h | h
  · rw [if_neg (by omega), if_pos h, h, pcmSamples_eight]
  · rw [if_pos (.inl h), h]
    refine mapM_ok fun i hi => ?_
    rw [slice_group hi, ok_bind, sampleOf, length_word hi]
    rfl
  · rw [if_neg (by omega), if_neg (by omega), if_pos h, h]
    refine mapM_ok fun i hi => ?_
    have hgroup := length_group hi
    have hword : ((body.drop (i * 3)).take 3).drop 1 = [body[i * 3 + 1], body[i * 3 + 1 + 1]] := by
      rw [List.drop_take, List.drop_drop, drop_take_two (by omega)]
    have hhalf (lo hi : Nat) : (lo * 65536 + hi * 16777216) / 65536 = lo + 256 * (hi + 256 * 0) := by omega
    rw [index_of_lt (by omega), index_of_lt (by omega), ok_bind, ok_bind, sampleOf, length_word hi, if_neg (by decide),
      hword, hhalf]
    rfl
  · rw [if_neg (by omega), if_neg (by omega), if_neg (by omega), if_pos h, h]
    refine mapM_ok fun i hi => ?_
    have hhalf := leNat_div 2 ((body.drop (i * 4)).take 4)
    rw [slice_group hi, ok_bind, if_neg (by omega), sampleOf, length_word hi, if_neg (by decide)]
    rw [show 65536 = 256 ^ 2 from rfl, hhalf]
    rfl

/-! ## The fields after the loop -/

/-- The field of the last `fmt ` chunk that has it. -/
def declared (offset width : Nat) (old : Nat) (cs : List Chunk) : Nat :=
  cs.foldl (fun old c => if c.id = fmtID then fieldAt c.body offset width old else old) old

theorem takeChunk_ok (vars : WavVars) (c : Chunk) (h : c.id = fmtID → 16 ≤ c.size) :
    ∃ vars', takeChunk int16Of vars c = .ok vars' ∧
      vars'.sampleRate = (if c.id = fmtID then fieldAt c.body 4 4 vars.sampleRate else vars.sampleRate) ∧
      vars'.numChannels = (if c.id = fmtID then fieldAt c.body 2 2 vars.numChannels else vars.numChannels) := by
  unfold takeChunk
  by_cases hfmt : c.id = fmtID
  · rw [if_pos hfmt, if_neg (by have := h hfmt; omega), if_pos hfmt, if_pos hfmt]
    exact ⟨_, rfl, rfl, rfl⟩
  · rw [if_neg hfmt, if_neg hfmt, if_neg hfmt]
    split
    · obtain ⟨pcm, hpcm⟩ := readSamples_ok vars c.body
      rw [hpcm]
      exact ⟨_, rfl, rfl, rfl⟩
    · exact ⟨_, rfl, rfl, rfl⟩

theorem foldlM_takeChunk {cs : List Chunk} (h : ∀ c ∈ cs, c.id = fmtID → 16 ≤ c.size) (vars : WavVars) :
    ∃ vars', cs.foldlM (takeChunk int16Of) vars = .ok vars' ∧ vars'.sampleRate = declared 4 4 vars.sampleRate cs ∧
      vars'.numChannels = declared 2 2 vars.numChannels cs := by
  induction cs generalizing vars with
  | nil => exact ⟨vars, rfl, rfl, rfl⟩
  | cons c cs ih =>
    obtain ⟨vars₁, htake, hrate, hchannels⟩ := takeChunk_ok vars c (h c List.mem_cons_self)
    obtain ⟨vars₂, hfold, hrate', hchannels'⟩ := ih (fun c' hc' => h c' (List.mem_cons_of_mem c hc')) vars₁
    refine ⟨vars₂, ?_, ?_, ?_⟩
    · rw [List.foldlM_cons, htake, ok_bind, hfold]
    · rw [hrate', hrate]
      rfl
    · rw [hchannels', hchannels]
      rfl

theorem foldlM_takeChunk_short (cs : List Chunk) (h : ∃ c ∈ cs, c.id = fmtID ∧ c.size < 16) (vars : WavVars) :
    ∃ e, cs.foldlM (takeChunk int16Of) vars = .error e := by
  induction cs generalizing vars with
  | nil => simp at h
  | cons c cs ih =>
    rw [List.foldlM_cons]
    by_cases hshort : c.id = fmtID ∧ c.size < 16
    · unfold takeChunk
      rw [if_pos hshort.1, if_pos hshort.2]
      exact ⟨_, rfl⟩
    · obtain ⟨c', hc', hshort'⟩ := h
      rcases List.mem_cons.mp hc' with rfl | hc'
      · exact absurd hshort' hshort
      · obtain ⟨vars₁, htake, -⟩ := takeChunk_ok vars c fun hfmt => by
          by_contra hlt
          exact hshort ⟨hfmt, by omega⟩
        rw [htake, ok_bind]
        exact ih ⟨c', hc', hshort'⟩ vars₁

/-! ## The end of the loop -/

def rateOr (n : Nat) : Nat := if n = 0 then 16000 else n

def channelsOr (n : Nat) : Nat := if n = 0 then 1 else n

theorem finishWAV_ok (vars : WavVars) (h : rateOr vars.sampleRate * channelsOr vars.numChannels % 2 ^ 32 ≠ 0) :
    ∃ tel, finishWAV vars = .ok (vars.pcmSamples, tel) ∧ tel.sampleRate = rateOr vars.sampleRate ∧
      tel.channels = channelsOr vars.numChannels ∧
      tel.durationMS = (vars.pcmSamples.length * 1000 / (rateOr vars.sampleRate * channelsOr vars.numChannels % 2 ^ 32) : Nat) := by
  unfold rateOr channelsOr at h ⊢
  unfold finishWAV
  simp only
  generalize (if vars.sampleRate = 0 then 16000 else vars.sampleRate) = rate at h ⊢
  generalize (if vars.numChannels = 0 then 1 else vars.numChannels) = channels at h ⊢
  rw [quotient_of_ne (by omega), ok_bind, ← Int.ofNat_tdiv]
  obtain ⟨tel, htel, hduration, hrate, hchannels⟩ := newAudioTelemetry_ok vars.pcmSamples
    (vars.pcmSamples.length * 1000 / (rate * channels % 2 ^ 32) : Nat) rate channels "wav"
  exact ⟨tel, by rw [htel]; rfl, hrate, hchannels, hduration⟩

theorem finishWAV_panics {vars : WavVars} (h : rateOr vars.sampleRate * channelsOr vars.numChannels % 2 ^ 32 = 0) :
    finishWAV vars = .panic := by
  unfold rateOr channelsOr at h
  unfold finishWAV
  simp only
  rw [h]
  rfl

theorem decodeWAV_eq {data : List UInt8} (hlen : 44 ≤ data.length) (hheader : isWAVHeader data = true) :
    decodeWAV int16Of data =
      ((chunksOf (data.drop 12)).1.foldlM (takeChunk int16Of) {} >>= fun vars => (chunksOf (data.drop 12)).2.finish vars) >>=
        finishWAV := by
  unfold decodeWAV
  rw [if_neg (by omega), if_neg (by rw [hheader]; decide), chunkLoop_eq]

/-! ## How many samples there are -/

theorem takeChunk_pcm {vars vars' : WavVars} {c : Chunk} (h : takeChunk int16Of vars c = .ok vars') :
    vars'.pcmSamples.length ≤ max c.body.length vars.pcmSamples.length := by
  unfold takeChunk at h
  split at h
  · split at h
    · cases h
    · cases h
      exact Nat.le_max_right ..
  · split at h
    · obtain ⟨pcm, hpcm, hvars⟩ := bind_eq_ok_iff.mp h
      cases hvars
      exact length_readSamples hpcm
    · cases h
      exact Nat.le_max_right ..

theorem foldlM_pcm {cs : List Chunk} {n : Nat} (hcs : ∀ c ∈ cs, c.body.length < n) {vars vars' : WavVars}
    (hvars : vars.pcmSamples.length < n) (h : cs.foldlM (takeChunk int16Of) vars = .ok vars') : vars'.pcmSamples.length < n := by
  induction cs generalizing vars with
  | nil =>
    cases h
    exact hvars
  | cons c cs ih =>
    rw [List.foldlM_cons] at h
    obtain ⟨vars₁, hfirst, hrest⟩ := bind_eq_ok_iff.mp h
    have hbody := hcs c List.mem_cons_self
    have hle := takeChunk_pcm hfirst
    exact ih (fun c' hc' => hcs c' (List.mem_cons_of_mem c hc')) (by omega) hrest

theorem chunksOf_body (r : List UInt8) : ∀ c ∈ (chunksOf r).1, c.body.length < 2 ^ 32 := by
  induction r using chunksOf.induct with
  | case1 r hnil =>
    rw [chunksOf, if_pos hnil]
    exact fun c hc => absurd hc List.not_mem_nil
  | case2 r hnil hid =>
    rw [chunksOf, if_neg hnil, if_pos hid]
    exact fun c hc => absurd hc List.not_mem_nil
  | case3 r hnil hid hsize =>
    rw [chunksOf, if_neg hnil, if_neg hid, if_pos hsize]
    exact fun c hc => absurd hc List.not_mem_nil
  | case4 r hnil hid hsize size ih =>
    rw [chunksOf, if_neg hnil, if_neg hid, if_neg hsize]
    intro c hc
    rcases List.mem_cons.mp hc with rfl | hc
    · have hlt := leNat_lt ((r.drop 4).take 4)
      have hlen : ((r.drop 4).take 4).length = 4 := by
        rw [List.length_take, List.length_drop]
        omega
      rw [hlen] at hlt
      exact (List.length_take_le _ _).trans_lt hlt
    · exact ih c hc

theorem finish_eq_ok {vars vars' : WavVars} {ending : Ending} (h : ending.finish vars = .ok vars') : vars' = vars := by
  cases ending with
  | whole =>
    cases h
    rfl
  | cutInId => cases h
  | cutInSize => cases h

theorem chunkLoop_pcm {r : List UInt8} {vars : WavVars} (h : (chunkLoop int16Of).run ({}, r) = .ok vars) :
    vars.pcmSamples.length < 2 ^ 32 := by
  rw [chunkLoop_eq] at h
  obtain ⟨vars₁, hfold, hfinish⟩ := bind_eq_ok_iff.mp h
  rw [finish_eq_ok hfinish]
  exact foldlM_pcm (chunksOf_body r) (by show 0 < 2 ^ 32; decide) hfold

theorem decodeWAV_ok {data : List UInt8} {pcm : List Int16} {tel : AudioTelemetry} (h : decodeWAV int16Of data = .ok (pcm, tel)) :
    44 ≤ data.length ∧ isWAVHeader data = true ∧ pcm.length < 2 ^ 32 ∧ 0 < tel.sampleRate ∧ 0 < tel.channels ∧
      0 < tel.sampleRate * tel.channels % 2 ^ 32 ∧
      tel.durationMS = (pcm.length * 1000 / (tel.sampleRate * tel.channels % 2 ^ 32) : Nat) := by
  unfold decodeWAV at h
  split at h
  · cases h
  · rename_i hlen
    split at h
    · cases h
    · rename_i hheader
      obtain ⟨vars, hvars, hfinish⟩ := bind_eq_ok_iff.mp h
      by_cases hzero : rateOr vars.sampleRate * channelsOr vars.numChannels % 2 ^ 32 = 0
      · rw [finishWAV_panics hzero] at hfinish
        cases hfinish
      · obtain ⟨tel', hok, hrate, hchannels, hduration⟩ := finishWAV_ok vars hzero
        rw [hok] at hfinish
        cases hfinish
        refine ⟨by omega, by simpa using hheader, chunkLoop_pcm hvars, ?_, ?_, ?_, ?_⟩
        · rw [hrate, rateOr]
          split
          · decide
          · omega
        · rw [hchannels, channelsOr]
          split
          · decide
          · omega
        · rw [hrate, hchannels]
          omega
        · rw [hrate, hchannels, hduration]

end PerGo.L3.Media
