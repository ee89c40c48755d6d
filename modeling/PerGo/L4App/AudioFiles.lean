import PerGo.L3Media.Riff
import PerGo.L3Media.Mp4

/-!
# Reading WAV files

`DecodeWAV` reads whatever bytes it gets, reads back what `EncodeWAV` writes, and finds the samples of a file
among its other chunks, as long as the chunks have even sizes: it does not skip the byte that pads an odd one.

* `decodeWAV_returns_iff`: when it returns.
* `decodeWAV_encodeWAV`: the round trip.
* `samples_found`: when it finds the samples of a file.
-/
namespace PerGo.L4.WavFiles

open PerGo.Core PerGo.Core.Result PerGo.L1 PerGo.L3.Media

/-! ## What `EncodeWAV` writes -/

variable {int16Of : Float32 → Int16}

/-- The `fmt ` chunk of `EncodeWAV`. -/
def fmtChunk (sampleRate channels : Nat) : Chunk :=
  ⟨fmtID, 16, leBytes 2 1 ++ leBytes 2 channels ++ leBytes 4 sampleRate ++ leBytes 4 (sampleRate * channels * 2) ++
    leBytes 2 (channels * 2) ++ leBytes 2 16⟩

/-- The `data` chunk of `EncodeWAV`. -/
def dataChunk (pcm : List Int16) : Chunk :=
  ⟨dataID, pcm.length * 2, pcm.flatMap fun s => leBytes 2 s.toUInt16.toNat⟩

theorem length_words (pcm : List Int16) :
    (pcm.flatMap fun s => leBytes 2 s.toUInt16.toNat).length = pcm.length * 2 := by
  induction pcm with
  | nil => rfl
  | cons s pcm ih =>
    rw [List.flatMap_cons, List.length_append, ih, length_leBytes, List.length_cons]
    omega

theorem fmtChunk_whole (sampleRate channels : Nat) : (fmtChunk sampleRate channels).Whole :=
  ⟨rfl, by show 16 < 2 ^ 32; decide, by simp [fmtChunk]⟩

theorem dataChunk_whole {pcm : List Int16} (h : 2 * pcm.length + 36 < 2 ^ 32) : (dataChunk pcm).Whole :=
  ⟨rfl, by show pcm.length * 2 < 2 ^ 32; omega, length_words pcm⟩

theorem fieldAt_leBytes (width n : Nat) (h : n < 256 ^ width) (front back : List UInt8) (old : Nat) :
    fieldAt (front ++ (leBytes width n ++ back)) front.length width old = n := by
  unfold fieldAt
  rw [if_pos (by simp), List.drop_left, List.take_left' (length_leBytes width n), leNat_leBytes_of_lt h]

theorem fmtChunk_fields {sampleRate channels : Nat} (hrate : sampleRate < 2 ^ 32) (hchannels : channels < 2 ^ 16)
    (vars : WavVars) :
    takeChunk int16Of vars (fmtChunk sampleRate channels) =
      .ok { vars with audioFormat := 1, numChannels := channels, sampleRate := sampleRate, bitsPerSample := 16 } := by
  have hformat := fieldAt_leBytes 2 1 (by decide) []
    (leBytes 2 channels ++ (leBytes 4 sampleRate ++ (leBytes 4 (sampleRate * channels * 2) ++
      (leBytes 2 (channels * 2) ++ leBytes 2 16)))) vars.audioFormat
  have hchannel := fieldAt_leBytes 2 channels (by omega) (leBytes 2 1)
    (leBytes 4 sampleRate ++ (leBytes 4 (sampleRate * channels * 2) ++ (leBytes 2 (channels * 2) ++ leBytes 2 16)))
    vars.numChannels
  have hsample := fieldAt_leBytes 4 sampleRate (by omega) (leBytes 2 1 ++ leBytes 2 channels)
    (leBytes 4 (sampleRate * channels * 2) ++ (leBytes 2 (channels * 2) ++ leBytes 2 16)) vars.sampleRate
  have hbits := fieldAt_leBytes 2 16 (by decide)
    (leBytes 2 1 ++ leBytes 2 channels ++ leBytes 4 sampleRate ++ leBytes 4 (sampleRate * channels * 2) ++
      leBytes 2 (channels * 2)) [] vars.bitsPerSample
  simp only [List.append_assoc, List.append_nil, List.nil_append, List.length_append, length_leBytes, List.length_nil,
    Nat.reduceAdd] at hformat hchannel hsample hbits
  unfold takeChunk fmtChunk
  rw [if_pos rfl, if_neg (by show ¬ 16 < 16; decide)]
  simp only [List.append_assoc, hformat, hchannel, hsample, hbits]

theorem drop_words (pcm : List Int16) (i : Nat) :
    (pcm.flatMap fun s => leBytes 2 s.toUInt16.toNat).drop (i * 2) =
      (pcm.drop i).flatMap fun s => leBytes 2 s.toUInt16.toNat := by
  induction i generalizing pcm with
  | zero => rw [Nat.zero_mul, List.drop_zero, List.drop_zero]
  | succ i ih =>
    cases pcm with
    | nil => simp
    | cons s pcm =>
      have hword : (leBytes 2 s.toUInt16.toNat).length = 2 := length_leBytes 2 _
      rw [List.flatMap_cons, Nat.succ_mul, Nat.add_comm, ← List.drop_drop, List.drop_left' hword, ih, List.drop_succ_cons]

theorem pcmSamples_words (pcm : List Int16) :
    pcmSamples 16 (pcm.flatMap fun s => leBytes 2 s.toUInt16.toNat) = pcm := by
  refine List.ext_getElem (by simp [pcmSamples]) fun i hi hi' => ?_
  have hword : (leBytes 2 pcm[i].toUInt16.toNat).length = 2 := length_leBytes 2 _
  have hvalue : leNat (leBytes 2 pcm[i].toUInt16.toNat) = pcm[i].toUInt16.toNat :=
    leNat_leBytes_of_lt pcm[i].toUInt16.toNat_lt
  simp only [pcmSamples, List.getElem_map, List.getElem_range, Nat.reduceAdd, Nat.reduceDiv]
  rw [drop_words, List.drop_eq_getElem_cons hi', List.flatMap_cons, List.take_left' hword, sampleOf, hword,
    if_neg (by decide), Nat.sub_self, List.drop_zero, hvalue]
  show (UInt16.ofNat pcm[i].toUInt16.toNat).toInt16 = pcm[i]
  rw [UInt16.ofNat_toNat, Int16.toInt16_toUInt16]

theorem encodeWAV_eq {pcm : List Int16} {sampleRate channels : Nat} (hrate : 0 < sampleRate) (hchannels : 0 < channels)
    (hlen : 2 * pcm.length + 36 < 2 ^ 32) :
    encodeWAV pcm sampleRate channels =
      ascii ['R', 'I', 'F', 'F'] ++ leBytes 4 (36 + pcm.length * 2) ++ ascii ['W', 'A', 'V', 'E'] ++
        ((fmtChunk sampleRate channels).bytes ++ (dataChunk pcm).bytes) := by
  have hsize : pcm.length * 2 % 2 ^ 32 = pcm.length * 2 := Nat.mod_eq_of_lt (by omega)
  unfold encodeWAV
  rw [normalizeAudioParams_pos hrate hchannels]
  simp only
  rw [hsize]
  simp only [fmtChunk, dataChunk, Chunk.bytes, List.append_assoc]

theorem riff_header {size : List UInt8} (hsize : size.length = 4) (chunks : List UInt8) :
    let data := ascii ['R', 'I', 'F', 'F'] ++ size ++ ascii ['W', 'A', 'V', 'E'] ++ chunks
    isWAVHeader data = true ∧ data.drop 12 = chunks ∧ data.length = 12 + chunks.length := by
  obtain ⟨a, b, c, d, rfl⟩ : ∃ a b c d, size = [a, b, c, d] := by
    match size, hsize with
    | [a, b, c, d], _ => exact ⟨a, b, c, d, rfl⟩
  refine ⟨?_, rfl, ?_⟩
  · simp [isWAVHeader, ascii]
  · simp
    omega

theorem decodeWAV_encoded {pcm : List Int16} {sampleRate channels : Nat} (hrate : 0 < sampleRate)
    (hrate' : sampleRate < 2 ^ 32) (hchannels : 0 < channels) (hchannels' : channels < 2 ^ 16)
    (hlen : 2 * pcm.length + 36 < 2 ^ 32) :
    decodeWAV int16Of (encodeWAV pcm sampleRate channels) = finishWAV ⟨1, channels, sampleRate, 16, pcm⟩ := by
  have hbytes := encodeWAV_eq hrate hchannels hlen
  obtain ⟨hheader, hdrop, hlength⟩ := riff_header (length_leBytes 4 (36 + pcm.length * 2))
    ((fmtChunk sampleRate channels).bytes ++ (dataChunk pcm).bytes)
  rw [← hbytes] at hheader hdrop hlength
  have hchunks : chunksOf ((encodeWAV pcm sampleRate channels).drop 12) =
      ([fmtChunk sampleRate channels, dataChunk pcm], .whole) := by
    have hdata := chunksOf_bytes (dataChunk_whole hlen) []
    rw [List.append_nil, chunksOf_nil] at hdata
    rw [hdrop, chunksOf_bytes (fmtChunk_whole sampleRate channels), hdata]
  have h44 : 44 ≤ (encodeWAV pcm sampleRate channels).length := by
    rw [hlength]
    simp [Chunk.bytes, fmtChunk, dataChunk, fmtID, dataID]
    omega
  have hdata : takeChunk int16Of ⟨1, channels, sampleRate, 16, []⟩ (dataChunk pcm) =
      .ok ⟨1, channels, sampleRate, 16, pcm⟩ := by
    have hsamples := @readSamples_pcm int16Of ⟨1, channels, sampleRate, 16, []⟩ rfl
      (by show 16 ∈ readableBits; decide)
      (pcm.flatMap fun s => leBytes 2 s.toUInt16.toNat)
    rw [pcmSamples_words] at hsamples
    unfold takeChunk dataChunk
    rw [if_neg (by decide : ¬ dataID = fmtID), if_pos rfl, hsamples]
    rfl
  rw [decodeWAV_eq h44 hheader, hchunks, List.foldlM_cons, fmtChunk_fields hrate' hchannels', ok_bind,
    List.foldlM_cons, hdata]
  rfl

/-! ## It returns -/

section Returns

variable (data : List UInt8)

/-- The loop gets to the end of the file. -/
def Walked : Prop :=
  44 ≤ data.length ∧ isWAVHeader data = true ∧ (chunksOf (data.drop 12)).2 = .whole ∧
    ∀ c ∈ (chunksOf (data.drop 12)).1, c.id = fmtID → 16 ≤ c.size

def declaredRate : Nat := rateOr (declared 4 4 0 (chunksOf (data.drop 12)).1)

def declaredChannels : Nat := channelsOr (declared 2 2 0 (chunksOf (data.drop 12)).1)

/-- Every byte string is read without a panic, unless the loop gets to the end and the rate times the channels that
the `fmt ` chunks declare is zero as a `uint32`. -/
theorem decodeWAV_returns_iff :
    (decodeWAV int16Of data).Safe ↔ (Walked data → declaredRate data * declaredChannels data % 2 ^ 32 ≠ 0) := by
  by_cases hlen : 44 ≤ data.length
  · by_cases hheader : isWAVHeader data = true
    · rw [decodeWAV_eq hlen hheader]
      by_cases hfmt : ∀ c ∈ (chunksOf (data.drop 12)).1, c.id = fmtID → 16 ≤ c.size
      · obtain ⟨vars, hfold, hrate, hchannels⟩ := foldlM_takeChunk hfmt {}
        rw [hfold, ok_bind]
        cases hend : (chunksOf (data.drop 12)).2 with
        | whole =>
          have hwalked : Walked data := ⟨hlen, hheader, hend, hfmt⟩
          have hproduct : rateOr vars.sampleRate * channelsOr vars.numChannels % 2 ^ 32 =
              declaredRate data * declaredChannels data % 2 ^ 32 := by
            rw [hrate, hchannels]
            rfl
          rw [Ending.finish, ok_bind, imp_iff_right hwalked, ← hproduct]
          constructor
          · intro hsafe hzero
            rw [finishWAV_panics hzero] at hsafe
            exact not_safe_panic hsafe
          · intro hne
            obtain ⟨tel, htel, -⟩ := finishWAV_ok vars hne
            rw [htel]
            exact safe_ok _
        | cutInId => exact iff_of_true (safe_error _) fun h => absurd (hend.symm.trans h.2.2.1) (by decide)
        | cutInSize => exact iff_of_true (safe_error _) fun h => absurd (hend.symm.trans h.2.2.1) (by decide)
      · obtain ⟨e, he⟩ := foldlM_takeChunk_short (chunksOf (data.drop 12)).1 (by simpa using hfmt) {}
        rw [he]
        exact iff_of_true (safe_error _) fun h => absurd h.2.2.2 hfmt
    · unfold decodeWAV
      rw [if_neg (by omega), if_pos (by simpa using hheader)]
      exact iff_of_true (safe_error _) fun h => absurd h.2.1 hheader
  · unfold decodeWAV
    rw [if_pos (by omega)]
    exact iff_of_true (safe_error _) fun h => absurd h.1 hlen

end Returns

/-- The rate times the channels is zero as a `uint32`. -/
theorem declared_product_panics : decodeWAV Float32.toInt16 (encodeWAV [] (2 ^ 31) 2) = .panic := by
  rw [decodeWAV_encoded (by decide) (by decide) (by decide) (by decide) (by decide)]
  exact finishWAV_panics (by decide)

/-! ## The round trip -/

/-- The samples, the rate and the channels come back. -/
theorem decodeWAV_encodeWAV (pcm : List Int16) {sampleRate channels : Nat} (hrate : 0 < sampleRate)
    (hrate' : sampleRate < 2 ^ 32) (hchannels : 0 < channels) (hchannels' : channels < 2 ^ 16)
    (hlen : 2 * pcm.length + 36 < 2 ^ 32) (hproduct : ¬ 2 ^ 32 ∣ sampleRate * channels) :
    ∃ tel, decodeWAV int16Of (encodeWAV pcm sampleRate channels) = .ok (pcm, tel) ∧ tel.sampleRate = sampleRate ∧
      tel.channels = channels := by
  have hrateOr : rateOr sampleRate = sampleRate := if_neg (by omega)
  have hchannelsOr : channelsOr channels = channels := if_neg (by omega)
  obtain ⟨tel, htel, hrate'', hchannels'', -⟩ := finishWAV_ok ⟨1, channels, sampleRate, 16, pcm⟩ (by
    show rateOr sampleRate * channelsOr channels % 2 ^ 32 ≠ 0
    rw [hrateOr, hchannelsOr]
    exact fun hzero => hproduct (Nat.dvd_of_mod_eq_zero hzero))
  refine ⟨tel, ?_, hrate''.trans hrateOr, hchannels''.trans hchannelsOr⟩
  rw [decodeWAV_encoded hrate hrate' hchannels hchannels' hlen, htel]

theorem decodeWAV_encodeWAV_stereo :
    ∃ tel, decodeWAV Float32.toInt16 (encodeWAV [1, -1] 44100 2) = .ok ([1, -1], tel) ∧ tel.sampleRate = 44100 ∧ tel.channels = 2 :=
  decodeWAV_encodeWAV [1, -1] (by decide) (by decide) (by decide) (by decide) (by decide) (by decide)

/-! ## Chunks between -/

section Chunks

/-- A chunk with the byte that pads it to an even length. -/
def padded (c : Chunk) : List UInt8 := c.bytes ++ if c.size % 2 = 1 then [0] else []

/-- A WAV file: one `fmt ` chunk, of PCM, before one `data` chunk, and any others. -/
structure WaveFile where
  before : List Chunk
  fmt : Chunk
  between : List Chunk
  data : Chunk
  after : List Chunk
  whole : ∀ c ∈ before ++ fmt :: between ++ data :: after, c.Whole
  fmt_id : fmt.id = fmtID
  fmt_size : 16 ≤ fmt.size
  pcm : fieldAt fmt.body 0 2 0 = 1
  bits_pos : 0 < fieldAt fmt.body 14 2 0
  data_id : data.id = dataID
  others : ∀ c ∈ before ++ between ++ after, c.id ≠ fmtID ∧ c.id ≠ dataID

namespace WaveFile

variable (f : WaveFile)

def chunks : List Chunk := f.before ++ f.fmt :: f.between ++ f.data :: f.after

def bytes : List UInt8 :=
  ascii ['R', 'I', 'F', 'F'] ++ leBytes 4 (4 + (f.chunks.flatMap padded).length) ++ ascii ['W', 'A', 'V', 'E'] ++
    f.chunks.flatMap padded

def rate : Nat := fieldAt f.fmt.body 4 4 0

def channels : Nat := fieldAt f.fmt.body 2 2 0

def bits : Nat := fieldAt f.fmt.body 14 2 0

def samples : List Int16 := pcmSamples f.bits f.data.body

/-- `DecodeWAV` returns them. -/
def Decodes (int16Of : Float32 → Int16) : Prop := ∃ tel, decodeWAV int16Of f.bytes = .ok (f.samples, tel)

/-- No chunk of the list is padded. -/
def Even (cs : List Chunk) : Prop := ∀ c ∈ cs, c.size % 2 = 0

/-- `DecodeWAV` reads samples of that width, and the rate times the channels is not zero as a `uint32`. -/
def Readable : Prop :=
  (f.bits ∈ readableBits ∨ f.samples = []) ∧ rateOr f.rate * channelsOr f.channels % 2 ^ 32 ≠ 0

end WaveFile

theorem foldlM_others {cs : List Chunk} (h : ∀ c ∈ cs, c.id ≠ fmtID ∧ c.id ≠ dataID) (vars : WavVars) :
    cs.foldlM (takeChunk int16Of) vars = .ok vars := by
  induction cs with
  | nil => rfl
  | cons c cs ih =>
    obtain ⟨hfmt, hdata⟩ := h c List.mem_cons_self
    have htake : takeChunk int16Of vars c = .ok vars := by
      unfold takeChunk
      rw [if_neg hfmt, if_neg hdata]
    rw [List.foldlM_cons, htake, ok_bind, ih fun c' hc' => h c' (List.mem_cons_of_mem c hc')]

theorem readSamples_other (vars : WavVars) (hpos : 0 < vars.bitsPerSample) (hbits : vars.bitsPerSample ∉ readableBits)
    (body : List UInt8) : readSamples int16Of vars body = .ok vars.pcmSamples := by
  simp only [readableBits, List.mem_cons, List.not_mem_nil, or_false, not_or] at hbits
  unfold readSamples
  rw [if_neg (by omega), if_neg hbits.1, if_neg hbits.2.2.1, if_neg hbits.2.2.2]

theorem foldlM_file (f : WaveFile) :
    f.chunks.foldlM (takeChunk int16Of) {} =
      .ok ⟨1, f.channels, f.rate, f.bits, if f.bits ∈ readableBits then f.samples else []⟩ := by
  have hpart : ∀ cs, cs ⊆ f.before ++ f.between ++ f.after → ∀ vars, cs.foldlM (takeChunk int16Of) vars = .ok vars :=
    fun cs hsub vars => foldlM_others (fun c hc => f.others c (hsub hc)) vars
  have hfmt : takeChunk int16Of {} f.fmt = .ok ⟨1, f.channels, f.rate, f.bits, []⟩ := by
    unfold takeChunk
    rw [if_pos f.fmt_id, if_neg (by have := f.fmt_size; omega), ← f.pcm]
    rfl
  have hdata : takeChunk int16Of ⟨1, f.channels, f.rate, f.bits, []⟩ f.data =
      .ok ⟨1, f.channels, f.rate, f.bits, if f.bits ∈ readableBits then f.samples else []⟩ := by
    unfold takeChunk
    rw [if_neg (by rw [f.data_id]; decide), if_pos f.data_id]
    by_cases hbits : f.bits ∈ readableBits
    · rw [readSamples_pcm ⟨1, f.channels, f.rate, f.bits, []⟩ rfl hbits, if_pos hbits]
      rfl
    · rw [readSamples_other ⟨1, f.channels, f.rate, f.bits, []⟩ f.bits_pos hbits, if_neg hbits]
      rfl
  unfold WaveFile.chunks
  rw [List.foldlM_append, List.foldlM_append, hpart f.before (by simp), ok_bind, List.foldlM_cons, hfmt, ok_bind,
    hpart f.between (by simp), ok_bind, List.foldlM_cons, hdata, ok_bind, hpart f.after (by simp)]

theorem flatMap_padded {cs : List Chunk} (h : WaveFile.Even cs) : cs.flatMap padded = cs.flatMap Chunk.bytes := by
  induction cs with
  | nil => rfl
  | cons c cs ih =>
    have heven : padded c = c.bytes := by
      have := h c List.mem_cons_self
      rw [padded, if_neg (by omega), List.append_nil]
    rw [List.flatMap_cons, List.flatMap_cons, heven, ih fun c' hc' => h c' (List.mem_cons_of_mem c hc')]

theorem length_padded {c : Chunk} (h : c.Whole) : 8 + c.size ≤ (padded c).length := by
  have hid := h.id
  have hbody := h.body
  simp only [padded, Chunk.bytes, List.length_append, length_leBytes]
  omega

theorem file_header (f : WaveFile) :
    44 ≤ f.bytes.length ∧ isWAVHeader f.bytes = true ∧ f.bytes.drop 12 = f.chunks.flatMap padded := by
  obtain ⟨hheader, hdrop, hlength⟩ := riff_header (length_leBytes 4 (4 + (f.chunks.flatMap padded).length))
    (f.chunks.flatMap padded)
  refine ⟨?_, hheader, hdrop⟩
  have hfmt := length_padded (f.whole f.fmt (by simp))
  have hdata := length_padded (f.whole f.data (by simp))
  have hsize := f.fmt_size
  have hsum : (padded f.fmt).length + (padded f.data).length ≤ (f.chunks.flatMap padded).length := by
    simp only [WaveFile.chunks, List.flatMap_append, List.flatMap_cons, List.length_append]
    omega
  rw [WaveFile.bytes, hlength]
  omega

theorem decodeWAV_even {f : WaveFile} (h : WaveFile.Even f.chunks) :
    decodeWAV int16Of f.bytes =
      finishWAV ⟨1, f.channels, f.rate, f.bits, if f.bits ∈ readableBits then f.samples else []⟩ := by
  obtain ⟨hlen, hheader, hdrop⟩ := file_header f
  have hchunks : chunksOf (f.chunks.flatMap padded) = (f.chunks, .whole) := by
    have hcut := chunksOf_flatMap f.whole []
    rw [chunksOf_nil, List.append_nil, List.append_nil] at hcut
    rw [flatMap_padded h]
    exact hcut
  rw [decodeWAV_eq hlen hheader, hdrop, hchunks, foldlM_file]
  rfl

theorem decodeWAV_odd_last {f : WaveFile} {cs : List Chunk} {c : Chunk} (hchunks : f.chunks = cs ++ [c])
    (h : WaveFile.Even cs) (hodd : c.size % 2 = 1) :
    decodeWAV int16Of f.bytes = .error (.corruptAudioData "error reading chunk header") := by
  obtain ⟨hlen, hheader, hdrop⟩ := file_header f
  have hbytes : f.chunks.flatMap padded = f.chunks.flatMap Chunk.bytes ++ [0] := by
    rw [hchunks, List.flatMap_append, List.flatMap_append, flatMap_padded h, List.append_assoc]
    simp [padded, hodd]
  have hrest : chunksOf [0] = ([], .cutInId) := by
    rw [chunksOf]
    rfl
  have hcut : chunksOf (f.chunks.flatMap padded) = (f.chunks, .cutInId) := by
    have hcut := chunksOf_flatMap f.whole [0]
    rw [hrest, List.append_nil] at hcut
    rw [hbytes]
    exact hcut
  rw [decodeWAV_eq hlen hheader, hdrop, hcut, foldlM_file]
  rfl

theorem decodes_even_iff {f : WaveFile} (h : WaveFile.Even f.chunks) : f.Decodes int16Of ↔ f.Readable := by
  unfold WaveFile.Decodes WaveFile.Readable
  rw [decodeWAV_even h]
  by_cases hproduct : rateOr f.rate * channelsOr f.channels % 2 ^ 32 = 0
  · rw [finishWAV_panics hproduct]
    exact iff_of_false (fun ⟨_, h⟩ => nomatch h) fun h => h.2 hproduct
  · obtain ⟨tel, htel, -⟩ := finishWAV_ok
      ⟨1, f.channels, f.rate, f.bits, if f.bits ∈ readableBits then f.samples else []⟩ hproduct
    rw [htel]
    by_cases hbits : f.bits ∈ readableBits
    · rw [if_pos hbits]
      exact iff_of_true ⟨tel, rfl⟩ ⟨.inl hbits, hproduct⟩
    · rw [if_neg hbits]
      constructor
      · rintro ⟨tel', htel'⟩
        exact ⟨.inr (Prod.mk.inj (Result.ok.inj htel')).1.symm, hproduct⟩
      · intro hread
        exact ⟨tel, by rw [hread.1.resolve_left hbits]⟩

/-- The samples of a file are found when none of its chunks is padded; when only the last one may be, they
are found in no other case. -/
theorem samples_found (f : WaveFile) :
    (WaveFile.Even f.chunks ∧ f.Readable → f.Decodes int16Of) ∧
      (WaveFile.Even f.chunks.dropLast → (f.Decodes int16Of ↔ WaveFile.Even f.chunks ∧ f.Readable)) := by
  refine ⟨fun ⟨heven, hread⟩ => (decodes_even_iff heven).mpr hread, fun hfront => ?_⟩
  by_cases heven : WaveFile.Even f.chunks
  · rw [decodes_even_iff heven]
    exact (and_iff_right heven).symm
  · have hne : f.chunks ≠ [] := by simp [WaveFile.chunks]
    have hsplit := (List.dropLast_append_getLast hne).symm
    have hodd : (f.chunks.getLast hne).size % 2 = 1 := by
      by_contra hlast
      refine heven fun c hc => ?_
      rw [hsplit] at hc
      rcases List.mem_append.mp hc with hc | hc
      · exact hfront c hc
      · rw [List.mem_singleton.mp hc]
        omega
    refine iff_of_false ?_ fun h => heven h.1
    rintro ⟨tel, htel⟩
    rw [decodeWAV_odd_last hsplit hfront hodd] at htel
    cases htel

/-- One sample, after a list chunk of one byte. -/
def listedFile : WaveFile where
  before := []
  fmt := fmtChunk 8000 1
  between := [⟨ascii ['L', 'I', 'S', 'T'], 1, [65]⟩]
  data := dataChunk [7]
  after := []
  whole := by
    intro c hc
    simp only [List.nil_append, List.cons_append, List.mem_cons, List.not_mem_nil, or_false] at hc
    rcases hc with rfl | rfl | rfl
    · exact fmtChunk_whole 8000 1
    · exact ⟨rfl, by decide, rfl⟩
    · exact dataChunk_whole (by decide)
  fmt_id := rfl
  fmt_size := by decide
  pcm := by decide
  bits_pos := by decide
  data_id := rfl
  others := by
    intro c hc
    simp only [List.nil_append, List.append_nil, List.mem_singleton] at hc
    rw [hc]
    decide

/-- The padding makes the size of the data chunk 609, which ends the file: no sample is found. -/
theorem odd_chunk_hides_data : listedFile.Readable ∧ listedFile.samples = [7] ∧ ¬ listedFile.Decodes Float32.toInt16 := by
  have hlost : chunksOf (0 :: (dataChunk [7]).bytes) = ([⟨[0, 100, 97, 116], 609, [0, 7, 0]⟩], .whole) := by
    have hsize : leNat (((0 :: (dataChunk [7]).bytes).drop 4).take 4) = 609 := by decide
    rw [chunksOf, if_neg (by decide), if_neg (by decide), if_neg (by decide), hsize]
    simp only
    rw [show (0 :: (dataChunk [7]).bytes).drop (8 + 609) = [] by decide, chunksOf_nil]
    rfl
  have hwhole : ∀ c ∈ [fmtChunk 8000 1, ⟨ascii ['L', 'I', 'S', 'T'], 1, [65]⟩], c.Whole := fun c hc =>
    listedFile.whole c (by
      show c ∈ [fmtChunk 8000 1, ⟨ascii ['L', 'I', 'S', 'T'], 1, [65]⟩, dataChunk [7]]
      exact List.mem_append_left [dataChunk [7]] hc)
  obtain ⟨hlen, hheader, hdrop⟩ := file_header listedFile
  have hbytes : listedFile.chunks.flatMap padded =
      [fmtChunk 8000 1, ⟨ascii ['L', 'I', 'S', 'T'], 1, [65]⟩].flatMap Chunk.bytes ++ 0 :: (dataChunk [7]).bytes := by
    decide
  have hdecode : decodeWAV Float32.toInt16 listedFile.bytes = finishWAV ⟨1, 1, 8000, 16, []⟩ := by
    have hfold : [fmtChunk 8000 1, ⟨ascii ['L', 'I', 'S', 'T'], 1, [65]⟩, ⟨[0, 100, 97, 116], 609, [0, 7, 0]⟩].foldlM
        (takeChunk Float32.toInt16) {} = .ok ⟨1, 1, 8000, 16, []⟩ := by
      rw [List.foldlM_cons, fmtChunk_fields (by decide) (by decide), ok_bind]
      exact foldlM_others (by decide) _
    rw [decodeWAV_eq hlen hheader, hdrop, hbytes, chunksOf_flatMap hwhole, hlost]
    simp only [List.cons_append, List.nil_append]
    rw [hfold]
    rfl
  have hsamples : listedFile.samples = [7] := pcmSamples_words [7]
  obtain ⟨tel, htel, -⟩ := finishWAV_ok ⟨1, 1, 8000, 16, []⟩ (by decide)
  refine ⟨⟨.inl (by decide), by decide⟩, hsamples, ?_⟩
  rintro ⟨tel', htel'⟩
  rw [hdecode, htel, hsamples] at htel'
  cases htel'

end Chunks

end PerGo.L4.WavFiles

/-!
## Reading MP4 files

`DecodeMP4AAC` returns on every byte string but two kinds: a box, not the first one, whose 64-bit size takes its
end past the largest `int`, and a `moov` box whose `mvhd` field of version 1 is cut in its duration, at
the end of the memory.

* `decodeMP4AAC_returns_iff`: when it returns.
-/
namespace PerGo.L4.BoxWalk

open PerGo.Core PerGo.Core.Result PerGo.L1 PerGo.L3.Media

inductive BoxAt (data : Slice) : Nat → Prop
  | first : BoxAt data 0
  | behind {o : Nat} : BoxAt data o → HasHeader data o → BoxAt data (o + extent data o)

/-- No box makes the end of its size or the duration of its `mvhd` field unreadable. -/
def SoundBoxes (data : Slice) : Prop :=
  ∀ o, BoxAt data o → HasHeader data o → ¬ Wraps data o ∧ ¬ CutMoov data o

theorem boxAt_of_reached {overflow : ℚ → Int} {data : Slice} {s : BoxState}
    (h : (boxLoop overflow data).Reached ⟨0, {}⟩ s) : BoxAt data s.offset := by
  refine h.inv (I := fun s => BoxAt data s.offset) (fun s s' hs hround => ?_) .first
  obtain ⟨hheader, hoffset⟩ := boxRound_again overflow hround
  rw [hoffset]
  exact .behind hs hheader

/-- While the boxes are sound the walk gets to each of them. -/
theorem reached_of_boxAt {overflow : ℚ → Int} {data : Slice}
    (hsafe : ∀ s, (boxLoop overflow data).Reached ⟨0, {}⟩ s → ((boxLoop overflow data).round s).Safe) {o : Nat}
    (h : BoxAt data o) : ∃ s, (boxLoop overflow data).Reached ⟨0, {}⟩ s ∧ s.offset = o := by
  induction h with
  | first => exact ⟨_, .start, rfl⟩
  | behind _ hheader ih =>
    obtain ⟨s, hreached, rfl⟩ := ih
    obtain ⟨hwraps, hcut⟩ := (boxRound_safe_iff overflow).mp (hsafe s hreached) hheader
    obtain ⟨vars', hvars'⟩ := (boxRound_box overflow s hheader hwraps).2 hcut
    exact ⟨_, .again hreached hvars', rfl⟩

theorem boxLoop_safe_iff (overflow : ℚ → Int) (data : Slice) :
    ((boxLoop overflow data).run ⟨0, {}⟩).Safe ↔ SoundBoxes data := by
  rw [Loop.run_safe_iff]
  constructor
  · intro hsafe o hbox hheader
    obtain ⟨s, hreached, rfl⟩ := reached_of_boxAt hsafe hbox
    exact (boxRound_safe_iff overflow).mp (hsafe s hreached) hheader
  · intro hsound s hreached
    exact (boxRound_safe_iff overflow).mpr (hsound s.offset (boxAt_of_reached hreached))

/-- Every byte string is read without a panic, unless the box walk meets one of the two kinds of box. -/
theorem decodeMP4AAC_returns_iff (overflow : ℚ → Int) (data : Slice) :
    (decodeMP4AAC overflow data).Safe ↔ data.len < 8 ∨ isADTSAACHeader data.bytes = true ∨ SoundBoxes data := by
  unfold decodeMP4AAC
  by_cases hlen : data.len < 8
  · rw [if_pos hlen]
    exact iff_of_true (safe_error _) (.inl hlen)
  · rw [if_neg hlen, or_iff_right hlen]
    by_cases hadts : isADTSAACHeader data.bytes = true
    · rw [if_pos hadts]
      exact iff_of_true (decodeADTSAAC_safe _) (.inl hadts)
    · rw [if_neg hadts, or_iff_right hadts, safe_bind_iff, boxLoop_safe_iff]
      exact and_iff_left fun vars _ => finishMP4_safe data vars

/-- A free box, and one whose size is the largest `int`. -/
def largeBox : Slice :=
  .ofBytes ([0, 0, 0, 8] ++ ascii ['f', 'r', 'e', 'e'] ++ ([0, 0, 0, 1] ++ ascii ['f', 'r', 'e', 'e'] ++
    [127, 255, 255, 255, 255, 255, 255, 255])) (by decide)

/-- A `moov` box that ends in the duration of its `mvhd` box. -/
def cutBox : Slice :=
  .ofBytes ([0, 0, 0, 44] ++ moovType ++ ([0, 0, 0, 36] ++ mvhdType ++ [1, 0, 0, 0] ++ List.replicate 24 0)) (by decide)

theorem boxes_panic : decodeMP4AAC (fun _ => 0) largeBox = .panic ∧ decodeMP4AAC (fun _ => 0) cutBox = .panic := by
  constructor
  · have hextent : extent largeBox 0 = 8 := by decide
    have hfirst : HasHeader largeBox 0 := ⟨by decide, by decide⟩
    have hnocut : ¬ CutMoov largeBox 0 := fun h => absurd h.1 (by decide)
    obtain ⟨vars, hvars⟩ := (boxRound_box (fun _ => 0) ⟨0, {}⟩ hfirst fun h => absurd h.2 (by decide)).2 hnocut
    rw [hextent] at hvars
    have hheader : HasHeader largeBox 8 := ⟨by decide, by decide⟩
    have hend : Wraps largeBox 8 := ⟨by decide, by decide⟩
    have hwraps := boxRound_wraps (fun _ => 0) ⟨0 + 8, vars⟩ hheader hend
    have hrun : (boxLoop (fun _ => 0) largeBox).run ⟨0, {}⟩ = .panic := by
      have hround : (boxLoop (fun _ => 0) largeBox).round ⟨0, {}⟩ = _ := hvars
      have hround' : (boxLoop (fun _ => 0) largeBox).round ⟨0 + 8, vars⟩ = _ := hwraps
      rw [Loop.run_eq, hround, ok_bind]
      simp only
      rw [Loop.run_eq, hround']
      rfl
    unfold decodeMP4AAC
    rw [if_neg (by decide), if_neg (by decide), hrun]
    rfl
  · have hheader : HasHeader cutBox 0 := ⟨by decide, by decide⟩
    have hcut := (boxRound_box (fun _ => 0) ⟨0, {}⟩ hheader fun h => absurd h.2 (by decide)).1
      ⟨by decide, 12, by decide, by decide, by decide, by decide⟩
    have hround : (boxLoop (fun _ => 0) cutBox).round ⟨0, {}⟩ = _ := hcut
    unfold decodeMP4AAC
    rw [if_neg (by decide), if_neg (by decide), Loop.run_eq, hround]
    rfl

end PerGo.L4.BoxWalk
