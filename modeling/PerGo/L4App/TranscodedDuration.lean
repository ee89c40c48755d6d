import PerGo.L3Media.Transcode
import PerGo.L4App.OggPackets
import PerGo.L4App.AudioFiles

/-!
# The duration of what is transcoded

`TranscodeAudio` of a WAV file, and `DecodeAudio` of its output. The samples of the file are interleaved. The Ogg
encoder writes the duration into the stream; those of AAC and MP3 write a frame for every 1024 or 1152 samples,
whatever the channels, and a stream whose rate may be another.

* `decodeADTSAAC_encoded`, `decodeMP3_encoded`, `decodeOGGOpus_encoded`: the duration of each output.
* `duration_preserved_iff`: when it is that of the file, up to a frame.
-/
namespace PerGo.L4.TranscodedDuration

open PerGo.Core PerGo.Core.Result PerGo.L1 PerGo.L3.Media PerGo.L4.OggPackets
open PerGo.L4.WavFiles (decodeWAV_encoded length_words)

section Audio

variable (int16Of : Float32 → Int16) (overflow : ℚ → Int)

/-! ## Frames -/

theorem numFrames_pos (frameSamples samples : Nat) : 0 < numFrames frameSamples samples := by
  unfold numFrames
  simp only
  generalize (if samples = 0 then frameSamples else samples) / frameSamples = n
  split
  · decide
  · omega

theorem numFrames_eq {frameSamples : Nat} (h : 0 < frameSamples) (samples : Nat) :
    numFrames frameSamples samples = max 1 (samples / frameSamples) := by
  unfold numFrames
  simp only
  by_cases hnone : samples = 0
  · rw [if_pos hnone, Nat.div_self h, hnone, Nat.zero_div]
    rfl
  · rw [if_neg hnone]
    generalize samples / frameSamples = n
    split
    · omega
    · omega

theorem flatten_replicate {α : Type} (frame : List α) {n : Nat} (h : 0 < n) :
    (List.replicate n frame).flatten = frame ++ (List.replicate (n - 1) frame).flatten := by
  obtain ⟨m, rfl⟩ := Nat.exists_eq_add_of_lt h
  rw [Nat.zero_add, List.replicate_succ, List.flatten_cons, Nat.add_sub_cancel]

theorem length_frames {α : Type} {frame : List α} (hframe : frame.length < 2 ^ 10) {frameSamples samples : Nat}
    (hpos : 0 < frameSamples) (hsamples : samples < 2 ^ 32) :
    (List.replicate (numFrames frameSamples samples) frame).flatten.length < 2 ^ 63 := by
  have hle : samples / frameSamples ≤ samples := Nat.div_le_self _ _
  have hframes : numFrames frameSamples samples ≤ 2 ^ 32 := by
    rw [numFrames_eq hpos]
    omega
  rw [List.length_flatten, List.map_replicate, List.sum_replicate_nat]
  calc numFrames frameSamples samples * frame.length ≤ 2 ^ 32 * 2 ^ 10 := Nat.mul_le_mul hframes hframe.le
    _ < 2 ^ 63 := by decide

/-! ## Headers -/

theorem isWAVHeader_cons {b : UInt8} (h : b ≠ 0x52) (bs : List UInt8) : isWAVHeader (b :: bs) = false := by
  simp [isWAVHeader, ascii, h]

theorem isOGGHeader_cons {b : UInt8} (h : b ≠ 0x4F) (bs : List UInt8) : isOGGHeader (b :: bs) = false := by
  simp [isOGGHeader, oggS, ascii, h]

/-! ## AAC -/

def aacRate (sampleRate : Nat) : Nat := if sampleRate ∈ aacSampleRateTable then sampleRate else 44100

theorem getElem?_aacRateIndex (sampleRate : Nat) :
    aacSampleRateTable[aacRateIndex sampleRate]? = some (aacRate sampleRate) := by
  unfold aacRateIndex aacRate
  cases hidx : aacSampleRateTable.idxOf? sampleRate with
  | none =>
    rw [if_neg (List.idxOf?_eq_none_iff.mp hidx)]
    rfl
  | some i =>
    obtain ⟨hlt, heq, -⟩ := List.findIdx?_eq_some_iff_getElem.mp hidx
    have hrate : aacSampleRateTable[i] = sampleRate := by simpa using heq
    rw [Option.getD_some, List.getElem?_eq_getElem hlt, hrate, if_pos (hrate ▸ List.getElem_mem hlt)]

theorem aacRateIndex_lt (sampleRate : Nat) : aacRateIndex sampleRate < 13 := by
  obtain ⟨hlt, -⟩ := List.getElem?_eq_some_iff.mp (getElem?_aacRateIndex sampleRate)
  exact hlt

theorem aacRate_pos (sampleRate : Nat) : 0 < aacRate sampleRate := by
  unfold aacRate
  split
  · rename_i hmem
    exact aacSampleRateTable_pos hmem
  · decide

/-! The bits of the header that are read. -/

theorem rate_bits : ∀ i < 13, ∀ b < 2,
    ((UInt8.ofNat ((1 <<< 6) ||| ((i &&& 0x0F) <<< 2) ||| b) >>> 2) &&& 0x0F).toNat = i := by decide

theorem length_bits : ∀ a < 4, UInt8.ofNat ((a <<< 6) ||| ((15 >>> 11) &&& 0x03)) &&& 0x03 = 0 := by decide

theorem adtsRound_aacFrame {srIdx : Nat} (hsr : srIdx < 13) (channels : Nat) (gain : UInt8) (vars : AdtsVars)
    (rest : List UInt8) :
    ∃ vars', adtsRound vars (aacFrame srIdx channels gain ++ rest) = .ok (.again (vars', rest)) ∧
      vars'.totalFrames = vars.totalFrames + 1 ∧ vars'.sampleRate = aacSampleRateTable.getD srIdx vars.sampleRate := by
  have hrate := rate_bits srIdx hsr ((channels >>> 2) &&& 0x01) (Nat.lt_succ_of_le Nat.and_le_right)
  have hlength := length_bits (channels &&& 0x03) (Nat.lt_succ_of_le Nat.and_le_right)
  have hframe : adtsFrameLen (UInt8.ofNat (((channels &&& 0x03) <<< 6) ||| ((15 >>> 11) &&& 0x03)))
      (UInt8.ofNat ((15 >>> 3) &&& 0xFF)) (UInt8.ofNat (((15 &&& 0x07) <<< 5) ||| 0x1F)) = 7 + 8 := by
    unfold adtsFrameLen
    rw [hlength]
    decide
  obtain ⟨vars', hround, hframes, hsample⟩ := adtsRound_frame 0xF1
    (UInt8.ofNat ((1 <<< 6) ||| ((srIdx &&& 0x0F) <<< 2) ||| ((channels >>> 2) &&& 0x01)))
    (UInt8.ofNat (((channels &&& 0x03) <<< 6) ||| ((15 >>> 11) &&& 0x03))) (UInt8.ofNat ((15 >>> 3) &&& 0xFF))
    (UInt8.ofNat (((15 &&& 0x07) <<< 5) ||| 0x1F)) 0xFC
    [(gain >>> 7) &&& 0x01, (gain <<< 1) &&& 0xFE, 0, 0, 0, 0, 0, 0] (by decide)
    hframe vars rest
  rw [hrate] at hsample
  exact ⟨vars', hround, hframes, hsample⟩

theorem adtsLoop_frames {srIdx : Nat} (hsr : srIdx < 13) (channels : Nat) (gain : UInt8) {n : Nat} (hn : 0 < n) :
    ∃ vars, adtsLoop.run ({}, (List.replicate n (aacFrame srIdx channels gain)).flatten) = .ok vars ∧
      vars.totalFrames = n ∧ aacSampleRateTable[srIdx]? = some vars.sampleRate := by
  obtain ⟨vars, hrun, htotal, hrate⟩ := Loop.run_frames adtsLoop (aacFrame srIdx channels gain)
    (fun k vars => vars.totalFrames = k ∧ (0 < k → aacSampleRateTable[srIdx]? = some vars.sampleRate))
    (fun k vars rest hvars => by
      obtain ⟨vars', hround, hframes, hsample⟩ := adtsRound_aacFrame hsr channels gain vars rest
      refine ⟨vars', hround, by omega, fun _ => ?_⟩
      rw [hsample, List.getD_eq_getElem?_getD, List.getElem?_eq_getElem hsr]
      rfl) n (k := 0) (s := {}) ⟨rfl, fun h => absurd h (Nat.lt_irrefl 0)⟩
  rw [Nat.zero_add] at htotal hrate
  have hend : adtsLoop.run (vars, []) = .ok vars := by
    rw [Loop.run_eq]
    rfl
  exact ⟨vars, hrun.trans hend, htotal, hrate hn⟩

theorem decodeADTSAAC_encoded (pcm : List Int16) (sampleRate channels : Nat) :
    ∃ out tel, decodeADTSAAC (encodeADTSAAC pcm sampleRate channels) = .ok (out, tel) ∧
      tel.durationMS = (numFrames 1024 pcm.length * 1024 * 1000 / aacRate sampleRate : Nat) ∧
      tel.sampleRate = aacRate sampleRate := by
  have hpos := numFrames_pos 1024 pcm.length
  obtain ⟨vars, hrun, htotal, hrate⟩ := adtsLoop_frames (aacRateIndex_lt sampleRate) (if channels = 0 then 1 else channels)
    (aacGlobalGain pcm) hpos
  rw [getElem?_aacRateIndex, Option.some.injEq] at hrate
  have hratepos := aacRate_pos sampleRate
  obtain ⟨tel, htel, hduration, hsample, -⟩ := newAudioTelemetry_ok vars.syntheticPCM
    (((vars.totalFrames * 1024 * 1000 : Nat) : Int).tdiv (vars.sampleRate : Nat)) vars.sampleRate vars.channels "aac"
  refine ⟨vars.syntheticPCM, tel, ?_, ?_, hsample.trans hrate.symm⟩
  · unfold decodeADTSAAC encodeADTSAAC
    rw [hrun, ok_bind, if_neg (by omega), quotient_of_ne (by omega), ok_bind, htel]
    rfl
  · rw [hduration, htotal, ← hrate, Int.ofNat_tdiv]

/-- The output begins with the sync word of its first frame. -/
theorem encodeADTSAAC_eq (pcm : List Int16) (sampleRate channels : Nat) :
    ∃ tail, encodeADTSAAC pcm sampleRate channels = 0xFF :: 0xF1 :: tail ∧ 13 ≤ tail.length := by
  unfold encodeADTSAAC
  simp only
  rw [flatten_replicate _ (numFrames_pos 1024 pcm.length)]
  refine ⟨_, rfl, ?_⟩
  simp

theorem decodeAudio_aac {s : Slice} {pcm : List Int16} {sampleRate channels : Nat}
    (h : s.bytes = encodeADTSAAC pcm sampleRate channels) {contentType : String}
    (htype : normalizeAudioFormat contentType = none ∨ normalizeAudioFormat contentType = some .mp4) :
    decodeAudio int16Of overflow s contentType = decodeADTSAAC (encodeADTSAAC pcm sampleRate channels) := by
  obtain ⟨tail, htail, hlength⟩ := encodeADTSAAC_eq pcm sampleRate channels
  have hlen : s.len = tail.length + 2 := by rw [← s.length_bytes, h, htail, List.length_cons, List.length_cons]
  have hheader : isADTSAACHeader s.bytes = true := by
    rw [h, htail]
    rfl
  have hsniff : sniffFormat s.bytes = some .mp4 := by
    unfold sniffFormat
    rw [hheader, h, htail, isWAVHeader_cons (by decide), isOGGHeader_cons (by decide), Bool.or_true]
    rfl
  rw [decodeAudio_sniffed int16Of overflow s hsniff htype (by omega), decodeAs, decodeMP4AAC, if_neg (by omega), if_pos hheader, h]

/-! ## MP3 -/

theorem length_mp3Frame (gain : UInt8) : (mp3Frame gain).length = 417 := by
  rw [mp3Frame, List.length_append, List.length_replicate]
  rfl

theorem mp3Round_mp3Frame (gain : UInt8) (vars : Mp3Vars) (rest : List UInt8) :
    ∃ vars', mp3Round vars (mp3Frame gain ++ rest) = .ok (.again (vars', rest)) ∧
      vars'.totalSamples = vars.totalSamples + 1152 ∧ vars'.sampleRate = 44100 := by
  have hlen : mp3FrameLen 0xFB 0x90 128 44100 = .ok (4 + (gain :: List.replicate 412 0).length) := by
    rw [List.length_cons, List.length_replicate]
    rfl
  exact mp3Round_frame 0xFB 0x90 0xC0 (gain :: List.replicate 412 0) (by decide) (by decide) rfl (by decide) (by decide)
    hlen (List.cons_ne_nil _ _) vars rest

theorem mp3Loop_frames (gain : UInt8) (n : Nat) :
    ∃ vars, mp3Loop.run ({}, (List.replicate n (mp3Frame gain)).flatten) = .ok vars ∧ vars.totalSamples = n * 1152 ∧
      vars.sampleRate = 44100 := by
  obtain ⟨vars, hrun, htotal, hrate⟩ := Loop.run_frames mp3Loop (mp3Frame gain)
    (fun k vars => vars.totalSamples = k * 1152 ∧ vars.sampleRate = 44100)
    (fun k vars rest hvars => by
      obtain ⟨vars', hround, hsamples, hrate⟩ := mp3Round_mp3Frame gain vars rest
      exact ⟨vars', hround, by omega, hrate⟩) n (k := 0) (s := {}) ⟨rfl, rfl⟩
  rw [Nat.zero_add] at htotal
  have hend : mp3Loop.run (vars, []) = .ok vars := by
    rw [Loop.run_eq]
    rfl
  exact ⟨vars, hrun.trans hend, htotal, hrate⟩

/-- The output begins with the header of its first frame. -/
theorem encodeMP3_eq (pcm : List Int16) :
    ∃ gain tail, encodeMP3 pcm = 0xFF :: 0xFB :: 0x90 :: 0xC0 :: gain :: 0 :: tail := by
  unfold encodeMP3
  rw [flatten_replicate _ (numFrames_pos 1152 pcm.length)]
  exact ⟨_, _, rfl⟩

theorem decodeMP3_encoded (pcm : List Int16) :
    ∃ out tel, decodeMP3 (encodeMP3 pcm) = .ok (out, tel) ∧
      tel.durationMS = (numFrames 1152 pcm.length * 1152 * 1000 / 44100 : Nat) ∧ tel.sampleRate = 44100 := by
  have hpos := numFrames_pos 1152 pcm.length
  obtain ⟨gain, tail, hbytes⟩ := encodeMP3_eq pcm
  have hlen : ¬ (encodeMP3 pcm).length < 4 := by
    rw [hbytes]
    simp
  have hid3 : id3Length (encodeMP3 pcm) = .ok 0 := by
    rw [hbytes]
    unfold id3Length
    rw [if_neg (by simp [ascii])]
  obtain ⟨vars, hrun, htotal, hrate⟩ := mp3Loop_frames (mp3Gain pcm) (numFrames 1152 pcm.length)
  obtain ⟨tel, htel, hduration, hsample, -⟩ := newAudioTelemetry_ok vars.syntheticPCM
    (((vars.totalSamples * 1000 : Nat) : Int).tdiv (vars.sampleRate : Nat)) vars.sampleRate vars.channels "mp3"
  refine ⟨vars.syntheticPCM, tel, ?_, ?_, hsample.trans hrate⟩
  · unfold decodeMP3
    rw [if_neg hlen, hid3, ok_bind, List.drop_zero, encodeMP3, hrun, ok_bind, if_neg (by omega),
      quotient_of_ne (by omega), ok_bind, htel]
    rfl
  · rw [hduration, htotal, hrate, Int.ofNat_tdiv]

theorem decodeAudio_mp3 {s : Slice} {pcm : List Int16} (h : s.bytes = encodeMP3 pcm) {contentType : String}
    (htype : normalizeAudioFormat contentType = none ∨ normalizeAudioFormat contentType = some .mp3) :
    decodeAudio int16Of overflow s contentType = decodeMP3 (encodeMP3 pcm) := by
  obtain ⟨gain, tail, hbytes⟩ := encodeMP3_eq pcm
  have hlen : s.len = tail.length + 6 := by
    rw [← s.length_bytes, h, hbytes]
    rfl
  have hmp4 : isMP4Header s.bytes = false := by
    rw [h, hbytes]
    simp [isMP4Header, ascii]
  have hadts : isADTSAACHeader s.bytes = false := by
    rw [h, hbytes]
    rfl
  have hmp3 : isMP3Header s.bytes = true := by
    rw [h, hbytes]
    rfl
  have hsniff : sniffFormat s.bytes = some .mp3 := by
    unfold sniffFormat
    rw [hmp4, hadts, hmp3, h, hbytes, isWAVHeader_cons (by decide), isOGGHeader_cons (by decide)]
    rfl
  rw [decodeAudio_sniffed int16Of overflow s hsniff htype (by omega), decodeAs, h]

/-! ## Ogg -/

def writtenPage (headerType : UInt8) (granule sequence : Nat) (packet : List UInt8) (h : packet.length ≤ 255) : Page :=
  ⟨headerType, leBytes 8 granule, leBytes 4 12345 ++ leBytes 4 sequence ++ leBytes 4 0, [packet], length_leBytes 8 _,
    by simp, by simp, by simpa using h⟩

theorem bytes_writtenPage (headerType : UInt8) (granule sequence : Nat) {packet : List UInt8} (h : packet.length ≤ 255) :
    (writtenPage headerType granule sequence packet h).bytes = oggPage headerType granule sequence packet := by
  simp [writtenPage, Page.bytes, Page.table, Page.payload, oggPage]

theorem opusHead_marker : opusHead <+: opusHeadPacket := List.prefix_append ..

def writtenStream (granule : Nat) (packet : List UInt8) (h : packet.length < 255) : OggStream where
  head := writtenPage 0x02 0 0 opusHeadPacket (by decide)
  tags := [writtenPage 0x00 0 1 opusTagsPacket (by decide)]
  audio := [writtenPage 0x04 granule 2 packet (by omega)]
  headPacket := opusHeadPacket
  tagsPacket := opusTagsPacket
  packets := [packet]
  head_marker := opusHead_marker
  head_length := by decide
  tags_marker := by
    rw [opusTagsPacket, List.append_assoc, List.append_assoc]
    exact List.prefix_append ..
  head_laced := (lace_of_lt (by decide)).symm
  tags_laced := (lace_of_lt (by decide)).symm
  audio_laced := by
    rw [List.flatMap_singleton, List.flatMap_singleton, lace_of_lt h]
    rfl
  eos_last := by
    intro p hp
    have hmem : p = writtenPage 0x02 0 0 opusHeadPacket (by decide) ∨ p = writtenPage 0x00 0 1 opusTagsPacket (by decide) := by
      simpa using hp
    rcases hmem with rfl | rfl
    · decide
    · decide

theorem lastGranule_writtenStream {granule : Nat} (hgranule : granule < 2 ^ 64) {packet : List UInt8}
    (h : packet.length < 255) : (writtenStream granule packet h).lastGranule = granule := by
  show max (max (max 0 (leNat (leBytes 8 0))) (leNat (leBytes 8 0))) (leNat (leBytes 8 granule)) = granule
  rw [leNat_leBytes_of_lt (by omega), leNat_leBytes_of_lt (by omega)]
  omega

theorem encodeOggOpus_eq (pcm : List Int16) (sampleRate : Nat) (durationMs : Int) :
    ∃ packet h, encodeOggOpus pcm sampleRate durationMs =
      (writtenStream (((opusDuration pcm.length sampleRate durationMs * 48000).tdiv 1000) % 2 ^ 64).toNat packet h).bytes := by
  unfold encodeOggOpus
  simp only
  generalize (if (calculateRMS pcm * 64.0).toUInt8 > 64 then 64 else (calculateRMS pcm * 64.0).toUInt8) = gain
  refine ⟨[0x48, 0x80, gain, gain, gain, gain], by simp, ?_⟩
  simp only [OggStream.bytes, writtenStream, List.singleton_append, List.flatMap_cons, List.flatMap_nil, List.append_nil,
    bytes_writtenPage, List.append_assoc]

theorem length_oggPage (headerType : UInt8) (granule sequence : Nat) (packet : List UInt8) :
    (oggPage headerType granule sequence packet).length = 28 + packet.length := by
  simp [oggPage, oggS]
  omega

theorem length_encodeOggOpus (pcm : List Int16) (sampleRate : Nat) (durationMs : Int) :
    (encodeOggOpus pcm sampleRate durationMs).length < 2 ^ 63 := by
  unfold encodeOggOpus
  simp only [List.length_append, length_oggPage, List.length_cons, List.length_nil]
  decide

theorem opusDuration_eq (samples sampleRate durationMs : Nat) :
    opusDuration samples sampleRate durationMs =
      (if 0 < durationMs then durationMs else if 0 < samples * 1000 / sampleRate then samples * 1000 / sampleRate else 1000 : Nat) := by
  have hnone : ¬ (0 < sampleRate ∧ 0 < samples) → samples * 1000 / sampleRate = 0 := by
    intro hreal
    rcases Nat.eq_zero_or_pos sampleRate with rfl | hrate
    · exact Nat.div_zero _
    · have hsamples : samples = 0 := by omega
      rw [hsamples, Nat.zero_mul, Nat.zero_div]
  unfold opusDuration
  generalize samples * 1000 / sampleRate = quotient at hnone ⊢
  simp only
  split_ifs <;> omega

theorem granule_eq {ms : Nat} (h : ms < 2 ^ 44) : (((ms : Int) * 48000).tdiv 1000 % 2 ^ 64).toNat = 48 * ms := by
  have hdiv : ((ms : Int) * 48000).tdiv 1000 = (48 * ms : Nat) := by
    rw [Int.tdiv_eq_ediv_of_nonneg (by omega)]
    omega
  rw [hdiv, Int.emod_eq_of_lt (Int.natCast_nonneg _) (by omega), Int.toNat_natCast]

/-- The milliseconds that were written are read: the rounding of the granule position is exact. -/
theorem floor_granule {ms : Nat} (h : ms < 2 ^ 44) :
    ⌊float64 (float64 (float64 (48 * ms : Nat) * 1000) / 48000)⌋ = ms := by
  have hscaled : ((48 * ms : Nat) : ℚ) * 1000 = (375 * ms : Nat) * 2 ^ 7 := by
    push_cast
    ring
  have hdivided : ((375 * ms : Nat) : ℚ) * 2 ^ 7 / 48000 = ms := by
    push_cast
    ring
  rw [float64_natCast (by omega), hscaled, float64_natCast_mul_two_pow (by omega), hdivided, float64_natCast (by omega),
    Int.floor_natCast]

theorem decodeOGGOpus_encoded (pcm : List Int16) (sampleRate : Nat) (durationMs : Int) {ms : Nat}
    (hms : opusDuration pcm.length sampleRate durationMs = ms) (hpos : 0 < ms) (hlt : ms < 2 ^ 44) :
    ∃ out tel, decodeOGGOpus (encodeOggOpus pcm sampleRate durationMs) = .ok (out, tel) ∧ tel.durationMS = ms := by
  obtain ⟨packet, h, hbytes⟩ := encodeOggOpus_eq pcm sampleRate durationMs
  rw [hms, granule_eq hlt] at hbytes
  obtain ⟨out, tel, hdecode, -, hduration⟩ := decodeOGGOpus_stream (writtenStream (48 * ms) packet h)
  have hskip : (writtenStream (48 * ms) packet h).preSkip = 0 := rfl
  rw [hskip, lastGranule_writtenStream (by omega), Nat.sub_zero, floor_granule hlt] at hduration
  exact ⟨out, tel, by rw [hbytes, hdecode], hduration (by omega)⟩

theorem decodeAudio_ogg {s : Slice} {pcm : List Int16} {sampleRate : Nat} {durationMs : Int}
    (h : s.bytes = encodeOggOpus pcm sampleRate durationMs) {contentType : String}
    (htype : normalizeAudioFormat contentType = none ∨ normalizeAudioFormat contentType = some .ogg) :
    decodeAudio int16Of overflow s contentType = decodeOGGOpus (encodeOggOpus pcm sampleRate durationMs) := by
  obtain ⟨packet, hpacket, hbytes⟩ := encodeOggOpus_eq pcm sampleRate durationMs
  have hogg := isOGGHeader_stream
    (writtenStream (((opusDuration pcm.length sampleRate durationMs * 48000).tdiv 1000) % 2 ^ 64).toNat packet hpacket)
  rw [← hbytes, ← h] at hogg
  have hmagic : 4 ≤ s.len ∧ s.bytes.take 4 = oggS := by simpa [isOGGHeader] using hogg
  have hwav : isWAVHeader s.bytes = false := by
    unfold isWAVHeader
    rw [hmagic.2]
    simp [oggS, ascii]
  have hsniff : sniffFormat s.bytes = some .ogg := by
    unfold sniffFormat
    rw [hwav, hogg]
    rfl
  rw [decodeAudio_sniffed int16Of overflow s hsniff htype (by omega), decodeAs, h]

/-! ## What `TranscodeAudio` returns -/

theorem normalizeAudioFormat_empty : normalizeAudioFormat "" = none := by decide +kernel

theorem transcodeAudio_wav {data : Slice} {pcm : List Int16} {tel : AudioTelemetry}
    (hwav : decodeWAV int16Of data.bytes = .ok (pcm, tel)) {target : String} {format : AudioFormat}
    (htarget : normalizeAudioFormat target = some format) :
    transcodeAudio int16Of overflow data target = .ok (encodeAs pcm tel format, tel) := by
  obtain ⟨hlen, hheader, -⟩ := decodeWAV_ok hwav
  rw [Slice.length_bytes] at hlen
  have hsniff : sniffFormat data.bytes = some .wav := by rw [sniffFormat, if_pos hheader]
  have hdecode : decodeAudio int16Of overflow data "" = .ok (pcm, tel) := by
    rw [decodeAudio_sniffed int16Of overflow data hsniff (.inl normalizeAudioFormat_empty) (by omega), decodeAs, hwav]
  unfold transcodeAudio
  rw [hdecode, ok_bind]
  simp only [htarget]
  rfl

def frameMs (format : AudioFormat) (sampleRate : Nat) : ℚ :=
  match format with
  | .wav => 1000 / sampleRate
  | .ogg => 20
  | .mp4 => 1024 * 1000 / sampleRate
  | .mp3 => 1152 * 1000 / sampleRate

/-- The output of `TranscodeAudio` is decoded, by its header or as what it is, and its duration is that of the source,
up to a frame of the output. -/
def Preserves (data : Slice) (source : AudioTelemetry) (target : String) (format : AudioFormat) : Prop :=
  ∃ out tel, transcodeAudio int16Of overflow data target = .ok (out, tel) ∧
    ∀ (s : Slice) (contentType : String), s.bytes = out →
      normalizeAudioFormat contentType = none ∨ normalizeAudioFormat contentType = some format →
        ∃ pcm decoded, decodeAudio int16Of overflow s contentType = .ok (pcm, decoded) ∧
          |(decoded.durationMS : ℚ) - source.durationMS| ≤ frameMs format decoded.sampleRate

theorem preserves_iff_decoded {data : Slice} {pcm : List Int16} {source : AudioTelemetry}
    (hwav : decodeWAV int16Of data.bytes = .ok (pcm, source)) {target : String} {format : AudioFormat}
    (htarget : normalizeAudioFormat target = some format) {x : Result AudioError Decoded} {out : List Int16}
    {decoded : AudioTelemetry} (hx : x = .ok (out, decoded)) (hlen : (encodeAs pcm source format).length < 2 ^ 63)
    (hdecode : ∀ (s : Slice) (contentType : String), s.bytes = encodeAs pcm source format →
      normalizeAudioFormat contentType = none ∨ normalizeAudioFormat contentType = some format →
        decodeAudio int16Of overflow s contentType = x) :
    Preserves int16Of overflow data source target format ↔
      |(decoded.durationMS : ℚ) - source.durationMS| ≤ frameMs format decoded.sampleRate := by
  have htranscode := transcodeAudio_wav int16Of overflow hwav htarget
  constructor
  · intro ⟨out', tel, hout, hall⟩
    rw [htranscode] at hout
    cases hout
    have hbytes := Slice.bytes_ofBytes (encodeAs pcm source format) hlen
    obtain ⟨pcm', decoded', hok, hle⟩ := hall (Slice.ofBytes _ hlen) "" hbytes (.inl normalizeAudioFormat_empty)
    rw [hdecode _ _ hbytes (.inl normalizeAudioFormat_empty), hx] at hok
    cases hok
    exact hle
  · intro hle
    refine ⟨_, _, htranscode, fun s contentType hbytes htype => ⟨out, decoded, ?_, hle⟩⟩
    rw [hdecode s contentType hbytes htype, hx]

/-! ## When the duration is preserved -/

def FramesLast (frameSamples rate samples ms : Nat) : Prop :=
  (((max 1 (samples / frameSamples) * frameSamples * 1000 / rate : Nat) : Int) - (ms : Int)).natAbs * rate ≤
    frameSamples * 1000

instance (frameSamples rate samples ms : Nat) : Decidable (FramesLast frameSamples rate samples ms) :=
  inferInstanceAs (Decidable (_ ≤ _))

/-- The number of samples, counted over the channels, the rate and the channels of a file whose duration is preserved. -/
def Preserved (format : AudioFormat) (samples sampleRate channels : Nat) : Prop :=
  let ms := samples * 1000 / (sampleRate * channels % 2 ^ 32)
  match format with
  | .wav => True
  | .ogg => 0 < ms ∨ (0 < samples * 1000 / sampleRate ∧ samples * 1000 / sampleRate ≤ 20)
  | .mp4 => FramesLast 1024 (aacRate sampleRate) samples ms
  | .mp3 => FramesLast 1152 44100 samples ms

theorem framesLast_whole {frameSamples rate samples : Nat} (hpos : 0 < samples) (hwhole : frameSamples ∣ samples) :
    FramesLast frameSamples rate samples (samples * 1000 / rate) := by
  have hone : 0 < samples / frameSamples :=
    Nat.div_pos (Nat.le_of_dvd hpos hwhole) (Nat.pos_of_dvd_of_pos hwhole hpos)
  unfold FramesLast
  rw [Nat.max_eq_right hone, Nat.div_mul_cancel hwhole, Int.sub_self, Int.natAbs_zero, Nat.zero_mul]
  exact Nat.zero_le _

theorem framesLast_iff {frameSamples rate samples ms : Nat} (h : 0 < rate) {duration source : Int}
    (hduration : duration = (max 1 (samples / frameSamples) * frameSamples * 1000 / rate : Nat)) (hsource : source = ms) :
    |(duration : ℚ) - source| ≤ (frameSamples : ℚ) * 1000 / rate ↔ FramesLast frameSamples rate samples ms := by
  have hrate : (0 : ℚ) < rate := by exact_mod_cast h
  unfold FramesLast
  rw [le_div_iff₀ hrate, ← hduration, ← hsource, ← Int.cast_sub, ← Int.cast_abs, Int.abs_eq_natAbs]
  constructor
  · intro hle
    exact_mod_cast hle
  · intro hle
    exact_mod_cast hle

theorem twenty_iff (duration source : Int) : |(duration : ℚ) - source| ≤ 20 ↔ (duration - source).natAbs ≤ 20 := by
  rw [← Int.cast_sub, ← Int.cast_abs, Int.abs_eq_natAbs]
  constructor
  · intro hle
    exact_mod_cast hle
  · intro hle
    exact_mod_cast hle

theorem preserves_ogg {data : Slice} {pcm : List Int16} {source : AudioTelemetry}
    (hwav : decodeWAV int16Of data.bytes = .ok (pcm, source)) {target : String} (htarget : normalizeAudioFormat target = some .ogg) :
    Preserves int16Of overflow data source target .ogg ↔ Preserved .ogg pcm.length source.sampleRate source.channels := by
  obtain ⟨-, -, hsamples, hrate, hchannels, hproduct, hduration⟩ := decodeWAV_ok hwav
  have hencode : encodeAs pcm source .ogg = encodeOggOpus pcm source.sampleRate source.durationMS := by
    rw [encodeAs, normalizeAudioParams_pos hrate hchannels]
  have hle : pcm.length * 1000 / (source.sampleRate * source.channels % 2 ^ 32) ≤ pcm.length * 1000 := Nat.div_le_self _ _
  have hle' : pcm.length * 1000 / source.sampleRate ≤ pcm.length * 1000 := Nat.div_le_self _ _
  have hwritten := opusDuration_eq pcm.length source.sampleRate
    (pcm.length * 1000 / (source.sampleRate * source.channels % 2 ^ 32))
  unfold Preserved
  simp only
  rw [← hduration] at hwritten
  generalize pcm.length * 1000 / (source.sampleRate * source.channels % 2 ^ 32) = ms at hle hduration hwritten ⊢
  generalize pcm.length * 1000 / source.sampleRate = quotient at hle' hwritten ⊢
  obtain ⟨out, decoded, hdecode, hms⟩ := decodeOGGOpus_encoded pcm source.sampleRate source.durationMS hwritten
    (by split_ifs <;> omega) (by split_ifs <;> omega)
  rw [preserves_iff_decoded int16Of overflow hwav htarget hdecode ?_ ?_, frameMs, hms, hduration, twenty_iff]
  · split_ifs <;> omega
  · rw [hencode]
    exact length_encodeOggOpus pcm source.sampleRate source.durationMS
  · intro s contentType hbytes htype
    rw [hencode] at hbytes
    exact decodeAudio_ogg int16Of overflow hbytes htype

theorem preserves_aac {data : Slice} {pcm : List Int16} {source : AudioTelemetry}
    (hwav : decodeWAV int16Of data.bytes = .ok (pcm, source)) {target : String} (htarget : normalizeAudioFormat target = some .mp4) :
    Preserves int16Of overflow data source target .mp4 ↔ Preserved .mp4 pcm.length source.sampleRate source.channels := by
  obtain ⟨-, -, hsamples, hrate, hchannels, hproduct, hduration⟩ := decodeWAV_ok hwav
  have hencode : encodeAs pcm source .mp4 = encodeADTSAAC pcm source.sampleRate source.channels := by
    rw [encodeAs, normalizeAudioParams_pos hrate hchannels]
  obtain ⟨out, decoded, hdecode, hms, hsample⟩ := decodeADTSAAC_encoded pcm source.sampleRate source.channels
  rw [numFrames_eq (by decide)] at hms
  rw [preserves_iff_decoded int16Of overflow hwav htarget hdecode ?_ ?_, frameMs, hsample]
  · exact framesLast_iff (aacRate_pos _) hms hduration
  · rw [hencode]
    exact length_frames (by show 15 < 2 ^ 10; decide) (by decide) hsamples
  · intro s contentType hbytes htype
    rw [hencode] at hbytes
    exact decodeAudio_aac int16Of overflow hbytes htype

theorem preserves_mp3 {data : Slice} {pcm : List Int16} {source : AudioTelemetry}
    (hwav : decodeWAV int16Of data.bytes = .ok (pcm, source)) {target : String} (htarget : normalizeAudioFormat target = some .mp3) :
    Preserves int16Of overflow data source target .mp3 ↔ Preserved .mp3 pcm.length source.sampleRate source.channels := by
  obtain ⟨-, -, hsamples, -, -, -, hduration⟩ := decodeWAV_ok hwav
  obtain ⟨out, decoded, hdecode, hms, hsample⟩ := decodeMP3_encoded pcm
  rw [numFrames_eq (by decide)] at hms
  rw [preserves_iff_decoded int16Of overflow hwav htarget hdecode ?_ ?_, frameMs, hsample]
  · exact framesLast_iff (by decide) hms hduration
  · exact length_frames (by rw [length_mp3Frame]; decide) (by decide) hsamples
  · intro s contentType hbytes htype
    exact decodeAudio_mp3 int16Of overflow hbytes htype

/-- Transcoding a WAV file to Ogg, AAC or MP3 preserves its duration, up to a frame, exactly when the number of its
samples, its rate and its channels are such. -/
theorem duration_preserved_iff {data : Slice} {pcm : List Int16} {source : AudioTelemetry}
    (hwav : decodeWAV int16Of data.bytes = .ok (pcm, source)) {target : String} {format : AudioFormat}
    (htarget : normalizeAudioFormat target = some format) (hformat : format ≠ .wav) :
    Preserves int16Of overflow data source target format ↔ Preserved format pcm.length source.sampleRate source.channels := by
  cases format with
  | wav => exact absurd rfl hformat
  | ogg => exact preserves_ogg int16Of overflow hwav htarget
  | mp4 => exact preserves_aac int16Of overflow hwav htarget
  | mp3 => exact preserves_mp3 int16Of overflow hwav htarget

end Audio

/-! ## Two files -/

theorem length_encodeWAV {pcm : List Int16} {sampleRate channels : Nat} (hlen : pcm.length < 2 ^ 32) :
    (encodeWAV pcm sampleRate channels).length < 2 ^ 63 := by
  simp only [encodeWAV, List.length_append, length_words, length_leBytes, ascii, fmtID, dataID, List.length_map,
    List.length_cons, List.length_nil]
  omega

/-- A file of silence. -/
def silence (samples sampleRate channels : Nat) (h : samples < 2 ^ 32) : Slice :=
  Slice.ofBytes (encodeWAV (List.replicate samples 0) sampleRate channels)
    (length_encodeWAV (by rw [List.length_replicate]; exact h))

theorem decodeWAV_silence (samples sampleRate channels : Nat) (h : samples < 2 ^ 16) (hrate : 0 < sampleRate)
    (hrate' : sampleRate < 2 ^ 16) (hchannels : 0 < channels) (hchannels' : channels < 2 ^ 16) :
    ∃ source, decodeWAV Float32.toInt16 (silence samples sampleRate channels (by omega)).bytes = .ok (List.replicate samples 0, source) ∧
      source.sampleRate = sampleRate ∧ source.channels = channels := by
  have hrateOr : rateOr sampleRate = sampleRate := if_neg (by omega)
  have hchannelsOr : channelsOr channels = channels := if_neg (by omega)
  have hproduct : sampleRate * channels < 2 ^ 16 * 2 ^ 16 := Nat.mul_lt_mul'' hrate' hchannels'
  have hpos : 0 < sampleRate * channels := Nat.mul_pos hrate hchannels
  obtain ⟨source, hfinish, hsample, hchannel, -⟩ := finishWAV_ok ⟨1, channels, sampleRate, 16, List.replicate samples 0⟩ (by
    show rateOr sampleRate * channelsOr channels % 2 ^ 32 ≠ 0
    rw [hrateOr, hchannelsOr]
    omega)
  refine ⟨source, ?_, hsample.trans hrateOr, hchannel.trans hchannelsOr⟩
  rw [silence, Slice.bytes_ofBytes, decodeWAV_encoded hrate (by omega) hchannels hchannels'
    (by rw [List.length_replicate]; omega), hfinish]

/-- The conversion of amd64. -/
def amd64 : ℚ → Int := fun _ => -2 ^ 63

/-- A frame of one channel. -/
theorem mono_preserved :
    ∃ source, decodeWAV Float32.toInt16 (silence 1024 44100 1 (by decide)).bytes = .ok (List.replicate 1024 0, source) ∧
      Preserves Float32.toInt16 amd64 (silence 1024 44100 1 (by decide)) source "audio/aac" .mp4 := by
  obtain ⟨source, hwav, hrate, hchannels⟩ := decodeWAV_silence 1024 44100 1 (by decide) (by decide) (by decide) (by decide) (by decide)
  refine ⟨source, hwav, (duration_preserved_iff Float32.toInt16 amd64 hwav (by decide +kernel) (by decide)).mpr ?_⟩
  rw [hrate, hchannels, List.length_replicate]
  exact framesLast_whole (by decide) (Nat.dvd_refl _)

/-- Two channels of 4096 samples, of 92 milliseconds, are 8 frames of 185. -/
theorem stereo_doubled :
    ∃ source, decodeWAV Float32.toInt16 (silence 8192 44100 2 (by decide)).bytes = .ok (List.replicate 8192 0, source) ∧
      source.durationMS = 92 ∧ ¬ Preserves Float32.toInt16 amd64 (silence 8192 44100 2 (by decide)) source "audio/aac" .mp4 := by
  obtain ⟨source, hwav, hrate, hchannels⟩ := decodeWAV_silence 8192 44100 2 (by decide) (by decide) (by decide) (by decide) (by decide)
  have hduration := (decodeWAV_ok hwav).2.2.2.2.2.2
  rw [hrate, hchannels, List.length_replicate] at hduration
  refine ⟨source, hwav, hduration, ?_⟩
  rw [preserves_aac Float32.toInt16 amd64 hwav (by decide +kernel), hrate, hchannels, List.length_replicate]
  show ¬ FramesLast 1024 (aacRate 44100) 8192 (8192 * 1000 / (44100 * 2 % 2 ^ 32))
  decide

end PerGo.L4.TranscodedDuration
