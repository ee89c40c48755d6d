import PerGo.Core.Loop
import PerGo.L3Media.Telemetry

/-!
# WAV files

`DecodeWAV` and `EncodeWAV` of `media/audio.go`. The reader is the list of bytes that are
left; a read that does not get all its bytes leaves none.
-/
namespace PerGo.L3.Media

open PerGo.Core PerGo.Core.Result PerGo.L1

/-! ## Reading -/

inductive ReadError
  | eof
  | unexpectedEOF

/-- `io.ReadFull`: the bytes and the reader after them. -/
def readFull (n : Nat) (r : List UInt8) : Except ReadError (List UInt8 × List UInt8) :=
  if n ≤ r.length then .ok (r.take n, r.drop n) else if r.isEmpty then .error .eof else .error .unexpectedEOF

/-- `binary.Read` into a field, its error ignored: a field that is not there keeps its value. -/
def readField (width : Nat) (r : List UInt8) (field : Nat) : Nat × List UInt8 :=
  if width ≤ r.length then (leNat (r.take width), r.drop width) else (field, [])

/-! ## Decoding -/

def isWAVHeader (data : List UInt8) : Bool :=
  12 ≤ data.length && data.take 4 = ascii ['R', 'I', 'F', 'F'] && (data.drop 8).take 4 = ascii ['W', 'A', 'V', 'E']

def fmtID : List UInt8 := ascii ['f', 'm', 't', ' ']

def dataID : List UInt8 := ascii ['d', 'a', 't', 'a']

/-- The variables of the chunk loop. -/
structure WavVars where
  audioFormat : Nat := 0
  numChannels : Nat := 0
  sampleRate : Nat := 0
  bitsPerSample : Nat := 0
  pcmSamples : List Int16 := []

/-- The fields of a `fmt ` chunk. mirrors audio.go:610-622 -/
def readFmt (vars : WavVars) (chunkSize : Nat) (r : List UInt8) : WavVars × List UInt8 :=
  let (audioFormat, r) := readField 2 r vars.audioFormat
  let (numChannels, r) := readField 2 r vars.numChannels
  let (sampleRate, r) := readField 4 r vars.sampleRate
  let (_, r) := readField 4 r 0
  let (_, r) := readField 2 r 0
  let (bitsPerSample, r) := readField 2 r vars.bitsPerSample
  ({ vars with audioFormat, numChannels, sampleRate, bitsPerSample },
    if 16 < chunkSize then r.drop (chunkSize - 16) else r)

section Decode

/-! Go leaves it to the implementation what `int16` of a float is out of range. -/

variable (int16Of : Float32 → Int16)

/-- The samples of a `data` chunk. mirrors audio.go:628-659 -/
def readSamples (vars : WavVars) (dataBytes : List UInt8) : Result AudioError (List Int16) :=
  if vars.bitsPerSample = 16 ∨ vars.bitsPerSample = 0 then
    (List.range (dataBytes.length / 2)).mapM fun i => do
      let word ← slice dataBytes (i * 2) (i * 2 + 2)
      return Int16.ofNat (leNat word)
  else if vars.bitsPerSample = 8 then
    .ok (dataBytes.map fun b => Int16.ofInt (((b.toNat : Int) - 128) * 256))
  else if vars.bitsPerSample = 24 then
    (List.range (dataBytes.length / 3)).mapM fun i => do
      let mid ← index dataBytes (i * 3 + 1)
      let high ← index dataBytes (i * 3 + 2)
      -- the upper half of an int32
      return Int16.ofNat ((mid.toNat * 65536 + high.toNat * 16777216) / 65536)
  else if vars.bitsPerSample = 32 then
    (List.range (dataBytes.length / 4)).mapM fun i => do
      let word ← slice dataBytes (i * 4) (i * 4 + 4)
      return if vars.audioFormat = 3 then int16Of (Float32.ofBits (UInt32.ofNat (leNat word)) * 32767.0)
        else Int16.ofNat (leNat word / 65536)
  else .ok vars.pcmSamples

/-- One round of the chunk loop, which ends with the file. mirrors audio.go:593-663 -/
def readChunk (vars : WavVars) (r : List UInt8) : Result AudioError (Next (WavVars × List UInt8) WavVars) :=
  match readFull 4 r with
  | .error .eof => .ok (.leave vars)
  | .error .unexpectedEOF => .error (.corruptAudioData "error reading chunk header")
  | .ok (id, r) =>
    match readFull 4 r with
    | .error _ => .error (.corruptAudioData "error reading chunk size")
    | .ok (size, r) =>
      let chunkSize := leNat size
      if id = fmtID then
        if chunkSize < 16 then .error (.corruptAudioData "invalid fmt chunk size")
        else .ok (.again (readFmt vars chunkSize r))
      else if id = dataID then do
        let pcmSamples ← readSamples int16Of vars (r.take chunkSize)
        return .again ({ vars with pcmSamples }, r.drop chunkSize)
      else .ok (.again (vars, r.drop chunkSize))

/-! What a round leaves is shorter. -/

theorem readField_rest (width : Nat) (r : List UInt8) (field : Nat) : (readField width r field).2 = r.drop width := by
  unfold readField
  split
  · rfl
  · rename_i h
    rw [List.drop_of_length_le (by omega)]

theorem readFmt_rest (vars : WavVars) (r : List UInt8) {chunkSize : Nat} (h : 16 ≤ chunkSize) :
    (readFmt vars chunkSize r).2 = r.drop chunkSize := by
  unfold readFmt
  simp only [readField_rest, List.drop_drop]
  split
  · congr 1
    omega
  · congr 1
    omega

theorem readFull_eq_ok {n : Nat} {r bs rest : List UInt8} (h : readFull n r = .ok (bs, rest)) :
    n ≤ r.length ∧ bs = r.take n ∧ rest = r.drop n := by
  unfold readFull at h
  split at h
  · rename_i hle
    cases h
    exact ⟨hle, rfl, rfl⟩
  · split at h
    · cases h
    · cases h

/-- What is left after a round: the id, the size and as many bytes as it says are taken. -/
theorem readChunk_rest {vars vars' : WavVars} {r r' : List UInt8} (h : readChunk int16Of vars r = .ok (.again (vars', r'))) :
    8 ≤ r.length ∧ r' = r.drop (8 + leNat ((r.drop 4).take 4)) := by
  unfold readChunk at h
  split at h
  · cases h
  · cases h
  · rename_i id r₁ hid
    obtain ⟨hlen, -, rfl⟩ := readFull_eq_ok hid
    split at h
    · cases h
    · rename_i size r₂ hsize
      obtain ⟨hlen', rfl, rfl⟩ := readFull_eq_ok hsize
      have hrest : ((r.drop 4).drop 4).drop (leNat ((r.drop 4).take 4)) = r.drop (8 + leNat ((r.drop 4).take 4)) := by
        rw [List.drop_drop, List.drop_drop]
        congr 1
        omega
      rw [List.length_drop] at hlen'
      refine ⟨by omega, ?_⟩
      rw [← hrest]
      simp only at h
      split at h
      · split at h
        · cases h
        · rename_i hfmt
          have hpair := Next.again.inj (Result.ok.inj h)
          rw [← readFmt_rest vars _ (Nat.le_of_not_lt hfmt), hpair]
      · split at h
        · obtain ⟨pcm, -, hpcm⟩ := bind_eq_ok_iff.mp h
          cases hpcm
          rfl
        · cases h
          rfl

/-- The chunk loop. mirrors audio.go:592-664 -/
def chunkLoop : Loop AudioError (WavVars × List UInt8) WavVars where
  round s := readChunk int16Of s.1 s.2
  size s := s.2.length
  shrinks h := by
    obtain ⟨hlen, hrest⟩ := readChunk_rest int16Of h
    rw [hrest, List.length_drop]
    omega

/-- What follows the loop. mirrors audio.go:666-679 -/
def finishWAV (vars : WavVars) : Result AudioError Decoded := do
  let sampleRate := if vars.sampleRate = 0 then 16000 else vars.sampleRate
  let numChannels := if vars.numChannels = 0 then 1 else vars.numChannels
  -- both factors are positive; their product is one of uint32
  let durationMs ← quotient (vars.pcmSamples.length * 1000 : Nat) (sampleRate * numChannels % 2 ^ 32 : Nat)
  let tel ← newAudioTelemetry vars.pcmSamples durationMs sampleRate numChannels "wav"
  return (vars.pcmSamples, tel)

/-- mirrors audio.go:573-679 -/
def decodeWAV (data : List UInt8) : Result AudioError Decoded :=
  if data.length < 44 then .error (.corruptAudioData "wav data too small")
  else if !isWAVHeader data then .error (.invalidAudioFormat "not a valid RIFF/WAVE file")
  else (chunkLoop int16Of).run ({}, data.drop 12) >>= finishWAV

end Decode

/-! ## Encoding -/

/-- mirrors audio.go:326-334 -/
def normalizeAudioParams (sampleRate channels : Nat) : Nat × Nat :=
  (if sampleRate = 0 then 16000 else sampleRate, if channels = 0 then 1 else channels)

theorem normalizeAudioParams_pos {sampleRate channels : Nat} (hrate : 0 < sampleRate) (hchannels : 0 < channels) :
    normalizeAudioParams sampleRate channels = (sampleRate, channels) := by
  unfold normalizeAudioParams
  rw [if_neg (by omega), if_neg (by omega)]

/-- mirrors audio.go:336-368 -/
def encodeWAV (pcm16 : List Int16) (sampleRate channels : Nat) : List UInt8 :=
  let (sampleRate, channels) := normalizeAudioParams sampleRate channels
  let dataSize := pcm16.length * 2 % 2 ^ 32
  ascii ['R', 'I', 'F', 'F'] ++ leBytes 4 (36 + dataSize) ++ ascii ['W', 'A', 'V', 'E'] ++
    (fmtID ++ leBytes 4 16 ++
      (leBytes 2 1 ++ leBytes 2 channels ++ leBytes 4 sampleRate ++ leBytes 4 (sampleRate * channels * 2) ++
        leBytes 2 (channels * 2) ++ leBytes 2 16)) ++
    (dataID ++ leBytes 4 dataSize ++ pcm16.flatMap fun s => leBytes 2 s.toUInt16.toNat)

end PerGo.L3.Media
