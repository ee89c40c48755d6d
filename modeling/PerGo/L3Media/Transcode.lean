import PerGo.L1Encoding.GoString
import PerGo.L3Media.Mp3
import PerGo.L3Media.Mp4
import PerGo.L3Media.Ogg
import PerGo.L3Media.Wav

/-!
# Transcoding

`DecodeAudio`, `TranscodeAudio` and the encoders of `media/audio.go`. The encoders of Ogg, AAC and
MP3 keep of the samples their number and their energy only.

`decodeAudio_sniffed`: the decoder of a content type that is empty is that of the header.
-/
namespace PerGo.L3.Media

open PerGo.Core PerGo.Core.Result PerGo.L1

/-! ## Formats -/

inductive AudioFormat
  | wav
  | ogg
  | mp4
  | mp3
deriving DecidableEq

/-- mirrors audio.go:242-259 -/
def normalizeAudioFormat (formatOrMIME : String) : Option AudioFormat :=
  let s := toLower (trimSpace formatOrMIME)
  let s := if containsChar s ';' then trimSpace (String.ofList (s.toList.takeWhile fun c => c ≠ ';')) else s
  if s ∈ ["wav", "wave", "audio/wav", "audio/x-wav", "audio/wave"] then some .wav
  else if s ∈ ["ogg", "opus", "audio/ogg", "audio/opus", "application/ogg", "application/opus"] then some .ogg
  else if s ∈ ["mp4", "m4a", "aac", "audio/mp4", "audio/m4a", "audio/aac", "audio/x-m4a"] then some .mp4
  else if s ∈ ["mp3", "mpeg", "audio/mp3", "audio/mpeg"] then some .mp3
  else none

/-- mirrors audio.go:53-56 -/
def isMP4Header (data : List UInt8) : Bool :=
  8 ≤ data.length &&
    ((data.drop 4).take 4 = ascii ['f', 't', 'y', 'p'] || (data.drop 4).take 4 = ascii ['m', 'o', 'o', 'v'])

/-! ## Decoding -/

section Decode

variable (int16Of : Float32 → Int16) (overflow : ℚ → Int) (data : Slice)

def decodeAs : AudioFormat → Result AudioError Decoded
  | .wav => decodeWAV int16Of data.bytes
  | .ogg => decodeOGGOpus data.bytes
  | .mp4 => decodeMP4AAC overflow data
  | .mp3 => decodeMP3 data.bytes

/-- The format that the first bytes show. mirrors audio.go:280-291 -/
def sniffFormat (bytes : List UInt8) : Option AudioFormat :=
  if isWAVHeader bytes then some .wav
  else if isOGGHeader bytes then some .ogg
  else if isMP4Header bytes || isADTSAACHeader bytes then some .mp4
  else if isMP3Header bytes then some .mp3
  else none

/-- mirrors audio.go:261-303 -/
def decodeAudio (contentType : String) : Result AudioError Decoded :=
  if data.len = 0 then .error .emptyAudioData
  else match normalizeAudioFormat contentType with
    | some format => decodeAs int16Of overflow data format
    | none => match sniffFormat data.bytes with
      | some format => decodeAs int16Of overflow data format
      | none =>
        (decodeOGGOpus data.bytes).result .ok fun _ =>
          (decodeMP3 data.bytes).result .ok fun _ =>
            (decodeMP4AAC overflow data).result .ok fun _ => decodeWAV int16Of data.bytes

theorem decodeAudio_sniffed {format : AudioFormat} (h : sniffFormat data.bytes = some format) {contentType : String}
    (htype : normalizeAudioFormat contentType = none ∨ normalizeAudioFormat contentType = some format) (hlen : data.len ≠ 0) :
    decodeAudio int16Of overflow data contentType = decodeAs int16Of overflow data format := by
  unfold decodeAudio
  rw [if_neg hlen]
  rcases htype with hnone | hsome
  · rw [hnone, h]
  · rw [hsome]

end Decode

/-! ## Encoding -/

def opusHeadPacket : List UInt8 := opusHead ++ [1, 1, 0x00, 0x00, 0x80, 0xBB, 0x00, 0x00, 0x00, 0x00, 0]

def opusTagsPacket : List UInt8 := opusTags ++ [8, 0, 0, 0] ++ ascii ['P', 'e', 'r', 'G', 'o', 'A', 'u', 'd'] ++ [0, 0, 0, 0]

def oggPage (headerType : UInt8) (granule sequence : Nat) (packet : List UInt8) : List UInt8 :=
  oggS ++ [0, headerType] ++ leBytes 8 granule ++ leBytes 4 12345 ++ leBytes 4 sequence ++ leBytes 4 0 ++
    [1, UInt8.ofNat packet.length] ++ packet

/-- The milliseconds of the stream. mirrors audio.go:418-423 -/
def opusDuration (samples sampleRate : Nat) (durationMs : Int) : Int :=
  let durationMs := if durationMs ≤ 0 ∧ 0 < sampleRate ∧ 0 < samples then ((samples * 1000 / sampleRate : Nat) : Int)
    else durationMs
  if durationMs ≤ 0 then 1000 else durationMs

/-- mirrors audio.go:417-480 -/
def encodeOggOpus (pcm : List Int16) (sampleRate : Nat) (durationMs : Int) : List UInt8 :=
  let totalSamples48k := (opusDuration pcm.length sampleRate durationMs * 48000).tdiv 1000
  let gain := (calculateRMS pcm * 64.0).toUInt8
  let rawGain := if gain > 64 then 64 else gain
  oggPage 0x02 0 0 opusHeadPacket ++ oggPage 0x00 0 1 opusTagsPacket ++
    oggPage 0x04 (totalSamples48k % 2 ^ 64).toNat 2 [0x48, 0x80, rawGain, rawGain, rawGain, rawGain]

/-- The index of a rate in the table, that of 44100 if it is not there. mirrors audio.go:483-489 -/
def aacRateIndex (sampleRate : Nat) : Nat := (aacSampleRateTable.idxOf? sampleRate).getD 4

/-- The frames that are written: whole ones, but one at least. -/
def numFrames (frameSamples samples : Nat) : Nat :=
  let numSamples := if samples = 0 then frameSamples else samples
  if numSamples / frameSamples = 0 then 1 else numSamples / frameSamples

/-- mirrors audio.go:503-514 -/
def aacGlobalGain (pcm : List Int16) : UInt8 :=
  let rms := calculateRMS pcm
  if rms > 0.01 then
    let g := 160.0 + 40.0 * Float.log10 (rms / 0.5)
    (if (if g < 20 then 20 else g) > 255 then 255 else if g < 20 then 20 else g).toUInt8
  else 0

/-- A frame of 15 bytes. mirrors audio.go:521-536 -/
def aacFrame (srIdx channels : Nat) (globalGain : UInt8) : List UInt8 :=
  let frameLen := 15
  [0xFF, 0xF1,
    UInt8.ofNat ((1 <<< 6) ||| ((srIdx &&& 0x0F) <<< 2) ||| ((channels >>> 2) &&& 0x01)),
    UInt8.ofNat (((channels &&& 0x03) <<< 6) ||| ((frameLen >>> 11) &&& 0x03)),
    UInt8.ofNat ((frameLen >>> 3) &&& 0xFF),
    UInt8.ofNat (((frameLen &&& 0x07) <<< 5) ||| 0x1F),
    0xFC,
    (globalGain >>> 7) &&& 0x01, (globalGain <<< 1) &&& 0xFE, 0, 0, 0, 0, 0, 0]

/-- mirrors audio.go:482-540 -/
def encodeADTSAAC (pcm : List Int16) (sampleRate channels : Nat) : List UInt8 :=
  let channels := if channels = 0 then 1 else channels
  (List.replicate (numFrames 1024 pcm.length) (aacFrame (aacRateIndex sampleRate) channels (aacGlobalGain pcm))).flatten

/-- mirrors audio.go:552-556 -/
def mp3Gain (pcm : List Int16) : UInt8 :=
  let rms := calculateRMS pcm
  let globalGain := (rms * 255.0).toUInt8
  if rms > 0 ∧ globalGain = 0 then 64 else globalGain

def mp3Frame (globalGain : UInt8) : List UInt8 := [0xFF, 0xFB, 0x90, 0xC0, globalGain] ++ List.replicate 412 0

/-- mirrors audio.go:542-571 -/
def encodeMP3 (pcm : List Int16) : List UInt8 :=
  (List.replicate (numFrames 1152 pcm.length) (mp3Frame (mp3Gain pcm))).flatten

/-- mirrors audio.go:384-404 -/
def encodeAs (pcm : List Int16) (tel : AudioTelemetry) (format : AudioFormat) : List UInt8 :=
  let (sampleRate, channels) := normalizeAudioParams tel.sampleRate tel.channels
  match format with
  | .wav => encodeWAV pcm sampleRate channels
  | .ogg => encodeOggOpus pcm sampleRate tel.durationMS
  | .mp4 => encodeADTSAAC pcm sampleRate channels
  | .mp3 => encodeMP3 pcm

/-- mirrors audio.go:370-405 -/
def transcodeAudio (int16Of : Float32 → Int16) (overflow : ℚ → Int) (data : Slice) (targetFormat : String) :
    Result AudioError (List UInt8 × AudioTelemetry) := do
  let (pcm, tel) ← decodeAudio int16Of overflow data ""
  match normalizeAudioFormat targetFormat with
  | none => .error (.unsupportedTarget targetFormat)
  | some format => return (encodeAs pcm tel format, tel)

end PerGo.L3.Media
