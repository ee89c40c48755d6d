import PerGo.Core.Result
import PerGo.L1Encoding.Endian

/-!
# Samples and their telemetry

`media/audio.go`. Amplitudes are `Float`s, of which nothing is used but that they are computed;
rates, channel counts and lengths are natural numbers, far below `2^63`, and a call that may panic is an
`Result`. Memory is taken to be there.

`newAudioTelemetry_ok`: the telemetry of any samples is computed, with no division by zero and no
frame out of range.
-/
namespace PerGo.L3.Media

open PerGo.Core PerGo.Core.Result PerGo.L1

/-- The errors of the decoders; each but the first wraps its sentinel with what is wrong. The last one is the
`invalidAudioFormat` whose detail quotes the target. -/
inductive AudioError
  | emptyAudioData
  | corruptAudioData (detail : String)
  | invalidAudioFormat (detail : String)
  | unsupportedTarget (targetFormat : String)

structure AudioTelemetry where
  durationMS : Int
  voicedDurationMS : Int
  rmsEnergy : Float
  sampleRate : Nat
  channels : Nat
  format : String

/-- mirrors audio.go:95-113 -/
def calculateRMS (pcm16 : List Int16) : Float :=
  if pcm16.length = 0 then 0.0
  else
    let sumSquares := pcm16.foldl (fun sum sample => sum + sample.toFloat * sample.toFloat) 0.0
    let normalized := (sumSquares / Float.ofNat pcm16.length).sqrt / 32768.0
    if normalized > 1.0 then 1.0 else normalized

def voicedFrames (pcm16 : List Int16) (totalFrameSamples totalFrames : Nat) (silenceThreshold : Float) :
    Result AudioError Nat :=
  (List.range totalFrames).foldlM (fun voiced i => do
    let frame ← slice pcm16 (i * totalFrameSamples) (i * totalFrameSamples + totalFrameSamples)
    return if calculateRMS frame ≥ silenceThreshold then voiced + 1 else voiced) 0

def frameSamples (sampleRate : Nat) : Nat := if sampleRate * 20 / 1000 = 0 then 160 else sampleRate * 20 / 1000

theorem frameSamples_pos (sampleRate : Nat) : 0 < frameSamples sampleRate := by
  unfold frameSamples
  split
  · decide
  · omega

/-- mirrors audio.go:115-147 -/
def calculateVoicedDuration (pcm16 : List Int16) (sampleRate channels : Nat) (silenceThreshold : Float) :
    Result AudioError Int :=
  if pcm16.length = 0 ∨ sampleRate = 0 ∨ channels = 0 then .ok 0
  else do
    let totalFrames ← quotient pcm16.length (frameSamples sampleRate * channels : Nat)
    let voiced ← voicedFrames pcm16 (frameSamples sampleRate * channels) totalFrames.toNat silenceThreshold
    let totalMs ← quotient (pcm16.length * 1000 : Nat) (sampleRate * channels : Nat)
    return if ((voiced * 20 : Nat) : Int) > totalMs then totalMs else ((voiced * 20 : Nat) : Int)

/-- mirrors audio.go:149-161 -/
def newAudioTelemetry (pcm : List Int16) (durationMs : Int) (sampleRate channels : Nat) (format : String) :
    Result AudioError AudioTelemetry := do
  let rms := calculateRMS pcm
  let voicedMs ← calculateVoicedDuration pcm sampleRate channels 0.01
  return ⟨durationMs, voicedMs, rms, sampleRate, channels, format⟩

/-- mirrors audio.go:163-182 -/
def appendSyntheticPCM (dst : List Int16) (numSamples sampleRate : Nat) (amplitude : Float) : List Int16 :=
  if numSamples = 0 then dst
  else
    let sampleRate := if sampleRate = 0 then 44100 else sampleRate
    let amplitude := if amplitude > 1.0 then 1.0 else amplitude
    dst ++ (List.range numSamples).map fun s =>
      if amplitude > 0 then
        -- the constant is 2.0 * math.Pi * 440.0
        (amplitude * 32767.0 * Float.sin (2764.6015351590180543 * Float.ofNat s / Float.ofNat sampleRate)).toInt16
      else 0

theorem length_appendSyntheticPCM (dst : List Int16) (numSamples sampleRate : Nat) (amplitude : Float) :
    (appendSyntheticPCM dst numSamples sampleRate amplitude).length = dst.length + numSamples := by
  unfold appendSyntheticPCM
  split
  · omega
  · rw [List.length_append, List.length_map, List.length_range]

abbrev Decoded := List Int16 × AudioTelemetry

/-! ## The telemetry is computed -/

theorem voicedFrames_ok {pcm16 : List Int16} {total frames : Nat} (h : frames * total ≤ pcm16.length)
    (threshold : Float) : ∃ n, voicedFrames pcm16 total frames threshold = .ok n := by
  refine foldlM_ok (fun i hi voiced => ?_) 0
  have hframe : i * total + total ≤ frames * total := by
    rw [← Nat.succ_mul]
    exact Nat.mul_le_mul_right total (List.mem_range.mp hi)
  exact ⟨_, by rw [slice_of_le (Nat.le_add_right _ _) (hframe.trans h)]; rfl⟩

theorem calculateVoicedDuration_ok (pcm16 : List Int16) (sampleRate channels : Nat) (threshold : Float) :
    ∃ ms, calculateVoicedDuration pcm16 sampleRate channels threshold = .ok ms := by
  unfold calculateVoicedDuration
  split
  · exact ⟨0, rfl⟩
  · rename_i hnone
    have hrate : 0 < sampleRate := by omega
    have hchannels : 0 < channels := by omega
    have hfactor : 0 < sampleRate * channels := Nat.mul_pos hrate hchannels
    have htotal : 0 < frameSamples sampleRate * channels := Nat.mul_pos (frameSamples_pos sampleRate) hchannels
    generalize frameSamples sampleRate * channels = total at htotal
    obtain ⟨voiced, hvoiced⟩ := voicedFrames_ok (Nat.div_mul_le_self pcm16.length total) threshold
    have hframes : ((pcm16.length : Int).tdiv (total : Int)).toNat = pcm16.length / total := by
      rw [← Int.ofNat_tdiv, Int.toNat_natCast]
    rw [quotient_of_ne (by omega), ok_bind, hframes, hvoiced, ok_bind, quotient_of_ne (by omega), ok_bind]
    exact ⟨_, rfl⟩

theorem newAudioTelemetry_ok (pcm : List Int16) (durationMs : Int) (sampleRate channels : Nat) (format : String) :
    ∃ tel, newAudioTelemetry pcm durationMs sampleRate channels format = .ok tel ∧
      tel.durationMS = durationMs ∧ tel.sampleRate = sampleRate ∧ tel.channels = channels := by
  obtain ⟨ms, hms⟩ := calculateVoicedDuration_ok pcm sampleRate channels 0.01
  exact ⟨_, by unfold newAudioTelemetry; rw [hms]; rfl, rfl, rfl, rfl⟩

end PerGo.L3.Media
