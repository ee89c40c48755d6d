import PerGo.Core.Loop
import PerGo.L3Media.Telemetry

/-!
# ADTS streams

`decodeADTSAAC` and `ExtractAACFrameEnergy` of `media/audio.go`. The scanner is the list of bytes
from its offset on.

`decodeADTSAAC_safe`: every byte string is scanned without a panic.
-/
namespace PerGo.L3.Media

open PerGo.Core PerGo.Core.Result PerGo.L1

def aacSampleRateTable : List Nat :=
  [96000, 88200, 64000, 48000, 44100, 32000, 24000, 22050, 16000, 12000, 11025, 8000, 7350]

/-! ## Energy -/

/-- mirrors audio.go:1078-1091 -/
def globalGainToRMS (globalGain : UInt8) : Float :=
  if globalGain = 0 then 0.0
  else
    let rms := 0.5 * Float.pow 10.0 ((globalGain.toFloat - 160.0) / 40.0)
    if rms > 1.0 then 1.0 else if rms < 0.0 then 0.0 else rms

/-- mirrors audio.go:1026-1076 -/
def extractAACFrameEnergy (frameData : List UInt8) (channels : Nat) : Result AudioError Float :=
  if frameData.length = 0 then .ok 0.0
  else do
    let b0 ← index frameData 0
    let elemID := (b0 >>> 5) &&& 0x07
    if elemID = 0 then
      if frameData.length < 2 then return 0.0
      let b1 ← index frameData 1
      let globalGain := ((b0 &&& 0x01) <<< 7) ||| ((b1 >>> 1) &&& 0x7F)
      return if b0 = 0 ∧ b1 = 0 then 0.0 else globalGainToRMS globalGain
    else if elemID = 1 ∨ 2 ≤ channels then
      if frameData.length < 3 then return 0.0
      let g1 ← index frameData 1
      let g2 ← index frameData 2
      let rms1 := globalGainToRMS g1
      let rms2 := globalGainToRMS g2
      return ((rms1 * rms1 + rms2 * rms2) / 2.0).sqrt
    else
      let sample := frameData.take 16
      let sumSq := sample.foldl (fun sum b => sum + b.toFloat / 255.0 * (b.toFloat / 255.0)) 0.0
      let rawRMS := (sumSq / Float.ofNat sample.length).sqrt
      return if rawRMS > 1.0 then 1.0 else rawRMS

theorem extractAACFrameEnergy_ok (frameData : List UInt8) (channels : Nat) :
    ∃ e, extractAACFrameEnergy frameData channels = .ok e := by
  unfold extractAACFrameEnergy
  by_cases hnone : frameData.length = 0
  · rw [if_pos hnone]
    exact ⟨_, rfl⟩
  · rw [if_neg hnone, index_of_lt (by omega), ok_bind]
    simp only
    split
    · split
      · exact ⟨_, rfl⟩
      · rw [index_of_lt (by omega)]
        exact ⟨_, rfl⟩
    · split
      · split
        · exact ⟨_, rfl⟩
        · rw [index_of_lt (by omega), index_of_lt (by omega)]
          exact ⟨_, rfl⟩
      · exact ⟨_, rfl⟩

/-! ## Frames -/

/-- mirrors audio.go:58-61 -/
def isADTSAACHeader (data : List UInt8) : Bool :=
  match data with
  | d0 :: d1 :: _ => d0 = 0xFF && d1 &&& 0xF0 = 0xF0 && d1 &&& 0x06 = 0x00
  | _ => false

structure AdtsVars where
  totalFrames : Nat := 0
  sampleRate : Nat := 44100
  channels : Nat := 1
  syntheticPCM : List Int16 := []

def adtsFrameLen (d3 d4 d5 : UInt8) : Nat :=
  ((d3 &&& 0x03).toNat <<< 11) ||| (d4.toNat <<< 3) ||| (d5 >>> 5).toNat

/-- One round of the frame loop. mirrors audio.go:1257-1288 -/
def adtsRound (vars : AdtsVars) (rest : List UInt8) :
    Result AudioError (Next (AdtsVars × List UInt8) AdtsVars) :=
  if rest.length < 7 then .ok (.leave vars)
  else do
    let d0 ← index rest 0
    let d1 ← index rest 1
    if d0 ≠ 0xFF ∨ d1 &&& 0xF0 ≠ 0xF0 then return .again (vars, rest.drop 1)
    let d2 ← index rest 2
    let d3 ← index rest 3
    let d4 ← index rest 4
    let d5 ← index rest 5
    let srIdx := ((d2 >>> 2) &&& 0x0F).toNat
    let chConfig := (((d2 &&& 0x01) <<< 2) ||| ((d3 >>> 6) &&& 0x03)).toNat
    let frameLen := adtsFrameLen d3 d4 d5
    let vars := { vars with
      sampleRate := aacSampleRateTable.getD srIdx vars.sampleRate
      channels := if 0 < chConfig then chConfig else vars.channels }
    if frameLen < 7 ∨ rest.length < frameLen then return .again (vars, rest.drop 1)
    let framePayload ← slice rest 7 frameLen
    let amp ← extractAACFrameEnergy framePayload vars.channels
    return .again ({ vars with
      totalFrames := vars.totalFrames + 1
      syntheticPCM := appendSyntheticPCM vars.syntheticPCM 1024 vars.sampleRate amp }, rest.drop frameLen)

theorem aacSampleRateTable_pos {n : Nat} (h : n ∈ aacSampleRateTable) : 0 < n :=
  (by decide : ∀ n ∈ aacSampleRateTable, 0 < n) n h

theorem getD_pos {i rate : Nat} (h : 0 < rate) : 0 < aacSampleRateTable.getD i rate := by
  rw [List.getD_eq_getElem?_getD]
  cases hi : aacSampleRateTable[i]? with
  | none => exact h
  | some n => exact aacSampleRateTable_pos (List.mem_of_getElem? hi)

structure AdtsAdvance (vars vars' : AdtsVars) (rest : List UInt8) (n : Nat) : Prop where
  pos : 0 < n
  le : n ≤ rest.length
  rate : 0 < vars.sampleRate → 0 < vars'.sampleRate
  samples : vars'.syntheticPCM.length + 1024 * vars.totalFrames = vars.syntheticPCM.length + 1024 * vars'.totalFrames

theorem adtsRound_cases (vars : AdtsVars) (rest : List UInt8) :
    adtsRound vars rest = .ok (.leave vars) ∨
      ∃ vars' n, adtsRound vars rest = .ok (.again (vars', rest.drop n)) ∧ AdtsAdvance vars vars' rest n := by
  unfold adtsRound
  by_cases hlen : rest.length < 7
  · rw [if_pos hlen]
    exact .inl rfl
  · rw [if_neg hlen, index_of_lt (by omega), index_of_lt (by omega), ok_bind, ok_bind]
    right
    split
    · exact ⟨vars, 1, rfl, by decide, by omega, id, rfl⟩
    · rw [index_of_lt (by omega), index_of_lt (by omega), index_of_lt (by omega), index_of_lt (by omega), ok_bind,
        ok_bind, ok_bind, ok_bind]
      simp only
      split
      · exact ⟨_, 1, rfl, by decide, by omega, getD_pos, rfl⟩
      · rw [slice_of_le (by omega) (by omega), ok_bind]
        generalize henergy : extractAACFrameEnergy _ _ = energy
        obtain ⟨amp, rfl⟩ : ∃ amp, energy = .ok amp := henergy ▸ extractAACFrameEnergy_ok _ _
        refine ⟨_, _, rfl, by omega, by omega, getD_pos, ?_⟩
        simp only [length_appendSyntheticPCM]
        omega

theorem adtsRound_frame (d1 d2 d3 d4 d5 d6 : UInt8) (payload : List UInt8) (hsync : d1 &&& 0xF0 = 0xF0)
    (hlen : adtsFrameLen d3 d4 d5 = 7 + payload.length) (vars : AdtsVars) (rest : List UInt8) :
    ∃ vars', adtsRound vars (0xFF :: d1 :: d2 :: d3 :: d4 :: d5 :: d6 :: (payload ++ rest)) = .ok (.again (vars', rest)) ∧
      vars'.totalFrames = vars.totalFrames + 1 ∧
      vars'.sampleRate = aacSampleRateTable.getD ((d2 >>> 2) &&& 0x0F).toNat vars.sampleRate := by
  have hbytes : (0xFF :: d1 :: d2 :: d3 :: d4 :: d5 :: d6 :: (payload ++ rest)).length = 7 + payload.length + rest.length := by
    simp only [List.length_cons, List.length_append]
    omega
  have hpayload : (slice (0xFF :: d1 :: d2 :: d3 :: d4 :: d5 :: d6 :: (payload ++ rest)) 7 (7 + payload.length) :
      Result AudioError (List UInt8)) = .ok payload :=
    slice_append [0xFF, d1, d2, d3, d4, d5, d6] payload rest rfl rfl
  have hrest : (0xFF :: d1 :: d2 :: d3 :: d4 :: d5 :: d6 :: (payload ++ rest)).drop (7 + payload.length) = rest := by
    rw [← List.drop_drop]
    exact List.drop_left
  unfold adtsRound
  rw [if_neg (by omega)]
  simp only [index, List.getElem?_cons_zero, List.getElem?_cons_succ, ok_bind, hlen, hbytes, hpayload, hrest]
  rw [if_neg (by simp [hsync]), if_neg (by omega)]
  generalize henergy : extractAACFrameEnergy _ _ = energy
  obtain ⟨amp, rfl⟩ : ∃ amp, energy = .ok amp := henergy ▸ extractAACFrameEnergy_ok _ _
  exact ⟨_, rfl, rfl, rfl⟩

def adtsLoop : Loop AudioError (AdtsVars × List UInt8) AdtsVars where
  round s := adtsRound s.1 s.2
  size s := s.2.length
  shrinks {s s'} h := by
    rcases adtsRound_cases s.1 s.2 with hleave | ⟨vars', n, hagain, hadvance⟩
    · cases h.symm.trans hleave
    · cases h.symm.trans hagain
      have hpos := hadvance.pos
      have hle := hadvance.le
      rw [List.length_drop]
      omega

/-- mirrors audio.go:1250-1296 -/
def decodeADTSAAC (data : List UInt8) : Result AudioError Decoded := do
  let vars ← adtsLoop.run ({}, data)
  if vars.totalFrames = 0 then .error (.invalidAudioFormat "no valid ADTS frames found")
  else
    let durationMs ← quotient (vars.totalFrames * 1024 * 1000 : Nat) (vars.sampleRate : Nat)
    let tel ← newAudioTelemetry vars.syntheticPCM durationMs vars.sampleRate vars.channels "aac"
    return (vars.syntheticPCM, tel)

/-! ## It returns -/

theorem adtsLoop_inv {data : List UInt8} {vars : AdtsVars} (h : adtsLoop.run ({}, data) = .ok vars) :
    0 < vars.sampleRate ∧ vars.syntheticPCM.length = 1024 * vars.totalFrames := by
  refine adtsLoop.run_ok_inv
    (I := fun s => 0 < s.1.sampleRate ∧ s.1.syntheticPCM.length = 1024 * s.1.totalFrames)
    (Q := fun vars => 0 < vars.sampleRate ∧ vars.syntheticPCM.length = 1024 * vars.totalFrames)
    ?_ ?_ (s := ({}, data)) ⟨by show 0 < 44100; decide, rfl⟩ h
  · intro s s' hs hround
    rcases adtsRound_cases s.1 s.2 with hleave | ⟨vars', n, hagain, hadvance⟩
    · cases hround.symm.trans hleave
    · cases hround.symm.trans hagain
      have hsamples := hadvance.samples
      refine ⟨hadvance.rate hs.1, ?_⟩
      have hlength := hs.2
      show vars'.syntheticPCM.length = 1024 * vars'.totalFrames
      omega
  · intro s vars hs hround
    rcases adtsRound_cases s.1 s.2 with hleave | ⟨vars', n, hagain, -⟩
    · cases hround.symm.trans hleave
      exact hs
    · cases hround.symm.trans hagain

theorem decodeADTSAAC_safe (data : List UInt8) : (decodeADTSAAC data).Safe := by
  obtain ⟨vars, hvars⟩ := adtsLoop.run_ok (fun s => by
    rcases adtsRound_cases s.1 s.2 with hleave | ⟨_, _, hagain, -⟩
    · exact ⟨_, hleave⟩
    · exact ⟨_, hagain⟩) ({}, data)
  have hrate : 0 < vars.sampleRate := (adtsLoop_inv hvars).1
  unfold decodeADTSAAC
  rw [hvars, ok_bind]
  split
  · exact safe_error _
  · obtain ⟨tel, htel, -⟩ := newAudioTelemetry_ok vars.syntheticPCM
      (((vars.totalFrames * 1024 * 1000 : Nat) : Int).tdiv (vars.sampleRate : Nat)) vars.sampleRate vars.channels "aac"
    rw [quotient_of_ne (by omega), ok_bind, htel]
    exact safe_ok _

end PerGo.L3.Media
