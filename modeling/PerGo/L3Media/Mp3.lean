import PerGo.Core.Loop
import PerGo.L3Media.Telemetry

/-!
# MP3 streams

`DecodeMP3` of `media/audio.go`. The scanner is the list of bytes from its offset on.

* `mp3Round_cases`: what a round of the scanner does; it does not panic.
* `decodeMP3_safe`: every byte string is scanned without a panic.
-/
namespace PerGo.L3.Media

open PerGo.Core PerGo.Core.Result PerGo.L1

def bitrateTableMPEG1L3 : List Nat := [0, 32, 40, 48, 56, 64, 80, 96, 112, 128, 160, 192, 224, 256, 320, 0]

def sampleRateTableMPEG1 : List Nat := [44100, 48000, 32000, 0]

/-- mirrors audio.go:45-51 -/
def isMP3Header (data : List UInt8) : Bool :=
  data.take 3 = ascii ['I', 'D', '3'] || match data with
    | d0 :: d1 :: _ => d0 = 0xFF && d1 &&& 0xE0 = 0xE0 && d1 &&& 0x06 ≠ 0x00
    | _ => false

structure Mp3Vars where
  totalSamples : Nat := 0
  sampleRate : Nat := 44100
  channels : Nat := 1
  syntheticPCM : List Int16 := []

def isMPEG1 (b1 : UInt8) : Bool := (b1 >>> 3) &&& 0x03 = 3

/-- The bit rate and the sample rate of a header. mirrors audio.go:956-976 -/
def mp3Rates (b1 b2 : UInt8) : Result AudioError (Nat × Nat) := do
  let kbps ← index bitrateTableMPEG1L3 ((b2 >>> 4) &&& 0x0F).toNat
  let sr ← index sampleRateTableMPEG1 ((b2 >>> 2) &&& 0x03).toNat
  return if isMPEG1 b1 then (kbps, sr) else (kbps / 2, sr / 2)

/-- The length of a frame, with its header. mirrors audio.go:984-988 -/
def mp3FrameLen (b1 b2 : UInt8) (kbps sr : Nat) : Result AudioError Nat := do
  let bytes ← quotient ((if isMPEG1 b1 then 144 else 72) * kbps * 1000 : Nat) (sr : Nat)
  return bytes.toNat + ((b2 >>> 1) &&& 0x01).toNat

def mp3FrameSamples (b1 : UInt8) : Nat := if isMPEG1 b1 then 1152 else 576

/-- The first byte behind the header and the checksum. mirrors audio.go:1000-1009 -/
def mp3GlobalGain (b1 : UInt8) (rest : List UInt8) : Result AudioError UInt8 :=
  let sideOffset := if b1 &&& 0x01 = 0 then 6 else 4
  if sideOffset < rest.length then index rest sideOffset else .ok 128

/-- One round of the frame loop. mirrors audio.go:939-1016 -/
def mp3Round (vars : Mp3Vars) (rest : List UInt8) : Result AudioError (Next (Mp3Vars × List UInt8) Mp3Vars) :=
  if rest.length < 4 then .ok (.leave vars)
  else do
    let b0 ← index rest 0
    let b1 ← index rest 1
    if b0 ≠ 0xFF ∨ b1 &&& 0xE0 ≠ 0xE0 then return .again (vars, rest.drop 1)
    let b2 ← index rest 2
    let b3 ← index rest 3
    if (b1 >>> 1) &&& 0x03 ≠ 0x01 then return .again (vars, rest.drop 1)
    let vars := { vars with channels := if (b3 >>> 6) &&& 0x03 = 3 then 1 else 2 }
    let (kbps, sr) ← mp3Rates b1 b2
    if sr = 0 ∨ kbps = 0 then return .again (vars, rest.drop 1)
    let vars := { vars with sampleRate := sr }
    let frameLen ← mp3FrameLen b1 b2 kbps sr
    if frameLen ≤ 4 ∨ rest.length < frameLen then return .again (vars, rest.drop 1)
    let globalGain ← mp3GlobalGain b1 rest
    return .again ({ vars with
      totalSamples := vars.totalSamples + mp3FrameSamples b1
      syntheticPCM := appendSyntheticPCM vars.syntheticPCM (mp3FrameSamples b1) sr (globalGain.toFloat / 255.0) },
      rest.drop frameLen)

/-! ## What a round does -/

theorem mp3Rates_ok (b1 b2 : UInt8) : ∃ rates, mp3Rates b1 b2 = .ok rates := by
  have hbits : ((b2 >>> 4) &&& 0x0F).toNat < bitrateTableMPEG1L3.length := by
    rw [UInt8.toNat_and]
    exact Nat.lt_succ_of_le Nat.and_le_right
  have hrate : ((b2 >>> 2) &&& 0x03).toNat < sampleRateTableMPEG1.length := by
    rw [UInt8.toNat_and]
    exact Nat.lt_succ_of_le Nat.and_le_right
  exact ⟨_, by rw [mp3Rates, index_of_lt hbits, ok_bind, index_of_lt hrate]; rfl⟩

theorem mp3FrameLen_ok (b1 b2 : UInt8) (kbps sr : Nat) (h : sr ≠ 0) :
    ∃ n, mp3FrameLen b1 b2 kbps sr = .ok n := by
  unfold mp3FrameLen
  rw [quotient_of_ne (by omega)]
  exact ⟨_, rfl⟩

theorem mp3GlobalGain_ok (b1 : UInt8) (rest : List UInt8) : ∃ gain, mp3GlobalGain b1 rest = .ok gain := by
  unfold mp3GlobalGain
  generalize (if b1 &&& 0x01 = 0 then 6 else 4) = sideOffset
  simp only
  split
  · rename_i h
    exact ⟨_, index_of_lt h⟩
  · exact ⟨_, rfl⟩

/-- A round that goes on: it takes some of the bytes, and the samples of a frame, if it takes one. -/
structure Mp3Advance (vars vars' : Mp3Vars) (rest : List UInt8) (n : Nat) : Prop where
  pos : 0 < n
  le : n ≤ rest.length
  rate : 0 < vars.sampleRate → 0 < vars'.sampleRate
  samples : vars'.syntheticPCM.length + vars.totalSamples = vars.syntheticPCM.length + vars'.totalSamples

theorem mp3Round_cases (vars : Mp3Vars) (rest : List UInt8) :
    mp3Round vars rest = .ok (.leave vars) ∨
      ∃ vars' n, mp3Round vars rest = .ok (.again (vars', rest.drop n)) ∧ Mp3Advance vars vars' rest n := by
  unfold mp3Round
  by_cases hlen : rest.length < 4
  · rw [if_pos hlen]
    exact .inl rfl
  · rw [if_neg hlen, index_of_lt (by omega), index_of_lt (by omega), ok_bind, ok_bind]
    right
    split
    · exact ⟨vars, 1, rfl, by decide, by omega, id, rfl⟩
    · rw [index_of_lt (by omega), index_of_lt (by omega), ok_bind, ok_bind]
      split
      · exact ⟨vars, 1, rfl, by decide, by omega, id, rfl⟩
      · obtain ⟨⟨kbps, sr⟩, hrates⟩ := mp3Rates_ok rest[1] rest[2]
        rw [hrates, ok_bind]
        simp only
        by_cases hzero : sr = 0 ∨ kbps = 0
        · rw [if_pos hzero]
          exact ⟨_, 1, rfl, by decide, by omega, id, rfl⟩
        · obtain ⟨frameLen, hframe⟩ := mp3FrameLen_ok rest[1] rest[2] kbps sr (by omega)
          have hrate : 0 < sr := by omega
          rw [if_neg hzero, hframe, ok_bind]
          split
          · exact ⟨_, 1, rfl, by decide, by omega, fun _ => hrate, rfl⟩
          · obtain ⟨gain, hgain⟩ := mp3GlobalGain_ok rest[1] rest
            rw [hgain]
            refine ⟨_, frameLen, rfl, by omega, by omega, fun _ => hrate, ?_⟩
            simp only [length_appendSyntheticPCM]
            omega

theorem mp3Round_frame (b1 b2 b3 : UInt8) (payload : List UInt8) {kbps sr : Nat} (hsync : b1 &&& 0xE0 = 0xE0)
    (hlayer : (b1 >>> 1) &&& 0x03 = 0x01) (hrates : mp3Rates b1 b2 = .ok (kbps, sr)) (hkbps : kbps ≠ 0) (hsr : sr ≠ 0)
    (hlen : mp3FrameLen b1 b2 kbps sr = .ok (4 + payload.length)) (hpayload : payload ≠ []) (vars : Mp3Vars)
    (rest : List UInt8) :
    ∃ vars', mp3Round vars (0xFF :: b1 :: b2 :: b3 :: (payload ++ rest)) = .ok (.again (vars', rest)) ∧
      vars'.totalSamples = vars.totalSamples + mp3FrameSamples b1 ∧ vars'.sampleRate = sr := by
  have hpos : 0 < payload.length := List.length_pos_iff.mpr hpayload
  have hbytes : (0xFF :: b1 :: b2 :: b3 :: (payload ++ rest)).length = 4 + payload.length + rest.length := by
    simp only [List.length_cons, List.length_append]
    omega
  have hrest : (0xFF :: b1 :: b2 :: b3 :: (payload ++ rest)).drop (4 + payload.length) = rest := by
    rw [← List.drop_drop]
    exact List.drop_left
  obtain ⟨gain, hgain⟩ := mp3GlobalGain_ok b1 (0xFF :: b1 :: b2 :: b3 :: (payload ++ rest))
  unfold mp3Round
  rw [if_neg (by omega)]
  simp only [index, List.getElem?_cons_zero, List.getElem?_cons_succ, ok_bind, hrates, hlen, hbytes, hgain, hrest]
  rw [if_neg (by simp [hsync]), if_neg (by simp [hlayer]), if_neg (by omega), if_neg (by omega)]
  exact ⟨_, rfl, rfl, rfl⟩

def mp3Loop : Loop AudioError (Mp3Vars × List UInt8) Mp3Vars where
  round s := mp3Round s.1 s.2
  size s := s.2.length
  shrinks {s s'} h := by
    rcases mp3Round_cases s.1 s.2 with hleave | ⟨vars', n, hagain, hadvance⟩
    · cases h.symm.trans hleave
    · cases h.symm.trans hagain
      have hpos := hadvance.pos
      have hle := hadvance.le
      rw [List.length_drop]
      omega

/-- The length of an ID3 tag. mirrors audio.go:923-927 -/
def id3Length (data : List UInt8) : Result AudioError Nat :=
  if 10 ≤ data.length ∧ data.take 3 = ascii ['I', 'D', '3'] then do
    let d6 ← index data 6
    let d7 ← index data 7
    let d8 ← index data 8
    let d9 ← index data 9
    return 10 + (((d6 &&& 0x7F).toNat <<< 21) ||| ((d7 &&& 0x7F).toNat <<< 14) ||| ((d8 &&& 0x7F).toNat <<< 7) |||
      (d9 &&& 0x7F).toNat)
  else .ok 0

/-- mirrors audio.go:917-1024 -/
def decodeMP3 (data : List UInt8) : Result AudioError Decoded :=
  if data.length < 4 then .error (.corruptAudioData "mp3 data too small")
  else do
    let offset ← id3Length data
    let vars ← mp3Loop.run ({}, data.drop offset)
    if vars.totalSamples = 0 ∨ vars.sampleRate = 0 then .error (.invalidAudioFormat "no valid mp3 frames found")
    else
      let durationMs ← quotient (vars.totalSamples * 1000 : Nat) (vars.sampleRate : Nat)
      let tel ← newAudioTelemetry vars.syntheticPCM durationMs vars.sampleRate vars.channels "mp3"
      return (vars.syntheticPCM, tel)

/-! ## It returns -/

theorem id3Length_ok (data : List UInt8) : ∃ n, id3Length data = .ok n := by
  unfold id3Length
  split
  · rw [index_of_lt (by omega), index_of_lt (by omega), index_of_lt (by omega), index_of_lt (by omega)]
    exact ⟨_, rfl⟩
  · exact ⟨0, rfl⟩

theorem decodeMP3_safe (data : List UInt8) : (decodeMP3 data).Safe := by
  unfold decodeMP3
  split
  · exact safe_error _
  · obtain ⟨offset, hoffset⟩ := id3Length_ok data
    obtain ⟨vars, hvars⟩ := mp3Loop.run_ok (fun s => by
      rcases mp3Round_cases s.1 s.2 with hleave | ⟨_, _, hagain, -⟩
      · exact ⟨_, hleave⟩
      · exact ⟨_, hagain⟩) ({}, data.drop offset)
    rw [hoffset, ok_bind, hvars, ok_bind]
    split
    · exact safe_error _
    · obtain ⟨tel, htel, -⟩ := newAudioTelemetry_ok vars.syntheticPCM
        (((vars.totalSamples * 1000 : Nat) : Int).tdiv (vars.sampleRate : Nat)) vars.sampleRate vars.channels "mp3"
      rw [quotient_of_ne (by omega), ok_bind, htel]
      exact safe_ok _

end PerGo.L3.Media
