import PerGo.Core.Loop
import PerGo.L1Encoding.Float64
import PerGo.L3Media.Telemetry

/-!
# Ogg Opus files

`DecodeOGGOpus` and `ExtractOpusFrameEnergy` of `media/audio.go`. The page loop is over the bytes
from its offset on; what is done with a frame is a parameter of it (`emit`), which `DecodeOGGOpus` takes to
be `appendFrame`.

* `appendFrame_ok`: a frame makes 48 samples for each of its milliseconds.
* `readPage_cases`: a page takes at least its header, so the loop ends.
-/
namespace PerGo.L3.Media

open PerGo.Core PerGo.Core.Result PerGo.L1

/-! ## Packets -/

/-- The duration of a frame by the configuration of its packet. mirrors audio.go:691-722 -/
def opusFrameMs (config : Nat) : Nat :=
  if 16 ≤ config then
    if config % 4 = 0 then 20 else if config % 4 = 1 then 10 else if config % 4 = 2 then 5 else 3
  else if 12 ≤ config then if config % 2 = 0 then 10 else 20
  else if config % 4 = 0 then 10 else if config % 4 = 1 then 20 else if config % 4 = 2 then 40 else 60

def opusConfig (toc : UInt8) : Nat := ((toc >>> 3) &&& 0x1F).toNat

/-- Two energies in a byte. mirrors audio.go:730-763 -/
def celtEnergy (config : Nat) (payload : List UInt8) : Float :=
  let numBands := if config < 20 then 13 else if config < 24 then 17 else if config < 28 then 19 else 21
  let sampled := payload.take ((numBands + 1) / 2)
  let sumSq := sampled.foldl (fun sum (b : UInt8) =>
    let hi := ((b >>> 4) &&& 0x0F).toFloat / 15.0
    let lo := (b &&& 0x0F).toFloat / 15.0
    sum + hi * hi + lo * lo) 0.0
  let celtRMS := if 0 < sampled.length then (sumSq / Float.ofNat (2 * sampled.length)).sqrt else 0.0
  if celtRMS > 1.0 then 1.0 else celtRMS

def subframeGain (payload : List UInt8) (k : Nat) : Result AudioError UInt8 :=
  if 1 + k < payload.length then index payload (1 + k) else index payload (payload.length - 1)

/-- The energies of the subframes.
mirrors audio.go:766-794 -/
def silkEnergies (frameMs : Nat) (payload : List UInt8) : Result AudioError (List Float) := do
  let numSubframes := if frameMs / 5 = 0 then 1 else frameMs / 5
  let b0 ← index payload 0
  let vadVoiced := b0 &&& 0x80 ≠ 0
  (List.range numSubframes).mapM fun k => do
    let rawGain ← subframeGain payload k
    return if rawGain ≤ 4 ∧ ¬ vadVoiced then 0.0 else if rawGain > 64 then 1.0 else rawGain.toFloat / 64.0

/-- mirrors audio.go:683-797 -/
def extractOpusFrameEnergy (packet : List UInt8) : Result AudioError (List Float × Nat) :=
  if packet.length = 0 then .ok ([], 0)
  else do
    let toc ← index packet 0
    let config := opusConfig toc
    let frameMs := opusFrameMs config
    let payload ← slice packet 1 packet.length
    if payload.length = 0 then return ([0.0], frameMs)
    if 16 ≤ config then return ([celtEnergy config payload], frameMs)
    let energies ← silkEnergies frameMs payload
    return (energies, frameMs)

/-- The samples of a frame. mirrors audio.go:876-891 -/
def appendFrame (syntheticPCM : List Int16) (packet : List UInt8) : Result AudioError (List Int16) := do
  let (energies, frameMs) ← extractOpusFrameEnergy packet
  let subframeMs := if 0 < energies.length then frameMs / energies.length else 5
  let subframeMs := if subframeMs = 0 then frameMs else subframeMs
  return energies.foldl (fun pcm energy => appendSyntheticPCM pcm (48000 * subframeMs / 1000) 48000 energy) syntheticPCM

/-- The milliseconds of a packet. -/
def packetMs (packet : List UInt8) : Nat :=
  match packet with
  | [] => 0
  | toc :: _ => opusFrameMs (opusConfig toc)

theorem opusFrameMs_pos (config : Nat) : 0 < opusFrameMs config := by
  unfold opusFrameMs
  split
  · split
    · decide
    · split
      · decide
      · split
        · decide
        · decide
  · split
    · split
      · decide
      · decide
    · split
      · decide
      · split
        · decide
        · split
          · decide
          · decide

theorem opusFrameMs_silk {config : Nat} (h : ¬ 16 ≤ config) :
    opusFrameMs config / 5 ≠ 0 ∧ opusFrameMs config / 5 ∣ opusFrameMs config := by
  have hall : ∀ config < 16, opusFrameMs config / 5 ≠ 0 ∧ opusFrameMs config / 5 ∣ opusFrameMs config := by decide
  exact hall config (by omega)

theorem subframeGain_ok {payload : List UInt8} (h : payload.length ≠ 0) (k : Nat) :
    ∃ gain, subframeGain payload k = .ok gain := by
  unfold subframeGain
  split
  · exact ⟨_, index_of_lt (by omega)⟩
  · exact ⟨_, index_of_lt (by omega)⟩

theorem silkEnergies_ok {frameMs : Nat} (hms : frameMs / 5 ≠ 0) {payload : List UInt8} (h : payload.length ≠ 0) :
    ∃ energies, silkEnergies frameMs payload = .ok energies ∧ energies.length = frameMs / 5 := by
  have hloop : ∃ energies, silkEnergies frameMs payload = .ok energies := by
    unfold silkEnergies
    rw [index_of_lt (by omega), ok_bind]
    refine exists_mapM_ok fun k _ => ?_
    obtain ⟨gain, hgain⟩ := subframeGain_ok h k
    rw [hgain]
    exact ⟨_, rfl⟩
  obtain ⟨energies, henergies⟩ := hloop
  refine ⟨energies, henergies, ?_⟩
  unfold silkEnergies at henergies
  rw [index_of_lt (by omega), ok_bind, if_neg hms] at henergies
  rw [length_mapM henergies, List.length_range]

theorem extractOpusFrameEnergy_ok {packet : List UInt8} (h : packet ≠ []) :
    ∃ energies, extractOpusFrameEnergy packet = .ok (energies, packetMs packet) ∧ 0 < energies.length ∧
      energies.length ∣ packetMs packet := by
  obtain ⟨toc, payload, rfl⟩ := List.exists_cons_of_ne_nil h
  have hms : packetMs (toc :: payload) = opusFrameMs (opusConfig toc) := rfl
  have hpayload : (slice (toc :: payload) 1 (toc :: payload).length : Result AudioError (List UInt8)) = .ok payload := by
    rw [slice_length (by simp)]
    rfl
  unfold extractOpusFrameEnergy
  rw [if_neg (by simp), index_cons_zero, ok_bind, hms, hpayload, ok_bind]
  by_cases hnone : payload.length = 0
  · rw [if_pos hnone]
    exact ⟨_, rfl, by simp, by simp⟩
  · rw [if_neg hnone]
    by_cases hcelt : 16 ≤ opusConfig toc
    · rw [if_pos hcelt]
      exact ⟨_, rfl, by simp, by simp⟩
    · obtain ⟨hwhole, hdvd⟩ := opusFrameMs_silk hcelt
      obtain ⟨energies, henergies, hlength⟩ := silkEnergies_ok hwhole hnone
      rw [if_neg hcelt, henergies]
      refine ⟨energies, rfl, ?_, ?_⟩
      · omega
      · rw [hlength]
        exact hdvd

theorem length_foldl_append (energies : List Float) (n : Nat) (pcm : List Int16) :
    (energies.foldl (fun pcm energy => appendSyntheticPCM pcm n 48000 energy) pcm).length =
      pcm.length + energies.length * n := by
  induction energies generalizing pcm with
  | nil => simp
  | cons energy energies ih =>
    rw [List.foldl_cons, ih, length_appendSyntheticPCM, List.length_cons]
    ring

theorem appendFrame_ok {packet : List UInt8} (h : packet ≠ []) (pcm : List Int16) :
    ∃ pcm', appendFrame pcm packet = .ok pcm' ∧ pcm'.length = pcm.length + 48 * packetMs packet := by
  obtain ⟨energies, henergies, hpos, k, hk⟩ := extractOpusFrameEnergy_ok h
  have hms : 0 < packetMs packet := by
    obtain ⟨toc, payload, rfl⟩ := List.exists_cons_of_ne_nil h
    exact opusFrameMs_pos _
  have hdiv : packetMs packet / energies.length = k := by rw [hk, Nat.mul_div_cancel_left k hpos]
  have hkpos : 0 < k := by
    rcases Nat.eq_zero_or_pos k with rfl | hkpos
    · omega
    · exact hkpos
  have hsamples : 48000 * k / 1000 = 48 * k := by omega
  refine ⟨_, by unfold appendFrame; rw [henergies]; rfl, ?_⟩
  rw [if_pos hpos, hdiv, if_neg (by omega), hsamples, length_foldl_append, hk]
  ring

theorem appendFrames_ok (packets : List (List UInt8)) (h : ∀ p ∈ packets, p ≠ []) (pcm : List Int16) :
    ∃ pcm', packets.foldlM appendFrame pcm = .ok pcm' ∧
      pcm'.length = pcm.length + (packets.map fun p => 48 * packetMs p).sum := by
  induction packets generalizing pcm with
  | nil => exact ⟨pcm, rfl, by simp⟩
  | cons p packets ih =>
    obtain ⟨pcm₁, hfirst, hlength⟩ := appendFrame_ok (h p List.mem_cons_self) pcm
    obtain ⟨pcm₂, hrest, hlength'⟩ := ih (fun q hq => h q (List.mem_cons_of_mem p hq)) pcm₁
    refine ⟨pcm₂, by rw [List.foldlM_cons, hfirst, ok_bind, hrest], ?_⟩
    rw [hlength', hlength, List.map_cons, List.sum_cons, Nat.add_assoc]

/-! ## Pages -/

def oggS : List UInt8 := ascii ['O', 'g', 'g', 'S']

def opusHead : List UInt8 := ascii ['O', 'p', 'u', 's', 'H', 'e', 'a', 'd']

def opusTags : List UInt8 := ascii ['O', 'p', 'u', 's', 'T', 'a', 'g', 's']

def isOGGHeader (data : List UInt8) : Bool := 4 ≤ data.length && data.take 4 = oggS

structure OggPage where
  headerType : UInt8
  granulePos : Nat
  segmentTable : List UInt8
  payload : List UInt8

def syncPage (rest : List UInt8) : Option (List UInt8) :=
  if rest.length < 27 then none
  else if rest.take 4 = oggS then some rest
  else ((indexOf oggS rest).map rest.drop).filter fun rest => 27 ≤ rest.length

/-- A page and what is behind it; `none` ends the loop. mirrors audio.go:817-848 -/
def readPage (rest : List UInt8) : Result AudioError (Option (OggPage × List UInt8)) :=
  match syncPage rest with
  | none => .ok none
  | some rest => do
    let headerType ← index rest 5
    let granulePos ← slice rest 6 14
    let numSegments ← index rest 26
    let pageDataOffset := 27 + numSegments.toNat
    if rest.length < pageDataOffset then return none
    let segmentTable ← slice rest 27 pageDataOffset
    let pagePayloadSize := (segmentTable.map fun seg => seg.toNat).sum
    if rest.length < pageDataOffset + pagePayloadSize then return none
    let payload ← slice rest pageDataOffset (pageDataOffset + pagePayloadSize)
    return some (⟨headerType, leNat granulePos, segmentTable, payload⟩, rest.drop (pageDataOffset + pagePayloadSize))

structure OggVars (σ : Type) where
  channels : Nat := 1
  sampleRate : Nat := 48000
  preSkip : Nat := 0
  lastGranulePos : Nat := 0
  foundHead : Bool := false
  out : σ

section Loop

variable {σ : Type} (emit : σ → List UInt8 → Result AudioError σ)

/-- mirrors audio.go:850-863 -/
def readHead (vars : OggVars σ) (payload : List UInt8) : Result AudioError (OggVars σ) :=
  if vars.foundHead then .ok vars
  else match indexOf opusHead payload with
    | none => .ok vars
    | some headIdx =>
      if payload.length - headIdx < 19 then .ok vars
      else do
        let headData ← slice payload headIdx payload.length
        let channels ← index headData 9
        let preSkip ← slice headData 10 12
        let origSampleRate ← slice headData 12 16
        return { vars with
          channels := channels.toNat
          preSkip := leNat preSkip
          sampleRate := if 0 < leNat origSampleRate then leNat origSampleRate else vars.sampleRate
          foundHead := true }

/-- The segment loop; each segment that is not empty is a frame. mirrors audio.go:871-894 -/
def pageFrames (payload : List UInt8) (segmentTable : List UInt8) (out : σ) : Result AudioError (σ × Nat) :=
  segmentTable.foldlM (fun s seg =>
    if 0 < seg.toNat ∧ s.2 + seg.toNat ≤ payload.length then do
      let packet ← slice payload s.2 (s.2 + seg.toNat)
      let out ← emit s.1 packet
      return (out, s.2 + seg.toNat)
    else .ok s) (out, 0)

/-- A page that holds one of the markers is no page of audio. -/
def hasMarker (payload : List UInt8) : Bool := contains opusHead payload || contains opusTags payload

/-- mirrors audio.go:850-895 -/
def takePage (vars : OggVars σ) (page : OggPage) : Result AudioError (OggVars σ) := do
  let vars ← readHead vars page.payload
  let vars := if vars.lastGranulePos < page.granulePos then { vars with lastGranulePos := page.granulePos } else vars
  if vars.foundHead ∧ ¬ hasMarker page.payload then
    let (out, _) ← pageFrames emit page.payload page.segmentTable vars.out
    return { vars with out }
  else return vars

/-- One round of the page loop. mirrors audio.go:817-901 -/
def oggRound (vars : OggVars σ) (rest : List UInt8) :
    Result AudioError (Next (OggVars σ × List UInt8) (OggVars σ)) := do
  match ← readPage rest with
  | none => return .leave vars
  | some (page, rest) =>
    let vars ← takePage emit vars page
    -- the last page of the stream
    return if page.headerType &&& 0x04 ≠ 0 then .leave vars else .again (vars, rest)

theorem syncPage_some {rest rest' : List UInt8} (h : syncPage rest = some rest') :
    27 ≤ rest'.length ∧ rest'.length ≤ rest.length := by
  unfold syncPage at h
  split at h
  · cases h
  · rename_i hlen
    split at h
    · cases h
      omega
    · obtain ⟨hmap, hle⟩ := Option.filter_eq_some_iff.mp h
      obtain ⟨i, -, rfl⟩ := Option.map_eq_some_iff.mp hmap
      refine ⟨by simpa using hle, ?_⟩
      rw [List.length_drop]
      omega

theorem readPage_cases (rest : List UInt8) :
    readPage rest = .ok none ∨
      ∃ page rest', readPage rest = .ok (some (page, rest')) ∧ rest'.length + 27 ≤ rest.length := by
  unfold readPage
  cases hsync : syncPage rest with
  | none => exact .inl rfl
  | some rest₁ =>
    obtain ⟨hlen, hle⟩ := syncPage_some hsync
    simp only
    rw [index_of_lt (by omega), slice_of_le (by omega) (by omega), index_of_lt (by omega), ok_bind, ok_bind, ok_bind]
    split
    · exact .inl rfl
    · rw [slice_of_le (by omega) (by omega), ok_bind]
      split
      · exact .inl rfl
      · rw [slice_of_le (by omega) (by omega)]
        refine .inr ⟨_, _, rfl, ?_⟩
        rw [List.length_drop]
        omega

theorem oggRound_again {vars vars' : OggVars σ} {rest rest' : List UInt8}
    (h : oggRound emit vars rest = .ok (.again (vars', rest'))) : rest'.length < rest.length := by
  unfold oggRound at h
  rcases readPage_cases rest with hnone | ⟨page, rest₁, hpage, hle⟩
  · rw [hnone] at h
    cases h
  · rw [hpage, ok_bind] at h
    obtain ⟨vars₁, -, h⟩ := bind_eq_ok_iff.mp h
    split at h
    · cases h
    · cases h
      omega

def oggLoop : Loop AudioError (OggVars σ × List UInt8) (OggVars σ) where
  round s := oggRound emit s.1 s.2
  size s := s.2.length
  shrinks h := oggRound_again emit h

end Loop

def oggDuration (vars : OggVars (List Int16)) : Int :=
  if vars.preSkip < vars.lastGranulePos then
    ⌊float64 (float64 (float64 (vars.lastGranulePos - vars.preSkip : Nat) * 1000) / 48000)⌋
  else if 0 < vars.out.length then (vars.out.length * 1000 / 48000 : Nat)
  else 0

/-- What follows the loop. mirrors audio.go:903-913 -/
def finishOGG (vars : OggVars (List Int16)) : Result AudioError Decoded := do
  let channels := if vars.channels = 0 then 1 else vars.channels
  let tel ← newAudioTelemetry vars.out (oggDuration vars) vars.sampleRate channels "ogg/opus"
  return (vars.out, tel)

theorem finishOGG_ok (vars : OggVars (List Int16)) :
    ∃ tel, finishOGG vars = .ok (vars.out, tel) ∧ tel.durationMS = oggDuration vars := by
  obtain ⟨tel, htel, hduration, -⟩ := newAudioTelemetry_ok vars.out (oggDuration vars) vars.sampleRate
    (if vars.channels = 0 then 1 else vars.channels) "ogg/opus"
  exact ⟨tel, by unfold finishOGG; simp only; rw [htel]; rfl, hduration⟩

/-- mirrors audio.go:800-914 -/
def decodeOGGOpus (data : List UInt8) : Result AudioError Decoded :=
  if data.length < 27 ∨ ¬ isOGGHeader data then .error (.invalidAudioFormat "missing OggS header")
  else (oggLoop appendFrame).run ({ out := [] }, data) >>= finishOGG

end PerGo.L3.Media
