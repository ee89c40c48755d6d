import PerGo.Core.Scanner
import PerGo.L3Media.Adts
import PerGo.L3Media.Mp3
import PerGo.L4App.OggPackets

/-!
# The frame scanners

`DecodeMP3` and `decodeADTSAAC` look for the next frame byte by byte, `DecodeOGGOpus` page by page. `mp3Scanner` and
`adtsScanner` say which frames there are; for Ogg they are what the page loop hands on.

Result: `frame_scanners`. Every round of the three loops leaves or advances, on whatever bytes, nothing is out of
range and no divisor is zero; the samples are those of the frames.
-/
namespace PerGo.L4.FrameScanners

open PerGo.Core PerGo.Core.Result PerGo.L1 PerGo.L3.Media PerGo.L4.OggPackets

/-! ## MP3 -/

def mp3FrameAt (rest : List UInt8) : Option (Nat × Nat) :=
  match rest with
  | b0 :: b1 :: b2 :: _ :: _ =>
    match mp3Rates b1 b2 with
    | .ok (kbps, sr) =>
      if b0 ≠ 0xFF ∨ b1 &&& 0xE0 ≠ 0xE0 ∨ (b1 >>> 1) &&& 0x03 ≠ 0x01 ∨ sr = 0 ∨ kbps = 0 then none
      else match mp3FrameLen b1 b2 kbps sr with
        | .ok n => if 4 < n ∧ n ≤ rest.length then some (mp3FrameSamples b1, n) else none
        | _ => none
    | _ => none
  | _ => none

theorem mp3FrameAt_within {rest : List UInt8} {f n : Nat} (h : mp3FrameAt rest = some (f, n)) :
    0 < n ∧ n ≤ rest.length := by
  unfold mp3FrameAt at h
  split at h
  · split at h
    · split at h
      · cases h
      · split at h
        · split at h
          · rename_i hlen
            cases h
            omega
          · cases h
        · cases h
    · cases h
  · cases h

def mp3Scanner : Scanner UInt8 Nat := ⟨4, by decide, mp3FrameAt, mp3FrameAt_within⟩

/-- The samples of each frame that `DecodeMP3` takes. -/
def mp3Frames (data : List UInt8) : Result AudioError (List Nat) := do
  let offset ← id3Length data
  return mp3Scanner.frames (data.drop offset)

theorem mp3Round_eq (vars : Mp3Vars) (b0 b1 b2 b3 : UInt8) (tail : List UInt8) :
    ∃ vars', mp3Round vars (b0 :: b1 :: b2 :: b3 :: tail) =
        .ok (.again (vars', (b0 :: b1 :: b2 :: b3 :: tail).drop
          (((mp3FrameAt (b0 :: b1 :: b2 :: b3 :: tail)).map (·.2)).getD 1))) ∧
      vars'.syntheticPCM.length =
        vars.syntheticPCM.length + ((mp3FrameAt (b0 :: b1 :: b2 :: b3 :: tail)).map (·.1)).getD 0 := by
  obtain ⟨⟨kbps, sr⟩, hrates⟩ := mp3Rates_ok b1 b2
  have hlong : ¬ (b0 :: b1 :: b2 :: b3 :: tail).length < 4 := by simp
  unfold mp3Round mp3FrameAt
  rw [if_neg hlong]
  simp only [index, List.getElem?_cons_zero, List.getElem?_cons_succ, ok_bind, hrates]
  by_cases hsync : b0 ≠ 0xFF ∨ b1 &&& 0xE0 ≠ 0xE0
  · have hnone : b0 ≠ 0xFF ∨ b1 &&& 0xE0 ≠ 0xE0 ∨ (b1 >>> 1) &&& 0x03 ≠ 0x01 ∨ sr = 0 ∨ kbps = 0 :=
      hsync.imp_right Or.inl
    rw [if_pos hsync, if_pos hnone]
    exact ⟨vars, rfl, rfl⟩
  · rw [if_neg hsync]
    by_cases hlayer : (b1 >>> 1) &&& 0x03 ≠ 0x01
    · rw [if_pos hlayer, if_pos (Or.inr (Or.inr (Or.inl hlayer)))]
      exact ⟨vars, rfl, rfl⟩
    · rw [if_neg hlayer]
      by_cases hzero : sr = 0 ∨ kbps = 0
      · rw [if_pos hzero, if_pos (Or.inr (Or.inr (Or.inr hzero)))]
        exact ⟨_, rfl, rfl⟩
      · have hframe : ¬ (b0 ≠ 0xFF ∨ b1 &&& 0xE0 ≠ 0xE0 ∨ (b1 >>> 1) &&& 0x03 ≠ 0x01 ∨ sr = 0 ∨ kbps = 0) := by
          rintro (h0 | h1 | h2 | h3)
          · exact hsync (Or.inl h0)
          · exact hsync (Or.inr h1)
          · exact hlayer h2
          · exact hzero h3
        obtain ⟨n, hlen⟩ := mp3FrameLen_ok b1 b2 kbps sr (by omega)
        rw [if_neg hzero, if_neg hframe, hlen]
        simp only [ok_bind]
        by_cases hcut : n ≤ 4 ∨ (b0 :: b1 :: b2 :: b3 :: tail).length < n
        · have hnone : ¬ (4 < n ∧ n ≤ (b0 :: b1 :: b2 :: b3 :: tail).length) := by omega
          rw [if_pos hcut, if_neg hnone]
          exact ⟨_, rfl, rfl⟩
        · have hwhole : 4 < n ∧ n ≤ (b0 :: b1 :: b2 :: b3 :: tail).length := by omega
          obtain ⟨gain, hgain⟩ := mp3GlobalGain_ok b1 (b0 :: b1 :: b2 :: b3 :: tail)
          rw [if_neg hcut, if_pos hwhole, hgain]
          exact ⟨_, rfl, length_appendSyntheticPCM _ _ _ _⟩

theorem exists_cons_four {rest : List UInt8} (h : ¬ rest.length < 4) :
    ∃ b0 b1 b2 b3 tail, rest = b0 :: b1 :: b2 :: b3 :: tail := by
  match rest with
  | [] | [_] | [_, _] | [_, _, _] => exact absurd (by simp) h
  | b0 :: b1 :: b2 :: b3 :: tail => exact ⟨b0, b1, b2, b3, tail, rfl⟩

theorem mp3_follows :
    mp3Scanner.Follows mp3Loop (·.syntheticPCM.length) (·.syntheticPCM.length) id := by
  refine ⟨?_, ?_, ?_⟩
  · intro vars rest hlen
    exact ⟨vars, if_pos hlen, rfl⟩
  · intro vars rest hlen hframe
    obtain ⟨b0, b1, b2, b3, tail, rfl⟩ := exists_cons_four hlen
    obtain ⟨vars', hround, hcount⟩ := mp3Round_eq vars b0 b1 b2 b3 tail
    have hnone : mp3FrameAt (b0 :: b1 :: b2 :: b3 :: tail) = none := hframe
    rw [hnone] at hround hcount
    exact ⟨vars', hround, hcount⟩
  · intro vars rest f n hlen hframe
    obtain ⟨b0, b1, b2, b3, tail, rfl⟩ := exists_cons_four hlen
    obtain ⟨vars', hround, hcount⟩ := mp3Round_eq vars b0 b1 b2 b3 tail
    have hsome : mp3FrameAt (b0 :: b1 :: b2 :: b3 :: tail) = some (f, n) := hframe
    rw [hsome] at hround hcount
    exact ⟨vars', hround, hcount⟩

theorem mp3_counted {data : List UInt8} {pcm : List Int16} {tel : AudioTelemetry} (h : decodeMP3 data = .ok (pcm, tel)) :
    ∃ frames, mp3Frames data = .ok frames ∧ pcm.length = (frames.map id).sum := by
  unfold decodeMP3 at h
  split at h
  · cases h
  · obtain ⟨offset, hoffset, h⟩ := bind_eq_ok_iff.mp h
    obtain ⟨vars, hrun, h⟩ := bind_eq_ok_iff.mp h
    have hcount := mp3_follows.run_eq hrun
    refine ⟨mp3Scanner.frames (data.drop offset), by rw [mp3Frames, hoffset]; rfl, ?_⟩
    split at h
    · cases h
    · obtain ⟨durationMs, -, h⟩ := bind_eq_ok_iff.mp h
      obtain ⟨tel', -, h⟩ := bind_eq_ok_iff.mp h
      cases h
      simpa using hcount

/-! ## ADTS -/

def adtsFrameAt (rest : List UInt8) : Option (List UInt8 × Nat) :=
  match rest with
  | d0 :: d1 :: _ :: d3 :: d4 :: d5 :: _ :: _ =>
    if d0 ≠ 0xFF ∨ d1 &&& 0xF0 ≠ 0xF0 then none
    else if 7 ≤ adtsFrameLen d3 d4 d5 ∧ adtsFrameLen d3 d4 d5 ≤ rest.length then
      some (rest.take (adtsFrameLen d3 d4 d5), adtsFrameLen d3 d4 d5)
    else none
  | _ => none

theorem adtsFrameAt_within {rest f : List UInt8} {n : Nat} (h : adtsFrameAt rest = some (f, n)) :
    0 < n ∧ n ≤ rest.length := by
  unfold adtsFrameAt at h
  split at h
  · split at h
    · cases h
    · split at h
      · rename_i hlen
        cases h
        omega
      · cases h
  · cases h

def adtsScanner : Scanner UInt8 (List UInt8) := ⟨7, by decide, adtsFrameAt, adtsFrameAt_within⟩

theorem adtsRound_eq (vars : AdtsVars) (d0 d1 d2 d3 d4 d5 d6 : UInt8) (tail : List UInt8) :
    ∃ vars', adtsRound vars (d0 :: d1 :: d2 :: d3 :: d4 :: d5 :: d6 :: tail) =
        .ok (.again (vars', (d0 :: d1 :: d2 :: d3 :: d4 :: d5 :: d6 :: tail).drop
          (((adtsFrameAt (d0 :: d1 :: d2 :: d3 :: d4 :: d5 :: d6 :: tail)).map (·.2)).getD 1))) ∧
      vars'.syntheticPCM.length = vars.syntheticPCM.length +
        ((adtsFrameAt (d0 :: d1 :: d2 :: d3 :: d4 :: d5 :: d6 :: tail)).map fun _ => 1024).getD 0 := by
  have hlong : ¬ (d0 :: d1 :: d2 :: d3 :: d4 :: d5 :: d6 :: tail).length < 7 := by simp
  unfold adtsRound adtsFrameAt
  rw [if_neg hlong]
  simp only [index, List.getElem?_cons_zero, List.getElem?_cons_succ, ok_bind]
  by_cases hsync : d0 ≠ 0xFF ∨ d1 &&& 0xF0 ≠ 0xF0
  · rw [if_pos hsync, if_pos hsync]
    exact ⟨vars, rfl, rfl⟩
  · rw [if_neg hsync, if_neg hsync]
    generalize adtsFrameLen d3 d4 d5 = n
    by_cases hcut : n < 7 ∨ (d0 :: d1 :: d2 :: d3 :: d4 :: d5 :: d6 :: tail).length < n
    · have hnone : ¬ (7 ≤ n ∧ n ≤ (d0 :: d1 :: d2 :: d3 :: d4 :: d5 :: d6 :: tail).length) := by omega
      rw [if_pos hcut, if_neg hnone]
      exact ⟨_, rfl, rfl⟩
    · have hwhole : 7 ≤ n ∧ n ≤ (d0 :: d1 :: d2 :: d3 :: d4 :: d5 :: d6 :: tail).length := by omega
      rw [if_neg hcut, if_pos hwhole, slice_of_le hwhole.1 hwhole.2, ok_bind]
      generalize henergy : extractAACFrameEnergy _ _ = energy
      obtain ⟨amp, rfl⟩ : ∃ amp, energy = .ok amp := henergy ▸ extractAACFrameEnergy_ok _ _
      refine ⟨_, rfl, ?_⟩
      simp only [length_appendSyntheticPCM]
      rfl

theorem exists_cons_seven {rest : List UInt8} (h : ¬ rest.length < 7) :
    ∃ d0 d1 d2 d3 d4 d5 d6 tail, rest = d0 :: d1 :: d2 :: d3 :: d4 :: d5 :: d6 :: tail := by
  obtain ⟨d0, d1, d2, d3, rest', rfl⟩ := exists_cons_four (show ¬ rest.length < 4 by omega)
  simp only [List.length_cons] at h
  match rest' with
  | [] | [_] | [_, _] => exact absurd (by simp) h
  | d4 :: d5 :: d6 :: tail => exact ⟨d0, d1, d2, d3, d4, d5, d6, tail, rfl⟩

theorem adts_follows :
    adtsScanner.Follows adtsLoop (·.syntheticPCM.length) (·.syntheticPCM.length) fun _ => 1024 := by
  refine ⟨?_, ?_, ?_⟩
  · intro vars rest hlen
    exact ⟨vars, if_pos hlen, rfl⟩
  · intro vars rest hlen hframe
    obtain ⟨d0, d1, d2, d3, d4, d5, d6, tail, rfl⟩ := exists_cons_seven hlen
    obtain ⟨vars', hround, hcount⟩ := adtsRound_eq vars d0 d1 d2 d3 d4 d5 d6 tail
    have hnone : adtsFrameAt (d0 :: d1 :: d2 :: d3 :: d4 :: d5 :: d6 :: tail) = none := hframe
    rw [hnone] at hround hcount
    exact ⟨vars', hround, hcount⟩
  · intro vars rest f n hlen hframe
    obtain ⟨d0, d1, d2, d3, d4, d5, d6, tail, rfl⟩ := exists_cons_seven hlen
    obtain ⟨vars', hround, hcount⟩ := adtsRound_eq vars d0 d1 d2 d3 d4 d5 d6 tail
    have hsome : adtsFrameAt (d0 :: d1 :: d2 :: d3 :: d4 :: d5 :: d6 :: tail) = some (f, n) := hframe
    rw [hsome] at hround hcount
    exact ⟨vars', hround, hcount⟩

theorem adts_counted {data : List UInt8} {pcm : List Int16} {tel : AudioTelemetry}
    (h : decodeADTSAAC data = .ok (pcm, tel)) : pcm.length = ((adtsScanner.frames data).map fun _ => 1024).sum := by
  unfold decodeADTSAAC at h
  obtain ⟨vars, hrun, h⟩ := bind_eq_ok_iff.mp h
  have hcount := adts_follows.run_eq hrun
  split at h
  · cases h
  · obtain ⟨durationMs, -, h⟩ := bind_eq_ok_iff.mp h
    obtain ⟨tel', -, h⟩ := bind_eq_ok_iff.mp h
    cases h
    simpa using hcount

/-! ## Ogg -/

theorem readPage_drop {rest rest' : List UInt8} {page : OggPage} (h : readPage rest = .ok (some (page, rest'))) :
    ∃ n, rest' = rest.drop n ∧ 0 < n ∧ n ≤ rest.length := by
  unfold readPage at h
  cases hsync : syncPage rest with
  | none =>
    rw [hsync] at h
    cases h
  | some rest₁ =>
    obtain ⟨hlen, hle⟩ := syncPage_some hsync
    obtain ⟨k, hk⟩ : ∃ k, rest₁ = rest.drop k := by
      unfold syncPage at hsync
      split at hsync
      · cases hsync
      · split at hsync
        · cases hsync
          exact ⟨0, rfl⟩
        · obtain ⟨hmap, -⟩ := Option.filter_eq_some_iff.mp hsync
          obtain ⟨i, -, rfl⟩ := Option.map_eq_some_iff.mp hmap
          exact ⟨i, rfl⟩
    have hlength : rest₁.length = rest.length - k := by rw [hk, List.length_drop]
    rw [hsync] at h
    simp only at h
    rw [index_of_lt (by omega), slice_of_le (by omega) (by omega), index_of_lt (by omega), ok_bind, ok_bind, ok_bind] at h
    split at h
    · cases h
    · rw [slice_of_le (by omega) (by omega), ok_bind] at h
      split at h
      · cases h
      · rw [slice_of_le (by omega) (by omega)] at h
        cases h
        have hdrop : ∀ m, rest₁.drop m = rest.drop (k + m) := fun m => by rw [hk, List.drop_drop]
        exact ⟨_, hdrop _, by omega, by omega⟩

variable {σ τ : Type}

/-- The variables with something else put out. -/
def withOut (vars : OggVars σ) (out : τ) : OggVars τ :=
  ⟨vars.channels, vars.sampleRate, vars.preSkip, vars.lastGranulePos, vars.foundHead, out⟩

theorem readHead_ok (vars : OggVars σ) (payload : List UInt8) :
    ∃ vars', readHead vars payload = .ok vars' ∧ vars'.out = vars.out ∧
      ∀ {τ : Type} (out : τ), readHead (withOut vars out) payload = .ok (withOut vars' out) := by
  unfold readHead
  by_cases hfound : vars.foundHead = true
  · rw [if_pos hfound]
    exact ⟨vars, rfl, rfl, fun out => if_pos hfound⟩
  · rw [if_neg hfound]
    cases hindex : indexOf opusHead payload with
    | none => exact ⟨vars, rfl, rfl, fun out => if_neg hfound⟩
    | some headIdx =>
      simp only
      by_cases hshort : payload.length - headIdx < 19
      · rw [if_pos hshort]
        exact ⟨vars, rfl, rfl, fun out => (if_neg hfound).trans (if_pos hshort)⟩
      · have hhead : (payload.drop headIdx).length = payload.length - headIdx := List.length_drop
        have hslice : (slice payload headIdx payload.length : Result AudioError (List UInt8)) =
            .ok (payload.drop headIdx) := slice_length (by omega)
        simp only [if_neg hshort, hslice, ok_bind]
        rw [index_of_lt (by omega), slice_of_le (by omega) (by omega), slice_of_le (by omega) (by omega)]
        exact ⟨_, rfl, rfl, fun out => if_neg hfound⟩

section Handed

variable (emit : σ → List UInt8 → Result AudioError σ) (emit' : τ → List UInt8 → Result AudioError τ)
  (R : σ → τ → Prop)

/-- The two do with a frame what keeps them related. -/
def Matched : Prop :=
  ∀ out out' frame, frame ≠ [] → R out out' →
    ∃ out₁ out₁', emit out frame = .ok out₁ ∧ emit' out' frame = .ok out₁' ∧ R out₁ out₁'

variable {emit emit' R}

theorem pageFrames_matched (h : Matched emit emit' R) (payload table : List UInt8) {out : σ} {out' : τ}
    (hout : R out out') :
    ∃ out₁ out₁' n, pageFrames emit payload table out = .ok (out₁, n) ∧
      pageFrames emit' payload table out' = .ok (out₁', n) ∧ R out₁ out₁' := by
  unfold pageFrames
  -- the two loops are at the same position
  have hpos : ((out, 0) : σ × Nat).2 = ((out', 0) : τ × Nat).2 := rfl
  have hrel : R ((out, 0) : σ × Nat).1 ((out', 0) : τ × Nat).1 := hout
  generalize ((out, 0) : σ × Nat) = s at hpos hrel ⊢
  generalize ((out', 0) : τ × Nat) = s' at hpos hrel ⊢
  induction table generalizing s s' with
  | nil => exact ⟨s.1, s'.1, s.2, rfl, by rw [hpos]; rfl, hrel⟩
  | cons seg table ih =>
    rw [List.foldlM_cons, List.foldlM_cons, ← hpos]
    by_cases hroom : 0 < seg.toNat ∧ s.2 + seg.toNat ≤ payload.length
    · have hframe : (payload.drop s.2).take seg.toNat ≠ [] := by
        intro hnil
        have hlength := congrArg List.length hnil
        rw [List.length_take, List.length_drop, List.length_nil] at hlength
        omega
      have hslice : (slice payload s.2 (s.2 + seg.toNat) : Result AudioError (List UInt8)) =
          .ok ((payload.drop s.2).take seg.toNat) := by
        rw [slice_of_le (by omega) hroom.2, Nat.add_sub_cancel_left]
      obtain ⟨out₁, out₁', hemit, hemit', hout₁⟩ := h s.1 s'.1 _ hframe hrel
      simp only [if_pos hroom, hslice, ok_bind, hemit, hemit', pure_eq]
      exact ih _ _ rfl hout₁
    · simp only [if_neg hroom, ok_bind]
      exact ih s s' hpos hrel

theorem takePage_matched (h : Matched emit emit' R) (page : OggPage) {vars : OggVars σ} {out' : τ}
    (hout : R vars.out out') :
    ∃ vars₁ out₁', takePage emit vars page = .ok vars₁ ∧
      takePage emit' (withOut vars out') page = .ok (withOut vars₁ out₁') ∧ R vars₁.out out₁' := by
  obtain ⟨vars', hhead, hsame, hhead'⟩ := readHead_ok vars page.payload
  unfold takePage
  rw [hhead, hhead', ok_bind, ok_bind]
  have hlast : (if (withOut vars' out').lastGranulePos < page.granulePos then
        { withOut vars' out' with lastGranulePos := page.granulePos } else withOut vars' out') =
      withOut (if vars'.lastGranulePos < page.granulePos then { vars' with lastGranulePos := page.granulePos } else vars')
        out' := by
    show (if vars'.lastGranulePos < page.granulePos then _ else _) = _
    split
    · rfl
    · rfl
  have hout₁ : R (if vars'.lastGranulePos < page.granulePos then { vars' with lastGranulePos := page.granulePos }
      else vars').out out' := by
    split
    · exact hsame ▸ hout
    · exact hsame ▸ hout
  simp only [hlast]
  generalize (if vars'.lastGranulePos < page.granulePos then { vars' with lastGranulePos := page.granulePos }
    else vars') = vars₁ at hout₁ ⊢
  by_cases haudio : vars₁.foundHead ∧ ¬ hasMarker page.payload
  · obtain ⟨out₂, out₂', n, hframes, hframes', hout₂⟩ :=
      pageFrames_matched h page.payload page.segmentTable hout₁
    have haudio' : (withOut vars₁ out').foundHead ∧ ¬ hasMarker page.payload := haudio
    rw [if_pos haudio, if_pos haudio', hframes]
    refine ⟨_, out₂', rfl, ?_, hout₂⟩
    show (pageFrames emit' page.payload page.segmentTable out' >>= _) = _
    rw [hframes']
    rfl
  · have haudio' : ¬ ((withOut vars₁ out').foundHead ∧ ¬ hasMarker page.payload) := haudio
    rw [if_neg haudio, if_neg haudio']
    exact ⟨vars₁, out', rfl, rfl, hout₁⟩

theorem oggRound_matched (h : Matched emit emit' R) (vars : OggVars σ) (out' : τ) (hout : R vars.out out')
    (rest : List UInt8) :
    ∃ vars₁ out₁', R vars₁.out out₁' ∧
      (oggRound emit vars rest = .ok (.leave vars₁) ∧
          oggRound emit' (withOut vars out') rest = .ok (.leave (withOut vars₁ out₁')) ∨
        ∃ n, 0 < n ∧ n ≤ rest.length ∧ oggRound emit vars rest = .ok (.again (vars₁, rest.drop n)) ∧
          oggRound emit' (withOut vars out') rest = .ok (.again (withOut vars₁ out₁', rest.drop n))) := by
  unfold oggRound
  rcases readPage_cases rest with hnone | ⟨page, rest', hpage, -⟩
  · rw [hnone]
    exact ⟨vars, out', hout, Or.inl ⟨rfl, rfl⟩⟩
  · obtain ⟨n, rfl, hpos, hle⟩ := readPage_drop hpage
    obtain ⟨vars₁, out₁', htake, htake', hout₁⟩ := takePage_matched h page hout
    simp only [hpage, ok_bind, htake, htake', pure_eq]
    refine ⟨vars₁, out₁', hout₁, ?_⟩
    by_cases heos : page.headerType &&& 0x04 ≠ 0
    · rw [if_pos heos, if_pos heos]
      exact Or.inl ⟨rfl, rfl⟩
    · rw [if_neg heos, if_neg heos]
      exact Or.inr ⟨n, hpos, hle, rfl, rfl⟩

theorem oggLoop_matched (h : Matched emit emit' R) (vars : OggVars σ) (out' : τ) (hout : R vars.out out')
    (rest : List UInt8) :
    ∃ vars₁ out₁', (oggLoop emit).run (vars, rest) = .ok vars₁ ∧
      (oggLoop emit').run (withOut vars out', rest) = .ok (withOut vars₁ out₁') ∧ R vars₁.out out₁' := by
  have hrelated : ∃ r r', (oggLoop emit).run (vars, rest) = .ok r ∧
      (oggLoop emit').run (withOut vars out', rest) = .ok r' ∧ ∃ out, r' = withOut r out ∧ R r.out out := by
    refine Loop.run_related (R := fun s t => ∃ out, t = (withOut s.1 out, s.2) ∧ R s.1.out out) ?_ ⟨out', rfl, hout⟩
    rintro ⟨vars, rest⟩ t ⟨out, rfl, hst⟩
    obtain ⟨vars₁, out₁', hout₁, ⟨hleave, hleave'⟩ | ⟨n, -, -, hagain, hagain'⟩⟩ := oggRound_matched h vars out hst rest
    · exact ⟨_, _, hleave, hleave', .leave ⟨out₁', rfl, hout₁⟩⟩
    · exact ⟨_, _, hagain, hagain', .again ⟨out₁', rfl, hout₁⟩⟩
  obtain ⟨vars₁, r', hrun, hrun', out₁', rfl, hout₁⟩ := hrelated
  exact ⟨vars₁, out₁', hrun, hrun', hout₁⟩

end Handed

theorem appendFrame_matched :
    Matched appendFrame (fun frames frame => .ok (frames ++ [frame]))
      fun pcm frames => pcm.length = (frames.map fun frame => 48 * packetMs frame).sum := by
  intro pcm frames frame hne hpcm
  obtain ⟨pcm', hemit, hlength⟩ := appendFrame_ok hne pcm
  refine ⟨pcm', _, hemit, rfl, ?_⟩
  show pcm'.length = ((frames ++ [frame]).map fun frame => 48 * packetMs frame).sum
  rw [hlength, hpcm, List.map_append, List.sum_append]
  rfl

theorem ogg_advances : (oggLoop appendFrame).Advances := by
  intro vars rest
  -- to go on needs nothing of what was put out
  have hself : Matched appendFrame appendFrame fun _ _ => True := by
    intro pcm pcm' frame hne _
    obtain ⟨pcm₁, hemit, -⟩ := appendFrame_ok hne pcm
    obtain ⟨pcm₁', hemit', -⟩ := appendFrame_ok hne pcm'
    exact ⟨pcm₁, pcm₁', hemit, hemit', trivial⟩
  obtain ⟨vars₁, -, -, ⟨hleave, -⟩ | ⟨n, hpos, hle, hagain, -⟩⟩ := oggRound_matched hself vars vars.out trivial rest
  · exact Or.inl ⟨vars₁, hleave⟩
  · exact Or.inr ⟨vars₁, n, hagain, hpos, hle⟩

theorem decodeOGGOpus_safe (data : List UInt8) : (decodeOGGOpus data).Safe := by
  unfold decodeOGGOpus
  split
  · exact safe_error _
  · obtain ⟨vars, hrun⟩ := ogg_advances.run_ok ({ out := [] }, data)
    obtain ⟨tel, hfinish, -⟩ := finishOGG_ok vars
    rw [hrun, ok_bind, hfinish]
    exact safe_ok _

theorem ogg_counted {data : List UInt8} {pcm : List Int16} {tel : AudioTelemetry}
    (h : decodeOGGOpus data = .ok (pcm, tel)) :
    ∃ frames, framesOf data = .ok frames ∧ pcm.length = (frames.map fun frame => 48 * packetMs frame).sum := by
  unfold decodeOGGOpus at h
  split at h
  · cases h
  · obtain ⟨vars, frames, hrun, hframes, hcount⟩ := oggLoop_matched appendFrame_matched { out := [] } [] rfl data
    obtain ⟨tel', hfinish, -⟩ := finishOGG_ok vars
    rw [hrun, ok_bind, hfinish] at h
    cases h
    refine ⟨frames, ?_, hcount⟩
    have hframes' : (oggLoop fun frames frame => .ok (frames ++ [frame])).run ({ out := [] }, data) =
        .ok (withOut vars frames) := hframes
    unfold framesOf
    rw [hframes', ok_bind]
    rfl

/-! ## The three -/

/-- The loop ends, the decoder is in bounds, and it puts out the samples of the frames. -/
structure Scanned (l : Loop AudioError (σ × List UInt8) σ) (decode : List UInt8 → Result AudioError Decoded)
    (frames : List UInt8 → Result AudioError (List τ)) (samples : τ → Nat) : Prop where
  advances : l.Advances
  safe : ∀ data, (decode data).Safe
  counted : ∀ {data pcm tel}, decode data = .ok (pcm, tel) →
    ∃ fs, frames data = .ok fs ∧ pcm.length = (fs.map samples).sum

theorem frame_scanners :
    Scanned mp3Loop decodeMP3 mp3Frames id ∧
      Scanned adtsLoop decodeADTSAAC (fun data => .ok (adtsScanner.frames data)) (fun _ => 1024) ∧
      Scanned (oggLoop appendFrame) decodeOGGOpus framesOf (fun frame => 48 * packetMs frame) := by
  have hmp3 : Scanned mp3Loop decodeMP3 mp3Frames id := ⟨mp3_follows.advances, decodeMP3_safe, mp3_counted⟩
  have hadts : Scanned adtsLoop decodeADTSAAC (fun data => .ok (adtsScanner.frames data)) fun _ => 1024 :=
    ⟨adts_follows.advances, decodeADTSAAC_safe, fun h => ⟨_, rfl, adts_counted h⟩⟩
  exact ⟨hmp3, hadts, ogg_advances, decodeOGGOpus_safe, ogg_counted⟩

end PerGo.L4.FrameScanners
