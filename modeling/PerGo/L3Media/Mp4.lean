import PerGo.L1Encoding.Float64
import PerGo.L3Media.Adts

/-!
# MP4 files

`DecodeMP4AAC` of `media/audio.go`. A slice of the file has a capacity: a slice expression may
reach behind its length, up to there. The box walk is a loop over the offset; a box size is an `int`,
and the sum of the offset and a size wraps around.

`overflow` is the `int` that a conversion makes of a `float64` out of its range.
-/
namespace PerGo.L3.Media

open PerGo.Core PerGo.Core.Result PerGo.L1

/-! ## Slices -/

/-- A slice of bytes: its memory up to the capacity, and how many of it are its own. -/
structure Slice where
  mem : List UInt8
  len : Nat
  len_le : len ≤ mem.length
  fits : mem.length < 2 ^ 63

namespace Slice

def bytes (s : Slice) : List UInt8 := s.mem.take s.len

def cap (s : Slice) : Nat := s.mem.length

@[simp] theorem length_bytes (s : Slice) : s.bytes.length = s.len := by
  rw [bytes, List.length_take, Nat.min_eq_left s.len_le]

def ofBytes (bs : List UInt8) (h : bs.length < 2 ^ 63) : Slice := ⟨bs, bs.length, Nat.le_refl _, h⟩

@[simp] theorem bytes_ofBytes (bs : List UInt8) (h : bs.length < 2 ^ 63) : (ofBytes bs h).bytes = bs := List.take_length

/-- `s[lo:hi]`. -/
def sub (s : Slice) (lo hi : Int) : Result AudioError Slice :=
  if h : 0 ≤ lo ∧ lo ≤ hi ∧ hi ≤ s.cap then
    .ok ⟨s.mem.drop lo.toNat, (hi - lo).toNat, by
      rw [List.length_drop]
      have : s.cap = s.mem.length := rfl
      omega, by
      rw [List.length_drop]
      have := s.fits
      omega⟩
  else .panic

theorem sub_ok (s : Slice) (lo hi : Nat) (h : lo ≤ hi) (h' : hi ≤ s.cap) :
    ∃ s' : Slice, (s.sub lo hi : Result AudioError Slice) = .ok s' ∧ s'.len = hi - lo ∧ s'.cap = s.cap - lo ∧
      s'.mem = s.mem.drop lo := by
  unfold sub
  rw [dif_pos (by omega)]
  refine ⟨_, rfl, by simp only; omega, ?_, ?_⟩
  · simp [cap]
  · simp

theorem bytes_sub {s s' : Slice} {lo hi : Nat} (h : hi ≤ s.len) (hlen : s'.len = hi - lo)
    (hmem : s'.mem = s.mem.drop lo) : s'.bytes = (s.bytes.drop lo).take (hi - lo) := by
  rw [bytes, bytes, hlen, hmem, List.drop_take, List.take_take, Nat.min_eq_left (by omega)]

theorem sub_of_lt (s : Slice) {lo hi : Int} (h : hi < lo) : (s.sub lo hi : Result AudioError Slice) = .panic := by
  unfold sub
  rw [dif_neg (by omega)]

/-- The big-endian number in `s[lo:hi]`. -/
def readBE (s : Slice) (lo hi : Nat) : Result AudioError Nat := do
  let field ← s.sub lo hi
  return beNat field.bytes

theorem readBE_ok (s : Slice) (lo hi : Nat) (h : lo ≤ hi) (h' : hi ≤ s.cap) :
    ∃ n, (s.readBE lo hi : Result AudioError Nat) = .ok n := by
  obtain ⟨s', hs', -⟩ := s.sub_ok lo hi h h'
  exact ⟨_, by rw [readBE, hs']; rfl⟩

theorem readBE_eq (s : Slice) {lo hi : Nat} (h : lo ≤ hi) (h' : hi ≤ s.len) :
    (s.readBE lo hi : Result AudioError Nat) = .ok (beNat ((s.bytes.drop lo).take (hi - lo))) := by
  have hcap : hi ≤ s.cap := h'.trans s.len_le
  obtain ⟨s', hs', hlen, -, hmem⟩ := s.sub_ok lo hi h hcap
  rw [readBE, hs', ok_bind, bytes_sub h' hlen hmem]
  rfl

theorem readBE_panics (s : Slice) {lo hi : Nat} (h : s.cap < hi) : (s.readBE lo hi : Result AudioError Nat) = .panic := by
  rw [readBE, sub, dif_neg (by omega)]
  rfl

end Slice

/-- The `int` with these 64 bits. -/
def int64 (n : Int) : Int := (n + 2 ^ 63) % 2 ^ 64 - 2 ^ 63

/-! ## Boxes -/

def moovType : List UInt8 := ascii ['m', 'o', 'o', 'v']

def mdatType : List UInt8 := ascii ['m', 'd', 'a', 't']

def mvhdType : List UInt8 := ascii ['m', 'v', 'h', 'd']

def mp4aType : List UInt8 := ascii ['m', 'p', '4', 'a']

def stszType : List UInt8 := ascii ['s', 't', 's', 'z']

structure Mp4Vars where
  durationMs : Int := 0
  sampleRate : Nat := 44100
  channels : Nat := 1
  sampleSizes : List Nat := []
  mdatPayload : List UInt8 := []

section Decode

variable (overflow : ℚ → Int)

/-- `int(float64(dur) * 1000.0 / float64(timescale))`. -/
def durationOf (dur timescale : Nat) : Int :=
  let ms := float64 (float64 (float64 dur * 1000) / timescale)
  if ms < 2 ^ 63 then ⌊ms⌋ else overflow ms

/-- mirrors audio.go:1131-1148 -/
def readMvhd (boxData : Slice) (vars : Mp4Vars) : Result AudioError Mp4Vars :=
  match indexOf mvhdType boxData.bytes with
  | none => .ok vars
  | some mvhdIdx =>
    if boxData.len < mvhdIdx + 24 then .ok vars
    else do
      let version ← index boxData.bytes (mvhdIdx + 4)
      if version = 0 then
        let timescale ← boxData.readBE (mvhdIdx + 16) (mvhdIdx + 20)
        let dur ← boxData.readBE (mvhdIdx + 20) (mvhdIdx + 24)
        return if 0 < timescale then { vars with durationMs := durationOf overflow dur timescale } else vars
      else if version = 1 ∧ mvhdIdx + 32 ≤ boxData.len then
        let timescale ← boxData.readBE (mvhdIdx + 24) (mvhdIdx + 28)
        let dur ← boxData.readBE (mvhdIdx + 28) (mvhdIdx + 36)
        return if 0 < timescale then { vars with durationMs := durationOf overflow dur timescale } else vars
      else return vars

/-- mirrors audio.go:1150-1161 -/
def readMp4a (boxData : Slice) (vars : Mp4Vars) : Result AudioError Mp4Vars :=
  match indexOf mp4aType boxData.bytes with
  | none => .ok vars
  | some mp4aIdx =>
    if boxData.len < mp4aIdx + 36 then .ok vars
    else do
      let ch ← boxData.readBE (mp4aIdx + 24) (mp4aIdx + 26)
      let sr ← boxData.readBE (mp4aIdx + 32) (mp4aIdx + 34)
      return { vars with
        channels := if 0 < ch then ch else vars.channels
        sampleRate := if 0 < sr then sr else vars.sampleRate }

/-- mirrors audio.go:1163-1183 -/
def readStsz (boxData : Slice) (vars : Mp4Vars) : Result AudioError Mp4Vars :=
  match indexOf stszType boxData.bytes with
  | none => .ok vars
  | some stszIdx =>
    if boxData.len < stszIdx + 16 then .ok vars
    else do
      let stszPayload ← boxData.sub (stszIdx + 4 : Nat) boxData.len
      if stszPayload.len < 12 then return vars
      let sampleSize ← stszPayload.readBE 4 8
      let sampleCount ← stszPayload.readBE 8 12
      if 0 < sampleSize ∧ 0 < sampleCount ∧ sampleCount < 1000000 then
        return { vars with sampleSizes := List.replicate sampleCount sampleSize }
      else if sampleSize = 0 ∧ 0 < sampleCount ∧ sampleCount < 1000000 ∧ 12 + sampleCount * 4 ≤ stszPayload.len then
        let sampleSizes ← (List.range sampleCount).mapM fun i => stszPayload.readBE (12 + i * 4) (12 + (i + 1) * 4)
        return { vars with sampleSizes }
      else return vars

/-! The fields of a `moov` box. -/

/-- A `mvhd` field of version 1 whose duration reaches behind the capacity, though its first half is inside the box. -/
def CutMvhd (box : List UInt8) (cap : Nat) : Prop :=
  ∃ i, indexOf mvhdType box = some i ∧ box[i + 4]? = some 1 ∧ i + 32 ≤ box.length ∧ cap < i + 36

theorem readMvhd_ok {box : Slice} (h : ¬ CutMvhd box.bytes box.cap) (vars : Mp4Vars) :
    ∃ vars', readMvhd overflow box vars = .ok vars' := by
  have hcap : box.len ≤ box.cap := box.len_le
  unfold readMvhd
  cases hindex : indexOf mvhdType box.bytes with
  | none => exact ⟨_, rfl⟩
  | some i =>
    simp only
    by_cases hlen : box.len < i + 24
    · rw [if_pos hlen]
      exact ⟨_, rfl⟩
    · have hversion : i + 4 < box.bytes.length := by
        rw [Slice.length_bytes]
        omega
      rw [if_neg hlen, index_of_lt hversion, ok_bind]
      split
      · obtain ⟨timescale, hts⟩ := box.readBE_ok (i + 16) (i + 20) (by omega) (by omega)
        obtain ⟨dur, hdur⟩ := box.readBE_ok (i + 20) (i + 24) (by omega) (by omega)
        rw [hts, ok_bind, hdur]
        exact ⟨_, rfl⟩
      · split
        · rename_i hone
          have hfits : i + 36 ≤ box.cap := by
            by_contra hcut
            refine h ⟨i, hindex, ?_, ?_, by omega⟩
            · rw [List.getElem?_eq_getElem hversion, hone.1]
            · rw [Slice.length_bytes]
              exact hone.2
          obtain ⟨timescale, hts⟩ := box.readBE_ok (i + 24) (i + 28) (by omega) (by omega)
          obtain ⟨dur, hdur⟩ := box.readBE_ok (i + 28) (i + 36) (by omega) hfits
          rw [hts, ok_bind, hdur]
          exact ⟨_, rfl⟩
        · exact ⟨_, rfl⟩

theorem readMvhd_panics {box : Slice} (h : CutMvhd box.bytes box.cap) (vars : Mp4Vars) :
    readMvhd overflow box vars = .panic := by
  obtain ⟨i, hindex, hone, hlen, hcut⟩ := h
  have hcap : box.len ≤ box.cap := box.len_le
  rw [Slice.length_bytes] at hlen
  have hversion : i + 4 < box.bytes.length := by
    rw [Slice.length_bytes]
    omega
  rw [List.getElem?_eq_getElem hversion] at hone
  have hone := Option.some.inj hone
  obtain ⟨timescale, hts⟩ := box.readBE_ok (i + 24) (i + 28) (by omega) (by omega)
  unfold readMvhd
  rw [hindex]
  simp only
  rw [if_neg (by omega), index_of_lt hversion, ok_bind, hone, if_neg (by decide), if_pos ⟨rfl, hlen⟩, hts, ok_bind,
    box.readBE_panics hcut]
  rfl

theorem readMp4a_ok (box : Slice) (vars : Mp4Vars) : ∃ vars', readMp4a box vars = .ok vars' := by
  have hcap : box.len ≤ box.cap := box.len_le
  unfold readMp4a
  cases indexOf mp4aType box.bytes with
  | none => exact ⟨_, rfl⟩
  | some i =>
    simp only
    by_cases hlen : box.len < i + 36
    · rw [if_pos hlen]
      exact ⟨_, rfl⟩
    · obtain ⟨ch, hch⟩ := box.readBE_ok (i + 24) (i + 26) (by omega) (by omega)
      obtain ⟨sr, hsr⟩ := box.readBE_ok (i + 32) (i + 34) (by omega) (by omega)
      rw [if_neg hlen, hch, ok_bind, hsr]
      exact ⟨_, rfl⟩

theorem readStsz_ok (box : Slice) (vars : Mp4Vars) : ∃ vars', readStsz box vars = .ok vars' := by
  have hcap : box.len ≤ box.cap := box.len_le
  unfold readStsz
  cases indexOf stszType box.bytes with
  | none => exact ⟨_, rfl⟩
  | some i =>
    simp only
    by_cases hlen : box.len < i + 16
    · rw [if_pos hlen]
      exact ⟨_, rfl⟩
    · obtain ⟨payload, hpayload, hpaylen, hpaycap, -⟩ :=
        box.sub_ok (i + 4) box.len (by omega) hcap
      rw [if_neg hlen, hpayload, ok_bind]
      by_cases hshort : payload.len < 12
      · rw [if_pos hshort]
        exact ⟨_, rfl⟩
      · obtain ⟨size, hsize⟩ := payload.readBE_ok 4 8 (by omega) (by omega)
        obtain ⟨count, hcount⟩ := payload.readBE_ok 8 12 (by omega) (by omega)
        rw [if_neg hshort, hsize, ok_bind, hcount, ok_bind]
        split
        · exact ⟨_, rfl⟩
        · split
          · rename_i htable
            obtain ⟨sizes, hsizes⟩ : ∃ sizes, (List.range count).mapM
                (fun i => (payload.readBE (12 + i * 4) (12 + (i + 1) * 4) : Result AudioError Nat)) = .ok sizes :=
              exists_mapM_ok fun i hi => payload.readBE_ok _ _ (by omega) (by
                have := List.mem_range.mp hi
                omega)
            rw [hsizes]
            exact ⟨_, rfl⟩
          · exact ⟨_, rfl⟩

structure BoxState where
  offset : Nat
  vars : Mp4Vars

/-- The size of the box at an offset; `none` ends the walk. mirrors audio.go:1116-1123 -/
def readBoxSize (data : Slice) (offset : Nat) : Result AudioError (Option Int) := do
  let size ← data.readBE offset (offset + 4)
  if size = 1 then
    if data.len < offset + 16 then return none
    let size ← data.readBE (offset + 8) (offset + 16)
    return some (int64 size)
  else return some size

/-- One round of the box walk. mirrors audio.go:1115-1197 -/
def boxRound (data : Slice) (s : BoxState) : Result AudioError (Next BoxState Mp4Vars) :=
  if data.len < s.offset + 8 then .ok (.leave s.vars)
  else do
    let some boxSize ← readBoxSize data s.offset | return .leave s.vars
    let boxSize := if boxSize ≤ 0 ∨ (data.len : Int) < int64 (s.offset + boxSize) then (data.len : Int) - s.offset
      else boxSize
    let boxType ← data.sub (s.offset + 4 : Nat) (s.offset + 8 : Nat)
    let boxData ← data.sub s.offset (int64 (s.offset + boxSize))
    let vars ←
      if boxType.bytes = moovType then
        readMvhd overflow boxData s.vars >>= readMp4a boxData >>= readStsz boxData
      else .ok s.vars
    let size ← data.readBE s.offset (s.offset + 4)
    let headerSize := if size = 1 then 16 else 8
    return .again ⟨(s.offset + boxSize).toNat, { vars with
      mdatPayload :=
        if boxType.bytes = mdatType ∧ headerSize < boxData.len then boxData.bytes.drop headerSize
        else vars.mdatPayload }⟩

/-! What a round does at an offset, in terms of the bytes there. -/

section Box

variable (data : Slice) (o : Nat)

def sizeField : Nat := beNat ((data.bytes.drop o).take 4)

/-- A box header begins at the offset. -/
def HasHeader : Prop := o + 8 ≤ data.len ∧ (sizeField data o = 1 → o + 16 ≤ data.len)

def declaredSize : Int :=
  if sizeField data o = 1 then int64 (beNat ((data.bytes.drop (o + 8)).take 8)) else sizeField data o

/-- The end of the box is no `int`. -/
def Wraps : Prop := 0 < declaredSize data o ∧ 2 ^ 63 ≤ o + declaredSize data o

/-- How far the box reaches. -/
def extent : Nat :=
  if declaredSize data o ≤ 0 ∨ (data.len : Int) < o + declaredSize data o then data.len - o
  else (declaredSize data o).toNat

def boxBytes : List UInt8 := (data.bytes.drop o).take (extent data o)

/-- A `moov` box whose `mvhd` field is cut. -/
def CutMoov : Prop :=
  (data.bytes.drop (o + 4)).take 4 = moovType ∧ CutMvhd (boxBytes data o) (data.cap - o)

end Box

theorem int64_of_lt {n : Int} (h : -2 ^ 63 ≤ n) (h' : n < 2 ^ 63) : int64 n = n := by
  unfold int64
  omega

theorem int64_lt (n : Int) : -2 ^ 63 ≤ int64 n ∧ int64 n < 2 ^ 63 := by
  unfold int64
  omega

theorem sizeField_lt (data : Slice) (o : Nat) : sizeField data o < 2 ^ 32 := by
  have hlt := leNat_lt ((data.bytes.drop o).take 4).reverse
  have hlen : ((data.bytes.drop o).take 4).reverse.length ≤ 4 := by
    rw [List.length_reverse, List.length_take]
    omega
  exact hlt.trans_le (Nat.pow_le_pow_right (by decide) hlen)

theorem declaredSize_lt (data : Slice) (o : Nat) : -2 ^ 63 ≤ declaredSize data o ∧ declaredSize data o < 2 ^ 63 := by
  unfold declaredSize
  split
  · exact int64_lt _
  · have := sizeField_lt data o
    omega

theorem readBoxSize_eq {data : Slice} {o : Nat} (h : o + 8 ≤ data.len) :
    readBoxSize data o =
      .ok (if sizeField data o = 1 ∧ data.len < o + 16 then none else some (declaredSize data o)) := by
  unfold readBoxSize
  rw [data.readBE_eq (by omega) (by omega), ok_bind]
  have hfield : beNat ((data.bytes.drop o).take (o + 4 - o)) = sizeField data o := by
    rw [Nat.add_sub_cancel_left]
    rfl
  rw [hfield]
  by_cases hone : sizeField data o = 1
  · rw [if_pos hone]
    by_cases hcut : data.len < o + 16
    · rw [if_pos hcut, if_pos ⟨hone, hcut⟩]
      rfl
    · have hsize : o + 16 - (o + 8) = 8 := by omega
      rw [if_neg hcut, if_neg (fun h => hcut h.2), data.readBE_eq (by omega) (by omega), hsize, declaredSize, if_pos hone]
      rfl
  · rw [if_neg hone, if_neg (fun h => hone h.1), declaredSize, if_neg hone]
    rfl

theorem boxRound_leaves {data : Slice} {s : BoxState} (h : ¬ HasHeader data s.offset) :
    boxRound overflow data s = .ok (.leave s.vars) := by
  unfold boxRound
  by_cases hlen : data.len < s.offset + 8
  · rw [if_pos hlen]
  · have hcut : sizeField data s.offset = 1 ∧ data.len < s.offset + 16 := by
      unfold HasHeader at h
      omega
    rw [if_neg hlen, readBoxSize_eq (by omega), if_pos hcut]
    rfl

theorem boxRound_eq {data : Slice} {s : BoxState} (h : HasHeader data s.offset) :
    boxRound overflow data s = (do
      let boxSize := if declaredSize data s.offset ≤ 0 ∨ (data.len : Int) < int64 (s.offset + declaredSize data s.offset)
        then (data.len : Int) - s.offset else declaredSize data s.offset
      let boxData ← data.sub s.offset (int64 (s.offset + boxSize))
      let vars ←
        if (data.bytes.drop (s.offset + 4)).take 4 = moovType then
          readMvhd overflow boxData s.vars >>= readMp4a boxData >>= readStsz boxData
        else .ok s.vars
      return .again ⟨(s.offset + boxSize).toNat, { vars with
        mdatPayload :=
          if (data.bytes.drop (s.offset + 4)).take 4 = mdatType ∧
              (if sizeField data s.offset = 1 then 16 else 8) < boxData.len then
            boxData.bytes.drop (if sizeField data s.offset = 1 then 16 else 8)
          else vars.mdatPayload }⟩) := by
  have hlen : s.offset + 8 ≤ data.len := h.1
  have hnocut : ¬ (sizeField data s.offset = 1 ∧ data.len < s.offset + 16) := by
    have := h.2
    omega
  obtain ⟨boxType, htype, htypelen, -, htypemem⟩ :=
    data.sub_ok (s.offset + 4) (s.offset + 8) (by omega) (hlen.trans data.len_le)
  have hbytes : boxType.bytes = (data.bytes.drop (s.offset + 4)).take 4 := by
    rw [Slice.bytes_sub (by omega) htypelen htypemem]
    congr 1
    omega
  have hfield : (data.readBE s.offset (s.offset + 4) : Result AudioError Nat) = .ok (sizeField data s.offset) := by
    rw [data.readBE_eq (by omega) (by omega), Nat.add_sub_cancel_left]
    rfl
  unfold boxRound
  rw [if_neg (by omega), readBoxSize_eq hlen, if_neg hnocut]
  simp only [ok_bind, htype, hbytes, hfield]

theorem boxRound_wraps {data : Slice} (s : BoxState) (h : HasHeader data s.offset) (hwraps : Wraps data s.offset) :
    boxRound overflow data s = .panic := by
  have hfits := data.fits
  have hcap : data.len ≤ data.mem.length := data.len_le
  have hlt := (declaredSize_lt data s.offset).2
  obtain ⟨hpos, hend⟩ := hwraps
  have hlen : s.offset + 8 ≤ data.len := h.1
  have hnegative : int64 (s.offset + declaredSize data s.offset) < 0 := by
    unfold int64
    omega
  rw [boxRound_eq overflow h]
  simp only
  rw [if_neg (by omega), Slice.sub_of_lt data (by omega)]
  rfl

theorem extent_pos {data : Slice} {o : Nat} (h : HasHeader data o) : 0 < extent data o ∧ o + extent data o ≤ data.len := by
  have hlen : o + 8 ≤ data.len := h.1
  unfold extent
  split
  · omega
  · omega

theorem box_ok {data : Slice} {o : Nat} (h : HasHeader data o) :
    ∃ box : Slice, (data.sub o (o + extent data o : Nat) : Result AudioError Slice) = .ok box ∧
      box.bytes = boxBytes data o ∧ box.cap = data.cap - o := by
  obtain ⟨-, hle⟩ := extent_pos h
  obtain ⟨box, hbox, hlen, hcap, hmem⟩ :=
    data.sub_ok o (o + extent data o) (by omega) (hle.trans data.len_le)
  refine ⟨box, hbox, ?_, hcap⟩
  rw [Slice.bytes_sub hle hlen hmem, Nat.add_sub_cancel_left]
  rfl

theorem boxSize_eq {data : Slice} {o : Nat} (h : HasHeader data o) (hwraps : ¬ Wraps data o) :
    (if declaredSize data o ≤ 0 ∨ (data.len : Int) < int64 (o + declaredSize data o) then (data.len : Int) - o
      else declaredSize data o) = extent data o := by
  have hlen : o + 8 ≤ data.len := h.1
  unfold Wraps at hwraps
  unfold extent
  by_cases hpos : declaredSize data o ≤ 0
  · rw [if_pos (.inl hpos), if_pos (.inl hpos)]
    omega
  · have hend : int64 (o + declaredSize data o) = o + declaredSize data o := int64_of_lt (by omega) (by omega)
    rw [hend]
    split
    · omega
    · omega

theorem boxRound_box {data : Slice} (s : BoxState) (h : HasHeader data s.offset) (hwraps : ¬ Wraps data s.offset) :
    (CutMoov data s.offset → boxRound overflow data s = .panic) ∧ (¬ CutMoov data s.offset →
      ∃ vars', boxRound overflow data s = .ok (.again ⟨s.offset + extent data s.offset, vars'⟩)) := by
  have hfits := data.fits
  have hcap : data.len ≤ data.mem.length := data.len_le
  obtain ⟨hpos, hle⟩ := extent_pos h
  obtain ⟨box, hbox, hbytes, hboxcap⟩ := box_ok h
  have hend : int64 (s.offset + (extent data s.offset : Int)) = (s.offset + extent data s.offset : Nat) := by
    rw [int64_of_lt (by omega) (by omega)]
    omega
  have hnext : ((s.offset : Int) + (extent data s.offset : Int)).toNat = s.offset + extent data s.offset := by omega
  have hfield : CutMvhd box.bytes box.cap ↔ CutMvhd (boxBytes data s.offset) (data.cap - s.offset) := by
    rw [hbytes, hboxcap]
  rw [boxRound_eq overflow h]
  simp only [boxSize_eq h hwraps, hend, hbox, ok_bind, hnext]
  constructor
  · intro hcut
    rw [if_pos hcut.1, readMvhd_panics overflow (hfield.mpr hcut.2)]
    rfl
  · intro hcut
    split
    · rename_i htype
      obtain ⟨vars₁, h₁⟩ := readMvhd_ok overflow (fun hmvhd => hcut ⟨htype, hfield.mp hmvhd⟩) s.vars
      obtain ⟨vars₂, h₂⟩ := readMp4a_ok box vars₁
      obtain ⟨vars₃, h₃⟩ := readStsz_ok box vars₂
      rw [h₁, ok_bind, h₂, ok_bind, h₃, ok_bind]
      exact ⟨_, rfl⟩
    · exact ⟨_, rfl⟩

theorem boxRound_again {data : Slice} {s s' : BoxState} (h : boxRound overflow data s = .ok (.again s')) :
    HasHeader data s.offset ∧ s'.offset = s.offset + extent data s.offset := by
  by_cases hheader : HasHeader data s.offset
  · by_cases hwraps : Wraps data s.offset
    · cases h.symm.trans (boxRound_wraps overflow s hheader hwraps)
    · by_cases hcut : CutMoov data s.offset
      · cases h.symm.trans ((boxRound_box overflow s hheader hwraps).1 hcut)
      · obtain ⟨vars', hvars'⟩ := (boxRound_box overflow s hheader hwraps).2 hcut
        cases h.symm.trans hvars'
        exact ⟨hheader, rfl⟩
  · cases h.symm.trans (boxRound_leaves overflow hheader)

theorem boxRound_safe_iff {data : Slice} {s : BoxState} :
    (boxRound overflow data s).Safe ↔ (HasHeader data s.offset → ¬ Wraps data s.offset ∧ ¬ CutMoov data s.offset) := by
  by_cases hheader : HasHeader data s.offset
  · rw [imp_iff_right hheader]
    by_cases hwraps : Wraps data s.offset
    · rw [boxRound_wraps overflow s hheader hwraps]
      exact iff_of_false not_safe_panic fun h => h.1 hwraps
    · by_cases hcut : CutMoov data s.offset
      · rw [(boxRound_box overflow s hheader hwraps).1 hcut]
        exact iff_of_false not_safe_panic fun h => h.2 hcut
      · obtain ⟨vars', hvars'⟩ := (boxRound_box overflow s hheader hwraps).2 hcut
        rw [hvars']
        exact iff_of_true (safe_ok _) ⟨hwraps, hcut⟩
  · rw [boxRound_leaves overflow hheader]
    exact iff_of_true (safe_ok _) fun h => absurd h hheader

def boxLoop (data : Slice) : Loop AudioError BoxState Mp4Vars where
  round := boxRound overflow data
  size s := data.len - s.offset
  shrinks h := by
    obtain ⟨hheader, hoffset⟩ := boxRound_again overflow h
    have hpos := extent_pos hheader
    omega

/-! ## Samples -/

/-- The frame loop. mirrors audio.go:1219-1232 -/
def mdatFrames (payload : List UInt8) (sampleRate channels : Nat) :
    List Nat → Nat → List Int16 → Result AudioError (List Int16)
  | [], _, pcm => .ok pcm
  | sz :: sizes, pOff, pcm =>
    if payload.length ≤ pOff then .ok pcm
    else do
      let fEnd := if payload.length < pOff + sz then payload.length else pOff + sz
      let fData ← slice payload pOff fEnd
      let amp ← extractAACFrameEnergy fData channels
      mdatFrames payload sampleRate channels sizes fEnd (appendSyntheticPCM pcm 1024 sampleRate amp)

theorem mdatFrames_ok (payload : List UInt8) (sampleRate channels : Nat) (sizes : List Nat) (pOff : Nat)
    (pcm : List Int16) : ∃ out, mdatFrames payload sampleRate channels sizes pOff pcm = .ok out := by
  induction sizes generalizing pOff pcm with
  | nil => exact ⟨pcm, rfl⟩
  | cons sz sizes ih =>
    rw [mdatFrames]
    split
    · exact ⟨pcm, rfl⟩
    · generalize hend : (if payload.length < pOff + sz then payload.length else pOff + sz) = fEnd
      have hbounds : pOff ≤ fEnd ∧ fEnd ≤ payload.length := by
        rw [← hend]
        split
        · omega
        · omega
      simp only
      rw [slice_of_le hbounds.1 hbounds.2, ok_bind]
      obtain ⟨amp, hamp⟩ := extractAACFrameEnergy_ok ((payload.drop pOff).take (fEnd - pOff)) channels
      rw [hamp, ok_bind]
      exact ih fEnd _

/-- The sizes of the frames, even ones if the file has no table. mirrors audio.go:1200-1217 -/
def mdatFrameSizes (vars : Mp4Vars) : List Nat :=
  if vars.sampleSizes.length = 0 then
    let numFrames := if 0 < vars.durationMs ∧ 0 < vars.sampleRate then
      (int64 (vars.sampleRate * vars.durationMs)).tdiv (1024 * 1000) else 1
    let numFrames := if numFrames ≤ 0 then 1 else numFrames.toNat
    let framePayloadLen := vars.mdatPayload.length / numFrames
    List.replicate numFrames (if framePayloadLen = 0 then vars.mdatPayload.length else framePayloadLen)
  else vars.sampleSizes

/-- mirrors audio.go:1199-1233 -/
def mdatSamples (vars : Mp4Vars) : Result AudioError (List Int16) :=
  if vars.mdatPayload.length = 0 then .ok []
  else mdatFrames vars.mdatPayload vars.sampleRate vars.channels (mdatFrameSizes vars) 0 []

/-- What follows the box walk. mirrors audio.go:1199-1248 -/
def finishMP4 (data : Slice) (vars : Mp4Vars) : Result AudioError Decoded := do
  let syntheticPCM ← mdatSamples vars
  if vars.durationMs = 0 ∧ syntheticPCM.length = 0 then
    match (indexOf [0xFF, 0xF1] data.bytes).or (indexOf [0xFF, 0xF9] data.bytes) with
    | some adtsIdx => slice data.bytes adtsIdx data.bytes.length >>= decodeADTSAAC
    | none => .error (.invalidAudioFormat "unable to extract MP4 duration/audio")
  else
    let tel ← newAudioTelemetry syntheticPCM vars.durationMs vars.sampleRate vars.channels "mp4/aac"
    return (syntheticPCM, tel)

/-- mirrors audio.go:1093-1248 -/
def decodeMP4AAC (data : Slice) : Result AudioError Decoded :=
  if data.len < 8 then .error (.corruptAudioData "mp4 data too small")
  else if isADTSAACHeader data.bytes then decodeADTSAAC data.bytes
  else (boxLoop overflow data).run ⟨0, {}⟩ >>= finishMP4 data

theorem finishMP4_safe (data : Slice) (vars : Mp4Vars) : (finishMP4 data vars).Safe := by
  have hpcm : ∃ pcm, mdatSamples vars = .ok pcm := by
    unfold mdatSamples
    split
    · exact ⟨_, rfl⟩
    · exact mdatFrames_ok ..
  obtain ⟨pcm, hpcm⟩ := hpcm
  unfold finishMP4
  rw [hpcm, ok_bind]
  split
  · split
    · rename_i i hindex
      have hle : i ≤ data.bytes.length := by
        rcases Option.or_eq_some_iff.mp hindex with h | ⟨-, h⟩
        · exact Nat.le_of_add_right_le (indexOf_some h).2
        · exact Nat.le_of_add_right_le (indexOf_some h).2
      rw [slice_length hle, ok_bind]
      exact decodeADTSAAC_safe _
    · exact safe_error _
  · obtain ⟨tel, htel, -⟩ := newAudioTelemetry_ok pcm vars.durationMs vars.sampleRate vars.channels "mp4/aac"
    rw [htel]
    exact safe_ok _

end Decode

end PerGo.L3.Media
