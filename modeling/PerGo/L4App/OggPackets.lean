import PerGo.L3Media.Ogg

/-!
# Packets of an Ogg stream

An Ogg stream laces its packets: a packet is cut into segments of 255 bytes and a last, shorter one, and
segments are put into pages. `DecodeOGGOpus` takes every segment for a packet, and every page without one of
the Opus markers, behind the first header, for a page of audio.

* `run_stream`: the frames that the page loop takes out of a stream.
* `packets_reassembled`: when these are the packets of the stream.
-/
namespace PerGo.L4.OggPackets

open PerGo.Core PerGo.Core.Result PerGo.L1 PerGo.L3.Media

/-! ## Streams -/

def lace (packet : List UInt8) : List (List UInt8) :=
  if packet.length < 255 then [packet] else packet.take 255 :: lace (packet.drop 255)
termination_by packet.length
decreasing_by
  rw [List.length_drop]
  omega

structure Page where
  headerType : UInt8
  granule : List UInt8
  /-- the serial number, the sequence number and the checksum -/
  numbers : List UInt8
  segments : List (List UInt8)
  granule_length : granule.length = 8
  numbers_length : numbers.length = 12
  segments_length : segments.length ≤ 255
  segment_length : ∀ s ∈ segments, s.length ≤ 255

namespace Page

variable (p : Page)

def payload : List UInt8 := p.segments.flatten

def table : List UInt8 := p.segments.map fun s => UInt8.ofNat s.length

def bytes : List UInt8 :=
  oggS ++ ([0, p.headerType] ++ (p.granule ++ (p.numbers ++ ([UInt8.ofNat p.segments.length] ++ (p.table ++ p.payload)))))

def eos : Prop := p.headerType &&& 0x04 ≠ 0

instance : Decidable p.eos := inferInstanceAs (Decidable (_ ≠ _))

/-- What `DecodeOGGOpus` takes for the packets of the page. -/
def frames : List (List UInt8) := if hasMarker p.payload then [] else p.segments.filter fun s => !s.isEmpty

def read : OggPage := ⟨p.headerType, leNat p.granule, p.table, p.payload⟩

end Page

structure OggStream where
  head : Page
  tags : List Page
  audio : List Page
  headPacket : List UInt8
  tagsPacket : List UInt8
  packets : List (List UInt8)
  head_marker : opusHead <+: headPacket
  head_length : 19 ≤ headPacket.length
  tags_marker : opusTags <+: tagsPacket
  head_laced : head.segments = lace headPacket
  tags_laced : tags.flatMap Page.segments = lace tagsPacket
  audio_laced : audio.flatMap Page.segments = packets.flatMap lace
  eos_last : ∀ p ∈ (head :: (tags ++ audio)).dropLast, ¬ p.eos

namespace OggStream

variable (s : OggStream)

def bytes : List UInt8 := (s.head :: (s.tags ++ s.audio)).flatMap Page.bytes

def audioPackets : List (List UInt8) := s.packets.filter fun p => !p.isEmpty

def frames : List (List UInt8) := (s.tags ++ s.audio).flatMap Page.frames

def preSkip : Nat := leNat ((s.headPacket.drop 10).take 2)

def lastGranule : Nat := (s.head :: (s.tags ++ s.audio)).foldl (fun last p => max last (leNat p.granule)) 0

end OggStream

/-- The frames that `DecodeOGGOpus` takes the energy of. -/
def framesOf (data : List UInt8) : Result AudioError (List (List UInt8)) := do
  let vars ← (oggLoop fun frames packet => .ok (frames ++ [packet])).run ({ out := [] }, data)
  return vars.out

/-! ## Reading a page -/

theorem sum_table (p : Page) : (p.table.map fun seg => seg.toNat).sum = p.payload.length := by
  have hsegments := p.segment_length
  unfold Page.table Page.payload
  rw [List.map_map, List.length_flatten]
  congr 1
  refine List.map_congr_left fun s hs => ?_
  have hle := hsegments s hs
  rw [Function.comp_apply, UInt8.toNat_ofNat']
  omega

theorem length_page (p : Page) (rest : List UInt8) :
    (p.bytes ++ rest).length = 27 + p.table.length + p.payload.length + rest.length := by
  have hgranule := p.granule_length
  have hnumbers := p.numbers_length
  simp [Page.bytes, oggS]
  omega

theorem magic_page (p : Page) (rest : List UInt8) : (p.bytes ++ rest).take 4 = oggS := by
  rw [Page.bytes, List.append_assoc]
  exact List.take_left' rfl

theorem readPage_page (p : Page) (rest : List UInt8) : readPage (p.bytes ++ rest) = .ok (some (p.read, rest)) := by
  have hgranule := p.granule_length
  have hnumbers := p.numbers_length
  have hcount : (UInt8.ofNat p.segments.length).toNat = p.table.length := by
    have := p.segments_length
    rw [UInt8.toNat_ofNat', Page.table, List.length_map]
    omega
  have hbytes : p.bytes ++ rest = oggS ++ (0 :: p.headerType :: (p.granule ++ (p.numbers ++
      (UInt8.ofNat p.segments.length :: (p.table ++ (p.payload ++ rest)))))) := by
    simp [Page.bytes]
  have hlen := length_page p rest
  have hsync : syncPage (p.bytes ++ rest) = some (p.bytes ++ rest) := by
    unfold syncPage
    rw [if_neg (by omega), if_pos (magic_page p rest)]
  have htype : (index (p.bytes ++ rest) 5 : Result AudioError UInt8) = .ok p.headerType := by
    rw [hbytes]
    exact index_append (oggS ++ [0]) p.headerType _ rfl
  have hpos : (slice (p.bytes ++ rest) 6 14 : Result AudioError (List UInt8)) = .ok p.granule := by
    rw [hbytes]
    exact slice_append (oggS ++ [0, p.headerType]) p.granule _ rfl (by omega)
  have hfront : oggS ++ [0, p.headerType] ++ p.granule ++ p.numbers ++ [UInt8.ofNat p.segments.length] ++ p.table ++
      (p.payload ++ rest) = p.bytes ++ rest := by
    rw [hbytes]
    simp
  have hfrontlen : (oggS ++ [0, p.headerType] ++ p.granule ++ p.numbers).length = 26 := by
    simp [oggS]
    omega
  have hnum : (index (p.bytes ++ rest) 26 : Result AudioError UInt8) = .ok (UInt8.ofNat p.segments.length) := by
    rw [← hfront, List.append_assoc, List.append_assoc]
    exact index_append _ _ _ hfrontlen
  have htable : (slice (p.bytes ++ rest) 27 (27 + p.table.length) : Result AudioError (List UInt8)) = .ok p.table := by
    rw [← hfront, List.append_assoc]
    exact slice_append _ p.table _ (by rw [List.length_append, hfrontlen]; rfl) rfl
  have hfrontlen' : (oggS ++ [0, p.headerType] ++ p.granule ++ p.numbers ++ [UInt8.ofNat p.segments.length] ++
      p.table).length = 27 + p.table.length := by
    rw [List.length_append, List.length_append, hfrontlen]
    rfl
  have hpayload : (slice (p.bytes ++ rest) (27 + p.table.length) (27 + p.table.length + p.payload.length) :
      Result AudioError (List UInt8)) = .ok p.payload := by
    rw [← hfront]
    exact slice_append _ p.payload rest hfrontlen' rfl
  have hdrop : (p.bytes ++ rest).drop (27 + p.table.length + p.payload.length) = rest := by
    rw [← hfront, ← List.drop_drop, List.drop_left' hfrontlen', List.drop_left]
  unfold readPage
  rw [hsync]
  simp only
  rw [htype, ok_bind, hpos, ok_bind, hnum, ok_bind]
  simp only [hcount]
  rw [if_neg (by omega), htable, ok_bind]
  simp only [sum_table]
  rw [if_neg (by omega), hpayload, ok_bind, hdrop]
  rfl

/-! ## Reading the stream -/

section Run

variable {σ : Type} (emit : σ → List UInt8 → Result AudioError σ)

theorem segments_ok (front : List UInt8) (segments : List (List UInt8)) (hle : ∀ s ∈ segments, s.length ≤ 255) (out : σ) :
    (segments.map fun s => UInt8.ofNat s.length).foldlM (fun s seg =>
      if 0 < seg.toNat ∧ s.2 + seg.toNat ≤ (front ++ segments.flatten).length then do
        let packet ← slice (front ++ segments.flatten) s.2 (s.2 + seg.toNat)
        let out ← emit s.1 packet
        return (out, s.2 + seg.toNat)
      else .ok s) (out, front.length) =
      (segments.filter fun s => !s.isEmpty).foldlM emit out >>= fun out =>
        .ok (out, (front ++ segments.flatten).length) := by
  induction segments generalizing front out with
  | nil => simp
  | cons s segments ih =>
    have hs := hle s List.mem_cons_self
    have hseg : (UInt8.ofNat s.length).toNat = s.length := by
      rw [UInt8.toNat_ofNat']
      omega
    have hfront : front ++ (s :: segments).flatten = front ++ (s ++ segments.flatten) := by rw [List.flatten_cons]
    have hnext : front ++ (s ++ segments.flatten) = (front ++ s) ++ segments.flatten := (List.append_assoc ..).symm
    rw [hfront, List.map_cons, List.foldlM_cons, hseg]
    by_cases hempty : s = []
    · rw [if_neg (by simp [hempty]), ok_bind, List.filter_cons_of_neg (by simp [hempty]), hempty]
      exact ih front (fun s' hs' => hle s' (List.mem_cons_of_mem _ hs')) out
    · have hpos : 0 < s.length := List.length_pos_iff.mpr hempty
      have hroom : front.length + s.length ≤ (front ++ (s ++ segments.flatten)).length := by
        rw [List.length_append, List.length_append]
        omega
      rw [if_pos ⟨hpos, hroom⟩, slice_append front s segments.flatten rfl rfl, ok_bind,
        List.filter_cons_of_pos (by simp [hempty]), List.foldlM_cons, bind_assoc, bind_assoc]
      congr 1
      funext out'
      have hrest := ih (front ++ s) (fun s' hs' => hle s' (List.mem_cons_of_mem _ hs')) out'
      rw [← hnext] at hrest
      rw [← List.length_append, pure_eq, ok_bind]
      exact hrest

theorem pageFrames_page (p : Page) (out : σ) :
    pageFrames emit p.payload p.table out =
      (p.segments.filter fun s => !s.isEmpty).foldlM emit out >>= fun out => .ok (out, p.payload.length) :=
  segments_ok emit [] p.segments p.segment_length out

theorem takePage_page (p : Page) {vars : OggVars σ} (h : vars.foundHead = true) :
    takePage emit vars p.read =
      p.frames.foldlM emit vars.out >>= fun out =>
        .ok { vars with lastGranulePos := max vars.lastGranulePos (leNat p.granule), out } := by
  have hhead : readHead vars p.payload = .ok vars := if_pos h
  have hlast : (if vars.lastGranulePos < leNat p.granule then { vars with lastGranulePos := leNat p.granule } else vars) =
      { vars with lastGranulePos := max vars.lastGranulePos (leNat p.granule) } := by
    split
    · rw [Nat.max_eq_right (by omega)]
    · rw [Nat.max_eq_left (by omega)]
  have hpayload : p.read.payload = p.payload := rfl
  have hgranule : p.read.granulePos = leNat p.granule := rfl
  have htable : p.read.segmentTable = p.table := rfl
  unfold takePage Page.frames
  rw [hpayload, hhead, ok_bind, hgranule, hlast, htable]
  by_cases hmarker : hasMarker p.payload = true
  · rw [if_neg (by simp [hmarker]), if_pos hmarker]
    rfl
  · rw [if_pos ⟨h, hmarker⟩, if_neg hmarker, pageFrames_page]
    simp only [bind_assoc, ok_bind]
    rfl

theorem run_nil (vars : OggVars σ) : (oggLoop emit).run (vars, []) = .ok vars := by
  rw [Loop.run_eq]
  rfl

theorem run_page {p : Page} {ps : List Page} (h : p.eos → ps = []) (vars : OggVars σ) :
    (oggLoop emit).run (vars, (p :: ps).flatMap Page.bytes) =
      takePage emit vars p.read >>= fun vars => (oggLoop emit).run (vars, ps.flatMap Page.bytes) := by
  have hround : (oggLoop emit).round (vars, (p :: ps).flatMap Page.bytes) =
      takePage emit vars p.read >>= fun vars =>
        .ok (if p.eos then .leave vars else .again (vars, ps.flatMap Page.bytes)) := by
    show oggRound emit vars ((p :: ps).flatMap Page.bytes) = _
    unfold oggRound
    rw [List.flatMap_cons, readPage_page, ok_bind]
    rfl
  rw [Loop.run_eq, hround, bind_assoc]
  congr 1
  funext vars'
  rw [ok_bind]
  by_cases heos : p.eos
  · rw [if_pos heos, h heos]
    exact (run_nil emit vars').symm
  · rw [if_neg heos]

theorem eos_head {p : Page} {ps : List Page} (h : ∀ q ∈ (p :: ps).dropLast, ¬ q.eos) (heos : p.eos) : ps = [] := by
  cases ps with
  | nil => rfl
  | cons q ps => exact absurd heos (h p (by simp))

theorem eos_tail {p : Page} {ps : List Page} (h : ∀ q ∈ (p :: ps).dropLast, ¬ q.eos) : ∀ q ∈ ps.dropLast, ¬ q.eos := by
  intro q hq
  cases ps with
  | nil => simp at hq
  | cons r ps =>
    refine h q ?_
    rw [List.dropLast_cons_cons]
    exact List.mem_cons_of_mem p hq

theorem run_pages {ps : List Page} (h : ∀ p ∈ ps.dropLast, ¬ p.eos) {vars : OggVars σ} (hfound : vars.foundHead = true) :
    (oggLoop emit).run (vars, ps.flatMap Page.bytes) =
      (ps.flatMap Page.frames).foldlM emit vars.out >>= fun out =>
        .ok { vars with
          lastGranulePos := ps.foldl (fun last p => max last (leNat p.granule)) vars.lastGranulePos, out } := by
  induction ps generalizing vars with
  | nil => exact run_nil emit vars
  | cons p ps ih =>
    rw [run_page emit (eos_head h), takePage_page emit p hfound, bind_assoc, List.flatMap_cons, List.foldlM_append,
      bind_assoc]
    congr 1
    funext out
    rw [ok_bind]
    exact ih (eos_tail h) hfound

end Run

/-! ## Lacing -/

theorem lace_of_lt {packet : List UInt8} (h : packet.length < 255) : lace packet = [packet] := by
  rw [lace, if_pos h]

theorem lace_of_ge {packet : List UInt8} (h : 255 ≤ packet.length) :
    lace packet = packet.take 255 :: lace (packet.drop 255) := by
  rw [lace, if_neg (by omega)]

theorem lace_flatten (packet : List UInt8) : (lace packet).flatten = packet := by
  fun_induction lace packet with
  | case1 packet h => simp
  | case2 packet h ih => rw [List.flatten_cons, ih, List.take_append_drop]

def solid (segments : List (List UInt8)) : List (List UInt8) := segments.filter fun s => !s.isEmpty

theorem solid_append (a b : List (List UInt8)) : solid (a ++ b) = solid a ++ solid b := List.filter_append ..

theorem solid_lace_short {packet : List UInt8} (h : packet.length ≤ 255) :
    solid (lace packet) = solid [packet] := by
  by_cases hlt : packet.length < 255
  · rw [lace_of_lt hlt]
  · have hdrop : packet.drop 255 = [] := List.drop_of_length_le h
    have hne : packet ≠ [] := by
      intro hnil
      rw [hnil] at hlt
      exact hlt (by decide)
    rw [lace_of_ge (by omega), hdrop, List.take_of_length_le h, lace_of_lt (by decide)]
    simp [solid, hne]

theorem length_solid_lace_pos {packet : List UInt8} (h : packet ≠ []) : 0 < (solid (lace packet)).length := by
  by_contra hnone
  have hempty : solid (lace packet) = [] := List.length_eq_zero_iff.mp (by omega)
  have hflat : (lace packet).flatten = [] := by
    rw [List.flatten_eq_nil_iff]
    intro s hs
    by_contra hne
    have hmem : s ∈ solid (lace packet) := List.mem_filter.mpr ⟨hs, by simp [hne]⟩
    rw [hempty] at hmem
    exact absurd hmem List.not_mem_nil
  exact h ((lace_flatten packet).symm.trans hflat)

theorem length_solid_lace_long (packet : List UInt8) (h : 255 < packet.length) : 2 ≤ (solid (lace packet)).length := by
  have hrest : packet.drop 255 ≠ [] := by
    intro hnil
    have := congrArg List.length hnil
    rw [List.length_drop, List.length_nil] at this
    omega
  have hpos := length_solid_lace_pos hrest
  have htake : packet.take 255 ≠ [] := by
    intro hnil
    have := congrArg List.length hnil
    rw [List.length_take, List.length_nil] at this
    omega
  rw [lace_of_ge (by omega), solid, List.filter_cons_of_pos (by simpa using htake), List.length_cons]
  exact Nat.succ_le_succ hpos

theorem solid_flatMap_lace (packets : List (List UInt8)) :
    solid (packets.flatMap lace) = packets.flatMap fun p => solid (lace p) := by
  unfold solid
  rw [List.filter_flatMap]

theorem solid_lace_of_short {packets : List (List UInt8)} (h : ∀ p ∈ packets, p.length ≤ 255) :
    solid (packets.flatMap lace) = solid packets := by
  rw [solid_flatMap_lace]
  induction packets with
  | nil => rfl
  | cons p packets ih =>
    rw [List.flatMap_cons, ih fun q hq => h q (List.mem_cons_of_mem p hq), solid_lace_short (h p List.mem_cons_self),
      ← solid_append, List.singleton_append]

/-- There are at least as many segments as packets, and as many only of short ones. -/
theorem length_solid_lace (packets : List (List UInt8)) :
    (solid packets).length ≤ (solid (packets.flatMap lace)).length ∧
      ((solid packets).length = (solid (packets.flatMap lace)).length → ∀ p ∈ packets, p.length ≤ 255) := by
  rw [solid_flatMap_lace]
  induction packets with
  | nil => exact ⟨Nat.le_refl _, fun _ p hp => absurd hp List.not_mem_nil⟩
  | cons p packets ih =>
    obtain ⟨hle, heq⟩ := ih
    have hcons : (solid (p :: packets)).length = (solid [p]).length + (solid packets).length := by
      rw [← List.length_append, ← solid_append, List.singleton_append]
    have hone : (solid [p]).length ≤ 1 := List.length_filter_le ..
    have hfirst : (solid [p]).length ≤ (solid (lace p)).length := by
      by_cases hp : p = []
      · rw [hp]
        exact Nat.zero_le _
      · have := length_solid_lace_pos hp
        omega
    rw [hcons, List.flatMap_cons, List.length_append]
    refine ⟨by omega, fun hsum q hq => ?_⟩
    rcases List.mem_cons.mp hq with rfl | hq
    · by_contra hlong
      have := length_solid_lace_long q (by omega)
      omega
    · exact heq (by omega) q hq

/-! ## What is taken for the packets of a stream -/

theorem hasMarker_head (s : OggStream) : hasMarker s.head.payload = true := by
  have hpayload : s.head.payload = s.headPacket := by rw [Page.payload, s.head_laced, lace_flatten]
  unfold hasMarker
  rw [hpayload, contains_iff.mpr s.head_marker.isInfix]
  rfl

theorem takePage_head {σ : Type} (emit : σ → List UInt8 → Result AudioError σ) (s : OggStream) (init : σ) :
    ∃ vars, takePage emit { out := init } s.head.read = .ok vars ∧ vars.foundHead = true ∧ vars.out = init ∧
      vars.preSkip = s.preSkip ∧ vars.lastGranulePos = leNat s.head.granule := by
  have hpayload : s.head.read.payload = s.headPacket := by
    show s.head.payload = s.headPacket
    rw [Page.payload, s.head_laced, lace_flatten]
  have hlen := s.head_length
  have hread : ∃ vars : OggVars σ, readHead { out := init } s.headPacket = .ok vars ∧ vars.foundHead = true ∧
      vars.out = init ∧ vars.preSkip = s.preSkip ∧ vars.lastGranulePos = 0 := by
    unfold readHead
    rw [if_neg Bool.false_ne_true, indexOf_of_prefix s.head_marker]
    simp only
    rw [if_neg (by omega), slice_length (by omega), ok_bind, List.drop_zero, index_of_lt (by omega), ok_bind,
      slice_of_le (by omega) (by omega), ok_bind, slice_of_le (by omega) (by omega)]
    exact ⟨_, rfl, rfl, rfl, rfl, rfl⟩
  obtain ⟨vars, hvars, hfound, hout, hskip, hlast⟩ := hread
  have hmarker := hasMarker_head s
  rw [Page.payload, s.head_laced, lace_flatten] at hmarker
  have hgranule : s.head.read.granulePos = leNat s.head.granule := rfl
  unfold takePage
  rw [hpayload, hvars, ok_bind]
  simp only
  rw [if_neg (by simp [hmarker]), hgranule, hlast]
  refine ⟨_, rfl, ?_⟩
  split
  · exact ⟨hfound, hout, hskip, rfl⟩
  · exact ⟨hfound, hout, hskip, by omega⟩

theorem run_stream {σ : Type} (emit : σ → List UInt8 → Result AudioError σ) (s : OggStream) (init : σ) :
    ∃ after : σ → OggVars σ, (∀ out, (after out).out = out ∧ (after out).preSkip = s.preSkip ∧
        (after out).lastGranulePos = s.lastGranule) ∧
      (oggLoop emit).run ({ out := init }, s.bytes) = s.frames.foldlM emit init >>= fun out => .ok (after out) := by
  obtain ⟨vars, htake, hfound, hout, hskip, hlast⟩ := takePage_head emit s init
  refine ⟨fun out => { vars with
    lastGranulePos := (s.tags ++ s.audio).foldl (fun last p => max last (leNat p.granule)) vars.lastGranulePos, out },
    fun out => ⟨rfl, hskip, ?_⟩, ?_⟩
  · rw [hlast, OggStream.lastGranule, List.foldl_cons, Nat.zero_max]
  · rw [OggStream.bytes, run_page emit (eos_head s.eos_last), htake, ok_bind, run_pages emit (eos_tail s.eos_last) hfound,
      hout]
    rfl

theorem framesOf_stream (s : OggStream) : framesOf s.bytes = .ok s.frames := by
  obtain ⟨after, hafter, hrun⟩ :=
    run_stream (fun frames packet => .ok (frames ++ [packet])) s ([] : List (List UInt8))
  have hfold : ∀ (packets init : List (List UInt8)),
      packets.foldlM (fun frames packet => (.ok (frames ++ [packet]) : Result AudioError (List (List UInt8)))) init =
        .ok (init ++ packets) := by
    intro packets
    induction packets with
    | nil => intro init; rw [List.append_nil]; rfl
    | cons p packets ih =>
      intro init
      rw [List.foldlM_cons, ok_bind, ih, List.append_assoc, List.singleton_append]
  unfold framesOf
  rw [hrun, hfold, List.nil_append, ok_bind, ok_bind, (hafter s.frames).1]
  rfl

theorem mem_frames {s : OggStream} {frame : List UInt8} (h : frame ∈ s.frames) : frame ≠ [] := by
  obtain ⟨p, -, hp⟩ := List.mem_flatMap.mp h
  unfold Page.frames at hp
  split at hp
  · exact absurd hp List.not_mem_nil
  · have := (List.mem_filter.mp hp).2
    rintro rfl
    exact absurd this (by decide)

theorem isOGGHeader_stream (s : OggStream) : isOGGHeader s.bytes = true := by
  have hlen := length_page s.head ((s.tags ++ s.audio).flatMap Page.bytes)
  have hmagic := magic_page s.head ((s.tags ++ s.audio).flatMap Page.bytes)
  rw [← List.flatMap_cons] at hlen hmagic
  unfold isOGGHeader OggStream.bytes
  rw [hmagic, hlen]
  simp
  omega

theorem decodeOGGOpus_stream (s : OggStream) :
    ∃ pcm tel, decodeOGGOpus s.bytes = .ok (pcm, tel) ∧
      pcm.length = (s.frames.map fun frame => 48 * packetMs frame).sum ∧
      (s.preSkip < s.lastGranule → tel.durationMS =
        ⌊float64 (float64 (float64 (s.lastGranule - s.preSkip : Nat) * 1000) / 48000)⌋) := by
  obtain ⟨after, hafter, hrun⟩ := run_stream appendFrame s []
  obtain ⟨pcm, hpcm, hlength⟩ := appendFrames_ok s.frames (fun _ h => mem_frames h) []
  obtain ⟨tel, htel, hduration⟩ := finishOGG_ok (after pcm)
  obtain ⟨hout, hskip, hlast⟩ := hafter pcm
  rw [hout] at htel
  have hlen := length_page s.head ((s.tags ++ s.audio).flatMap Page.bytes)
  rw [← List.flatMap_cons] at hlen
  have hguard : ¬ (s.bytes.length < 27 ∨ ¬ isOGGHeader s.bytes = true) := by
    rintro (hshort | hno)
    · rw [OggStream.bytes, hlen] at hshort
      omega
    · exact hno (isOGGHeader_stream s)
  refine ⟨pcm, tel, ?_, by simpa using hlength, fun hpos => ?_⟩
  · unfold decodeOGGOpus
    rw [if_neg hguard, hrun, hpcm, ok_bind, ok_bind, htel]
  · rw [hduration, oggDuration, hskip, hlast, if_pos hpos]

/-- `DecodeOGGOpus` takes the energy of each packet once, so its samples are as many as theirs together. -/
def OggStream.Reassembled (s : OggStream) : Prop :=
  framesOf s.bytes = .ok s.audioPackets ∧
    ∃ pcm tel, decodeOGGOpus s.bytes = .ok (pcm, tel) ∧
      pcm.length = (s.packets.map fun packet => 48 * packetMs packet).sum

theorem sum_audioPackets (packets : List (List UInt8)) :
    ((solid packets).map fun packet => 48 * packetMs packet).sum =
      (packets.map fun packet => 48 * packetMs packet).sum := by
  induction packets with
  | nil => rfl
  | cons p packets ih =>
    cases p with
    | nil => simpa [solid, packetMs] using ih
    | cons b p =>
      have hcons : solid ((b :: p) :: packets) = (b :: p) :: solid packets := rfl
      rw [hcons, List.map_cons, List.map_cons, List.sum_cons, List.sum_cons, ih]

theorem reassembled_iff (s : OggStream) : s.Reassembled ↔ s.frames = s.audioPackets := by
  constructor
  · intro ⟨hframes, _⟩
    rw [framesOf_stream] at hframes
    exact Result.ok.inj hframes
  · intro hframes
    refine ⟨by rw [framesOf_stream, hframes], ?_⟩
    obtain ⟨pcm, tel, hdecode, hlength, -⟩ := decodeOGGOpus_stream s
    exact ⟨pcm, tel, hdecode, by rw [hlength, hframes]; exact sum_audioPackets s.packets⟩

namespace OggStream

variable (s : OggStream)

/-- No packet is cut into more than one segment that holds something. -/
def Short : Prop := ∀ p ∈ s.packets, p.length ≤ 255

/-- No page of audio holds the text of a marker. -/
def Unmarked : Prop := ∀ p ∈ s.audio, hasMarker p.payload = false

/-- Each page of the comments holds the text of a marker, or nothing. -/
def Quiet : Prop := ∀ p ∈ s.tags, hasMarker p.payload = true ∨ p.payload = []

end OggStream

theorem frames_eq_nil_iff {p : Page} : p.frames = [] ↔ hasMarker p.payload = true ∨ p.payload = [] := by
  unfold Page.frames Page.payload
  by_cases hmarker : hasMarker p.segments.flatten = true
  · rw [if_pos hmarker]
    exact iff_of_true rfl (.inl hmarker)
  · rw [if_neg hmarker, or_iff_right hmarker, List.filter_eq_nil_iff, List.flatten_eq_nil_iff]
    simp

theorem frames_quiet {s : OggStream} (h : s.Quiet) : s.tags.flatMap Page.frames = [] :=
  List.flatMap_eq_nil_iff.mpr fun p hp => frames_eq_nil_iff.mpr (h p hp)

theorem frames_audio {ps : List Page} (h : ∀ p ∈ ps, hasMarker p.payload = false) :
    ps.flatMap Page.frames = solid (ps.flatMap Page.segments) := by
  rw [solid, List.filter_flatMap]
  refine List.flatMap_congr fun p hp => ?_
  rw [Page.frames, if_neg (by rw [h p hp]; decide)]

theorem solid_eq_nil_iff {segments : List (List UInt8)} : solid segments = [] ↔ segments.flatten = [] := by
  rw [solid, List.filter_eq_nil_iff, List.flatten_eq_nil_iff]
  simp

theorem length_frames (ps : List Page) :
    (ps.flatMap Page.frames).length ≤ (solid (ps.flatMap Page.segments)).length ∧
      ((ps.flatMap Page.frames).length = (solid (ps.flatMap Page.segments)).length →
        ∀ p ∈ ps, hasMarker p.payload = false) := by
  induction ps with
  | nil => exact ⟨Nat.le_refl _, fun _ p hp => absurd hp List.not_mem_nil⟩
  | cons p ps ih =>
    obtain ⟨hle, heq⟩ := ih
    rw [List.flatMap_cons, List.flatMap_cons, solid_append, List.length_append, List.length_append]
    by_cases hmarker : hasMarker p.payload = true
    · have hnone : p.frames = [] := frames_eq_nil_iff.mpr (.inl hmarker)
      have hsome : 0 < (solid p.segments).length := by
        refine List.length_pos_iff.mpr fun hnil => ?_
        have hempty : p.payload = [] := solid_eq_nil_iff.mp hnil
        rw [hempty] at hmarker
        exact absurd hmarker (by decide)
      rw [hnone, List.length_nil]
      exact ⟨by omega, fun h => by omega⟩
    · have hall : p.frames = solid p.segments := if_neg hmarker
      rw [hall]
      refine ⟨by omega, fun h q hq => ?_⟩
      rcases List.mem_cons.mp hq with rfl | hq
      · exact Bool.eq_false_iff.mpr hmarker
      · exact heq (by omega) q hq

/-- The packets are reassembled when all of them are short, no page of audio holds a marker, and each page of the
comments does or is empty. When no page of audio holds a marker, or the packets are short and the comments quiet,
they are in no other case. -/
theorem packets_reassembled (s : OggStream) :
    (s.Short ∧ s.Unmarked ∧ s.Quiet → s.Reassembled) ∧
      (s.Unmarked → (s.Reassembled ↔ s.Short ∧ s.Quiet)) ∧
      (s.Short ∧ s.Quiet → (s.Reassembled ↔ s.Unmarked)) := by
  have hframes : s.frames = s.tags.flatMap Page.frames ++ s.audio.flatMap Page.frames := List.flatMap_append
  have hpackets : s.audioPackets = solid s.packets := rfl
  have henough : s.Short ∧ s.Unmarked ∧ s.Quiet → s.Reassembled := by
    intro ⟨hshort, hunmarked, hquiet⟩
    rw [reassembled_iff, hframes, frames_quiet hquiet, List.nil_append, frames_audio hunmarked, s.audio_laced,
      solid_lace_of_short hshort]
    rfl
  refine ⟨henough, fun hunmarked => ⟨fun h => ?_, fun h => henough ⟨h.1, hunmarked, h.2⟩⟩,
    fun ⟨hshort, hquiet⟩ => ⟨fun h => ?_, fun h => henough ⟨hshort, h, hquiet⟩⟩⟩
  · rw [reassembled_iff, hframes, frames_audio hunmarked, s.audio_laced, hpackets] at h
    have hlength := congrArg List.length h
    rw [List.length_append] at hlength
    obtain ⟨hle, heq⟩ := length_solid_lace s.packets
    refine ⟨heq (by omega), fun p hp => frames_eq_nil_iff.mp ?_⟩
    have htags : s.tags.flatMap Page.frames = [] := List.length_eq_zero_iff.mp (by omega)
    exact List.flatMap_eq_nil_iff.mp htags p hp
  · rw [reassembled_iff, hframes, frames_quiet hquiet, List.nil_append, hpackets, ← solid_lace_of_short hshort,
      ← s.audio_laced] at h
    exact (length_frames s.audio).2 (congrArg List.length h)

/-! A stream with one packet of 300 bytes, of a frame of 20 ms. -/

def plainPage (headerType : UInt8) (segments : List (List UInt8)) (h : segments.length ≤ 255)
    (h' : ∀ s ∈ segments, s.length ≤ 255) : Page :=
  ⟨headerType, List.replicate 8 0, List.replicate 12 0, segments, rfl, rfl, h, h'⟩

def headPacket : List UInt8 := opusHead ++ [1, 1, 0, 0, 0x80, 0xBB, 0, 0, 0, 0, 0]

def tagsPacket : List UInt8 := opusTags ++ [0, 0, 0, 0, 0, 0, 0, 0]

def longPacket : List UInt8 := List.replicate 300 0x78

def longSegments : List (List UInt8) := [List.replicate 255 0x78, List.replicate 45 0x78]

def longStream : OggStream where
  head := plainPage 2 [headPacket] (by decide) (by decide)
  tags := [plainPage 0 [tagsPacket] (by decide) (by decide)]
  audio := [plainPage 4 longSegments (by decide) (by decide +kernel)]
  headPacket := headPacket
  tagsPacket := tagsPacket
  packets := [longPacket]
  head_marker := List.prefix_append ..
  head_length := by decide
  tags_marker := List.prefix_append ..
  head_laced := (lace_of_lt (by decide)).symm
  tags_laced := (lace_of_lt (by decide)).symm
  audio_laced := by
    have hlong : lace longPacket = longSegments := by
      rw [lace_of_ge (by decide +kernel), lace_of_lt (by decide +kernel), longPacket, List.take_replicate,
        List.drop_replicate]
      rfl
    simpa [plainPage] using hlong.symm
  eos_last := by decide

/-- Its two segments are taken for a frame each. -/
theorem long_packet_counted_twice :
    (∃ pcm tel, decodeOGGOpus longStream.bytes = .ok (pcm, tel) ∧ pcm.length = 1920) ∧
      (longStream.packets.map fun packet => 48 * packetMs packet).sum = 960 ∧ ¬ longStream.Reassembled := by
  have hframes : longStream.frames = longSegments := by decide +kernel
  refine ⟨?_, by decide, ?_⟩
  · obtain ⟨pcm, tel, hdecode, hlength, -⟩ := decodeOGGOpus_stream longStream
    rw [hframes] at hlength
    exact ⟨pcm, tel, hdecode, hlength.trans (by decide)⟩
  · rw [reassembled_iff, hframes]
    decide +kernel

end PerGo.L4.OggPackets
