import MeetingSystem.Impl.Client.VideoRtcpActionPipeline
import MeetingSystem.Proof.Media.RtcpReports

/-!
# NACK feedback

What `buildNackFeedback` writes is read back by the client and by the SFU: the
sequence numbers that were asked for, each of them once.

* `bits_or`: a mask with one more bit, above the others;
* `nackBlocks_sequences`: the blocks hold the sorted numbers;
* `nackFeedback_roundTrip`: the packet.
-/

namespace MeetingSystem.Proof.Media

open MeetingSystem.Framework MeetingSystem.Impl.Client MeetingSystem.Impl.Sfu
open RTCPHandler (packetSizeBytes)
open VideoRtcpActionPipeline (NackBlock unique nackBlocks buildNackFeedback)

/-! ## Sorted and without duplicates -/

theorem mem_unique {s : UInt16} {l : List UInt16} : s ∈ unique l ↔ s ∈ l := by
  induction l using VideoRtcpActionPipeline.unique.induct with
  | case1 => rfl
  | case2 a => rfl
  | case3 a rest ih =>
    rw [unique, if_pos rfl, ih]
    simp
  | case4 a b rest hne ih =>
    rw [unique, if_neg hne, List.mem_cons, ih, List.mem_cons (l := b :: rest)]

theorem pairwise_unique {l : List UInt16} (h : l.Pairwise (· ≤ ·)) :
    (unique l).Pairwise (· < ·) := by
  induction l using VideoRtcpActionPipeline.unique.induct with
  | case1 => exact .nil
  | case2 a => exact List.pairwise_singleton _ _
  | case3 a rest ih =>
    rw [unique, if_pos rfl]
    exact ih h.tail
  | case4 a b rest hne ih =>
    rw [unique, if_neg hne]
    obtain ⟨hfirst, htail⟩ := List.pairwise_cons.mp h
    refine List.pairwise_cons.mpr ⟨fun s hs => ?_, ih htail⟩
    have hab : a < b := UInt16.lt_of_le_of_ne (hfirst b List.mem_cons_self) hne
    rcases List.mem_cons.mp (mem_unique.mp hs) with rfl | hrest
    · exact hab
    · exact UInt16.lt_of_lt_of_le hab ((List.pairwise_cons.mp htail).1 s hrest)

/-- The numbers that are written, in their order. -/
def lostOnce (lostSequences : List UInt16) : List UInt16 :=
  unique (lostSequences.insertionSort (· ≤ ·))

theorem mem_lostOnce {s : UInt16} {lostSequences : List UInt16} :
    s ∈ lostOnce lostSequences ↔ s ∈ lostSequences :=
  mem_unique.trans (List.mem_insertionSort _)

theorem pairwise_lostOnce (lostSequences : List UInt16) :
    (lostOnce lostSequences).Pairwise (· < ·) :=
  pairwise_unique (List.pairwise_insertionSort _ _)

theorem nodup_lostOnce (lostSequences : List UInt16) : (lostOnce lostSequences).Nodup :=
  (pairwise_lostOnce lostSequences).imp fun h => UInt16.ne_of_lt h

/-! ## The bits of a mask -/

/-- The positions of the bits that are set in a mask of 16. -/
def bits (mask : Nat) : List Nat := (List.range 16).filter mask.testBit

theorem bits_or {mask k : Nat} (hmask : mask < 2 ^ k) (hk : k < 16) :
    bits (mask ||| 2 ^ k) = bits mask ++ [k] := by
  have hrange : List.range 16 =
      List.range k ++ ([k] ++ (List.range (15 - k)).map (k + 1 + ·)) := by
    conv_lhs => rw [show 16 = k + 1 + (15 - k) by omega]
    rw [List.range_add, List.range_succ, List.append_assoc]
  have hlow : ∀ i ∈ List.range k, (mask ||| 2 ^ k).testBit i = mask.testBit i := by
    intro i hi
    have hne : k ≠ i := (List.mem_range.mp hi).ne'
    rw [Nat.testBit_or, Nat.testBit_two_pow_of_ne hne, Bool.or_false]
  have hzero : ∀ i, k ≤ i → mask.testBit i = false := fun i hi =>
    Nat.testBit_lt_two_pow (hmask.trans_le (Nat.pow_le_pow_right (by decide) hi))
  have hset : [k].filter (mask ||| 2 ^ k).testBit = [k] := by
    rw [List.filter_singleton, Nat.testBit_or, Nat.testBit_two_pow_self, Bool.or_true]
    rfl
  have hclear : [k].filter mask.testBit = [] := by
    rw [List.filter_singleton, hzero k (Nat.le_refl k)]
    rfl
  have hhigh : ∀ i ∈ (List.range (15 - k)).map (k + 1 + ·),
      (mask ||| 2 ^ k).testBit i = mask.testBit i ∧ mask.testBit i = false := by
    intro i hi
    obtain ⟨j, -, rfl⟩ := List.mem_map.mp hi
    rw [Nat.testBit_or, hzero _ (by omega), Nat.testBit_two_pow_of_ne (by omega)]
    exact ⟨rfl, rfl⟩
  have hnone : ((List.range (15 - k)).map (k + 1 + ·)).filter mask.testBit = [] :=
    List.filter_eq_nil_iff.mpr fun i hi => by simp [(hhigh i hi).2]
  simp only [bits, hrange, List.filter_append, List.filter_congr hlow, hset, hclear,
    List.filter_congr fun i hi => (hhigh i hi).1, hnone, List.append_nil]

theorem toNat_one_shiftLeft {bit : Nat} (hbit : bit < 16) :
    ((1 : UInt16) <<< bit.toUInt16).toNat = 2 ^ bit := by
  have hall : ∀ i : Fin 16, ((1 : UInt16) <<< i.val.toUInt16).toNat = 2 ^ i.val := by decide
  exact hall ⟨bit, hbit⟩

/-- The test of the parsers. -/
theorem and_shiftLeft_eq_zero {mask : UInt16} {bit : Nat} (hbit : bit < 16) :
    mask &&& (1 : UInt16) <<< bit.toUInt16 = 0 ↔ mask.toNat.testBit bit = false := by
  rw [← UInt16.toNat_inj, UInt16.toNat_and, toNat_one_shiftLeft hbit, Nat.and_two_pow]
  show (mask.toNat.testBit bit).toNat * 2 ^ bit = 0 ↔ _
  have hpos := Nat.two_pow_pos bit
  cases mask.toNat.testBit bit
  · simp
  · simp

/-! ## Blocks -/

/-- The sequence numbers of a block. -/
def sequences (block : NackBlock) : List UInt16 :=
  block.pid :: (bits block.blp.toNat).map fun bit => block.pid + bit.toUInt16 + 1

theorem sequences_zero (pid : UInt16) : sequences { pid, blp := 0 } = [pid] := by
  show pid :: (bits 0).map _ = [pid]
  rw [show bits 0 = [] by decide, List.map_nil]

/-- One more number, 16 after the first one at most and above all others. -/
theorem sequences_or {block : NackBlock} {delta : UInt16} (hpos : delta ≠ 0) (hle : delta ≤ 16)
    (hblp : block.blp.toNat < 2 ^ (delta.toNat - 1)) :
    sequences { block with blp := block.blp ||| (1 : UInt16) <<< (delta - 1) } =
        sequences block ++ [block.pid + delta] ∧
      (block.blp ||| (1 : UInt16) <<< (delta - 1)).toNat < 2 ^ delta.toNat := by
  have hle : delta.toNat ≤ 16 := UInt16.le_iff_toNat_le.mp hle
  have hpos : delta.toNat ≠ 0 := fun h => hpos (UInt16.toNat_inj.mp h)
  have hone : (1 : UInt16) ≤ delta := UInt16.le_iff_toNat_le.mpr (Nat.pos_of_ne_zero hpos)
  have hpred : (delta - 1).toNat = delta.toNat - 1 := UInt16.toNat_sub_of_le _ _ hone
  have hword : (delta.toNat - 1).toUInt16 = delta - 1 := by
    rw [← hpred]
    exact UInt16.ofNat_toNat
  have hbit : ((1 : UInt16) <<< (delta - 1)).toNat = 2 ^ (delta.toNat - 1) := by
    rw [← hword, toNat_one_shiftLeft (by omega)]
  have hor : (block.blp ||| (1 : UInt16) <<< (delta - 1)).toNat =
      block.blp.toNat ||| 2 ^ (delta.toNat - 1) := by
    rw [UInt16.toNat_or, hbit]
  constructor
  · unfold sequences
    dsimp only
    rw [hor, bits_or hblp (by omega), List.map_append, List.cons_append, List.map_singleton,
      hword, UInt16.add_assoc, UInt16.sub_add_cancel]
  · rw [hor]
    have hlt : 2 ^ (delta.toNat - 1) < 2 ^ delta.toNat :=
      Nat.pow_lt_pow_right (by decide) (by omega)
    exact Nat.or_lt_two_pow (hblp.trans hlt) hlt

/-- The blocks hold the numbers that were packed, in their order. -/
theorem nackBlocks_sequences {block : NackBlock} {k : Nat} (hblp : block.blp.toNat < 2 ^ k)
    {rest : List UInt16} (hsorted : rest.Pairwise (· < ·))
    (habove : ∀ s ∈ rest, block.pid.toNat + k < s.toNat) :
    (nackBlocks block rest).flatMap sequences = sequences block ++ rest := by
  induction rest generalizing block k with
  | nil => simp [nackBlocks]
  | cons s rest ih =>
    obtain ⟨hfirst, hsorted⟩ := List.pairwise_cons.mp hsorted
    have hs := habove s List.mem_cons_self
    have hdelta : (s - block.pid).toNat = s.toNat - block.pid.toNat :=
      UInt16.toNat_sub_of_le _ _ (UInt16.le_iff_toNat_le.mpr (by omega))
    have hne : s - block.pid ≠ 0 := by
      intro h
      rw [h, UInt16.toNat_zero] at hdelta
      omega
    have hnext : ∀ t ∈ rest, s.toNat < t.toNat := fun t ht =>
      UInt16.lt_iff_toNat_lt.mp (hfirst t ht)
    rw [nackBlocks, if_neg hne]
    by_cases hfar : 16 < s - block.pid
    · -- the number opens a block of its own
      rw [if_pos hfar, List.flatMap_cons, @ih ⟨s, 0⟩ 0 (Nat.two_pow_pos 0) hsorted hnext,
        sequences_zero]
      rfl
    · rw [if_neg hfar]
      obtain ⟨hseq, hlt⟩ := sequences_or hne (UInt16.not_lt.mp hfar)
        (hblp.trans_le (Nat.pow_le_pow_right (by decide) (by omega)))
      rw [ih hlt hsorted fun t ht => ?_, hseq, UInt16.add_comm, UInt16.sub_add_cancel, List.append_assoc]
      · rfl
      · show block.pid.toNat + (s - block.pid).toNat < t.toNat
        have ht := hnext t ht
        omega

/-- Two blocks are more than 16 apart. -/
theorem nackBlocks_length {block : NackBlock} {rest : List UInt16}
    (hsorted : rest.Pairwise (· < ·)) (habove : ∀ s ∈ rest, block.pid < s) :
    block.pid.toNat + 17 * (nackBlocks block rest).length < 2 ^ 16 + 17 := by
  induction rest generalizing block with
  | nil =>
    have hpid := block.pid.toNat_lt
    rw [nackBlocks, List.length_singleton]
    omega
  | cons s rest ih =>
    obtain ⟨hfirst, hsorted⟩ := List.pairwise_cons.mp hsorted
    have hs := habove s List.mem_cons_self
    have hrest := fun t ht => habove t (List.mem_cons_of_mem s ht)
    rw [nackBlocks]
    split
    · exact ih hsorted hrest
    · split
      · rename_i hfar
        have hdelta : (s - block.pid).toNat = s.toNat - block.pid.toNat :=
          UInt16.toNat_sub_of_le _ _ (UInt16.le_of_lt hs)
        have hgap : 16 < (s - block.pid).toNat := UInt16.lt_iff_toNat_lt.mp hfar
        have hlen : s.toNat + 17 * (nackBlocks { pid := s, blp := 0 } rest).length < 2 ^ 16 + 17 :=
          @ih ⟨s, 0⟩ hsorted hfirst
        rw [List.length_cons]
        omega
      · exact @ih ⟨block.pid, block.blp ||| (1 : UInt16) <<< (s - block.pid - 1)⟩ hsorted hrest

/-! ## The packet -/

def blockBytes (block : NackBlock) : Bytes := writeBE16 block.pid ++ writeBE16 block.blp

theorem length_flatMap_blockBytes (blocks : List NackBlock) :
    (blocks.flatMap blockBytes).length = blocks.length * 4 := by
  induction blocks with
  | nil => rfl
  | cons block blocks ih =>
    rw [List.flatMap_cons, List.length_append, ih, List.length_cons]
    show 4 + blocks.length * 4 = _
    omega

theorem filterMap_ite {α β : Type} (p : α → Bool) (f : α → β) (l : List α) :
    l.filterMap (fun a => if p a then some (f a) else none) = (l.filter p).map f := by
  rw [← List.filterMap_eq_map, List.filterMap_filter]
  rfl

/-- The loop of the parsers over one block. -/
theorem nackBlock_bytes {data : Bytes} {offset : Nat} {block : NackBlock} {rest : Bytes}
    (hdrop : data.drop offset = blockBytes block ++ rest) :
    RTCPHandler.nackBlock data offset = sequences block := by
  have hpid : readBE16 data offset = block.pid := by
    show readU16 data offset = block.pid
    apply readU16_of_drop
    rw [hdrop, blockBytes, List.append_assoc]
  have hblp : readBE16 data (offset + 2) = block.blp := by
    show readU16 data (offset + 2) = block.blp
    apply readU16_of_drop
    rw [← List.drop_drop, hdrop]
    rfl
  unfold RTCPHandler.nackBlock sequences bits
  rw [hpid, hblp, ← filterMap_ite]
  dsimp only
  congr 1
  refine List.filterMap_congr fun bit hbit => ?_
  have htest := @and_shiftLeft_eq_zero block.blp _ (List.mem_range.mp hbit)
  by_cases hset : block.blp.toNat.testBit bit = true
  · rw [if_pos hset, if_neg fun h => Bool.false_ne_true ((htest.mp h).symm.trans hset)]
  · rw [if_neg hset, if_pos (htest.mpr (Bool.eq_false_iff.mpr hset))]

theorem nackBlocks_bytes {data : Bytes} {blocks : List NackBlock} {packetBytes offset : Nat}
    (hdrop : data.drop offset = blocks.flatMap blockBytes)
    (hend : packetBytes = offset + blocks.length * 4) :
    RTCPHandler.nackBlocks data packetBytes offset = blocks.flatMap sequences := by
  induction blocks generalizing offset with
  | nil =>
    rw [RTCPHandler.nackBlocks, if_neg]
    · rfl
    · rw [hend, List.length_nil]
      omega
  | cons block blocks ih =>
    rw [List.length_cons] at hend
    have hnext : data.drop (offset + 4) = blocks.flatMap blockBytes := by
      rw [← List.drop_drop, hdrop]
      rfl
    rw [RTCPHandler.nackBlocks, if_pos (by omega), nackBlock_bytes hdrop, ih hnext (by omega),
      List.flatMap_cons]

/-- The blocks of a packet come back from both parsers. -/
theorem nackPacket_parses (senderSsrc mediaSsrc : UInt32) {blocks : List NackBlock}
    (hne : blocks ≠ []) (hlen : 2 + blocks.length < 2 ^ 16) :
    let d := RTCPHandler.reportHeader 1 205 (4 + (2 + blocks.length) * 4) ++
      (writeBE32 senderSsrc ++ writeBE32 mediaSsrc ++ blocks.flatMap blockBytes)
    RTCPHandler.parseNackFeedback d =
        some { senderSsrc, mediaSsrc, lostSequences := blocks.flatMap sequences } ∧
      RtcpHandler.parseNackFeedback d =
        [{ senderSsrc, mediaSsrc, lostSequences := blocks.flatMap sequences }] := by
  intro d
  have hrest : (writeBE32 senderSsrc ++ writeBE32 mediaSsrc ++
      blocks.flatMap blockBytes).length = (2 + blocks.length) * 4 := by
    rw [List.length_append, List.length_append, length_flatMap_blockBytes]
    show 4 + 4 + _ = _
    omega
  obtain ⟨header, halone, htype, hcount⟩ := alone_report (show 1 ≤ 31 by decide) hlen 205 hrest
  have hsize : packetSizeBytes header = 12 + blocks.length * 4 := by
    rw [halone.2, List.length_append, hrest]
    show 4 + _ = _
    omega
  have hclient : RTCPHandler.parseNackFeedback d =
      some { senderSsrc, mediaSsrc, lostSequences := blocks.flatMap sequences } := by
    have hcount : header.countOrFormat = 1 := UInt8.toNat_inj.mp hcount
    have hlost : RTCPHandler.nackBlocks d (packetSizeBytes header) 12 =
        blocks.flatMap sequences := nackBlocks_bytes rfl hsize
    have hsome : (blocks.flatMap sequences).isEmpty = false := by
      obtain ⟨block, blocks, rfl⟩ := List.exists_cons_of_ne_nil hne
      rfl
    have hsender : readBE32 d 4 = senderSsrc := by
      show readBE32 (writeBE32 senderSsrc) 0 = senderSsrc
      simp only [readBE32, writeBE32, toUInt8_and32, List.getD_cons_zero, List.getD_cons_succ,
        Nat.zero_add, join32_bytes]
    have hmedia : readBE32 d 8 = mediaSsrc := by
      show readBE32 (writeBE32 mediaSsrc) 0 = mediaSsrc
      simp only [readBE32, writeBE32, toUInt8_and32, List.getD_cons_zero, List.getD_cons_succ,
        Nat.zero_add, join32_bytes]
    have htypes : ¬ (header.packetType ≠ 205 ∨ header.countOrFormat ≠ 1) := by
      rw [htype, hcount]
      decide
    have hfits : ¬ (packetSizeBytes header < 12 ∨ d.length < packetSizeBytes header) := by
      have hd : packetSizeBytes header = d.length := halone.2
      omega
    unfold RTCPHandler.parseNackFeedback
    rw [halone.1]
    dsimp only
    rw [if_neg htypes, if_neg hfits, hlost, if_neg (by rw [hsome]; decide), hsender, hmedia]
  refine ⟨hclient, ?_⟩
  rw [halone.nack, hclient]
  rfl

/-- The blocks of sorted numbers. -/
theorem buildNackFeedback_eq {senderSsrc mediaSsrc : UInt32} {lostSequences : List UInt16}
    (hmedia : mediaSsrc ≠ 0) (hlost : lostSequences ≠ []) :
    ∃ blocks : List NackBlock, blocks ≠ [] ∧ 2 + blocks.length < 2 ^ 16 ∧
      blocks.flatMap sequences = lostOnce lostSequences ∧
      buildNackFeedback senderSsrc mediaSsrc lostSequences =
        RTCPHandler.reportHeader 1 205 (4 + (2 + blocks.length) * 4) ++
          (writeBE32 senderSsrc ++ writeBE32 mediaSsrc ++ blocks.flatMap blockBytes) := by
  have hsorted := pairwise_lostOnce lostSequences
  unfold buildNackFeedback
  rw [if_neg (not_or.mpr ⟨hmedia, hlost⟩)]
  cases hunique : lostOnce lostSequences with
  | nil =>
    obtain ⟨s, hs⟩ := List.exists_mem_of_ne_nil _ hlost
    have hmem := mem_lostOnce.mpr hs
    rw [hunique] at hmem
    cases hmem
  | cons pid rest =>
    rw [hunique] at hsorted
    obtain ⟨habove, hsorted⟩ := List.pairwise_cons.mp hsorted
    have hlen := @nackBlocks_length ⟨pid, 0⟩ rest hsorted habove
    have hseq : (nackBlocks ⟨pid, 0⟩ rest).flatMap sequences = pid :: rest := by
      have h := @nackBlocks_sequences ⟨pid, 0⟩ 0 (Nat.two_pow_pos 0) rest hsorted fun s hs =>
        UInt16.lt_iff_toNat_lt.mp (habove s hs)
      rwa [sequences_zero] at h
    refine ⟨nackBlocks ⟨pid, 0⟩ rest, ?_, by omega, hseq, ?_⟩
    · intro hnil
      rw [hnil] at hseq
      cases hseq
    · rw [lostOnce] at hunique
      rw [hunique]
      dsimp only
      rw [if_neg (by omega), show 12 + (nackBlocks ⟨pid, 0⟩ rest).length * 4 =
        4 + (2 + (nackBlocks ⟨pid, 0⟩ rest).length) * 4 by omega]
      simp only [RTCPHandler.reportHeader, List.append_assoc]
      rfl

/-- Both parsers give back the media SSRC and the sequence numbers that were
passed in, each of them once. -/
theorem nackFeedback_roundTrip (senderSsrc mediaSsrc : UInt32) (lostSequences : List UInt16)
    (hmedia : mediaSsrc ≠ 0) (hlost : lostSequences ≠ []) :
    ∃ sequences : List UInt16, sequences.Nodup ∧ (∀ s, s ∈ sequences ↔ s ∈ lostSequences) ∧
      RtcpHandler.parseNackFeedback (buildNackFeedback senderSsrc mediaSsrc lostSequences) =
        [{ senderSsrc, mediaSsrc, lostSequences := sequences }] ∧
      RTCPHandler.parseNackFeedback (buildNackFeedback senderSsrc mediaSsrc lostSequences) =
        some { senderSsrc, mediaSsrc, lostSequences := sequences } := by
  obtain ⟨blocks, hne, hlen, hseq, hpacket⟩ := buildNackFeedback_eq hmedia hlost
  obtain ⟨hclient, hsfu⟩ := nackPacket_parses senderSsrc mediaSsrc hne hlen
  rw [hseq] at hclient hsfu
  rw [hpacket]
  exact ⟨lostOnce lostSequences, nodup_lostOnce _, fun s => mem_lostOnce, hsfu, hclient⟩

/-- Numbers on both sides of the wrap, one of them twice. -/
theorem nackFeedback_roundTrip_wrap :
    ∃ sequences : List UInt16, sequences.Nodup ∧
      (∀ s, s ∈ sequences ↔ s ∈ ([2, 65535, 65530, 2, 18, 19] : List UInt16)) ∧
      RtcpHandler.parseNackFeedback (buildNackFeedback 7 9 [2, 65535, 65530, 2, 18, 19]) =
        [{ senderSsrc := 7, mediaSsrc := 9, lostSequences := sequences }] ∧
      RTCPHandler.parseNackFeedback (buildNackFeedback 7 9 [2, 65535, 65530, 2, 18, 19]) =
        some { senderSsrc := 7, mediaSsrc := 9, lostSequences := sequences } :=
  nackFeedback_roundTrip 7 9 [2, 65535, 65530, 2, 18, 19] (by decide) (by decide)

end MeetingSystem.Proof.Media
