import MeetingSystem.Framework.BigEndian
import MeetingSystem.Impl.Sfu.RpcProtocol
import MeetingSystem.Impl.Signaling.Frame

/-!
# RPC frames between the signaling server and the SFU

Both sides write the same bytes, `writeFrame`. The SFU accepts exactly the
encodings of valid frames (`decodeRpcFrame_iff`), and the signaling server reads
exactly the frames whose header has the right length (`readFrame_iff`).

`rpcFrame_codec`: the two codecs agree, and a stream of frames is read back.
-/

namespace MeetingSystem.Proof.Signaling

open MeetingSystem.Framework MeetingSystem.Impl.Sfu MeetingSystem.Impl.Signaling
open MeetingSystem.Impl.Signaling.SfuClient

/-! ## Headers -/

theorem putUint16_readU16 (a b : UInt8) : putUint16 (readU16 [a, b] 0) = [a, b] := by
  obtain ⟨ha, hb⟩ := bytes_join16 a b
  exact congrArg₂ (fun x y => [x, y]) ha hb

theorem putUint32_readU32 (a b c d : UInt8) :
    putUint32 (readU32 [a, b, c, d] 0) = [a, b, c, d] := by
  obtain ⟨ha, hb, hc, hd⟩ := bytes_join32 a b c d
  show [_, _, _, _] = _
  rw [show readU32 [a, b, c, d] 0 = a.toUInt32 <<< 24 ||| b.toUInt32 <<< 16 |||
    c.toUInt32 <<< 8 ||| d.toUInt32 from rfl, ha, hb, hc, hd]

/-- A header of these fields. -/
def headerBytes (magic : UInt32) (version kind : UInt8) (method status : UInt16)
    (length : UInt32) : List UInt8 :=
  putUint32 magic ++ [version, kind] ++ putUint16 method ++ putUint16 status ++ putUint32 length

/-- Any 14 bytes are a header. -/
theorem exists_headerBytes {data : List UInt8} (h : 14 ≤ data.length) :
    ∃ magic version kind method status length payload,
      data = headerBytes magic version kind method status length ++ payload := by
  match data, h with
  | b0 :: b1 :: b2 :: b3 :: b4 :: b5 :: b6 :: b7 :: b8 :: b9 :: b10 :: b11 :: b12 :: b13 ::
      payload, _ =>
    refine ⟨readU32 [b0, b1, b2, b3] 0, b4, b5, readU16 [b6, b7] 0, readU16 [b8, b9] 0,
      readU32 [b10, b11, b12, b13] 0, payload, ?_⟩
    rw [headerBytes, putUint32_readU32, putUint32_readU32, putUint16_readU16, putUint16_readU16]
    rfl

theorem writeFrame_eq (header : WireHeader) (payload : List UInt8) :
    writeFrame header payload = headerBytes kRpcMagic kRpcVersion header.kind header.method
      header.status header.length ++ payload := rfl

section
variable (magic : UInt32) (version kind : UInt8) (method status : UInt16) (length : UInt32)
  (payload : List UInt8)

/-- The fields that the decoder reads. -/
theorem read_headerBytes :
    let data := headerBytes magic version kind method status length ++ payload
    readU32 data 0 = magic ∧ data.getD 4 0 = version ∧ data.getD 5 0 = kind ∧
      readU16 data 6 = method ∧ readU16 data 8 = status ∧ readU32 data 10 = length ∧
      data.drop 14 = payload ∧ data.length = 14 + payload.length := by
  refine ⟨join32_bytes magic, rfl, rfl, join16_bytes method, join16_bytes status,
    join32_bytes length, rfl, ?_⟩
  rw [List.length_append]
  rfl

end

/-! ## The SFU's codec -/

/-- A frame that can be encoded. -/
def ValidFrame (f : RpcFrame) : Prop :=
  isValidKind f.kind = true ∧ f.payload.length ≤ kRpcMaxPayloadSize

/-- The header of a frame on the signaling server's side. -/
def wireHeader (f : RpcFrame) : WireHeader :=
  { method := f.method, kind := f.kind, status := f.status, length := .ofNat f.payload.length }

theorem payloadLength_toNat {n : Nat} (h : n ≤ kRpcMaxPayloadSize) :
    (UInt32.ofNat n).toNat = n :=
  UInt32.toNat_ofNat_of_lt' (Nat.lt_of_le_of_lt h (by decide))

/-- The SFU writes the bytes that the signaling server writes. -/
theorem encodeRpcFrame_iff {f : RpcFrame} {data : List UInt8} :
    encodeRpcFrame f = some data ↔ ValidFrame f ∧ data = writeFrame (wireHeader f) f.payload := by
  have hbytes : appendU32 kRpcMagic ++ [kRpcVersion, f.kind] ++ appendU16 f.method ++
      appendU16 f.status ++ appendU32 (.ofNat f.payload.length) ++ f.payload =
      writeFrame (wireHeader f) f.payload := by
    simp only [appendU16, appendU32, toUInt8_and16, toUInt8_and32]
    rfl
  unfold encodeRpcFrame ValidFrame
  rw [hbytes]
  constructor
  · intro h
    split at h
    · cases h
    · rename_i hvalid
      have hvalid := not_or.mp hvalid
      exact ⟨⟨Decidable.not_not.mp hvalid.2, Nat.le_of_not_lt hvalid.1⟩,
        (Option.some.inj h).symm⟩
  · rintro ⟨⟨hkind, hlength⟩, rfl⟩
    rw [if_neg (not_or.mpr ⟨Nat.not_lt.mpr hlength, not_not_intro hkind⟩)]

/-- What is accepted is exactly the encoding of a frame. -/
theorem decodeRpcFrame_iff {data : List UInt8} {f : RpcFrame} :
    decodeRpcFrame data = some f ↔ encodeRpcFrame f = some data := by
  rw [encodeRpcFrame_iff]
  constructor
  · intro h
    unfold decodeRpcFrame at h
    split at h
    · cases h
    · rename_i hheader
      obtain ⟨magic, version, kind, method, status, length, payload, rfl⟩ :=
        exists_headerBytes (Nat.le_of_not_lt hheader)
      obtain ⟨hmagic, hversion, hkind, hmethod, hstatus, hlength, hpayload, hsize⟩ :=
        read_headerBytes magic version kind method status length payload
      simp only [hmagic, hversion, hkind, hmethod, hstatus, hlength, hsize, kRpcHeaderSize,
        hpayload] at h
      split at h
      · cases h
      · rename_i hgood
        split at h
        · cases h
        · rename_i hsame
          obtain rfl := Option.some.inj h
          simp only [not_or, Decidable.not_not] at hgood
          obtain ⟨rfl, rfl, hvalid, hle⟩ := hgood
          have hlen : payload.length = length.toNat := by omega
          refine ⟨⟨hvalid, hlen ▸ Nat.le_of_not_lt hle⟩, ?_⟩
          rw [writeFrame_eq, wireHeader, hlen, UInt32.ofNat_toNat]
  · rintro ⟨⟨hvalid, hle⟩, rfl⟩
    rw [writeFrame_eq]
    obtain ⟨hmagic, hversion, hkind, hmethod, hstatus, hlength, hpayload, hsize⟩ :=
      read_headerBytes kRpcMagic kRpcVersion f.kind f.method f.status (.ofNat f.payload.length)
        f.payload
    have htoNat := payloadLength_toNat hle
    unfold decodeRpcFrame wireHeader
    simp only [hmagic, hversion, hkind, hmethod, hstatus, hlength, hsize, kRpcHeaderSize,
      hpayload, htoNat]
    rw [if_neg (by omega), if_neg, if_neg (by omega)]
    simp only [ne_eq, not_true_eq_false, hvalid, false_or]
    omega

/-! ## The signaling server's reader -/

theorem bigEndianUint16_eq (b : List UInt8) (offset : Nat) :
    bigEndianUint16 b offset = readU16 b offset :=
  UInt16.or_comm _ _

theorem bigEndianUint32_eq (b : List UInt8) (offset : Nat) :
    bigEndianUint32 b offset = readU32 b offset := by
  unfold bigEndianUint32 readU32
  generalize (b.getD offset 0).toUInt32 <<< 24 = b0
  generalize (b.getD (offset + 1) 0).toUInt32 <<< 16 = b1
  generalize (b.getD (offset + 2) 0).toUInt32 <<< 8 = b2
  ac_rfl

/-- The four bytes that the reader compares are the magic number. -/
theorem magic_iff (magic : UInt32) :
    ((magic >>> 24).toUInt8 ≠ wireMagic0 ∨ (magic >>> 16).toUInt8 ≠ wireMagic1 ∨
      (magic >>> 8).toUInt8 ≠ wireMagic2 ∨ magic.toUInt8 ≠ wireMagic3) ↔ magic ≠ kRpcMagic := by
  rw [← not_iff_not]
  simp only [not_or, Decidable.not_not]
  constructor
  · rintro ⟨h0, h1, h2, h3⟩
    rw [← join32_bytes magic, h0, h1, h2, h3]
    rfl
  · rintro rfl
    decide

theorem readFull_append {r s : List UInt8} {n : Nat} (h : r.length = n) :
    readFull (r ++ s) n = .ok (r, s) := by
  unfold readFull
  rw [if_pos (by rw [List.length_append]; omega), List.take_left' h, List.drop_left' h]

theorem readFull_eq_ok {r s rest : List UInt8} {n : Nat} (h : readFull r n = .ok (s, rest)) :
    r = s ++ rest ∧ s.length = n := by
  unfold readFull at h
  split at h
  · rename_i hle
    obtain ⟨rfl, rfl⟩ := Prod.mk.inj (Except.ok.inj h)
    exact ⟨(List.take_append_drop n r).symm, List.length_take_of_le hle⟩
  · split at h <;> cases h

/-- Reading a header of these fields. -/
theorem readFrame_headerBytes (magic : UInt32) (version kind : UInt8) (method status : UInt16)
    (length : UInt32) (r : List UInt8) :
    readFrame (headerBytes magic version kind method status length ++ r) =
      if magic ≠ kRpcMagic then .error "sfu rpc bad magic"
      else if version ≠ wireVersion then .error "sfu rpc unsupported version"
      else if length > wireMaxPayload then .error "sfu rpc payload too large"
      else
        match readFull r length.toNat with
        | .error err => .error err
        | .ok (payload, r) => .ok ({ method, kind, status, length }, payload, r) := by
  have hread := read_headerBytes magic version kind method status length []
  rw [List.append_nil] at hread
  obtain ⟨-, hversion, hkind, hmethod, hstatus, hlength, -⟩ := hread
  have hfull : readFull (headerBytes magic version kind method status length ++ r) wireHeaderSize =
      .ok (headerBytes magic version kind method status length, r) := readFull_append rfl
  unfold readFrame
  rw [hfull]
  simp only [bigEndianUint16_eq, bigEndianUint32_eq, hversion, hkind, hmethod, hstatus, hlength]
  exact if_congr (magic_iff magic) rfl rfl

/-- What is read is exactly a frame that was written with the right length. -/
theorem readFrame_iff {data payload rest : List UInt8} {header : WireHeader} :
    readFrame data = .ok (header, payload, rest) ↔
      data = writeFrame header payload ++ rest ∧ payload.length = header.length.toNat ∧
        header.length ≤ wireMaxPayload := by
  constructor
  · intro h
    have hlong : 14 ≤ data.length := by
      unfold readFrame at h
      split at h
      · cases h
      · rename_i hread
        obtain ⟨rfl, hlength⟩ := readFull_eq_ok hread
        rw [List.length_append, hlength]
        exact Nat.le_add_right _ _
    obtain ⟨magic, version, kind, method, status, length, r, rfl⟩ := exists_headerBytes hlong
    rw [readFrame_headerBytes] at h
    split at h
    · cases h
    · rename_i hmagic
      split at h
      · cases h
      · rename_i hversion
        split at h
        · cases h
        · rename_i hle
          split at h
          · cases h
          · rename_i hread
            obtain ⟨rfl, hlength⟩ := readFull_eq_ok hread
            obtain ⟨rfl, hpair⟩ := Prod.mk.inj (Except.ok.inj h)
            obtain ⟨rfl, rfl⟩ := Prod.mk.inj hpair
            rw [Decidable.not_not.mp hmagic, Decidable.not_not.mp hversion, writeFrame_eq,
              List.append_assoc]
            exact ⟨rfl, hlength, Nat.le_of_not_lt hle⟩
  · rintro ⟨rfl, hlength, hle⟩
    rw [writeFrame_eq, List.append_assoc, readFrame_headerBytes,
      if_neg (show ¬ kRpcMagic ≠ kRpcMagic by decide),
      if_neg (show ¬ kRpcVersion ≠ wireVersion by decide), if_neg (UInt32.not_lt.mpr hle),
      readFull_append hlength]

/-! ## Streams -/

/-- The frames that repeated `readFrame` gives, and the error that ends them. -/
def readFrames (r : List UInt8) : List (WireHeader × List UInt8) × String :=
  match _h : readFrame r with
  | .error err => ([], err)
  | .ok (header, payload, rest) =>
    let read := readFrames rest
    ((header, payload) :: read.1, read.2)
  termination_by r.length
  decreasing_by
    rw [(readFrame_iff.mp _h).1, List.length_append]
    exact Nat.lt_add_of_pos_left (Nat.succ_pos _)

theorem readFrames_cons {header : WireHeader} {payload rest : List UInt8} {r : List UInt8}
    (h : readFrame r = .ok (header, payload, rest)) :
    readFrames r = ((header, payload) :: (readFrames rest).1, (readFrames rest).2) := by
  rw [readFrames]
  split <;> simp_all

theorem readFrame_valid {f : RpcFrame} (h : ValidFrame f) (rest : List UInt8) :
    readFrame (writeFrame (wireHeader f) f.payload ++ rest) =
      .ok (wireHeader f, f.payload, rest) := by
  have htoNat := payloadLength_toNat h.2
  refine readFrame_iff.mpr ⟨rfl, htoNat.symm, ?_⟩
  show (UInt32.ofNat f.payload.length).toNat ≤ wireMaxPayload.toNat
  rw [htoNat]
  exact h.2

/-- A stream of valid frames is read frame by frame, up to its end. -/
theorem readFrames_stream {frames : List RpcFrame} (h : ∀ f ∈ frames, ValidFrame f) :
    readFrames (frames.flatMap fun f => writeFrame (wireHeader f) f.payload) =
      (frames.map fun f => (wireHeader f, f.payload), "EOF") := by
  induction frames with
  | nil =>
    rw [List.flatMap_nil, readFrames]
    rfl
  | cons f frames ih =>
    obtain ⟨hf, hframes⟩ := List.forall_mem_cons.mp h
    rw [List.flatMap_cons, readFrames_cons (readFrame_valid hf _), ih hframes]
    rfl

/-! ## The codecs agree -/

/-- The frame that a header and a payload stand for. -/
def rpcFrame (header : WireHeader) (payload : List UInt8) : RpcFrame :=
  { method := header.method, kind := header.kind, status := header.status, payload }

theorem codec_valid {f : RpcFrame} (h : ValidFrame f) :
    ∃ data, encodeRpcFrame f = some data ∧ decodeRpcFrame data = some f ∧
      writeFrame (wireHeader f) f.payload = data := by
  have hencode := encodeRpcFrame_iff.mpr ⟨h, rfl⟩
  exact ⟨_, hencode, decodeRpcFrame_iff.mpr hencode, rfl⟩

/-- The signaling server takes the bytes for one whole frame exactly if the SFU
accepts them, and for the same frame. -/
theorem readFrame_whole {data : List UInt8} (hkind : ∀ kind ∈ data[5]?, isValidKind kind = true)
    (header : WireHeader) (payload : List UInt8) :
    readFrame data = .ok (header, payload, []) ↔
      decodeRpcFrame data = some (rpcFrame header payload) ∧
        header.length = .ofNat payload.length := by
  rw [readFrame_iff, decodeRpcFrame_iff, encodeRpcFrame_iff, List.append_nil]
  constructor
  · rintro ⟨rfl, hlength, hle⟩
    have hheader : header.length = .ofNat payload.length := by
      rw [hlength, UInt32.ofNat_toNat]
    refine ⟨⟨⟨hkind header.kind rfl, ?_⟩, ?_⟩, hheader⟩
    · show payload.length ≤ kRpcMaxPayloadSize
      rw [hlength]
      exact hle
    · rw [wireHeader, rpcFrame, ← hheader]
  · rintro ⟨⟨⟨-, hle⟩, rfl⟩, hheader⟩
    have htoNat : header.length.toNat = payload.length := by
      rw [hheader]
      exact payloadLength_toNat hle
    refine ⟨?_, htoNat.symm, ?_⟩
    · rw [wireHeader, rpcFrame, ← hheader]
    · show header.length.toNat ≤ wireMaxPayload.toNat
      rw [htoNat]
      exact hle

/-- The two codecs of the RPC frames agree. -/
theorem rpcFrame_codec :
    (∀ f, ValidFrame f → ∃ data, encodeRpcFrame f = some data ∧ decodeRpcFrame data = some f ∧
      writeFrame (wireHeader f) f.payload = data) ∧
    (∀ data f, decodeRpcFrame data = some f → encodeRpcFrame f = some data) ∧
    (∀ data : List UInt8, (∀ kind ∈ data[5]?, isValidKind kind = true) →
      ∀ header payload, readFrame data = .ok (header, payload, []) ↔
        decodeRpcFrame data = some (rpcFrame header payload) ∧
          header.length = .ofNat payload.length) ∧
    (∀ frames : List RpcFrame, (∀ f ∈ frames, ValidFrame f) →
      readFrames (frames.flatMap fun f => writeFrame (wireHeader f) f.payload) =
        (frames.map fun f => (wireHeader f, f.payload), "EOF")) :=
  ⟨fun _ => codec_valid, fun _ _ => decodeRpcFrame_iff.mp, fun _ => readFrame_whole,
    fun _ => readFrames_stream⟩

/-- A response and its bytes. -/
theorem rpcFrame_codec_response :
    (∃ data, encodeRpcFrame { method := 5, kind := kResponse, status := 0, payload := [8, 1] } =
      some data ∧
      decodeRpcFrame data =
        some { method := 5, kind := kResponse, status := 0, payload := [8, 1] } ∧
      writeFrame { method := 5, kind := kResponse, status := 0, length := 2 } [8, 1] = data) ∧
    readFrame [0x53, 0x46, 0x55, 0x52, 1, 2, 0, 5, 0, 0, 0, 0, 0, 1, 8] =
      .ok ({ method := 5, kind := kResponse, status := 0, length := 1 }, [8], []) :=
  have hkind : ∀ kind ∈ ([0x53, 0x46, 0x55, 0x52, 1, 2, 0, 5, 0, 0, 0, 0, 0, 1, 8] :
      List UInt8)[5]?, isValidKind kind = true := by
    intro kind h
    obtain rfl := Option.some.inj h
    rfl
  ⟨rpcFrame_codec.1 _ ⟨by decide, by decide +kernel⟩,
    (rpcFrame_codec.2.2.1 _ hkind _ _).mpr ⟨by decide +kernel, by decide +kernel⟩⟩

end MeetingSystem.Proof.Signaling
