import Mathlib.Data.List.Basic

/-!
# Streams of frames

A reader of a byte stream looks at the front of the bytes it has (`Scan`): there
is a frame, or no frame can start like this, or it has to wait for more bytes.
`Framing` is a format of frames with such a scanner.

* `drain`: the frames that a reader takes off its bytes, and what it keeps;
* `drain_append`: it does not matter how the bytes are cut into chunks;
* `drain_prefix`: of the front of a stream of valid frames the reader takes off
  the frames that are complete (`complete`);
* `HeaderFormat.framing`: the formats in which a header of fixed size announces
  the length of the body.
-/

namespace MeetingSystem.Framework

inductive Scan (F : Type*) where
  | more
  | bad
  | frame (f : F) (rest : List UInt8)

structure Framing (F : Type*) where
  encode : F → List UInt8
  Valid : F → Prop
  scan : List UInt8 → Scan F
  scan_nil : scan [] = .more
  scan_shorter {bytes : List UInt8} {f : F} {rest : List UInt8} :
    scan bytes = .frame f rest → rest.length < bytes.length
  /-- Bytes after a frame do not change it. -/
  scan_append {bytes : List UInt8} {f : F} {rest : List UInt8} (more : List UInt8) :
    scan bytes = .frame f rest → scan (bytes ++ more) = .frame f (rest ++ more)
  scan_encode {f : F} : Valid f → scan (encode f) = .frame f []
  /-- A part of a frame has to wait for the rest. -/
  scan_part {f : F} {bytes : List UInt8} : Valid f → bytes <+: encode f →
    bytes.length < (encode f).length → scan bytes = .more

namespace Framing

variable {F : Type*} (P : Framing F)

/-- The frames at the front of `bytes`, the bytes after them, and whether no
frame can start like these. -/
def drain (bytes : List UInt8) : List F × List UInt8 × Bool :=
  match _h : P.scan bytes with
  | .more => ([], bytes, false)
  | .bad => ([], bytes, true)
  | .frame f rest =>
    let r := drain rest
    (f :: r.1, r.2)
  termination_by bytes.length
  decreasing_by exact P.scan_shorter _h

theorem drain_of_more {bytes : List UInt8} (h : P.scan bytes = .more) :
    P.drain bytes = ([], bytes, false) := by
  rw [drain]
  split <;> simp_all

theorem drain_of_bad {bytes : List UInt8} (h : P.scan bytes = .bad) :
    P.drain bytes = ([], bytes, true) := by
  rw [drain]
  split <;> simp_all

theorem drain_of_frame {bytes rest : List UInt8} {f : F} (h : P.scan bytes = .frame f rest) :
    P.drain bytes = (f :: (P.drain rest).1, (P.drain rest).2) := by
  rw [drain]
  split <;> simp_all

/-- A reader that keeps `rest` of the first bytes takes the same frames off both
as off all bytes at once. -/
theorem drain_append {bytes rest : List UInt8} {frames : List F}
    (h : P.drain bytes = (frames, rest, false)) (more : List UInt8) :
    P.drain (bytes ++ more) =
      (frames ++ (P.drain (rest ++ more)).1, (P.drain (rest ++ more)).2) := by
  induction hn : bytes.length using Nat.strongRecOn generalizing bytes frames with
  | _ n ih =>
    cases hscan : P.scan bytes with
    | more =>
      rw [P.drain_of_more hscan] at h
      obtain ⟨rfl, rfl, -⟩ := Prod.mk.inj h |>.imp_right Prod.mk.inj
      rfl
    | bad =>
      rw [P.drain_of_bad hscan] at h
      exact absurd (congrArg (fun r => r.2.2) h) (by simp)
    | frame f rest' =>
      rw [P.drain_of_frame hscan] at h
      obtain ⟨rfl, htail⟩ := Prod.mk.inj h
      rw [P.drain_of_frame (P.scan_append more hscan),
        ih rest'.length (hn ▸ P.scan_shorter hscan) (Prod.ext rfl htail) rfl]
      rfl

/-! ## Streams of valid frames -/

/-- The frames of a stream, one after another. -/
def stream (frames : List F) : List UInt8 := frames.flatMap P.encode

@[simp] theorem stream_nil : P.stream [] = [] := rfl

@[simp] theorem stream_cons (f : F) (frames : List F) :
    P.stream (f :: frames) = P.encode f ++ P.stream frames := List.flatMap_cons

/-- The frames of which all bytes are among the first `n` of their stream. -/
def complete : List F → Nat → List F
  | [], _ => []
  | f :: frames, n =>
    if (P.encode f).length ≤ n then f :: complete frames (n - (P.encode f).length) else []

/-- Of a part of a stream a reader takes off the frames that are complete. -/
theorem drain_prefix {frames : List F} (hvalid : ∀ f ∈ frames, P.Valid f) {bytes : List UInt8}
    (h : bytes <+: P.stream frames) :
    ∃ rest, P.drain bytes = (P.complete frames bytes.length, rest, false) ∧
      bytes = P.stream (P.complete frames bytes.length) ++ rest := by
  induction frames generalizing bytes with
  | nil =>
    obtain rfl := List.prefix_nil.mp h
    exact ⟨[], P.drain_of_more P.scan_nil, rfl⟩
  | cons f frames ih =>
    obtain ⟨hf, hframes⟩ := List.forall_mem_cons.mp hvalid
    rw [P.stream_cons] at h
    by_cases hle : (P.encode f).length ≤ bytes.length
    · obtain ⟨bytes, rfl⟩ := List.prefix_of_prefix_length_le (List.prefix_append _ _) h hle
      have htail : bytes <+: P.stream frames := (List.prefix_append_right_inj _).mp h
      obtain ⟨rest, hdrain, hbytes⟩ := ih hframes htail
      have hscan := P.scan_append bytes (P.scan_encode hf)
      rw [List.nil_append] at hscan
      have hlength : (P.encode f ++ bytes).length - (P.encode f).length = bytes.length := by
        rw [List.length_append]
        omega
      refine ⟨rest, ?_, ?_⟩
      · rw [P.drain_of_frame hscan, hdrain, complete, if_pos hle, hlength]
      · rw [complete, if_pos hle, hlength, stream_cons, List.append_assoc, ← hbytes]
    · have hpart : bytes <+: P.encode f :=
        List.prefix_of_prefix_length_le h (List.prefix_append _ _) (by omega)
      refine ⟨bytes, ?_, ?_⟩
      · rw [P.drain_of_more (P.scan_part hf hpart (by omega)), complete, if_neg hle]
      · rw [complete, if_neg hle, stream_nil, List.nil_append]

theorem complete_prefix (frames : List F) (n : Nat) : P.complete frames n <+: frames := by
  induction frames generalizing n with
  | nil => exact List.prefix_refl _
  | cons f frames ih =>
    unfold complete
    split
    · exact List.cons_prefix_cons.mpr ⟨rfl, ih _⟩
    · exact List.nil_prefix

theorem complete_of_le {frames : List F} {n : Nat} (h : (P.stream frames).length ≤ n) :
    P.complete frames n = frames := by
  induction frames generalizing n with
  | nil => rfl
  | cons f frames ih =>
    rw [stream_cons, List.length_append] at h
    rw [complete, if_pos (by omega), ih (by omega)]

/-- A whole stream is read to its end. -/
theorem drain_stream {frames : List F} (hvalid : ∀ f ∈ frames, P.Valid f) :
    P.drain (P.stream frames) = (frames, [], false) := by
  obtain ⟨rest, hdrain, hbytes⟩ := P.drain_prefix hvalid (List.prefix_refl _)
  rw [P.complete_of_le (Nat.le_refl _)] at hdrain hbytes
  obtain rfl : [] = rest := List.append_cancel_left ((List.append_nil _).trans hbytes)
  exact hdrain

end Framing

/-! ## Headers with a length -/

/-- Frames of a header of `size` bytes and a body, whose length `bodyLength` the
header announces. -/
structure HeaderFormat (H F : Type*) where
  size : Nat
  size_pos : 0 < size
  decode : List UInt8 → Option H
  bodyLength : H → Nat
  make : H → List UInt8 → F
  header : F → List UInt8
  body : F → List UInt8
  Valid : F → Prop
  header_length (f : F) : (header f).length = size
  /-- The header of a valid frame is decoded and announces its body. -/
  decode_header {f : F} : Valid f → ∃ h, decode (header f) = some h ∧
    bodyLength h = (body f).length ∧ make h (body f) = f

namespace HeaderFormat

variable {H F : Type*} (P : HeaderFormat H F)

def scan (bytes : List UInt8) : Scan F :=
  if bytes.length < P.size then .more
  else
    match P.decode (bytes.take P.size) with
    | none => .bad
    | some h =>
      if bytes.length < P.size + P.bodyLength h then .more
      else
        .frame (P.make h ((bytes.drop P.size).take (P.bodyLength h)))
          (bytes.drop (P.size + P.bodyLength h))

theorem scan_of_short {bytes : List UInt8} (h : bytes.length < P.size) : P.scan bytes = .more :=
  if_pos h

theorem scan_of_bad {bytes : List UInt8} (h : P.size ≤ bytes.length)
    (hdecode : P.decode (bytes.take P.size) = none) : P.scan bytes = .bad := by
  unfold scan
  rw [if_neg (Nat.not_lt.mpr h), hdecode]

/-- The header is there, and its body is not. -/
theorem scan_of_part {bytes : List UInt8} {header : H} (h : P.size ≤ bytes.length)
    (hdecode : P.decode (bytes.take P.size) = some header)
    (hbody : bytes.length < P.size + P.bodyLength header) : P.scan bytes = .more := by
  unfold scan
  rw [if_neg (Nat.not_lt.mpr h), hdecode]
  exact if_pos hbody

/-- A frame is found exactly if its header and its body are there. -/
theorem scan_eq_frame {bytes rest : List UInt8} {f : F} :
    P.scan bytes = .frame f rest ↔
      ∃ h, P.decode (bytes.take P.size) = some h ∧ P.size + P.bodyLength h ≤ bytes.length ∧
        f = P.make h ((bytes.drop P.size).take (P.bodyLength h)) ∧
        rest = bytes.drop (P.size + P.bodyLength h) := by
  unfold scan
  constructor
  · intro h
    split at h
    · cases h
    · split at h
      · cases h
      · rename_i header hdecode
        split at h
        · cases h
        · rename_i hlength
          obtain ⟨rfl, rfl⟩ := Scan.frame.inj h
          exact ⟨header, hdecode, by omega, rfl, rfl⟩
  · rintro ⟨header, hdecode, hlength, rfl, rfl⟩
    have hheader : ¬ bytes.length < P.size := by omega
    have hbody : ¬ bytes.length < P.size + P.bodyLength header := by omega
    simp only [hheader, if_false, hdecode, hbody]

def framing : Framing F where
  encode f := P.header f ++ P.body f
  Valid := P.Valid
  scan := P.scan
  scan_nil := if_pos P.size_pos
  scan_shorter h := by
    obtain ⟨header, -, hlength, -, rfl⟩ := P.scan_eq_frame.mp h
    have hpos := P.size_pos
    rw [List.length_drop]
    omega
  scan_append more h := by
    obtain ⟨header, hdecode, hlength, rfl, rfl⟩ := P.scan_eq_frame.mp h
    refine P.scan_eq_frame.mpr ⟨header, ?_, ?_, ?_, ?_⟩
    · rw [List.take_append_of_le_length (by omega)]
      exact hdecode
    · rw [List.length_append]
      omega
    · rw [List.drop_append_of_le_length (by omega), List.take_append_of_le_length]
      rw [List.length_drop]
      omega
    · rw [List.drop_append_of_le_length hlength]
  scan_encode {f} hf := by
    obtain ⟨header, hdecode, hlength, hmake⟩ := P.decode_header hf
    have hsize := P.header_length f
    refine P.scan_eq_frame.mpr ⟨header, ?_, ?_, ?_, ?_⟩
    · rw [List.take_left' hsize]
      exact hdecode
    · rw [List.length_append]
      omega
    · rw [List.drop_left' hsize, hlength, List.take_length]
      exact hmake.symm
    · rw [List.drop_of_length_le]
      rw [List.length_append]
      omega
  scan_part {f bytes} hf hpart hlt := by
    obtain ⟨header, hdecode, hlength, -⟩ := P.decode_header hf
    have hsize := P.header_length f
    rw [List.length_append] at hlt
    by_cases hheader : bytes.length < P.size
    · exact P.scan_of_short hheader
    · have htake : bytes.take P.size = P.header f := by
        obtain ⟨rest, hrest⟩ := hpart
        rw [← List.take_append_of_le_length (by omega), hrest, List.take_left' hsize]
      exact P.scan_of_part (by omega) (htake ▸ hdecode) (by omega)

end HeaderFormat

end MeetingSystem.Framework
