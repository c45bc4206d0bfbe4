import MeetingSystem.Impl.Client.StunClient
import MeetingSystem.Impl.Sfu.StunReads
import MeetingSystem.Proof.Media.RtcpCodec

/-!
# STUN between the SFU and the client

* `readStunUsername_eq`, `parseBindingResponse_isSome`: both parsers read inside
  the datagram, whatever it is;
* `parseStunUsername_encode`: the attribute loop of the SFU on a message;
* `parseBindingResponse_response`: the client reads back the endpoint that the
  SFU has written into its response.
-/

namespace MeetingSystem.Proof.Media

open MeetingSystem.Framework MeetingSystem.Impl.Client MeetingSystem.Impl.Sfu
open MediaIngress (isStunPacket stringOfBytes usernameFrom parseStunUsername
  buildStunBindingResponse readIsStunPacket readUsernameFrom readStunUsername)
open StunClient (parseAddressAttribute attributesFrom parseBindingResponse)

variable {data : List UInt8}

theorem word16_eq {i : Nat} (h : i + 2 ≤ data.length) :
    Checked.word16 data i = some (readU16 data i) :=
  Checked.word16_eq h

theorem word32_eq {i : Nat} (h : i + 4 ≤ data.length) :
    Checked.word32 data i = some (readU32 data i) :=
  Checked.word32_eq h

/-! ## Reads of the SFU -/

theorem readIsStunPacket_eq (data : List UInt8) :
    readIsStunPacket data = some (isStunPacket data) := by
  unfold readIsStunPacket isStunPacket
  by_cases hlen : data.length < 20
  · rw [if_pos hlen]
    simp [hlen]
  · rw [if_neg hlen, Checked.byte_eq (by omega), Checked.byte_eq (by omega),
      Checked.byte_eq (by omega), Checked.byte_eq (by omega), Checked.byte_eq (by omega)]
    have hlong : 20 ≤ data.length := Nat.not_lt.mp hlen
    simp only [Option.bind_eq_bind, Option.bind_some]
    by_cases htop : data.getD 0 0 &&& 0xC0 = 0
    · simp only [htop, hlong, ne_eq, not_true_eq_false, if_false, true_and]
    · simp only [htop, ne_eq, not_false_eq_true, if_true, false_and, and_false, decide_false]

theorem readUsernameFrom_eq {stop : Nat} (hstop : stop ≤ data.length) (offset : Nat) :
    readUsernameFrom data stop offset = some (usernameFrom data stop offset) := by
  induction offset using MediaIngress.usernameFrom.induct data stop with
  | case1 offset hend => rw [readUsernameFrom, usernameFrom, if_pos hend, if_pos hend]
  | case2 offset hend attrLength hlong =>
    rw [readUsernameFrom, usernameFrom, if_neg hend, if_neg hend,
      word16_eq (by omega), word16_eq (by omega)]
    dsimp only
    rw [if_pos hlong]
    exact if_pos hlong
  | case3 offset hend attrType attrLength hlong htype =>
    have hslice := @Checked.slice_eq data (offset + 4) attrLength (by omega)
    rw [readUsernameFrom, usernameFrom, if_neg hend, if_neg hend,
      word16_eq (by omega), word16_eq (by omega)]
    dsimp only
    rw [if_neg hlong, if_pos htype]
    refine (if_neg hlong).trans ((if_pos htype).trans ?_)
    exact congrArg (Option.map stringOfBytes) hslice
  | case4 offset hend attrType attrLength hlong htype ih =>
    rw [readUsernameFrom, usernameFrom, if_neg hend, if_neg hend,
      word16_eq (by omega), word16_eq (by omega)]
    dsimp only
    rw [if_neg hlong, if_neg htype, ← ih]
    exact (if_neg hlong).trans (if_neg htype)

/-- The parser reads inside the datagram. -/
theorem readStunUsername_eq (data : List UInt8) :
    readStunUsername data = some (parseStunUsername data) := by
  rw [readStunUsername, readIsStunPacket_eq, parseStunUsername]
  by_cases hstun : isStunPacket data = true
  · have hlen : 20 ≤ data.length := (of_decide_eq_true hstun).1
    rw [hstun]
    dsimp only [Option.bind_eq_bind, Option.bind_some]
    rw [word16_eq (by omega)]
    dsimp only [Option.bind_some]
    by_cases hshort : data.length < 20 + (readU16 data 2).toNat
    · rw [if_pos hshort, if_pos hshort]
      rfl
    · rw [if_neg hshort, if_neg hshort]
      exact readUsernameFrom_eq (Nat.not_lt.mp hshort) 20
  · rw [Bool.eq_false_iff.mpr hstun]
    rfl

/-! ## Reads of the client -/

theorem parseAddressAttribute_isSome (attrType : UInt16) {value length : Nat}
    (hfit : value + length ≤ data.length) :
    (parseAddressAttribute data attrType value length).isSome = true := by
  unfold parseAddressAttribute
  split
  · rfl
  · rw [Checked.byte_eq (by omega), word16_eq (by omega), word32_eq (by omega)]
    dsimp only [Option.bind_eq_bind, Option.bind_some]
    split
    · rfl
    · rfl

theorem attributesFrom_isSome {stop : Nat} (hstop : stop ≤ data.length) (offset : Nat)
    (fallback : StunEndpoint) : (attributesFrom data stop offset fallback).isSome = true := by
  induction hleft : stop - offset using Nat.strong_induction_on generalizing offset fallback with
  | h left ih =>
    rw [attributesFrom]
    split
    · rfl
    · rename_i hend
      rw [word16_eq (by omega), word16_eq (by omega)]
      simp only [Option.bind_eq_bind, Option.bind_some]
      split
      · rfl
      · rename_i hfit
        have hnext : ∀ parsed : Option StunEndpoint,
            (if readU16 data offset = StunClient.kAttrXorMappedAddress ∧ parsed.isSome = true then
              some parsed
            else
              attributesFrom data stop
                (offset + 4 + StunClient.paddedLength (readU16 data (offset + 2)).toNat)
                (parsed.getD fallback)).isSome = true := by
          intro parsed
          split
          · rfl
          · exact ih _ (by omega) _ _ rfl
        split
        · obtain ⟨parsed, hparsed⟩ := Option.isSome_iff_exists.mp
            (parseAddressAttribute_isSome (readU16 data offset)
              (Nat.le_trans (Nat.not_lt.mp hfit) hstop))
          rw [hparsed]
          exact hnext parsed
        · exact hnext none

/-- The parser reads inside the datagram. -/
theorem parseBindingResponse_isSome (datagram expectedTransactionId : List UInt8) :
    (parseBindingResponse datagram expectedTransactionId).isSome = true := by
  unfold parseBindingResponse
  split
  · rfl
  · rename_i hlen
    have hlen : 20 ≤ datagram.length := Nat.not_lt.mp (not_or.mp hlen).1
    rw [word16_eq (by omega), word16_eq (by omega), word32_eq (by omega),
      Checked.slice_eq (by omega)]
    simp only [Option.bind_eq_bind, Option.bind_some]
    split
    · rfl
    · split
      · rfl
      · split
        · rfl
        · rename_i hfit
          obtain ⟨mapped, hmapped⟩ := Option.isSome_iff_exists.mp
            (attributesFrom_isSome (Nat.not_lt.mp hfit) StunClient.kHeaderSize
              { address := none, port := 0 })
          rw [hmapped, Option.bind_some]
          cases mapped <;> rfl

/-! ## Messages -/

/-- An attribute with the bytes that pad it to a multiple of four. -/
structure StunAttribute where
  type : UInt16
  value : Bytes
  padding : Bytes
  length_lt : value.length < 2 ^ 16
  padding_lt : padding.length < 4
  aligned : (value.length + padding.length) % 4 = 0

def StunAttribute.encode (a : StunAttribute) : Bytes :=
  writeBE16 a.type ++ writeBE16 a.value.length.toUInt16 ++ (a.value ++ a.padding)

/-- A message whose length fits in its header. -/
structure StunMessage where
  type : UInt16
  transactionId : Bytes
  attributes : List StunAttribute
  type_lt : type.toNat < 2 ^ 14
  length_transactionId : transactionId.length = 12
  length_lt : (attributes.flatMap StunAttribute.encode).length < 2 ^ 16

namespace StunMessage

def body (m : StunMessage) : Bytes := m.attributes.flatMap StunAttribute.encode

def encode (m : StunMessage) : Bytes :=
  writeBE16 m.type ++ writeBE16 m.body.length.toUInt16 ++ [0x21, 0x12, 0xA4, 0x42] ++
    m.transactionId ++ m.body

/-- The value of the first `USERNAME` attribute. -/
def username (m : StunMessage) : String :=
  ((m.attributes.find? fun a => a.type = 0x0006).map fun a => stringOfBytes a.value).getD ""

end StunMessage

theorem StunAttribute.length_encode (a : StunAttribute) :
    a.encode.length = 4 + (a.value.length + 3) / 4 * 4 := by
  have hlt := a.padding_lt
  have haligned := a.aligned
  have hsum : (a.value ++ a.padding).length = a.value.length + a.padding.length :=
    List.length_append
  rw [encode, List.length_append, hsum]
  show 4 + _ = _
  omega

/-- The loop takes one attribute. -/
theorem usernameFrom_attribute {stop offset : Nat} {a : StunAttribute} {rest : Bytes}
    (hdrop : data.drop offset = a.encode ++ rest) (hstop : offset + a.encode.length ≤ stop) :
    usernameFrom data stop offset =
      if a.type = 0x0006 then stringOfBytes a.value
      else usernameFrom data stop (offset + a.encode.length) := by
  have htype : readU16 data offset = a.type := by
    apply readU16_of_drop
    rw [hdrop, StunAttribute.encode, List.append_assoc, List.append_assoc]
  have hafter : data.drop (offset + 4) = a.value ++ (a.padding ++ rest) := by
    rw [← List.drop_drop, hdrop]
    simp only [StunAttribute.encode, writeBE16, List.append_assoc]
    rfl
  have hlength : (readU16 data (offset + 2)).toNat = a.value.length := by
    have h : readU16 data (offset + 2) = a.value.length.toUInt16 := by
      apply readU16_of_drop
      rw [← List.drop_drop, hdrop, StunAttribute.encode, List.append_assoc, List.append_assoc]
      rfl
    rw [h]
    exact UInt16.toNat_ofNat_of_lt' a.length_lt
  have hpadded := a.length_encode
  rw [usernameFrom, if_neg (by omega)]
  dsimp only
  rw [htype, hlength, if_neg (by omega), hafter, List.take_left, hpadded, Nat.add_assoc]

theorem usernameFrom_attributes {attributes : List StunAttribute} {offset : Nat}
    (hdrop : data.drop offset = attributes.flatMap StunAttribute.encode) :
    usernameFrom data (offset + (attributes.flatMap StunAttribute.encode).length) offset =
      ((attributes.find? fun a => a.type = 0x0006).map fun a => stringOfBytes a.value).getD "" := by
  induction attributes generalizing offset with
  | nil => rw [usernameFrom, if_pos (by simp)]; rfl
  | cons a attributes ih =>
    rw [List.flatMap_cons, List.length_append] at *
    rw [usernameFrom_attribute hdrop (by omega)]
    by_cases htype : a.type = 0x0006
    · rw [if_pos htype, List.find?_cons_of_pos (by simpa using htype)]
      rfl
    · have hnext : data.drop (offset + a.encode.length) =
          attributes.flatMap StunAttribute.encode := by
        rw [← List.drop_drop, hdrop, List.drop_left]
      rw [if_neg htype, List.find?_cons_of_neg (by simpa using htype), ← ih hnext, Nat.add_assoc]

theorem StunMessage.length_encode (m : StunMessage) : m.encode.length = 20 + m.body.length := by
  rw [encode, List.length_append, List.length_append, m.length_transactionId]
  rfl

theorem StunMessage.drop_encode (m : StunMessage) : m.encode.drop 20 = m.body := by
  have hhead : (writeBE16 m.type ++ writeBE16 m.body.length.toUInt16 ++
      [0x21, 0x12, 0xA4, 0x42] ++ m.transactionId).length = 20 := by
    rw [List.length_append, m.length_transactionId]
    rfl
  rw [encode, List.drop_append_of_le_length (by rw [hhead]), List.drop_eq_nil_of_le (by rw [hhead]),
    List.nil_append]

theorem isStunPacket_encode (m : StunMessage) : isStunPacket m.encode = true := by
  have htop : (m.type >>> 8).toUInt8 &&& 0xC0 = 0 := by
    have hall : ∀ i : Fin 64, UInt8.ofNat i.val &&& 0xC0 = 0 := by decide
    have hlt := m.type_lt
    have hbyte : (m.type >>> 8).toUInt8.toNat = m.type.toNat / 2 ^ 8 := by
      rw [UInt16.toNat_toUInt8, UInt16.toNat_shiftRight, Nat.shiftRight_eq_div_pow]
      show m.type.toNat / 2 ^ 8 % 2 ^ 8 = _
      omega
    have h := hall ⟨(m.type >>> 8).toUInt8.toNat, by omega⟩
    rwa [UInt8.ofNat_toNat] at h
  have hlen := m.length_encode
  apply decide_eq_true
  refine ⟨by omega, ?_, rfl, rfl, rfl, rfl⟩
  rw [← htop, ← toUInt8_and16]
  rfl

/-- The parser finds the first `USERNAME` of a message. -/
theorem parseStunUsername_encode (m : StunMessage) : parseStunUsername m.encode = m.username := by
  have hlength : (readU16 m.encode 2).toNat = m.body.length := by
    have h : readU16 m.encode 2 = m.body.length.toUInt16 := by
      apply readU16_of_drop
      rw [StunMessage.encode, List.append_assoc, List.append_assoc, List.append_assoc]
      rfl
    rw [h]
    exact UInt16.toNat_ofNat_of_lt' m.length_lt
  rw [parseStunUsername, if_neg (not_not.mpr (isStunPacket_encode m))]
  dsimp only
  rw [hlength, m.length_encode, if_neg (Nat.lt_irrefl _)]
  exact usernameFrom_attributes m.drop_encode

/-! ## The response -/

/-- The datagram of a response, with its transaction id. -/
def responseBytes (id : Bytes) (xport : UInt16) (address : UInt32) : Bytes :=
  ([0x01, 0x01, 0x00, 0x0C, 0x21, 0x12, 0xA4, 0x42] : Bytes) ++ id ++
    ([0x00, 0x20, 0x00, 0x08, 0x00, 0x01, (xport >>> 8).toUInt8, xport.toUInt8] : Bytes) ++
    u32Bytes address

/-- What the parser reads in a response. -/
theorem responseBytes_reads {id : Bytes} (hid : id.length = 12) (xport : UInt16)
    (address : UInt32) :
    let d := responseBytes id xport address
    d.length = 32 ∧ Checked.word16 d 0 = some StunClient.kStunBindingSuccess ∧
      Checked.word16 d 2 = some 12 ∧ Checked.word32 d 4 = some StunClient.kMagicCookie ∧
      Checked.slice d 8 12 = some id ∧
      Checked.word16 d 20 = some StunClient.kAttrXorMappedAddress ∧
      Checked.word16 d 22 = some 8 ∧ Checked.byte d 25 = some 0x01 ∧
      Checked.word16 d 26 = some xport ∧ Checked.word32 d 28 = some address := by
  match id, hid with
  | [t0, t1, t2, t3, t4, t5, t6, t7, t8, t9, t10, t11], _ =>
    exact ⟨rfl, rfl, rfl, rfl, rfl, rfl, rfl, rfl, congrArg some (join16_bytes xport),
      congrArg some (join32_bytes address)⟩

/-- The address attribute of a response. -/
theorem parseAddressAttribute_response {id : Bytes} (hid : id.length = 12) {port : UInt16}
    (hport : port ≠ 0) (address : UInt32) :
    parseAddressAttribute (responseBytes id (port ^^^ 0x2112) (address ^^^ 0x2112A442))
        StunClient.kAttrXorMappedAddress 24 8 =
      some (some { address := some address, port }) := by
  obtain ⟨-, -, -, -, -, -, -, hfamily, hxport, haddress⟩ :=
    responseBytes_reads hid (port ^^^ 0x2112) (address ^^^ 0x2112A442)
  have hcookie : (StunClient.kMagicCookie >>> 16).toUInt16 = 0x2112 := by decide
  have hport16 : port ^^^ (0x2112 : UInt16) ^^^ (StunClient.kMagicCookie >>> 16).toUInt16 = port := by
    rw [hcookie, UInt16.xor_assoc, UInt16.xor_self, UInt16.xor_zero]
  have haddress32 : address ^^^ 0x2112A442 ^^^ StunClient.kMagicCookie = address := by
    rw [StunClient.kMagicCookie, UInt32.xor_assoc, UInt32.xor_self, UInt32.xor_zero]
  have hvalid : StunEndpoint.isValid { address := some address, port } = true := by
    simp [StunEndpoint.isValid, hport]
  unfold parseAddressAttribute
  rw [if_neg (by decide), hfamily, hxport, haddress]
  simp only [Option.bind_eq_bind, Option.bind_some, ne_eq, not_true_eq_false, if_false, if_true,
    hport16, haddress32, hvalid]

/-- The client reads back the endpoint that the SFU has written. -/
theorem parseBindingResponse_response {request : Bytes} {peer : Endpoint}
    (hstun : isStunPacket request = true) (hport : peer.port ≠ 0) :
    parseBindingResponse (buildStunBindingResponse request peer) ((request.drop 8).take 12) =
      some (.ok { address := some peer.addr, port := peer.port }) := by
  have hid : ((request.drop 8).take 12).length = 12 := by
    have hlen : 20 ≤ request.length := (of_decide_eq_true hstun).1
    rw [List.length_take, List.length_drop]
    omega
  have hmapped := parseAddressAttribute_response hid hport peer.addr
  obtain ⟨hlength, htype, hbody, hcookie, hslice, hattr, hsize, -⟩ :=
    responseBytes_reads hid (peer.port ^^^ 0x2112) (peer.addr ^^^ 0x2112A442)
  rw [buildStunBindingResponse, if_neg (not_not.mpr hstun)]
  show parseBindingResponse (responseBytes ((request.drop 8).take 12) (peer.port ^^^ 0x2112)
    (peer.addr ^^^ 0x2112A442)) _ = _
  generalize (request.drop 8).take 12 = id at *
  have hfound : attributesFrom (responseBytes id (peer.port ^^^ 0x2112)
      (peer.addr ^^^ 0x2112A442)) 32 20 { address := none, port := 0 } =
      some (some { address := some peer.addr, port := peer.port }) := by
    rw [attributesFrom, if_neg (by decide), hattr, hsize]
    show Option.bind (parseAddressAttribute _ StunClient.kAttrXorMappedAddress 24 8) _ = _
    rw [hmapped]
    rfl
  unfold parseBindingResponse
  rw [if_neg (by rw [hlength, hid]; decide), htype, hcookie, hslice, hbody]
  simp only [Option.bind_eq_bind, Option.bind_some, ne_eq, not_true_eq_false, or_self, if_false]
  rw [if_neg (by rw [hlength]; decide)]
  show Option.bind (attributesFrom _ 32 20 _) _ = _
  rw [hfound]
  rfl

/-- The response, the `USERNAME` of a message, and the reads of both parsers. -/
theorem stun_parsers :
    (∀ (request : Bytes) (peer : Endpoint), isStunPacket request = true → peer.port ≠ 0 →
      parseBindingResponse (buildStunBindingResponse request peer) ((request.drop 8).take 12) =
        some (.ok { address := some peer.addr, port := peer.port })) ∧
    (∀ m : StunMessage, parseStunUsername m.encode = m.username) ∧
    (∀ data : Bytes, readStunUsername data = some (parseStunUsername data)) ∧
    ∀ datagram id : Bytes, (parseBindingResponse datagram id).isSome = true :=
  ⟨fun _ _ hstun hport => parseBindingResponse_response hstun hport, parseStunUsername_encode,
    readStunUsername_eq, parseBindingResponse_isSome⟩

/-- A request with an attribute of three bytes, which are padded, before its `USERNAME`. -/
def usernameRequest : StunMessage where
  type := 1
  transactionId := [1, 2, 3, 4, 5, 6, 7, 8, 9, 10, 11, 12]
  attributes :=
    [{ type := 0x8022, value := [0x61, 0x62, 0x63], padding := [0]
       length_lt := by decide, padding_lt := by decide, aligned := by decide },
      { type := 0x0006, value := [0x6D, 0x3A, 0x75, 0x31], padding := []
        length_lt := by decide, padding_lt := by decide, aligned := by decide }]
  type_lt := by decide
  length_transactionId := rfl
  length_lt := by decide

/-- A binding request from port 49152, and the `USERNAME` of the request above. -/
theorem stun_parsers_request :
    parseBindingResponse
        (buildStunBindingResponse
          [0, 1, 0, 0, 0x21, 0x12, 0xA4, 0x42, 1, 2, 3, 4, 5, 6, 7, 8, 9, 10, 11, 12]
          { a := 203, b := 0, c := 113, d := 9, port := 49152 })
        [1, 2, 3, 4, 5, 6, 7, 8, 9, 10, 11, 12] =
      some (.ok { address := some 0xCB007109, port := 49152 }) ∧
    parseStunUsername usernameRequest.encode = "m:u1" :=
  ⟨stun_parsers.1 [0, 1, 0, 0, 0x21, 0x12, 0xA4, 0x42, 1, 2, 3, 4, 5, 6, 7, 8, 9, 10, 11, 12]
      { a := 203, b := 0, c := 113, d := 9, port := 49152 } (by decide) (by decide),
    (stun_parsers.2.1 usernameRequest).trans (by decide +kernel)⟩

end MeetingSystem.Proof.Media
