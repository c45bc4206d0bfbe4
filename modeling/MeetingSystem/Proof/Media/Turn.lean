import MeetingSystem.Impl.Client.TurnClient

/-!
# TURN attributes

* `parseAttributes_message`: the parser finds the attributes that a message was
  built from;
* `parseAddressAttribute_value`: an address is read back from its attribute;
* `parseAttributes_isSome`, `parseDataIndication_isSome`: both parsers read
  inside the datagram, whatever it is;
* `parseDataIndication_relayed`: what one client sends through a relay, the
  other one finds in the Data indication.
-/

namespace MeetingSystem.Proof.Media

open MeetingSystem.Framework MeetingSystem.Impl.Client
open TurnClient hiding kHeaderSize kMagicCookie paddedLength attributesFrom parseAddressAttribute

variable {data : List UInt8}

/-! ## Reads -/

theorem parseAddressAttribute_value_isSome (value : List UInt8) (endpoint : StunEndpoint) :
    (TurnClient.parseAddressAttribute value endpoint).isSome = true := by
  unfold TurnClient.parseAddressAttribute
  split
  · rfl
  · rw [Checked.byte_eq (by omega), Checked.word16_eq (by omega), Checked.word32_eq (by omega)]
    dsimp only [Option.bind_eq_bind, Option.bind_some]
    split <;> rfl

theorem turnAttributesFrom_isSome {stop : Nat} (hstop : stop ≤ data.length) (offset : Nat)
    (attrs : Attributes) : (TurnClient.attributesFrom data stop offset attrs).isSome = true := by
  induction hleft : stop - offset using Nat.strong_induction_on generalizing offset attrs with
  | h left ih =>
    rw [TurnClient.attributesFrom]
    split
    · rfl
    · rename_i hend
      rw [Checked.word16_eq (by omega), Checked.word16_eq (by omega)]
      simp only [Option.bind_eq_bind, Option.bind_some]
      split
      · rfl
      · rename_i hfit
        rw [Checked.slice_eq (by omega), Option.bind_some]
        exact ih _ (by omega) _ _ rfl

/-- The parser reads inside the datagram. -/
theorem parseAttributes_isSome (datagram : List UInt8) :
    (parseAttributes datagram).isSome = true := by
  unfold parseAttributes
  split
  · rfl
  · rename_i hlen
    have hlen : 20 ≤ datagram.length := Nat.not_lt.mp hlen
    rw [Checked.word32_eq (by omega), Checked.word16_eq (by omega)]
    simp only [Option.bind_eq_bind, Option.bind_some]
    split
    · rfl
    · split
      · rfl
      · rename_i hfit
        obtain ⟨attrs, hattrs⟩ := Option.isSome_iff_exists.mp
          (turnAttributesFrom_isSome (Nat.not_lt.mp hfit) TurnClient.kHeaderSize ∅)
        rw [hattrs]
        rfl

/-- So does the one for Data indications. -/
theorem parseDataIndication_isSome (datagram : List UInt8) :
    (parseDataIndication datagram).isSome = true := by
  unfold parseDataIndication
  split
  · rfl
  · rename_i hlen
    have hlen : 20 ≤ datagram.length := Nat.not_lt.mp hlen
    obtain ⟨parsed, hparsed⟩ := Option.isSome_iff_exists.mp (parseAttributes_isSome datagram)
    rw [Checked.word16_eq (by omega), hparsed]
    simp only [Option.bind_eq_bind, Option.bind_some]
    split
    · rfl
    · cases parsed with
      | error error => rfl
      | ok attrs =>
        obtain ⟨⟨peer, valid⟩, hpeer⟩ := Option.isSome_iff_exists.mp
          (parseAddressAttribute_value_isSome ((attrs.lookup kAttrXorPeerAddress).getD [])
            { address := none, port := 0 })
        dsimp only
        rw [hpeer, Option.bind_some]
        dsimp only
        split <;> rfl

/-! ## Messages -/

/-- The message that is built of these attributes. -/
def turnMessage (messageType : UInt16) (transactionId : List UInt8)
    (attributes : List (UInt16 × List UInt8)) : List UInt8 :=
  attributes.foldl (fun packet x => appendAttribute packet x.1 x.2)
    (appendHeader [] messageType transactionId)

/-- The header of a message whose attributes take `length` bytes. -/
def turnHeader (messageType : UInt16) (length : Nat) (transactionId : List UInt8) : List UInt8 :=
  bigEndian16 messageType ++ bigEndian16 length.toUInt16 ++ bigEndian32 TurnClient.kMagicCookie ++
    transactionId

def encodeAttribute (x : UInt16 × List UInt8) : List UInt8 :=
  bigEndian16 x.1 ++ bigEndian16 x.2.length.toUInt16 ++
    (x.2 ++ List.replicate (TurnClient.paddedLength x.2.length - x.2.length) 0)

theorem length_encodeAttribute (x : UInt16 × List UInt8) :
    (encodeAttribute x).length = 4 + TurnClient.paddedLength x.2.length := by
  have hpadded : x.2.length ≤ TurnClient.paddedLength x.2.length := by
    rw [TurnClient.paddedLength]
    omega
  rw [encodeAttribute, List.length_append, List.length_append, List.length_append,
    List.length_replicate]
  show 4 + _ = _
  omega

variable {messageType : UInt16} {transactionId body : List UInt8}

theorem length_turnHeader (hid : transactionId.length = 12) (length : Nat) :
    (turnHeader messageType length transactionId).length = 20 := by
  rw [turnHeader, List.length_append, hid]
  rfl

/-- The length field is set to the length of what follows the header. -/
theorem updateLength_turnHeader (hid : transactionId.length = 12) (length : Nat) :
    updateLength (turnHeader messageType length transactionId ++ body) =
      turnHeader messageType body.length transactionId ++ body := by
  have hlength : (turnHeader messageType length transactionId ++ body).length =
      20 + body.length := by rw [List.length_append, length_turnHeader hid]
  have hsub : 20 + body.length - TurnClient.kHeaderSize = body.length := Nat.add_sub_cancel_left ..
  have hlong : ¬ 20 + body.length < TurnClient.kHeaderSize := Nat.not_lt.mpr (Nat.le_add_right 20 _)
  rw [updateLength, hlength, if_neg hlong, hsub]
  rfl

theorem appendAttribute_turnHeader (hid : transactionId.length = 12) (length : Nat)
    (x : UInt16 × List UInt8) :
    appendAttribute (turnHeader messageType length transactionId ++ body) x.1 x.2 =
      turnHeader messageType (body ++ encodeAttribute x).length transactionId ++
        (body ++ encodeAttribute x) := by
  rw [← updateLength_turnHeader hid length, appendAttribute, encodeAttribute]
  congr 1
  split
  · simp only [appendU16, List.append_assoc]
  · rename_i hpad
    have hzero : TurnClient.paddedLength x.2.length - x.2.length = 0 := by omega
    rw [hzero, List.replicate_zero, List.append_nil]
    simp only [appendU16, List.append_assoc]

theorem turnMessage_eq (hid : transactionId.length = 12)
    (attributes : List (UInt16 × List UInt8)) :
    turnMessage messageType transactionId attributes =
      turnHeader messageType (attributes.flatMap encodeAttribute).length transactionId ++
        attributes.flatMap encodeAttribute := by
  have hfold : ∀ body : List UInt8,
      attributes.foldl (fun packet x => appendAttribute packet x.1 x.2)
          (turnHeader messageType body.length transactionId ++ body) =
        turnHeader messageType (body ++ attributes.flatMap encodeAttribute).length transactionId ++
          (body ++ attributes.flatMap encodeAttribute) := by
    induction attributes with
    | nil =>
      intro body
      rw [List.flatMap_nil, List.append_nil]
      rfl
    | cons x attributes ih =>
      intro body
      rw [List.foldl_cons, appendAttribute_turnHeader hid, ih, List.flatMap_cons,
        List.append_assoc]
  have hstart : appendHeader [] messageType transactionId =
      turnHeader messageType ([] : List UInt8).length transactionId ++ [] :=
    (List.append_nil _).symm
  rw [turnMessage, hstart, hfold, List.nil_append]

/-! ## The attributes of a message -/

/-- The loop takes one attribute. -/
theorem attributesFrom_attribute {stop offset : Nat} {x : UInt16 × List UInt8}
    {rest : List UInt8} (hx : x.2.length < 2 ^ 16) (hstop : stop ≤ data.length)
    (hdrop : data.drop offset = encodeAttribute x ++ rest)
    (hfit : offset + (encodeAttribute x).length ≤ stop) (attrs : Attributes) :
    TurnClient.attributesFrom data stop offset attrs =
      TurnClient.attributesFrom data stop (offset + (encodeAttribute x).length)
        (attrs.insert x.1 x.2) := by
  have htype : Checked.word16 data offset = some x.1 := by
    apply Checked.word16_of_drop
    rw [hdrop, encodeAttribute, List.append_assoc, List.append_assoc]
    rfl
  have hlength : Checked.word16 data (offset + 2) = some x.2.length.toUInt16 := by
    apply Checked.word16_of_drop
    rw [← List.drop_drop, hdrop, encodeAttribute, List.append_assoc, List.append_assoc]
    rfl
  have hlt : x.2.length.toUInt16.toNat = x.2.length := UInt16.toNat_ofNat_of_lt' hx
  have hpadded := length_encodeAttribute x
  have hle : x.2.length ≤ TurnClient.paddedLength x.2.length := by
    rw [TurnClient.paddedLength]
    omega
  have hvalue : Checked.slice data (offset + 4) x.2.length = some x.2 := by
    apply Checked.slice_of_drop (by omega)
    rw [← List.drop_drop, hdrop, encodeAttribute, List.append_assoc, List.append_assoc,
      List.append_assoc]
    rfl
  rw [TurnClient.attributesFrom, if_neg (by omega), htype, hlength]
  simp only [Option.bind_eq_bind, Option.bind_some, hlt]
  rw [if_neg (by omega), hvalue, Option.bind_some, hpadded, Nat.add_assoc]

theorem attributesFrom_attributes {attributes : List (UInt16 × List UInt8)} {offset : Nat}
    (hshort : ∀ x ∈ attributes, x.2.length < 2 ^ 16) (hoffset : offset ≤ data.length)
    (hdrop : data.drop offset = attributes.flatMap encodeAttribute) (attrs : Attributes) :
    TurnClient.attributesFrom data data.length offset attrs =
      some (attributes.foldl (fun attrs x => attrs.insert x.1 x.2) attrs) := by
  have hlength : data.length - offset = (attributes.flatMap encodeAttribute).length := by
    rw [← List.length_drop, hdrop]
  induction attributes generalizing offset attrs with
  | nil =>
    rw [List.flatMap_nil, List.length_nil] at hlength
    rw [TurnClient.attributesFrom, if_pos (by omega)]
    rfl
  | cons x attributes ih =>
    obtain ⟨hx, hshort⟩ := List.forall_mem_cons.mp hshort
    rw [List.flatMap_cons] at hdrop
    rw [List.flatMap_cons, List.length_append] at hlength
    have hnext : data.drop (offset + (encodeAttribute x).length) =
        attributes.flatMap encodeAttribute := by
      rw [← List.drop_drop, hdrop, List.drop_left]
    rw [attributesFrom_attribute hx (Nat.le_refl _) hdrop (by omega)]
    exact ih hshort (by omega) hnext _ (by omega)

/-- The parser finds the attributes that a message was built from. -/
theorem parseAttributes_message {attributes : List (UInt16 × List UInt8)}
    (hid : transactionId.length = 12)
    (hsize : (turnMessage messageType transactionId attributes).length ≤
      TurnClient.kHeaderSize + 65535) :
    parseAttributes (turnMessage messageType transactionId attributes) =
      some (.ok (attributes.foldl (fun attrs x => attrs.insert x.1 x.2) ∅)) := by
  rw [turnMessage_eq hid, List.length_append, length_turnHeader hid] at hsize
  rw [turnMessage_eq hid]
  have hbody : (attributes.flatMap encodeAttribute).length ≤ 65535 :=
    Nat.le_of_add_le_add_left hsize
  have hshort : ∀ x ∈ attributes, x.2.length < 2 ^ 16 := by
    intro x hx
    have hle : (encodeAttribute x).length ≤ (attributes.flatMap encodeAttribute).length :=
      (List.sublist_flatten_of_mem (List.mem_map_of_mem hx)).length_le
    have hpadded := length_encodeAttribute x
    rw [TurnClient.paddedLength] at hpadded
    omega
  generalize hencoded : attributes.flatMap encodeAttribute = body at hbody
  have hlength : (turnHeader messageType body.length transactionId ++ body).length =
      20 + body.length := by rw [List.length_append, length_turnHeader hid]
  have hdrop : (turnHeader messageType body.length transactionId ++ body).drop 20 =
      attributes.flatMap encodeAttribute := by
    rw [hencoded, ← length_turnHeader hid body.length]
    exact List.drop_left
  have hcookie : Checked.word32 (turnHeader messageType body.length transactionId ++ body) 4 =
      some TurnClient.kMagicCookie := Checked.word32_of_drop rfl
  have hfield : Checked.word16 (turnHeader messageType body.length transactionId ++ body) 2 =
      some body.length.toUInt16 := Checked.word16_of_drop rfl
  have hlt : body.length.toUInt16.toNat = body.length := UInt16.toNat_ofNat_of_lt' (by
    show body.length < 2 ^ 16
    omega)
  generalize turnHeader messageType body.length transactionId ++ body = data at *
  have hheader : TurnClient.kHeaderSize = 20 := rfl
  have hattrs := attributesFrom_attributes hshort (by omega) hdrop ∅
  rw [hlength] at hattrs
  rw [parseAttributes, hcookie, hfield, hheader]
  simp only [Option.bind_eq_bind, Option.bind_some, hlt, hlength]
  rw [if_neg (by omega), if_neg (by simp), if_neg (by omega), hattrs]
  rfl

/-! ## Addresses -/

theorem parseAddressAttribute_value {port : UInt16} (hport : port ≠ 0) (address : UInt32)
    (endpoint : StunEndpoint) :
    TurnClient.parseAddressAttribute (addressAttributeValue (some address) port) endpoint =
      some ({ address := some address, port }, true) := by
  have hvalid : StunEndpoint.isValid { address := some address, port } = true := by
    simp [StunEndpoint.isValid, hport]
  rw [addressAttributeValue, if_neg hport]
  generalize hxport : port ^^^ (TurnClient.kMagicCookie >>> 16).toUInt16 = xport
  generalize hxaddress : address ^^^ TurnClient.kMagicCookie = xaddress
  have hportBack : xport ^^^ (TurnClient.kMagicCookie >>> 16).toUInt16 = port := by
    rw [← hxport, UInt16.xor_assoc, UInt16.xor_self, UInt16.xor_zero]
  have haddressBack : xaddress ^^^ TurnClient.kMagicCookie = address := by
    rw [← hxaddress, UInt32.xor_assoc, UInt32.xor_self, UInt32.xor_zero]
  generalize hvalue : 0 :: 0x01 :: bigEndian16 xport ++ bigEndian32 xaddress = value
  have hlong : ¬ value.length < 8 := by
    rw [← hvalue]
    exact Nat.lt_irrefl 8
  have hfamily : Checked.byte value 1 = some 0x01 := by
    rw [← hvalue]
    rfl
  have hport16 : Checked.word16 value 2 = some xport := by
    rw [← hvalue]
    exact Checked.word16_of_drop rfl
  have haddress32 : Checked.word32 value 4 = some xaddress := by
    rw [← hvalue]
    exact Checked.word32_of_drop rfl
  rw [TurnClient.parseAddressAttribute, if_neg hlong, hfamily, hport16, haddress32]
  simp only [Option.bind_eq_bind, Option.bind_some, ne_eq, not_true_eq_false, if_false,
    hportBack, haddressBack, hvalid]

/-! ## Indications -/

/-- The attributes of an indication. -/
def indicationAttributes (address : UInt32) (port : UInt16) (payload : List UInt8) :
    List (UInt16 × List UInt8) :=
  [(kAttrXorPeerAddress, addressAttributeValue (some address) port), (kAttrData, payload)]

theorem buildSendIndication_eq (transactionId : List UInt8) (address : UInt32) {port : UInt16}
    (hport : port ≠ 0) {payload : List UInt8} (hpayload : payload ≠ []) :
    buildSendIndication transactionId (some address) port payload =
      turnMessage kSendIndication transactionId (indicationAttributes address port payload) := by
  rw [buildSendIndication, if_neg (by simp [hport, hpayload])]
  rfl

/-- A Data indication with the attributes of a Send indication gives the peer and
the payload. -/
theorem parseDataIndication_relayed (hid : transactionId.length = 12) (address : UInt32)
    {port : UInt16} (hport : port ≠ 0) {payload : List UInt8}
    (hsize : (turnMessage kDataIndication transactionId
      (indicationAttributes address port payload)).length ≤ TurnClient.kHeaderSize + 65535) :
    parseDataIndication
        (turnMessage kDataIndication transactionId (indicationAttributes address port payload)) =
      some (.ok ({ address := some address, port }, payload)) := by
  have hparsed := parseAttributes_message hid hsize
  have hmessage : turnMessage kDataIndication transactionId
      (indicationAttributes address port payload) =
        turnHeader kDataIndication _ transactionId ++ _ := turnMessage_eq hid _
  have hlong : ¬ (turnMessage kDataIndication transactionId
      (indicationAttributes address port payload)).length < TurnClient.kHeaderSize := by
    rw [hmessage, List.length_append, length_turnHeader hid]
    exact Nat.not_lt.mpr (Nat.le_add_right 20 _)
  have htype : Checked.word16 (turnMessage kDataIndication transactionId
      (indicationAttributes address port payload)) 0 = some kDataIndication := by
    rw [hmessage]
    exact Checked.word16_of_drop rfl
  rw [parseDataIndication, if_neg hlong, htype, hparsed]
  simp only [Option.bind_eq_bind, Option.bind_some, ne_eq, not_true_eq_false, if_false]
  generalize hattrs : (indicationAttributes address port payload).foldl
    (fun attrs x => attrs.insert x.1 x.2) (∅ : Attributes) = attrs
  have hdistinct : ((indicationAttributes address port payload).map Prod.fst).Nodup := by
    show [kAttrXorPeerAddress, kAttrData].Nodup
    decide
  have hlookup : ∀ type value, attrs.lookup type = some value ↔
      (type, value) ∈ indicationAttributes address port payload := by
    intro type value
    rw [← hattrs, lookup_foldl_insert hdistinct, AList.lookup_empty]
    simp
  have hpeer : attrs.lookup kAttrXorPeerAddress =
      some (addressAttributeValue (some address) port) :=
    (hlookup _ _).mpr List.mem_cons_self
  have hdata : attrs.lookup kAttrData = some payload :=
    (hlookup _ _).mpr (List.mem_cons_of_mem _ List.mem_cons_self)
  rw [hpeer, hdata, Option.getD_some, parseAddressAttribute_value hport, Option.bind_some]
  dsimp only
  rw [if_neg (by simp [mem_of_lookup hdata])]
  rfl

/-- The attributes of a message, an address, and the reads of the parsers. -/
theorem turn_codec :
    (∀ (messageType : UInt16) (transactionId : List UInt8)
        (attributes : List (UInt16 × List UInt8)),
      transactionId.length = 12 → (attributes.map Prod.fst).Nodup →
      (turnMessage messageType transactionId attributes).length ≤ TurnClient.kHeaderSize + 65535 →
        ∃ attrs, parseAttributes (turnMessage messageType transactionId attributes) =
            some (.ok attrs) ∧
          ∀ type value, attrs.lookup type = some value ↔ (type, value) ∈ attributes) ∧
    (∀ (address : UInt32) (port : UInt16) (endpoint : StunEndpoint),
      StunEndpoint.isValid { address := some address, port } = true →
        TurnClient.parseAddressAttribute (addressAttributeValue (some address) port) endpoint =
          some ({ address := some address, port }, true)) ∧
    (∀ datagram : List UInt8, (parseAttributes datagram).isSome = true ∧
      (parseDataIndication datagram).isSome = true) ∧
    ∀ (value : List UInt8) (endpoint : StunEndpoint),
      (TurnClient.parseAddressAttribute value endpoint).isSome = true := by
  refine ⟨fun messageType transactionId attributes hid hnodup hsize => ?_,
    fun address port endpoint hvalid => ?_,
    fun datagram => ⟨parseAttributes_isSome datagram, parseDataIndication_isSome datagram⟩,
    parseAddressAttribute_value_isSome⟩
  · refine ⟨_, parseAttributes_message hid hsize, fun type value => ?_⟩
    rw [lookup_foldl_insert hnodup, AList.lookup_empty]
    simp
  · have hport : port ≠ 0 := by
      simpa [StunEndpoint.isValid] using hvalid
    exact parseAddressAttribute_value hport address endpoint

/-- A nonce of three bytes, an empty realm, and the address of a peer. -/
theorem turn_codec_allocate :
    (∃ attrs, parseAttributes
        (turnMessage 0x0113 [1, 2, 3, 4, 5, 6, 7, 8, 9, 10, 11, 12]
          [(0x0015, [97, 98, 99]), (0x0014, [])]) = some (.ok attrs) ∧
      ∀ type value, attrs.lookup type = some value ↔
        (type, value) ∈ ([(0x0015, [97, 98, 99]), (0x0014, [])] : List (UInt16 × List UInt8))) ∧
    TurnClient.parseAddressAttribute (addressAttributeValue (some 0xCB007109) 49152)
        { address := none, port := 0 } =
      some ({ address := some 0xCB007109, port := 49152 }, true) :=
  ⟨turn_codec.1 0x0113 [1, 2, 3, 4, 5, 6, 7, 8, 9, 10, 11, 12]
    [(0x0015, [97, 98, 99]), (0x0014, [])] (by decide) (by decide) (by decide),
    turn_codec.2.1 0xCB007109 49152 { address := none, port := 0 } (by decide)⟩

end MeetingSystem.Proof.Media
