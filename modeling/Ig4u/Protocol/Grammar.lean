import Ig4u.Protocol.Frame

/-!
# The grammar of frames

What the decoder accepts: the buffers that start with a valid frame. A buffer is
*well formed* if it has the sync header, a length field in range, all the bytes
this announces, and the CRC of what precedes it (`WellFormed`).

* `wellFormed_iff`: these are the buffers that start with the bytes of a valid frame.
* `decodeTMIn_window`: the decoder reads no byte it was not given. This is a statement
  about the decoder with its reads made explicit (`decodeTMIn`).
* `decodeTM_grammar`: the decoder accepts exactly the well-formed buffers.
-/

namespace Ig4u.Proto

open Lib

/-! ## Well-formed buffers -/

/-- The length field of a buffer. -/
def lengthOf (b : List UInt8) : ℕ :=
  (word16 (b.getD offsetLength 0) (b.getD (offsetLength + 1) 0)).toNat

/-- The word of a buffer after the payload its length field announces. -/
def crcFieldOf (b : List UInt8) : UInt16 :=
  word16 (b.getD (offsetPayload + lengthOf b) 0) (b.getD (offsetPayload + lengthOf b + 1) 0)

/-- A buffer of which `n` bytes are given starts with a frame. -/
structure WellFormed (b : List UInt8) (n : ℕ) : Prop where
  overhead : packetOverheadBytes ≤ n
  sync : b.getD offsetHeader 0 = headerByte0 ∧ b.getD (offsetHeader + 1) 0 = headerByte1
  range : lengthOf b ≤ packetMaxPayload
  whole : packetOverheadBytes + lengthOf b ≤ n
  crc : crcFieldOf b = calcCRC16 (some b) (offsetPayload + lengthOf b)

variable {b : List UInt8} {n : ℕ}

instance : Decidable (WellFormed b n) :=
  decidable_of_iff (packetOverheadBytes ≤ n ∧
      (b.getD offsetHeader 0 = headerByte0 ∧ b.getD (offsetHeader + 1) 0 = headerByte1) ∧
      lengthOf b ≤ packetMaxPayload ∧ packetOverheadBytes + lengthOf b ≤ n ∧
      crcFieldOf b = calcCRC16 (some b) (offsetPayload + lengthOf b))
    ⟨fun ⟨h₁, h₂, h₃, h₄, h₅⟩ => ⟨h₁, h₂, h₃, h₄, h₅⟩,
      fun h => ⟨h.overhead, h.sync, h.range, h.whole, h.crc⟩⟩

/-- What the decoder writes through its output pointers for a well-formed buffer. -/
def tmOf (b : List UInt8) : TmOut :=
  ⟨b.getD offsetMsgtype 0, b.getD offsetMsgid 0, offsetPayload, UInt16.ofNat (lengthOf b)⟩

theorem tmOf_payloadLen (h : lengthOf b ≤ packetMaxPayload) :
    (tmOf b).payloadLen.toNat = lengthOf b := by
  simp only [packetMaxPayload] at h
  rw [tmOf, UInt16.toNat_ofNat', Nat.mod_eq_of_lt (by omega)]

/-- The decoder accepts well-formed buffers. -/
theorem decodeTM_wellFormed (h : WellFormed b n) (o : TmOut) :
    decodeTM (some b) n (some o) = (protoOk, some (tmOf b)) := by
  have hsync : ¬(b.getD offsetHeader 0 ≠ headerByte0 ∨ b.getD (offsetHeader + 1) 0 ≠ headerByte1) :=
    not_or.2 ⟨not_not.2 h.sync.1, not_not.2 h.sync.2⟩
  have hrange := h.range
  have hwhole := h.whole
  have hcrc := h.crc
  rw [crcFieldOf] at hcrc
  rw [lengthOf] at hrange hwhole hcrc
  simp only [decodeTM, if_neg (not_lt.2 h.overhead), if_neg hsync, if_neg (not_lt.2 hrange),
    if_neg (not_lt.2 hwhole), if_neg (not_not.2 hcrc), tmOf, lengthOf, UInt16.ofNat_toNat]

/-- The decoder rejects all the other buffers, and writes nothing. -/
theorem decodeTM_not_wellFormed (h : ¬WellFormed b n) (o : TmOut) :
    ∃ code < 0, decodeTM (some b) n (some o) = (code, some o) := by
  simp only [decodeTM]
  split_ifs with hover hsync hrange hwhole hcrc
  · exact ⟨protoErrBadLength, by decide, rfl⟩
  · exact ⟨protoErrBadHeader, by decide, rfl⟩
  · exact ⟨protoErrBadLength, by decide, rfl⟩
  · exact ⟨protoErrBadLength, by decide, rfl⟩
  · exact ⟨protoErrCrcFail, by decide, rfl⟩
  · -- None of the checks has failed.
    obtain ⟨h₀, h₁⟩ := not_or.1 hsync
    exact absurd ⟨not_lt.1 hover, ⟨not_not.1 h₀, not_not.1 h₁⟩, not_lt.1 hrange, not_lt.1 hwhole,
      not_not.1 hcrc⟩ h

theorem decodeTM_ok_iff (o : TmOut) :
    (decodeTM (some b) n (some o)).1 = protoOk ↔ WellFormed b n := by
  by_cases h : WellFormed b n
  · exact iff_of_true (by rw [decodeTM_wellFormed h]) h
  · obtain ⟨code, hcode, he⟩ := decodeTM_not_wellFormed h o
    refine iff_of_false ?_ h
    rw [he]
    exact hcode.ne

/-! ## The frame of a buffer -/

/-- The frame at the start of a buffer, whose length field is in range. -/
def frameOf (b : List UInt8) (h : lengthOf b ≤ packetMaxPayload) : Frame where
  version := b.getD offsetVersion 0
  msgType := b.getD offsetMsgtype 0
  msgId := b.getD offsetMsgid 0
  payload := (b.drop offsetPayload).take (lengthOf b)
  crc := crcFieldOf b
  length_le := (List.length_take_le _ _).trans h

theorem length_payload_frameOf (hn : n ≤ b.length) (h : WellFormed b n) :
    (frameOf b h.range).payload.length = lengthOf b := by
  have hwhole := h.whole
  simp only [packetOverheadBytes] at hwhole
  simp only [frameOf, List.length_take, List.length_drop, offsetPayload]
  omega

/-- A well-formed buffer starts with the bytes of its frame. -/
theorem bytes_frameOf (hn : n ≤ b.length) (h : WellFormed b n) :
    (frameOf b h.range).bytes = b.take (packetOverheadBytes + lengthOf b) := by
  have hwhole := h.whole
  have hlen := length_payload_frameOf hn h
  simp only [packetOverheadBytes] at hwhole
  have hheader : (frameOf b h.range).header = b.take offsetPayload := by
    rw [Frame.header, hlen, Frame.headerOf, lengthOf, (ofNat_word16 _ _).1, (ofNat_word16 _ _).2,
      ← h.sync.1, ← h.sync.2]
    refine List.ext_getElem (by simp; omega) fun i hi hi' => ?_
    have hi7 : i < 7 := by simpa [Frame.headerOf] using hi
    have hb : i < b.length := by omega
    rw [List.getElem_take, ← List.getD_eq_getElem _ 0 hb]
    interval_cases i <;> rfl
  rw [Frame.bytes, hheader, frameOf, crcFieldOf, lowByte_word16, highByte_word16,
    ← take_two (by simp only [offsetPayload]; omega), ← List.take_add, ← List.take_add]
  congr 1
  simp only [packetOverheadBytes, offsetPayload]
  omega

/-- The frame of a well-formed buffer is valid. -/
theorem valid_frameOf (hn : n ≤ b.length) (h : WellFormed b n) : (frameOf b h.range).Valid := by
  have hbytes := bytes_frameOf hn h
  have htake := (frameOf b h.range).take_bytes (b.drop (packetOverheadBytes + lengthOf b))
  rw [hbytes, List.take_append_drop, length_payload_frameOf hn h] at htake
  rw [Frame.Valid, Frame.crcOf, ← htake]
  exact h.crc

/-- The well-formed buffers are those that start with the bytes of a valid frame. -/
theorem wellFormed_iff (hn : n ≤ b.length) :
    WellFormed b n ↔ ∃ F : Frame, F.Valid ∧ packetOverheadBytes + F.payload.length ≤ n ∧
      b.take (packetOverheadBytes + F.payload.length) = F.bytes := by
  constructor
  · intro h
    refine ⟨frameOf b h.range, valid_frameOf hn h, ?_, ?_⟩ <;> rw [length_payload_frameOf hn h]
    · exact h.whole
    · exact (bytes_frameOf hn h).symm
  · rintro ⟨F, hvalid, hle, htake⟩
    rw [← decodeTM_ok_iff default,
      ← List.take_append_drop (packetOverheadBytes + F.payload.length) b, htake,
      F.decodeTM_bytes _ hle, if_pos hvalid]

/-! ## The reads of the decoder -/

/-- The loop of `IG4U_Proto_CalcCRC16` from the byte `i`, with `k` bytes left. -/
def crcLoopIn (mem : ℕ → Option UInt8) (i : ℕ) : ℕ → UInt16 → Option UInt16
  | 0, crc => some crc
  | k + 1, crc => (mem i).bind fun byte => crcLoopIn mem (i + 1) k (crcByte crc byte)

/-- `IG4U_Proto_DecodeTM`, with the bytes of `in_buf` read from a memory that may fail. -/
def decodeTMIn (mem : ℕ → Option UInt8) (inBufLen : ℕ) (out : TmOut) : Option (ℤ × TmOut) :=
  if inBufLen < packetOverheadBytes then some (protoErrBadLength, out)
  else do
    let h₀ ← mem offsetHeader
    let h₁ ← mem (offsetHeader + 1)
    if h₀ ≠ headerByte0 ∨ h₁ ≠ headerByte1 then some (protoErrBadHeader, out)
    else
      let l₀ ← mem offsetLength
      let l₁ ← mem (offsetLength + 1)
      let lengthField := word16 l₀ l₁
      if packetMaxPayload < lengthField.toNat then some (protoErrBadLength, out)
      else if inBufLen < packetOverheadBytes + lengthField.toNat then some (protoErrBadLength, out)
      else
        let c₀ ← mem (offsetPayload + lengthField.toNat)
        let c₁ ← mem (offsetPayload + lengthField.toNat + 1)
        let crcCalculated ← crcLoopIn mem 0 (offsetPayload + lengthField.toNat) crc16Init
        if word16 c₀ c₁ ≠ crcCalculated then some (protoErrCrcFail, out)
        else
          let msgType ← mem offsetMsgtype
          let msgId ← mem offsetMsgid
          some (protoOk, ⟨msgType, msgId, offsetPayload, lengthField⟩)

/-- The loop of the CRC reads the bytes it is given. -/
theorem crcLoopIn_window (hn : n ≤ b.length) (k i : ℕ) (crc : UInt16) (h : i + k ≤ n) :
    crcLoopIn (window b n) i k crc = some (((b.drop i).take k).foldl crcByte crc) := by
  -- The induction is on the bytes left.
  induction k generalizing i crc with
  | zero => rfl
  | succ k ih =>
    have hi : i < b.length := by omega
    rw [crcLoopIn, window_eq_some hn (by omega) 0, Option.bind_some, ih _ _ (by omega),
      List.drop_eq_getElem_cons hi, List.take_succ_cons, List.foldl_cons,
      List.getD_eq_getElem _ _ hi]

/-- The decoder reads no byte but the `n` ones it is given: it does the same on the memory that
    has no others. -/
theorem decodeTMIn_window (hn : n ≤ b.length) (o : TmOut) :
    (decodeTMIn (window b n) n o).map (Prod.map id some) = decodeTM (some b) n (some o) := by
  by_cases hover : n < packetOverheadBytes
  · simp only [decodeTMIn, decodeTM, if_pos hover]
    rfl
  have hread : ∀ i, i < packetOverheadBytes → window b n i = some (b.getD i 0) := fun i hi =>
    window_eq_some hn (hi.trans_le (not_lt.1 hover)) 0
  simp only [decodeTMIn, decodeTM, if_neg hover, hread offsetHeader (by decide),
    hread (offsetHeader + 1) (by decide), hread offsetLength (by decide),
    hread (offsetLength + 1) (by decide), hread offsetMsgtype (by decide),
    hread offsetMsgid (by decide), Option.bind_eq_bind, Option.bind_some]
  by_cases hsync : b.getD offsetHeader 0 ≠ headerByte0 ∨ b.getD (offsetHeader + 1) 0 ≠ headerByte1
  · simp only [if_pos hsync]
    rfl
  set L := (word16 (b.getD offsetLength 0) (b.getD (offsetLength + 1) 0)).toNat
  by_cases hrange : packetMaxPayload < L
  · simp only [if_neg hsync, if_pos hrange]
    rfl
  by_cases hwhole : n < packetOverheadBytes + L
  · simp only [if_neg hsync, if_neg hrange, if_pos hwhole]
    rfl
  -- From here on, the length field is known to leave the CRC within the bytes given.
  have hle : offsetPayload + L + 2 ≤ n := by
    simp only [packetOverheadBytes, offsetPayload] at hwhole ⊢
    omega
  simp only [if_neg hsync, if_neg hrange, if_neg hwhole,
    window_eq_some hn (show offsetPayload + L < n by omega) 0,
    window_eq_some hn (show offsetPayload + L + 1 < n by omega) 0,
    crcLoopIn_window hn (offsetPayload + L) 0 crc16Init (by omega), Option.bind_some,
    List.drop_zero, calcCRC16]
  by_cases hcrc : word16 (b.getD (offsetPayload + L) 0) (b.getD (offsetPayload + L + 1) 0) ≠
      (b.take (offsetPayload + L)).foldl crcByte crc16Init
  · simp only [if_pos hcrc]
    exact congrArg some (if_pos hcrc).symm
  · simp only [if_neg hcrc]
    exact congrArg some (if_neg hcrc).symm

/-! ## The grammar -/

/-- Encoding the payload of a telecommand that is well-formed gives its bytes back. -/
theorem encodeTC_payload (hn : n ≤ b.length) (h : WellFormed b n)
    (hversion : b.getD offsetVersion 0 = packetVersion)
    (htype : b.getD offsetMsgtype 0 = msgtypeCommand) {outBuf : List UInt8} {outBufSize : ℕ}
    (hout : packetOverheadBytes + lengthOf b ≤ outBufSize) :
    encodeTC (some outBuf) outBufSize (b.getD offsetMsgid 0) (some (b.drop offsetPayload))
        (lengthOf b) =
      (((packetOverheadBytes + lengthOf b : ℕ) : ℤ),
        some (b.take (packetOverheadBytes + lengthOf b) ++
          outBuf.drop (packetOverheadBytes + lengthOf b))) := by
  set F := frameOf b h.range
  have hlen : F.payload.length = lengthOf b := length_payload_frameOf hn h
  have hsrc : PointsTo (some (b.drop offsetPayload)) F.payload :=
    .inr ⟨(b.drop offsetPayload).drop (lengthOf b),
      congrArg some (List.take_append_drop (lengthOf b) (b.drop offsetPayload)).symm⟩
  -- The frame of the buffer is the one the encoder writes.
  have hF : Frame.tc F.msgId F.payload F.length_le = F :=
    F.tc_eq (valid_frameOf hn h) hversion htype
  rw [← hlen] at hout
  obtain ⟨_, -, he⟩ | ⟨hnot, -⟩ := encodeTC_eq outBuf outBufSize F.msgId hsrc
  swap
  · exact absurd ⟨F.length_le, hout⟩ hnot
  rw [hF, hlen, bytes_frameOf hn h] at he
  exact he

/-- The decoder accepts exactly the grammar. It accepts the well-formed buffers, gives their
    fields, and of a telecommand the encoder makes the same bytes again; on the other ones it
    writes nothing; and it reads no byte but the `n` it is given. -/
theorem decodeTM_grammar (hn : n ≤ b.length) (o : TmOut) :
    let r := decodeTM (some b) n (some o)
    let total := packetOverheadBytes + lengthOf b
    (r.1 = protoOk ↔ WellFormed b n) ∧
    (WellFormed b n → ∃ tm, r.2 = some tm ∧
      tm.msgType = b.getD offsetMsgtype 0 ∧ tm.msgId = b.getD offsetMsgid 0 ∧
      tm.payload = offsetPayload ∧ tm.payloadLen.toNat = lengthOf b ∧
      (b.getD offsetVersion 0 = packetVersion → tm.msgType = msgtypeCommand →
        ∀ (outBuf : List UInt8) (outBufSize : ℕ), total ≤ outBufSize →
          encodeTC (some outBuf) outBufSize tm.msgId (some (b.drop tm.payload)) (lengthOf b) =
            ((total : ℤ), some (b.take total ++ outBuf.drop total)))) ∧
    (¬WellFormed b n → r.2 = some o) ∧
    (decodeTMIn (window b n) n o).map (Prod.map id some) = r := by
  intro r total
  refine ⟨decodeTM_ok_iff o, fun h => ⟨tmOf b, ?_, rfl, rfl, rfl, tmOf_payloadLen h.range, ?_⟩,
    fun h => ?_, decodeTMIn_window hn o⟩
  · exact congrArg Prod.snd (decodeTM_wellFormed h o)
  · intro hversion htype outBuf outBufSize hout
    exact encodeTC_payload hn h hversion htype hout
  · obtain ⟨_, -, he⟩ := decodeTM_not_wellFormed h o
    exact congrArg Prod.snd he

/-- A Ping, with two more bytes in the buffer, is accepted and encoded to the same bytes. -/
theorem decodeTM_grammar_ping :
    let F := Frame.tc WireMsgid.ping [] (by decide)
    let b := F.bytes ++ [0xAA, 0x55]
    (decodeTM (some b) 11 (some default)).1 = protoOk ∧
      encodeTC (some (List.replicate 9 0)) 9 WireMsgid.ping (some (b.drop 7)) 0 =
        (9, some F.bytes) := by
  intro F b
  have hn : 11 ≤ b.length := by decide
  have hw : WellFormed b 11 := by decide +kernel
  obtain ⟨hok, hfields, -⟩ := decodeTM_grammar hn default
  obtain ⟨tm, -, hmsgType, hid, hp, -, hencode⟩ := hfields hw
  have htype : tm.msgType = msgtypeCommand := hmsgType
  have he := hencode (by decide) htype (List.replicate 9 0) 9 (by decide)
  have hping : b.getD offsetMsgid 0 = WireMsgid.ping := rfl
  have hlen : lengthOf b = 0 := by decide
  rw [hid, hp, hping, hlen] at he
  exact ⟨hok.2 hw, he.trans (congrArg (Prod.mk 9) (by decide +kernel))⟩

end Ig4u.Proto
