import Ig4u.Protocol.Basic

/-!
# Frames

The frames of the link, as the header of `ig4u_protocol.h` lays them out: the
sync word `AA 55`, the version, the message type and identifier, the length of
the payload, the payload and the CRC, both words little-endian. A `Frame` has a
payload the length field is allowed to announce; it is `Valid` if its CRC is that
of what precedes it.

* `decodeTM_bytes`: the decoder accepts the bytes of a frame exactly if it is
  valid, whatever follows them.
* `assemble_eq`: what the encoder writes is the frame of the telecommand
  (`Frame.tc`), and nothing else.
* `decodeTM_encodeTC`: the round trip.
-/

namespace Ig4u

open Lib Proto

/-- A frame of the link, with any version, message type, identifier and CRC. -/
@[ext]
structure Frame where
  version : UInt8
  msgType : UInt8
  msgId : UInt8
  payload : List UInt8
  crc : UInt16
  length_le : payload.length ≤ packetMaxPayload
  deriving DecidableEq, Repr

namespace Frame

/-- The first `7` bytes of a frame with the given fields. -/
def headerOf (version msgType msgId : UInt8) (payloadLen : ℕ) : List UInt8 :=
  [headerByte0, headerByte1, version, msgType, msgId, UInt8.ofNat (payloadLen &&& 0xFF),
    UInt8.ofNat ((payloadLen >>> 8) &&& 0xFF)]

/-- The CRC of a header and a payload. -/
def crcOf (header payload : List UInt8) : UInt16 := (header ++ payload).foldl crcByte crc16Init

/-- The frame with the given fields and the CRC they need. -/
def sealed (version msgType msgId : UInt8) (payload : List UInt8)
    (h : payload.length ≤ packetMaxPayload) : Frame :=
  ⟨version, msgType, msgId, payload,
    crcOf (headerOf version msgType msgId payload.length) payload, h⟩

/-- The frame of a telecommand. -/
def tc (msgId : UInt8) (payload : List UInt8) (h : payload.length ≤ packetMaxPayload) : Frame :=
  sealed packetVersion msgtypeCommand msgId payload h

variable (F : Frame)

/-- The header of a frame. -/
def header : List UInt8 := headerOf F.version F.msgType F.msgId F.payload.length

/-- The bytes of a frame on the line. -/
def bytes : List UInt8 := F.header ++ F.payload ++ [lowByte F.crc, highByte F.crc]

/-- The CRC of the frame is that of its header and payload. -/
def Valid : Prop := F.crc = crcOf F.header F.payload

instance : Decidable F.Valid := inferInstanceAs (Decidable (F.crc = crcOf F.header F.payload))

theorem valid_sealed {version msgType msgId : UInt8} {payload : List UInt8}
    {h : payload.length ≤ packetMaxPayload} : (sealed version msgType msgId payload h).Valid := by
  simp only [Valid, header, sealed]

/-- A valid frame of the encoder's version and type is that of a telecommand. -/
theorem tc_eq (hvalid : F.Valid) (hversion : F.version = packetVersion)
    (htype : F.msgType = msgtypeCommand) : tc F.msgId F.payload F.length_le = F := by
  have hcrc : F.crc = crcOf F.header F.payload := hvalid
  rw [header, hversion, htype] at hcrc
  refine Frame.ext hversion.symm htype.symm rfl rfl ?_
  simp only [tc, sealed]
  exact hcrc.symm

@[simp]
theorem length_header : F.header.length = 7 := rfl

@[simp]
theorem length_bytes : F.bytes.length = packetOverheadBytes + F.payload.length := by
  simp [bytes, header, headerOf]
  omega

theorem overhead_le_length : packetOverheadBytes ≤ F.bytes.length :=
  F.length_bytes ▸ Nat.le_add_right _ _

/-- The length field announces the payload. -/
theorem length_field (rest : List UInt8) :
    (word16 ((F.bytes ++ rest).getD offsetLength 0)
      ((F.bytes ++ rest).getD (offsetLength + 1) 0)).toNat = F.payload.length := by
  have h := F.length_le
  simp only [packetMaxPayload] at h
  exact word16_ofNat (by omega)

/-- The bytes of a frame before its CRC. -/
theorem take_bytes (rest : List UInt8) :
    (F.bytes ++ rest).take (offsetPayload + F.payload.length) = F.header ++ F.payload := by
  rw [bytes, List.append_assoc, List.take_left' (by simp)]

/-- The word after the payload is the CRC. -/
theorem crc_field (rest : List UInt8) :
    word16 ((F.bytes ++ rest).getD (offsetPayload + F.payload.length) 0)
      ((F.bytes ++ rest).getD (offsetPayload + F.payload.length + 1) 0) = F.crc := by
  have hget : ∀ i, (F.bytes ++ rest).getD (offsetPayload + F.payload.length + i) 0 =
      ([lowByte F.crc, highByte F.crc] ++ rest).getD i 0 := fun i => by
    rw [bytes, List.append_assoc, List.getD_eq_getElem?_getD,
      List.getElem?_append_right (by simp), List.getD_eq_getElem?_getD]
    congr 2
    simp
  rw [← Nat.add_zero (offsetPayload + F.payload.length), hget, Nat.add_zero, hget]
  exact word16_bytes F.crc

/-- The payload of a frame, where the decoder finds it. -/
theorem payload_bytes (rest : List UInt8) :
    ((F.bytes ++ rest).drop offsetPayload).take F.payload.length = F.payload := by
  rw [bytes, List.append_assoc, List.append_assoc, List.drop_left' (by simp),
    List.take_left' rfl]

/-- The decoder accepts the bytes of a frame exactly if it is valid, whatever
    follows them. -/
theorem decodeTM_bytes (rest : List UInt8) {n : ℕ} (hn : packetOverheadBytes + F.payload.length ≤ n)
    (o : TmOut) :
    decodeTM (some (F.bytes ++ rest)) n (some o) =
      if F.Valid then
        (protoOk, some ⟨F.msgType, F.msgId, offsetPayload, UInt16.ofNat F.payload.length⟩)
      else (protoErrCrcFail, some o) := by
  have hle := F.length_le
  have hlen := F.length_field rest
  have hcrc : calcCRC16 (some (F.bytes ++ rest)) (offsetPayload + F.payload.length) =
      crcOf F.header F.payload := by rw [calcCRC16, take_bytes, crcOf]
  have hfield : UInt16.ofNat F.payload.length =
      word16 ((F.bytes ++ rest).getD offsetLength 0)
        ((F.bytes ++ rest).getD (offsetLength + 1) 0) := by
    rw [← hlen, UInt16.ofNat_toNat]
  have h₀ : ¬n < packetOverheadBytes := by omega
  have hsync : ¬((F.bytes ++ rest).getD offsetHeader 0 ≠ headerByte0 ∨
      (F.bytes ++ rest).getD (offsetHeader + 1) 0 ≠ headerByte1) :=
    not_or.2 ⟨not_not.2 rfl, not_not.2 rfl⟩
  have htype : (F.bytes ++ rest).getD offsetMsgtype 0 = F.msgType := rfl
  have hid : (F.bytes ++ rest).getD offsetMsgid 0 = F.msgId := rfl
  rw [decodeTM]
  simp only [if_neg h₀, if_neg hsync, hlen, if_neg (not_lt.2 hle), if_neg (not_lt.2 hn), crc_field,
    hcrc, htype, hid, ne_eq, ite_not, hfield]
  split_ifs with hv hv'
  exacts [rfl, absurd hv hv', absurd ‹_› hv, rfl]

end Frame

namespace Proto

/-- Clearing the room for a packet of `n` payload bytes. -/
theorem overwrite_replicate (buf : List UInt8) (n : ℕ) :
    overwrite buf 0 (List.replicate (packetOverheadBytes + n) 0) =
      [0, 0, 0, 0, 0, 0, 0] ++
        (List.replicate n 0 ++ 0 :: 0 :: buf.drop (packetOverheadBytes + n)) := by
  have h : List.replicate (packetOverheadBytes + n) (0 : UInt8) =
      List.replicate 7 0 ++ (List.replicate n 0 ++ List.replicate 2 0) := by
    simp only [List.replicate_append_replicate, packetOverheadBytes]
    congr 1
    omega
  rw [overwrite_zero, List.length_replicate, h, List.append_assoc, List.append_assoc]
  rfl

/-- The pointer `src` points to the bytes `p`: it may be anything if there are none,
    and there may be more bytes after them. -/
def PointsTo (src : Option (List UInt8)) (p : List UInt8) : Prop :=
  p = [] ∨ ∃ extra, src = some (p ++ extra)

theorem PointsTo.null : PointsTo none [] := .inl rfl

theorem PointsTo.self (p : List UInt8) : PointsTo (some p) p :=
  .inr ⟨[], by rw [List.append_nil]⟩

/-- Copying the payload after the header, in the room cleared for it. -/
theorem copyPayload_eq {header p : List UInt8} {src : Option (List UInt8)}
    (hsrc : PointsTo src p) (hh : header.length = offsetPayload) (rest : List UInt8) :
    copyPayload (header ++ (List.replicate p.length 0 ++ rest)) src p.length =
      header ++ p ++ rest := by
  rcases hsrc with rfl | ⟨extra, rfl⟩
  · cases src <;> simp [copyPayload]
  · rw [copyPayload, List.take_left' rfl, ← hh, overwrite_append, List.drop_left' (by simp)]
    split_ifs with hp
    · rfl
    · simp [List.length_eq_zero_iff.1 (Nat.eq_zero_of_not_pos hp)]

/-- The packet assembly writes the frame of the telecommand, and keeps the rest of the buffer. -/
theorem assemble_eq (buf : List UInt8) (msgId : UInt8) {p : List UInt8} {src : Option (List UInt8)}
    (hsrc : PointsTo src p) (hp : p.length ≤ packetMaxPayload) :
    assemble buf msgId src p.length =
      (Frame.tc msgId p hp).bytes ++ buf.drop (packetOverheadBytes + p.length) := by
  set H := Frame.headerOf packetVersion msgtypeCommand msgId p.length with hH
  set rest := buf.drop (packetOverheadBytes + p.length) with hrest
  -- The fields written one by one make the header.
  have hheader : ∀ ys : List UInt8,
      (((((((([0, 0, 0, 0, 0, 0, 0] ++ ys).set offsetHeader headerByte0).set (offsetHeader + 1)
        headerByte1).set offsetVersion packetVersion).set offsetMsgtype msgtypeCommand).set
        offsetMsgid msgId).set offsetLength (UInt8.ofNat (p.length &&& 0xFF))).set
        (offsetLength + 1) (UInt8.ofNat ((p.length >>> 8) &&& 0xFF))) = H ++ ys := fun _ => rfl
  have hcrc : calcCRC16 (some (H ++ p ++ 0 :: 0 :: rest)) (offsetPayload + p.length) =
      Frame.crcOf H p := by
    rw [calcCRC16, List.take_left' (by simp [hH, Frame.headerOf]; omega), Frame.crcOf]
  have hset : ∀ (i : ℕ) (b : UInt8) (ys : List UInt8),
      (H ++ p ++ ys).set (offsetPayload + p.length + i) b = H ++ p ++ ys.set i b := fun i b ys => by
    rw [List.set_append_right _ _ (by simp [hH, Frame.headerOf]; omega)]
    congr 2
    simp [hH, Frame.headerOf]
    omega
  simp only [assemble, overwrite_replicate, hheader, ← hrest]
  rw [copyPayload_eq hsrc (rfl : H.length = offsetPayload), hcrc,
    ← Nat.add_zero (offsetPayload + p.length), hset, Nat.add_zero, hset]
  simp [Frame.bytes, Frame.header, Frame.tc, Frame.sealed, ← hH]

/-- The encoder writes the frame of the telecommand if it fits, and nothing otherwise. -/
theorem encodeTC_eq (outBuf : List UInt8) (outBufSize : ℕ) (msgId : UInt8) {p : List UInt8}
    {src : Option (List UInt8)} (hsrc : PointsTo src p) :
    (∃ hp : p.length ≤ packetMaxPayload, packetOverheadBytes + p.length ≤ outBufSize ∧
      encodeTC (some outBuf) outBufSize msgId src p.length =
        (((packetOverheadBytes + p.length : ℕ) : ℤ),
          some ((Frame.tc msgId p hp).bytes ++ outBuf.drop (packetOverheadBytes + p.length)))) ∨
    (¬(p.length ≤ packetMaxPayload ∧ packetOverheadBytes + p.length ≤ outBufSize) ∧
      ∃ code < 0, encodeTC (some outBuf) outBufSize msgId src p.length = (code, some outBuf)) := by
  have hnull : ¬(0 < p.length ∧ src = none) := by
    rcases hsrc with rfl | ⟨extra, rfl⟩ <;> simp
  rw [encodeTC, if_neg hnull]
  by_cases hp : p.length ≤ packetMaxPayload
  · by_cases hs : packetOverheadBytes + p.length ≤ outBufSize
    · exact .inl ⟨hp, hs, by
        rw [if_neg (not_lt.2 hp), if_neg (not_lt.2 hs), assemble_eq outBuf msgId hsrc hp]⟩
    · exact .inr ⟨fun h => hs h.2, protoErrBufSize, by decide, by
        rw [if_neg (not_lt.2 hp), if_pos (not_le.1 hs)]⟩
  · exact .inr ⟨fun h => hp h.1, protoErrBadLength, by decide, by rw [if_pos (not_le.1 hp)]⟩

/-- The round trip. A payload `p` that a frame can hold, encoded into a buffer that
    can hold the frame, is decoded from the bytes written, whatever follows them; nothing
    is written after them. Otherwise the encoder fails and leaves the buffer as it is. -/
theorem decodeTM_encodeTC {outBuf : List UInt8} {outBufSize : ℕ} (hout : outBufSize ≤ outBuf.length)
    (msgId : UInt8) {p : List UInt8} {src : Option (List UInt8)} (hsrc : PointsTo src p) :
    let total := packetOverheadBytes + p.length
    let r := encodeTC (some outBuf) outBufSize msgId src p.length
    (p.length ≤ packetMaxPayload ∧ total ≤ outBufSize →
      r.1 = total ∧ ∃ buf, r.2 = some buf ∧ buf.length = outBuf.length ∧
        buf.drop total = outBuf.drop total ∧
        ∀ (rest : List UInt8) (n : ℕ) (o : TmOut), total ≤ n →
          ∃ tm, decodeTM (some (buf.take total ++ rest)) n (some o) = (protoOk, some tm) ∧
            tm.msgType = msgtypeCommand ∧ tm.msgId = msgId ∧ tm.payloadLen.toNat = p.length ∧
            ((buf.take total ++ rest).drop tm.payload).take tm.payloadLen.toNat = p) ∧
    (¬(p.length ≤ packetMaxPayload ∧ total ≤ outBufSize) → r.1 < 0 ∧ r.2 = some outBuf) := by
  intro total r
  rcases encodeTC_eq outBuf outBufSize msgId hsrc with ⟨hp, hs, hr⟩ | ⟨hn, code, hc, hr⟩
  · refine ⟨fun _ => ?_, fun h => absurd ⟨hp, hs⟩ h⟩
    -- The buffer is the frame `F` and its old end.
    set F := Frame.tc msgId p hp
    have hF : F.bytes.length = total := F.length_bytes
    have hlen : (UInt16.ofNat p.length).toNat = p.length := by
      simp only [packetMaxPayload] at hp
      rw [UInt16.toNat_ofNat', Nat.mod_eq_of_lt (by omega)]
    have hle : total ≤ outBuf.length := hs.trans hout
    refine ⟨congrArg Prod.fst hr, F.bytes ++ outBuf.drop total, congrArg Prod.snd hr, ?_,
      List.drop_left' hF, fun rest n o hn => ?_⟩
    · rw [List.length_append, hF, List.length_drop]
      omega
    · rw [List.take_left' hF]
      refine ⟨⟨msgtypeCommand, msgId, offsetPayload, UInt16.ofNat p.length⟩, ?_, rfl, rfl, hlen, ?_⟩
      · rw [F.decodeTM_bytes rest hn o, if_pos (show F.Valid from Frame.valid_sealed)]
        rfl
      · rw [hlen]
        exact F.payload_bytes rest
  · refine ⟨fun h => absurd h hn, fun _ => ?_⟩
    simp only [r, hr]
    exact ⟨hc, trivial⟩

/-- The round trip at a payload that looks like a sync word, in a buffer of just its size. -/
theorem decodeTM_encodeTC_sync :
    let r := encodeTC (some (List.replicate 11 0xFF)) 11 WireMsgid.setMode (some [0xAA, 0x55]) 2
    r.1 = 11 ∧ ∃ buf, r.2 = some buf ∧ buf.length = 11 ∧
      ∃ tm, decodeTM (some (buf.take 11 ++ [])) 11 (some default) = (protoOk, some tm) ∧
        tm.msgId = WireMsgid.setMode ∧
        ((buf.take 11 ++ []).drop tm.payload).take tm.payloadLen.toNat = [0xAA, 0x55] := by
  have hout : 11 ≤ (List.replicate 11 (0xFF : UInt8)).length := by decide
  obtain ⟨h₁, buf, h₂, h₃, -, h₄⟩ :=
    (decodeTM_encodeTC hout WireMsgid.setMode (PointsTo.self [0xAA, 0x55])).1 (by decide)
  obtain ⟨tm, h, -, hid, -, hp⟩ := h₄ [] 11 default le_rfl
  exact ⟨h₁, buf, h₂, h₃, tm, h, hid, hp⟩

end Proto

end Ig4u
