import Ig4u.Protocol.Crc
import Ig4u.Protocol.Grammar

/-!
# Transmission errors

Which errors in a packet the decoder notices. A packet `F` written by the encoder
(`Encoded`) arrives as `F'`, of the same length and with the same length field. As
`F` is valid, `F'` is accepted only if the CRC misses the error (`decodeTM_error_iff`).

On the line the CRC comes low byte first, while its register holds the bits that
follow the message high byte first. In the order of the register (`crcOrder`) the two
last bytes of the packet are swapped:

* `decodeTM_flips`: an odd number of flipped bits, or two of them, are noticed
  in any order;
* `decodeTM_burst_iff`: two adjacent wrong bytes are noticed, except for one error, in
  the last byte of the payload and the byte after it, which the swap moves apart.
-/

namespace Ig4u.Proto

open Lib

/-- The packet `F` is written by the encoder. -/
def Encoded (F : List UInt8) : Prop :=
  ∃ (outBuf buf : List UInt8) (outBufSize n : ℕ) (msgId : UInt8) (p : List UInt8)
    (src : Option (List UInt8)), PointsTo src p ∧
    encodeTC (some outBuf) outBufSize msgId src p.length = ((n : ℤ), some buf) ∧ F = buf.take n

/-- These are the frames of telecommands. -/
theorem Encoded.tc {F : List UInt8} (hF : Encoded F) :
    ∃ msgId p, ∃ hp : p.length ≤ packetMaxPayload, F = (Frame.tc msgId p hp).bytes := by
  obtain ⟨outBuf, buf, outBufSize, n, msgId, p, src, hsrc, he, rfl⟩ := hF
  rcases encodeTC_eq outBuf outBufSize msgId hsrc with ⟨hp, -, h⟩ | ⟨-, code, hcode, h⟩ <;>
    rw [h, Prod.mk.injEq] at he <;> obtain ⟨hn, hbuf⟩ := he
  · refine ⟨msgId, p, hp, ?_⟩
    have hlen : (Frame.tc msgId p hp).bytes.length = n := by
      rw [Frame.length_bytes, ← Nat.cast_inj (R := ℤ), ← hn]
      rfl
    rw [← Option.some.inj hbuf, List.take_left' hlen]
  · omega

/-- The bytes of an error: the differences of those sent and those received. -/
def errorOf (F F' : List UInt8) : List UInt8 := List.zipWith (· ^^^ ·) F F'

/-- The bytes of an error, the two last ones swapped. -/
def crcOrder (e : List UInt8) : List UInt8 :=
  e.take (e.length - 2) ++ (e.drop (e.length - 2)).reverse

theorem length_crcOrder (e : List UInt8) : (crcOrder e).length = e.length := by
  rw [crcOrder, List.length_append, List.length_reverse, ← List.length_append,
    List.take_append_drop]

theorem crcOrder_append (e : List UInt8) (lo hi : UInt8) :
    crcOrder (e ++ [lo, hi]) = e ++ [hi, lo] := by simp [crcOrder]

theorem crcOrder_perm (e : List UInt8) : (crcOrder e).Perm e := by
  have h := (List.reverse_perm (e.drop (e.length - 2))).append_left (e.take (e.length - 2))
  rwa [List.take_append_drop] at h

/-! ## The errors missed -/

/-- A packet of `n + 2` bytes, split before its CRC. -/
theorem exists_split {b : List UInt8} {n : ℕ} (h : b.length = n + 2) :
    ∃ d lo hi, b = d ++ [lo, hi] ∧ d.length = n := by
  refine ⟨b.take n, b.getD n 0, b.getD (n + 1) 0, ?_, by rw [List.length_take]; omega⟩
  rw [← take_two (by omega), ← List.take_add, ← h, List.take_length]

/-- A packet of the length its length field announces is well formed if it has the sync
    header and the CRC of what precedes it. -/
theorem wellFormed_append_iff {d : List UInt8} {lo hi : UInt8} {n : ℕ} (hd : d.length = 7 + n)
    (hn : n ≤ packetMaxPayload) (hlength : lengthOf (d ++ [lo, hi]) = n) :
    WellFormed (d ++ [lo, hi]) (d ++ [lo, hi]).length ↔
      (d.getD 0 0 = headerByte0 ∧ d.getD 1 0 = headerByte1) ∧
        word16 lo hi = d.foldl crcByte crc16Init := by
  have hfield : crcFieldOf (d ++ [lo, hi]) = word16 lo hi := by
    rw [crcFieldOf, hlength, offsetPayload, ← hd]
    simp
  have hcrc : calcCRC16 (some (d ++ [lo, hi])) (offsetPayload + n) = d.foldl crcByte crc16Init := by
    rw [calcCRC16, offsetPayload, ← hd, List.take_left' rfl]
  have hget : ∀ i, i < 7 → (d ++ [lo, hi]).getD i 0 = d.getD i 0 := fun i hi =>
    List.getD_append _ _ _ _ (by omega)
  constructor
  · intro h
    have h₁ := h.sync
    have h₂ := h.crc
    rw [offsetHeader, hget 0 (by omega), hget 1 (by omega)] at h₁
    rw [hlength, hfield, hcrc] at h₂
    exact ⟨h₁, h₂⟩
  · rintro ⟨h₁, h₂⟩
    refine ⟨?_, ?_, hlength.trans_le hn, ?_, ?_⟩
    · simp only [List.length_append, packetOverheadBytes, hd, List.length_cons, List.length_nil]
      omega
    · rwa [offsetHeader, hget 0 (by omega), hget 1 (by omega)]
    · simp only [hlength, List.length_append, packetOverheadBytes, hd, List.length_cons,
        List.length_nil]
      omega
    · rw [hlength, hfield, hcrc, h₂]

/-- A packet received with the length field of the one sent is accepted exactly if it has
    the sync header and the error is a multiple of the generator. -/
theorem decodeTM_error_iff {F F' : List UInt8} (hF : Encoded F) (hlen : F'.length = F.length)
    (hlength : F'.getD 5 0 = F.getD 5 0 ∧ F'.getD 6 0 = F.getD 6 0) (o : TmOut) :
    (decodeTM (some F') F'.length (some o)).1 = protoOk ↔
      (F'.getD 0 0 = headerByte0 ∧ F'.getD 1 0 = headerByte1) ∧
        crcGenerator ∣ bitPoly (bitsOf (crcOrder (errorOf F F'))) := by
  obtain ⟨msgId, p, hp, rfl⟩ := hF.tc
  set T := Frame.tc msgId p hp
  have hd : (T.header ++ p).length = 7 + p.length := by simp
  have hT : T.bytes.length = 7 + p.length + 2 := by
    rw [T.length_bytes, packetOverheadBytes]
    exact Nat.add_right_comm 7 2 _
  have hcrc : T.crc = (T.header ++ p).foldl crcByte crc16Init := Frame.valid_sealed
  obtain ⟨d', lo, hi, rfl, hd'⟩ : ∃ d lo hi, F' = d ++ [lo, hi] ∧ d.length = 7 + p.length :=
    exists_split (hlen.trans hT)
  have hfield : lengthOf (d' ++ [lo, hi]) = p.length := by
    have h := T.length_field []
    rw [List.append_nil] at h
    rw [lengthOf, offsetLength, hlength.1, hlength.2]
    exact h
  have hget : ∀ i, i < 7 → (d' ++ [lo, hi]).getD i 0 = d'.getD i 0 := fun i hi =>
    List.getD_append _ _ _ _ (by omega)
  have hbytes : T.bytes = T.header ++ p ++ [lowByte T.crc, highByte T.crc] := rfl
  have herror : errorOf T.bytes (d' ++ [lo, hi]) = List.zipWith (· ^^^ ·) (T.header ++ p) d' ++
      [lowByte T.crc ^^^ lo, highByte T.crc ^^^ hi] := by
    rw [errorOf, hbytes, List.zipWith_append (hd.trans hd'.symm)]
    rfl
  rw [decodeTM_ok_iff, wellFormed_append_iff hd' hp hfield, hget 0 (by omega), hget 1 (by omega),
    herror, crcOrder_append, ← foldl_crcByte_eq_word16_iff, ← word16_xor, word16_bytes]
  -- The CRC of the error is the difference of the CRCs.
  have hxor := foldl_crcByte_xor (hd.trans hd'.symm) crc16Init crc16Init
  rw [UInt16.xor_self, ← hcrc] at hxor
  rw [hxor, UInt16.xor_right_inj, eq_comm (a := word16 lo hi)]

/-! ## Flipped bits -/

/-- The number of bits in which two packets differ. -/
def flipped (F F' : List UInt8) : ℕ := (bitsOf (errorOf F F')).count true

/-- An odd number of flipped bits outside the length field, or two of them, are noticed. -/
theorem decodeTM_flips {F F' : List UInt8} (hF : Encoded F) (hlen : F'.length = F.length)
    (hlength : F'.getD 5 0 = F.getD 5 0 ∧ F'.getD 6 0 = F.getD 6 0)
    (h : Odd (flipped F F') ∨ flipped F F' = 2) (o : TmOut) :
    (decodeTM (some F') F'.length (some o)).1 ≠ protoOk := by
  have hcount : (bitsOf (crcOrder (errorOf F F'))).count true = flipped F F' :=
    ((crcOrder_perm _).flatMap_right _).count_eq true
  rw [← hcount] at h
  rw [Ne, decodeTM_error_iff hF hlen hlength, not_and]
  intro _
  rcases h with hodd | htwo
  · exact not_dvd_of_odd X_add_one_dvd_crcGenerator hodd
  · refine not_dvd_of_two coeff_zero_crcGenerator htwo fun m hm hlt => not_crcGenerator_dvd hm ?_
    -- The flipped bits are within the longest packet.
    obtain ⟨msgId, p, hp, rfl⟩ := hF.tc
    rw [length_bitsOf, length_crcOrder, errorOf, List.length_zipWith, hlen, min_self,
      Frame.length_bytes] at hlt
    have hle : (Frame.tc msgId p hp).payload.length ≤ packetMaxPayload := hp
    rw [packetMaxTotal]
    omega

/-- Flipping the first and the last bit of a Ping. -/
theorem decodeTM_flips_ping :
    let F := (Frame.tc WireMsgid.ping [] (by decide)).bytes
    let F' := (F.set 0 0x2A).set 8 (F.getD 8 0 ^^^ 1)
    flipped F F' = 2 ∧ (decodeTM (some F') F'.length (some default)).1 ≠ protoOk := by
  intro F F'
  have hF : Encoded F :=
    ⟨List.replicate 9 0, F, 9, 9, WireMsgid.ping, [], none, .null, by decide +kernel, rfl⟩
  have htwo : flipped F F' = 2 := by decide +kernel
  have hlen : F'.length = F.length := by simp [F']
  have hlength : F'.getD 5 0 = F.getD 5 0 ∧ F'.getD 6 0 = F.getD 6 0 := by decide +kernel
  exact ⟨htwo, decodeTM_flips hF hlen hlength (.inr htwo) default⟩

/-! ## Bursts -/

/-- `F'` differs from `F` at most in the adjacent bytes `i` and `i + 1`, which are
    outside the length field. -/
structure Burst (F F' : List UInt8) (i : ℕ) : Prop where
  length_eq : F'.length = F.length
  inside : i + 2 ≤ F.length
  lengthField : i + 1 < offsetLength ∨ offsetLength + 1 < i
  outside : ∀ j, j ≠ i → j ≠ i + 1 → F'.getD j 0 = F.getD j 0

variable {F F' : List UInt8} {i : ℕ}

/-- Overwriting two adjacent bytes outside the length field. -/
theorem burst_set (hin : i + 2 ≤ F.length) (hfield : i + 1 < offsetLength ∨ offsetLength + 1 < i)
    (x y : UInt8) : Burst F ((F.set i x).set (i + 1) y) i := by
  refine ⟨by simp, hin, hfield, fun j h₁ h₂ => ?_⟩
  rw [List.getD_eq_getElem?_getD, List.getElem?_set_ne (Ne.symm h₂),
    List.getElem?_set_ne (Ne.symm h₁), ← List.getD_eq_getElem?_getD]

/-- The differing bytes of a burst. -/
theorem Burst.errorOf_eq (h : Burst F F' i) :
    errorOf F F' = List.replicate i 0 ++ [F.getD i 0 ^^^ F'.getD i 0,
      F.getD (i + 1) 0 ^^^ F'.getD (i + 1) 0] ++ List.replicate (F.length - (i + 2)) 0 := by
  have hin := h.inside
  have hlen : (errorOf F F').length = F.length := by
    rw [errorOf, List.length_zipWith, h.length_eq, min_self]
  refine List.ext_getElem (by simp [hlen]; omega) fun j hj _ => ?_
  have hj' : j < F.length := hlen ▸ hj
  have hbyte : (errorOf F F')[j] = F.getD j 0 ^^^ F'.getD j 0 := by
    rw [List.getD_eq_getElem _ _ hj', List.getD_eq_getElem _ _ (h.length_eq ▸ hj')]
    exact List.getElem_zipWith
  rw [hbyte]
  rcases lt_trichotomy j i with hlt | rfl | hgt
  · rw [h.outside j (by omega) (by omega), UInt8.xor_self]
    simp [hlt]
  · simp
  · rcases Nat.lt_or_ge (i + 1) j with hgt' | hle
    · rw [h.outside j (by omega) (by omega), UInt8.xor_self,
        List.getElem_append_right (by simp; omega), List.getElem_replicate]
    · obtain rfl : j = i + 1 := by omega
      simp

theorem bitsOf_replicate (n : ℕ) : bitsOf (List.replicate n 0) = List.replicate (8 * n) false := by
  induction n with
  | zero => rfl
  | succ n ih =>
    rw [List.replicate_succ, bitsOf, List.flatMap_cons, ← bitsOf, ih, mul_add_one, add_comm,
      List.replicate_add]
    rfl

/-- Two adjacent wrong bytes, in the order of the register, are noticed. -/
theorem not_dvd_of_adjacent {x y : UInt8} (h : ¬(x = 0 ∧ y = 0)) (a c : ℕ) :
    ¬crcGenerator ∣
      bitPoly (bitsOf (List.replicate a 0 ++ [x, y] ++ List.replicate c 0)) := by
  rw [bitsOf_append, bitsOf_append, bitsOf_replicate, bitsOf_replicate]
  refine not_dvd_of_burst coeff_zero_crcGenerator _ _ ?_ ?_
  · rw [degree_crcGenerator]
    exact le_rfl
  · have hmem : ∀ b : UInt8, b ≠ 0 → true ∈ msbFirst b.toBitVec := fun b hb =>
      true_mem_msbFirst fun h0 => hb (UInt8.toBitVec_inj.1 h0)
    rw [bitsOf, List.mem_flatMap]
    by_cases hx : x = 0
    · exact ⟨y, by simp, hmem y fun hy => h ⟨hx, hy⟩⟩
    · exact ⟨x, by simp, hmem x hx⟩

/-- The CRC of a single byte after zeros is never another byte, with one exception. -/
theorem crcByte_eq_word16_iff (x y : UInt8) :
    crcByte 0 x = word16 y 0 ↔ x = 0 ∧ y = 0 ∨ x = 0x89 ∧ y = 0xA1 := by
  have hhigh : ∀ n < 256, highByte (crcByte 0 (UInt8.ofNat n)) = 0 →
      UInt8.ofNat n = 0 ∨ UInt8.ofNat n = 0x89 := by decide +kernel
  constructor
  · intro h
    have hx := hhigh x.toNat x.toNat_lt
    rw [UInt8.ofNat_toNat, h, highByte_word16] at hx
    have hy : y = lowByte (crcByte 0 x) := by rw [h, lowByte_word16]
    rcases hx rfl with rfl | rfl
    · exact .inl ⟨rfl, hy.trans (by decide)⟩
    · exact .inr ⟨rfl, hy.trans (by decide)⟩
  · rintro (⟨rfl, rfl⟩ | ⟨rfl, rfl⟩) <;> decide

/-- A wrong last byte of the payload and a wrong byte after it, which the order of the register
    moves apart, are missed in one case. -/
theorem dvd_of_apart_iff (x y : UInt8) (a : ℕ) :
    crcGenerator ∣ bitPoly (bitsOf (List.replicate a 0 ++ [x] ++ [0, y])) ↔
      x = 0 ∧ y = 0 ∨ x = 0x89 ∧ y = 0xA1 := by
  have hzero : ∀ n, (List.replicate n (0 : UInt8)).foldl crcByte 0 = 0 := fun n => by
    induction n with
    | zero => rfl
    | succ n ih => rw [List.replicate_succ, List.foldl_cons, show crcByte 0 0 = 0 by decide, ih]
  rw [← foldl_crcByte_eq_word16_iff, List.foldl_append, hzero]
  exact crcByte_eq_word16_iff x y

/-- Two adjacent wrong bytes are missed exactly if only the last byte of the CRC follows them,
    and in the one case. How many bytes follow decides what the order of the register does to
    them. -/
theorem dvd_crcOrder_iff {x y : UInt8} (hxy : ¬(x = 0 ∧ y = 0)) (a c : ℕ) :
    crcGenerator ∣
        bitPoly (bitsOf (crcOrder (List.replicate a 0 ++ [x, y] ++ List.replicate c 0))) ↔
      c = 1 ∧ x = 0x89 ∧ y = 0xA1 := by
  rcases c with - | - | c
  · -- Both bytes of the CRC.
    refine iff_of_false (fun hdvd => ?_) fun h => absurd h.1 (by decide)
    rw [List.replicate_zero, List.append_nil, crcOrder_append] at hdvd
    refine not_dvd_of_adjacent (fun h₀ => hxy h₀.symm) a 0 ?_
    rwa [List.replicate_zero, List.append_nil]
  · -- The last byte before the CRC and the first one of it.
    have horder : crcOrder (List.replicate a 0 ++ [x, y] ++ List.replicate (0 + 1) 0) =
        List.replicate a 0 ++ [x] ++ [0, y] := by
      rw [← crcOrder_append (List.replicate a 0 ++ [x]) y 0]
      simp
    rw [horder, dvd_of_apart_iff, or_iff_right hxy, and_iff_right rfl]
  · -- Bytes before the last two.
    have horder : crcOrder (List.replicate a 0 ++ [x, y] ++ List.replicate (c + 1 + 1) 0) =
        List.replicate a 0 ++ [x, y] ++ List.replicate (c + 2) 0 := by
      rw [List.replicate_add c 2, ← List.append_assoc]
      exact crcOrder_append _ 0 0
    rw [horder]
    exact iff_of_false (not_dvd_of_adjacent hxy a (c + 2)) fun h => absurd h.1 (by omega)

/-- A burst that changes nothing. -/
theorem Burst.eq_of_zero (h : Burst F F' i) (h₀ : F.getD i 0 ^^^ F'.getD i 0 = 0)
    (h₁ : F.getD (i + 1) 0 ^^^ F'.getD (i + 1) 0 = 0) : F' = F := by
  refine List.ext_getElem h.length_eq fun j hj hj' => ?_
  rw [← List.getD_eq_getElem _ 0 hj, ← List.getD_eq_getElem _ 0 hj']
  by_cases hi : j = i
  · exact hi ▸ (UInt8.xor_eq_zero_iff.1 h₀).symm
  · by_cases hi' : j = i + 1
    · exact hi' ▸ (UInt8.xor_eq_zero_iff.1 h₁).symm
    · exact h.outside j hi hi'

/-- A burst after the length field leaves the sync header as it is. -/
theorem Burst.sync (hF : Encoded F) (h : Burst F F' i) (hi : 1 < i) :
    F'.getD 0 0 = headerByte0 ∧ F'.getD 1 0 = headerByte1 := by
  obtain ⟨msgId, p, hp, rfl⟩ := hF.tc
  rw [h.outside 0 (by omega) (by omega), h.outside 1 (by omega) (by omega)]
  exact ⟨rfl, rfl⟩

/-- Two adjacent wrong bytes outside the length field are noticed, except when they are the last
    byte of the payload and the first byte of the CRC, and the errors are `0x89` and `0xA1`. -/
theorem decodeTM_burst_iff (hF : Encoded F) (h : Burst F F' i) (hne : F' ≠ F) (o : TmOut) :
    (decodeTM (some F') F'.length (some o)).1 = protoOk ↔
      i + 3 = F.length ∧ F'.getD i 0 = F.getD i 0 ^^^ 0x89 ∧
        F'.getD (i + 1) 0 = F.getD (i + 1) 0 ^^^ 0xA1 := by
  have hin := h.inside
  have hfield := h.lengthField
  simp only [offsetLength] at hfield
  have hxor : ∀ a b c : UInt8, a ^^^ b = c ↔ b = a ^^^ c := fun a b c =>
    ⟨fun h => by rw [← h, ← UInt8.xor_assoc, UInt8.xor_self, UInt8.zero_xor],
      fun h => by rw [h, ← UInt8.xor_assoc, UInt8.xor_self, UInt8.zero_xor]⟩
  have hxy : ¬(F.getD i 0 ^^^ F'.getD i 0 = 0 ∧ F.getD (i + 1) 0 ^^^ F'.getD (i + 1) 0 = 0) :=
    fun h₀ => hne (h.eq_of_zero h₀.1 h₀.2)
  have hlast : F.length - (i + 2) = 1 ↔ i + 3 = F.length := by omega
  rw [decodeTM_error_iff hF h.length_eq ⟨h.outside 5 (by omega) (by omega),
    h.outside 6 (by omega) (by omega)⟩, h.errorOf_eq, dvd_crcOrder_iff hxy, hlast, hxor, hxor]
  -- A burst in the sync header is not at the end of the packet.
  refine and_iff_right_of_imp fun hend => h.sync hF ?_
  have hlen : packetOverheadBytes ≤ F.length := by
    obtain ⟨msgId, p, hp, rfl⟩ := hF.tc
    exact Frame.overhead_le_length _
  have hi := hend.1
  simp only [packetOverheadBytes] at hlen
  omega

/-- A Ping with both bytes of its CRC zeroed. -/
theorem decodeTM_burst_ping :
    let F := (Frame.tc WireMsgid.ping [] (by decide)).bytes
    let F' := (F.set 7 0).set 8 0
    F' ≠ F ∧ (decodeTM (some F') F'.length (some default)).1 ≠ protoOk := by
  intro F F'
  have hF : Encoded F :=
    ⟨List.replicate 9 0, F, 9, 9, WireMsgid.ping, [], none, .null, by decide +kernel, rfl⟩
  have hburst : Burst F F' 7 := burst_set (by decide) (by decide) 0 0
  have hne : F' ≠ F := by decide +kernel
  exact ⟨hne, fun hok => absurd ((decodeTM_burst_iff hF hburst hne default).1 hok).1 (by decide)⟩

/-- The frame of a Set Mode command, with its last payload byte and the first byte of
    its CRC wrong, is accepted. -/
theorem decodeTM_burst_missed :
    let F := (Frame.tc WireMsgid.setMode [0, 0, 0, 0] (by decide)).bytes
    let F' := (F.set 10 (F.getD 10 0 ^^^ 0x89)).set 11 (F.getD 11 0 ^^^ 0xA1)
    Encoded F ∧ Burst F F' 10 ∧ F' ≠ F ∧
      (decodeTM (some F') F'.length (some default)).1 = protoOk := by
  intro F F'
  exact ⟨⟨List.replicate 13 0, F, 13, 13, WireMsgid.setMode, [0, 0, 0, 0], _, .self _,
    by decide +kernel, rfl⟩, burst_set (by decide) (by decide) _ _, by decide +kernel,
    by decide +kernel⟩

end Ig4u.Proto
