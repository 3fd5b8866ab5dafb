import Ig4u.Commands.Reply

/-!
# The fault log

The reply to a Request Fault Log announces a number of entries, which is cut to the
room for them and stored as the number of valid entries. The loop over the entries ends
early if the payload is too short for the next one, but the number stays: the entries that
are not there are those of an earlier request.

* `getElem_parseEntries`: what the loop leaves in each entry.
* `soundLog_iff`: the entries counted are those of the reply exactly if all the entries it
  announces are there.
-/

namespace Ig4u.Cmd

open Lib Proto

/-- The entry of a fault log at an offset of the payload. -/
def faultEntryAt (p : List UInt8) (offset : ℕ) : FaultEntry :=
  ⟨rdLE32 p offset, rdLE16 p (offset + 4), p.getD (offset + 6) 0, p.getD (offset + 7) 0⟩

/-- The loop stores the entries that are announced and there, and leaves the others as they are. -/
theorem getElem_parseEntries (p : List UInt8) (plen n i offset : ℕ)
    (entries : Vector FaultEntry 32) {j : ℕ} (hj : j < 32) :
    (parseEntries p plen n i offset entries)[j] =
      if i ≤ j ∧ j < i + n ∧ offset + 8 * (j - i) + 8 ≤ plen then
        faultEntryAt p (offset + 8 * (j - i))
      else entries[j] := by
  -- The induction is on the entries left.
  induction n generalizing i offset entries with
  | zero => rw [if_neg (by omega), parseEntries]
  | succ n ih =>
    rw [parseEntries]
    by_cases hlen : plen < offset + 8
    · rw [if_pos hlen, if_neg (by omega)]
    rw [if_neg hlen, ih]
    rcases lt_trichotomy j i with h | rfl | h
    · rw [if_neg (by omega), if_neg (by omega), Vector.getElem_setIfInBounds_ne hj (by omega)]
    · rw [if_neg (by omega), if_pos (by omega), Nat.sub_self, Vector.getElem_setIfInBounds_self]
      rfl
    · rw [Vector.getElem_setIfInBounds_ne hj (by omega),
        show offset + 8 + 8 * (j - (i + 1)) = offset + 8 * (j - i) by omega]
      exact if_congr (by omega) rfl rfl

/-- The number of entries that a reply announces, cut to the room for them. -/
def announced (P : Packet) : ℕ := min (P.payload.getD 0 0).toNat faultLogMaxEntries.toNat

/-- The entries counted in a fault log are those of the reply. -/
structure LogOf (log : ReplyFaultLogPayload) (P : Packet) : Prop where
  count_le : log.entryCount ≤ faultLogMaxEntries
  entry : ∀ (i : ℕ) (h : i < 32), i < log.entryCount.toNat →
    12 + 8 * i ≤ P.len ∧ log.entries[i] = faultEntryAt P.payload (4 + 8 * i)

/-- The number of entries stored. -/
theorem parseFaultLog_count {log out : ReplyFaultLogPayload} {P : Packet}
    (h : parseFaultLog log P.payload P.len = some out) :
    out.entryCount.toNat = announced P ∧
      out.entries = parseEntries P.payload P.len (announced P) 0 4 log.entries := by
  rw [parseFaultLog] at h
  split_ifs at h with hlen hmax
  · cases h
    have hmin : announced P = faultLogMaxEntries.toNat := min_eq_right (UInt8.le_iff_toNat_le.1
      (UInt8.le_of_lt hmax))
    rw [hmin]
    exact ⟨rfl, rfl⟩
  · cases h
    have hmin : announced P = (P.payload.getD 0 0).toNat := min_eq_left (UInt8.le_iff_toNat_le.1
      (UInt8.not_lt.1 hmax))
    rw [hmin]
    exact ⟨rfl, rfl⟩

/-- What is stored in each entry. -/
theorem parseFaultLog_entry {log out : ReplyFaultLogPayload} {P : Packet}
    (h : parseFaultLog log P.payload P.len = some out) {i : ℕ} (hi : i < 32) :
    out.entries[i] =
      if i < announced P ∧ 12 + 8 * i ≤ P.len then faultEntryAt P.payload (4 + 8 * i)
      else log.entries[i] := by
  simp only [(parseFaultLog_count h).2, getElem_parseEntries, Nat.sub_zero]
  exact if_congr (by omega) rfl rfl

/-- The log of a reply is sound exactly if the entries announced are there. -/
theorem logOf_iff {log out : ReplyFaultLogPayload} {P : Packet}
    (h : parseFaultLog log P.payload P.len = some out) :
    LogOf out P ↔ announced P = 0 ∨ 4 + 8 * announced P ≤ P.len := by
  obtain ⟨hcount, hentries⟩ := parseFaultLog_count h
  have hmax : announced P ≤ 32 := min_le_right _ _
  constructor
  · intro hlog
    rcases Nat.eq_zero_or_pos (announced P) with h0 | hpos
    · exact .inl h0
    · -- The last entry counted is there.
      have hlast := (hlog.entry (announced P - 1) (by omega) (by omega)).1
      exact .inr (by omega)
  · intro hlen
    refine ⟨UInt8.le_iff_toNat_le.2 (hcount.trans_le hmax), fun i hi hic => ?_⟩
    rw [hcount] at hic
    have hthere : 4 + 8 * i + 8 ≤ P.len := by omega
    refine ⟨by omega, ?_⟩
    simp only [hentries, getElem_parseEntries, Nat.sub_zero]
    rw [if_pos (by omega)]

variable {σ : Type*} (L : Link σ)

/-- If a Request Fault Log succeeds, the entries counted in its output are those of the reply it
    has accepted. -/
def SoundLog (log : ReplyFaultLogPayload) (s : Line σ) : Prop :=
  (requestFaultLog L (some log) s).1 = cmdOk →
    ∃ P out, (Call.requestFaultLog (some log)).exchange L s = some [P] ∧
      (requestFaultLog L (some log) s).2.1 = some out ∧ LogOf out P

/-- Whatever the output held before: the entries counted are those of the reply exactly if it
    announces none, or is long enough for those it announces. -/
theorem soundLog_iff (log : ReplyFaultLogPayload) (s : Line σ) :
    SoundLog L log s ↔ ∀ P, (Call.requestFaultLog (some log)).exchange L s = some [P] →
      announced P = 0 ∨ 4 + 8 * announced P ≤ P.len := by
  rw [SoundLog, Call.exchange, Call.expects, Call.telecommand]
  rcases requestFaultLog_cases L log s with ⟨P, hx, hparse, hok⟩ | ⟨hx, -, hfail⟩
  · obtain ⟨out, hout⟩ : ∃ out, (requestFaultLog L (some log) s).2.1 = some out := ⟨_, rfl⟩
    have hlog := logOf_iff (hparse.trans hout)
    constructor
    · intro h P' hP'
      obtain ⟨P'', out', hP'', hout', hlog'⟩ := h hok
      obtain rfl : P = P' := (List.cons.inj (Option.some.inj (hx.symm.trans hP'))).1
      obtain rfl : P = P'' := (List.cons.inj (Option.some.inj (hx.symm.trans hP''))).1
      obtain rfl : out = out' := Option.some.inj (hout.symm.trans hout')
      exact hlog.1 hlog'
    · intro h _
      exact ⟨P, out, hx, hout, hlog.2 (h P hx)⟩
  · refine iff_of_true (fun hok => absurd hok hfail) fun P hP => ?_
    rw [hx] at hP
    cases hP

/-- A Default Response that refuses the request counts as a fault log with one entry, which
    is what the output held before. -/
theorem not_soundLog_refused :
    let L := Hal.link (Hal.fifo .success)
    let refusal := Frame.sealed packetVersion msgtypeResponse WireMsgid.replyFaultLog [1, 40, 3, 0]
      (by decide)
    let s : Line (Hal.State (List UInt8)) :=
      ⟨List.replicate packetMaxTotal 0, [], ⟨true, refusal.bytes ++ [0, 0], []⟩⟩
    let old : ReplyFaultLogPayload := ⟨1, Vector.replicate 32 ⟨1000, 7, 2, 1⟩⟩
    (requestFaultLog L (some old) s).1 = cmdOk ∧
      (requestFaultLog L (some old) s).2.1 = some old ∧ ¬SoundLog L old s := by
  intro L refusal s old
  have hok : (requestFaultLog L (some old) s).1 = cmdOk := by decide +kernel
  have hold : (requestFaultLog L (some old) s).2.1 = some old := by decide +kernel
  refine ⟨hok, hold, fun h => ?_⟩
  obtain ⟨P, out, hx, hout, hlog⟩ := h hok
  have hlen : ((Call.requestFaultLog (some old)).exchange L s).map (List.map Packet.len) =
      some [4] := by decide +kernel
  rw [hx] at hlen
  have hP : P.len = 4 := (List.cons.inj (Option.some.inj hlen)).1
  obtain rfl : out = old := Option.some.inj (hout.symm.trans hold)
  -- The first entry would end behind the payload.
  have h0 := (hlog.entry 0 (by decide) (by decide)).1
  omega

end Ig4u.Cmd
