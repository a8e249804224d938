import InbandTelemetry.Proofs.Checksums
import InbandTelemetry.Proofs.LengthFields

namespace InbandTelemetry

/-!
# What is raised in a frame

Raising the length fields of a frame touches a total length, a checksum and the two last
words of a UDP header, and no other byte.  Where these lie is said by the length that the
frame states of its IPv4 header.  If that header is at least the fixed one, it verifies
afterwards, and the fields of the UDP header lie behind it.
-/

namespace Frame

variable {frame : Bytes} {growth offset index : Nat}

/-- Whether a byte belongs to the fields that are raised or renewed in a frame into which
bytes have been inserted at an offset. -/
def RaisedAt (frame : Bytes) (offset index : Nat) : Prop :=
  headerEnd frame ≤ offset ∧
    (16 ≤ index ∧ index < 18 ∨ 24 ≤ index ∧ index < 26 ∨
      Ipv4.protocol (frame.drop ethernetLength) = 17 ∧ headerEnd frame + udpLength ≤ offset ∧
        headerEnd frame + 4 ≤ index ∧ index < headerEnd frame + 8)

theorem headerLength_le (packet : Bytes) : Ipv4.headerLength packet ≤ 60 := by
  have narrow := UInt8.le_iff_toNat_le.mp (Bytes.lowNibble_le (Bytes.byteAt packet 0))
  rw [Ipv4.headerLength]
  exact Nat.mul_le_mul_right 4 narrow

theorem toNat_growField (length : UInt16) (growth : Nat) :
    (growField length growth).toNat = min 65535 (length.toNat + growth) := by
  rw [growField, UInt16.toNat_ofNat']
  omega

/-! ## The IPv4 header -/

/-- A frame with another total length in its IPv4 header. -/
def withTotalLength (frame : Bytes) (total : UInt16) : Bytes :=
  Bytes.overwrite frame 16 (Bytes.ofWord16 total)

theorem totalLength_eq (frame : Bytes) :
    Ipv4.totalLength (frame.drop ethernetLength) = Bytes.word16At frame 16 := by
  rw [Ipv4.totalLength, Bytes.word16At_drop, ethernetLength]

theorem protocol_eq (frame : Bytes) :
    Ipv4.protocol (frame.drop ethernetLength) = Bytes.byteAt frame 23 := by
  rw [Ipv4.protocol, Bytes.byteAt_drop, ethernetLength]

theorem growIpv4_eq (frame : Bytes) (growth : Nat) :
    growIpv4 frame growth =
      let raised := withTotalLength frame (growField (Bytes.word16At frame 16) growth)
      Bytes.overwrite raised 24
        (Bytes.ofWord16 (Checksum.ipv4 (raised.drop ethernetLength))) := by
  rw [growIpv4, totalLength_eq]
  rfl

section Ipv4Header

variable (growth) (long : 34 ≤ frame.length)

include long

theorem length_withTotalLength (total : UInt16) :
    (withTotalLength frame total).length = frame.length := by
  apply Bytes.length_overwrite
  rw [Bytes.length_ofWord16]
  omega

theorem length_growIpv4 : (growIpv4 frame growth).length = frame.length := by
  have raised := length_withTotalLength long (growField (Bytes.word16At frame 16) growth)
  rw [growIpv4_eq]
  dsimp only
  rw [Bytes.length_overwrite, raised]
  rw [raised, Bytes.length_ofWord16]
  omega

theorem getElem?_growIpv4 (apart : ¬ (16 ≤ index ∧ index < 18) ∧ ¬ (24 ≤ index ∧ index < 26)) :
    (growIpv4 frame growth)[index]? = frame[index]? := by
  have raised := length_withTotalLength long (growField (Bytes.word16At frame 16) growth)
  rw [growIpv4_eq]
  dsimp only
  rw [Bytes.getElem?_overwrite_of_apart (by rw [raised]; omega), withTotalLength,
    Bytes.getElem?_overwrite_of_apart (by omega)]
  all_goals
    rw [Bytes.length_ofWord16]
    omega

theorem word16At_growIpv4 :
    Bytes.word16At (growIpv4 frame growth) 16 = growField (Bytes.word16At frame 16) growth := by
  have raised := length_withTotalLength long (growField (Bytes.word16At frame 16) growth)
  have first : Bytes.word16At (withTotalLength frame (growField (Bytes.word16At frame 16) growth))
      16 = growField (Bytes.word16At frame 16) growth := by
    rw [withTotalLength, ← List.append_nil (Bytes.ofWord16 _)]
    apply Bytes.word16At_overwrite
    rw [List.append_nil, Bytes.length_ofWord16]
    omega
  rw [growIpv4_eq]
  dsimp only
  rw [← first]
  apply Bytes.word16At_congr
  all_goals
    rw [first]
    apply Bytes.getElem?_overwrite_of_apart
    · omega
    · omega

/-- An IPv4 header that is at least the fixed one and lies in the frame verifies when its
total length has been raised. -/
theorem onesSum_growIpv4 (whole : ipv4Length ≤ Ipv4.headerLength (frame.drop ethernetLength))
    (inside : headerEnd frame ≤ frame.length) :
    Checksum.onesSum (Bytes.window (growIpv4 frame growth) ethernetLength
      (Ipv4.headerLength (frame.drop ethernetLength))) = 65535 := by
  have raisedLength := length_withTotalLength long (growField (Bytes.word16At frame 16) growth)
  rw [growIpv4_eq]
  dsimp only
  generalize raising :
    withTotalLength frame (growField (Bytes.word16At frame 16) growth) = raised at *
  -- the checksum is computed when the total length has been raised, over the stated header
  have stated : Ipv4.headerLength (raised.drop ethernetLength) =
      Ipv4.headerLength (frame.drop ethernetLength) := by
    apply headerLength_congr
    rw [← raising, withTotalLength]
    apply Bytes.getElem?_overwrite_of_apart
    · omega
    · exact Or.inl (by decide)
  have narrow := headerLength_le (frame.drop ethernetLength)
  rw [headerEnd] at inside
  generalize Ipv4.headerLength (frame.drop ethernetLength) = length at *
  simp only [ethernetLength, ipv4Length] at *
  have covered : Checksum.ipv4 (raised.drop 14) =
      Checksum.complement (Checksum.addWordsExcept 0 5 (Bytes.window raised 14 length)) := by
    have all : max 20 (min length (raised.drop 14).length) = length := by
      rw [List.length_drop]
      omega
    rw [Checksum.ipv4, stated, ipv4Length, all, Bytes.window]
  have size : (Bytes.window raised 14 length).length = length :=
    Bytes.length_window (by omega)
  have verifies := Checksum.onesSum_of_checksum
    (show 2 * 5 + 2 ≤ (Bytes.window raised 14 length).length by omega) (by omega)
  rw [covered]
  generalize Checksum.complement _ = checksum at verifies ⊢
  have word := Bytes.length_ofWord16 checksum
  rw [Bytes.window_overwrite_of_within (by rw [word]; omega) (by decide) (by rw [word]; omega)]
  exact verifies

end Ipv4Header

/-! ## The UDP header -/

section UdpHeader

variable {start : Nat} (growth) (inside : start + 8 ≤ frame.length)

include inside

theorem growUdp_eq :
    growUdp frame start growth =
      Bytes.overwrite frame (start + 4)
        (Bytes.ofWord16 (growField (Bytes.word16At frame (start + 4)) growth) ++ [0, 0]) := by
  have whole : udpLength ≤ (frame.drop start).length := by
    rw [udpLength, List.length_drop]
    omega
  rw [growUdp, if_pos whole]

theorem length_growUdp : (growUdp frame start growth).length = frame.length := by
  rw [growUdp_eq _ inside]
  exact Bytes.length_overwrite inside

theorem getElem?_growUdp (apart : ¬ (start + 4 ≤ index ∧ index < start + 8)) :
    (growUdp frame start growth)[index]? = frame[index]? := by
  rw [growUdp_eq _ inside]
  apply Bytes.getElem?_overwrite_of_apart (by omega)
  rw [List.length_append, Bytes.length_ofWord16, List.length_cons, List.length_singleton]
  omega

theorem word16At_growUdp :
    Bytes.word16At (growUdp frame start growth) (start + 4) =
        growField (Bytes.word16At frame (start + 4)) growth ∧
      Bytes.word16At (growUdp frame start growth) (start + 6) = 0 := by
  rw [growUdp_eq _ inside]
  generalize growField (Bytes.word16At frame (start + 4)) growth = length
  constructor
  · exact Bytes.word16At_overwrite inside
  · have cleared (index : Nat) (late : index = 2 ∨ index = 3) : Bytes.byteAt
        (Bytes.overwrite frame (start + 4) (Bytes.ofWord16 length ++ [0, 0]))
          (start + 4 + index) = 0 := by
      have size : (Bytes.ofWord16 length ++ [0, 0]).length = 4 := rfl
      rw [Bytes.byteAt_overwrite inside, if_pos (by omega), Nat.add_sub_cancel_left]
      rcases late with rfl | rfl <;> rfl
    rw [Bytes.word16At, cleared 2 (Or.inl rfl), cleared 3 (Or.inr rfl)]
    rfl

end UdpHeader

/-! ## The whole frame -/

theorem growLengths_eq (long : 34 ≤ frame.length) :
    growLengths frame offset growth =
      if offset < headerEnd frame then frame
      else if Ipv4.protocol (frame.drop ethernetLength) = 17 ∧
          headerEnd frame + udpLength ≤ offset then
        growUdp (growIpv4 frame growth) (headerEnd frame) growth
      else growIpv4 frame growth := by
  have whole : ¬ (frame.drop ethernetLength).length < ipv4Length := by
    rw [List.length_drop, ethernetLength, ipv4Length]
    omega
  have protocol : Ipv4.protocol ((growIpv4 frame growth).drop ethernetLength) =
      Ipv4.protocol (frame.drop ethernetLength) := by
    rw [protocol_eq, protocol_eq]
    exact Bytes.byteAt_congr (getElem?_growIpv4 _ long (by decide))
  rw [growLengths]
  dsimp only
  rw [protocol]
  simp only [whole, decide_false, Bool.false_or, decide_eq_true_eq, Bool.and_eq_true, headerEnd]
  rfl

/-- A UDP header that ends before an offset in the frame lies in the frame with the raised
IPv4 header, too. -/
theorem room_growIpv4 (long : 34 ≤ frame.length) (inside : offset ≤ frame.length)
    (reaches : headerEnd frame + udpLength ≤ offset) :
    headerEnd frame + 8 ≤ (growIpv4 frame growth).length := by
  rw [length_growIpv4 _ long]
  exact Nat.le_trans reaches inside

theorem growLengths_of_lt (long : 34 ≤ frame.length) (beyond : offset < headerEnd frame) :
    growLengths frame offset growth = frame := by
  rw [growLengths_eq long, if_pos beyond]

theorem length_growLengths (long : 34 ≤ frame.length) (inside : offset ≤ frame.length) :
    (growLengths frame offset growth).length = frame.length := by
  have size := length_growIpv4 growth long
  rw [growLengths_eq long]
  split
  · rfl
  · split
    · rename_i carries
      rw [length_growUdp _ (room_growIpv4 long inside carries.2), size]
    · exact size

/-- No other bytes are touched than those of the fields. -/
theorem getElem?_growLengths (long : 34 ≤ frame.length) (inside : offset ≤ frame.length)
    (apart : ¬ RaisedAt frame offset index) :
    (growLengths frame offset growth)[index]? = frame[index]? := by
  rw [growLengths_eq long]
  split
  · rfl
  · rename_i reached
    have outside : ¬ (16 ≤ index ∧ index < 18) ∧ ¬ (24 ≤ index ∧ index < 26) :=
      ⟨fun total => apart ⟨Nat.le_of_not_lt reached, Or.inl total⟩,
        fun checksum => apart ⟨Nat.le_of_not_lt reached, Or.inr (Or.inl checksum)⟩⟩
    split
    · rename_i carries
      rw [getElem?_growUdp _ (room_growIpv4 long inside carries.2),
        getElem?_growIpv4 _ long outside]
      exact fun fields => apart ⟨Nat.le_of_not_lt reached,
        Or.inr (Or.inr ⟨carries.1, carries.2, fields⟩)⟩
    · exact getElem?_growIpv4 _ long outside

/-- What the fields of a frame say behind the raise, compared with a frame before it. -/
structure Renewed (before after : Bytes) (offset growth : Nat) : Prop where
  total : (Ipv4.totalLength (after.drop ethernetLength)).toNat =
    min 65535 ((Ipv4.totalLength (before.drop ethernetLength)).toNat + growth)
  verifies : Checksum.onesSum (Bytes.window after ethernetLength
    (Ipv4.headerLength (before.drop ethernetLength))) = 65535
  udp : Ipv4.protocol (before.drop ethernetLength) = 17 → headerEnd before + udpLength ≤ offset →
    (Bytes.word16At after (headerEnd before + 4)).toNat =
        min 65535 ((Bytes.word16At before (headerEnd before + 4)).toNat + growth) ∧
      Bytes.word16At after (headerEnd before + 6) = 0

/-- Behind an IPv4 header that is at least the fixed one, the fields are right. -/
theorem renewed_growLengths (long : 34 ≤ frame.length) (inside : offset ≤ frame.length)
    (whole : ipv4Length ≤ Ipv4.headerLength (frame.drop ethernetLength))
    (reached : headerEnd frame ≤ offset) :
    Renewed frame (growLengths frame offset growth) offset growth := by
  have late : 34 ≤ headerEnd frame := Nat.add_le_add_left whole 14
  have total := word16At_growIpv4 growth long
  have verifies := onesSum_growIpv4 growth long whole (Nat.le_trans reached inside)
  rw [growLengths_eq long, if_neg (Nat.not_lt.mpr reached)]
  split
  · rename_i carries
    have room : headerEnd frame + 8 ≤ (growIpv4 frame growth).length :=
      room_growIpv4 long inside carries.2
    -- the fields of the UDP header lie behind the IPv4 header, so each raise keeps what the
    -- other one has written
    have early : Bytes.word16At (growUdp (growIpv4 frame growth) (headerEnd frame) growth) 16 =
        Bytes.word16At (growIpv4 frame growth) 16 := by
      apply Bytes.word16At_congr
      all_goals exact getElem?_growUdp _ room (by omega)
    have behind : Bytes.word16At (growIpv4 frame growth) (headerEnd frame + 4) =
        Bytes.word16At frame (headerEnd frame + 4) := by
      apply Bytes.word16At_congr
      all_goals exact getElem?_growIpv4 _ long (by omega)
    rcases word16At_growUdp growth room with ⟨length, cleared⟩
    refine ⟨?_, ?_, fun _ _ => ⟨?_, cleared⟩⟩
    · rw [totalLength_eq, totalLength_eq, early, total, toNat_growField]
    · rw [growUdp_eq _ room, Bytes.window_overwrite_of_apart]
      · exact verifies
      · omega
      · exact Nat.le_trans (Nat.le_add_right _ 8) room
      · exact Or.inr (Nat.le_add_right _ 4)
    · rw [length, behind, toNat_growField]
  · rename_i other
    refine ⟨?_, verifies, fun protocol room => absurd ⟨protocol, room⟩ other⟩
    rw [totalLength_eq, totalLength_eq, total, toNat_growField]

end Frame

end InbandTelemetry
