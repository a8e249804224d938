import InbandTelemetry.Frame.Lengths
import InbandTelemetry.Proofs.ByteStrings

namespace InbandTelemetry

/-!
# Where length fields lie

Raising the length fields of a frame overwrites a few bytes of its IPv4 header and
of its UDP header.  The headers are found by what the frame states about itself,
and a frame may state an IPv4 header that is shorter than the fixed one.  So the
fields need not lie before the bytes that were inserted.  Where they do, all that
lies behind them stays as it is.
-/

namespace Frame

variable {frame : Bytes} {growth offset : Nat}

/-- The offset behind the IPv4 header, as the frame states it. -/
def headerEnd (frame : Bytes) : Nat :=
  ethernetLength + Ipv4.headerLength (frame.drop ethernetLength)

/-- The fields of the IPv4 header end with its checksum, behind 26 bytes of the frame. -/
theorem drop_growIpv4 (long : ethernetLength + ipv4Length ≤ frame.length) (behind : 26 ≤ offset) :
    (growIpv4 frame growth).drop offset = frame.drop offset := by
  have enough : 34 ≤ frame.length := long
  have fits : ethernetLength + 2 + (Bytes.ofWord16 (growField
      (Ipv4.totalLength (frame.drop ethernetLength)) growth)).length ≤ frame.length := by
    rw [Bytes.length_ofWord16, ethernetLength]
    omega
  rw [growIpv4, Bytes.drop_overwrite, Bytes.drop_overwrite fits]
  · rw [Bytes.length_ofWord16, ethernetLength]
    omega
  · rw [Bytes.length_overwrite fits, Bytes.length_ofWord16, ethernetLength]
    omega
  · exact behind

theorem drop_growUdp {start : Nat} (behind : start + udpLength ≤ offset) :
    (growUdp frame start growth).drop offset = frame.drop offset := by
  rw [growUdp]
  split
  · rename_i long
    simp only [udpLength, List.length_drop] at long behind
    apply Bytes.drop_overwrite <;>
      simp only [List.length_append, Bytes.length_ofWord16, List.length_cons, List.length_nil] <;>
      omega
  · rfl

/-- Whether the fields that are raised for bytes inserted at an offset lie before these
bytes.  No field is raised if the frame states an IPv4 header that reaches further. -/
def FieldsBefore (frame : Bytes) (offset : Nat) : Prop :=
  26 ≤ offset ∨ offset < ethernetLength + Ipv4.headerLength (frame.drop ethernetLength)

instance (frame : Bytes) (offset : Nat) : Decidable (FieldsBefore frame offset) :=
  inferInstanceAs (Decidable (_ ∨ _))

theorem headerLength_congr {other : Bytes}
    (same : frame[ethernetLength]? = other[ethernetLength]?) :
    Ipv4.headerLength (frame.drop ethernetLength) =
      Ipv4.headerLength (other.drop ethernetLength) := by
  rw [Ipv4.headerLength, Ipv4.headerLength, Bytes.byteAt_drop, Bytes.byteAt_drop, Nat.add_zero,
    Bytes.byteAt_congr same]

/-- Bytes that are inserted behind the first byte of an IPv4 header change nothing
about what the header says of its length. -/
theorem headerLength_insertAt {data : Bytes} (inside : offset ≤ data.length)
    (behind : ethernetLength < offset) (content : Bytes) :
    Ipv4.headerLength ((Bytes.insertAt data offset content).drop ethernetLength) =
      Ipv4.headerLength (data.drop ethernetLength) :=
  headerLength_congr (Bytes.getElem?_insertAt_of_lt inside behind)

theorem FieldsBefore.insert {data : Bytes} (before : FieldsBefore data offset)
    (inside : offset ≤ data.length) (behind : ethernetLength < offset) (content : Bytes) :
    FieldsBefore (Bytes.insertAt data offset content) offset := by
  rw [FieldsBefore, headerLength_insertAt inside behind]
  exact before

theorem drop_growLengths (before : FieldsBefore frame offset) :
    (growLengths frame offset growth).drop offset = frame.drop offset := by
  rw [growLengths]
  dsimp only
  split
  · rfl
  · rename_i raises
    simp only [Bool.or_eq_true, decide_eq_true_eq, not_or, Nat.not_lt] at raises
    rcases raises with ⟨whole, reaches⟩
    have behind : 26 ≤ offset := before.resolve_right (Nat.not_lt.mpr reaches)
    have long : ethernetLength + ipv4Length ≤ frame.length := by
      rw [List.length_drop] at whole
      rw [ethernetLength, ipv4Length] at *
      omega
    split
    · rename_i carries
      simp only [Bool.and_eq_true, decide_eq_true_eq] at carries
      rw [drop_growUdp carries.2, drop_growIpv4 long behind]
    · exact drop_growIpv4 long behind

end Frame

end InbandTelemetry
