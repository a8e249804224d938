import InbandTelemetry.Proofs.HopPaths

namespace InbandTelemetry

/-!
# Measurements collected along a path

A block that asks for a measurement collects one record from every hop, until
its seven records are used up.  The record of a hop names the node and its two
gates.  Its value is the time between the two crossings, or what one of the two
gates had counted before its batch, according to the code in the header.
-/

open Telemetry

namespace Hop

/-- The value that a hop is to report.  A time difference is taken modulo two to the
power of 16, a count stops at the largest 16-bit value, and a code that is not
assigned leaves zero. -/
def value (hop : Hop) : Option Metric → UInt16
  | none => 0
  | some .latency => UInt16.ofInt ((hop.egress.now : Int) - (hop.ingress.now : Int))
  | some .ingressPacketRate => UInt16.ofNat (min 65535 hop.ingress.gate.counters.packets)
  | some .ingressByteRate => UInt16.ofNat (min 65535 hop.ingress.gate.counters.bytes)
  | some .egressPacketRate => UInt16.ofNat (min 65535 hop.egress.gate.counters.packets)
  | some .egressByteRate => UInt16.ofNat (min 65535 hop.egress.gate.counters.bytes)

/-- The record that a hop is to leave. -/
def measurement (hop : Hop) (metric : Option Metric) : HopRecord where
  nodeId := hop.nodeId
  ingress := hop.ingress.gate.reportId
  egress := hop.egress.gate.reportId
  value := hop.value metric

/-- The difference of two times read modulo two to the power of 16. -/
theorem ofNat_sub_ofNat (later earlier : Nat) :
    UInt16.ofNat later - UInt16.ofNat earlier =
      UInt16.ofInt ((later : Int) - (earlier : Int)) := by
  apply UInt16.toNat_inj.mp
  rw [UInt16.toNat_sub, UInt16.ofInt, UInt16.toNat_ofNat', UInt16.toNat_ofNat',
    UInt16.toNat_ofNat']
  omega

/-- What the two gates measure one after the other is the value of the hop. -/
theorem measure_measure (hop : Hop) (metric : Option Metric) :
    hop.egress.gate.measure metric true hop.egress.now
      (hop.ingress.gate.measure metric false hop.ingress.now 0) = hop.value metric := by
  have enters : hop.ingress.gate.isIngress = true := decide_eq_true hop.enters
  have leaves : hop.egress.gate.isIngress = false := by
    rw [Gate.isIngress, hop.leaves]
    rfl
  cases metric with
  | none => rfl
  | some metric =>
      cases metric with
      | latency =>
          simp only [Gate.measure, enters, leaves, Bool.false_eq_true, if_true, if_false]
          exact ofNat_sub_ofNat hop.egress.now hop.ingress.now
      -- only the gate of the direction that is asked for writes a count
      | ingressPacketRate | ingressByteRate =>
          simp only [Gate.measure, enters, leaves, Metric.isIngressRate, Metric.isByteRate,
            Bool.false_eq_true, Bool.true_eq_false, if_true, if_false]
          rw [Gate.reading, Nat.min_comm, value]
      | egressPacketRate | egressByteRate =>
          simp only [Gate.measure, enters, leaves, Metric.isIngressRate, Metric.isByteRate,
            Bool.false_eq_true, if_true, if_false]
          rw [Gate.reading, Nat.min_comm, value]

/-- Where no postcards are asked for, the stored record of a hop is its measurement.  The
tags of registered gates fit in their four bits. -/
theorem stored_record (hop : Hop) {header : Header} (measuring : header.postcard = false) :
    (hop.record header).stored = hop.measurement header.metric? := by
  have ingressTag := Bytes.mod_sixteen_of_le hop.ingress.checked.reportId_le
  have egressTag := Bytes.mod_sixteen_of_le hop.egress.checked.reportId_le
  have narrow : (hop.opening header).stored = hop.opening header := by
    rw [HopRecord.stored, opening, Gate.opening, ingressTag]
    rfl
  have whole : hop.record header = hop.measurement header.metric? := by
    rw [record, narrow, Gate.completed, if_neg (by rw [measuring]; exact Bool.false_ne_true)]
    have measured := hop.measure_measure header.metric?
    rw [measurement, ← measured]
    rfl
  rw [whole, HopRecord.stored, measurement, ingressTag, egressTag]

end Hop

namespace Path

/-- The records that a measuring block collects, one for every hop that finds room. -/
theorem record?_mark {hops : List Hop} {block : Block}
    (measuring : block.header.postcard = false) (index : Nat) (reached : index < hops.length)
    (room : block.count + index < 7) :
    (mark hops block).record? (block.count + index) =
      some (hops[index].measurement block.header.metric?) := by
  induction hops generalizing block index with
  | nil => contradiction
  | cons hop rest ih =>
      have next : (hop.mark block).count = min 7 (block.count + 1) := hop.count_mark (by omega)
      cases index with
      | zero =>
          rw [mark, record?_mark_of_lt rest (by omega) (by omega), Nat.add_zero,
            hop.record?_mark_count room, hop.stored_record measuring, List.getElem_cons_zero]
      | succ index =>
          have shifted : block.count + (index + 1) = (hop.mark block).count + index := by omega
          have same := hop.header_mark block
          have within : index < rest.length := Nat.lt_of_succ_lt_succ reached
          rw [mark, shifted, ih (same.1.trans measuring) index within (by omega), same.2,
            List.getElem_cons_succ]

/-- A packet crosses any number of nodes with a block that asks for a measurement.  The
block arrives behind the last hop with the records that it had, and behind them the
measurements of the hops in the order of the path, as many as there was room for. -/
theorem measurements_collected {packet : Packet} {block : Block} {position : Nat}
    {hops : List Hop} (carried : Block.at? packet.data position = some block)
    (measuring : block.header.postcard = false) (counted : block.count ≤ 7)
    (unopened : packet.metadata.openRecord = none)
    (fits : Fits packet.data.length position hops) :
    ∃ passed collected, traverse hops packet = some passed ∧
      Block.at? passed.data (stop position hops) = some collected ∧
      collected.count = min 7 (block.count + hops.length) ∧
      (∀ index < block.count, collected.record? index = block.record? index) ∧
      ∀ (index : Nat) (reached : index < hops.length), index < 7 - block.count →
        collected.record? (block.count + index) =
          some (hops[index].measurement block.header.metric?) := by
  have carries : packet.Carries position block (Bytes.without packet.data position 36) :=
    ⟨carried, rfl, Or.inr unopened⟩
  rcases traverse_spec carries fits with ⟨passed, success, arrived⟩
  refine ⟨passed, mark hops block, success, arrived.found, count_mark hops counted, ?_, ?_⟩
  · intro index earlier
    exact record?_mark_of_lt hops counted earlier
  · intro index reached room
    exact record?_mark measuring index reached (by omega)

/-- Two nodes, with the block at the front of the packet inside the first of them.  The
clock of the second node runs behind at its egress gate. -/
def twoNodes : List Hop :=
  [.plain 7 3 5 4 0 2 1000 1250, .plain 8 1 2 2 2 4 1500 1400]

/-- A packet that asks the two nodes for latencies, between four bytes and two more. -/
def latencyRequest : Packet where
  data := [1, 2, 3, 4] ++ (Block.fresh (.request .latency)).bytes ++ [5, 6]

theorem latencies_of_twoNodes :
    ∃ passed collected, traverse twoNodes latencyRequest = some passed ∧
      Block.at? passed.data 4 = some collected ∧ collected.count = 2 ∧
      collected.record? 0 = some ⟨7, 3, 5, 250⟩ ∧
      collected.record? 1 = some ⟨8, 1, 2, 65436⟩ := by
  have carried : Block.at? latencyRequest.data 4 = some (Block.fresh (.request .latency)) := by
    decide
  have fits : Fits latencyRequest.data.length 4 twoNodes := by
    refine ⟨⟨rfl, ?_, rfl, rfl, ?_, rfl⟩, ⟨rfl, ?_, rfl, rfl, ?_, rfl⟩, trivial⟩ <;> decide
  have empty : (Block.fresh (.request .latency)).count = 0 := by decide
  rcases measurements_collected carried (by decide) (by decide) rfl fits with
    ⟨passed, collected, success, arrived, counted, -, measured⟩
  rw [empty] at counted measured
  refine ⟨passed, collected, success, arrived, counted, ?_, ?_⟩
  · exact (measured 0 (by decide) (by decide)).trans (by decide)
  · exact (measured 1 (by decide) (by decide)).trans (by decide)

end Path

end InbandTelemetry
