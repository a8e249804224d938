import InbandTelemetry.Gate.Table

namespace InbandTelemetry

/-!
# Configured gates

A gate comes into a table by registration and is changed by configuration only,
apart from its counters, which the data path keeps.  Each of these operations
checks the fields that it sets, so that the checks hold of every gate that is
ever found in such a table.
-/

/-- The fields of a gate have passed the checks of the operations that set them. -/
structure Gate.Checked (gate : Gate) : Prop where
  reportId_le : gate.reportId ≤ 15
  nextProtocol_le : gate.nextProtocol ≤ 15
  overlay_bounds : ∀ overlay ∈ gate.overlay,
    0 < overlay.content.length ∧ overlay.content.length ≤ maxOverlay

namespace Gate

/-- A gate that hands blocks on from one position to another, and writes nothing else. -/
def plain (direction : Direction) (reportId : UInt8) (readAt writeAt : Nat) : Gate :=
  { Gate.fresh direction reportId 0 with readAt, writeAt }

theorem checked_plain {direction : Direction} {reportId : UInt8} {readAt writeAt : Nat}
    (narrow : reportId ≤ 15) : (plain direction reportId readAt writeAt).Checked :=
  ⟨narrow, UInt8.le_iff_toNat_le.mpr (Nat.zero_le _), nofun⟩

end Gate

namespace GateTable

/-- A table that has come about by registration and configuration.  The counters of a
gate may meanwhile have become anything. -/
inductive Configured : GateTable → Prop where
  | empty : Configured {}
  | register {table later : GateTable} {id : GateId} {direction : Direction} {reportId : UInt8}
      {interval : Nat} : Configured table →
      table.register id direction reportId interval = .ok later → Configured later
  | setPositions {table later : GateTable} {id : GateId} {readAt writeAt : Nat} :
      Configured table → table.setPositions id readAt writeAt = .ok later → Configured later
  | setPostcard {table later : GateTable} {id : GateId} {truncateAt : Nat}
      {nextProtocol : UInt8} : Configured table →
      table.setPostcard id truncateAt nextProtocol = .ok later → Configured later
  | setOverlay {table later : GateTable} {id : GateId} {position : Nat} {content : Bytes} :
      Configured table → table.setOverlay id position content = .ok later → Configured later
  | count {table : GateTable} {id : GateId} {counters : Gate → Counters} : Configured table →
      Configured (table.modify id fun gate => { gate with counters := counters gate })

/-- All gates that are found in a table are checked. -/
def AllChecked (table : GateTable) : Prop :=
  ∀ id gate, table.find? id = some gate → gate.Checked

theorem allChecked_modify {table : GateTable} {change : Gate → Gate}
    (checked : table.AllChecked) (keeps : ∀ gate, gate.Checked → (change gate).Checked)
    (id : GateId) : (table.modify id change).AllChecked := by
  intro other gate found
  rw [find?_modify] at found
  split at found
  · rcases Option.map_eq_some_iff.mp found with ⟨before, known, rfl⟩
    exact keeps before (checked other before known)
  · exact checked other gate found

theorem allChecked_configure {table later : GateTable} {change : Gate → Gate} {id : GateId}
    (checked : table.AllChecked) (keeps : ∀ gate, gate.Checked → (change gate).Checked)
    (success : table.configure id change = .ok later) : later.AllChecked := by
  rw [configure] at success
  split at success
  · cases success
    exact allChecked_modify checked keeps id
  · contradiction

theorem allChecked_register {table later : GateTable} {id : GateId} {direction : Direction}
    {reportId : UInt8} {interval : Nat} (checked : table.AllChecked)
    (success : table.register id direction reportId interval = .ok later) :
    later.AllChecked := by
  rw [register] at success
  split at success
  · contradiction
  · rename_i narrow
    split at success
    · rename_i absent
      cases success
      intro other gate found
      rw [find?_insert] at found
      split at found
      · cases found
        refine ⟨UInt8.not_lt.mp narrow, UInt8.le_iff_toNat_le.mpr (Nat.zero_le _), ?_⟩
        intro overlay impossible
        cases impossible
      · exact checked other gate found
    · contradiction

/-- Whatever is registered and configured, every gate in the table is checked. -/
theorem Configured.allChecked {table : GateTable} (configured : table.Configured) :
    table.AllChecked := by
  induction configured with
  | empty =>
      intro id gate impossible
      cases impossible
  | register _ success ih => exact allChecked_register ih success
  | setPositions _ success ih =>
      refine allChecked_configure ih ?_ success
      intro gate checked
      exact ⟨checked.reportId_le, checked.nextProtocol_le, checked.overlay_bounds⟩
  | setPostcard _ success ih =>
      rw [GateTable.setPostcard] at success
      split at success
      · contradiction
      · rename_i narrow
        refine allChecked_configure ih ?_ success
        intro gate checked
        exact ⟨checked.reportId_le, UInt8.not_lt.mp narrow, checked.overlay_bounds⟩
  | @setOverlay _ _ _ position content _ success ih =>
      rw [GateTable.setOverlay] at success
      split at success
      · contradiction
      · rename_i short
        refine allChecked_configure ih ?_ success
        intro gate checked
        refine ⟨checked.reportId_le, checked.nextProtocol_le, ?_⟩
        intro overlay found
        dsimp only at found
        split at found
        · cases found
        · rename_i nonempty
          cases found
          have present : content ≠ [] := fun empty => nonempty (List.isEmpty_iff.mpr empty)
          exact ⟨List.length_pos_iff.mpr present, Nat.le_of_not_lt short⟩
  | count _ ih =>
      refine allChecked_modify ih ?_ _
      intro gate checked
      exact ⟨checked.reportId_le, checked.nextProtocol_le, checked.overlay_bounds⟩

/-! ## Tables with a single gate -/

/-- A table with a single gate. -/
def only (gate : Gate) : GateTable := insert {} 0 gate rfl

theorem find?_only (gate : Gate) : (only gate).find? 0 = some gate := rfl

section Only

variable {gate : Gate}

theorem configured_only_fresh (direction : Direction) {reportId : UInt8} (narrow : reportId ≤ 15) :
    (only (.fresh direction reportId 0)).Configured := by
  have success : register {} 0 direction reportId 0 = .ok (only (.fresh direction reportId 0)) :=
    if_neg (UInt8.not_lt.mpr narrow)
  exact .register .empty success

theorem configured_only_positions (configured : (only gate).Configured) (readAt writeAt : Nat) :
    (only { gate with readAt, writeAt }).Configured := by
  have success : (only gate).setPositions 0 readAt writeAt =
      .ok (only { gate with readAt, writeAt }) := rfl
  exact .setPositions configured success

theorem configured_only_postcard (configured : (only gate).Configured) (truncateAt : Nat)
    {nextProtocol : UInt8} (narrow : nextProtocol ≤ 15) :
    (only { gate with truncateAt, nextProtocol }).Configured := by
  have success : (only gate).setPostcard 0 truncateAt nextProtocol =
      .ok (only { gate with truncateAt, nextProtocol }) := if_neg (UInt8.not_lt.mpr narrow)
  exact .setPostcard configured success

theorem configured_only_overlay (configured : (only gate).Configured) {overlay : Overlay}
    (nonempty : 0 < overlay.content.length) (short : overlay.content.length ≤ maxOverlay) :
    (only { gate with overlay := some overlay }).Configured := by
  have present : overlay.content.isEmpty = false := by
    cases content : overlay.content with
    | nil =>
        rw [content] at nonempty
        contradiction
    | cons first rest => rfl
  have success : (only gate).setOverlay 0 overlay.position overlay.content =
      .ok (only { gate with overlay := some overlay }) := by
    rw [setOverlay, if_neg (Nat.not_lt.mpr short), present]
    rfl
  exact .setOverlay configured success

/-- The checks are all that registration and configuration ask for: every checked gate
comes about in this way. -/
theorem configured_only (checked : gate.Checked) : (only gate).Configured := by
  rcases gate with
    ⟨direction, reportId, readAt, writeAt, truncateAt, nextProtocol, overlay, counters⟩
  rcases checked with ⟨tagged, protocol, bounds⟩
  have plain := configured_only_postcard
    (configured_only_positions (configured_only_fresh direction tagged) readAt writeAt) truncateAt
    protocol
  have whole : (only ⟨direction, reportId, readAt, writeAt, truncateAt, nextProtocol, overlay,
      { interval := 0 }⟩).Configured := by
    cases overlay with
    | none => exact plain
    | some overlay =>
        have fits := bounds overlay rfl
        exact configured_only_overlay plain fits.1 fits.2
  exact @Configured.count _ 0 (fun _ => counters) whole

end Only

end GateTable

end InbandTelemetry
