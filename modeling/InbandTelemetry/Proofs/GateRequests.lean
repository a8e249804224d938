import Mathlib.Data.Set.Card
import InbandTelemetry.Proofs.GateTables
import InbandTelemetry.Proofs.Postcards

namespace InbandTelemetry

/-!
# Requests to a table of gates

What can be asked of a table is listed as data, so that a table in use is the empty one and
the requests that have been put to it.  What a request makes of the table is said once more,
of a finite map from numbers to gates.  The table is this map, whatever has been asked of it.
A refused request leaves no trace, and it is refused for a fault in its arguments first, and
then for a gate that is there or is not.

Since every argument is checked, the tags of a gate fit into the four bits that records and
postcards have for them, and are read back as they were stamped.
-/

open Telemetry

/-! ## Tags that fit -/

namespace Telemetry

/-- The tags of a record fit in four bits. -/
structure HopRecord.Narrow (record : HopRecord) : Prop where
  ingress_le : record.ingress ≤ 15
  egress_le : record.egress ≤ 15

/-- The tag that a record has from the gate of one direction. -/
def HopRecord.tag (record : HopRecord) : Direction → UInt8
  | .ingress => record.ingress
  | .egress => record.egress

theorem HopRecord.Narrow.stored_eq {record : HopRecord} (narrow : record.Narrow) :
    record.stored = record := by
  rw [stored, Bytes.mod_sixteen_of_le narrow.ingress_le, Bytes.mod_sixteen_of_le narrow.egress_le]

theorem HopRecord.narrow_opened (nodeId : UInt8) : (HopRecord.opened nodeId).Narrow :=
  ⟨UInt8.le_iff_toNat_le.mpr (Nat.zero_le _), UInt8.le_iff_toNat_le.mpr (Nat.zero_le _)⟩

theorem Block.narrow_of_record? {block : Block} {index : Nat} {record : HopRecord}
    (found : block.record? index = some record) : record.Narrow := by
  rw [record?] at found
  split at found
  · cases found
    exact ⟨Bytes.highNibble_le _, Bytes.lowNibble_le _⟩
  · contradiction

end Telemetry

namespace Gate

variable {gate : Gate}

theorem tag_label (gate : Gate) (record : HopRecord) :
    (gate.label record).tag gate.direction = gate.reportId := by
  rw [label]
  cases gate.direction <;> rfl

theorem narrow_label {record : HopRecord} (checked : gate.Checked) (narrow : record.Narrow) :
    (gate.label record).Narrow := by
  rw [label]
  split
  · exact ⟨checked.reportId_le, narrow.egress_le⟩
  · exact ⟨narrow.ingress_le, checked.reportId_le⟩

/-- A record that a checked gate writes has its own tag beside that of a record in the block, or
beside none. -/
theorem narrow_begun (checked : gate.Checked) (nodeId : UInt8) (openRecord : Option Nat)
    (block : Block) : (gate.begun nodeId openRecord block).Narrow := by
  apply narrow_label checked
  split
  · cases found : block.record? (gate.recordIndex nodeId openRecord block) with
    | none => exact HopRecord.narrow_opened nodeId
    | some old => exact Block.narrow_of_record? found
  · exact HopRecord.narrow_opened nodeId

/-- Whatever a gate stamps is read back from four bits as it was stamped: the record that it
writes into a block, and the header of a postcard about the record that it reports. -/
structure Legible (gate : Gate) : Prop where
  tagged : ∀ (nodeId : UInt8) (openRecord : Option Nat) (block : Block),
    (gate.begun nodeId openRecord block).tag gate.direction = gate.reportId
  record : ∀ (nodeId : UInt8) (openRecord : Option Nat) (now : Nat) (block : Block),
    gate.recordIndex nodeId openRecord block < Block.maxRecords →
      (gate.stamp nodeId openRecord now block).block.record?
          (gate.recordIndex nodeId openRecord block) =
        some { gate.begun nodeId openRecord block with
          value := gate.value nodeId openRecord now block }
  postcard : ∀ (forwarder : Forwarder) (openRecord : Option Nat) (now : Nat) (block : Block)
      (report : HopRecord),
    (gate.stamp forwarder.nodeId openRecord now block).report = some report →
      report.egress = gate.reportId ∧
        ∀ body, Postcard.decode ((forwarder.postcardHeader gate report now).encode ++ body) =
          .ok ⟨forwarder.postcardHeader gate report now, body⟩

theorem Checked.legible (checked : gate.Checked) : gate.Legible where
  tagged := fun _ _ _ => gate.tag_label _
  record := by
    intro nodeId openRecord now block room
    rw [record?_stamp nodeId openRecord now block room]
    apply congrArg some
    apply HopRecord.Narrow.stored_eq
    have narrow := narrow_begun checked nodeId openRecord block
    exact ⟨narrow.ingress_le, narrow.egress_le⟩
  postcard := by
    intro forwarder openRecord now block report reported
    rw [report_stamp, Option.ite_none_right_eq_some] at reported
    rcases reported with ⟨exported, same⟩
    cases same
    have leaves : gate.direction = .egress := by
      rw [exports, Bool.and_eq_true] at exported
      exact of_decide_eq_true exported.2
    have tags := narrow_begun checked forwarder.nodeId openRecord block
    have narrow : (forwarder.postcardHeader gate (gate.begun forwarder.nodeId openRecord block)
        now).Narrow :=
      ⟨UInt8.le_iff_toNat_le.mpr (Nat.zero_le _), checked.nextProtocol_le, tags.ingress_le,
        tags.egress_le⟩
    constructor
    · rw [begun, label, leaves]
    · intro body
      have read : Postcard.decode (Postcard.encode ⟨_, body⟩) = .ok ⟨_, body⟩ :=
        Postcard.decode_encode narrow
      exact read

end Gate

namespace GateTable

/-! ## Requests -/

/-- What can be asked of a table of gates. -/
inductive Request where
  | register (id : GateId) (direction : Direction) (reportId : UInt8) (interval : Nat)
  | setPositions (id : GateId) (readAt writeAt : Nat)
  | setPostcard (id : GateId) (truncateAt : Nat) (nextProtocol : UInt8)
  | setOverlay (id : GateId) (position : Nat) (content : Bytes)
  | clear

/-- The table that a request asks for, or the reason why it is refused. -/
def request (table : GateTable) : Request → Except ConfigError GateTable
  | .register id direction reportId interval => table.register id direction reportId interval
  | .setPositions id readAt writeAt => table.setPositions id readAt writeAt
  | .setPostcard id truncateAt nextProtocol => table.setPostcard id truncateAt nextProtocol
  | .setOverlay id position content => table.setOverlay id position content
  | .clear => .ok {}

/-- Put a request to a table: the answer, and the table afterwards. -/
def put (table : GateTable) (asked : Request) : Except ConfigError Unit × GateTable :=
  match table.request asked with
  | .ok later => (.ok (), later)
  | .error fault => (.error fault, table)

/-- The table after requests, the first one first. -/
def after (table : GateTable) (asked : List Request) : GateTable :=
  asked.foldl (fun table asked => (table.put asked).2) table

/-- Those of the requests that are carried out. -/
def granted (table : GateTable) : List Request → List Request
  | [] => []
  | asked :: rest =>
      match table.request asked with
      | .ok later => asked :: later.granted rest
      | .error _ => table.granted rest

namespace Request

/-- The number under which a request registers a gate. -/
def registers? : Request → Option GateId
  | .register id .. => some id
  | _ => none

/-- The number of the gate that a request configures. -/
def configures? : Request → Option GateId
  | .setPositions id .. | .setPostcard id .. | .setOverlay id .. => some id
  | _ => none

/-- What a request that is carried out makes of a map from numbers to gates. -/
def apply (asked : Request) (gates : GateId → Option Gate) : GateId → Option Gate :=
  match asked with
  | .register id direction reportId interval =>
      Function.update gates id (some (.fresh direction reportId interval))
  | .setPositions id readAt writeAt =>
      Function.update gates id ((gates id).map fun gate => { gate with readAt, writeAt })
  | .setPostcard id truncateAt nextProtocol =>
      Function.update gates id ((gates id).map fun gate => { gate with truncateAt, nextProtocol })
  | .setOverlay id position content =>
      Function.update gates id ((gates id).map fun gate =>
        { gate with overlay := if content = [] then none else some ⟨position, content⟩ })
  | .clear => fun _ => none

/-- An argument of a request does not pass its check, whatever the gates are. -/
inductive Faulty : Request → ArgumentError → Prop where
  | reportId {id : GateId} {direction : Direction} {reportId : UInt8} {interval : Nat} :
      15 < reportId → Faulty (.register id direction reportId interval) (.reportId reportId)
  | nextProtocol {id : GateId} {truncateAt : Nat} {nextProtocol : UInt8} :
      15 < nextProtocol →
      Faulty (.setPostcard id truncateAt nextProtocol) (.nextProtocol nextProtocol)
  | overlayLength {id : GateId} {position : Nat} {content : Bytes} :
      64 < content.length →
      Faulty (.setOverlay id position content) (.overlayLength content.length)

end Request

/-! ## One request -/

section Request

variable {table later : GateTable} {id : GateId} {asked : Request} {fault : ConfigError}

/-- All ends that a request can have.  It has a fault, or it finds a gate where it wants to register
one, or none where it wants to configure one, or it is carried out. -/
inductive EndsIn (table : GateTable) (asked : Request) : Except ConfigError GateTable → Prop where
  | faulty {cause : ArgumentError} :
      asked.Faulty cause → EndsIn table asked (.error (.invalidArgument cause))
  | taken {id : GateId} : (∀ cause, ¬ asked.Faulty cause) → asked.registers? = some id →
      table.find? id ≠ none → EndsIn table asked (.error (.alreadyExists id))
  | missing {id : GateId} : (∀ cause, ¬ asked.Faulty cause) → asked.configures? = some id →
      table.find? id = none → EndsIn table asked (.error (.notFound id))
  | granted {later : GateTable} : (∀ cause, ¬ asked.Faulty cause) →
      (∀ id, asked.registers? = some id → table.find? id = none) →
      (∀ id, asked.configures? = some id → table.find? id ≠ none) →
      later.find? = asked.apply table.find? → EndsIn table asked (.ok later)

/-- A change reaches the gate with its number. -/
theorem find?_modify_eq_update (table : GateTable) (id : GateId) (change : Gate → Gate) :
    (table.modify id change).find? =
      Function.update table.find? id ((table.find? id).map change) := by
  funext other
  rw [find?_modify, Function.update_apply]
  split
  · rename_i same
    rw [same]
  · rfl

/-- The ends of a request that configures a gate, once its arguments are checked. -/
theorem endsIn_configure {change : Gate → Gate} (sound : ∀ cause, ¬ asked.Faulty cause)
    (configures : asked.configures? = some id) (registers : asked.registers? = none)
    (changes : asked.apply table.find? =
      Function.update table.find? id ((table.find? id).map change)) :
    EndsIn table asked (table.configure id change) := by
  rw [configure, contains]
  split
  · rename_i found
    refine .granted sound ?_ ?_ ?_
    · intro other impossible
      rw [registers] at impossible
      contradiction
    · intro other own
      cases configures.symm.trans own
      exact Option.isSome_iff_ne_none.mp found
    · rw [find?_modify_eq_update, changes]
  · rename_i absent
    exact .missing sound configures (Option.not_isSome_iff_eq_none.mp absent)

theorem endsIn_register (table : GateTable) (id : GateId) (direction : Direction) (reportId : UInt8)
    (interval : Nat) :
    EndsIn table (.register id direction reportId interval)
      (table.register id direction reportId interval) := by
  rw [register]
  split
  · rename_i wide
    exact .faulty (.reportId wide)
  · rename_i narrow
    have sound : ∀ cause, ¬ (Request.register id direction reportId interval).Faulty cause := by
      intro cause faulty
      cases faulty with
      | reportId wide => exact narrow wide
    split
    · rename_i absent
      refine .granted sound ?_ ?_ ?_
      · rintro _ ⟨⟩
        exact absent
      · rintro _ ⟨⟩
      · funext other
        rw [find?_insert, Request.apply, Function.update_apply]
    · rename_i present
      exact .taken sound rfl present

theorem endsIn_request (table : GateTable) (asked : Request) :
    EndsIn table asked (table.request asked) := by
  cases asked with
  | register id direction reportId interval =>
      exact table.endsIn_register id direction reportId interval
  | setPositions id readAt writeAt =>
      refine endsIn_configure ?_ rfl rfl rfl
      rintro _ ⟨⟩
  | setPostcard id truncateAt nextProtocol =>
      rw [request, setPostcard]
      split
      · rename_i wide
        exact .faulty (.nextProtocol wide)
      · rename_i narrow
        refine endsIn_configure ?_ rfl rfl rfl
        intro cause faulty
        cases faulty with
        | nextProtocol wide => exact narrow wide
  | setOverlay id position content =>
      rw [request, setOverlay]
      split
      · rename_i long
        exact .faulty (.overlayLength long)
      · rename_i short
        refine endsIn_configure ?_ rfl rfl ?_
        · intro cause faulty
          cases faulty with
          | overlayLength long => exact short long
        · simp only [Request.apply, List.isEmpty_iff]
  | clear =>
      refine .granted ?_ ?_ ?_ rfl
      all_goals rintro _ ⟨⟩

theorem Request.Faulty.unique {first second : ArgumentError} (faulty : asked.Faulty first)
    (again : asked.Faulty second) : first = second := by
  cases faulty <;> cases again <;> rfl

/-- A request is refused for a fault in its arguments before the gates are looked at. -/
theorem put_eq_invalidArgument_iff {cause : ArgumentError} :
    (table.put asked).1 = .error (.invalidArgument cause) ↔ asked.Faulty cause := by
  have ends := table.endsIn_request asked
  rw [put]
  generalize table.request asked = result at ends
  cases ends with
  | faulty known =>
      constructor
      · rintro ⟨⟩
        exact known
      · intro faulty
        rw [faulty.unique known]
  | taken sound | missing sound => exact ⟨nofun, fun faulty => absurd faulty (sound cause)⟩
  | granted sound => exact ⟨nofun, fun faulty => absurd faulty (sound cause)⟩

theorem put_eq_alreadyExists_iff :
    (table.put asked).1 = .error (.alreadyExists id) ↔
      (∀ cause, ¬ asked.Faulty cause) ∧ asked.registers? = some id ∧ table.find? id ≠ none := by
  have ends := table.endsIn_request asked
  rw [put]
  generalize table.request asked = result at ends
  cases ends with
  | faulty known => exact ⟨nofun, fun fine => absurd known (fine.1 _)⟩
  | taken sound registers present =>
      constructor
      · rintro ⟨⟩
        exact ⟨sound, registers, present⟩
      · rintro ⟨-, own, -⟩
        cases registers.symm.trans own
        rfl
  | missing sound configures absent =>
      refine ⟨nofun, ?_⟩
      rintro ⟨-, registers, -⟩
      cases asked <;> contradiction
  | granted sound free =>
      refine ⟨nofun, ?_⟩
      rintro ⟨-, registers, present⟩
      exact absurd (free id registers) present

theorem put_eq_notFound_iff :
    (table.put asked).1 = .error (.notFound id) ↔
      (∀ cause, ¬ asked.Faulty cause) ∧ asked.configures? = some id ∧ table.find? id = none := by
  have ends := table.endsIn_request asked
  rw [put]
  generalize table.request asked = result at ends
  cases ends with
  | faulty known => exact ⟨nofun, fun fine => absurd known (fine.1 _)⟩
  | taken sound registers present =>
      refine ⟨nofun, ?_⟩
      rintro ⟨-, configures, -⟩
      cases asked <;> contradiction
  | missing sound configures absent =>
      constructor
      · rintro ⟨⟩
        exact ⟨sound, configures, absent⟩
      · rintro ⟨-, own, -⟩
        cases configures.symm.trans own
        rfl
  | granted sound _ registered =>
      refine ⟨nofun, ?_⟩
      rintro ⟨-, configures, absent⟩
      exact absurd absent (registered id configures)

theorem put_of_ok (success : table.request asked = .ok later) :
    table.put asked = (.ok (), later) := by
  rw [put, success]

theorem put_of_error (refused : table.request asked = .error fault) :
    table.put asked = (.error fault, table) := by
  rw [put, refused]

theorem find?_of_request (success : table.request asked = .ok later) :
    later.find? = asked.apply table.find? := by
  have ends := table.endsIn_request asked
  rw [success] at ends
  cases ends with
  | granted _ _ _ found => exact found

/-- How a table answers a request, and what it makes of it. -/
structure Answers (table : GateTable) (asked : Request) : Prop where
  invalidArgument_iff : ∀ cause,
    (table.put asked).1 = .error (.invalidArgument cause) ↔ asked.Faulty cause
  alreadyExists_iff : ∀ id, (table.put asked).1 = .error (.alreadyExists id) ↔
    (∀ cause, ¬ asked.Faulty cause) ∧ asked.registers? = some id ∧ table.find? id ≠ none
  notFound_iff : ∀ id, (table.put asked).1 = .error (.notFound id) ↔
    (∀ cause, ¬ asked.Faulty cause) ∧ asked.configures? = some id ∧ table.find? id = none
  refused : ∀ fault, (table.put asked).1 = .error fault → (table.put asked).2 = table
  carriedOut : (table.put asked).1 = .ok () →
    (table.put asked).2.find? = asked.apply table.find?
  keeps : ∀ id gate, asked.registers? = some id → table.find? id = some gate →
    (table.put asked).2.find? id = some gate

theorem answers (table : GateTable) (asked : Request) : table.Answers asked where
  invalidArgument_iff := fun _ => put_eq_invalidArgument_iff
  alreadyExists_iff := fun _ => put_eq_alreadyExists_iff
  notFound_iff := fun _ => put_eq_notFound_iff
  refused := by
    intro fault answered
    cases result : table.request asked with
    | ok later =>
        rw [put_of_ok result] at answered
        contradiction
    | error => rw [put_of_error result]
  carriedOut := by
    intro answered
    cases result : table.request asked with
    | ok later =>
        rw [put_of_ok result]
        exact find?_of_request result
    | error =>
        rw [put_of_error result] at answered
        contradiction
  keeps := by
    intro id gate registers present
    have ends := table.endsIn_request asked
    rw [put]
    generalize table.request asked = result at ends
    cases ends with
    | faulty | taken | missing => exact present
    | granted _ free =>
        rw [free id registers] at present
        contradiction

end Request

/-! ## Requests one after the other -/

/-- A table is the map that the requests carried out so far have made. -/
theorem find?_after (table : GateTable) (asked : List Request) :
    (table.after asked).find? =
      (table.granted asked).foldl (fun gates asked => asked.apply gates) table.find? := by
  induction asked generalizing table with
  | nil => rfl
  | cons first rest ih =>
      rw [after, List.foldl_cons, ← after, ih, granted]
      cases result : table.request first with
      | ok later =>
          rw [put_of_ok result, List.foldl_cons, find?_of_request result]
      | error => rw [put_of_error result]

theorem Configured.put {table : GateTable} (configured : table.Configured) (asked : Request) :
    (table.put asked).2.Configured := by
  cases result : table.request asked with
  | error => rwa [put_of_error result]
  | ok later =>
      rw [put_of_ok result]
      cases asked with
      | register => exact .register configured result
      | setPositions => exact .setPositions configured result
      | setPostcard => exact .setPostcard configured result
      | setOverlay => exact .setOverlay configured result
      | clear =>
          cases result
          exact .empty

/-- What has been requested of a configured table leaves it a configured table. -/
theorem Configured.after {table : GateTable} (configured : table.Configured)
    (asked : List Request) : (table.after asked).Configured := by
  induction asked generalizing table with
  | nil => exact configured
  | cons first rest ih => exact ih (configured.put first)

theorem mem_entries_iff (table : GateTable) (id : GateId) :
    id ∈ table.entries.map Prod.fst ↔ table.find? id ≠ none := by
  constructor
  · intro member absent
    exact not_mem_of_find?_eq_none absent member
  · intro found
    by_contra outside
    apply found
    rw [find?, List.lookup_eq_none_iff]
    intro entry member
    exact bne_iff_ne.mpr fun same => outside (same ▸ List.mem_map_of_mem member)

/-- A table has as many entries as there are numbers with a gate. -/
theorem size_eq_ncard (table : GateTable) :
    table.size = {id | table.find? id ≠ none}.ncard := by
  have same : {id | table.find? id ≠ none} = ↑(table.entries.map Prod.fst).toFinset := by
    ext id
    rw [Set.mem_ofPred_eq, ← mem_entries_iff, List.coe_toFinset, Set.mem_ofPred_eq]
  rw [same, Set.ncard_coe_finset, List.toFinset_card_of_nodup table.distinct, List.length_map, size]

/-- Whatever is requested of an empty table, it is the finite map that the requests which are
carried out make of the empty map.  It answers the next request by the faults in its arguments
and then by the map, and a refused request changes nothing.  All gates in it are checked, so
that the tags which they stamp are read back as they are. -/
theorem gates_of_requests (asked : List Request) :
    let table := after {} asked
    table.find? =
        (granted {} asked).foldl (fun gates asked => asked.apply gates) (fun _ => none) ∧
      table.size = {id | table.find? id ≠ none}.ncard ∧
      (∀ next, table.Answers next) ∧
      ∀ id gate, table.find? id = some gate → gate.Checked ∧ gate.Legible := by
  intro table
  refine ⟨find?_after {} asked, table.size_eq_ncard, table.answers, ?_⟩
  intro id gate found
  have checked := (Configured.empty.after asked).allChecked id gate found
  exact ⟨checked, checked.legible⟩

end GateTable

end InbandTelemetry
