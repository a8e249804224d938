import InbandTelemetry.Gate.Basic

namespace InbandTelemetry

/-!
# The gates of a node

A finite map from gate numbers to gates.  Every change names one gate, is
checked before anything else happens, and touches only the fields it is about.
-/

/-- The registered gates.  No number occurs twice. -/
structure GateTable where
  entries : List (GateId × Gate) := []
  distinct : (entries.map Prod.fst).Nodup := by exact List.nodup_nil

namespace GateTable

def find? (table : GateTable) (id : GateId) : Option Gate := table.entries.lookup id

def contains (table : GateTable) (id : GateId) : Bool := (table.find? id).isSome

def size (table : GateTable) : Nat := table.entries.length

/-- A number that is not found is not the number of any entry. -/
theorem not_mem_of_find?_eq_none {table : GateTable} {id : GateId}
    (absent : table.find? id = none) : id ∉ table.entries.map Prod.fst := by
  intro member
  obtain ⟨entry, found, rfl⟩ := List.mem_map.mp member
  have different := List.lookup_eq_none_iff.mp absent entry found
  simp at different

def insert (table : GateTable) (id : GateId) (gate : Gate) (absent : table.find? id = none) :
    GateTable where
  entries := table.entries ++ [(id, gate)]
  distinct := by
    rw [List.map_append, List.nodup_append]
    refine ⟨table.distinct, by simp, ?_⟩
    intro known member new single
    simp only [List.map_cons, List.map_nil, List.mem_singleton] at single
    rintro rfl
    exact not_mem_of_find?_eq_none absent (single ▸ member)

def modify (table : GateTable) (id : GateId) (change : Gate → Gate) : GateTable where
  entries := table.entries.map fun entry =>
    if entry.1 = id then (entry.1, change entry.2) else entry
  distinct := by
    have same : (table.entries.map fun entry =>
        if entry.1 = id then (entry.1, change entry.2) else entry).map Prod.fst =
        table.entries.map Prod.fst := by
      rw [List.map_map]
      apply List.map_congr_left
      intro entry _
      simp only [Function.comp_apply]
      split <;> rfl
    rw [same]
    exact table.distinct

/-- A new entry is found under its own number, and every other number finds what it
found before. -/
theorem find?_insert {table : GateTable} {id : GateId} {gate : Gate}
    (absent : table.find? id = none) (other : GateId) :
    (table.insert id gate absent).find? other =
      if other = id then some gate else table.find? other := by
  unfold find? at absent ⊢
  change (table.entries ++ [(id, gate)]).lookup other = _
  rw [List.lookup_append]
  split
  · rename_i same
    subst same
    rw [absent]
    simp
  · rename_i different
    have unequal : (other == id) = false := beq_false_of_ne different
    rw [List.lookup_cons, unequal, List.lookup_nil, Option.or_none]

/-- A change reaches the gate with its number and no other one. -/
theorem find?_modify (table : GateTable) (id : GateId) (change : Gate → Gate) (other : GateId) :
    (table.modify id change).find? other =
      if other = id then (table.find? other).map change else table.find? other := by
  unfold find? modify
  dsimp only
  induction table.entries with
  | nil => split <;> rfl
  | cons entry rest ih =>
      obtain ⟨known, gate⟩ := entry
      by_cases found : other = known
      · subst found
        by_cases named : other = id
        · subst named
          simp
        · simp [named]
      · have unequal : (other == known) = false := beq_false_of_ne found
        by_cases named : known = id
        · simp only [List.map_cons, if_pos named, List.lookup_cons, unequal, ih]
        · simp only [List.map_cons, if_neg named, List.lookup_cons, unequal, ih]

/-- Change a gate that has to be registered. -/
def configure (table : GateTable) (id : GateId) (change : Gate → Gate) :
    Except ConfigError GateTable :=
  if table.contains id then .ok (table.modify id change) else .error (.notFound id)

/-- Register a gate.  A number that is in use keeps its gate. -/
def register (table : GateTable) (id : GateId) (direction : Direction) (reportId : UInt8)
    (interval : Nat) : Except ConfigError GateTable :=
  if 15 < reportId then
    .error (.invalidArgument (.reportId reportId))
  else if absent : table.find? id = none then
    .ok (table.insert id (.fresh direction reportId interval) absent)
  else
    .error (.alreadyExists id)

def setPositions (table : GateTable) (id : GateId) (readAt writeAt : Nat) :
    Except ConfigError GateTable :=
  table.configure id fun gate => { gate with readAt, writeAt }

def setPostcard (table : GateTable) (id : GateId) (truncateAt : Nat) (nextProtocol : UInt8) :
    Except ConfigError GateTable :=
  if 15 < nextProtocol then
    .error (.invalidArgument (.nextProtocol nextProtocol))
  else
    table.configure id fun gate => { gate with truncateAt, nextProtocol }

/-- Set what a gate writes over its packets.  Empty content means nothing. -/
def setOverlay (table : GateTable) (id : GateId) (position : Nat) (content : Bytes) :
    Except ConfigError GateTable :=
  if maxOverlay < content.length then
    .error (.invalidArgument (.overlayLength content.length))
  else
    table.configure id fun gate =>
      { gate with overlay := if content.isEmpty then none else some ⟨position, content⟩ }

end GateTable

end InbandTelemetry
