import LifecycleProfiler.Protocol.Identifiers
import LifecycleProfiler.Python.Keys
import LifecycleProfiler.Python.Ordering

/-! # The resource ledger of a baseline run

`_resource_ledger` of `run_issue19_m0_baseline`: the resource events of the
base rows are grouped by resource, the group of a witnessed transfer is
rebuilt, and each group is read as closed, externally invalidated, orphaned or
an error. Only the rows decoded from the shards enter; the text form of `int`
is a parameter. -/

namespace LifecycleProfiler.Baseline
open Python Protocol

/-- `int(value)` over a reading of texts. -/
def toInt (parse : String → Option Int) : Value → Except PyError Int
  | .int n => .ok n
  | .bool b => .ok (if b then 1 else 0)
  | .float value _ => .ok (if 0 ≤ value then value.floor else value.ceil)
  | .str s =>
    match parse s with
    | some n => .ok n
    | none => .error (.valueError "invalid literal for int() with base 10")
  | _ => .error (.typeError "int() argument must be a string or a real number")

/-- Type, ID and worker generation. -/
abbrev ResourceKey := String × String × String

/-- `_RESOURCE_TRANSITIONS` -/
def resourceTransitions : List (String × String) :=
  [("resource_acquired", "acquire"), ("resource_transfer_pending", "transfer_pending"),
   ("resource_released", "release"), ("resource_policy_retained", "policy_retain"),
   ("resource_invalidated", "invalidate")]

/-- `row.get("metadata", {})`, of which `.get` is asked. -/
def metadataOf (row : Dict) : Except PyError Dict :=
  match row.lookup "metadata" with
  | none => .ok []
  | some (.dict kvs) => .ok kvs
  | some _ => .error (.attributeError "object has no attribute 'get'")

/-- `isinstance(value, str) and value` -/
def nonemptyStr : Value → Option String
  | .str s => if s.isEmpty then none else some s
  | _ => none

/-- `isinstance(units, int) and not isinstance(units, bool) and units >= 1` -/
def isUnits : Value → Bool
  | .int n => 1 ≤ n
  | _ => false

/-- What the ledger makes of a base row. -/
inductive ResourceRow where
  | skipped
  | malformed (reason : String)
  | event (key : ResourceKey)
  deriving DecidableEq

def resourceRow (row : Dict) : Except PyError ResourceRow :=
  match resourceTransitions.lookup (formatted (row.get "event_name")) with
  | none => .ok .skipped
  | some transition => do
    let metadata ← metadataOf row
    match nonemptyStr (metadata.get "resource_type"), nonemptyStr (metadata.get "resource_id"),
        nonemptyStr (metadata.get "worker_generation"),
        nonemptyStr (metadata.get "runtime_request_id") with
    | some type, some id, some generation, some _ =>
      if isUnits (metadata.get "resource_units") then
        if (metadata.get "resource_transition").pyEq (.str transition) then
          return .event (type, id, generation)
        else return .malformed "transition_mismatch"
      else return .malformed "identity"
    | _, _, _, _ => return .malformed "identity"

structure Resource where
  key : ResourceKey
  runtimeRequestIds : List String
  transitions : List String
  resourceUnits : List Int
  maxResourceUnits : Int
  externallyInvalidated : Bool
  deriving DecidableEq

inductive LedgerError where
  | malformed (eventId : Value) (reason : String)
  | missingResourceTypes (types : List String)
  | transferProfileLedgerMismatch (profileOnly ledgerOnly : List String)
  | resource (reason : String) (resource : Resource)

/-! ## Grouping -/

structure Grouping where
  grouped : Mapping ResourceKey (List Dict) := []
  malformed : List LedgerError := []

/-- `grouped.setdefault(key, []).append(row)` -/
def Grouping.append (g : Grouping) (key : ResourceKey) (row : Dict) : Grouping :=
  { g with grouped := g.grouped.set key ((g.grouped.get key).getD [] ++ [row]) }

def groupRows (g : Grouping) : List Dict → Except PyError Grouping
  | [] => .ok g
  | row :: rest => do
    match ← resourceRow row with
    | .skipped => groupRows g rest
    | .malformed reason =>
      groupRows { g with malformed := g.malformed ++ [.malformed (row.get "event_id") reason] } rest
    | .event key => groupRows (g.append key row) rest

/-- `row.get("metadata", {}).get(key)` of a row that has passed. -/
def metadataGet (row : Dict) (key : String) : Value :=
  match metadataOf row with
  | .ok metadata => metadata.get key
  | .error _ => .none

def transitionOf (row : Dict) : String := formatted (metadataGet row "resource_transition")
def ownerOf (row : Dict) : String := formatted (metadataGet row "runtime_request_id")

/-! ## The witness -/

/-- A witnessed transfer with its request, generation and time. -/
structure Witness where
  transferId : String
  requestId : String
  generation : String
  timestamp : Value

/-- The witness of a mapping with the four fields it needs. -/
def witnessOf (pendingWitness : Dict) : Option Witness :=
  match nonemptyStr (pendingWitness.get "transfer_id"),
      nonemptyStr (pendingWitness.get "runtime_request_id"),
      nonemptyStr (pendingWitness.get "worker_generation"),
      asInt (pendingWitness.get "timestamp_ns") with
  | some transferId, some requestId, some generation, some _ =>
    some ⟨transferId, requestId, generation, pendingWitness.get "timestamp_ns"⟩
  | _, _, _, _ => none

def Witness.key (w : Witness) : ResourceKey := ("offload_transfer", w.transferId, w.generation)

def Witness.row (w : Witness) (eventName transition : String) : Dict :=
  [("event_name", .str eventName), ("timestamp_ns", w.timestamp),
   ("metadata", .dict [("runtime_request_id", .str w.requestId),
     ("resource_type", .str "offload_transfer"), ("resource_id", .str w.transferId),
     ("resource_transition", .str transition), ("resource_units", .int 1),
     ("worker_generation", .str w.generation)]),
   ("_source", .str "pending_transfer_witness")]

def Witness.rows (w : Witness) : List Dict :=
  [w.row "resource_acquired" "acquire", w.row "resource_transfer_pending" "transfer_pending"]

/-- Neither of the transitions the witness supplies. -/
def isClosure (row : Dict) : Bool := !(["acquire", "transfer_pending"].contains (transitionOf row))

/-- Rebuild the group of the witnessed transfer. -/
def Witness.rebuild (w : Witness) (grouped : Mapping ResourceKey (List Dict)) :
    Mapping ResourceKey (List Dict) :=
  grouped.set w.key (w.rows ++ ((grouped.get w.key).getD []).filter isClosure)

def rebuilt (witness : Option Witness) (grouped : Mapping ResourceKey (List Dict)) :
    Mapping ResourceKey (List Dict) :=
  match witness with
  | none => grouped
  | some w => w.rebuild grouped

/-! ## The profile -/

/-- The transfers the profile shards submit. -/
def submittedTransfers : List Dict → Mapping String Dict → Mapping String Dict
  | [], transfers => transfers
  | row :: rest, transfers =>
    match row.has "record_type" "transfer_event" && row.has "transfer_phase" "submit",
        row.get "transfer_id" with
    | true, .str transferId => submittedTransfers rest (transfers.set transferId row)
    | _, _ => submittedTransfers rest transfers

def profileTransfers (profile : List Dict) (pendingWitness : Dict) : Mapping String Dict :=
  let transfers := submittedTransfers profile []
  match pendingWitness.isEmpty, pendingWitness.get "transfer_id" with
  | false, .str transferId =>
    match transfers.get transferId with
    | some _ => transfers
    | none => transfers.set transferId [("_source", .str "pending_transfer_witness")]
  | _, _ => transfers

def profileDone (profile : List Dict) (resourceId : String) : Bool :=
  profile.any fun row => row.has "record_type" "transfer_event" &&
    row.has "transfer_id" resourceId && row.has "transfer_phase" "done"

/-- `sorted(set(texts))` -/
def sortedSet (texts : List String) : List String := texts.dedup.insertionSort (· ≤ ·)

def missingTypes (keys : List ResourceKey) : List String :=
  ["kv_capacity_lease", "offload_transfer"].filter fun type => !(keys.map (·.1)).contains type

/-- The errors that concern no single resource. -/
def rosterErrors (keys : List ResourceKey) (transfers : List String) : List LedgerError :=
  let resourceTransfers := (keys.filter fun key => key.1 = "offload_transfer").map (·.2.1)
  let profileOnly := transfers.filter fun id => !resourceTransfers.contains id
  let ledgerOnly := resourceTransfers.filter fun id => !transfers.contains id
  (if (missingTypes keys).isEmpty then [] else [.missingResourceTypes (missingTypes keys)]) ++
    if profileOnly.isEmpty && ledgerOnly.isEmpty then []
    else [.transferProfileLedgerMismatch (sortedSet profileOnly) (sortedSet ledgerOnly)]

/-! ## Classification -/

/-- The sequences a resource of the type may end with. -/
def expectedSequences (resourceType : String) : List (List String) :=
  if resourceType = "kv_capacity_lease" then
    [["acquire", "release"], ["acquire", "policy_retain"], ["acquire", "invalidate"]]
  else if resourceType = "offload_transfer" then
    [["acquire", "transfer_pending", "release"], ["acquire", "transfer_pending", "invalidate"]]
  else []

/-- The observed exit of the worker generation. -/
def generationExit (workerGeneration : Option String) (workerMonitorEvents : List Dict) :
    Option Int :=
  match workerGeneration, workerMonitorEvents with
  | some _, [event] => asInt (event.get "timestamp_ns")
  | _, _ => none

/-- `sorted(rows, key=lambda row: int(row["timestamp_ns"]))`, with the keys. -/
def orderedRows (parse : String → Option Int) (rows : List Dict) :
    Except PyError (List (Int × Dict)) := do
  let keyed ← rows.mapM fun row => do
    let timestamp ← row.item "timestamp_ns"
    let time ← toInt parse timestamp
    return (time, row)
  return keyed.insertionSort fun a b => a.1 ≤ b.1

def resourceOf (parse : String → Option Int) (workerGeneration : Option String)
    (exitNs : Option Int) (key : ResourceKey) (rows : List Dict) : Except PyError Resource := do
  let ordered ← orderedRows parse rows
  let transitions := ordered.map fun item => transitionOf item.2
  let units ← ordered.mapM fun item => toInt parse (metadataGet item.2 "resource_units")
  let externallyClosed := key.1 = "offload_transfer" &&
    transitions = ["acquire", "transfer_pending"] && some key.2.2 = workerGeneration &&
    (match ordered.getLast?, exitNs with
      | some last, some exit => last.1 < exit
      | _, _ => false)
  return {
    key := key
    runtimeRequestIds := sortedSet (ordered.map fun item => ownerOf item.2)
    transitions := transitions
    resourceUnits := units
    maxResourceUnits := units.foldl max 0
    externallyInvalidated := externallyClosed }

inductive Verdict where
  | closed
  | externallyInvalidated
  | orphan
  | error (reason : String)
  deriving DecidableEq

def verdict (profile : List Dict) (transfers : Mapping String Dict) (r : Resource) : Verdict :=
  if r.externallyInvalidated then .externallyInvalidated
  else if r.runtimeRequestIds.length = 1 && (expectedSequences r.key.1).contains r.transitions then
    .closed
  else if (transfers.get r.key.2.1).isSome && profileDone profile r.key.2.1 then
    .error "missing_release_observation"
  else if r.transitions = ["acquire"] ||
    r.transitions = ["acquire", "transfer_pending"] then .orphan
  else .error "invalid_resource_sequence"

structure Ledger where
  resourceEventCount : Nat
  resourceCount : Nat
  resources : List Resource
  errors : List LedgerError
  orphanResources : List Resource
  externallyInvalidatedResources : List Resource

def Ledger.complete (l : Ledger) : Bool := l.errors.isEmpty && !l.resources.isEmpty

def Ledger.orphanResourceUnits (l : Ledger) : Int :=
  (l.orphanResources.map (·.maxResourceUnits)).sum

/-- One pass of the loop over the groups. -/
def Ledger.add (l : Ledger) (r : Resource) : Verdict → Ledger
  | .closed => { l with resources := l.resources ++ [r] }
  | .externallyInvalidated =>
    { l with resources := l.resources ++ [r]
             externallyInvalidatedResources := l.externallyInvalidatedResources ++ [r] }
  | .orphan =>
    { l with resources := l.resources ++ [r], orphanResources := l.orphanResources ++ [r] }
  | .error reason =>
    { l with resources := l.resources ++ [r], errors := l.errors ++ [.resource reason r] }

def classify (judge : Resource → Verdict) : Ledger → List Resource → Ledger
  | l, [] => l
  | l, r :: rest => classify judge (l.add r (judge r)) rest

/-- `a <= b` on keys. -/
def keyLe (a b : ResourceKey) : Bool :=
  a.1 < b.1 || (a.1 = b.1 && (a.2.1 < b.2.1 || (a.2.1 = b.2.1 && a.2.2 ≤ b.2.2)))

/-- An absent witness is the empty one. -/
def resourceLedger (parse : String → Option Int) (base profile : List Dict)
    (workerGeneration : Option String) (workerMonitorEvents : List Dict) (pendingWitness : Dict) :
    Except PyError Ledger := do
  let g ← groupRows {} base
  let grouped := rebuilt (witnessOf pendingWitness) g.grouped
  let transfers := profileTransfers profile pendingWitness
  let exitNs := generationExit workerGeneration workerMonitorEvents
  let resources ← (grouped.insertionSort fun a b => keyLe a.1 b.1).mapM fun item =>
    resourceOf parse workerGeneration exitNs item.1 item.2
  return classify (verdict profile transfers)
    { resourceEventCount := (grouped.map fun item => item.2.length).sum
      resourceCount := grouped.length
      resources := []
      errors := g.malformed ++ rosterErrors (grouped.map (·.1)) (transfers.map (·.1))
      orphanResources := []
      externallyInvalidatedResources := [] } resources

end LifecycleProfiler.Baseline
