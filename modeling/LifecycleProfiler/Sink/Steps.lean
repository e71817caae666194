import LifecycleProfiler.General.Transition
import LifecycleProfiler.Sink.Exporter

/-! # The steps of the sink

Producers, the writer thread and the callers of `close()` as one transition
system. A step is one lock scope, one file-system call, one reading of the
clock or one store outside the lock. The scopes that claim the result are two
steps, since a caller that gave up waiting claims without the lock. -/

namespace LifecycleProfiler.Sink
open Python Protocol

/-- A line of a shard file, or what a failed write left of one. -/
inductive Line where
  | record (record : Dict) (raw : Bytes)
  | torn (raw : Bytes)

/-- What the formal path of a shard names. -/
inductive Formal where
  | live
  | sentinel
  | published
  | gone
  deriving DecidableEq, Repr

/-- The files of one stream. `incomplete` and `reserved` say whether
`incomplete_shard_path` and `reservation_identity` are set. -/
structure Shard where
  lines : List Line
  formal : Formal := .live
  incomplete : Bool := false
  reserved : Bool := false

structure CloseResult where
  closeOutcome : CloseOutcome
  summaryWritten : Bool
  attemptedDataCount : Nat
  writtenEventCount : Nat
  writtenEdgeCount : Nat
  droppedDataCount : Nat
  droppedControlCount : Nat
  profileSummaryWritten : Bool
  profileAttemptedDataCount : Nat
  profileDroppedDataCount : Nat
  profileDroppedControlCount : Nat
  deriving DecidableEq, Repr

/-- Who holds the condition lock between two steps. -/
inductive Party where
  | writer
  | closer (id : Nat)
  deriving DecidableEq, Repr

/-- What the writer writes a line for. -/
inductive Job where
  | batch (q : Queued) (rest : List Queued)
  | control (q : Queued) (rest : List Queued)
  | summary (stream : StreamId) (closeOutcome : CloseOutcome) (record : Dict) (raw : Bytes)

namespace Job

def stream : Job → StreamId
  | batch q _ => q.stream
  | control q _ => q.stream
  | summary stream .. => stream

def record : Job → Dict
  | batch q _ => q.record
  | control q _ => q.record
  | summary _ _ record _ => record

def raw : Job → Bytes
  | batch q _ => q.raw
  | control q _ => q.raw
  | summary _ _ _ raw => raw

end Job

/-- Where the writer thread is. -/
inductive WriterPc where
  -- `_writer_main`
  | started
  | removing
  | gate
  | gateShut
  | loop
  | batch (rest : List Queued)
  -- `_write_all`, `_record_written` and `_mark_writer_failure`
  | check (job : Job) (staged : Bool)
  | stage (job : Job)
  | persist (job : Job)
  | recordWritten (job : Job)
  | failing
  -- `_finish_drained_in_writer` and `_finish_timeout_in_writer`
  | drained
  | preparing
  | controls (rest : List Queued)
  | controlsExpired
  | timedOut
  -- `_write_summary_in_writer`
  | summaryStart (closeOutcome : CloseOutcome)
  | moveShard (stream : StreamId) (closeOutcome : CloseOutcome)
  | summaryCheck (closeOutcome : CloseOutcome)
  | buildSummary (stream : StreamId) (closeOutcome : CloseOutcome)
  | reserve (job : Job)
  | refused (closeOutcome : CloseOutcome)
  | dropSummary (job : Job)
  | release (job : Job) (written : Bool)
  | afterSummary (stream : StreamId) (closeOutcome : CloseOutcome)
  | lateInvalidation (stream : StreamId)
  | setSummaryWritten (stream : StreamId) (closeOutcome : CloseOutcome)
  | setOutcome (closeOutcome : CloseOutcome)
  -- `_finalize_writer_in_writer`
  | finalize
  | finalInvalidation (stream : StreamId)
  | finalInvalidated
  | closeDescriptors
  | descriptorFailure
  | flush
  -- `_publish_completed_shard_in_writer`
  | eligible
  | checkTargets
  | replace (stream : StreamId)
  | publicationClaim
  | claiming
  | retract (published : List StreamId) (expired : Bool)
  | publicationExpired
  | publicationFailure
  | flushLast
  -- the end of `_writer_main`
  | finalException
  | closing
  | finalClaim
  | terminated

/-- Where one call of `close()` is. -/
inductive CloserPc where
  | idle
  | entered (deadlineNs : Nat)
  | wantCloseLock (deadlineNs : Nat)
  | wantCondition (deadlineNs : Nat)
  | joining (deadlineNs : Nat)
  | wantFinal (deadlineNs : Nat)
  | forcing
  | forced (candidate : CloseResult)
  -- `_bounded_timeout_without_lock`
  | giveUp
  | timeoutClaim (candidate : CloseResult)
  | storeAbandoned (result : CloseResult)
  | storeClosed (result : CloseResult)
  | storeOutcome (result : CloseResult)
  | returned (result : CloseResult)

structure TraceSink where
  x : Exporter := {}
  shard : StreamId → Shard
  summaryWritten : StreamId → Bool := fun _ => false
  abandoned : Bool := false
  writerOutcome : Option CloseOutcome := none
  closeDeadlineNs : Option Nat := none
  claim : Option CloseResult := none
  lock : Option Party := none
  closeLock : Option Nat := none
  writer : WriterPc := .started
  closers : Nat → CloserPc := fun _ => .idle
  now : Nat

/-- How a call outside the process went. What `fail` and `worse` stand for is
said where they are used. -/
inductive Outcome where
  | ok
  | fail
  | worse
  deriving DecidableEq, Repr

/-- The choices of the environment in one step of the writer: how the call went,
whether an invalidation could be appended, how many bytes a failed write left
behind, and what the clock function gives. -/
structure Choice where
  outcome : Outcome := .ok
  appended : Bool := true
  bytesWritten : Nat := 0
  clock : Option Value := none

namespace TraceSink
variable (cfg : Config)

/-- The streams of the sink, in the order they are published. -/
def streams : List StreamId := if cfg.profileConfig.isSome then [.base, .profile] else [.base]

/-- `_close_deadline_reached` -/
def deadlineReached (s : TraceSink) : Bool := s.closeDeadlineNs.any fun deadline => deadline ≤ s.now

/-- `_close_cutoff_reached_locked` -/
def cutoffReached (s : TraceSink) : Bool :=
  s.x.closing && s.deadlineReached && !(s.x.queue.isEmpty && s.x.inflight.isEmpty)

/-- `_result` -/
def result (s : TraceSink) (closeOutcome : CloseOutcome) (summaryWritten : Bool) : CloseResult :=
  let base := s.x.ledger .base
  let profile := if cfg.profileConfig.isSome then s.x.ledger .profile else {}
  { closeOutcome := closeOutcome
    summaryWritten := summaryWritten
    attemptedDataCount := base.attempted
    writtenEventCount := base.written .event
    writtenEdgeCount := base.written .edge
    droppedDataCount := base.droppedData
    droppedControlCount := base.droppedControl
    profileSummaryWritten := cfg.profileConfig.isSome && s.summaryWritten .profile
    profileAttemptedDataCount := profile.attempted
    profileDroppedDataCount := profile.droppedData
    profileDroppedControlCount := profile.droppedControl }

/-- `committed_shard_path` and `committed_kv_recovery_profile_shard_path` are the
formal paths exactly when these hold. -/
def committed (s : TraceSink) : Bool :=
  s.claim.any fun r => r.closeOutcome == .drained && r.summaryWritten

def profileCommitted (s : TraceSink) : Bool :=
  cfg.profileConfig.isSome && s.claim.any fun r =>
    r.closeOutcome == .drained && r.summaryWritten && r.profileSummaryWritten

/-! ## Small updates -/

def setShard (s : TraceSink) (stream : StreamId) (f : Shard → Shard) : TraceSink :=
  { s with shard := fun t => if t = stream then f (s.shard t) else s.shard t }

def appendLine (s : TraceSink) (stream : StreamId) (line : Line) : TraceSink :=
  s.setShard stream fun shard => { shard with lines := shard.lines ++ [line] }

def setSummaryFlag (s : TraceSink) (stream : StreamId) (written : Bool) : TraceSink :=
  { s with summaryWritten := fun t => if t = stream then written else s.summaryWritten t }

def goto (s : TraceSink) (pc : WriterPc) : TraceSink := { s with writer := pc }

/-- A lock scope runs only while nobody holds the condition lock. -/
def locked (s : TraceSink) (scope : TraceSink) : Option TraceSink :=
  if s.lock = none then some scope else none

/-- `dict.setdefault` on the completion claim. -/
def setClaim (s : TraceSink) (candidate : CloseResult) : TraceSink :=
  { s with claim := some (s.claim.getD candidate) }

/-! ## The writer thread -/

/-- Where the writer goes when a write raises. -/
def writeRaised : Job → WriterPc
  | .summary stream closeOutcome record raw =>
    .dropSummary (.summary stream closeOutcome record raw)
  | _ => .failing

/-- Where it goes when the line is in the file. -/
def writeReturned : Job → WriterPc
  | .summary stream closeOutcome record raw =>
    .release (.summary stream closeOutcome record raw) true
  | job => .recordWritten job

/-- The main loop up to the summary. -/
def runStep (s : TraceSink) (c : Choice) : WriterPc → Option TraceSink
  | .started => s.locked (s.goto (if s.abandoned then .removing else .gate))
  -- `_remove_failed_initialization_shard`
  | .removing => some ({ s with
      shard := fun stream =>
        if c.outcome = Outcome.ok then { s.shard stream with formal := .gone }
        else s.shard stream }.goto .finalize)
  | .gate =>
    if c.outcome = .ok then some (s.goto .loop)
    else s.locked (s.goto (if s.abandoned || s.cutoffReached then .gateShut else .gate))
  | .gateShut => s.locked (s.goto (if s.abandoned then .finalize else .preparing))
  | .loop =>
    if s.abandoned then s.locked (s.goto .finalize)
    else if !s.x.pendingDiagnostics.isEmpty then
      s.locked { s with x := s.x.takePendingDiagnostics.1 }
    else if s.x.queue.isEmpty && !s.x.closing then none
    else if s.cutoffReached then s.locked (s.goto .preparing)
    else if s.x.queue.isEmpty then s.locked (s.goto .drained)
    else s.locked ({ s with x := s.x.takeBatch.1 }.goto (.batch s.x.takeBatch.2))
  | .batch [] => some (s.goto .loop)
  | .batch (q :: rest) =>
    s.locked (s.goto (if s.abandoned then .finalize else if s.cutoffReached then .preparing
      else .check (.batch q rest) false))
  | .check job staged =>
    s.locked (s.goto (if s.abandoned then writeRaised job
      else if cfg.usesNativeWrite || staged then .persist job else .stage job))
  -- `_exercise_injected_write`
  | .stage job => some (s.goto (if c.outcome = .ok then .check job true else writeRaised job))
  -- `_write_persistent_all`
  | .persist job =>
    if c.outcome = .ok then
      some ((s.appendLine job.stream (.record job.record job.raw)).goto (writeReturned job))
    else
      some ((s.appendLine job.stream (.torn (job.raw.take c.bytesWritten))).goto (writeRaised job))
  | .recordWritten job =>
    match job with
    | .batch q rest =>
      s.locked ({ s with x := if s.abandoned then s.x else s.x.recordWritten q }.goto (.batch rest))
    | .control q rest =>
      s.locked ({ s with x := if s.abandoned then s.x else s.x.recordWritten q }.goto
        (.controls rest))
    | .summary .. => none
  | .failing => s.locked ({ s with x := s.x.markWriterFailure }.goto .finalize)
  | .drained => some (s.goto (if s.x.countsReconcile cfg then .summaryStart .drained else .failing))
  | .preparing =>
    s.locked ({ s with
      x := (s.x.prepareTimeoutControls cfg s.now).1
      writerOutcome := some .timeout }.goto (.controls (s.x.prepareTimeoutControls cfg s.now).2))
  | .controls [] =>
    if s.deadlineReached || !s.x.countsReconcile cfg then
      some ({ s with writerOutcome := some .timeout }.goto .finalize)
    else some (s.goto (.summaryStart .timeout))
  | .controls (q :: rest) =>
    some (s.goto (if s.deadlineReached then .controlsExpired else .check (.control q rest) false))
  | .controlsExpired => s.locked ({ s with x := s.x.expireControls }.goto .timedOut)
  | .timedOut => some ({ s with writerOutcome := some .timeout }.goto .finalize)
  | _ => none

/-- `_append_timeout_invalidation_in_writer` for one stream. Whatever goes wrong
in it is ignored. -/
def appendInvalidation (s : TraceSink) (c : Choice) (stream : StreamId) : TraceSink :=
  match (c.clock.map fun now => s.x.summaryRecord cfg stream now CloseOutcome.timeout) with
  | some (.ok (record, raw)) =>
    match s.x.reserveControl stream raw with
    | (x, false) => { s with x := x }
    | (x, true) =>
      if c.appended then
        { s with x := x.releaseControl stream raw }.appendLine stream (.record record raw)
      else
        { s with x := (x.dropControl stream).releaseControl stream raw }.appendLine stream
          (.torn (raw.take c.bytesWritten))
  | _ => s

/-- What follows the invalidation of a stream. -/
def afterInvalidation (pc : StreamId → WriterPc) (done : WriterPc) : StreamId → WriterPc
  | .base => if cfg.profileConfig.isSome then pc .profile else done
  | .profile => done

/-- `_write_summary_in_writer` -/
def summaryStep (s : TraceSink) (c : Choice) : WriterPc → Option TraceSink
  | .summaryStart closeOutcome =>
    if s.deadlineReached then some ({ s with writerOutcome := some .timeout }.goto .finalize)
    else some (s.goto (.moveShard .base closeOutcome))
  -- `fail` raises before the sentinel replaced the formal path, `worse` after it
  | .moveShard stream closeOutcome =>
    let next : WriterPc :=
      if stream = .base && cfg.profileConfig.isSome then .moveShard .profile closeOutcome
      else .summaryCheck closeOutcome
    if (s.shard stream).incomplete then some (s.goto next)
    else if (s.shard stream).formal = .gone then some (s.goto .failing)
    else match c.outcome with
      | .ok => some ((s.setShard stream fun shard => { shard with
          formal := .sentinel, incomplete := true, reserved := true }).goto next)
      | .fail => some (s.goto .failing)
      | .worse => some ((s.setShard stream fun shard => { shard with
          formal := .sentinel }).goto .failing)
  | .summaryCheck closeOutcome =>
    if s.deadlineReached then some ({ s with writerOutcome := some .timeout }.goto .finalize)
    else some (s.goto (.buildSummary .base closeOutcome))
  | .buildSummary stream closeOutcome =>
    match (c.clock.map fun now => s.x.summaryRecord cfg stream now closeOutcome) with
    | some (.ok (record, raw)) =>
      some (s.goto (.reserve (.summary stream closeOutcome record raw)))
    | _ => some (s.goto .failing)
  | .reserve (.summary stream closeOutcome record raw) =>
    s.locked ({ s with x := (s.x.reserveControl stream raw).1 }.goto
      (if (s.x.reserveControl stream raw).2 then
        .check (.summary stream closeOutcome record raw) false else .refused closeOutcome))
  | .refused closeOutcome => some ({ s with writerOutcome := some closeOutcome }.goto .finalize)
  | .dropSummary job =>
    s.locked ({ s with x := s.x.dropControl job.stream }.goto (.release job false))
  | .release (.summary stream closeOutcome _ raw) written =>
    s.locked ({ s with x := s.x.releaseControl stream raw }.goto
      (if written then .afterSummary stream closeOutcome else .failing))
  | .afterSummary stream closeOutcome =>
    if s.deadlineReached then
      some ({ s with writerOutcome := some .timeout }.goto (.lateInvalidation .base))
    else if stream = .base && cfg.profileConfig.isSome then
      some (s.goto (.buildSummary .profile closeOutcome))
    else some (s.goto (.setSummaryWritten stream closeOutcome))
  | .lateInvalidation stream =>
    some ((s.appendInvalidation cfg c stream).goto
      (afterInvalidation cfg .lateInvalidation .finalize stream))
  | .setSummaryWritten .profile closeOutcome =>
    some ((s.setSummaryFlag .profile true).goto (.setSummaryWritten .base closeOutcome))
  | .setSummaryWritten .base closeOutcome =>
    some ((s.setSummaryFlag .base true).goto (.setOutcome closeOutcome))
  | .setOutcome closeOutcome => some ({ s with writerOutcome := some closeOutcome }.goto .finalize)
  | _ => none

/-- `_mark_writer_failure_locked` with the base receipt taken back. -/
def revokeReceipt (s : TraceSink) : TraceSink :=
  { s.setSummaryFlag .base false with
    x := s.x.markWriterFailure, writerOutcome := some .writerFailure }

/-- The condition of `_publish_completed_shard_in_writer`, but for the deadline. -/
def completed (s : TraceSink) : Bool :=
  s.summaryWritten .base && s.writerOutcome == some .drained && !s.x.writerFailed && !s.abandoned &&
    (cfg.profileConfig.isNone || s.summaryWritten .profile)

/-- `_finalize_writer_in_writer` and the end of `_writer_main`. -/
def finalStep (s : TraceSink) (c : Choice) : WriterPc → Option TraceSink
  | .finalize =>
    s.locked (s.goto (if s.abandoned && s.summaryWritten .base then .finalInvalidation .base
      else .closeDescriptors))
  | .finalInvalidation stream =>
    some ((s.appendInvalidation cfg c stream).goto
      (afterInvalidation cfg .finalInvalidation .finalInvalidated stream))
  | .finalInvalidated =>
    s.locked ({ s.setSummaryFlag .base false with writerOutcome := some .timeout }.goto
      .closeDescriptors)
  | .closeDescriptors =>
    some (s.goto (if c.outcome = .ok then .flush else .descriptorFailure))
  | .descriptorFailure => s.locked (s.revokeReceipt.goto .flush)
  | .flush => s.locked ({ s with x := s.x.takePendingDiagnostics.1 }.goto .eligible)
  | .eligible =>
    s.locked (s.goto (if s.completed cfg && !s.deadlineReached then .checkTargets else .flushLast))
  -- `fail` finds a path missing or changed, `worse` raises
  | .checkTargets =>
    if (streams cfg).any fun stream => !((s.shard stream).incomplete &&
      (s.shard stream).reserved) then
      some (s.goto .publicationFailure)
    else some (s.goto (match c.outcome with
      | .ok => .replace .base
      | .fail => .publicationFailure
      | .worse => .finalException))
  | .replace stream =>
    if c.outcome = .ok then
      some ((s.setShard stream fun shard => { shard with formal := .published }).goto
        (if stream = .base && cfg.profileConfig.isSome then .replace .profile
          else .publicationClaim))
    else some (s.goto (.retract (if stream = .profile then [.base] else []) false))
  | .publicationClaim =>
    if s.abandoned || s.deadlineReached then
      s.locked (s.goto (.retract (streams cfg).reverse true))
    else s.locked ({ s with lock := some .writer }.goto .claiming)
  | .claiming =>
    let s' := { s.setClaim (s.result cfg .drained true) with lock := none }
    if s.claim = none then
      some ({ s' with
        x := { s.x with closed := true }
        shard := fun stream => if stream ∈ streams cfg then
          { s.shard stream with incomplete := false, reserved := false }
          else s.shard stream }.goto .closing)
    else some (s'.goto (.retract (streams cfg).reverse true))
  -- `fail` falls back to unlinking, `worse` fails at that as well
  | .retract (stream :: rest) expired =>
    let s := s.setShard stream fun shard => { shard with reserved := false }
    some ((match c.outcome with
      | .ok => s.setShard stream fun shard => { shard with formal := .gone, incomplete := true }
      | .fail => s.setShard stream fun shard => { shard with formal := .gone, incomplete := false }
      | .worse => s.appendInvalidation cfg c stream).goto
        (.retract rest expired))
  | .retract [] expired =>
    some (s.goto (if expired then .publicationExpired else .publicationFailure))
  | .publicationExpired =>
    s.locked ({ (s.setSummaryFlag .base false).setSummaryFlag .profile false with
      x := s.x.countDiagnostic "close_timeout", writerOutcome := some .timeout }.goto .flushLast)
  | .publicationFailure => s.locked (s.revokeReceipt.goto .flushLast)
  | .flushLast => s.locked ({ s with x := s.x.takePendingDiagnostics.1 }.goto .closing)
  | .finalException => s.locked (s.revokeReceipt.goto .closing)
  | .closing =>
    let s' := { s with x := { s.x with closed := true } }
    if s.claim = none ∧ s.x.closing then s.locked
      ({ s' with lock := some .writer }.goto .finalClaim)
    else s.locked (s'.goto .terminated)
  | .finalClaim =>
    let closeOutcome := s.writerOutcome.getD (if s.x.writerFailed then .writerFailure else .drained)
    some ({ s.setClaim (s.result cfg closeOutcome (s.summaryWritten .base)) with
      lock := none }.goto .terminated)
  | _ => none

/-- One step of the writer thread. -/
def writerStep (s : TraceSink) (c : Choice) : Option TraceSink :=
  match s.runStep cfg c s.writer with
  | some s' => some s'
  | none =>
    match s.summaryStep cfg c s.writer with
    | some s' => some s'
    | none => s.finalStep cfg c s.writer

/-! ## Callers of `close()` -/

def closeTimeoutNs : Nat := closeTimeoutMs * 1000000

def setCloser (s : TraceSink) (id : Nat) (pc : CloserPc) : TraceSink :=
  { s with closers := fun i => if i = id then pc else s.closers i }

/-- The call returns, and gives the close lock back if it holds it. -/
def returnResult (s : TraceSink) (id : Nat) (r : CloseResult) : TraceSink :=
  { s.setCloser id (.returned r) with
    closeLock := if s.closeLock = some id then none else s.closeLock }

/-- Claim a result and return the one that won. -/
def claimAndReturn (s : TraceSink) (id : Nat) (candidate : CloseResult) : TraceSink :=
  (s.setClaim candidate).returnResult id (s.claim.getD candidate)

/-- One step of a call. `expired` says that the wait of the step ran out. -/
def closerStep (s : TraceSink) (id : Nat) (expired : Bool) : Option TraceSink :=
  match s.closers id with
  | .idle => some (s.setCloser id (.entered (s.now + closeTimeoutNs)))
  | .entered deadline =>
    match s.claim with
    | some r => some (s.returnResult id r)
    | none => some (s.setCloser id (.wantCloseLock deadline))
  | .wantCloseLock deadline =>
    if expired then
      if s.closeLock ≠ none ∧ deadline ≤ s.now then some (s.setCloser id .giveUp) else none
    else if s.closeLock = none then
      some ({ s with closeLock := some id }.setCloser id (.wantCondition deadline))
    else none
  | .wantCondition deadline =>
    if expired then if deadline ≤ s.now then some (s.setCloser id .giveUp) else none
    else match s.claim with
      | some r => s.locked (s.returnResult id r)
      | none =>
        if s.x.closed then s.locked (s.claimAndReturn id (s.result cfg .writerFailure false))
        else
          let x := s.x.sealLoss cfg .base
          let x := if cfg.profileConfig.isSome then x.sealLoss cfg .profile else x
          s.locked ({ s with
            closeDeadlineNs := some deadline
            x := { x with closing := true } }.setCloser id (.joining deadline))
  | .joining deadline =>
    match s.writer with
    | .terminated => some (s.setCloser id (.wantFinal deadline))
    | _ => if deadline ≤ s.now then some (s.setCloser id (.wantFinal deadline)) else none
  | .wantFinal deadline =>
    if expired then if deadline ≤ s.now then some (s.setCloser id .giveUp) else none
    else match s.claim, s.writer with
      | some r, _ => s.locked (s.returnResult id r)
      | none, .terminated => s.locked (s.claimAndReturn id
          (s.result cfg (s.writerOutcome.getD .writerFailure) (s.summaryWritten .base)))
      | none, _ => s.locked ({ s with lock := some (.closer id) }.setCloser id .forcing)
  | .forcing =>
    let s := { s with
      x := { s.x.forceTimeoutAccounting (s.writerOutcome == some CloseOutcome.timeout) with
        closed := true }
      writerOutcome := some .timeout
      abandoned := true }
    some (s.setCloser id (.forced (s.result cfg .timeout false)))
  | .forced candidate => some ({ s.claimAndReturn id candidate with lock := none })
  | .giveUp => some (s.setCloser id (.timeoutClaim (s.result cfg .timeout false)))
  | .timeoutClaim candidate =>
    match s.claim with
    | some r => some (s.returnResult id r)
    | none => some ((s.setClaim candidate).setCloser id (.storeAbandoned candidate))
  | .storeAbandoned r => some ({ s with abandoned := true }.setCloser id (.storeClosed r))
  | .storeClosed r =>
    some ({ s with x := { s.x with closed := true } }.setCloser id (.storeOutcome r))
  | .storeOutcome r => some ({ s with writerOutcome := some .timeout }.returnResult id r)
  | .returned _ => none

/-! ## The whole sink -/

/-- A call of a producer. -/
inductive Call where
  | event (draft : EventDraft) (clock : Option Value)
  | edge (draft : EdgeDraft) (clock : Option Value)
  | profile (recordType : ProfileRecordType) (timestampNs : Value) (fields : Dict)
      (clock : Option Value)
  | drop (recordType : ProfileRecordType) (timestampNs : Value) (reason : LossReason)
      (clock : Option Value)
  | span
  | diagnostic (reason : String)

/-- What a producer call does to the exporter. -/
def Call.run (x : Exporter) (now : Nat) : Call → Exporter
  | .event draft clock => (x.writeEvent cfg draft clock now).1
  | .edge draft clock => (x.writeEdge cfg draft clock now).1
  | .profile recordType timestampNs fields clock =>
    (x.writeKvRecoveryProfile cfg recordType timestampNs fields clock now).1
  | .drop recordType timestampNs reason clock =>
    (x.dropKvRecoveryProfile cfg recordType timestampNs reason clock now).1
  | .span => (x.newSpanId cfg).1
  | .diagnostic reason => x.deferDiagnostic reason

inductive Action where
  | produce (call : Call)
  | writer (choice : Choice)
  | closer (id : Nat) (expired : Bool)
  | tick (ns : Nat)

def step (s : TraceSink) : Action → Option TraceSink
  | .produce call => s.locked { s with x := call.run cfg s.x s.now }
  | .writer choice => s.writerStep cfg choice
  | .closer id expired => s.closerStep cfg id expired
  | .tick ns => some { s with now := s.now + ns }

/-- The records and lines of `_initialize_writer`. -/
def startRecords (pid : Nat) (startedNs : Value) (stream : StreamId) :
    Except PyError (Dict × Bytes) :=
  match stream, cfg.profileConfig with
  | .profile, some config => do
    let record ← buildProfileStartRecord cfg.processUuid pid startedNs cfg.clockDomainId
      cfg.provenance config
    return (record, ← profileRecordLine record)
  | _, _ => do
    let record ← buildProcessStartRecord cfg.processUuid pid startedNs cfg.clockDomainId
      cfg.provenance
    return (record, ← canonicalJsonLine record)

/-- A sink whose constructor has returned: every shard holds its start record. -/
def opened (pid : Nat) (startedNs : Value) (now : Nat) : Except PyError TraceSink := do
  let (base, baseRaw) ← startRecords cfg pid startedNs .base
  let (profile, profileRaw) ← startRecords cfg pid startedNs .profile
  return {
    x := { ledger := fun stream => { hashed := if stream = .base then baseRaw else profileRaw } }
    shard := fun stream => { lines := [if stream = .base then .record base baseRaw
      else .record profile profileRaw] }
    now := now }

/-- The sink as its constructor returns it. -/
def Initial (s : TraceSink) : Prop :=
  ∃ pid startedNs now, opened cfg pid startedNs now = .ok s

/-- The states of the runs whose steps all meet the condition. -/
abbrev ReachableWhen (ok : TraceSink → Action → Prop) : TraceSink → Prop :=
  General.Reach (step cfg) (Initial cfg) ok

/-- The states of all runs. -/
abbrev Reachable : TraceSink → Prop := ReachableWhen cfg fun _ _ => True

end TraceSink
end LifecycleProfiler.Sink
