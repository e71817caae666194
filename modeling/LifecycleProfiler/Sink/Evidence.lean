import LifecycleProfiler.Normalizer.Ledger
import LifecycleProfiler.Sink.Digests

/-! # The evidence of drained sinks

The files of drained sinks are read back, merged in any order and put before the
checks of the normalizer on whole shards: its rosters, its digests and its
ledgers. -/

namespace LifecycleProfiler.Sink
open Python Protocol Json General

/-- The categories a ledger of the stream counts. -/
def categoriesOf : StreamId → List String
  | .base => Normalizer.baseCategories
  | .profile => Normalizer.profileCategories

/-! ## The type of a row -/

theorem RecordType.wire_injective : Function.Injective RecordType.wire := by
  intro k k' h
  cases k with
  | data k =>
    cases k' with
    | data k' => exact congrArg RecordType.data (Normalizer.wire_injective h)
    | event | edge | lossInterval => cases k <;> simp [RecordType.wire, ProfileRecordType.wire] at h
  | event | edge | lossInterval =>
    cases k' with
    | data k' => cases k' <;> simp [RecordType.wire, ProfileRecordType.wire] at h
    | event | edge | lossInterval => first | rfl | simp [RecordType.wire] at h

theorem RecordType.wire_ne_start (t : StreamId) (k : RecordType) : k.wire ≠ startTypeOf t := by
  cases t
  all_goals
    cases k with
    | data k => cases k <;> simp [RecordType.wire, ProfileRecordType.wire, startTypeOf]
    | event | edge | lossInterval => simp [RecordType.wire, startTypeOf]

/-- The categories of a stream are those of its data. -/
theorem isOneOf_wire (t : StreamId) (k : RecordType) :
    isOneOf (.str k.wire) (categoriesOf t) = isDataOf t k := by
  cases t <;> rcases k with _ | _ | k | _
  all_goals first
    | rfl
    | cases k <;> rfl

theorem wire_mem_categoriesOf {t : StreamId} {category : String} (h : category ∈ categoriesOf t) :
    ∃ k, isDataOf t k = true ∧ k.wire = category := by
  cases t with
  | base =>
    simp only [categoriesOf, Normalizer.baseCategories, List.mem_cons, List.not_mem_nil,
      or_false] at h
    rcases h with rfl | rfl
    · exact ⟨.event, rfl, rfl⟩
    · exact ⟨.edge, rfl, rfl⟩
  | profile =>
    simp only [categoriesOf, Normalizer.profileCategories, List.mem_cons, List.not_mem_nil,
      or_false] at h
    rcases h with rfl | rfl | rfl | rfl
    · exact ⟨.data .blockSetChunk, rfl, rfl⟩
    · exact ⟨.data .waitSetChunk, rfl, rfl⟩
    · exact ⟨.data .transferEvent, rfl, rfl⟩
    · exact ⟨.data .recoveryEvent, rfl, rfl⟩

/-- A mark names the type of its record. -/
theorem type_of_markOf {record : Dict} {m : Mark} (h : markOf record = some m) :
    record.get "record_type" = .str m.recordType.wire := by
  unfold markOf at h
  split at h
  · next kind hkind =>
    rw [hkind]
    split at h
    · next hloss =>
      split at h
      · cases h
        rw [hloss]
        rfl
      · cases h
    · split at h
      · next htype _ =>
        cases h
        unfold dataTypeOf at htype
        split at htype
        all_goals
          cases htype
        all_goals rfl
      · cases h
  · cases h

theorem seq_of_markOf {record : Dict} {k : RecordType} {seq : ℤ}
    (h : markOf record = some (.data k seq)) : record.get "record_seq" = .int seq := by
  unfold markOf at h
  split at h
  · split at h
    · split at h <;> cases h
    · split at h
      · next hseq =>
        cases h
        exact hseq
      · cases h
  · cases h

/-! ## Counting entries by their marks -/

/-- An entry whose mark has a category. -/
def hasMark (p : RecordType → Bool) (e : Entry) : Bool :=
  (markOf e.1).any fun m => p m.recordType

theorem length_hasMark (p : RecordType → Bool) (content : List Entry) :
    (content.filter (hasMark p)).length = (marksOf content).countP fun m => p m.recordType := by
  rw [← List.countP_eq_length_filter, marksOf, List.countP_filterMap]
  refine List.countP_congr fun e _ => ?_
  rw [hasMark]
  cases markOf e.1 <;> simp

/-! ## Ledgers -/

namespace Settled
variable {cfg : Config} {readFloat : ReadFloat} {r : CloseResult} {t : StreamId}
variable {content : List Entry} {summary : Entry} {l : Ledger} {rows : List Dict}
variable (h : Settled cfg readFloat r t content summary l)
include h

/-- The one first line among the rows of the process. -/
theorem starts : ∃ row, Normalizer.ofType (startTypeOf t) (rowsOf (content ++ [summary])) = [row] ∧
    row.get "process_uuid" = .str cfg.processUuid := by
  obtain ⟨first, rest, rfl, hstart, hrest⟩ := h.counted.started
  have hfirst : (rowOf first.1).has "record_type" (startTypeOf t) = true :=
    (h.owned first (by simp)).has_rowOf.mpr hstart
  have hothers : ∀ row ∈ rowsOf (rest ++ [summary]),
      ¬ row.has "record_type" (startTypeOf t) = true := by
    intro row hrow hrowStart
    obtain ⟨e, he, rfl⟩ := List.mem_map.mp hrow
    have htype := (h.owned e (List.mem_cons_of_mem _ he)).has_rowOf.mp hrowStart
    rcases List.mem_append.mp he with he | he
    · obtain ⟨m, hm⟩ := Option.isSome_iff_exists.mp (hrest e he)
      have hnames := Value.str.inj ((type_of_markOf hm).symm.trans htype)
      exact RecordType.wire_ne_start t m.recordType hnames
    · rw [List.mem_singleton.mp he, h.reports.record_type] at htype
      have hnames : summaryTypeOf t = startTypeOf t := Value.str.inj htype
      cases t <;> simp [startTypeOf, summaryTypeOf] at hnames
  refine ⟨rowOf first.1, ?_, ?_⟩
  · rw [List.cons_append, rowsOf, List.map_cons, ← rowsOf, Normalizer.ofType, List.filter_cons,
      if_pos hfirst, List.filter_eq_nil_iff.mpr hothers]
  · exact Dict.has_iff.mp (h.ofProcess _ (List.mem_map_of_mem (by simp)))

/-- The one last line among them. -/
theorem summary_row : ∃ row,
    Normalizer.ofType (summaryTypeOf t) (rowsOf (content ++ [summary])) = [row] ∧
      row.get "process_uuid" = .str cfg.processUuid := by
  refine ⟨rowOf summary.1, h.summaries, Dict.has_iff.mp (h.ofProcess _ ?_)⟩
  exact List.mem_map_of_mem (by simp)

/-- The data rows of a file are those of its data marks. -/
theorem isCategory {e : Entry} (he : e ∈ content ++ [summary]) :
    Normalizer.isCategory (categoriesOf t) (rowOf e.1) = hasMark (isDataOf t) e := by
  rw [Normalizer.isCategory, (h.owned e he).get_rowOf, hasMark]
  cases hmark : markOf e.1 with
  | some m =>
    rw [type_of_markOf hmark]
    exact isOneOf_wire t m.recordType
  | none =>
    have htype : e.1.get "record_type" = .str (startTypeOf t) ∨
        e.1.get "record_type" = .str (summaryTypeOf t) := by
      rcases List.mem_append.mp he with he | he
      · refine (h.kinds he).imp_right fun hsome => ?_
        rw [hmark] at hsome
        cases hsome
      · rw [List.mem_singleton.mp he]
        exact .inr h.reports.record_type
    rcases htype with htype | htype
    all_goals
      rw [htype]
      cases t <;> rfl

theorem dataRows (hrows : Normalizer.ofProcess cfg.processUuid rows =
    rowsOf (content ++ [summary])) :
    Normalizer.dataRows (categoriesOf t) cfg.processUuid rows =
      rowsOf (content.filter (hasMark (isDataOf t))) := by
  have hlast : hasMark (isDataOf t) summary = false := by
    rw [← h.isCategory (List.mem_append_right _ (List.mem_singleton_self _)),
      Normalizer.isCategory, h.owned_summary.get_rowOf, h.reports.record_type]
    cases t <;> rfl
  rw [Normalizer.dataRows_eq, hrows, rowsOf, List.filter_map, rowsOf]
  congr 1
  have hcongr : (content ++ [summary]).filter (Normalizer.isCategory (categoriesOf t) ∘
      fun e => rowOf e.1) = (content ++ [summary]).filter (hasMark (isDataOf t)) :=
    List.filter_congr fun e he => h.isCategory he
  rw [hcongr, List.filter_append]
  simp [hlast]

/-- Counted by category, the data rows are those the ledger counts. -/
theorem length_ofType {k : RecordType} (hk : isDataOf t k = true) :
    (Normalizer.ofType k.wire (rowsOf (content.filter (hasMark (isDataOf t))))).length =
      l.written k := by
  have hcongr : (content.filter (hasMark (isDataOf t))).filter ((fun row : Dict =>
      row.has "record_type" k.wire) ∘ fun e => rowOf e.1) =
        content.filter (hasMark fun k' => k' = k) := by
    rw [List.filter_filter]
    refine List.filter_congr fun e he => ?_
    rw [Function.comp_apply, Bool.eq_iff_iff, Bool.and_eq_true,
      (h.owned_content he).has_rowOf, hasMark, hasMark]
    cases hmark : markOf e.1 with
    | none => simp
    | some m =>
      rw [type_of_markOf hmark]
      simp only [Option.any_some, decide_eq_true_eq, Value.str.injEq]
      constructor
      · intro hboth
        exact RecordType.wire_injective hboth.1
      · intro htype
        exact ⟨congrArg RecordType.wire htype, htype ▸ hk⟩
  rw [Normalizer.ofType, rowsOf, List.filter_map, List.length_map, hcongr, length_hasMark,
    h.counted.written k]

/-- As many data rows as the ledger counts. -/
theorem length_data : (content.filter (hasMark (isDataOf t))).length + l.droppedData =
    l.attempted := by
  rw [length_hasMark, countP_data, h.reports.balance]
  cases t <;> simp [Exporter.writtenData, h.counted.written]

/-- Without losses every mark is that of a data record. -/
theorem all_data (hdata : l.droppedData = 0) (hcontrol : l.droppedControl = 0) :
    ∀ m ∈ marksOf content, ∃ k seq, m = .data k seq := by
  have htiles := h.tiles hcontrol
  have hlength := h.length_data
  rw [length_hasMark, hdata, Nat.add_zero] at hlength
  have hlost : ((marksOf content).map Mark.lost).sum = 0 := by
    have hpoints := htiles.points
    rw [points_marks h.counted.typed, sub_zero] at hpoints
    omega
  have hends : ∀ m ∈ marksOf content, m.span.1 ≤ m.span.2 :=
    fun m hm => htiles.ends _ (List.mem_map_of_mem hm)
  have hnonneg : ∀ n ∈ (marksOf content).map Mark.lost, (0 : ℤ) ≤ n := by
    intro n hn
    obtain ⟨m, hm, rfl⟩ := List.mem_map.mp hn
    have hle := hends m hm
    cases m with
    | data => exact le_rfl
    | loss _ first last =>
      simp only [Mark.span] at hle
      simp only [Mark.lost]
      omega
  intro m hm
  cases m with
  | data k seq => exact ⟨k, seq, rfl⟩
  | loss reason first last =>
    have hle := hends _ hm
    have hone := List.single_le_sum hnonneg _ (List.mem_map_of_mem (f := Mark.lost) hm)
    rw [hlost] at hone
    simp only [Mark.lost] at hone
    simp only [Mark.span] at hle
    omega

/-- The data rows carry the numbers of the marks. -/
theorem seqs (hdata : ∀ m ∈ marksOf content, ∃ k seq, m = .data k seq) :
    (content.filter (hasMark (isDataOf t))).map
        (fun e => ((rowOf e.1).get "record_seq").num?) =
      (marksOf content).map fun m => some (m.span.1 : Rat) := by
  have hpart : ∀ part, (∀ e ∈ part, e ∈ content) → (part.filter (hasMark (isDataOf t))).map
      (fun e => ((rowOf e.1).get "record_seq").num?) =
        (marksOf part).map fun m => some (m.span.1 : Rat) := by
    intro part hsub
    induction part with
    | nil => rfl
    | cons e rest ih =>
      obtain ⟨he, hrest⟩ := List.forall_mem_cons.mp hsub
      cases hmark : markOf e.1 with
      | none =>
        have hno : ¬ hasMark (isDataOf t) e = true := by simp [hasMark, hmark]
        have hskip : marksOf (e :: rest) = marksOf rest := List.filterMap_cons_none hmark
        rw [List.filter_cons_of_neg hno, hskip]
        exact ih hrest
      | some m =>
        have hm : m ∈ marksOf content := List.mem_filterMap.mpr ⟨e, he, hmark⟩
        obtain ⟨k, seq, rfl⟩ := hdata m hm
        have hkind : isDataOf t k = true :=
          (h.counted.typed _ hm).resolve_right (recordType_ne_of_markOf hmark)
        have hyes : hasMark (isDataOf t) e = true := by
          rw [hasMark, hmark]
          exact hkind
        have htake : marksOf (e :: rest) = .data k seq :: marksOf rest :=
          List.filterMap_cons_some hmark
        have hseq : (rowOf e.1).get "record_seq" = .int seq := by
          rw [(h.owned_content he).get_rowOf, seq_of_markOf hmark]
          rfl
        rw [List.filter_cons_of_pos hyes, htake, List.map_cons, List.map_cons, ih hrest, hseq]
        rfl
  exact hpart content fun e he => he

/-- Without losses the data rows carry `0, …, n - 1`. -/
theorem sequences (hdata : l.droppedData = 0) (hcontrol : l.droppedControl = 0) :
    (rowsOf (content.filter (hasMark (isDataOf t)))).map
        (fun row => (row.get "record_seq").num?) =
      rangeNums (content.filter (hasMark (isDataOf t))).length := by
  have hall := h.all_data hdata hcontrol
  have hspans : (marksOf content).map Mark.span =
      ((marksOf content).map fun m => m.span.1).map fun x => (x, x) := by
    rw [List.map_map]
    refine List.map_congr_left fun m hm => ?_
    obtain ⟨k, seq, rfl⟩ := hall m hm
    rfl
  have htiles := h.tiles hcontrol
  rw [hspans] at htiles
  have hsingles := htiles.singles
  have hlength : (content.filter (hasMark (isDataOf t))).length = (marksOf content).length := by
    have hmap := congrArg List.length (h.seqs hall)
    rwa [List.length_map, List.length_map] at hmap
  rw [List.length_map] at hsingles
  calc (rowsOf (content.filter (hasMark (isDataOf t)))).map (fun row => (row.get "record_seq").num?)
      = ((marksOf content).map fun m => m.span.1).map fun x : ℤ => some (x : Rat) := by
        rw [rowsOf, List.map_map, List.map_map]
        exact h.seqs hall
    _ = rangeNums (content.filter (hasMark (isDataOf t))).length := by
        rw [hsingles, hlength, rangeNums, List.map_map]
        refine List.map_congr_left fun i _ => ?_
        simp

/-- The ledger check passes exactly when the receipt reports nothing dropped. -/
theorem ledger (hrows : Normalizer.ofProcess cfg.processUuid rows =
    rowsOf (content ++ [summary])) :
    Normalizer.validateLedger (summaryTypeOf t) (categoriesOf t) rows cfg.processUuid = .ok () ↔
      r.droppedDataOf t = 0 ∧ r.droppedControlOf t = 0 := by
  have hget : ∀ {key : String} {n : Nat}, summary.1.get key = .int n →
      ((rowOf summary.1).get key).num? = some (n : Rat) := by
    intro key n hkey
    rw [h.owned_summary.get_rowOf, hkey]
    simp [canon, Value.num?]
  rw [Normalizer.validateLedger_eq_ok, ← h.droppedData, ← h.droppedControl]
  constructor
  · intro hcomplete
    obtain ⟨row, hone, hreconciles⟩ := hcomplete.summary
    rw [hrows, h.summaries, List.cons.injEq] at hone
    obtain ⟨rfl, -⟩ := hone
    have hdata := (hget h.reports.droppedData).symm.trans hreconciles.droppedData
    have hcontrol := (hget h.reports.droppedControl).symm.trans hreconciles.droppedControl
    simp only [Option.some.injEq, Nat.cast_eq_zero] at hdata hcontrol
    exact ⟨hdata, hcontrol⟩
  · intro hnone
    obtain ⟨hdata, hcontrol⟩ := hnone
    have hlength := h.length_data
    rw [hdata, Nat.add_zero] at hlength
    have hrowsLength : (rowsOf (content.filter (hasMark (isDataOf t)))).length = l.attempted := by
      rw [rowsOf, List.length_map, hlength]
    refine ⟨⟨rowOf summary.1, ?_, ?_⟩, ?_⟩
    · rw [hrows]
      exact h.summaries
    · rw [h.dataRows hrows]
      refine ⟨?_, ?_, ?_, ?_, ?_, fun category hcategory => ?_⟩
      · rw [h.owned_summary.get_rowOf, h.reports.outcome]
        rfl
      · rw [hget h.reports.droppedData, hdata, Nat.cast_zero]
      · rw [hget h.reports.droppedControl, hcontrol, Nat.cast_zero]
      · rw [hget h.reports.writerFailures, h.writerFailures, Nat.cast_zero]
      · rw [hget h.reports.attempted, hrowsLength]
      · obtain ⟨k, hk, rfl⟩ := wire_mem_categoriesOf hcategory
        rw [hget (h.reports.written k hk), h.length_ofType hk]
    · rw [h.dataRows hrows, h.sequences hdata hcontrol, rowsOf, List.length_map]

end Settled

/-! ## Interleaved files -/

/-- A sink that has closed drained, with its summary written, and a stream of it. -/
structure DrainedSink (readFloat : ReadFloat) (sha256 : Bytes → String) (t : StreamId) where
  cfg : Config
  sink : TraceSink
  receipt : CloseResult
  sha256_eq : cfg.sha256 = sha256
  stream : t ∈ TraceSink.streams cfg
  reached : TraceSink.ReachableWhen cfg (TraceSink.PassesObjects readFloat) sink
  claimed : sink.claim = some receipt
  drained : receipt.closeOutcome = .drained
  summarised : receipt.summaryWritten = true

namespace DrainedSink
variable {readFloat : ReadFloat} {sha256 : Bytes → String} {t : StreamId}
variable {sinks : List (DrainedSink readFloat sha256 t)} {rows : List Dict}

def processUuid (d : DrainedSink readFloat sha256 t) : String := d.cfg.processUuid

/-- The file of the stream. -/
def file (d : DrainedSink readFloat sha256 t) : Bytes := (d.sink.shard t).file

theorem settled (d : DrainedSink readFloat sha256 t) : ∃ content summary l,
    d.file = bytesOf (content ++ [summary]) ∧
      Settled d.cfg readFloat d.receipt t content summary l := by
  obtain ⟨content, summary, l, hlines, hsettled⟩ :=
    settled_of_drained d.reached d.claimed d.drained d.summarised d.stream
  refine ⟨content, summary, l, ?_, hsettled⟩
  rw [file, Shard.file, hlines, List.flatMap_map]
  rfl

/-- The rows of each process, read back from its file. -/
def shardsOf (sinks : List (DrainedSink readFloat sha256 t)) (u : String) : List Dict :=
  match sinks.find? fun d => d.processUuid = u with
  | some d => (readRows readFloat d.file).getD []
  | none => []

theorem shardsOf_none {u : String} (h : u ∉ sinks.map processUuid) : shardsOf sinks u = [] := by
  have hnone : (sinks.find? fun d => d.processUuid = u) = none := by
    refine List.find?_eq_none.mpr fun d hd hu => h ?_
    exact List.mem_map.mpr ⟨d, hd, by simpa using hu⟩
  rw [shardsOf, hnone]

/-- With one sink a process, each is found under its own. -/
theorem find?_processUuid (hnodup : (sinks.map processUuid).Nodup) :
    ∀ d ∈ sinks, (sinks.find? fun e => e.processUuid = d.processUuid) = some d := by
  induction sinks with
  | nil => exact fun d hd => absurd hd List.not_mem_nil
  | cons head rest ih =>
    rw [List.map_cons, List.nodup_cons] at hnodup
    intro d hd
    rw [List.find?_cons]
    rcases List.mem_cons.mp hd with hhead | hd
    · simp [hhead]
    · have hne : head.processUuid ≠ d.processUuid := by
        intro hsame
        exact hnodup.1 (hsame ▸ List.mem_map_of_mem hd)
      simp only [hne, decide_false]
      exact ih hnodup.2 d hd

/-- The shard of a sink is its settled file. -/
theorem shardsOf_processUuid (hnodup : (sinks.map processUuid).Nodup)
    {d : DrainedSink readFloat sha256 t} (hd : d ∈ sinks) : ∃ content summary l,
      d.file = bytesOf (content ++ [summary]) ∧
        readRows readFloat d.file = some (shardsOf sinks d.processUuid) ∧
        shardsOf sinks d.processUuid = rowsOf (content ++ [summary]) ∧
          Settled d.cfg readFloat d.receipt t content summary l := by
  obtain ⟨content, summary, l, hfile, hsettled⟩ := d.settled
  have hshard : shardsOf sinks d.processUuid = rowsOf (content ++ [summary]) := by
    rw [shardsOf, find?_processUuid hnodup d hd]
    show (readRows readFloat d.file).getD [] = _
    rw [hfile, hsettled.readRows, Option.getD_some]
  refine ⟨content, summary, l, hfile, ?_, hshard, hsettled⟩
  rw [hfile, hsettled.readRows, hshard]

theorem ofProcesses (hnodup : (sinks.map processUuid).Nodup) :
    Normalizer.OfProcesses (shardsOf sinks) := by
  intro u row hrow
  by_cases hu : u ∈ sinks.map processUuid
  · obtain ⟨d, hd, rfl⟩ := List.mem_map.mp hu
    obtain ⟨content, summary, l, -, -, hshard, hsettled⟩ := shardsOf_processUuid hnodup hd
    rw [hshard] at hrow
    exact hsettled.ofProcess row hrow
  · rw [shardsOf_none hu] at hrow
    cases hrow

/-- In any merge a process finds the rows of its own file. -/
theorem ofProcess_rows (hnodup : (sinks.map processUuid).Nodup)
    (hrows : Interleaving (shardsOf sinks) rows) {d : DrainedSink readFloat sha256 t}
    (hd : d ∈ sinks) : ∃ content summary l,
      Normalizer.ofProcess d.processUuid rows = rowsOf (content ++ [summary]) ∧
        Settled d.cfg readFloat d.receipt t content summary l := by
  obtain ⟨content, summary, l, -, -, hshard, hsettled⟩ := shardsOf_processUuid hnodup hd
  refine ⟨content, summary, l, ?_, hsettled⟩
  rw [← hshard]
  exact hrows.filter_eq (ofProcesses hnodup).owns d.processUuid

/-- A type that each file has once is on the roster. -/
theorem validateProcessRoster_rows {kind : String} (hnodup : (sinks.map processUuid).Nodup)
    (hrows : Interleaving (shardsOf sinks) rows)
    (hone : ∀ d ∈ sinks, ∃ row, Normalizer.ofType kind (shardsOf sinks d.processUuid) = [row] ∧
      row.get "process_uuid" = .str d.processUuid) :
    Normalizer.validateProcessRoster rows kind (sinks.map processUuid) = .ok () := by
  have hmerged : Interleaving (shardsOf sinks) ((sinks.map processUuid).flatMap (shardsOf sinks)) :=
    .flatMap hnodup fun u hu => shardsOf_none hu
  have hmap : (Normalizer.ofType kind ((sinks.map processUuid).flatMap (shardsOf sinks))).map
      (·.get "process_uuid") = (sinks.map processUuid).map .str := by
    clear hnodup hrows hmerged
    generalize shardsOf sinks = shards at hone
    induction sinks with
    | nil => rfl
    | cons d rest ih =>
      obtain ⟨row, hrow, hprocess⟩ := hone d List.mem_cons_self
      have hrest := ih fun e he => hone e (List.mem_cons_of_mem _ he)
      rw [Normalizer.ofType] at hrow hrest ⊢
      rw [List.map_cons, List.flatMap_cons, List.filter_append, hrow, List.map_append, hrest]
      simp [hprocess]
  have hobserved : ((Normalizer.ofType kind rows).map (·.get "process_uuid")).Perm
      ((sinks.map processUuid).map .str) := by
    rw [← hmap]
    exact ((hrows.perm hmerged).filter _).map _
  simp only [Normalizer.validateProcessRoster, bind_eq_ok, exists_unit, raiseIf_eq_ok,
    forEach_eq_ok, Bool.not_eq_false', List.all_eq_true, List.any_eq_true]
  refine ⟨?_, fun v hv => ?_, fun u hu => ?_⟩
  · rw [hobserved.length_eq, List.length_map]
    simp
  · obtain ⟨u, hu, rfl⟩ := List.mem_map.mp (hobserved.mem_iff.mp hv)
    refine ⟨true, ?_, rfl⟩
    show Except.ok ((sinks.map processUuid).any fun s => (Value.str u).pyEq (.str s)) = .ok true
    exact congrArg _ (List.any_eq_true.mpr ⟨u, hu, Value.pyEq_str.mpr rfl⟩)
  · exact ⟨.str u, hobserved.mem_iff.mpr (List.mem_map_of_mem hu), Value.pyEq_str.mpr rfl⟩

end DrainedSink

/-- **The normalizer finds drained shards whole**: the files of drained sinks of
different processes are read back, byte for byte if encoded again, and merged in
any order each process is on the rosters once, with the digest of its own file. -/
theorem drained_rows_validate {readFloat : ReadFloat} {sha256 : Bytes → String} {t : StreamId}
    {sinks : List (DrainedSink readFloat sha256 t)}
    (hnodup : (sinks.map DrainedSink.processUuid).Nodup) :
    (∀ d ∈ sinks, readRows readFloat d.file = some (DrainedSink.shardsOf sinks d.processUuid) ∧
      Normalizer.contentOf (lineOf t) (DrainedSink.shardsOf sinks d.processUuid) = .ok d.file) ∧
      ∀ rows, Interleaving (DrainedSink.shardsOf sinks) rows →
        Normalizer.validateProcessRoster rows (startTypeOf t) (sinks.map DrainedSink.processUuid) =
          .ok () ∧
        Normalizer.validateProcessRoster rows (summaryTypeOf t)
          (sinks.map DrainedSink.processUuid) = .ok () ∧
        Normalizer.validateShardContentDigests sha256 rows (sinks.map DrainedSink.processUuid)
          (summaryTypeOf t) (lineOf t) = .ok () := by
  refine ⟨fun d hd => ?_, fun rows hrows => ⟨?_, ?_, ?_⟩⟩
  · obtain ⟨content, summary, l, hfile, hread, hshard, hsettled⟩ :=
      DrainedSink.shardsOf_processUuid hnodup hd
    refine ⟨hread, ?_⟩
    rw [hshard, hfile]
    exact contentOf_rows hsettled.encoded
  · refine DrainedSink.validateProcessRoster_rows hnodup hrows fun d hd => ?_
    obtain ⟨content, summary, l, -, -, hshard, hsettled⟩ :=
      DrainedSink.shardsOf_processUuid hnodup hd
    rw [hshard]
    exact hsettled.starts
  · refine DrainedSink.validateProcessRoster_rows hnodup hrows fun d hd => ?_
    obtain ⟨content, summary, l, -, -, hshard, hsettled⟩ :=
      DrainedSink.shardsOf_processUuid hnodup hd
    rw [hshard]
    exact hsettled.summary_row
  · rw [Normalizer.validateShardContentDigests, forEach_eq_ok]
    intro u hu
    obtain ⟨d, hd, rfl⟩ := List.mem_map.mp hu
    obtain ⟨content, summary, l, hprocess, hsettled⟩ := DrainedSink.ofProcess_rows hnodup hrows hd
    have hvalid := hsettled.validates hprocess
    rw [d.sha256_eq] at hvalid
    exact hvalid

/-- **The ledger check reads the receipt**: over the merged files of drained sinks
it passes exactly when no receipt reports a dropped record. What else it asks for,
the counts by category and sequence numbers without a gap, always holds. -/
theorem drained_ledgers_iff {readFloat : ReadFloat} {sha256 : Bytes → String} {t : StreamId}
    {sinks : List (DrainedSink readFloat sha256 t)}
    (hnodup : (sinks.map DrainedSink.processUuid).Nodup) {rows : List Dict}
    (hrows : Interleaving (DrainedSink.shardsOf sinks) rows) :
    forEach (Normalizer.validateLedger (summaryTypeOf t) (categoriesOf t) rows)
        (sinks.map DrainedSink.processUuid) = .ok () ↔
      ∀ d ∈ sinks, d.receipt.droppedDataOf t = 0 ∧ d.receipt.droppedControlOf t = 0 := by
  rw [forEach_eq_ok]
  constructor
  · intro h d hd
    obtain ⟨content, summary, l, hprocess, hsettled⟩ := DrainedSink.ofProcess_rows hnodup hrows hd
    exact (hsettled.ledger hprocess).mp (h _ (List.mem_map_of_mem hd))
  · intro h u hu
    obtain ⟨d, hd, rfl⟩ := List.mem_map.mp hu
    obtain ⟨content, summary, l, hprocess, hsettled⟩ := DrainedSink.ofProcess_rows hnodup hrows hd
    exact (hsettled.ledger hprocess).mpr (h d hd)

example (rows : List Dict) (us : List String) : Normalizer.validateProfileLedgers rows us =
    forEach (Normalizer.validateLedger (summaryTypeOf .profile) (categoriesOf .profile) rows) us :=
  rfl

namespace Sample

theorem reached_drained (readFloat : ReadFloat) :
    TraceSink.ReachableWhen cfg (TraceSink.PassesObjects readFloat) drained := by
  unfold drained
  refine (General.Reach.init initial_start).run (TraceSink.runOk_passesObjects (fun a ha s => ?_) _)
  simp only [produced, writer, closer, List.mem_append, List.mem_replicate, List.mem_cons,
    List.not_mem_nil, or_false] at ha
  rcases ha with ((⟨-, rfl⟩ | rfl | rfl) | ⟨-, rfl⟩) | ⟨-, rfl⟩
  all_goals exact trivial

/-- The sink that has closed in time, after losing one edge. -/
theorem drainedSink (t : StreamId) : ∃ d : DrainedSink (fun _ => none) cfg.sha256 t,
    d.sink = drained ∧ d.processUuid = cfg.processUuid ∧
      d.receipt.droppedDataOf .base = 1 ∧ d.receipt.droppedDataOf .profile = 0 ∧
        d.receipt.droppedControlOf .profile = 0 := by
  have hclaim : drained.claim.any (fun r => r.closeOutcome == .drained && r.summaryWritten &&
      r.droppedDataOf .base == 1 && r.droppedDataOf .profile == 0 &&
        r.droppedControlOf .profile == 0) = true := by decide +kernel
  obtain ⟨r, hr, h⟩ := (Option.any_eq_true _ _).mp hclaim
  simp only [Bool.and_eq_true, beq_iff_eq] at h
  have ht : t ∈ TraceSink.streams cfg := by cases t <;> decide
  exact ⟨⟨cfg, drained, r, rfl, ht, reached_drained _, hr, h.1.1.1.1, h.1.1.1.2⟩, rfl, rfl,
    h.1.1.2, h.1.2, h.2⟩

end Sample

theorem drained_rows_validate_base :
    ∃ d : DrainedSink (fun _ => none) Sample.cfg.sha256 .base, d.sink = Sample.drained ∧
      ∃ rows, readRows (fun _ => none) d.file = some rows ∧
        Normalizer.validateShardContentDigests Sample.cfg.sha256 rows [Sample.cfg.processUuid]
          "process_summary" canonicalJsonLine = .ok () := by
  obtain ⟨d, hsink, huuid, -⟩ := Sample.drainedSink .base
  have hnodup : ([d].map DrainedSink.processUuid).Nodup := List.nodup_singleton _
  obtain ⟨hread, hvalidate⟩ := drained_rows_validate hnodup
  have hmerge : Interleaving (DrainedSink.shardsOf [d])
      ([d.processUuid].flatMap (DrainedSink.shardsOf [d])) :=
    .flatMap hnodup fun u hu => DrainedSink.shardsOf_none hu
  rw [List.flatMap_singleton] at hmerge
  obtain ⟨-, -, hdigests⟩ := hvalidate _ hmerge
  refine ⟨d, hsink, _, (hread d List.mem_cons_self).1, ?_⟩
  rw [← huuid]
  exact hdigests

theorem drained_ledgers_iff_lost :
    (∃ d : DrainedSink (fun _ => none) Sample.cfg.sha256 .profile, d.sink = Sample.drained ∧
      Normalizer.validateProfileLedgers (DrainedSink.shardsOf [d] d.processUuid)
        [d.processUuid] = .ok ()) ∧
    ∃ d : DrainedSink (fun _ => none) Sample.cfg.sha256 .base, d.sink = Sample.drained ∧
      Normalizer.validateLedger "process_summary" Normalizer.baseCategories
        (DrainedSink.shardsOf [d] d.processUuid) d.processUuid ≠ .ok () := by
  have hmerge : ∀ {t} (d : DrainedSink (fun _ => none) Sample.cfg.sha256 t),
      Interleaving (DrainedSink.shardsOf [d]) (DrainedSink.shardsOf [d] d.processUuid) := by
    intro t d
    have hflat : Interleaving (DrainedSink.shardsOf [d])
        ([d.processUuid].flatMap (DrainedSink.shardsOf [d])) :=
      .flatMap (List.nodup_singleton _) fun u hu => DrainedSink.shardsOf_none hu
    rwa [List.flatMap_singleton] at hflat
  constructor
  · obtain ⟨d, hsink, -, -, hdata, hcontrol⟩ := Sample.drainedSink .profile
    have hnodup : ([d].map DrainedSink.processUuid).Nodup := List.nodup_singleton _
    refine ⟨d, hsink, (drained_ledgers_iff hnodup (hmerge d)).mpr ?_⟩
    intro e he
    rw [List.mem_singleton.mp he]
    exact ⟨hdata, hcontrol⟩
  · obtain ⟨d, hsink, -, hdata, -⟩ := Sample.drainedSink .base
    have hnodup : ([d].map DrainedSink.processUuid).Nodup := List.nodup_singleton _
    refine ⟨d, hsink, fun hledger => ?_⟩
    have hall := (drained_ledgers_iff hnodup (hmerge d)).mp
      (forEach_eq_ok.mpr fun u hu => by
        rw [List.mem_singleton.mp hu]
        exact hledger)
    rw [(hall d List.mem_cons_self).1] at hdata
    cases hdata

end LifecycleProfiler.Sink
