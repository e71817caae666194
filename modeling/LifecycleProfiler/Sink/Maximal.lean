import LifecycleProfiler.Sink.Intervals
import LifecycleProfiler.Sink.Losses

/-! # Whole runs and their intervals

A timeout turns the pending data into one interval for each run of neighbouring
numbers. Those are apart by construction, so an interval can only border on one
that was sealed before. With that the intervals of a stream are maximal in every
run that takes no splitting step. -/

namespace LifecycleProfiler.Sink
open Python Protocol

/-! ## The groups of a timeout -/

/-- The numbers of a group. -/
def groupFirst (group : List Queued) : Nat := (group.head?.bind (·.recordSeq)).getD 0
def groupLast (group : List Queued) : Nat := (group.getLast?.bind (·.recordSeq)).getD 0

namespace Exporter

/-- Every record has a number, and the numbers increase. -/
structure Increasing (records : List Queued) : Prop where
  numbered : ∀ q ∈ records, ∃ k, q.recordSeq = some k
  sorted : records.Pairwise fun p q => seqOf p < seqOf q

theorem mem_consecutiveGroups {group rest g : List Queued} {q : Queued}
    (hg : g ∈ consecutiveGroups group rest) (hq : q ∈ g) : q ∈ group ++ rest := by
  rw [← consecutiveGroups_flatten group rest]
  exact List.mem_flatten.mpr ⟨g, hg, hq⟩

/-- The cut is where a number is missing. -/
theorem consecutiveGroups_apart {group rest : List Queued} (h : Increasing (group ++ rest)) :
    (∀ g ∈ consecutiveGroups group rest, g ≠ []) ∧
      (consecutiveGroups group rest).Pairwise fun g g' =>
        ∀ p ∈ g, ∀ q ∈ g', seqOf p + 1 < seqOf q := by
  induction rest generalizing group with
  | nil =>
    rw [consecutiveGroups]
    split
    · exact ⟨by simp, .nil⟩
    · next hne =>
      refine ⟨fun g hg => ?_, List.pairwise_singleton ..⟩
      rw [List.mem_singleton.mp hg]
      simpa using hne
  | cons q rest ih =>
    rw [consecutiveGroups]
    split
    · next hcut =>
      obtain ⟨last, hlast, hjump⟩ := (Option.any_eq_true _ _).mp hcut
      obtain ⟨p, hp, hseq⟩ := Option.bind_eq_some_iff.mp hlast
      obtain ⟨k, hk, hne⟩ := (Option.any_eq_true _ _).mp hjump
      have hsorted := List.pairwise_append.mp h.sorted
      have htail : Increasing ([q] ++ rest) :=
        ⟨fun r hr => h.numbered r (List.mem_append_right _ hr), hsorted.2.1⟩
      obtain ⟨hnonempty, hpairwise⟩ := ih htail
      have hpmem := List.mem_of_getLast? hp
      have hgroup : ∀ r ∈ group, seqOf r ≤ last := by
        intro r hr
        obtain ⟨front, rfl⟩ := List.getLast?_eq_some_iff.mp hp
        rcases List.mem_append.mp hr with hr | hr
        · have := (List.pairwise_append.mp hsorted.1).2.2 r hr p (List.mem_singleton_self p)
          rw [show seqOf p = last by rw [seqOf, hseq]; rfl] at this
          omega
        · rw [List.mem_singleton.mp hr, seqOf, hseq]
          exact Nat.le_refl _
      have hnext : last + 1 < seqOf q := by
        have hlt := hsorted.2.2 p hpmem q List.mem_cons_self
        rw [seqOf, seqOf, hseq, hk] at hlt
        simp only [Option.getD_some] at hlt
        have hne : k ≠ last + 1 := by simpa using hne
        rw [seqOf, hk, Option.getD_some]
        omega
      refine ⟨fun g hg => ?_, List.pairwise_cons.mpr ⟨fun g hg a ha b hb => ?_, hpairwise⟩⟩
      · rcases List.mem_cons.mp hg with rfl | hg
        · exact List.ne_nil_of_mem hpmem
        · exact hnonempty g hg
      · have hale := hgroup a ha
        rcases List.mem_append.mp (mem_consecutiveGroups hg hb) with hb | hb
        · rw [List.mem_singleton.mp hb]
          omega
        · have := (List.pairwise_cons.mp hsorted.2.1).1 b hb
          omega
    · refine ih ?_
      rwa [List.append_assoc, List.singleton_append]

/-- The ends of a group are numbers of its records. -/
theorem Increasing.ends {group : List Queued} (h : Increasing group) (hne : group ≠ []) :
    (∃ p ∈ group, seqOf p = groupFirst group) ∧ (∃ q ∈ group, seqOf q = groupLast group) ∧
      groupFirst group ≤ groupLast group := by
  obtain ⟨q, rest, rfl⟩ := List.exists_cons_of_ne_nil hne
  have hlast := List.getLast?_eq_some_getLast hne
  have hfirst : seqOf q = groupFirst (q :: rest) := rfl
  have hend : seqOf ((q :: rest).getLast hne) = groupLast (q :: rest) := by
    rw [groupLast, hlast]
    rfl
  have hmem := List.getLast_mem hne
  refine ⟨⟨q, List.mem_cons_self, hfirst⟩, ⟨_, hmem, hend⟩, ?_⟩
  rw [← hfirst, ← hend]
  rcases List.mem_cons.mp hmem with hq | hq
  · rw [hq]
  · exact Nat.le_of_lt ((List.pairwise_cons.mp h.sorted).1 _ hq)

section Groups
variable {cfg : Config} {x : Exporter} {t : StreamId} {n : Nat}

theorem Numbered.increasing (h : Numbered x t n) :
    Increasing (x.pending.filter fun q => q.stream = t && q.isData) := by
  have hown : (x.pending.filter fun q => q.stream = t && q.isData) =
      (x.own t).filter fun q => q.isData := by
    rw [own, List.filter_filter]
    exact List.filter_congr fun q _ => Bool.and_comm ..
  rw [hown]
  refine ⟨fun q hq => ?_, h.sorted⟩
  obtain ⟨hq, hdata⟩ := List.mem_filter.mp hq
  obtain ⟨k, hk, -⟩ := h.below q hq hdata
  exact ⟨k, hk⟩

/-- The groups of pending data end below the next number, and none borders on
another. -/
theorem Numbered.groups (h : Numbered x t n) :
    (∀ g ∈ x.timeoutGroups t, groupFirst g ≤ groupLast g ∧ groupLast g < n) ∧
      ∀ g ∈ x.timeoutGroups t, ∀ g' ∈ x.timeoutGroups t, groupLast g + 1 ≠ groupFirst g' := by
  have hall := h.increasing
  obtain ⟨hne, hapart⟩ := @consecutiveGroups_apart [] _ hall
  have hends : ∀ g ∈ x.timeoutGroups t, (∃ p ∈ g, seqOf p = groupFirst g) ∧
      (∃ q ∈ g, seqOf q = groupLast g) ∧ groupFirst g ≤ groupLast g := by
    intro g hg
    have hsub : g.Sublist (x.pending.filter fun q => q.stream = t && q.isData) := by
      have hflat := consecutiveGroups_flatten []
        (x.pending.filter fun q => q.stream = t && q.isData)
      rw [List.nil_append] at hflat
      rw [← hflat]
      exact List.sublist_flatten_of_mem hg
    exact Increasing.ends ⟨fun q hq => hall.numbered q (hsub.subset hq), hall.sorted.sublist hsub⟩
      (hne g hg)
  refine ⟨fun g hg => ⟨(hends g hg).2.2, ?_⟩, fun g hg g' hg' => ?_⟩
  · obtain ⟨q, hq, hlast⟩ := (hends g hg).2.1
    obtain ⟨hmem, hq⟩ := List.mem_filter.mp (mem_consecutiveGroups hg hq)
    obtain ⟨hstream, hdata⟩ := Bool.and_eq_true_iff.mp hq
    obtain ⟨k, hk, hlt⟩ := h.below q (List.mem_filter.mpr ⟨hmem, hstream⟩) hdata
    rw [← hlast, seqOf, hk]
    exact hlt
  · -- the later of two groups starts far behind the earlier one
    have hfar : (x.timeoutGroups t).Pairwise fun a b => groupLast a + 1 < groupFirst b := by
      refine List.Pairwise.imp_of_mem (fun ha hb hab => ?_) hapart
      obtain ⟨p, hp, hlast⟩ := (hends _ ha).2.1
      obtain ⟨q, hq, hfirst⟩ := (hends _ hb).1
      rw [← hlast, ← hfirst]
      exact hab p hp q hq
    refine List.Pairwise.forall_of_forall_of_flip (R := fun a b => groupLast a + 1 ≠ groupFirst b)
      (fun g hg => ?_) (hfar.imp Nat.ne_of_lt) (List.Pairwise.imp_of_mem (fun ha hb hab => ?_) hfar)
      hg hg'
    · have := (hends g hg).2.2
      omega
    · have := (hends _ ha).2.2
      have := (hends _ hb).2.2
      show groupLast _ + 1 ≠ groupFirst _
      omega

/-- Every control of a timeout was pending, or reports one of the groups. -/
theorem TimeoutStage.controls {observedNs : Nat} {a : Admitted}
    (h : TimeoutStage cfg x observedNs a) : ∀ q ∈ a.controls,
      q ∈ x.pending ∨ ∃ g ∈ x.timeoutGroups q.stream, markOf q.record =
        some (.loss LossReason.closeTimeout.wire (groupFirst g) (groupLast g)) := by
  have hkeeps : ∀ {a : Admitted} {P : Queued → Prop} {q : Queued}, (∀ p ∈ a.controls, P p) → P q →
      ∀ p ∈ (a.admitControl q).controls, P p := by
    intro a P q ha hq p hp
    unfold Admitted.admitControl at hp
    split at hp
    · exact ha p hp
    · rcases List.mem_append.mp hp with hp | hp
      · exact ha p hp
      · exact List.mem_singleton.mp hp ▸ hq
  induction h with
  | start => exact nofun
  | existing _ hq ih => exact hkeeps ih (.inl (List.mem_filter.mp hq).1)
  | @group a stream g _ hg ih =>
    unfold Admitted.admitGroup timeoutLossControl
    dsimp only
    split
    · next heq =>
      split at heq
      · cases heq
        exact ih
      · cases heq
    · next heq =>
      split at heq
      · cases heq
      · next record raw hrecord =>
        cases heq
        exact hkeeps (a := { a with x := _ }) ih (.inr ⟨g, hg, markOf_lossRecord hrecord⟩)

end Groups

/-- A smaller book. -/
theorem Apart.of_le {x y : Exporter} {t : StreamId} {n : Nat} {outside outside' : Mark → Prop}
    (h : Apart outside x t n) (hle : ∀ m, reports outside' y t m → reports outside x t m)
    (hown : (y.own t).Sublist (x.own t)) (hsame : SameLosses x y) : Apart outside' y t n := by
  refine ⟨h.book.of_le hle, ?_, h.numbered.of_sublist hown⟩
  rw [hsame.openLoss t]
  exact h.border.of_le hle fun hc => hsame.closing ▸ hc

section Sealing
variable {cfg : Config} {x y : Exporter} {t stream : StreamId} {n : Nat} {outside : Mark → Prop}

/-- A stream that is sealed for good. -/
theorem Apart.closes (h : Apart outside x stream n) (hs : Seals cfg stream x y) :
    Apart outside { y with closing := true } stream n := by
  have hbook : Book (reports outside y stream) n := h.seals hs
  have hnumbered : Numbered y stream n := h.numbered.seals hs
  refine ⟨hbook, ?_, ⟨hnumbered.below, hnumbered.sorted⟩⟩
  have hnone : (({ y with closing := true } : Exporter).ledger stream).openLoss =
    none := hs.openLoss
  rw [hnone]
  exact nofun

theorem ApartAll.sealOpen {F : StreamId → Mark → Prop} (h : ApartAll F x)
    (hprofile : (x.ledger .profile).openLoss ≠ none → cfg.profileConfig.isSome = true) :
    ApartAll F { x.sealOpen cfg with closing := true } := by
  have hbase := seals cfg x .base
  have hprofiles := seals cfg (x.sealLoss cfg .base) .profile
  have hnone := sealOpen_openLoss hprofile
  have hadmits : Admits x (x.sealLoss cfg .base) := admits_sealLoss x
  have hother : Apart (F .profile) (x.sealLoss cfg .base) .profile
      (x.ledger .profile).nextRecordSeq :=
    (h .profile).of_same (hbase.others .profile nofun).own
      (by rw [(hbase.others .profile nofun).ledger])
      fun hc => hadmits.closing ▸ hc
  unfold Exporter.sealOpen at hnone ⊢
  dsimp only at hnone ⊢
  intro t
  split
  · next hconfig =>
    rw [if_pos hconfig] at hnone
    cases t with
    | base =>
      have hsame := hprofiles.others .base nofun
      have hnext : (((x.sealLoss cfg .base).sealLoss cfg .profile).ledger .base).nextRecordSeq =
          (x.ledger .base).nextRecordSeq := by rw [hsame.ledger, hbase.nextRecordSeq]
      rw [show ({ (x.sealLoss cfg .base).sealLoss cfg .profile with closing := true } :
        Exporter).ledger = ((x.sealLoss cfg .base).sealLoss cfg .profile).ledger from rfl, hnext]
      exact ((h .base).closes hbase).of_same hsame.own (by
        show (((x.sealLoss cfg .base).sealLoss cfg .profile).ledger .base).openLoss =
          ((x.sealLoss cfg .base).ledger .base).openLoss
        rw [hsame.ledger]) nofun
    | profile =>
      have hnext := hprofiles.nextRecordSeq.trans
        (congrArg Ledger.nextRecordSeq (hbase.others .profile nofun).ledger)
      exact hnext ▸ hother.closes hprofiles
  · next hconfig =>
    cases t with
    | base => exact hbase.nextRecordSeq ▸ (h .base).closes hbase
    | profile =>
      rw [show (({ x.sealLoss cfg .base with closing := true } : Exporter).ledger .profile) =
        x.ledger .profile from (hbase.others .profile nofun).ledger]
      exact hother.of_same rfl rfl nofun

end Sealing

end Exporter

/-! ## The book of a stream and its file -/

namespace TraceSink

/-- The marks of a file, in its order. -/
def fileMarks (s : TraceSink) (t : StreamId) : List Mark :=
  (s.shard t).lines.filterMap fun line => line.record?.bind markOf

/-- The accepted records and the sealed intervals of a stream: those its file
holds, and those that are pending. -/
def marks (s : TraceSink) (t : StreamId) : List Mark :=
  s.fileMarks t ++ (s.x.own t).filterMap fun q => markOf q.record

/-- The marks of a file, and those of what the writer still has to write. -/
def filed (s : TraceSink) (t : StreamId) (m : Mark) : Prop :=
  (∃ line ∈ (s.shard t).lines, line.record?.bind markOf = some m) ∨
    ∃ q ∈ s.writer.carries.getD [], q.stream = t ∧ markOf q.record = some m

/-- A sealed timeout interval ends where the group begins, or the other way
round. -/
def borders (group : List Queued) : Mark → Bool
  | .loss reason first last => reason == LossReason.closeTimeout.wire &&
      (last + 1 == groupFirst group || (groupLast group + 1 : Int) == first)
  | .data .. => false

/-- A group of the timeout borders on an interval of its reason that is sealed. -/
def timeoutSplits (s : TraceSink) : Bool :=
  [StreamId.base, .profile].any fun t =>
    (s.x.timeoutGroups t).any fun group => (s.marks t).any (borders group)

/-- The steps that cut a run of losses of one reason in two. -/
def splits (cfg : Config) (s : TraceSink) : Action → Bool
  | .produce call => Exporter.splitsLoss cfg s.x call
  | .writer _ =>
    match s.writer with
    | .preparing => s.timeoutSplits
    | _ => false
  | _ => false

/-- The step leaves neighbouring losses in one interval. -/
abbrev KeepsApart (cfg : Config) (s : TraceSink) (action : Action) : Prop :=
  s.splits cfg action = false

end TraceSink

/-- What every step that splits no loss keeps. -/
structure Separated (cfg : Config) (s : TraceSink) : Prop where
  apart : Exporter.ApartAll s.filed s.x
  summary : ∀ job, s.writer.summary? = some job → markOf job.record = none

namespace Separated
variable {cfg : Config} {s s' : TraceSink}

theorem initial (h : TraceSink.Initial cfg s) : Separated cfg s := by
  obtain ⟨pid, startedNs, now, h⟩ := h
  simp only [TraceSink.opened, bind_eq_ok, pure_eq_ok] at h
  obtain ⟨⟨base, baseRaw⟩, hbase, ⟨profile, profileRaw⟩, hprofile, rfl⟩ := h
  refine ⟨fun t => ?_, by rintro _ ⟨⟩⟩
  generalize hs : TraceSink.mk .. = s
  have hlines : ∀ line ∈ (s.shard t).lines, line.record?.bind markOf = none := by
    subst hs
    intro line hline
    rw [List.mem_singleton.mp hline]
    split
    · exact markOf_startRecords hbase
    · exact markOf_startRecords hprofile
  have hnone : ∀ m, ¬ Exporter.reports (s.filed t) s.x t m := by
    rintro m ((⟨line, hline, hm⟩ | ⟨q, hq, -⟩) | ⟨q, hq, -⟩)
    · rw [hlines line hline] at hm
      cases hm
    · subst hs
      cases hq
    · subst hs
      cases hq
  have hown : s.x.own t = [] := by
    subst hs
    rfl
  refine ⟨⟨fun r a b hm => (hnone _ hm).elim, fun r a b _ _ hm => (hnone _ hm).elim⟩, ?_, ?_⟩
  · have hopen : (s.x.ledger t).openLoss = none := by
      subst hs
      rfl
    rw [hopen]
    exact fun _ r a b hm => (hnone _ hm).elim
  · refine ⟨fun q hq => ?_, ?_⟩
    · rw [hown] at hq
      cases hq
    · rw [hown]
      exact .nil

/-- A step that reports nothing new. -/
theorem of_le (h : Separated cfg s) (hx : s.x.SameLosses s'.x)
    (hown : ∀ t, (s'.x.own t).Sublist (s.x.own t))
    (hfiled : ∀ t m, s'.filed t m → Exporter.reports (s.filed t) s.x t m)
    (hsummary : ∀ job, s'.writer.summary? = some job → markOf job.record = none) :
    Separated cfg s' := by
  refine ⟨fun t => ?_, hsummary⟩
  rw [hx.nextRecordSeq t]
  refine (h.apart t).of_le (fun m hm => ?_) (hown t) hx
  rcases hm with hm | ⟨q, hq, hm⟩
  · exact hfiled t m hm
  · exact .inr ⟨q, (hown t).subset hq, hm⟩

/-- What the step files was filed before. -/
theorem filed_of_le (hlines : ∀ t, ∀ line ∈ (s'.shard t).lines, line ∈ (s.shard t).lines ∨
      line.record?.bind markOf = none)
    (hcarries : ∀ q ∈ s'.writer.carries.getD [], q ∈ s.writer.carries.getD []) (t : StreamId)
    (m : Mark) (hm : s'.filed t m) : Exporter.reports (s.filed t) s.x t m := by
  rcases hm with ⟨line, hline, hm⟩ | ⟨q, hq, hm⟩
  · rcases hlines t line hline with hline | hnone
    · exact .inl (.inl ⟨line, hline, hm⟩)
    · rw [hnone] at hm
      cases hm
  · exact .inl (.inr ⟨q, hcarries q hq, hm⟩)

/-- The writer passes on, and the files keep their marks. -/
theorem filed_of_passes (hpasses : s.writer.Passes s'.writer)
    (hlines : ∀ t, ∀ line ∈ (s'.shard t).lines, line ∈ (s.shard t).lines ∨
      line.record?.bind markOf = none) (t : StreamId) (m : Mark) (hm : s'.filed t m) :
    Exporter.reports (s.filed t) s.x t m := by
  refine filed_of_le hlines (fun q hq => ?_) t m hm
  cases hrest : s'.writer.carries with
  | none =>
    rw [hrest] at hq
    cases hq
  | some rest => rwa [hpasses.carries rest hrest, ← hrest]

theorem summary_of_passes (h : Separated cfg s) (hpasses : s.writer.Passes s'.writer) (job : Job)
    (hjob : s'.writer.summary? = some job) : markOf job.record = none :=
  h.summary job (hpasses.summary job hjob)

/-- An invalidation adds no mark to a file. -/
theorem appendInvalidation_marks (cfg : Config) (s : TraceSink) (c : Choice) (stream t : StreamId) :
    ∀ line ∈ ((s.appendInvalidation cfg c stream).shard t).lines,
      line ∈ (s.shard t).lines ∨ line.record?.bind markOf = none := by
  have happend : ∀ (x : Exporter) (line : Line), line.record?.bind markOf = none →
      ∀ l ∈ (({ s with x := x }.appendLine stream line).shard t).lines,
        l ∈ (s.shard t).lines ∨ l.record?.bind markOf = none := by
    intro x line hnone l hl
    unfold TraceSink.appendLine TraceSink.setShard at hl
    dsimp only at hl
    split at hl
    · rcases List.mem_append.mp hl with hl | hl
      · exact .inl hl
      · exact .inr (List.mem_singleton.mp hl ▸ hnone)
    · exact .inl hl
  unfold TraceSink.appendInvalidation
  split
  · next record raw hrecord =>
    obtain ⟨now, -, hsummary⟩ := Option.map_eq_some_iff.mp hrecord
    split
    · exact fun line hl => .inl hl
    · split
      · exact happend _ _ (Exporter.markOf_summaryRecord hsummary)
      · exact happend _ _ rfl
  · exact fun line hl => .inl hl

/-- Nothing is carried when a timeout is prepared. -/
theorem mem_marks_of_reports (hcarries : s.writer.carries = none) {t : StreamId} {m : Mark}
    (hm : Exporter.reports (s.filed t) s.x t m) : m ∈ s.marks t := by
  rcases hm with (⟨line, hm⟩ | ⟨q, hq, -⟩) | ⟨q, hm⟩
  · exact List.mem_append_left _ (List.mem_filterMap.mpr ⟨line, hm⟩)
  · rw [hcarries] at hq
    cases hq
  · exact List.mem_append_right _ (List.mem_filterMap.mpr ⟨q, hm⟩)

/-- The groups of a timeout join the book. -/
theorem prepares (h : Separated cfg s) (hopens : Opens cfg s) (hbudget : s.x.Budget)
    (hclosing : s.x.closing = true) (hapart : s.timeoutSplits = false) (hpc : s.writer = .preparing)
    (hx : s'.x = (s.x.prepareTimeoutControls cfg s.now).1)
    (hshard : s'.shard = s.shard)
    (hpc' : s'.writer = .controls (s.x.prepareTimeoutControls cfg s.now).2) : Separated cfg s' := by
  have hsame : s.x.SameLosses s'.x := hx ▸ Exporter.sameLosses_prepareTimeoutControls cfg s.x s.now
  have hstage := Exporter.stage_timeoutAdmission cfg s.x s.now
  have hholds := hbudget.holds hstage
  have hnone : ∀ t, (s'.x.ledger t).openLoss = none := by
    intro t
    rw [hsame.openLoss t]
    by_contra hne
    have hopen := (hopens t hne).1
    rw [hclosing] at hopen
    cases hopen
  have hqueue : s'.x.queue = [] := by
    rw [hx]
    exact hholds.queue
  have hcontrols : ∀ q, q ∈ s'.x.inflight ∨ q ∈ s'.writer.carries.getD [] →
      q ∈ (s.x.timeoutAdmission cfg s.now).controls := by
    intro q hq
    rw [hpc', hx] at hq
    exact hq.elim id id
  -- every control was there before, or stands for a group
  have hreports : ∀ t m, Exporter.reports (s'.filed t) s'.x t m →
      Exporter.reports (s.filed t) s.x t m ∨ ∃ g ∈ s.x.timeoutGroups t,
        m = .loss LossReason.closeTimeout.wire (groupFirst g) (groupLast g) := by
    have hcontrol : ∀ t m q, q ∈ (s.x.timeoutAdmission cfg s.now).controls → q.stream = t →
        markOf q.record = some m → Exporter.reports (s.filed t) s.x t m ∨
          ∃ g ∈ s.x.timeoutGroups t,
            m = .loss LossReason.closeTimeout.wire (groupFirst g) (groupLast g) := by
      intro t m q hq hstream hm
      subst hstream
      rcases hstage.controls q hq with hold | ⟨g, hg, hmark⟩
      · exact .inl (.inr ⟨q, List.mem_filter.mpr ⟨hold, decide_eq_true rfl⟩, hm⟩)
      · exact .inr ⟨g, hg, Option.some.inj (hm.symm.trans hmark)⟩
    rintro t m ((⟨line, hline, hm⟩ | ⟨q, hq, hstream, hm⟩) | ⟨q, hq, hm⟩)
    · exact .inl (.inl (.inl ⟨line, hshard ▸ hline, hm⟩))
    · exact hcontrol t m q (hcontrols q (.inr hq)) hstream hm
    · obtain ⟨hmem, hstream⟩ := List.mem_filter.mp hq
      rw [Exporter.pending, hqueue, List.append_nil] at hmem
      exact hcontrol t m q (hcontrols q (.inl hmem)) (of_decide_eq_true hstream) hm
  have hborders : ∀ t g, g ∈ s.x.timeoutGroups t → ∀ first last,
      Exporter.reports (s.filed t) s.x t (.loss LossReason.closeTimeout.wire first last) →
        last + 1 ≠ groupFirst g ∧ (groupLast g + 1 : Int) ≠ first := by
    intro t g hg first last hm
    have hstream := List.any_eq_false.mp hapart t (by cases t <;> simp)
    have hgroup := List.any_eq_false.mp (Bool.eq_false_iff.mpr hstream) g hg
    have hmark := List.any_eq_false.mp (Bool.eq_false_iff.mpr hgroup) _
      (mem_marks_of_reports (hpc ▸ rfl) hm)
    simpa [TraceSink.borders] using hmark
  refine ⟨fun t => ⟨⟨fun r a b hm => ?_, fun r a b a' b' hm hm' => ?_⟩, ?_, ?_⟩,
    fun job hjob => ?_⟩
  · rw [hsame.nextRecordSeq t]
    obtain ⟨hends, -⟩ := (h.apart t).numbered.groups
    rcases hreports t _ hm with hm | ⟨g, hg, hm⟩
    · exact (h.apart t).book.range r a b hm
    · cases hm
      have := hends g hg
      omega
  · obtain ⟨hends, hgroups⟩ := (h.apart t).numbered.groups
    rcases hreports t _ hm with hm | ⟨g, hg, hm⟩
    · rcases hreports t _ hm' with hm' | ⟨g', hg', hm'⟩
      · exact (h.apart t).book.maximal r a b a' b' hm hm'
      · cases hm'
        exact (hborders t g' hg' a b hm).1
    · cases hm
      rcases hreports t _ hm' with hm' | ⟨g', hg', hm'⟩
      · exact (hborders t g hg a' b' hm').2
      · cases hm'
        have := hgroups g hg g' hg'
        omega
  · rw [hnone t, hsame.closing]
    exact fun hc => by simp [hclosing] at hc
  · have hdata : ∀ q ∈ s'.x.own t, q.isData = false := by
      intro q hq
      have hmem := (List.mem_filter.mp hq).1
      rw [Exporter.pending, hqueue, List.append_nil] at hmem
      have htype := (hholds.control q (hcontrols q (.inl hmem))).1
      rw [Queued.isData, htype]
      cases q.stream <;> rfl
    refine ⟨fun q hq hd => ?_, ?_⟩
    · rw [hdata q hq] at hd
      cases hd
    · rw [List.filter_eq_nil_iff.mpr fun q hq => by simp [hdata q hq]]
      exact .nil
  · rw [hpc'] at hjob
    cases hjob

/-- Every other step files what was filed or pending. -/
theorem of_pending (h : Separated cfg s) (hx : s.x.SameLosses s'.x)
    (hpending : s'.x.pending.Sublist s.x.pending) (hpasses : s.writer.Passes s'.writer)
    (hlines : ∀ t, ∀ line ∈ (s'.shard t).lines, line ∈ (s.shard t).lines ∨
      line.record?.bind markOf = none) : Separated cfg s' :=
  h.of_le hx (fun _ => hpending.filter _) (filed_of_passes hpasses hlines)
    (h.summary_of_passes hpasses)

theorem effect {action : TraceSink.Action} (h : Separated cfg s)
    (hok : TraceSink.KeepsApart cfg s action)
    (horder : Orderly s) (haccounted : Accounted s) (hbudgeted : Budgeted s) (hopens : Opens cfg s)
    (hdeadline : s.closeDeadlineNs ≠ none → s.x.closing = true)
    (heffect : Effect cfg s action s') : Separated cfg s' := by
  have hbudget : s.writer.control? = none → s.x.Budget := fun hnone =>
    TraceSink.settled_of_none hnone ▸ hbudgeted.budget
  have hkept : s'.shard = s.shard → ∀ t, ∀ line ∈ (s'.shard t).lines,
      line ∈ (s.shard t).lines ∨ line.record?.bind markOf = none := by
    intro hshard t line hline
    exact .inl (hshard ▸ hline)
  cases heffect with
  | quiet hx hlines hpc =>
    refine h.of_pending hx.sameLosses ?_ hpc fun t line hline => .inl (hlines t ▸ hline)
    rw [Exporter.pending, hx.inflight, hx.queue]
    exact .refl _
  | produces call haction hx hshard hpc =>
    subst haction
    have hproduced := Exporter.produced_call cfg s.x s.now call
    rw [← hx] at hproduced
    have hpasses : s.writer.Passes s'.writer := hpc ▸ .refl _
    have hclosing : s'.x.closing = s.x.closing := by
      rw [hx]
      exact (Exporter.admits_call s.x s.now call).closing
    cases hc : s.x.closing with
    | true =>
      have hbooks : s.x.SameBooks s'.x := by
        generalize s'.x = y at hproduced
        cases hproduced with
        | quiet hxy => exact hxy
        | drops hopen _ _ => simp [hopen.closing] at hc
        | admits hopen _ _ => simp [hopen.closing] at hc
      refine h.of_pending hbooks.sameLosses ?_ hpasses (hkept hshard)
      rw [Exporter.pending, hbooks.inflight, hbooks.queue]
      exact .refl _
    | false =>
      have hcontrol : s.writer.control? = none := by
        by_contra hne
        obtain ⟨o, ho⟩ := WriterPc.closeOutcome_of_control hne
        rw [(horder.summarises o ho).2] at hc
        cases hc
      have hfiled : s'.filed = s.filed := by
        funext t m
        rw [TraceSink.filed, TraceSink.filed, hshard, hpc]
      refine ⟨?_, h.summary_of_passes hpasses⟩
      rw [hfiled]
      exact Exporter.ApartAll.produced (hbudget hcontrol) h.apart hok hclosing hproduced
  | seals hx hshard hpc =>
    have hfiled : s'.filed = s.filed := by
      funext t m
      rw [TraceSink.filed, TraceSink.filed, hshard, hpc]
    refine ⟨?_, h.summary_of_passes (hpc ▸ .refl _)⟩
    rw [hfiled, hx]
    exact h.apart.sealOpen fun hne => (hopens .profile hne).2 rfl
  | forces alreadyTimeout hx hshard hpc =>
    obtain ⟨hinflight, hqueue⟩ := Exporter.forceTimeoutAccounting_pending s.x alreadyTimeout
    refine h.of_pending ((Exporter.sameLosses_forceTimeoutAccounting s.x _).trans hx.sameLosses) ?_
      (hpc ▸ .refl _) (hkept hshard)
    rw [Exporter.pending, hx.inflight, hx.queue, hinflight, hqueue]
    exact List.nil_sublist _
  | takes habandoned hpc hx hshard hpc' =>
    have hinflight := haccounted.carried habandoned [] (by rw [hpc]; rfl)
    have hsplit := Exporter.splitBatch_append 0 0 s.x.queue
    have hpending : s.x.pending = s.x.takeBatch.2 ++ (Exporter.splitBatch 0 0 s.x.queue).2 := by
      rw [Exporter.pending, hinflight, List.nil_append]
      exact hsplit.symm
    refine h.of_le (hx ▸ ⟨fun _ => rfl, fun _ => rfl, rfl⟩) (fun t => ?_) (fun t m hm => ?_)
      (by rw [hpc']; rintro _ ⟨⟩)
    · rw [hx, Exporter.own, Exporter.own, hpending]
      exact .refl _
    · rcases hm with ⟨line, hline, hm⟩ | ⟨q, hq, hstream, hm⟩
      · exact .inl (.inl ⟨line, hshard ▸ hline, hm⟩)
      · rw [hpc'] at hq
        refine .inr ⟨q, List.mem_filter.mpr ⟨?_, decide_eq_true hstream⟩, hm⟩
        rw [hpending]
        exact List.mem_append_left _ hq
  | persists job hpc hx hshard hpc' =>
    have hpasses : s.writer.Passes s'.writer := by
      rw [hpc, hpc']
      cases job <;> exact ⟨fun _ h => h, fun h => h, rfl, fun _ h => h⟩
    refine h.of_le (hx ▸ .refl _) (fun t => hx ▸ .refl _) (fun t m hm => ?_)
      (h.summary_of_passes hpasses)
    rcases hm with ⟨line, hline, hm⟩ | ⟨q, hq, hm⟩
    · rw [hshard] at hline
      unfold TraceSink.appendLine TraceSink.setShard at hline
      dsimp only at hline
      split at hline
      · next ht =>
        rcases List.mem_append.mp hline with hline | hline
        · exact .inl (.inl ⟨line, hline, hm⟩)
        · rw [List.mem_singleton.mp hline] at hm
          change markOf job.record = some m at hm
          cases job with
          | batch q rest =>
            exact .inl (.inr ⟨q, by rw [hpc]; exact List.mem_cons_self, ht.symm, hm⟩)
          | control q rest =>
            exact .inl (.inr ⟨q, by rw [hpc]; exact List.mem_cons_self, ht.symm, hm⟩)
          | summary stream o record raw =>
            rw [h.summary _ (by rw [hpc]; rfl)] at hm
            cases hm
      · exact .inl (.inl ⟨line, hline, hm⟩)
    · refine @filed_of_passes s { s' with shard := s.shard } hpasses
        (fun t line hline => .inl hline) t m (.inr ⟨q, hq, hm⟩)
  | tears job written hpc hx hshard hpc' =>
    refine h.of_pending (hx ▸ .refl _) (hx ▸ .refl _) ?_ fun t line hline => ?_
    · rw [hpc, hpc']
      cases job <;> exact ⟨by rintro _ ⟨⟩, by rintro ⟨⟩, rfl, fun _ h => h⟩
    · rw [hshard] at hline
      unfold TraceSink.appendLine TraceSink.setShard at hline
      dsimp only at hline
      split at hline
      · rcases List.mem_append.mp hline with hline | hline
        · exact .inl hline
        · exact .inr (List.mem_singleton.mp hline ▸ rfl)
      · exact .inl hline
  | records job q rest hpc hjob hx hshard hpc' =>
    have hcarries : s.writer.carries = some (q :: rest) := by rw [hpc]; exact hjob
    have hcarries' : s'.writer.carries = some rest := by
      rw [hpc']
      split <;> rfl
    have hsummary : ∀ j, s'.writer.summary? = some j → markOf j.record = none := by
      rw [hpc']
      split <;> rintro _ ⟨⟩
    have hfiled : ∀ t m, s'.filed t m → Exporter.reports (s.filed t) s.x t m := by
      refine filed_of_le (hkept hshard) fun p hp => ?_
      rw [hcarries'] at hp
      rw [hcarries]
      exact List.mem_cons_of_mem _ hp
    cases ha : s.abandoned with
    | true =>
      rw [ha, if_pos rfl] at hx
      exact h.of_le (hx ▸ .refl _) (fun t => hx ▸ .refl _) hfiled hsummary
    | false =>
      rw [ha, if_neg (by simp)] at hx
      have hinflight := haccounted.carried ha (q :: rest) hcarries
      refine h.of_le (hx ▸ Exporter.sameLosses_recordWritten hinflight)
        (fun t => ?_) hfiled hsummary
      rw [hx]
      refine List.Sublist.filter _ ?_
      rw [Exporter.pending, Exporter.pending, Exporter.recordWritten_inflight hinflight,
        Exporter.recordWritten_queue hinflight, hinflight]
      exact List.sublist_cons_self ..
  | fails hx hshard hpc hpc' =>
    refine h.of_pending (hx ▸ Exporter.sameLosses_markWriterFailure s.x) ?_ (.of_idle hpc hpc')
      (hkept hshard)
    rw [hx]
    exact List.nil_sublist _
  | prepares c haction hpc hx hshard hpc' =>
    subst haction
    rw [TraceSink.KeepsApart, TraceSink.splits, hpc] at hok
    refine h.prepares hopens (hbudget (hpc ▸ rfl))
      (hdeadline fun hnone => ?_) hok hpc hx hshard hpc'
    have hreached := horder.late (by rw [hpc]; rfl)
    rw [TraceSink.deadlineReached, hnone] at hreached
    cases hreached
  | expires hpc hx hshard hpc' =>
    refine h.of_pending (hx ▸ Exporter.sameLosses_expireControls s.x) ?_
      (.of_idle (hpc ▸ rfl) hpc') (hkept hshard)
    have hqueue : s.x.expireControls.queue = s.x.queue :=
      (Exporter.sameTotals_dropControls s.x s.x.inflight).queue
    rw [hx, Exporter.pending, hqueue]
    exact List.sublist_append_right ..
  | builds stream o endedNs record raw hpc hx hrecord hshard hpc' =>
    refine h.of_le (hx ▸ .refl _) (fun t => hx ▸ .refl _)
      (filed_of_le (hkept hshard) (by rw [hpc']; rintro _ ⟨⟩)) fun job hjob => ?_
    rw [hpc'] at hjob
    cases hjob
    exact Exporter.markOf_summaryRecord hrecord
  | reserves stream o record raw hpc hx hshard hpc' =>
    have hpending : s'.x.pending = s.x.pending := by
      rw [hx]
      unfold Exporter.reserveControl
      split <;> rfl
    refine h.of_le (hx ▸ Exporter.sameLosses_reserveControl s.x stream raw)
      (fun t => ?_) (filed_of_le (hkept hshard) ?_) fun job hjob => ?_
    · rw [Exporter.own, Exporter.own, hpending]
    · rw [hpc']
      split <;> rintro _ ⟨⟩
    · rw [hpc'] at hjob
      split at hjob
      · exact h.summary job (by rw [hpc]; exact hjob)
      · cases hjob
  | drops job hpc hx hshard hpc' =>
    refine h.of_pending (hx ▸ Exporter.sameLosses_dropControl s.x _) (hx ▸ .refl _) ?_
      (hkept hshard)
    rw [hpc, hpc']
    exact ⟨by rintro _ ⟨⟩, by rintro ⟨⟩, rfl, fun _ h => h⟩
  | releases stream o record raw written hpc hx hshard hpc' =>
    refine h.of_le (hx ▸ Exporter.sameLosses_releaseControl s.x stream raw)
      (fun t => hx ▸ .refl _) (filed_of_le (hkept hshard) ?_) ?_
    · rw [hpc']
      split <;> rintro _ ⟨⟩
    · rw [hpc']
      split <;> rintro _ ⟨⟩
  | invalidates c stream hpc hx hlines hpc' =>
    obtain ⟨hsame, hpending⟩ := appendInvalidation_losses cfg s c stream
    refine h.of_pending (hx ▸ hsame) ?_ (.of_idle hpc.control hpc') fun t line hline =>
      appendInvalidation_marks cfg s c stream t line (hlines t ▸ hline)
    rw [hx, hpending]

end Separated

/-- The run lemma. -/
theorem separated_of_reachable {cfg : Config} {s : TraceSink}
    (h : TraceSink.ReachableWhen cfg (TraceSink.KeepsApart cfg) s) : Separated cfg s :=
  h.invariant_over
    (J := fun s => Orderly s ∧ Accounted s ∧ Budgeted s ∧ Opens cfg s ∧
      (s.closeDeadlineNs ≠ none → s.x.closing = true))
    (fun _ hs => ⟨TraceSink.orderly_of_reachableWhen hs,
      accounted_of_reachable (hs.mono fun _ _ _ => trivial),
      budgeted_of_reachable (hs.mono fun _ _ _ => trivial),
      opens_of_reachable (hs.mono fun _ _ _ => trivial), TraceSink.closing_of_deadline hs⟩)
    (fun _ => Separated.initial)
    fun _ _ _ hJ hs hok hstep _ =>
      hs.effect hok hJ.1 hJ.2.1 hJ.2.2.1 hJ.2.2.2.1 hJ.2.2.2.2 (.of_step hstep)

/-- **Maximal loss intervals**: while no step splits a run of losses, no two
sealed intervals of a stream with one reason are neighbours, and neighbouring
losses of one reason are in one interval. -/
theorem loss_intervals_maximal {cfg : Config} {s : TraceSink}
    (h : TraceSink.ReachableWhen cfg (TraceSink.KeepsApart cfg) s) (t : StreamId) (reason : String)
    (first last first' last' : Int) (hleft : .loss reason first last ∈ s.marks t)
    (hright : .loss reason first' last' ∈ s.marks t) :
    last + 1 ≠ first' ∧ ∀ seq, first ≤ seq ∧ seq ≤ last → first' ≤ seq + 1 ∧ seq + 1 ≤ last' →
      (first ≤ seq + 1 ∧ seq + 1 ≤ last) ∨ (first' ≤ seq ∧ seq ≤ last') := by
  have hreports : ∀ {m : Mark}, m ∈ s.marks t → Exporter.reports (s.filed t) s.x t m := by
    intro m hm
    rcases List.mem_append.mp hm with hm | hm
    · exact .inl (.inl (List.mem_filterMap.mp hm))
    · exact .inr (List.mem_filterMap.mp hm)
  have hne := ((separated_of_reachable h).apart t).book.maximal reason first last first' last'
    (hreports hleft) (hreports hright)
  refine ⟨hne, fun seq hseq hnext => ?_⟩
  by_cases hinside : seq + 1 ≤ last
  · exact .inl ⟨by omega, hinside⟩
  · exact .inr ⟨by omega, by omega⟩

namespace Sample

/-- Three accepted edges with a refused one between each two of them. -/
def losing : List TraceSink.Action :=
  ["instrumented_execution_context", "", "instrumented_execution_context", "",
    "instrumented_execution_context"].map fun evidenceSource =>
      .produce (.edge (edge evidenceSource) (some (.int 110)))

def finished : EventDraft where
  traceId := "0c0c0c0c0c0c0c0c0c0c0c0c0c0c0c0c"
  lifecycleId := "0c0c0c0c0c0c0c0c0c0c0c0c0c0c0c0c:r"
  parentLifecycleId := none
  scope := "root_request"
  component := "frontend"
  eventName := "request_done"

/-- A terminal event. -/
def finish : TraceSink.Action := .produce (.event finished (some (.int 110)))

end Sample

theorem loss_intervals_maximal_apart :
    let s := General.run (TraceSink.step Sample.cfg) Sample.start
      (Sample.writer 2 ++ Sample.losing ++ Sample.writer 6)
    Mark.loss "serialization_failure" 1 1 ∈ s.marks .base ∧
      Mark.loss "serialization_failure" 3 3 ∈ s.marks .base ∧ (1 : Int) + 1 ≠ 3 := by
  have h : TraceSink.ReachableWhen Sample.cfg (TraceSink.KeepsApart Sample.cfg)
      (General.run (TraceSink.step Sample.cfg) Sample.start
        (Sample.writer 2 ++ Sample.losing ++ Sample.writer 6)) :=
    (General.Reach.init Sample.initial_start).run (by decide +kernel)
  have hleft : Mark.loss "serialization_failure" 1 1 ∈ (General.run (TraceSink.step Sample.cfg)
      Sample.start (Sample.writer 2 ++ Sample.losing ++ Sample.writer 6)).marks .base := by
    decide +kernel
  have hright : Mark.loss "serialization_failure" 3 3 ∈ (General.run (TraceSink.step Sample.cfg)
      Sample.start (Sample.writer 2 ++ Sample.losing ++ Sample.writer 6)).marks .base := by
    decide +kernel
  exact ⟨hleft, hright, (loss_intervals_maximal h .base _ 1 1 3 3 hleft hright).1⟩

set_option maxRecDepth 100000 in
/-- Sixty-four terminal events fill the reserved slots and the next one is lost.
One slot becomes free, the interval takes it, and the terminal event behind it
opens an interval of its own. -/
theorem overflow_interval_split :
    let s := General.run (TraceSink.step Sample.cfg) Sample.start
      (Sample.writer 2 ++ List.replicate 65 Sample.finish ++ Sample.writer 6 ++ [Sample.finish] ++
        Sample.writer 4 ++ Sample.losing.take 1)
    TraceSink.Reachable Sample.cfg s ∧ Mark.loss "queue_overflow" 64 64 ∈ s.marks .base ∧
      Mark.loss "queue_overflow" 65 65 ∈ s.marks .base := by
  intro s
  have hmarks : Mark.loss "queue_overflow" 64 64 ∈ s.marks .base ∧
      Mark.loss "queue_overflow" 65 65 ∈ s.marks .base := by decide +kernel
  exact ⟨(General.Reach.init Sample.initial_start).run (.of_forall (fun _ _ => trivial) _ _),
    hmarks⟩

end LifecycleProfiler.Sink
