import Mathlib.Data.List.Pairwise
import LifecycleProfiler.Sink.Expiry

/-! # The accounting of a timeout

In every reachable state the pending data of a stream is numbered in order and
nothing else is pending but loss intervals. So the timeout offers one control
for each pending loss interval and one for each maximal run of pending numbers,
and every offer is either among the controls it returns or a dropped control. -/

namespace LifecycleProfiler.Sink
open Python Protocol

/-! ## What is pending in a reachable state -/

namespace Exporter

/-- The pending records of a stream: numbered data, and loss intervals. -/
structure Listed (x : Exporter) (t : StreamId) : Prop where
  numbered : Numbered x t (x.ledger t).nextRecordSeq
  kinds : ∀ q ∈ x.own t, q.isData = true ∨ q.recordType = .lossInterval

section Listed
variable {cfg : Config} {x y z : Exporter} {t stream : StreamId}

theorem isData_of_lossInterval {q : Queued} (h : q.recordType = .lossInterval) :
    q.isData = false := by
  rw [Queued.isData, h]
  cases q.stream <;> rfl

theorem Listed.of_sublist (h : Listed x t) (hown : (y.own t).Sublist (x.own t))
    (hnext : (y.ledger t).nextRecordSeq = (x.ledger t).nextRecordSeq) : Listed y t :=
  ⟨hnext ▸ h.numbered.of_sublist hown, fun q hq => h.kinds q (hown.subset hq)⟩

theorem Listed.of_same (h : Listed x t) (hs : SameStream t x y) : Listed y t :=
  h.of_sublist (hs.own ▸ .refl _) (by rw [hs.ledger])

/-- One more number is given out and nothing is appended. -/
theorem Listed.skips (h : Listed x t) (hown : (y.own t).Sublist (x.own t))
    (hnext : (y.ledger t).nextRecordSeq = (x.ledger t).nextRecordSeq + 1) : Listed y t :=
  ⟨hnext ▸ h.numbered.grows.of_sublist hown, fun q hq => h.kinds q (hown.subset hq)⟩

/-- A sealed interval joins the pending records. -/
theorem Listed.seals (h : Listed x stream) (hs : Seals cfg stream x y) : Listed y stream := by
  refine ⟨hs.nextRecordSeq ▸ h.numbered.seals hs, fun q hq => ?_⟩
  rcases hs.outcome with ⟨-, hown, -⟩ | ⟨-, hown, -⟩ | ⟨loss, record, raw, -, -, hown, -⟩
  · exact h.kinds q (hown ▸ hq)
  · exact h.kinds q (hown ▸ hq)
  · rw [hown] at hq
    rcases List.mem_append.mp hq with hq | hq
    · exact h.kinds q hq
    · exact .inr (List.mem_singleton.mp hq ▸ rfl)

theorem Listed.loses {recordSeq observedNs : Nat} {recordType : RecordType} {reason : LossReason}
    (h : Listed x stream) (hl : Loses cfg stream recordSeq recordType reason observedNs x y) :
    Listed y stream := by
  rcases hl.outcome with ⟨loss, -, -, -, hown, -⟩ | ⟨-, z, hs, hown, -⟩
  · exact h.of_sublist (hown ▸ .refl _) hl.nextRecordSeq
  · exact (h.seals hs).of_sublist (hown ▸ .refl _) (hl.nextRecordSeq.trans hs.nextRecordSeq.symm)

/-- What a producer's call leaves pending. -/
theorem Listed.produced {call : TraceSink.Call} (h : Listed x t) (hy : Produced cfg x call y) :
    Listed y t := by
  have hallocated : Listed (x.allocate t) t := h.skips (.refl _) (allocate_nextRecordSeq x t)
  cases hy.advances t with
  | same hs => exact h.of_same hs
  | loses _ hx₁ hl => exact (hallocated.of_same (hx₁.sameStream t)).loses hl
  | refuses _ _ _ _ _ _ hl => exact (hallocated.seals (Exporter.seals cfg _ t)).loses hl
  | @admits q hstream hopen hq he =>
    subst hstream
    have hsealed := hallocated.seals (Exporter.seals cfg (x.allocate q.stream) q.stream)
    have hnext := (Exporter.seals cfg (x.allocate q.stream) q.stream).nextRecordSeq
    -- the number given to the record is the one before the next
    have hbefore : Numbered ((x.allocate q.stream).sealLoss cfg q.stream) q.stream
        (x.ledger q.stream).nextRecordSeq :=
      Numbered.seals (x := x.allocate q.stream) (h.numbered.of_sublist (.refl _))
        (Exporter.seals ..)
    refine ⟨?_, fun p hp => ?_⟩
    · rw [he.nextRecordSeq, hnext, allocate_nextRecordSeq]
      exact hbefore.appends he.own fun _ => hq.seq
    · rw [he.own] at hp
      rcases List.mem_append.mp hp with hp | hp
      · exact hsealed.kinds p hp
      · exact .inl (List.mem_singleton.mp hp ▸ hq.data)

theorem listed_sealOpen (h : ∀ t, Listed x t) (t : StreamId) : Listed (x.sealOpen cfg) t := by
  have hseal : ∀ x stream, (∀ t, Listed x t) → ∀ t, Listed (x.sealLoss cfg stream) t := by
    intro x stream h t
    by_cases ht : t = stream
    · exact ht ▸ (h stream).seals (seals cfg x stream)
    · exact (h t).of_same ((seals cfg x stream).others t ht)
  unfold sealOpen
  dsimp only
  split
  · exact hseal _ _ (hseal x .base h) t
  · exact hseal x .base h t

/-- The controls of a timeout are all that is pending after it. -/
theorem listed_prepareTimeoutControls (hx : Budget x) (observedNs : Nat) :
    Listed (x.prepareTimeoutControls cfg observedNs).1 t := by
  have hholds := hx.holds (stage_timeoutAdmission cfg x observedNs)
  have hnext := (sameLosses_prepareTimeoutControls cfg x observedNs).nextRecordSeq t
  have hloss : ∀ q ∈ (x.prepareTimeoutControls cfg observedNs).1.own t,
      q.recordType = .lossInterval := by
    intro q hq
    have hmem := (List.mem_filter.mp hq).1
    rw [pending, show (x.prepareTimeoutControls cfg observedNs).1.queue = [] from hholds.queue,
      List.append_nil] at hmem
    exact (hholds.control q hmem).1
  refine ⟨⟨fun q hq hdata => ?_, ?_⟩, fun q hq => .inr (hloss q hq)⟩
  · rw [isData_of_lossInterval (hloss q hq)] at hdata
    cases hdata
  · rw [List.filter_eq_nil_iff.mpr fun q hq => by simp [isData_of_lossInterval (hloss q hq)]]
    exact .nil

end Listed
end Exporter

section Runs
variable {cfg : Config} {s s' : TraceSink}

/-- What a step leaves pending. -/
theorem Effect.listed {action : TraceSink.Action} (h : ∀ t, s.x.Listed t) (horder : Accounted s)
    (hbudgeted : Budgeted s) (heffect : Effect cfg s action s') : ∀ t, s'.x.Listed t := by
  have hkept : ∀ {y : Exporter}, s.x.SameLosses y → y.pending.Sublist s.x.pending →
      ∀ t, y.Listed t := by
    intro y hsame hpending t
    exact (h t).of_sublist (hpending.filter _) (hsame.nextRecordSeq t)
  cases heffect with
  | quiet hx =>
    refine hkept hx.sameLosses ?_
    rw [Exporter.pending, hx.inflight, hx.queue]
    exact .refl _
  | produces call _ hx =>
    have hproduced := Exporter.produced_call cfg s.x s.now call
    rw [← hx] at hproduced
    exact fun t => (h t).produced hproduced
  | seals hx =>
    rw [hx]
    exact fun t => (Exporter.listed_sealOpen h t).of_sublist (.refl _) rfl
  | forces alreadyTimeout hx =>
    obtain ⟨hinflight, hqueue⟩ := Exporter.forceTimeoutAccounting_pending s.x alreadyTimeout
    refine hkept ((Exporter.sameLosses_forceTimeoutAccounting s.x _).trans hx.sameLosses) ?_
    rw [Exporter.pending, hx.inflight, hx.queue, hinflight, hqueue]
    exact List.nil_sublist _
  | takes habandoned hpc hx =>
    have hinflight := horder.carried habandoned [] (by rw [hpc]; rfl)
    have hpending : s'.x.pending = s.x.pending := by
      rw [hx, Exporter.pending, Exporter.pending, hinflight, List.nil_append]
      exact Exporter.splitBatch_append 0 0 s.x.queue
    exact hkept (hx ▸ ⟨fun _ => rfl, fun _ => rfl, rfl⟩) (hpending ▸ .refl _)
  | persists _ _ hx => exact hx ▸ h
  | tears _ _ _ hx => exact hx ▸ h
  | records job q rest hpc hjob hx =>
    have hcarries : s.writer.carries = some (q :: rest) := by rw [hpc]; exact hjob
    cases ha : s.abandoned with
    | true =>
      rw [ha, if_pos rfl] at hx
      exact hx ▸ h
    | false =>
      rw [ha, if_neg (by simp)] at hx
      have hinflight := horder.carried ha (q :: rest) hcarries
      refine hkept (hx ▸ Exporter.sameLosses_recordWritten hinflight) ?_
      rw [hx, Exporter.pending, Exporter.pending, Exporter.recordWritten_inflight hinflight,
        Exporter.recordWritten_queue hinflight, hinflight]
      exact List.sublist_cons_self ..
  | fails hx =>
    refine hkept (hx ▸ Exporter.sameLosses_markWriterFailure s.x) ?_
    rw [hx]
    exact List.nil_sublist _
  | prepares c _ hpc hx =>
    have hnone : s.writer.control? = none := by rw [hpc]; rfl
    have hbudget : s.x.Budget := TraceSink.settled_of_none hnone ▸ hbudgeted.budget
    exact hx ▸ fun t => Exporter.listed_prepareTimeoutControls hbudget s.now
  | expires _ hx =>
    refine hkept (hx ▸ Exporter.sameLosses_expireControls s.x) ?_
    have hqueue : s.x.expireControls.queue = s.x.queue :=
      (Exporter.sameTotals_dropControls s.x s.x.inflight).queue
    rw [hx, Exporter.pending, hqueue]
    exact List.sublist_append_right ..
  | builds _ _ _ _ _ _ hx => exact hx ▸ h
  | reserves stream _ _ raw _ hx =>
    refine hkept (hx ▸ Exporter.sameLosses_reserveControl s.x stream raw) ?_
    rw [hx]
    unfold Exporter.reserveControl
    split <;> exact .refl _
  | drops job _ hx => exact hkept (hx ▸ Exporter.sameLosses_dropControl s.x _) (hx ▸ .refl _)
  | releases stream _ _ raw _ _ hx =>
    exact hkept (hx ▸ Exporter.sameLosses_releaseControl s.x stream raw) (hx ▸ .refl _)
  | invalidates c stream _ hx =>
    obtain ⟨hsame, hpending⟩ := appendInvalidation_losses cfg s c stream
    exact hkept (hx ▸ hsame) (by rw [hx, hpending])

theorem listed_of_reachable (h : TraceSink.Reachable cfg s) : ∀ t, s.x.Listed t :=
  h.invariant_over (J := fun s => Accounted s ∧ Budgeted s)
    (fun _ hs => ⟨accounted_of_reachable hs, budgeted_of_reachable hs⟩)
    (fun s hs t => by
      obtain ⟨pid, startedNs, now, hs⟩ := hs
      simp only [TraceSink.opened, bind_eq_ok, pure_eq_ok] at hs
      obtain ⟨_, -, _, -, rfl⟩ := hs
      exact ⟨⟨by rintro _ ⟨⟩, .nil⟩, by rintro _ ⟨⟩⟩)
    fun _ _ _ hJ hs _ hstep _ => Effect.listed hs hJ.1 hJ.2 (.of_step hstep)

end Runs

/-! ## The runs of pending numbers -/

/-- The numbers from the first to the last are in the set, and no neighbour is. -/
structure MaximalRun (P : Nat → Prop) (first last : Nat) : Prop where
  le : first ≤ last
  inside : ∀ k, first ≤ k → k ≤ last → P k
  before : ∀ k, k + 1 = first → ¬ P k
  after : ¬ P (last + 1)

namespace Exporter

/-- A data record of the stream is pending under this number. -/
def pendingSeq (x : Exporter) (t : StreamId) (k : Nat) : Prop :=
  ∃ q ∈ x.pending, q.stream = t ∧ q.isData = true ∧ q.recordSeq = some k

section Groups
variable {x : Exporter} {t : StreamId} {n : Nat} {group rest g : List Queued}

theorem groupLast_eq (g : List Queued) : groupLast g = ((g.map seqOf).getLast?).getD 0 := by
  rw [groupLast, List.getLast?_map]
  cases g.getLast? <;> rfl

/-- The numbers of a group follow each other. -/
def Consecutive (g : List Queued) : Prop := g.map seqOf = List.range' (groupFirst g) g.length

theorem consecutive_nil : Consecutive [] := rfl

theorem consecutive_singleton (q : Queued) : Consecutive [q] := rfl

theorem Consecutive.last (h : Consecutive g) (hne : g ≠ []) :
    groupLast g + 1 = groupFirst g + g.length := by
  have hpos := List.length_pos_iff.mpr hne
  rw [groupLast_eq, h, List.getLast?_range', if_neg (by omega), Option.getD_some]
  omega

theorem Consecutive.mem (h : Consecutive g) (hne : g ≠ []) {k : Nat} :
    (∃ q ∈ g, seqOf q = k) ↔ groupFirst g ≤ k ∧ k ≤ groupLast g := by
  have hlast := h.last hne
  rw [← List.mem_map, h, List.mem_range'_1]
  omega

/-- Every group is a run of numbers. -/
theorem consecutive_of_mem (hnumbered : ∀ q ∈ rest, ∃ k, q.recordSeq = some k)
    (hgroup : Consecutive group) (hold : ∀ q ∈ group, ∃ k, q.recordSeq = some k)
    (hg : g ∈ consecutiveGroups group rest) : Consecutive g := by
  induction rest generalizing group with
  | nil =>
    rw [consecutiveGroups] at hg
    split at hg
    · cases hg
    · exact List.mem_singleton.mp hg ▸ hgroup
  | cons q rest ih =>
    have hrest : ∀ p ∈ rest, ∃ k, p.recordSeq = some k := fun p hp =>
      hnumbered p (List.mem_cons_of_mem _ hp)
    obtain ⟨k, hk⟩ := hnumbered q List.mem_cons_self
    rw [consecutiveGroups] at hg
    split at hg
    · rcases List.mem_cons.mp hg with rfl | hg
      · exact hgroup
      · refine ih hrest (consecutive_singleton q) (fun p hp => ?_) hg
        exact ⟨k, List.mem_singleton.mp hp ▸ hk⟩
    · next hjoin =>
      refine ih hrest ?_ (fun p hp => ?_) hg
      · by_cases hne : group = []
        · subst hne
          exact consecutive_singleton q
        · have hlast := hgroup.last hne
          obtain ⟨p, tail, rfl⟩ := List.exists_cons_of_ne_nil hne
          -- the record joins because its number is the next one
          have hnext : k = groupLast (p :: tail) + 1 := by
            obtain ⟨l, hl⟩ := hold _ (List.getLast_mem hne)
            rw [groupLast, List.getLast?_eq_some_getLast hne, Option.bind_some, hl]
            rw [List.getLast?_eq_some_getLast hne, Option.bind_some, hl, hk] at hjoin
            simpa using hjoin
          have hseq : seqOf q = groupFirst (p :: tail) + 1 * (p :: tail).length := by
            rw [seqOf, hk, Option.getD_some]
            omega
          have hfirst : groupFirst (p :: tail ++ [q]) = groupFirst (p :: tail) := rfl
          rw [Consecutive, List.map_append, hgroup, List.length_append, List.length_singleton,
            List.range'_concat, hfirst, ← hseq, List.map_singleton]
      · rcases List.mem_append.mp hp with hp | hp
        · exact hold p hp
        · exact ⟨k, List.mem_singleton.mp hp ▸ hk⟩

theorem mem_timeoutGroups {q : Queued} :
    (∃ g ∈ x.timeoutGroups t, q ∈ g) ↔ q ∈ x.pending ∧ q.stream = t ∧ q.isData = true := by
  have hflat := consecutiveGroups_flatten [] (x.pending.filter fun q => q.stream = t && q.isData)
  rw [← List.mem_flatten, timeoutGroups, hflat, List.nil_append, List.mem_filter]
  simp

/-- **Runs of a timeout**: the groups of a stream are the maximal runs of its
pending numbers, each of them once. -/
theorem Numbered.runs (h : Numbered x t n) :
    (x.timeoutGroups t).Nodup ∧
      (∀ g ∈ x.timeoutGroups t, MaximalRun (x.pendingSeq t) (groupFirst g) (groupLast g)) ∧
      ∀ k, x.pendingSeq t k →
        ∃! g, g ∈ x.timeoutGroups t ∧ groupFirst g ≤ k ∧ k ≤ groupLast g := by
  have hall := h.increasing
  obtain ⟨hne, hapart⟩ := @consecutiveGroups_apart [] _ hall
  have hrun : ∀ g ∈ x.timeoutGroups t, Consecutive g := fun g hg =>
    consecutive_of_mem hall.numbered consecutive_nil (fun _ hq => by cases hq) hg
  have hmem : ∀ g ∈ x.timeoutGroups t, ∀ k,
      (∃ q ∈ g, seqOf q = k) ↔ groupFirst g ≤ k ∧ k ≤ groupLast g := fun g hg k =>
    (hrun g hg).mem (hne g hg)
  have hfar : ∀ g ∈ x.timeoutGroups t, ∀ g' ∈ x.timeoutGroups t, g ≠ g' →
      ∀ p ∈ g, ∀ q ∈ g', seqOf p + 1 < seqOf q ∨ seqOf q + 1 < seqOf p := by
    intro g hg g' hg'
    let far (g g' : List Queued) : Prop :=
      ∀ p ∈ g, ∀ q ∈ g', seqOf p + 1 < seqOf q ∨ seqOf q + 1 < seqOf p
    have : Std.Symm far := ⟨fun _ _ hfar p hp q hq => (hfar q hq p hp).symm⟩
    have hpairs : (x.timeoutGroups t).Pairwise far :=
      hapart.imp fun hab p hp q hq => .inl (hab p hp q hq)
    exact hpairs.forall hg hg'
  have hpending : ∀ k, x.pendingSeq t k ↔ ∃ g ∈ x.timeoutGroups t, ∃ q ∈ g, seqOf q = k := by
    intro k
    constructor
    · rintro ⟨q, hq, hstream, hdata, hk⟩
      obtain ⟨g, hg, hqg⟩ := mem_timeoutGroups.mpr ⟨hq, hstream, hdata⟩
      exact ⟨g, hg, q, hqg, by rw [seqOf, hk, Option.getD_some]⟩
    · rintro ⟨g, hg, q, hqg, rfl⟩
      obtain ⟨hq, hstream, hdata⟩ := mem_timeoutGroups.mp ⟨g, hg, hqg⟩
      obtain ⟨k, hk⟩ := hall.numbered q (mem_consecutiveGroups hg hqg)
      exact ⟨q, hq, hstream, hdata, by rw [seqOf, hk, Option.getD_some]⟩
  have hle : ∀ g ∈ x.timeoutGroups t, groupFirst g ≤ groupLast g := fun g hg => (h.groups.1 g hg).1
  -- a pending number next to a run would lie in a run that is apart from it
  have hneighbour : ∀ g ∈ x.timeoutGroups t, ∀ k p, p ∈ g → (k = seqOf p + 1 ∨ k + 1 = seqOf p) →
      x.pendingSeq t k → groupFirst g ≤ k ∧ k ≤ groupLast g := by
    intro g hg k p hp hk hpend
    obtain ⟨g', hg', q, hq, rfl⟩ := (hpending k).mp hpend
    by_cases hsame : g = g'
    · subst hsame
      exact (hmem g hg _).mp ⟨q, hq, rfl⟩
    · have := hfar g hg g' hg' hsame p hp q hq
      omega
  refine ⟨?_, fun g hg => ⟨hle g hg, fun k hfirst hlast => ?_, fun k hk hpend => ?_,
    fun hpend => ?_⟩, fun k hpend => ?_⟩
  · refine List.Pairwise.imp_of_mem (fun {g g'} hg _ hab hsame => ?_) hapart
    obtain ⟨q, hq⟩ := List.exists_mem_of_ne_nil g (hne g hg)
    have := hab q hq q (hsame ▸ hq)
    omega
  · exact (hpending k).mpr ⟨g, hg, (hmem g hg k).mpr ⟨hfirst, hlast⟩⟩
  · obtain ⟨p, hp, hfirst⟩ := (hmem g hg (groupFirst g)).mpr ⟨Nat.le_refl _, hle g hg⟩
    have := hneighbour g hg k p hp (.inr (hk.trans hfirst.symm)) hpend
    omega
  · obtain ⟨p, hp, hlast⟩ := (hmem g hg (groupLast g)).mpr ⟨hle g hg, Nat.le_refl _⟩
    have := hneighbour g hg _ p hp (.inl (by rw [hlast])) hpend
    omega
  · obtain ⟨g, hg, hk⟩ := (hpending k).mp hpend
    refine ⟨g, ⟨hg, (hmem g hg k).mp hk⟩, fun g' hg' => ?_⟩
    obtain ⟨q, hq, rfl⟩ := hk
    obtain ⟨p, hp, hseq⟩ := (hmem g' hg'.1 _).mpr hg'.2
    by_contra hsame
    have := hfar g' hg'.1 g hg hsame p hp q hq
    omega

end Groups

/-! ## The offers of a timeout -/

/-- The loss of a group. -/
def closeLoss (observedNs : Nat) (group : List Queued) : OpenLoss where
  reason := .closeTimeout
  firstRecordSeq := groupFirst group
  lastRecordSeq := groupLast group
  counts := fun t => group.countP fun q => q.recordType = t
  firstTimestampNs := observedNs
  lastTimestampNs := observedNs

/-- The control of a group, `none` when its record cannot be built. -/
def groupControl (cfg : Config) (stream : StreamId) (observedNs lossSeq : Nat)
    (group : List Queued) : Option Queued :=
  match lossRecord cfg stream lossSeq (closeLoss observedNs group) with
  | .error _ => none
  | .ok (record, raw) => some (lossControl stream record raw)

/-- A control that is offered on its own stream. -/
def offered (q : Queued) : StreamId × Option Queued := (q.stream, some q)

/-- One offer for each group, numbered from the next loss interval. -/
def offersFrom (cfg : Config) (stream : StreamId) (observedNs : Nat) (lossSeq : Nat) :
    List (List Queued) → List (StreamId × Option Queued)
  | [] => []
  | group :: rest =>
    (stream, groupControl cfg stream observedNs lossSeq group) ::
      offersFrom cfg stream observedNs (lossSeq + 1) rest

/-- What the timeout has to admit or drop. -/
def timeoutOffers (cfg : Config) (x : Exporter) (observedNs : Nat) :
    List (StreamId × Option Queued) :=
  x.existingControls.map offered ++
    offersFrom cfg .base observedNs (x.ledger .base).nextLossIntervalSeq (x.timeoutGroups .base) ++
    offersFrom cfg .profile observedNs (x.ledger .profile).nextLossIntervalSeq
      (x.timeoutGroups .profile)

section Offers
variable {cfg : Config} {x : Exporter} {t stream : StreamId} {observedNs lossSeq : Nat}

theorem markOf_groupControl {group : List Queued} {control : Queued}
    (h : groupControl cfg stream observedNs lossSeq group = some control) :
    control.stream = stream ∧ markOf control.record =
      some (.loss LossReason.closeTimeout.wire (groupFirst group) (groupLast group)) := by
  unfold groupControl at h
  split at h
  · cases h
  · next record raw hrecord =>
    cases h
    exact ⟨rfl, markOf_lossRecord hrecord⟩

/-- Where the admission stands after some offers. -/
structure Answers (x : Exporter) (a : Admitted) (offers : List (StreamId × Option Queued))
    (lost losses : StreamId → Nat) : Prop where
  answered : ∃ refused, offers.Perm (a.controls.map offered ++ refused) ∧
    ∀ t, (a.x.ledger t).droppedControl =
      (x.ledger t).droppedControl + refused.countP fun offer => offer.1 = t
  data : ∀ t, (a.x.ledger t).droppedData = (x.ledger t).droppedData + lost t
  lossSeq : ∀ t, (a.x.ledger t).nextLossIntervalSeq = (x.ledger t).nextLossIntervalSeq + losses t

variable {a : Admitted} {offers : List (StreamId × Option Queued)} {lost losses : StreamId → Nat}

/-- A refused offer is counted on its stream. -/
theorem Answers.refuses (h : Answers x a offers lost losses) (control : Option Queued) :
    Answers x { a with x := a.x.dropControl stream }
      (offers ++ [(stream, control)]) lost losses := by
  obtain ⟨refused, hperm, hcount⟩ := h.answered
  refine ⟨⟨refused ++ [(stream, control)], ?_, fun t => ?_⟩, fun t => ?_, fun t => ?_⟩
  · rw [← List.append_assoc]
    exact hperm.append_right _
  · have hold := hcount t
    rw [dropControl, modify_ledger, List.countP_append, List.countP_singleton]
    by_cases ht : t = stream
    · subst ht
      simp only [if_pos, decide_true]
      omega
    · have ht' : ¬ stream = t := fun h => ht h.symm
      simp [ht, ht', hold]
  all_goals
    rw [dropControl, modify_ledger]
    split
    · first
      | exact h.data t
      | exact h.lossSeq t
    · first
      | exact h.data t
      | exact h.lossSeq t

/-- An offered control is kept or refused. -/
theorem Answers.admits (h : Answers x a offers lost losses) (q : Queued) :
    Answers x (a.admitControl q) (offers ++ [offered q]) lost losses := by
  unfold Admitted.admitControl
  split
  · exact h.refuses (some q)
  · obtain ⟨refused, hperm, hcount⟩ := h.answered
    refine ⟨⟨refused, ?_, hcount⟩, h.data, h.lossSeq⟩
    rw [List.map_append, List.map_singleton, List.append_assoc]
    refine (hperm.append_right _).trans ?_
    rw [List.append_assoc]
    exact List.perm_append_comm.append_left _

theorem Answers.existing (h : Answers x a offers lost losses) (records : List Queued) :
    Answers x (records.foldl Admitted.admitControl a)
      (offers ++ records.map offered) lost losses := by
  induction records generalizing a offers with
  | nil => simpa using h
  | cons q rest ih =>
    have hrest := ih (h.admits q)
    rwa [List.append_assoc, List.singleton_append] at hrest

/-- Every record of the group is lost, and its control takes a number. -/
theorem Answers.loses (h : Answers x a offers lost losses) (cfg : Config) (observedNs : Nat)
    (group : List Queued) (hseq : (x.ledger stream).nextLossIntervalSeq + losses stream = lossSeq) :
    Answers x (a.admitGroup cfg stream observedNs group)
      (offers ++ [(stream, groupControl cfg stream observedNs lossSeq group)])
      (fun t => lost t + if t = stream then group.length else 0)
      (fun t => losses t + if t = stream then 1 else 0) := by
  have hlossSeq : (a.x.ledger stream).nextLossIntervalSeq = lossSeq := by
    rw [h.lossSeq stream, hseq]
  have hopened : Answers x { a with x := a.x.modify stream fun l => { l with
      droppedData := l.droppedData + group.length
      nextLossIntervalSeq := (a.x.ledger stream).nextLossIntervalSeq + 1 } } offers
      (fun t => lost t + if t = stream then group.length else 0)
      (fun t => losses t + if t = stream then 1 else 0) := by
    obtain ⟨refused, hperm, hcount⟩ := h.answered
    refine ⟨⟨refused, hperm, fun t => ?_⟩, fun t => ?_, fun t => ?_⟩
    all_goals
      have hdropped := hcount t
      have hdata := h.data t
      have hnext := h.lossSeq t
      rw [modify_ledger]
      by_cases ht : t = stream
      · subst ht
        simp only [if_pos]
        omega
      · simp only [if_neg ht]
        omega
  unfold Admitted.admitGroup timeoutLossControl
  rw [← hlossSeq, groupControl]
  unfold closeLoss groupFirst groupLast
  dsimp only
  cases lossRecord cfg stream (a.x.ledger stream).nextLossIntervalSeq _ with
  | error e => exact hopened.refuses none
  | ok built => exact hopened.admits (lossControl stream built.1 built.2)

theorem Answers.groups (h : Answers x a offers lost losses) (cfg : Config) (stream : StreamId)
    (observedNs : Nat) (groups : List (List Queued))
    (hseq : (x.ledger stream).nextLossIntervalSeq + losses stream = lossSeq) :
    Answers x (groups.foldl (Admitted.admitGroup cfg stream observedNs) a)
      (offers ++ offersFrom cfg stream observedNs lossSeq groups)
      (fun t => lost t + if t = stream then groups.flatten.length else 0)
      (fun t => losses t + if t = stream then groups.length else 0) := by
  induction groups generalizing a offers lost losses lossSeq with
  | nil => simpa [offersFrom] using h
  | cons group rest ih =>
    have hnext : (x.ledger stream).nextLossIntervalSeq +
        (losses stream + if stream = stream then 1 else 0) = lossSeq + 1 := by
      rw [if_pos rfl]
      omega
    have hrest := ih (h.loses cfg observedNs group hseq) hnext
    rw [List.append_assoc, List.singleton_append] at hrest
    refine ⟨hrest.answered, fun t => ?_, fun t => ?_⟩
    · rw [List.foldl_cons, hrest.data t, List.flatten_cons, List.length_append]
      split <;> omega
    · rw [List.foldl_cons, hrest.lossSeq t, List.length_cons]
      split <;> omega

end Offers

section Fits
variable {cfg : Config} {x : Exporter} {observedNs : Nat} {a : Admitted}

/-- What the admission keeps about its budgets. -/
structure Admitted.Fits (a : Admitted) : Prop where
  queue : a.x.queue = []
  counts : ∀ t, a.counts t = a.controls.countP fun q => q.stream = t
  bytes : ∀ t, a.bytes t = tally .bytes t a.controls
  room : ∀ t, a.counts t ≤ reservedCapacityRecords ∧ a.bytes t ≤ maxQueuedBytes
  control : ∀ q ∈ a.controls, q.recordType = .lossInterval

theorem Admitted.Fits.admits {q : Queued} (h : a.Fits) (hq : q.recordType = .lossInterval) :
    (a.admitControl q).Fits := by
  unfold Admitted.admitControl
  split
  · exact ⟨h.queue, h.counts, h.bytes, h.room, h.control⟩
  · next hroom =>
    rw [not_or, not_le, not_lt] at hroom
    refine ⟨h.queue, fun t => ?_, fun t => ?_, fun t => ?_, fun p hp => ?_⟩
    · have hold := h.counts t
      dsimp only
      rw [List.countP_append, List.countP_singleton]
      by_cases ht : t = q.stream
      · subst ht
        simp only [if_pos, decide_true]
        omega
      · have ht' : ¬ q.stream = t := fun h => ht h.symm
        simp [ht, ht', hold]
    · have hold := h.bytes t
      by_cases ht : t = q.stream
      · subst ht
        simp [Total.measure, hold]
      · have ht' : ¬ q.stream = t := fun h => ht h.symm
        simp [ht, ht', hold]
    · dsimp only
      by_cases ht : t = q.stream
      · subst ht
        rw [if_pos rfl, if_pos rfl]
        exact ⟨hroom.1, hroom.2⟩
      · rw [if_neg ht, if_neg ht]
        exact h.room t
    · rcases List.mem_append.mp hp with hp | hp
      · exact h.control p hp
      · exact List.mem_singleton.mp hp ▸ hq

theorem TimeoutStage.fits (h : TimeoutStage cfg x observedNs a) : a.Fits := by
  induction h with
  | start =>
    exact ⟨rfl, fun _ => rfl, fun _ => rfl, fun _ => ⟨Nat.zero_le _, Nat.zero_le _⟩, nofun⟩
  | existing _ hq ih => exact ih.admits (of_decide_eq_true (List.mem_filter.mp hq).2)
  | @group a stream group _ _ ih =>
    have hother : ∀ y : Exporter, y.queue = a.x.queue → Admitted.Fits { a with x := y } :=
      fun y hy => ⟨hy.trans ih.queue, ih.counts, ih.bytes, ih.room, ih.control⟩
    unfold Admitted.admitGroup timeoutLossControl
    dsimp only
    split
    · next heq =>
      split at heq
      · cases heq
        exact hother _ rfl
      · cases heq
    · next heq =>
      split at heq
      · cases heq
      · next record raw _ =>
        cases heq
        exact Admitted.Fits.admits (q := lossControl stream record raw) (hother _ rfl) rfl

end Fits

/-- The timeout accounts for everything that was pending: each number in one
maximal interval, each interval and each earlier control returned or dropped. -/
structure TimeoutAccounts (cfg : Config) (x : Exporter) (observedNs : Nat) (y : Exporter)
    (controls : List Queued) : Prop where
  queues : y.queue = [] ∧ y.inflight = controls ∧ ∀ q ∈ controls, q.isData = false
  bounded : ∀ t, (controls.countP fun q => q.stream = t) ≤ reservedCapacityRecords ∧
    tally .bytes t controls ≤ maxQueuedBytes
  data : ∀ t, (y.ledger t).droppedData = (x.ledger t).droppedData + x.pendingData t
  once : ∀ t, (x.timeoutGroups t).Nodup ∧ ∀ k, x.pendingSeq t k →
    ∃! g, g ∈ x.timeoutGroups t ∧ groupFirst g ≤ k ∧ k ≤ groupLast g
  maximal : ∀ t, ∀ g ∈ x.timeoutGroups t,
    MaximalRun (x.pendingSeq t) (groupFirst g) (groupLast g)
  interval : ∀ t, ∀ g ∈ x.timeoutGroups t, ∀ lossSeq control,
    groupControl cfg t observedNs lossSeq g = some control → control.stream = t ∧
      markOf control.record =
        some (.loss LossReason.closeTimeout.wire (groupFirst g) (groupLast g))
  answered : ∃ refused, (timeoutOffers cfg x observedNs).Perm (controls.map offered ++ refused) ∧
    ∀ t, (y.ledger t).droppedControl =
      (x.ledger t).droppedControl + refused.countP fun offer => offer.1 = t

/-- Where only numbered data and loss intervals are pending. -/
theorem timeout_accounts {x : Exporter} (h : ∀ t, x.Listed t) (cfg : Config) (observedNs : Nat) :
    TimeoutAccounts cfg x observedNs (x.prepareTimeoutControls cfg observedNs).1
      (x.prepareTimeoutControls cfg observedNs).2 := by
  have hfits := (stage_timeoutAdmission cfg x observedNs).fits
  have hunknown : (x.pending.filter fun q => !(q.recordType = .lossInterval || q.isData)) = [] := by
    refine List.filter_eq_nil_iff.mpr fun q hq => ?_
    rcases (h q.stream).kinds q (List.mem_filter.mpr ⟨hq, decide_eq_true rfl⟩) with hk | hk
    all_goals simp [hk]
  have hstart : Answers x x.timeoutStart [] (fun _ => 0) (fun _ => 0) := by
    rw [timeoutStart, hunknown]
    exact ⟨⟨[], .refl _, fun _ => rfl⟩, fun _ => rfl, fun _ => rfl⟩
  have hdone := ((hstart.existing x.existingControls).groups cfg .base observedNs
    (x.timeoutGroups .base) rfl).groups cfg .profile observedNs (x.timeoutGroups .profile) rfl
  refine ⟨⟨hfits.queue, rfl, fun q hq => isData_of_lossInterval (hfits.control q hq)⟩,
    fun t => ?_, fun t => ?_, fun t => ?_, fun t => (h t).numbered.runs.2.1,
    fun t g _ lossSeq control hcontrol => markOf_groupControl hcontrol, ?_⟩
  · obtain ⟨hcount, hbytes⟩ := hfits.room t
    rw [hfits.counts t] at hcount
    rw [hfits.bytes t] at hbytes
    exact ⟨hcount, hbytes⟩
  · have hdata := hdone.data t
    have hflat : ∀ t, (x.timeoutGroups t).flatten.length = x.pendingData t := by
      intro t
      rw [timeoutGroups, consecutiveGroups_flatten, List.nil_append, pendingData,
        List.countP_eq_length_filter]
      rfl
    rw [hflat, hflat] at hdata
    refine hdata.trans ?_
    cases t <;> simp
  · exact ⟨(h t).numbered.runs.1, (h t).numbered.runs.2.2⟩
  · rw [List.nil_append] at hdone
    exact hdone.answered

end Exporter

/-- **Timeout accounting.** Whenever the timeout finalizer runs, in any reachable
state and whatever the monotonic clock reads. -/
theorem timeout_accounts_for_pending {cfg : Config} {s : TraceSink}
    (h : TraceSink.Reachable cfg s) (observedNs : Nat) :
    s.x.TimeoutAccounts cfg observedNs (s.x.prepareTimeoutControls cfg observedNs).1
      (s.x.prepareTimeoutControls cfg observedNs).2 :=
  Exporter.timeout_accounts (listed_of_reachable h) cfg observedNs

theorem timeout_accounts_for_pending_edge : Sample.cutOff.x.pendingData .base = 1 ∧
    Sample.cutOff.x.TimeoutAccounts Sample.cfg 2000000000
      (Sample.cutOff.x.prepareTimeoutControls Sample.cfg 2000000000).1
      (Sample.cutOff.x.prepareTimeoutControls Sample.cfg 2000000000).2 := by
  have hreach : TraceSink.Reachable Sample.cfg Sample.cutOff :=
    (General.Reach.init Sample.initial_start).run (.of_forall (fun _ _ => trivial) _ _)
  exact ⟨by decide +kernel, timeout_accounts_for_pending hreach 2000000000⟩

end LifecycleProfiler.Sink
