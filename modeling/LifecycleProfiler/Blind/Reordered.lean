import LifecycleProfiler.Blind.Decided

/-! # The order of a bundle

The scorer's result does not depend on the order in which the candidates are
listed, nor on that of the events, spans and edges of an observation: what it
iterates over ends in sums, in sets and in rankings with named ties. -/

namespace LifecycleProfiler.Blind
open Python Protocol General

/-- The observation with its events, spans and edges listed in another order. -/
inductive Observation.Reordered (o : Observation) : Observation → Prop where
  | mk {events : List NormalizedEvent} {spans : List LifecycleSpan} {edges : List LifecycleEdge} :
    events.Perm o.normalizedEvents → spans.Perm o.lifecycleSpans → edges.Perm o.lifecycleEdges →
    Observation.Reordered o { o with
      normalizedEvents := events, lifecycleSpans := spans, lifecycleEdges := edges }

inductive MatchedPair.Reordered (pair : MatchedPair) : MatchedPair → Prop where
  | mk {baseline treatment : Observation} :
    pair.baseline.Reordered baseline → pair.treatment.Reordered treatment →
    MatchedPair.Reordered pair { pair with baseline := baseline, treatment := treatment }

/-- The bundle with the lists inside its observations in another order. -/
structure CaseBundle.Reordered (bundle other : CaseBundle) : Prop where
  caseId : other.caseId = bundle.caseId
  pairs : List.Forall₂ MatchedPair.Reordered bundle.pairs other.pairs

/-! ## Lists with an order of their own -/

theorem insertionSort_texts {texts others : List String} (h : others.Perm texts) :
    others.insertionSort (· ≤ ·) = texts.insertionSort (· ≤ ·) := by
  refine List.Perm.eq_of_pairwise (fun a b _ _ hab hba => String.le_antisymm hab hba)
    (List.pairwise_insertionSort _ _) (List.pairwise_insertionSort _ _) ?_
  exact ((List.perm_insertionSort _ _).trans h).trans (List.perm_insertionSort _ _).symm

section Rankings
variable {value : String → ℚ} {candidates others : List String}

/-- Ties are broken by name, so a set of candidates has one ranking. -/
theorem ranked_reordered (h : others.Perm candidates) :
    ranked value others = ranked value candidates := by
  refine List.Perm.eq_of_pairwise (fun a b _ _ hab hba => ?_) ranked_pairwise ranked_pairwise
    ((ranked_perm.trans h).trans ranked_perm.symm)
  rcases hab with hab | ⟨hab, hnames⟩ <;> rcases hba with hba | ⟨hba, hnames'⟩
  · exact absurd hba hab.not_gt
  · exact absurd hba hab.ne
  · exact absurd hab hba.ne
  · exact String.le_antisymm hnames hnames'

theorem rankedIds_reordered (h : others.Perm candidates) :
    rankedIds value others = rankedIds value candidates := by
  rw [rankedIds, ranked_reordered h, rankedIds]

theorem positiveTotal_reordered (h : others.Perm candidates) :
    positiveTotal value others = positiveTotal value candidates :=
  (h.map _).sum_eq

theorem dominance_reordered (h : others.Perm candidates) :
    dominance value others = dominance value candidates := by
  rw [dominance, rankedIds_reordered h, positiveTotal_reordered h, dominance]

theorem residual_reordered (h : others.Perm candidates) :
    residual value others = residual value candidates := by
  rw [residual, positiveTotal_reordered h, dominance_reordered h, residual]

theorem gateReasons_reordered {floor : ℚ} {scores : List CandidateScore}
    (h : others.Perm candidates) :
    gateReasons value others floor scores = gateReasons value candidates floor scores := by
  rw [gateReasons, positiveTotal_reordered h, rankedIds_reordered h, dominance_reordered h,
    residual_reordered h, gateReasons]

theorem top1Count_reordered {draws : Draws} {deltas : String → List ℚ} {candidate : String}
    (h : others.Perm candidates) :
    top1Count draws deltas others candidate = top1Count draws deltas candidates candidate := by
  simp only [top1Count, ranked_reordered h]

end Rankings

/-! ## Sums over an observation -/

theorem candidateTotal_reordered {spans others : List LifecycleSpan} (h : others.Perm spans)
    (candidate : String) : candidateTotal others candidate = candidateTotal spans candidate :=
  ((h.filter _).map _).sum_eq

theorem pairDeltas_reordered {pairs others : List MatchedPair}
    (h : List.Forall₂ MatchedPair.Reordered pairs others) :
      pairDeltas others = pairDeltas pairs := by
  funext candidate
  induction h with
  | nil => rfl
  | cons hpair _ ih =>
    obtain ⟨⟨-, hbaseline, -⟩, ⟨-, htreatment, -⟩⟩ := hpair
    rw [pairDeltas, List.map_cons, ← pairDeltas, ih, candidateTotal_reordered hbaseline,
      candidateTotal_reordered htreatment]
    rfl

theorem observations_reordered {pairs others : List MatchedPair}
    (h : List.Forall₂ MatchedPair.Reordered pairs others) :
    List.Forall₂ Observation.Reordered (observations pairs) (observations others) := by
  induction h with
  | nil => exact .nil
  | cons hpair _ ih =>
    obtain ⟨hbaseline, htreatment⟩ := hpair
    exact .cons hbaseline (.cons htreatment ih)

/-- What reads alike from an observation in any order reads alike from a list. -/
theorem map_reordered {α : Type} {f : Observation → α}
    (hf : ∀ o o' : Observation, o.Reordered o' → f o' = f o) {os others : List Observation}
    (h : List.Forall₂ Observation.Reordered os others) : others.map f = os.map f := by
  induction h with
  | nil => rfl
  | cons ho _ ih => rw [List.map_cons, List.map_cons, hf _ _ ho, ih]

theorem lossCount_reordered {pairs others : List MatchedPair}
    (h : List.Forall₂ MatchedPair.Reordered pairs others) : lossCount others = lossCount pairs := by
  rw [lossCount, map_reordered ?_ (observations_reordered h), lossCount]
  rintro o _ ⟨⟩
  rfl

/-! ## Evidence -/

section Evidence
variable {o o' : Observation}

theorem incidentKinds_reordered (h : o.Reordered o') (spanId : String) :
    (incidentKinds o' spanId).Perm (incidentKinds o spanId) := by
  obtain ⟨-, -, hedges⟩ := h
  exact ((hedges.filter _).map _).dedup

theorem supportedLinks_reordered (h : o.Reordered o') (spanId : String) :
    supportedLinks o' spanId = supportedLinks o spanId := by
  obtain ⟨-, -, -⟩ := h
  rfl

theorem isLinked_reordered (h : o.Reordered o') : isLinked o' = isLinked o := by
  funext span
  rw [isLinked, (incidentKinds_reordered h span.spanId).any_eq,
    supportedLinks_reordered h, isLinked]

/-- Without links nothing is resolved. -/
theorem verifyTraceloomEvidence_of_unlinked {env : Environment} (h : o.traceloomLinks = []) :
    verifyTraceloomEvidence env o = .ok [] := by
  rw [verifyTraceloomEvidence, h]
  rfl

theorem observationReasons_reordered {env : Environment} (h : o.Reordered o')
    (hlinks : o.traceloomLinks = []) : observationReasons env o' = observationReasons env o := by
  have hother : o'.traceloomLinks = [] := by
    obtain ⟨-, -, -⟩ := h
    exact hlinks
  rw [observationReasons, observationReasons, isLinked_reordered h,
    verifyTraceloomEvidence_of_unlinked hother, verifyTraceloomEvidence_of_unlinked hlinks]
  obtain ⟨hevents, hspans, -⟩ := h
  dsimp only
  rw [hspans.any_eq, hspans.any_eq, hevents.any_eq]

end Evidence

/-! ## The evidence of a candidate -/

/-- The key of a span among those of its candidate. -/
def entryKey (e : Observation × LifecycleSpan) : String := e.1.runId ++ "\x00" ++ e.2.spanId

/-- The span ids of a packet, as the set of the keys added to it. -/
structure Keyed (entries : List (Observation × LifecycleSpan)) (packet : Packet) : Prop where
  mem : ∀ key, key ∈ packet.spanIds ↔ ∃ e ∈ entries, entryKey e = key
  nodup : packet.spanIds.Nodup

theorem Keyed.add {entries : List (Observation × LifecycleSpan)} {packet : Packet}
    (h : Keyed entries packet) (o : Observation) (span : LifecycleSpan) :
    Keyed (entries ++ [(o, span)]) (packet.add o span) := by
  refine ⟨fun key => ?_, h.nodup.insert⟩
  rw [exists_mem_snoc, ← h.mem, Packet.add, List.mem_insert_iff, or_comm]
  exact or_congr_right eq_comm

theorem keyed_candidateEvidence (pairs : List MatchedPair) (candidate : String) :
    Keyed (entriesOf (observations pairs) candidate) (candidateEvidence pairs candidate) :=
  candidateEvidence_induction ⟨by simp, List.nodup_nil⟩ Keyed.add pairs candidate

/-- A property of the entries that no order shows holds of some entry in either
order. -/
theorem exists_entry_reordered {P : Observation → LifecycleSpan → Prop}
    (hP : ∀ o o' : Observation, o.Reordered o' → ∀ span, P o span ↔ P o' span)
    {os others : List Observation} (h : List.Forall₂ Observation.Reordered os others)
    (candidate : String) :
    (∃ e ∈ entriesOf others candidate, P e.1 e.2) ↔ ∃ e ∈ entriesOf os candidate, P e.1 e.2 := by
  have hmem : ∀ {o o' : Observation}, o.Reordered o' → ∀ span,
      span ∈ o'.lifecycleSpans ↔ span ∈ o.lifecycleSpans := by
    rintro o _ ⟨-, hspans, -⟩ span
    exact hspans.mem_iff
  constructor
  · rintro ⟨⟨o', span⟩, he, hholds⟩
    obtain ⟨ho', hspan, hcandidate⟩ := mem_entriesOf.mp he
    obtain ⟨o, ho, hreordered⟩ := exists_left_of_forall₂ h ho'
    exact ⟨(o, span), mem_entriesOf.mpr ⟨ho, (hmem hreordered span).mp hspan, hcandidate⟩,
      (hP o o' hreordered span).mpr hholds⟩
  · rintro ⟨⟨o, span⟩, he, hholds⟩
    obtain ⟨ho, hspan, hcandidate⟩ := mem_entriesOf.mp he
    obtain ⟨o', ho', hreordered⟩ := exists_left_of_forall₂ h.flip ho
    exact ⟨(o', span), mem_entriesOf.mpr ⟨ho', (hmem hreordered span).mpr hspan, hcandidate⟩,
      (hP o o' hreordered span).mp hholds⟩

section Packets
variable {pairs others : List MatchedPair}

theorem spanCount_reordered (h : List.Forall₂ MatchedPair.Reordered pairs others)
    (candidate : String) : (candidateEvidence others candidate).spanIds.length =
      (candidateEvidence pairs candidate).spanIds.length := by
  have hold := keyed_candidateEvidence pairs candidate
  have hnew := keyed_candidateEvidence others candidate
  refine ((List.perm_ext_iff_of_nodup hnew.nodup hold.nodup).mpr fun key => ?_).length_eq
  rw [hnew.mem, hold.mem]
  refine exists_entry_reordered (P := fun o span => entryKey (o, span) = key) ?_
    (observations_reordered h) candidate
  rintro o _ ⟨-, -, -⟩ span
  rfl

theorem owners_reordered (h : List.Forall₂ MatchedPair.Reordered pairs others)
    (candidate : String) : (candidateEvidence others candidate).owners.Perm
      (candidateEvidence pairs candidate).owners := by
  have hold := collected_candidateEvidence pairs candidate
  have hnew := collected_candidateEvidence others candidate
  refine (List.perm_ext_iff_of_nodup hnew.owners_nodup hold.owners_nodup).mpr fun owner => ?_
  rw [hnew.owners, hold.owners]
  exact exists_entry_reordered (P := fun _ span => span.owner = owner) (fun _ _ _ _ => Iff.rfl)
    (observations_reordered h) candidate

theorem edgeKinds_reordered (h : List.Forall₂ MatchedPair.Reordered pairs others)
    (candidate : String) : (candidateEvidence others candidate).edgeKinds.Perm
      (candidateEvidence pairs candidate).edgeKinds := by
  have hold := collected_candidateEvidence pairs candidate
  have hnew := collected_candidateEvidence others candidate
  refine (List.perm_ext_iff_of_nodup hnew.kinds_nodup hold.kinds_nodup).mpr fun kind => ?_
  rw [hnew.kinds, hold.kinds]
  refine exists_entry_reordered (P := fun o span => kind ∈ incidentKinds o span.spanId) ?_
    (observations_reordered h) candidate
  exact fun o o' ho span => (incidentKinds_reordered ho span.spanId).mem_iff.symm

/-- Without links none is counted. -/
theorem traceloomLinkCount_of_unlinked (hlinks : ∀ o ∈ observations pairs, o.traceloomLinks = [])
    (candidate : String) : (candidateEvidence pairs candidate).traceloomLinkCount = 0 := by
  by_contra hne
  obtain ⟨⟨o, span⟩, he, hcount⟩ :=
    (collected_candidateEvidence pairs candidate).links.mp hne
  refine hcount ?_
  rw [supportedLinks, hlinks o (mem_entriesOf.mp he).1]
  rfl

theorem unlinked_reordered (h : List.Forall₂ MatchedPair.Reordered pairs others)
    (hlinks : ∀ o ∈ observations pairs, o.traceloomLinks = []) :
    ∀ o ∈ observations others, o.traceloomLinks = [] := by
  intro o' ho'
  obtain ⟨o, ho, -, -, -⟩ := exists_left_of_forall₂ (observations_reordered h) ho'
  exact hlinks o ho

theorem evidenceReasons_reordered {env : Environment}
    (h : List.Forall₂ MatchedPair.Reordered pairs others)
    (hlinks : ∀ o ∈ observations pairs, o.traceloomLinks = []) :
    evidenceReasons env others = evidenceReasons env pairs := by
  have hmap : ∀ {os os' : List Observation}, List.Forall₂ Observation.Reordered os os' →
      (∀ o ∈ os, o.traceloomLinks = []) →
      os'.mapM (observationReasons env) = os.mapM (observationReasons env) := by
    intro os os' hos
    induction hos with
    | nil => exact fun _ => rfl
    | cons ho _ ih =>
      intro hnone
      rw [List.mapM_cons, List.mapM_cons,
        observationReasons_reordered ho (hnone _ List.mem_cons_self),
        ih fun o ho => hnone o (List.mem_cons_of_mem _ ho)]
  rw [evidenceReasons, hmap (observations_reordered h) hlinks, evidenceReasons]

theorem candidateScore_reordered {env : Environment} {candidates candidates' : List String}
    (h : List.Forall₂ MatchedPair.Reordered pairs others)
    (hcandidates : candidates'.Perm candidates)
    (hlinks : ∀ o ∈ observations pairs, o.traceloomLinks = []) :
    candidateScore env others candidates' = candidateScore env pairs candidates := by
  funext candidate
  simp only [candidateScore, pairDeltas_reordered h, positiveTotal_reordered hcandidates,
    top1Count_reordered hcandidates, spanCount_reordered h,
    insertionSort_texts (owners_reordered h candidate),
    insertionSort_texts (edgeKinds_reordered h candidate),
    traceloomLinkCount_of_unlinked hlinks,
    traceloomLinkCount_of_unlinked (unlinked_reordered h hlinks)]

end Packets

/-- One bundle scores alike in every order. -/
theorem scoreValidatedCase_reordered {env : Environment} {bundle other : CaseBundle}
    {candidateIds otherIds : List String} {floor : ℚ} (h : bundle.Reordered other)
    (hids : otherIds.Perm candidateIds)
    (hlinks : ∀ o ∈ observations bundle.pairs, o.traceloomLinks = []) :
    scoreValidatedCase env other otherIds floor =
      scoreValidatedCase env bundle candidateIds floor := by
  have hcandidates : (measurable otherIds).Perm (measurable candidateIds) := hids.filter _
  simp only [scoreValidatedCase, h.caseId, pairDeltas_reordered h.pairs,
    evidenceReasons_reordered h.pairs hlinks, rankedIds_reordered hcandidates,
    dominance_reordered hcandidates, residual_reordered hcandidates,
    gateReasons_reordered hcandidates, lossCount_reordered h.pairs,
    candidateScore_reordered h.pairs hcandidates hlinks]

end LifecycleProfiler.Blind
