import LifecycleProfiler.General.TwoRuns
import LifecycleProfiler.Blind.Reordered

/-! # Reading a bundle in another order

A bundle of JSON with the events, spans and edges of its observations permuted
is read as the same records in another order. -/

namespace LifecycleProfiler.Blind
open Python Protocol General

/-! ## Permuted JSON -/

/-- Mappings with the same keys, whose values differ under some keys only. -/
def Revised (keys : List String) (R : Value → Value → Prop) (record other : Dict) : Prop :=
  List.Forall₂ (fun item item' => item'.1 = item.1 ∧
    (item'.2 = item.2 ∨ (item.1 ∈ keys ∧ R item.2 item'.2))) record other

def PermutedItems (value other : Value) : Prop :=
  ∃ items others, value = .list items ∧ other = .list others ∧ others.Perm items

/-- An observation with its events, spans and edges permuted. -/
def PermutedObservation (value other : Value) : Prop :=
  ∃ record record', value = .dict record ∧ other = .dict record' ∧
    Revised ["normalized_events", "lifecycle_spans", "lifecycle_edges"] PermutedItems record record'

def PermutedPair (value other : Value) : Prop :=
  ∃ record record', value = .dict record ∧ other = .dict record' ∧
    Revised ["baseline", "treatment"] PermutedObservation record record'

def PermutedPairs (value other : Value) : Prop :=
  ∃ items others, value = .list items ∧ other = .list others ∧
    List.Forall₂ PermutedPair items others

/-- A bundle with the lists inside its observations permuted. -/
def PermutedBundle (value other : Value) : Prop :=
  ∃ record record', value = .dict record ∧ other = .dict record' ∧
    Revised ["pairs"] PermutedPairs record record'

section Revision
variable {keys : List String} {R : Value → Value → Prop} {record other : Dict}

theorem Revised.get (h : Revised keys R record other) (key : String) :
    other.get key = record.get key ∨ (key ∈ keys ∧ R (record.get key) (other.get key)) := by
  induction h with
  | nil => exact .inl rfl
  | @cons item item' rest rest' hitem _ ih =>
    obtain ⟨k, v⟩ := item
    obtain ⟨k', v'⟩ := item'
    obtain ⟨rfl, hvalue⟩ := hitem
    unfold Dict.get at ih ⊢
    rw [List.lookup_cons, List.lookup_cons]
    cases hk : key == k' with
    | false => exact ih
    | true =>
      obtain rfl := eq_of_beq hk
      exact hvalue

/-- The values the revision does not reach. -/
theorem Revised.get_eq (h : Revised keys R record other) {key : String} (hkey : key ∉ keys) :
    other.get key = record.get key :=
  (h.get key).resolve_right fun hrevised => hkey hrevised.1

end Revision

/-! ## Readers -/

section Readers

theorem agree_require {α : Type} (value : Option α) (message message' : String) :
    Agree Eq (require value message) (require value message') := by
  refine ⟨fun x y hx hy => ?_⟩
  rw [require_eq_ok] at hx hy
  exact Option.some.inj (hx.symm.trans hy)

theorem agree_readText (place place' : String) (record : Dict) (key : String) (limit : Nat) :
    Agree Eq (readText place record key limit) (readText place' record key limit) :=
  agree_require _ _ _

theorem agree_readOptionalText (place place' : String) (record : Dict) (key : String)
    (limit : Nat) : Agree Eq (readOptionalText place record key limit)
      (readOptionalText place' record key limit) := by
  unfold readOptionalText
  cases record.lookup key with
  | none => exact agree_self _
  | some value =>
    exact .same (agree_require ..) fun text => agree_self _

theorem agree_readMember (value : Value) (roster roster' : List String)
    (message message' : String) :
    Agree Eq (readMember value roster message) (readMember value roster' message') := by
  unfold readMember
  refine .skip fun _ _ => .skip fun _ _ => ?_
  cases value with
  | str s => exact agree_self _
  | none | bool _ | int _ | float _ _ | list _ | dict _ | object _ => exact ⟨fun _ _ h => nomatch h⟩

theorem agree_readIdentity (place place' : String) (record : Dict) (limit : Nat) :
    Agree Eq (readIdentity place record limit) (readIdentity place' record limit) := by
  unfold readIdentity
  refine .same (agree_readText ..) fun traceId => ?_
  refine .same (agree_readText ..) fun engineLifecycleId => ?_
  refine .same (agree_readText ..) fun requestId => ?_
  refine .same (agree_readText ..) fun clockDomain => ?_
  refine .same (agree_readOptionalText ..) fun batchId => ?_
  refine .same (agree_readOptionalText ..) fun stepId => ?_
  refine .same (agree_require ..) fun recoveryEpoch => ?_
  exact agree_self _

theorem agree_readEvent (place place' : String) (done done' : List NormalizedEvent)
    (value : Value) : Agree Eq (readEvent place done value) (readEvent place' done' value) := by
  unfold readEvent
  refine .same (agree_require ..) fun record => ?_
  refine .skip fun _ _ => ?_
  refine .same (agree_require ..) fun eventId => ?_
  refine .skip fun _ _ => ?_
  refine .same (agree_readIdentity ..) fun identity => ?_
  refine .same (agree_readText ..) fun evidenceSource => ?_
  refine .same (agree_readText ..) fun supportState => ?_
  refine .same (agree_readMember ..) fun scope => ?_
  refine .same (agree_readMember ..) fun component => ?_
  refine .same (agree_readMember ..) fun eventName => ?_
  refine .skip fun _ _ => ?_
  refine .same (agree_require ..) fun timestampNs => ?_
  exact agree_self _

theorem eventId_of_findEvent {events : List NormalizedEvent} {eventId : String}
    {event : NormalizedEvent} (h : findEvent events (.str eventId) = some event) :
    event.eventId = eventId :=
  of_decide_eq_true (List.find?_some (p := fun e : NormalizedEvent => e.eventId = eventId) h)

theorem spanId_of_findSpan {spans : List LifecycleSpan} {spanId : String} {span : LifecycleSpan}
    (h : findSpan spans (.str spanId) = some span) : span.spanId = spanId :=
  of_decide_eq_true (List.find?_some (p := fun s : LifecycleSpan => s.spanId = spanId) h)

/-- The event a field names has the name, in whichever list it is found. -/
theorem agree_findEvent (events events' : List NormalizedEvent) (value : Value)
    (message message' : String) :
    Agree (fun event event' => event.eventId = event'.eventId)
      (require (findEvent events value) message) (require (findEvent events' value) message') := by
  refine ⟨fun event event' hevent hevent' => ?_⟩
  rw [require_eq_ok] at hevent hevent'
  cases value with
  | str eventId => rw [eventId_of_findEvent hevent, eventId_of_findEvent hevent']
  | none | bool _ | int _ | float _ _ | list _ | dict _ | object _ => cases hevent

theorem agree_findSpan (spans spans' : List LifecycleSpan) (value : Value)
    (message message' : String) :
    Agree (fun span span' => span.spanId = span'.spanId)
      (require (findSpan spans value) message) (require (findSpan spans' value) message') := by
  refine ⟨fun span span' hspan hspan' => ?_⟩
  rw [require_eq_ok] at hspan hspan'
  cases value with
  | str spanId => rw [spanId_of_findSpan hspan, spanId_of_findSpan hspan']
  | none | bool _ | int _ | float _ _ | list _ | dict _ | object _ => cases hspan

theorem agree_readSpan (candidates candidates' : List String)
    (events events' : List NormalizedEvent) (place place' : String)
    (done done' : List LifecycleSpan) (value : Value) :
    Agree Eq (readSpan candidates events place done value)
      (readSpan candidates' events' place' done' value) := by
  unfold readSpan
  refine .same (agree_require ..) fun record => ?_
  refine .skip fun _ _ => ?_
  refine .same (agree_require ..) fun spanId => ?_
  refine .skip fun _ _ => ?_
  refine .bind (agree_findEvent ..) fun startEvent startEvent' hstart => ?_
  refine .bind (agree_findEvent ..) fun endEvent endEvent' hend => ?_
  refine .same (agree_readMember ..) fun candidateId => ?_
  refine .skip fun _ _ => ?_
  refine .same (agree_readIdentity ..) fun identity => ?_
  refine .same (agree_readText ..) fun owner => ?_
  refine .same (agree_readText ..) fun evidenceSource => ?_
  refine .same (agree_readText ..) fun supportState => ?_
  refine .same (agree_require ..) fun startNs => ?_
  refine .same (agree_require ..) fun endNs => ?_
  refine .skip fun _ _ => ?_
  refine .same (agree_require ..) fun accounted => ?_
  refine .skip fun _ _ => .skip fun _ _ => .skip fun _ _ => ?_
  rw [hstart, hend]
  exact agree_self _

theorem agree_readEdge (spans spans' : List LifecycleSpan) (place place' : String)
    (done done' : List LifecycleEdge) (value : Value) :
    Agree Eq (readEdge spans place done value) (readEdge spans' place' done' value) := by
  unfold readEdge
  refine .same (agree_require ..) fun record => ?_
  refine .skip fun _ _ => ?_
  refine .bind (agree_findSpan ..) fun source source' hsource => ?_
  refine .bind (agree_findSpan ..) fun target target' htarget => ?_
  refine .same (agree_readMember ..) fun kind => ?_
  refine .skip fun _ _ => .skip fun _ _ => .skip fun _ _ => ?_
  rw [hsource, htarget]
  exact agree_self _

theorem agree_readLink (spans spans' : List LifecycleSpan) (place place' : String)
    (done done' : List TraceloomLink) (value : Value) :
    Agree Eq (readLink spans place done value) (readLink spans' place' done' value) := by
  unfold readLink
  refine .same (agree_require ..) fun record => ?_
  refine .skip fun _ _ => ?_
  refine .same (agree_readMember ..) fun linkKind => ?_
  refine .skip fun _ _ => ?_
  refine .bind (agree_findSpan ..) fun span span' hspan => ?_
  refine .same (agree_readIdentity ..) fun identity => ?_
  refine .same (agree_readText ..) fun owner => ?_
  refine .same (agree_readText ..) fun supportState => ?_
  refine .skip fun _ _ => .skip fun _ _ => .skip fun _ _ => .skip fun _ _ => .skip fun _ _ => ?_
  rw [hspan]
  exact agree_self _

theorem agree_readMetrics (place place' : String) (value : Value) :
    Agree Eq (readMetrics place value) (readMetrics place' value) := by
  unfold readMetrics
  refine .same (agree_require ..) fun record => .skip fun _ _ => ?_
  refine .same (agree_mapM (fun item => ?_) record) fun values => ?_
  · exact .same (agree_require ..) fun metric => .skip fun _ _ => agree_self _
  · exact .same (agree_require ..) fun errorCount => agree_self _

theorem agree_readEvidenceStatus (place place' : String) (value : Value) :
    Agree Eq (readEvidenceStatus place value) (readEvidenceStatus place' value) := by
  unfold readEvidenceStatus
  refine .same (agree_require ..) fun record => .skip fun _ _ => ?_
  refine .same (agree_require ..) fun identityComplete => ?_
  refine .same (agree_require ..) fun clockAmbiguous => ?_
  refine .same (agree_require ..) fun configurationMatched => ?_
  exact .same (agree_require ..) fun eventLossCount => agree_self _

theorem agree_readMatching (place place' : String) (value : Value) :
    Agree Eq (readMatching place value) (readMatching place' value) := by
  unfold readMatching
  refine .same (agree_require ..) fun record => .skip fun _ _ => ?_
  refine .same (agree_readText ..) fun workloadId => ?_
  refine .same (agree_readText ..) fun requestOrderId => ?_
  refine .same (agree_require ..) fun promptTokens => ?_
  refine .same (agree_require ..) fun outputTokens => ?_
  refine .same (agree_require ..) fun concurrency => ?_
  refine .same (agree_require ..) fun items => .skip fun _ _ => ?_
  exact .same (agree_mapM (fun item => agree_require ..) items) fun batchShape => agree_self _

end Readers

/-! ## Lists of records -/

section Lists
variable {α : Type} {body body' : Nat → List α → Value → Except PyError α}

/-- Each record a loop returns was read from its value. -/
theorem forall₂_of_readEach {values : List Value} {done out : List α}
    (h : readEach body done values = .ok out) : ∃ new, out = done ++ new ∧
      List.Forall₂ (fun value x => ∃ i done, body i done value = .ok x) values new := by
  induction values generalizing done with
  | nil =>
    obtain rfl : done = out := Except.ok.inj h
    exact ⟨[], (List.append_nil _).symm, .nil⟩
  | cons value rest ih =>
    rw [readEach, bind_eq_ok] at h
    obtain ⟨record, hrecord, hrest⟩ := h
    obtain ⟨new, rfl, hnew⟩ := ih hrest
    exact ⟨record :: new, by rw [List.append_assoc, List.singleton_append],
      .cons ⟨_, _, hrecord⟩ hnew⟩

theorem agree_readEach_permuted
    (h : ∀ i i' done done' value, Agree Eq (body i done value) (body' i' done' value))
    {values values' : List Value} (hperm : values'.Perm values) :
    Agree (fun out out' => out'.Perm out) (readEach body [] values)
      (readEach body' [] values') := by
  refine ⟨fun out out' hout hout' => ?_⟩
  obtain ⟨_, rfl, hread⟩ := forall₂_of_readEach hout
  obtain ⟨_, rfl, hread'⟩ := forall₂_of_readEach hout'
  refine perm_of_forall₂ ?_ hperm hread hread'
  rintro value x y ⟨i, done, hx⟩ ⟨i', done', hy⟩
  exact (h i i' done done' value).out x y hx hy

theorem agree_readEach {R : Value → Value → Prop} {S : α → α → Prop}
    (h : ∀ i i' done done' value value', R value value' →
      Agree S (body i done value) (body' i' done' value'))
    {values values' : List Value} (hvalues : List.Forall₂ R values values') :
    Agree (List.Forall₂ S) (readEach body [] values) (readEach body' [] values') := by
  refine ⟨fun out out' hout hout' => ?_⟩
  obtain ⟨_, rfl, hread⟩ := forall₂_of_readEach hout
  obtain ⟨_, rfl, hread'⟩ := forall₂_of_readEach hout'
  clear hout hout'
  induction hvalues generalizing out out' with
  | nil =>
    cases hread
    cases hread'
    exact .nil
  | cons hvalue _ ih =>
    obtain _ | ⟨⟨i, done, hx⟩, hrest⟩ := hread
    obtain _ | ⟨⟨i', done', hy⟩, hrest'⟩ := hread'
    exact .cons ((h i i' done done' _ _ hvalue).out _ _ hx hy) (ih _ _ hrest hrest')

theorem agree_readEach_same
    (h : ∀ i i' done done' value, Agree Eq (body i done value) (body' i' done' value))
    (values : List Value) : Agree Eq (readEach body [] values) (readEach body' [] values) := by
  refine ⟨fun out out' hout hout' => ?_⟩
  obtain ⟨_, rfl, hread⟩ := forall₂_of_readEach hout
  obtain ⟨_, rfl, hread'⟩ := forall₂_of_readEach hout'
  refine (eq_of_forall₂ ?_ hread hread').symm
  rintro value x y ⟨i, done, hx⟩ ⟨i', done', hy⟩
  exact (h i i' done done' value).out x y hx hy

theorem agree_readCollection_same {record record' : Dict} {key : String}
    (h : record'.get key = record.get key) (place place' : String) :
    Agree Eq (readCollection place record key) (readCollection place' record' key) := by
  unfold readCollection
  rw [h]
  exact .same (agree_require ..) fun items => .skip fun _ _ => agree_self _

theorem agree_readCollection {keys : List String} {record record' : Dict}
    (h : Revised keys PermutedItems record record') (place place' key : String) :
    Agree (fun items items' => items'.Perm items) (readCollection place record key)
      (readCollection place' record' key) := by
  unfold readCollection
  refine .bind (R := fun items items' => items'.Perm items) ?_ fun items items' hitems =>
    .skip fun _ _ => agree_pure hitems
  refine ⟨fun items items' hitems hitems' => ?_⟩
  rw [require_eq_ok] at hitems hitems'
  rcases h.get key with heq | ⟨-, xs, ys, hxs, hys, hperm⟩
  · rw [heq] at hitems'
    exact List.Perm.of_eq (Option.some.inj (hitems'.symm.trans hitems))
  · rw [hxs] at hitems
    rw [hys] at hitems'
    cases hitems
    cases hitems'
    exact hperm

end Lists

/-! ## Observations, pairs and bundles -/

theorem agree_mapping (record record' : Dict) (message message' : String) :
    Agree (fun r r' => r = record ∧ r' = record') (require (asMapping (.dict record)) message)
      (require (asMapping (.dict record')) message') := by
  refine ⟨?_⟩
  rintro r r' ⟨⟩ ⟨⟩
  exact ⟨rfl, rfl⟩

theorem revised_self {keys : List String} {R : Value → Value → Prop} (record : Dict) :
    Revised keys R record record :=
  List.forall₂_same.mpr fun _ _ => ⟨rfl, .inl rfl⟩

section Bundles
variable {depth depth' : Nat} {candidates candidates' : List String} {value value' : Value}

theorem agree_permutedObservation (runIds runIds' : List String) (place place' : String)
    (h : PermutedObservation value value') :
    Agree Observation.Reordered (readObservation depth candidates runIds place value)
      (readObservation depth' candidates' runIds' place' value') := by
  obtain ⟨record, record', rfl, rfl, hrevised⟩ := h
  unfold readObservation readText
  refine .bind (agree_mapping ..) ?_
  rintro _ _ ⟨rfl, rfl⟩
  rw [hrevised.get_eq (by decide : "run_id" ∉ _),
    hrevised.get_eq (by decide : "configuration_id" ∉ _),
    hrevised.get_eq (by decide : "clock_model_id" ∉ _),
    hrevised.get_eq (by decide : "metrics" ∉ _),
    hrevised.get_eq (by decide : "evidence_status" ∉ _)]
  refine .skip fun _ _ => ?_
  refine .same (agree_require ..) fun runId => .skip fun _ _ => ?_
  refine .same (agree_require ..) fun configurationId => ?_
  refine .same (agree_require ..) fun clockModelId => ?_
  refine .same (agree_readMetrics ..) fun metrics => ?_
  refine .same (agree_readEvidenceStatus ..) fun evidenceStatus => ?_
  refine .bind (agree_readCollection hrevised ..) fun eventItems eventItems' hevents => ?_
  refine .bind (agree_readCollection hrevised ..) fun spanItems spanItems' hspans => ?_
  refine .bind (agree_readCollection hrevised ..) fun edgeItems edgeItems' hedges => ?_
  refine .same (agree_readCollection_same (hrevised.get_eq (by decide)) ..) fun linkItems => ?_
  refine .skip fun _ _ => ?_
  refine .bind (agree_readEach_permuted ?_ hevents) fun events events' hevents => ?_
  · exact fun _ _ _ _ _ => agree_readEvent ..
  refine .bind (agree_readEach_permuted ?_ hspans) fun spans spans' hspans => ?_
  · exact fun _ _ _ _ _ => agree_readSpan ..
  refine .bind (agree_readEach_permuted ?_ hedges) fun edges edges' hedges => ?_
  · exact fun _ _ _ _ _ => agree_readEdge ..
  refine .skip fun _ _ => .skip fun _ _ => ?_
  refine .same (agree_readEach_same ?_ linkItems) fun links => ?_
  · exact fun _ _ _ _ _ => agree_readLink ..
  exact .skip fun _ _ => agree_pure (.mk hevents hspans hedges)

/-- An observation is read as the same one in another order. -/
theorem agree_readObservation (runIds runIds' : List String) (place place' : String)
    (h : value' = value ∨ PermutedObservation value value') :
    Agree Observation.Reordered (readObservation depth candidates runIds place value)
      (readObservation depth' candidates' runIds' place' value') := by
  rcases h with rfl | h
  · cases value' with
    | dict record =>
      exact agree_permutedObservation _ _ _ _ ⟨record, record, rfl, rfl, revised_self record⟩
    | none | bool _ | int _ | float _ _ | str _ | list _ | object _ => exact .raises rfl
  · exact agree_permutedObservation _ _ _ _ h

theorem agree_permutedPair (done done' : List MatchedPair) (place place' : String)
    (h : PermutedPair value value') :
    Agree MatchedPair.Reordered (readPair depth candidates place done value)
      (readPair depth' candidates' place' done' value') := by
  obtain ⟨record, record', rfl, rfl, hrevised⟩ := h
  unfold readPair
  refine .bind (agree_mapping ..) ?_
  rintro _ _ ⟨rfl, rfl⟩
  rw [hrevised.get_eq (by decide : "pair_id" ∉ _),
    hrevised.get_eq (by decide : "order" ∉ _), hrevised.get_eq (by decide : "matching" ∉ _)]
  refine .skip fun _ _ => ?_
  refine .same (agree_require ..) fun pairId => .skip fun _ _ => ?_
  refine .same (agree_readMember ..) fun order => ?_
  refine .same (agree_readMatching ..) fun matching => ?_
  refine .bind (agree_readObservation _ _ _ _ ((hrevised.get "baseline").imp_right And.right))
    fun baseline baseline' hbaseline => ?_
  refine .bind (agree_readObservation _ _ _ _ ((hrevised.get "treatment").imp_right And.right))
    fun treatment treatment' htreatment => ?_
  exact .skip fun _ _ => .skip fun _ _ => agree_pure (.mk hbaseline htreatment)

theorem agree_readPair (done done' : List MatchedPair) (place place' : String)
    (h : value' = value ∨ PermutedPair value value') :
    Agree MatchedPair.Reordered (readPair depth candidates place done value)
      (readPair depth' candidates' place' done' value') := by
  rcases h with rfl | h
  · cases value' with
    | dict record =>
      exact agree_permutedPair _ _ _ _ ⟨record, record, rfl, rfl, revised_self record⟩
    | none | bool _ | int _ | float _ _ | str _ | list _ | object _ => exact .raises rfl
  · exact agree_permutedPair _ _ _ _ h

/-- The pairs of a bundle, permuted inside. -/
theorem agree_pairItems {record record' : Dict} (h : Revised ["pairs"] PermutedPairs record record')
    (message message' : String) :
    Agree (List.Forall₂ fun item item' => item' = item ∨ PermutedPair item item')
      (require (asList (record.get "pairs")) message)
      (require (asList (record'.get "pairs")) message') := by
  refine ⟨fun items items' hitems hitems' => ?_⟩
  rw [require_eq_ok] at hitems hitems'
  rcases h.get "pairs" with heq | ⟨-, xs, ys, hxs, hys, hpairs⟩
  · rw [heq] at hitems'
    obtain rfl := Option.some.inj (hitems'.symm.trans hitems)
    exact List.forall₂_same.mpr fun _ _ => .inl rfl
  · rw [hxs] at hitems
    rw [hys] at hitems'
    cases hitems
    cases hitems'
    exact hpairs.imp fun _ _ hpair => .inr hpair

/-- A permuted bundle is read as the same bundle in another order. -/
theorem agree_validateCaseBundle {candidateIds otherIds : List String}
    (h : PermutedBundle value value') :
    Agree CaseBundle.Reordered (validateCaseBundle depth value candidateIds)
      (validateCaseBundle depth' value' otherIds) := by
  obtain ⟨record, record', rfl, rfl, hrevised⟩ := h
  unfold validateCaseBundle
  refine .skip fun _ _ => .skip fun _ _ => .skip fun _ _ => ?_
  refine .bind (agree_mapping ..) ?_
  rintro _ _ ⟨rfl, rfl⟩
  rw [hrevised.get_eq (by decide : "case_id" ∉ _)]
  refine .skip fun _ _ => .skip fun _ _ => ?_
  refine .same (agree_require ..) fun caseId => .skip fun _ _ => ?_
  refine .bind (agree_pairItems hrevised ..) fun items items' hitems => ?_
  refine .skip fun _ _ => .skip fun _ _ => .skip fun _ _ => ?_
  refine .bind (R := List.Forall₂ MatchedPair.Reordered) (agree_readEach ?_ hitems)
    fun pairs pairs' hpairs => agree_pure ⟨rfl, hpairs⟩
  exact fun _ _ _ _ _ _ hpair => agree_readPair _ _ _ _ hpair

end Bundles

/-! ## The result -/

theorem exists_reasons {env : Environment} {o : Observation} (h : o.traceloomLinks = []) :
    ∃ reasons, observationReasons env o = .ok reasons := by
  rw [observationReasons, verifyTraceloomEvidence_of_unlinked h]
  exact ⟨_, rfl⟩

theorem exists_evidence {env : Environment} {pairs : List MatchedPair}
    (h : ∀ o ∈ observations pairs, o.traceloomLinks = []) :
    ∃ evidence, evidenceReasons env pairs = .ok evidence := by
  have hall : ∀ os : List Observation, (∀ o ∈ os, o.traceloomLinks = []) →
      ∃ reasons, os.mapM (observationReasons env) = .ok reasons := by
    intro os hos
    induction os with
    | nil => exact ⟨[], rfl⟩
    | cons o rest ih =>
      obtain ⟨reasons, hreasons⟩ := @exists_reasons env _ (hos o List.mem_cons_self)
      obtain ⟨others, hothers⟩ := ih fun o ho => hos o (List.mem_cons_of_mem _ ho)
      exact ⟨reasons :: others, by rw [List.mapM_cons, hreasons, ok_bind, hothers]; rfl⟩
  obtain ⟨reasons, hreasons⟩ := hall _ h
  rw [evidenceReasons, hreasons]
  exact ⟨_, rfl⟩

/-- **Order independence.** An accepted bundle without links scores, and with
the candidates and the lists inside its observations in another order it scores
the same, read again from permuted JSON or not. -/
theorem scoring_order_independent {env : Environment} {depth : Nat} {value : Value}
    {bundle : CaseBundle} {candidateIds : List String} {floor : ℚ}
    (hbundle : validateCaseBundle depth value candidateIds = .ok bundle)
    (hlinks : ∀ o ∈ observations bundle.pairs, o.traceloomLinks = []) :
    ∃ r, scoreValidatedCase env bundle candidateIds floor = .ok r ∧
      ∀ otherIds : List String, otherIds.Perm candidateIds →
        (∀ other, bundle.Reordered other →
          scoreValidatedCase env other otherIds floor = .ok r) ∧
        ∀ value' depth' other, PermutedBundle value value' →
          validateCaseBundle depth' value' otherIds = .ok other →
          scoreValidatedCase env other otherIds floor = .ok r := by
  obtain ⟨evidence, hevidence⟩ := @exists_evidence env _ hlinks
  obtain ⟨r, hr⟩ : ∃ r, scoreValidatedCase env bundle candidateIds floor = .ok r :=
    exists_scored hevidence
  have hreordered : ∀ otherIds : List String, otherIds.Perm candidateIds → ∀ other,
      bundle.Reordered other → scoreValidatedCase env other otherIds floor = .ok r := by
    intro otherIds hids other hother
    rw [scoreValidatedCase_reordered hother hids hlinks, hr]
  refine ⟨r, hr, fun otherIds hids => ⟨hreordered otherIds hids, ?_⟩⟩
  intro value' depth' other hvalue hother
  exact hreordered otherIds hids other
    ((agree_validateCaseBundle hvalue).out bundle other hbundle hother)

namespace Sample

/-- The observation with its lists reversed. -/
def reversed (o : Observation) : Observation :=
  { o with
    normalizedEvents := o.normalizedEvents.reverse
    lifecycleSpans := o.lifecycleSpans.reverse
    lifecycleEdges := o.lifecycleEdges.reverse }

def reversedBundle (bundle : CaseBundle) : CaseBundle :=
  { bundle with
    pairs := bundle.pairs.map fun pair =>
      { pair with baseline := reversed pair.baseline, treatment := reversed pair.treatment } }

theorem reordered_reversed (o : Observation) : o.Reordered (reversed o) :=
  .mk (List.reverse_perm _) (List.reverse_perm _) (List.reverse_perm _)

theorem reordered_reversedBundle (bundle : CaseBundle) :
    bundle.Reordered (reversedBundle bundle) := by
  refine ⟨rfl, List.forall₂_map_right_iff.mpr (List.forall₂_same.mpr fun pair _ => ?_)⟩
  exact .mk (reordered_reversed pair.baseline) (reordered_reversed pair.treatment)

end Sample

theorem scoring_order_independent_reversed : ∃ bundle r,
    validateCaseBundle Sample.env.recursionDepth (Sample.bundleValue Sample.handoff)
      Sample.candidateIds = .ok bundle ∧
    scoreValidatedCase Sample.env bundle Sample.candidateIds 5 = .ok r ∧
    scoreValidatedCase Sample.env (Sample.reversedBundle bundle) Sample.candidateIds.reverse 5 =
      .ok r := by
  have hunlinked : Sample.accepts Sample.handoff (fun bundle =>
      (observations bundle.pairs).all (·.traceloomLinks.isEmpty)) = true := by decide +kernel
  obtain ⟨bundle, _, hbundle, hlinks, -⟩ := exists_scored_sample hunlinked
  have hnone : ∀ o ∈ observations bundle.pairs, o.traceloomLinks = [] := fun o ho =>
    List.isEmpty_iff.mp (List.all_eq_true.mp hlinks o ho)
  obtain ⟨r, hr, hother⟩ := @scoring_order_independent Sample.env _ _ _ _ 5 hbundle hnone
  exact ⟨bundle, r, hbundle, hr, (hother _ (List.reverse_perm _)).1 _
    (Sample.reordered_reversedBundle bundle)⟩

end LifecycleProfiler.Blind
