import LifecycleProfiler.General.Transition
import LifecycleProfiler.Runtime.Linearity

/-! # The active requests of the lifecycle observer

`Issue19LifecycleObserver.request_started` and `request_terminal`. Each call
takes two locks in turn, the bridge's and the observer's, so it is two
transitions, and the steps of other threads may come between them. -/

namespace LifecycleProfiler.Runtime
open Python Protocol General

def terminalCauses : List String :=
  ["complete", "client_disconnect", "client_timeout", "explicit_cancel", "engine_failure", "error"]

/-- A call in progress, at the step it takes next: `request_started` registers
and then inserts, `request_terminal` emits and then discards. -/
inductive ObserverCall where
  | registering (requestId : String)
  | inserting (requestId : String)
  | emitting (requestId cause : String) (generated : Int)
  | discarding (requestId : String)
  deriving DecidableEq

namespace ObserverCall

def requestId : ObserverCall → String
  | registering id | inserting id | emitting id _ _ | discarding id => id

/-- The call is a `request_started`. -/
def isStart : ObserverCall → Bool
  | registering _ | inserting _ => true
  | emitting .. | discarding _ => false

/-- The call is the `request_started` of the request. -/
def starts (id : String) (call : ObserverCall) : Bool := call.isStart && call.requestId = id

theorem starts_iff {id : String} {call : ObserverCall} :
    call.starts id = true ↔ call.isStart = true ∧ call.requestId = id := by
  simp [starts]

end ObserverCall

/-- The observer, its bridge and the calls in progress, one for each thread
inside the observer. The last three fields are history: the requests started,
those the bridge has registered, and those for which a terminal with a valid
cause has returned after that. -/
structure LifecycleObserver where
  bridge : Bridge
  runId : String
  capacity : Nat
  activeRequests : List String := []
  calls : List ObserverCall := []
  started : List String := []
  registered : List String := []
  terminated : List String := []

namespace LifecycleObserver

/-- `snapshot()["active_request_ids"]` -/
def snapshot (o : LifecycleObserver) : List String :=
  o.activeRequests.mergeSort fun a b => decide (a ≤ b)

/-- A call begins, or a call in progress takes its next step. The clock is read
outside the locks and may raise (`none`). -/
inductive Action where
  | requestStarted (requestId : String)
  | requestTerminal (requestId cause : String) (generated : Int)
  | advance (call : ObserverCall) (clock : Option Int)

/-- The next step of a call. A call that has no further step is no longer in
progress; `request_terminal` discards in its `finally`. -/
def advance (sha256 : Bytes → String) (o : LifecycleObserver) (call : ObserverCall)
    (clock : Option Int) : LifecycleObserver :=
  let o := { o with calls := o.calls.erase call }
  match call, clock with
  | .registering _, none => o
  | .registering id, some timestampNs =>
    match o.bridge.registerRuntimeRequest sha256 o.runId id timestampNs with
    | (bridge, false) => { o with bridge := bridge }
    | (bridge, true) =>
      { o with
          bridge := bridge
          calls := .inserting id :: o.calls
          registered := id :: o.registered }
  | .inserting id, _ =>
    if o.activeRequests.length < o.capacity then
      { o with activeRequests := o.activeRequests.insert id }
    else o
  | .emitting id _ _, none => { o with calls := .discarding id :: o.calls }
  | .emitting id cause generated, some timestampNs =>
    { o with
        bridge := (o.bridge.emitRuntimeTerminal id cause timestampNs generated).1
        calls := .discarding id :: o.calls }
  | .discarding id, _ =>
    { o with
        activeRequests := o.activeRequests.filter (· ≠ id)
        terminated := if id ∈ o.registered then id :: o.terminated else o.terminated }

def step (sha256 : Bytes → String) (o : LifecycleObserver) : Action → Option LifecycleObserver
  | .requestStarted id =>
    some { o with calls := .registering id :: o.calls, started := id :: o.started }
  | .requestTerminal id cause generated =>
    if cause ∈ terminalCauses then some { o with calls := .emitting id cause generated :: o.calls }
    else some o
  | .advance call clock => if call ∈ o.calls then some (o.advance sha256 call clock) else none

/-- An observer no call has entered, over a fresh bridge. -/
def start (hooks : Hooks) (bridgeCapacity capacity : Nat) (runId : String) : LifecycleObserver where
  bridge := Bridge.start hooks bridgeCapacity
  runId := runId
  capacity := capacity

/-- Every request is started at most once. -/
def StartsOnce (o : LifecycleObserver) : Action → Prop
  | .requestStarted id => id ∉ o.started
  | _ => True

/-- A terminal with a valid cause has returned for the request after the bridge
had registered it, and no call for the request is in progress. -/
def Finished (o : LifecycleObserver) (id : String) : Prop :=
  id ∈ o.terminated ∧ ∀ call ∈ o.calls, call.requestId ≠ id

def NoGhost (o : LifecycleObserver) : Prop := ∀ id, o.Finished id → id ∉ o.snapshot

/-- A `request_started` about to insert its request is in time: no terminal of
the request has returned since the registration, or the set is full, or another
call for the request is still in progress. -/
def InsertsInTime (o : LifecycleObserver) : Action → Prop
  | .advance (.inserting id) _ =>
    .inserting id ∈ o.calls → id ∈ o.terminated → o.activeRequests.length < o.capacity →
      ∃ call ∈ o.calls.erase (.inserting id), call.requestId = id
  | _ => True

instance (o : LifecycleObserver) (action : Action) : Decidable (o.StartsOnce action) := by
  unfold StartsOnce
  split <;> infer_instance

/-! ## Who may still clean up -/

/-- At most one `request_started` of a request is in progress, none before it is
started, and an active request that was terminated has a terminal on its way. -/
structure Tidy (o : LifecycleObserver) : Prop where
  once : ∀ id, o.calls.countP (·.starts id) ≤ 1
  fresh : ∀ id, id ∉ o.started → o.calls.countP (·.starts id) = 0
  pending : ∀ id ∈ o.activeRequests, id ∈ o.terminated →
    ∃ call ∈ o.calls, call.requestId = id ∧ call.isStart = false

variable {sha256 : Bytes → String} {o o' : LifecycleObserver} {call : ObserverCall}

theorem mem_snapshot {id : String} : id ∈ o.snapshot ↔ id ∈ o.activeRequests := List.mem_mergeSort

theorem Tidy.noGhost (h : Tidy o) : NoGhost o := by
  intro id hfinished hactive
  obtain ⟨call, hcall, hid, -⟩ := h.pending id (mem_snapshot.mp hactive) hfinished.1
  exact hfinished.2 call hcall hid

theorem tidy_start (hooks : Hooks) (bridgeCapacity capacity : Nat) (runId : String) :
    Tidy (start hooks bridgeCapacity capacity runId) :=
  ⟨fun _ => Nat.zero_le 1, fun _ _ => rfl, nofun⟩

/-- A step of a call in progress, as what happens to the calls. -/
theorem countP_erase_add (hcall : call ∈ o.calls) (id : String) :
    (o.calls.erase call).countP (·.starts id) + (if call.starts id then 1 else 0) =
      o.calls.countP (·.starts id) := by
  rw [(List.perm_cons_erase hcall).countP_eq, List.countP_cons]

/-- Erasing a start keeps the terminals in progress. -/
theorem mem_erase_start {other : ObserverCall} (hother : other ∈ o.calls)
    (hterminal : other.isStart = false) (hcall : call.isStart = true) :
    other ∈ o.calls.erase call := by
  refine (List.mem_erase_of_ne ?_).mpr hother
  rintro rfl
  rw [hterminal] at hcall
  cases hcall

/-- A step of a start that leaves the active set as it was. -/
theorem Tidy.startStep (h : Tidy o) {id : String} (hcall : call ∈ o.calls)
    (hstarts : call.starts id = true) (hstart : call.isStart = true)
    (hcalls : o'.calls = o.calls.erase call ∨ o'.calls = .inserting id :: o.calls.erase call)
    (hstarted : o'.started = o.started) (hactive : o'.activeRequests = o.activeRequests)
    (hterminated : o'.terminated = o.terminated) : Tidy o' := by
  have hcount : ∀ other, o'.calls.countP (·.starts other) ≤ o.calls.countP (·.starts other) := by
    intro other
    have hsum := countP_erase_add hcall other
    rcases hcalls with hcalls | hcalls
    · rw [hcalls]
      omega
    · rw [hcalls, List.countP_cons]
      by_cases hother : other = id
      · subst hother
        rw [if_pos hstarts] at hsum
        split <;> omega
      · rw [if_neg fun h => hother (ObserverCall.starts_iff.mp h).2.symm]
        omega
  refine ⟨fun other => (hcount other).trans (h.once other), fun other hfresh => ?_,
    fun other hother hdone => ?_⟩
  · have := hcount other
    rw [h.fresh other (hstarted ▸ hfresh)] at this
    omega
  · obtain ⟨terminal, hmem, hid, hterminal⟩ :=
      h.pending other (hactive ▸ hother) (hterminated ▸ hdone)
    have hkept := mem_erase_start hmem hterminal hstart
    refine ⟨terminal, ?_, hid, hterminal⟩
    rcases hcalls with hcalls | hcalls
    · exact hcalls ▸ hkept
    · exact hcalls ▸ List.mem_cons_of_mem _ hkept

/-- The insertion of a start, when it is in time. -/
theorem Tidy.inserts (h : Tidy o) {id : String} (hcall : .inserting id ∈ o.calls)
    (htime : id ∈ o.terminated → o.activeRequests.length < o.capacity →
      ∃ call ∈ o.calls.erase (.inserting id), call.requestId = id)
    (hroom : o.activeRequests.length < o.capacity) :
    Tidy { o with
      calls := o.calls.erase (.inserting id), activeRequests := o.activeRequests.insert id } := by
  have hleft : Tidy { o with calls := o.calls.erase (.inserting id) } :=
    h.startStep hcall (ObserverCall.starts_iff.mpr ⟨rfl, rfl⟩) rfl (.inl rfl) rfl rfl rfl
  refine ⟨hleft.once, hleft.fresh, fun other hother hdone => ?_⟩
  rcases List.mem_insert_iff.mp hother with rfl | hother
  · obtain ⟨terminal, hmem, hid⟩ := htime hdone hroom
    refine ⟨terminal, hmem, hid, ?_⟩
    -- the only start of the request is the one that inserts
    have hsum := countP_erase_add hcall other
    have honce := h.once other
    have hstarts : (ObserverCall.inserting other).starts other = true :=
      ObserverCall.starts_iff.mpr ⟨rfl, rfl⟩
    rw [if_pos hstarts] at hsum
    have hnone : (o.calls.erase (.inserting other)).countP (·.starts other) = 0 := by omega
    have hother := List.countP_eq_zero.mp hnone terminal hmem
    simpa [ObserverCall.starts, hid] using hother
  · exact hleft.pending other hother hdone

/-- The two steps of a terminal: it stays in progress until it discards. -/
theorem Tidy.emits (h : Tidy o) {id : String} (hcall : call ∈ o.calls)
    (hstart : call.isStart = false) (hid : call.requestId = id) (bridge : Bridge) :
    Tidy { o with bridge := bridge, calls := .discarding id :: o.calls.erase call } := by
  have hcount : ∀ other, (ObserverCall.discarding id :: o.calls.erase call).countP
      (·.starts other) = o.calls.countP (·.starts other) := by
    intro other
    have hsum := countP_erase_add hcall other
    rw [if_neg (by simp [ObserverCall.starts, hstart])] at hsum
    rw [List.countP_cons, if_neg (by simp [ObserverCall.starts, ObserverCall.isStart])]
    omega
  refine ⟨fun other => (hcount other).trans_le (h.once other),
    fun other hfresh => (hcount other).trans (h.fresh other hfresh),
    fun other hother hdone => ?_⟩
  obtain ⟨terminal, hmem, heq, hterminal⟩ := h.pending other hother hdone
  by_cases hsame : terminal = call
  · subst hsame
    exact ⟨.discarding id, List.mem_cons_self, hid.symm.trans heq, rfl⟩
  · exact ⟨terminal, List.mem_cons_of_mem _ ((List.mem_erase_of_ne hsame).mpr hmem), heq,
      hterminal⟩

theorem Tidy.discards (h : Tidy o) {id : String} (hcall : .discarding id ∈ o.calls) :
    Tidy { o with
      calls := o.calls.erase (.discarding id)
      activeRequests := o.activeRequests.filter (· ≠ id)
      terminated := if id ∈ o.registered then id :: o.terminated else o.terminated } := by
  have hcount : ∀ other, (o.calls.erase (.discarding id)).countP (·.starts other) =
      o.calls.countP (·.starts other) := fun other => countP_erase_add hcall other
  refine ⟨fun other => (hcount other).trans_le (h.once other),
    fun other hfresh => (hcount other).trans (h.fresh other hfresh),
    fun other hother hdone => ?_⟩
  obtain ⟨hactive, hne⟩ : other ∈ o.activeRequests ∧ other ≠ id := by
    simpa using List.mem_filter.mp hother
  have hdone : other ∈ o.terminated := by
    dsimp only at hdone
    split at hdone
    · exact (List.mem_cons.mp hdone).resolve_left hne
    · exact hdone
  obtain ⟨terminal, hmem, hid, hterminal⟩ := h.pending other hactive hdone
  refine ⟨terminal, (List.mem_erase_of_ne ?_).mpr hmem, hid, hterminal⟩
  rintro rfl
  exact hne hid.symm

theorem Tidy.advance (h : Tidy o) (hcall : call ∈ o.calls) (clock : Option Int)
    (htime : o.InsertsInTime (.advance call clock)) : Tidy (o.advance sha256 call clock) := by
  unfold LifecycleObserver.advance
  dsimp only
  cases call with
  | registering id =>
    have hstarts : (ObserverCall.registering id).starts id = true :=
      ObserverCall.starts_iff.mpr ⟨rfl, rfl⟩
    cases clock with
    | none => exact h.startStep hcall hstarts rfl (.inl rfl) rfl rfl rfl
    | some timestampNs =>
      dsimp only
      split
      · exact h.startStep hcall hstarts rfl (.inl rfl) rfl rfl rfl
      · exact h.startStep hcall hstarts rfl (.inr rfl) rfl rfl rfl
  | inserting id =>
    dsimp only
    split
    · next hroom => exact h.inserts hcall (htime hcall) hroom
    · exact h.startStep hcall (ObserverCall.starts_iff.mpr ⟨rfl, rfl⟩) rfl (.inl rfl) rfl rfl rfl
  | emitting id cause generated =>
    cases clock with
    | none => exact h.emits hcall rfl rfl o.bridge
    | some timestampNs => exact h.emits hcall rfl rfl _
  | discarding id => exact h.discards hcall

theorem Tidy.step (h : Tidy o) {action : Action} (honce : o.StartsOnce action)
    (htime : o.InsertsInTime action) (hstep : o.step sha256 action = some o') : Tidy o' := by
  cases action with
  | requestStarted id =>
    cases hstep
    refine ⟨fun other => ?_, fun other hfresh => ?_, fun other hother hdone => ?_⟩
    · dsimp only
      rw [List.countP_cons]
      by_cases hother : id = other
      · subst hother
        rw [h.fresh id honce]
        split <;> omega
      · have hnot : ¬(ObserverCall.registering id).starts other = true := fun h =>
          hother (ObserverCall.starts_iff.mp h).2
        rw [if_neg hnot]
        exact h.once other
    · dsimp only at hfresh ⊢
      rw [List.mem_cons, not_or] at hfresh
      rw [List.countP_cons, h.fresh other hfresh.2,
        if_neg fun h => hfresh.1 (ObserverCall.starts_iff.mp h).2.symm]
    · obtain ⟨terminal, hmem, hid⟩ := h.pending other hother hdone
      exact ⟨terminal, List.mem_cons_of_mem _ hmem, hid⟩
  | requestTerminal id cause generated =>
    rw [LifecycleObserver.step] at hstep
    split at hstep
    · cases hstep
      have hcount : ∀ other, (ObserverCall.emitting id cause generated :: o.calls).countP
          (·.starts other) = o.calls.countP (·.starts other) := fun other => by
        rw [List.countP_cons, if_neg (by simp [ObserverCall.starts, ObserverCall.isStart])]
        rfl
      refine ⟨fun other => (hcount other).trans_le (h.once other),
        fun other hfresh => (hcount other).trans (h.fresh other hfresh),
        fun other hother hdone => ?_⟩
      obtain ⟨terminal, hmem, hid⟩ := h.pending other hother hdone
      exact ⟨terminal, List.mem_cons_of_mem _ hmem, hid⟩
    · cases hstep
      exact h
  | advance call clock =>
    rw [LifecycleObserver.step] at hstep
    split at hstep
    · next hcall =>
      cases hstep
      exact h.advance hcall clock htime
    · cases hstep

/-- A step that leaves no ghost inserted in time. -/
theorem insertsInTime_of_noGhost {action : Action}
    (h : ∀ o', o.step sha256 action = some o' → NoGhost o') : o.InsertsInTime action := by
  unfold InsertsInTime
  split
  · next id clock =>
    intro hcall hdone hroom
    by_contra hnone
    have hstep : o.step sha256 (.advance (.inserting id) clock) = some { o with
        calls := o.calls.erase (.inserting id)
        activeRequests := o.activeRequests.insert id } := by
      rw [step, if_pos hcall, advance]
      dsimp only
      rw [if_pos hroom]
    refine h _ hstep id ⟨hdone, fun call hmem hid => hnone ⟨call, hmem, hid⟩⟩ ?_
    exact mem_snapshot.mpr (List.mem_insert_iff.mpr (.inl rfl))
  · trivial

/-- **A run leaves no ghost exactly when every start inserts in time.** The
requests are each started at most once; the calls are of any number of threads
and interleave in any way, with any clock, emission and capacity outcomes. -/
theorem active_requests_clean (hooks : Hooks) (bridgeCapacity capacity : Nat) (runId : String)
    (actions : List Action)
    (honce : RunOk (step sha256) StartsOnce (start hooks bridgeCapacity capacity runId) actions) :
    Always (step sha256) NoGhost (start hooks bridgeCapacity capacity runId) actions ↔
      RunOk (step sha256) InsertsInTime (start hooks bridgeCapacity capacity runId) actions :=
  always_iff_runOk (fun _ => Tidy.noGhost) (fun _ _ _ h => h.step)
    (fun _ _ => insertsInTime_of_noGhost) (tidy_start hooks bridgeCapacity capacity runId) honce

namespace Sample

/-- A terminal of the request returns between the registration and the
insertion. -/
def overtaken : List Action :=
  [.requestStarted "request-0",
   .advance (.registering "request-0") (some 100),
   .requestTerminal "request-0" "explicit_cancel" 0,
   .advance (.emitting "request-0" "explicit_cancel" 0) (some 110),
   .advance (.discarding "request-0") none,
   .advance (.inserting "request-0") none]

/-- The terminal returns after the insertion. -/
def ordered : List Action :=
  [.requestStarted "request-0",
   .advance (.registering "request-0") (some 100),
   .advance (.inserting "request-0") none,
   .requestTerminal "request-0" "explicit_cancel" 0,
   .advance (.emitting "request-0" "explicit_cancel" 0) (some 110),
   .advance (.discarding "request-0") none]

def observer : LifecycleObserver := start (Runtime.Sample.hooks []) 16 16 Runtime.Sample.runId

end Sample

theorem active_requests_clean_ordered :
    RunOk (step Runtime.Sample.sha256) StartsOnce Sample.observer Sample.ordered ∧
      (Always (step Runtime.Sample.sha256) NoGhost Sample.observer Sample.ordered ↔
        RunOk (step Runtime.Sample.sha256) InsertsInTime Sample.observer Sample.ordered) :=
  ⟨by decide +kernel, active_requests_clean _ 16 16 _ _ (by decide +kernel)⟩

/-- The cancelled request stays active for ever. -/
theorem overtaken_start_ghost :
    ¬ ∀ (sha256 : Bytes → String) (hooks : Hooks) (bridgeCapacity capacity : Nat) (runId : String)
      (actions : List Action),
      RunOk (step sha256) StartsOnce (start hooks bridgeCapacity capacity runId) actions →
        Always (step sha256) NoGhost (start hooks bridgeCapacity capacity runId) actions := by
  intro h
  have hghost := h Runtime.Sample.sha256 (Runtime.Sample.hooks []) 16 16 Runtime.Sample.runId
    Sample.overtaken (by decide +kernel)
  exact hghost.run "request-0" ⟨by decide +kernel, by decide +kernel⟩
    (mem_snapshot.mpr (by decide +kernel))

end LifecycleObserver
end LifecycleProfiler.Runtime
