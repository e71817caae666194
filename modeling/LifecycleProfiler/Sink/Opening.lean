import Mathlib.Data.List.Basic

/-! # Opening the shards

`_open_shard` makes up to three attempts to create the trace shard and, with a
profile, the profile shard. The descriptor table belongs to the whole process:
between any two calls other threads open and close descriptors of their own,
and a closed number is given out again. -/

namespace LifecycleProfiler.Sink

/-- What an `open` or `fchmod` comes to. -/
inductive CallOutcome where
  | ok
  | fileExists
  | otherError
  deriving DecidableEq

/-- The outcomes of one attempt, for the calls it gets to. -/
structure AttemptOutcomes where
  openShard : CallOutcome := .ok
  chmodShard : CallOutcome := .ok
  openProfile : CallOutcome := .ok
  chmodProfile : CallOutcome := .ok

/-- What another thread does to the descriptor table. -/
inductive ForeignAction where
  | opens
  | closes (fd : Nat)

inductive OpeningEvent where
  /-- `os.close(fd)`, and whether the descriptor was one the function had open. -/
  | closed (fd : Nat) (own : Bool)
  /-- The attempt failed and left these descriptors open and these paths behind. -/
  | failed (own : List Nat) (created : List String)
  deriving DecidableEq

/-- The descriptors of the process and the files the function created. -/
structure Process where
  own : List Nat := []
  foreign : List Nat
  created : List String := []
  calls : Nat := 0
  log : List OpeningEvent := []

/-- The number `open` returns: the lowest one that is not in use. -/
def lowestFree (fds : List Nat) : Nat :=
  ((List.range (fds.length + 1)).find? fun fd => !(fds.contains fd)).getD fds.length

namespace Process

def act (p : Process) : ForeignAction → Process
  | .opens => { p with foreign := lowestFree (p.own ++ p.foreign) :: p.foreign }
  | .closes fd => { p with foreign := p.foreign.erase fd }

/-- The other threads run before the next call. -/
def interleave (threads : Nat → List ForeignAction) (p : Process) : Process :=
  { (threads p.calls).foldl act p with calls := p.calls + 1 }

/-- `os.open` with `O_CREAT | O_EXCL`. -/
def openFile (threads : Nat → List ForeignAction) (p : Process) (outcome : CallOutcome)
    (path : String) : Except CallOutcome Nat × Process :=
  let p := p.interleave threads
  if outcome = .ok then
    let fd := lowestFree (p.own ++ p.foreign)
    (.ok fd, { p with own := fd :: p.own, created := path :: p.created })
  else (.error outcome, p)

/-- `os.close`, whose error is ignored: a number that is in use is freed,
whoever opened it. -/
def close (threads : Nat → List ForeignAction) (p : Process) (fd : Nat) : Process :=
  let p := p.interleave threads
  if fd ∈ p.own then
    { p with own := p.own.erase fd, log := p.log ++ [.closed fd true] }
  else { p with foreign := p.foreign.erase fd, log := p.log ++ [.closed fd false] }

/-- `path.unlink(missing_ok=True)` -/
def unlink (threads : Nat → List ForeignAction) (p : Process) (path : String) : Process :=
  let p := p.interleave threads
  { p with created := p.created.filter (· ≠ path) }

end Process

/-- Where the inner `try` stopped: its error, the profile descriptor and
whether the profile path was created. -/
structure Secured where
  error : Option CallOutcome := none
  profileFd : Option Nat := none
  profileCreated : Bool := false

/-- The statements under the inner `try`. -/
def secureShards (threads : Nat → List ForeignAction) (outcomes : AttemptOutcomes)
    (profilePath : Option String) (p : Process) : Secured × Process :=
  let p := p.interleave threads
  if outcomes.chmodShard ≠ .ok then ({ error := some outcomes.chmodShard }, p)
  else match profilePath with
    | none => ({}, p)
    | some path =>
      match p.openFile threads outcomes.openProfile path with
      | (.error error, p) => ({ error := some error }, p)
      | (.ok profileFd, p) =>
        let p := p.interleave threads
        if outcomes.chmodProfile ≠ .ok then
          ({ error := some outcomes.chmodProfile, profileFd := some profileFd,
             profileCreated := true }, p)
        else ({ profileFd := some profileFd, profileCreated := true }, p)

/-- The inner `except` clause, up to its `raise`. -/
def cleanUp (threads : Nat → List ForeignAction) (fd : Nat) (shardPath : String)
    (profilePath : Option String) (secured : Secured) (p : Process) : Process :=
  let p := (p.close threads fd).unlink threads shardPath
  let p := match secured.profileFd with
    | some profileFd => p.close threads profileFd
    | none => p
  match secured.profileCreated, profilePath with
  | true, some path => p.unlink threads path
  | _, _ => p

inductive AttemptEnd where
  | opened (fd : Nat) (profileFd : Option Nat)
  | retry
  | raised
  deriving DecidableEq

/-- One round of the loop. -/
def attemptShards (threads : Nat → List ForeignAction) (outcomes : AttemptOutcomes)
    (shardPath : String) (profilePath : Option String) (p : Process) : AttemptEnd × Process :=
  match p.openFile threads outcomes.openShard shardPath with
  | (.error error, p) => (if error = .fileExists then .retry else .raised, p)
  | (.ok fd, p) =>
    match secureShards threads outcomes profilePath p with
    | (secured, p) =>
      match secured.error with
      | none => (.opened fd secured.profileFd, p)
      | some error =>
        let p := cleanUp threads fd shardPath profilePath secured p
        -- the outer clause finds `fd` set and cleans up once more
        if error = .fileExists then (.retry, (p.close threads fd).unlink threads shardPath)
        else (.raised, p)

structure ShardNames where
  basePath : String
  processUuid : Nat → String
  profiled : Bool

def ShardNames.shardPath (names : ShardNames) (n : Nat) : String :=
  s!"{names.basePath}.rlp.{names.processUuid n}.jsonl"

def ShardNames.profilePath (names : ShardNames) (n : Nat) : Option String :=
  if names.profiled then some s!"{names.basePath}.rlp-kv-recovery.{names.processUuid n}.jsonl"
  else none

/-- Note what a failed attempt leaves behind. -/
def Process.fail (p : Process) : Process := { p with log := p.log ++ [.failed p.own p.created] }

/-- `_open_shard`, from its `n`-th attempt on: the descriptors, or the error it
raises. -/
def openShardFrom (threads : Nat → List ForeignAction) (outcomes : Nat → AttemptOutcomes)
    (names : ShardNames) : Nat → Nat → Process → Option (Nat × Option Nat) × Process
  | 0, _, p => (none, p)
  | left + 1, n, p =>
    match attemptShards threads (outcomes n) (names.shardPath n) (names.profilePath n) p with
    | (.opened fd profileFd, p) => (some (fd, profileFd), p)
    | (.raised, p) => (none, p.fail)
    | (.retry, p) => openShardFrom threads outcomes names left (n + 1) p.fail

def openShard (threads : Nat → List ForeignAction) (outcomes : Nat → AttemptOutcomes)
    (names : ShardNames) (p : Process) : Option (Nat × Option Nat) × Process :=
  openShardFrom threads outcomes names 3 0 p

/-! ## What the function closes -/

/-- The function closes descriptors it has open and no others, and a failed
attempt leaves neither a descriptor nor a file. -/
def ClosesOwn (log : List OpeningEvent) : Prop :=
  (∀ fd own, .closed fd own ∈ log → own = true) ∧
  ∀ own created, .failed own created ∈ log → own = [] ∧ created = []

/-- A call under the inner `try` reports an existing file. -/
def AttemptOutcomes.existsInside (outcomes : AttemptOutcomes) (profiled : Bool) : Bool :=
  outcomes.openShard = .ok && (outcomes.chmodShard = .fileExists ||
    profiled && outcomes.chmodShard = .ok && (outcomes.openProfile = .fileExists ||
      outcomes.openProfile = .ok && outcomes.chmodProfile = .fileExists))

namespace Process
variable {threads : Nat → List ForeignAction} {p : Process}

theorem foldl_act (actions : List ForeignAction) (p : Process) :
    (actions.foldl act p).own = p.own ∧ (actions.foldl act p).created = p.created ∧
      (actions.foldl act p).log = p.log := by
  induction actions generalizing p with
  | nil => exact ⟨rfl, rfl, rfl⟩
  | cons action rest ih =>
    obtain ⟨hown, hcreated, hlog⟩ := ih (p.act action)
    cases action with
    | opens => exact ⟨hown, hcreated, hlog⟩
    | closes fd => exact ⟨hown, hcreated, hlog⟩

@[simp] theorem interleave_own : (p.interleave threads).own = p.own := (foldl_act _ p).1

@[simp] theorem interleave_created : (p.interleave threads).created = p.created :=
  (foldl_act _ p).2.1

@[simp] theorem interleave_log : (p.interleave threads).log = p.log := (foldl_act _ p).2.2

@[simp] theorem close_created (fd : Nat) : (p.close threads fd).created = p.created := by
  unfold close
  simp only [interleave_own]
  split <;> simp

@[simp] theorem close_own (fd : Nat) : (p.close threads fd).own = p.own.erase fd := by
  unfold close
  simp only [interleave_own]
  split
  · rfl
  · next h => simp [List.erase_of_not_mem h]

@[simp] theorem close_log (fd : Nat) :
    (p.close threads fd).log = p.log ++ [.closed fd (decide (fd ∈ p.own))] := by
  unfold close
  simp only [interleave_own, interleave_log]
  split
  · next h => simp [h]
  · next h => simp [h]

@[simp] theorem unlink_own (path : String) : (p.unlink threads path).own = p.own := by
  simp [unlink]

@[simp] theorem unlink_log (path : String) : (p.unlink threads path).log = p.log := by
  simp [unlink]

@[simp] theorem unlink_created (path : String) :
    (p.unlink threads path).created = p.created.filter (· ≠ path) := by
  simp [unlink]

/-- An `open` that succeeds adds a descriptor and a file, one that fails nothing. -/
theorem openFile_cases (threads : Nat → List ForeignAction) (p : Process) (outcome : CallOutcome)
    (path : String) :
    (outcome ≠ .ok ∧ p.openFile threads outcome path = (.error outcome, p.interleave threads)) ∨
    (outcome = .ok ∧ ∃ fd p', p.openFile threads outcome path = (.ok fd, p') ∧
      p'.own = fd :: p.own ∧ p'.created = path :: p.created ∧ p'.log = p.log) := by
  unfold openFile
  by_cases h : outcome = .ok
  · refine .inr ⟨h, _, _, if_pos h, ?_, ?_, ?_⟩
    · simp
    · simp
    · simp
  · exact .inl ⟨h, if_neg h⟩

end Process

section Attempt
variable {threads : Nat → List ForeignAction} {outcomes : AttemptOutcomes} {shardPath : String}
  {profilePath : Option String} {p : Process} {fd : Nat}

/-- What the inner `try` leaves, wherever it stops. -/
structure Secures (outcomes : AttemptOutcomes) (profilePath : Option String) (p : Process)
    (secured : Secured) (p' : Process) : Prop where
  own : p'.own = secured.profileFd.toList ++ p.own
  created : p'.created =
    (if secured.profileCreated then profilePath.toList else []) ++ p.created
  log : p'.log = p.log
  path : secured.profileCreated = true → profilePath.isSome
  exists_iff : secured.error = some .fileExists ↔ outcomes.chmodShard = .fileExists ∨
    profilePath.isSome ∧ outcomes.chmodShard = .ok ∧ (outcomes.openProfile = .fileExists ∨
      outcomes.openProfile = .ok ∧ outcomes.chmodProfile = .fileExists)

theorem secures (threads : Nat → List ForeignAction) (outcomes : AttemptOutcomes)
    (profilePath : Option String) (p : Process) :
    Secures outcomes profilePath p (secureShards threads outcomes profilePath p).1
      (secureShards threads outcomes profilePath p).2 := by
  unfold secureShards
  by_cases hchmod : outcomes.chmodShard = .ok
  · simp only [hchmod, ne_eq, not_true_eq_false, if_false]
    cases profilePath with
    | none => exact ⟨by simp, by simp, by simp, by simp, by simp [hchmod]⟩
    | some path =>
      rcases Process.openFile_cases threads (p.interleave threads) outcomes.openProfile path with
        ⟨hne, heq⟩ | ⟨hopen, fd, p', heq, hown, hcreated, hlog⟩
      · simp only [heq]
        exact ⟨by simp, by simp, by simp, by simp, by simp [hchmod, hne]⟩
      · simp only [heq]
        by_cases hprofile : outcomes.chmodProfile = .ok
        · simp only [hprofile, not_true_eq_false, if_false]
          exact ⟨by simp [hown], by simp [hcreated], by simp [hlog], by simp,
            by simp [hchmod, hopen, hprofile]⟩
        · simp only [hprofile, not_false_eq_true, if_true]
          exact ⟨by simp [hown], by simp [hcreated], by simp [hlog], by simp,
            by simp [hchmod, hopen]⟩
  · simp only [ne_eq, hchmod, not_false_eq_true, if_true]
    exact ⟨by simp, by simp, by simp, by simp, by simp [hchmod]⟩

/-- What one attempt does to a process without descriptors or files of its own. -/
structure Attempts (outcomes : AttemptOutcomes) (profiled : Bool) (p : Process)
    (result : AttemptEnd)
    (p' : Process) : Prop where
  clean : (∃ fd profileFd, result = .opened fd profileFd) ∨ p'.own = [] ∧ p'.created = []
  log : ∃ more, p'.log = p.log ++ more ∧ (∀ event ∈ more, ∃ fd own, event = .closed fd own) ∧
    ((∀ fd own, .closed fd own ∈ more → own = true) ↔ outcomes.existsInside profiled = false)
  retry_iff : result = .retry ↔
    outcomes.openShard = .fileExists ∨ outcomes.existsInside profiled = true

theorem erase_second (a b : Nat) : [a, b].erase b = [a] := by
  by_cases h : a = b
  · rw [h, List.erase_cons_head]
  · rw [List.erase_cons_tail (by simpa using h), List.erase_cons_head]

/-- The files an attempt created are the ones the inner clause removes. -/
theorem filter_created (shardPath : String) (profileCreated : Bool)
    (hpath : profileCreated = true → profilePath.isSome) :
    (match profileCreated, profilePath with
      | true, some path => (((if profileCreated then profilePath.toList else []) ++
          [shardPath]).filter (· ≠ shardPath)).filter (· ≠ path)
      | _, _ => ((if profileCreated then profilePath.toList else []) ++ [shardPath]).filter
          (· ≠ shardPath)) = [] := by
  cases profileCreated with
  | false => simp
  | true =>
    cases profilePath with
    | none => simp at hpath
    | some path =>
      by_cases h : path = shardPath
      · simp [h]
      · simp [h]

/-- The inner clause closes what the attempt opened and removes what it created. -/
theorem cleanUp_spec {secured : Secured} (hown : p.own = secured.profileFd.toList ++ [fd])
    (hcreated : p.created =
      (if secured.profileCreated then profilePath.toList else []) ++ [shardPath])
    (hpath : secured.profileCreated = true → profilePath.isSome) :
    (cleanUp threads fd shardPath profilePath secured p).own = [] ∧
      (cleanUp threads fd shardPath profilePath secured p).created = [] ∧
      ∃ more, (cleanUp threads fd shardPath profilePath secured p).log = p.log ++ more ∧
        ∀ event ∈ more, ∃ fd, event = .closed fd true := by
  have hfiles := filter_created shardPath secured.profileCreated hpath
  rw [← hcreated] at hfiles
  obtain ⟨error, profileFd, profileCreated⟩ := secured
  simp only at hown hcreated hpath hfiles
  unfold cleanUp
  cases profileFd with
  | none =>
    have hclosed : ∃ more, p.log ++ [OpeningEvent.closed fd (decide (fd ∈ p.own))] = p.log ++ more ∧
        ∀ event ∈ more, ∃ fd, event = .closed fd true :=
      ⟨_, rfl, by simp [hown]⟩
    cases profileCreated <;> cases profilePath <;>
      exact ⟨by simp [hown], by simpa using hfiles, by simpa using hclosed⟩
  | some profileFd =>
    have hclosed : ∃ more, p.log ++ [OpeningEvent.closed fd (decide (fd ∈ p.own))] ++
        [OpeningEvent.closed profileFd (decide (profileFd ∈ p.own.erase fd))] = p.log ++ more ∧
        ∀ event ∈ more, ∃ fd, event = .closed fd true :=
      ⟨_, List.append_assoc _ _ _, by simp [hown, erase_second]⟩
    cases profileCreated <;> cases profilePath <;>
      exact ⟨by simp [hown, erase_second], by simpa using hfiles, by simpa using hclosed⟩

theorem attempts (hown : p.own = []) (hcreated : p.created = []) :
    Attempts outcomes profilePath.isSome p
      (attemptShards threads outcomes shardPath profilePath p).1
      (attemptShards threads outcomes shardPath profilePath p).2 := by
  unfold attemptShards
  rcases Process.openFile_cases threads p outcomes.openShard shardPath with
    ⟨hne, heq⟩ | ⟨hopen, fd, p', heq, hown', hcreated', hlog'⟩
  · have hinside : outcomes.existsInside profilePath.isSome = false := by
      simp [AttemptOutcomes.existsInside, hne]
    simp only [heq]
    refine ⟨.inr ⟨by simp [hown], by simp [hcreated]⟩,
      ⟨[], by simp, by simp, by simp [hinside]⟩, ?_⟩
    rw [hinside]
    by_cases hexists : outcomes.openShard = .fileExists
    · simp [hexists]
    · simp [hexists]
  · simp only [heq]
    have hsecured := secures threads outcomes profilePath p'
    generalize secureShards threads outcomes profilePath p' = secured at hsecured
    obtain ⟨secured, p''⟩ := secured
    obtain ⟨hown'', hcreated'', hlog'', hpath, hexists⟩ := hsecured
    simp only at hown'' hcreated'' hlog'' hpath hexists ⊢
    have hinside : outcomes.existsInside profilePath.isSome = true ↔
        secured.error = some .fileExists := by
      rw [hexists]
      simp [AttemptOutcomes.existsInside, hopen, and_assoc]
    cases herror : secured.error with
    | none =>
      rw [herror] at hinside
      have hinside : outcomes.existsInside profilePath.isSome = false := by simpa using hinside
      simp only
      exact ⟨.inl ⟨_, _, rfl⟩, ⟨[], by simp [hlog'', hlog'], by simp, by simp [hinside]⟩,
        by simp [hinside, hopen]⟩
    | some error =>
      rw [hown', hown] at hown''
      rw [hcreated', hcreated] at hcreated''
      rw [herror] at hinside
      obtain ⟨hcleanOwn, hcleanCreated, more, hmore, hall⟩ :=
        @cleanUp_spec threads shardPath profilePath p'' fd secured hown'' hcreated'' hpath
      have hmoreLog : (cleanUp threads fd shardPath profilePath secured p'').log =
        p.log ++ more := by
        rw [hmore, hlog'', hlog']
      by_cases hfile : error = .fileExists
      · have hinside : outcomes.existsInside profilePath.isSome = true :=
          hinside.mpr (by rw [hfile])
        simp only [hfile, if_true]
        refine ⟨.inr ⟨by simp [hcleanOwn], by simp [hcleanCreated]⟩,
          ⟨more ++ [.closed fd false], by simp [hmoreLog, hcleanOwn], ?_, ?_⟩, by simp [hinside]⟩
        · intro event hevent
          rcases List.mem_append.mp hevent with hevent | hevent
          · obtain ⟨fd, rfl⟩ := hall event hevent
            exact ⟨fd, true, rfl⟩
          · exact ⟨fd, false, List.mem_singleton.mp hevent⟩
        · -- the second close of the same number
          rw [hinside]
          constructor
          · exact fun h => absurd (h fd false (by simp)) (by simp)
          · exact fun h => absurd h (by simp)
      · have hinside : outcomes.existsInside profilePath.isSome = false := by
          rw [← Bool.not_eq_true, hinside]
          simpa using hfile
        simp only [hfile, if_false]
        refine ⟨.inr ⟨hcleanOwn, hcleanCreated⟩, ⟨more, hmoreLog, ?_, ?_⟩, by simp [hinside, hopen]⟩
        · exact fun event hevent => (hall event hevent).imp fun fd h => ⟨true, h⟩
        · rw [hinside]
          refine iff_of_true (fun fd own hevent => ?_) rfl
          obtain ⟨_, h⟩ := hall _ hevent
          exact (OpeningEvent.closed.inj h).2

end Attempt

/-! ## The three attempts -/

/-- The attempt is reached because the shard of every earlier one existed, and
within it a further call reports an existing file. -/
def ExistsInside (outcomes : Nat → AttemptOutcomes) (profiled : Bool) (n : Nat) : Prop :=
  (∀ m < n, (outcomes m).openShard = .fileExists) ∧ (outcomes n).existsInside profiled = true

theorem ClosesOwn.append {log more : List OpeningEvent} :
    ClosesOwn (log ++ more) ↔ ClosesOwn log ∧ ClosesOwn more := by
  simp only [ClosesOwn, List.mem_append]
  constructor
  · rintro ⟨hclosed, hfailed⟩
    exact ⟨⟨fun fd own h => hclosed fd own (.inl h), fun own created h => hfailed _ _ (.inl h)⟩,
      fun fd own h => hclosed fd own (.inr h), fun own created h => hfailed _ _ (.inr h)⟩
  · rintro ⟨⟨hclosed, hfailed⟩, hclosed', hfailed'⟩
    exact ⟨fun fd own h => h.elim (hclosed fd own) (hclosed' fd own),
      fun own created h => h.elim (hfailed own created) (hfailed' own created)⟩

/-- An attempt that started clean keeps the log clean unless a call under the
inner `try` reports an existing file. -/
theorem Attempts.closesOwn {outcomes : AttemptOutcomes} {profiled : Bool} {p p' : Process}
    {result : AttemptEnd} (h : Attempts outcomes profiled p result p') :
    ClosesOwn p'.log ↔ ClosesOwn p.log ∧ outcomes.existsInside profiled = false := by
  obtain ⟨more, hlog, hclosed, hinside⟩ := h.log
  rw [hlog, ClosesOwn.append, ← hinside]
  refine and_congr_right fun _ => ⟨fun h => h.1, fun h => ⟨h, fun own created hevent => ?_⟩⟩
  obtain ⟨_, _, heq⟩ := hclosed _ hevent
  cases heq

theorem Process.closesOwn_fail {p : Process} (hown : p.own = []) (hcreated : p.created = []) :
    ClosesOwn p.fail.log ↔ ClosesOwn p.log := by
  rw [Process.fail, ClosesOwn.append, hown, hcreated]
  simp [ClosesOwn]

/-- The first attempt decides about itself, and about the others being reached. -/
theorem existsInside_succ (outcomes : Nat → AttemptOutcomes) (profiled : Bool) (left : Nat) :
    (∀ k < left + 1, ¬ ExistsInside outcomes profiled k) ↔
      (outcomes 0).existsInside profiled = false ∧ ((outcomes 0).openShard = .fileExists →
        ∀ k < left, ¬ ExistsInside (fun m => outcomes (m + 1)) profiled k) := by
  constructor
  · intro h
    refine ⟨?_, fun hexists k hk hinside => h (k + 1) (by omega) ⟨fun m hm => ?_, hinside.2⟩⟩
    · rw [← Bool.not_eq_true]
      exact fun hinside => h 0 (by omega) ⟨fun m hm => absurd hm (by omega), hinside⟩
    · cases m with
      | zero => exact hexists
      | succ m => exact hinside.1 m (by omega)
  · rintro ⟨hfirst, hrest⟩ k hk ⟨hreached, hinside⟩
    cases k with
    | zero => exact absurd hinside (by simp [hfirst])
    | succ k =>
      exact hrest (hreached 0 (by omega)) k (by omega)
        ⟨fun m hm => hreached (m + 1) (by omega), hinside⟩

theorem closesOwn_openShardFrom (threads : Nat → List ForeignAction)
    (outcomes : Nat → AttemptOutcomes) (names : ShardNames) :
    ∀ (left n : Nat) (p : Process), p.own = [] → p.created = [] →
      (ClosesOwn (openShardFrom threads outcomes names left n p).2.log ↔
        ClosesOwn p.log ∧ ∀ k < left,
          ¬ ExistsInside (fun m => outcomes (n + m)) names.profiled k) := by
  intro left
  induction left with
  | zero => exact fun n p _ _ => ⟨fun h => ⟨h, by simp⟩, fun h => h.1⟩
  | succ left ih =>
    intro n p hown hcreated
    have hattempt := @attempts threads (outcomes n) (names.shardPath n) (names.profilePath n) p
      hown hcreated
    have hprofiled : (names.profilePath n).isSome = names.profiled := by
      unfold ShardNames.profilePath
      cases names.profiled <;> rfl
    rw [hprofiled] at hattempt
    rw [openShardFrom]
    generalize attemptShards threads (outcomes n) (names.shardPath n) (names.profilePath n) p =
      attempt at hattempt
    obtain ⟨result, p'⟩ := attempt
    have hlog := hattempt.closesOwn
    have hsplit := existsInside_succ (fun m => outcomes (n + m)) names.profiled left
    simp only [Nat.add_zero, ← Nat.add_assoc, Nat.add_right_comm n _ 1] at hsplit
    rw [hsplit]
    cases result with
    | opened fd profileFd =>
      have hfresh : (outcomes n).openShard ≠ .fileExists := fun h =>
        absurd (hattempt.retry_iff.mpr (.inl h)) (by simp)
      simp only [hlog, hfresh, false_implies, and_true]
    | raised =>
      have hfresh : (outcomes n).openShard ≠ .fileExists := fun h =>
        absurd (hattempt.retry_iff.mpr (.inl h)) (by simp)
      obtain ⟨hown', hcreated'⟩ := hattempt.clean.resolve_left (by simp)
      simp only [Process.closesOwn_fail hown' hcreated', hlog, hfresh, false_implies, and_true]
    | retry =>
      obtain ⟨hown', hcreated'⟩ := hattempt.clean.resolve_left (by simp)
      have hnext := ih (n + 1) p'.fail hown' hcreated'
      rw [Process.closesOwn_fail hown' hcreated', hlog] at hnext
      simp only [hnext, and_assoc]
      refine and_congr_right fun _ => and_congr_right fun hinside => ?_
      have hexists : (outcomes n).openShard = .fileExists :=
        (hattempt.retry_iff.mp rfl).resolve_right (by simp [hinside])
      simp only [hexists, true_implies]

/-- **Opening the shards.** Whatever the other threads do, `_open_shard` closes
its own open descriptors only and cleans up after each failed attempt, exactly
when no call after the first `open` of an attempt reports an existing file. -/
theorem opening_closes_own (threads : Nat → List ForeignAction)
    (outcomes : Nat → AttemptOutcomes) (names : ShardNames) (foreign : List Nat) :
    ClosesOwn (openShard threads outcomes names { foreign := foreign }).2.log ↔
      ∀ n < 3, ¬ ExistsInside outcomes names.profiled n := by
  have hrun := closesOwn_openShardFrom threads outcomes names 3 0 { foreign := foreign } rfl rfl
  simp only [Nat.zero_add] at hrun
  rw [openShard, hrun]
  exact and_iff_right ⟨by simp, by simp⟩

/-- The profile shard exists. The first attempt closes its shard descriptor 3,
another thread opens a file as 3, and the function closes it. -/
theorem existing_profile_closes_foreign :
    ¬ ∀ (threads : Nat → List ForeignAction) (outcomes : Nat → AttemptOutcomes)
      (names : ShardNames) (foreign : List Nat),
      ClosesOwn (openShard threads outcomes names { foreign := foreign }).2.log := by
  intro hclaim
  have hclosed := (hclaim (fun calls => if calls = 5 then [.opens] else [])
    (fun n => if n = 0 then { openProfile := .fileExists } else {})
    ⟨"trace", fun n => toString n, true⟩ [0, 1, 2]).1 3 false
  exact absurd (hclosed (by decide +kernel)) (by decide)

end LifecycleProfiler.Sink
