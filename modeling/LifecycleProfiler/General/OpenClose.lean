import Mathlib.Data.List.Nodup

/-! # Logs that open and close things

Each entry of a log opens some things and closes some. A log is linear when no
thing is closed twice and none is closed before an earlier entry opened it. -/

namespace LifecycleProfiler.General

variable {ε σ : Type*} (opens closes : ε → List σ)

def opened (log : List ε) : List σ := log.flatMap opens
def closed (log : List ε) : List σ := log.flatMap closes

structure Linear (log : List ε) : Prop where
  once : (closed closes log).Nodup
  after : ∀ before entry later, log = before ++ entry :: later →
    ∀ s ∈ closes entry, s ∈ opened opens before

/-- Opened and not closed yet. -/
def IsOpen (log : List ε) (s : σ) : Prop := s ∈ opened opens log ∧ s ∉ closed closes log

variable {opens closes}

@[simp] theorem opened_nil : opened opens [] = [] := rfl
@[simp] theorem closed_nil : closed closes [] = [] := rfl

@[simp] theorem opened_append (log more : List ε) :
    opened opens (log ++ more) = opened opens log ++ opened opens more := List.flatMap_append

@[simp] theorem closed_append (log more : List ε) :
    closed closes (log ++ more) = closed closes log ++ closed closes more := List.flatMap_append

@[simp] theorem opened_cons (entry : ε) (log : List ε) :
    opened opens (entry :: log) = opens entry ++ opened opens log := List.flatMap_cons

@[simp] theorem closed_cons (entry : ε) (log : List ε) :
    closed closes (entry :: log) = closes entry ++ closed closes log := List.flatMap_cons

theorem linear_nil : Linear opens closes [] :=
  ⟨List.nodup_nil, fun before entry later h => by simp at h⟩

/-- One more entry keeps a log linear when it closes open things, each once. -/
theorem Linear.snoc {log : List ε} {entry : ε} (h : Linear opens closes log)
    (honce : (closes entry).Nodup) (hopen : ∀ s ∈ closes entry, IsOpen opens closes log s) :
    Linear opens closes (log ++ [entry]) := by
  constructor
  · rw [closed_append, closed_cons, closed_nil, List.append_nil]
    exact List.Nodup.append h.once honce fun s hs he => (hopen s he).2 hs
  · intro before entry' later heq s hs
    rcases List.append_eq_append_iff.mp heq with ⟨mid, rfl, hmid⟩ | ⟨mid, rfl, hmid⟩
    · cases mid with
      | nil =>
        cases hmid
        rw [List.append_nil]
        exact (hopen s hs).1
      | cons x xs => simp at hmid
    · cases mid with
      | nil =>
        cases hmid
        simpa using (hopen s hs).1
      | cons x xs =>
        cases hmid
        exact h.after before _ xs rfl s hs

/-- Entries that close nothing keep a log linear. -/
theorem Linear.append_quiet {log more : List ε} (h : Linear opens closes log)
    (hquiet : closed closes more = []) : Linear opens closes (log ++ more) := by
  induction more generalizing log with
  | nil => simpa using h
  | cons entry more ih =>
    rw [closed_cons, List.append_eq_nil_iff] at hquiet
    rw [List.append_cons]
    refine ih (h.snoc ?_ ?_) hquiet.2
    · rw [hquiet.1]
      exact List.nodup_nil
    · intro s hs
      rw [hquiet.1] at hs
      cases hs

/-- What a linear log closes was opened. -/
theorem Linear.opened_of_closed {log : List ε} {s : σ} (h : Linear opens closes log)
    (hs : s ∈ closed closes log) : s ∈ opened opens log := by
  obtain ⟨entry, hentry, hcloses⟩ := List.mem_flatMap.mp hs
  obtain ⟨before, later, rfl⟩ := List.append_of_mem hentry
  rw [opened_append]
  exact List.mem_append_left _ (h.after before entry later rfl s hcloses)

/-- What is open stays open while nothing closes it. -/
theorem IsOpen.append {log more : List ε} {s : σ} (h : IsOpen opens closes log s)
    (hmore : s ∉ closed closes more) : IsOpen opens closes (log ++ more) s := by
  refine ⟨?_, ?_⟩
  · rw [opened_append]
    exact List.mem_append_left _ h.1
  · rw [closed_append, List.mem_append]
    exact fun hs => hs.elim h.2 hmore

/-- A thing opened by new entries, unknown before and not closed by them. -/
theorem IsOpen.of_new {log more : List ε} {s : σ} (hopen : s ∈ opened opens more)
    (hold : s ∉ closed closes log) (hmore : s ∉ closed closes more) :
    IsOpen opens closes (log ++ more) s := by
  refine ⟨?_, ?_⟩
  · rw [opened_append]
    exact List.mem_append_right _ hopen
  · rw [closed_append, List.mem_append]
    exact fun hs => hs.elim hold hmore

/-- Entries that close one open thing in all keep a log linear. -/
theorem Linear.append_one {log more : List ε} {s : σ} (h : Linear opens closes log)
    (hs : IsOpen opens closes log s) (hmore : closed closes more = [s]) :
    Linear opens closes (log ++ more) := by
  induction more generalizing log with
  | nil => simp at hmore
  | cons entry more ih =>
    rw [closed_cons, List.append_eq_singleton_iff] at hmore
    rw [List.append_cons]
    rcases hmore with ⟨hentry, hmore⟩ | ⟨hentry, hmore⟩
    · refine ih (h.append_quiet ?_) (hs.append ?_) hmore
      · simp [hentry]
      · simp [hentry]
    · refine (h.snoc ?_ ?_).append_quiet hmore
      · rw [hentry]
        exact List.nodup_singleton s
      · intro t ht
        rw [hentry, List.mem_singleton] at ht
        exact ht ▸ hs

end LifecycleProfiler.General
