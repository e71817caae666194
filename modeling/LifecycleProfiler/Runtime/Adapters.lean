import LifecycleProfiler.Runtime.Reports
import LifecycleProfiler.Runtime.Stages

/-! # Both adapters over one sink

A callback of one adapter moves the stream that both of them write. -/

namespace LifecycleProfiler.Runtime
open Python Protocol General

structure Adapters where
  scheduler : Scheduler
  worker : Worker

inductive AdapterCallback where
  | scheduler (c : SchedulerCallback)
  | worker (c : WorkerCallback)

namespace Adapters

/-- The stream of the sink. -/
def hooks (a : Adapters) : Hooks := a.scheduler.bridge.hooks

def rows (a : Adapters) : List ProfileRecordRef := profileRows a.hooks

/-- The worker adapter finds the stream as the scheduler adapter left it. -/
def withScheduler (a : Adapters) (s : Scheduler) : Adapters where
  scheduler := s
  worker := { a.worker with hooks := s.bridge.hooks, sinkOpen := s.sinkOpen }

def withWorker (a : Adapters) (w : Worker) : Adapters where
  scheduler := { a.scheduler.withHooks w.hooks with sinkOpen := w.sinkOpen }
  worker := w

def callback (a : Adapters) : AdapterCallback → Adapters
  | .scheduler c => a.withScheduler (a.scheduler.callback c)
  | .worker c => a.withWorker (a.worker.callback c)

def step (a : Adapters) (c : AdapterCallback) : Option Adapters := some (a.callback c)

def start (runId : String) (sha256 : Bytes → String) (hooks : Hooks) (capacity : Nat) :
    Adapters where
  scheduler := Scheduler.start runId sha256 hooks capacity
  worker := Worker.start runId sha256 hooks

/-- Fresh adapters over a sink nothing was written to. -/
def IsStart (a : Adapters) : Prop :=
  ∃ runId sha256 hooks capacity, a = start runId sha256 hooks capacity ∧ hooks.log = [] ∧
    hooks.nextProfileSeq = 0

/-- The two adapters see one stream. -/
structure Joined (a : Adapters) : Prop where
  hooks : a.worker.hooks = a.hooks
  isOpen : a.worker.sinkOpen = a.scheduler.sinkOpen

theorem joined_withScheduler (a : Adapters) (s : Scheduler) :
    (a.withScheduler s).Joined := ⟨rfl, rfl⟩

theorem joined_withWorker (a : Adapters) (w : Worker) : (a.withWorker w).Joined := ⟨rfl, rfl⟩

theorem joined_callback (a : Adapters) (c : AdapterCallback) : (a.callback c).Joined := by
  cases c with
  | scheduler c => exact joined_withScheduler _ _
  | worker c => exact joined_withWorker _ _

theorem IsStart.joined {a : Adapters} (h : a.IsStart) : a.Joined := by
  obtain ⟨_, _, _, _, rfl, -, -⟩ := h
  exact ⟨rfl, rfl⟩

theorem IsStart.rows {a : Adapters} (h : a.IsStart) : a.rows = [] := by
  obtain ⟨_, _, hooks, _, rfl, hlog, -⟩ := h
  change profileRows hooks = []
  rw [profileRows, hlog, List.filterMap_nil]

theorem IsStart.tabled {a : Adapters} (h : a.IsStart) : a.scheduler.Tabled := by
  obtain ⟨_, _, _, _, rfl, hlog, hseq⟩ := h
  exact tabled_start ⟨_, _, _, _, rfl, hlog, hseq⟩

/-- A callback of the worker adapter is a quiet step of the scheduler adapter,
but for its rows. -/
theorem frame_withWorker {a : Adapters} {w : Worker}
    (hj : a.Joined) (hopen : w.sinkOpen = true → a.worker.sinkOpen = true) :
    Frame a.scheduler (a.withWorker w).scheduler :=
  ⟨rfl, rfl, fun h => hj.isOpen ▸ hopen h, fun _ => rfl, fun _ _ h => .inl h⟩

end Adapters

end LifecycleProfiler.Runtime
