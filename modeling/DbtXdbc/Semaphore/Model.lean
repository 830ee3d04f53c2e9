import Mathlib.Tactic

/-!
# The semaphore of `semaphore.rs`

`AtomicSemaphoreBase` is a counter of free permits in an `AtomicU32`, with
futex waits on it (`atomic_wait::wait` and `wake_all`); `Semaphore` adds the
number of permits it started with, `max`, and the guards that give permits back
when dropped. The model is a system of threads that run the methods of
`Semaphore` one atomic step at a time, under any interleaving (`Sys.step`):

* a call starts from `Pc.idle`; a release (dropping a `PermitGuard` or a
  `PermitGuardAll`, or `unguarded_release`) needs a permit of that kind held,
  and is its `fetch_add` at once, followed by `wake_all` if the counter was
  `0`;
* `wait(&a, v)` puts the thread to sleep only if the counter is `v` at that
  instant; `wake_all` wakes every sleeper, and a sleeper may also wake by
  itself (`Act.wake`);
* `compare_exchange_weak` may fail even when it finds the value it expects
  (`Act.cas true`).

A thread counts the permits it holds: `ones` of them one at a time, and `alls`
times all `max` of them (`Thread.held`).
-/

namespace DbtXdbc

/-- The values of a `u32` are those below `wordSize`. -/
def wordSize : Nat := 2 ^ 32

/-- `Semaphore::new(count)`: `max` is a `u32`, and not `0` (its `debug_assert!`). -/
structure Semaphore where
  max : Nat
  max_pos : 0 < max
  max_lt : max < wordSize

namespace Semaphore

/-- Where a thread is in the code, between two of its atomic steps. -/
inductive Pc where
  | idle
  /-- `acquire`: at `wait(&a, 0)`. -/
  | acquireWait
  /-- `acquire`: asleep in `wait(&a, 0)`. -/
  | acquireSleep
  /-- `acquire`: at `let old = a.load()`. -/
  | acquireLoad
  /-- `acquire`: at `try_acquire_impl(old, 1)`. -/
  | acquireCas (old : Nat)
  /-- `try_acquire`: at `let old = a.load()`. -/
  | tryLoad
  /-- `try_acquire`: at `try_acquire_impl(old, 1)`. -/
  | tryCas (old : Nat)
  /-- `acquire_many(max)`: at `let mut insufficient = (ask - 1).min(a.load())`. -/
  | manyInit
  /-- `acquire_many(max)`: at `wait(&a, insufficient)`. -/
  | manyWait (insufficient : Nat)
  /-- `acquire_many(max)`: asleep in `wait(&a, insufficient)`. -/
  | manySleep (insufficient : Nat)
  /-- `acquire_many(max)`: at `let old = a.load()`. -/
  | manyLoad
  /-- `acquire_many(max)`: at `try_acquire_impl(old, ask)`. -/
  | manyCas (old : Nat)
  /-- `release_impl`: the counter was `0`, at `wake_all(&a)`. -/
  | releaseWake
  deriving DecidableEq, Repr

/-- A thread: where it is, and the permits it holds. -/
structure Thread where
  pc : Pc
  /-- `PermitGuard`s held, and `unguarded_acquire`s not yet released. -/
  ones : Nat
  /-- `PermitGuardAll`s held, and `unguarded_acquire_all`s not yet released. -/
  alls : Nat
  deriving DecidableEq, Repr

/-- The counter `a` and the threads. -/
structure Sys where
  a : Nat
  threads : List Thread
  deriving DecidableEq, Repr

/-- The methods a thread calls. -/
inductive Call where
  /-- `acquire` or `unguarded_acquire`. -/
  | acquire
  | tryAcquire
  /-- `acquire_all` or `unguarded_acquire_all`. -/
  | acquireAll
  /-- Dropping a `PermitGuard`, or `unguarded_release`. -/
  | release
  /-- Dropping a `PermitGuardAll`, or `unguarded_release_all`. -/
  | releaseAll
  deriving DecidableEq, Repr

/-- What a thread does next: start a call, take its next atomic step, take the
step of a compare-exchange that may fail spuriously (`weakFail`), or wake up
with nobody waking it. -/
inductive Act where
  | call (c : Call)
  | step
  | cas (weakFail : Bool)
  | wake
  deriving DecidableEq, Repr

/-- `a.fetch_add(update)` on an `AtomicU32`: the counter after it, which wraps. -/
def fetchAdd (a update : Nat) : Nat := (a + update) % wordSize

/-- `try_acquire_impl(old, ask)` on counter `a`: `old >= ask` and then a
`compare_exchange_weak(old, old - ask)`, which fails when the counter is not
`old`, and may fail anyway (`weakFail`). The counter after it, if it succeeds. -/
def tryAcquireImpl (a old ask : Nat) (weakFail : Bool) : Option Nat :=
  if ask ≤ old ∧ a = old ∧ weakFail = false then some (old - ask) else none

/-- The `pc` a release leaves its thread at: `wake_all` is next if the counter
was `0`. -/
def afterRelease (old : Nat) : Pc := if old = 0 then .releaseWake else .idle

/-- One atomic step of a thread, on counter `a`: the counter after it, the
thread after it, and whether it was `wake_all`. -/
def Thread.step (max a : Nat) : Thread → Act → Option (Nat × Thread × Bool)
  | ⟨.idle, o, l⟩, .call .acquire => some (a, ⟨.acquireWait, o, l⟩, false)
  | ⟨.idle, o, l⟩, .call .tryAcquire => some (a, ⟨.tryLoad, o, l⟩, false)
  | ⟨.idle, o, l⟩, .call .acquireAll => some (a, ⟨.manyInit, o, l⟩, false)
  | ⟨.idle, o + 1, l⟩, .call .release => some (fetchAdd a 1, ⟨afterRelease a, o, l⟩, false)
  | ⟨.idle, o, l + 1⟩, .call .releaseAll => some (fetchAdd a max, ⟨afterRelease a, o, l⟩, false)
  | ⟨.releaseWake, o, l⟩, .step => some (a, ⟨.idle, o, l⟩, true)
  | ⟨.acquireWait, o, l⟩, .step => some (a, ⟨if a = 0 then .acquireSleep else .acquireLoad, o, l⟩, false)
  | ⟨.acquireSleep, o, l⟩, .wake => some (a, ⟨.acquireLoad, o, l⟩, false)
  | ⟨.acquireLoad, o, l⟩, .step => some (a, ⟨.acquireCas a, o, l⟩, false)
  | ⟨.acquireCas old, o, l⟩, .cas weakFail =>
    match tryAcquireImpl a old 1 weakFail with
    | some a' => some (a', ⟨.idle, o + 1, l⟩, false)
    | none => some (a, ⟨.acquireWait, o, l⟩, false)
  | ⟨.tryLoad, o, l⟩, .step => some (a, ⟨.tryCas a, o, l⟩, false)
  | ⟨.tryCas old, o, l⟩, .cas weakFail =>
    match tryAcquireImpl a old 1 weakFail with
    | some a' => some (a', ⟨.idle, o + 1, l⟩, false)
    | none => some (a, ⟨.idle, o, l⟩, false)
  | ⟨.manyInit, o, l⟩, .step => some (a, ⟨.manyWait (min (max - 1) a), o, l⟩, false)
  | ⟨.manyWait ins, o, l⟩, .step => some (a, ⟨if a = ins then .manySleep ins else .manyLoad, o, l⟩, false)
  | ⟨.manySleep _, o, l⟩, .wake => some (a, ⟨.manyLoad, o, l⟩, false)
  | ⟨.manyLoad, o, l⟩, .step => some (a, ⟨.manyCas a, o, l⟩, false)
  | ⟨.manyCas old, o, l⟩, .cas weakFail =>
    match tryAcquireImpl a old max weakFail with
    | some a' => some (a', ⟨.idle, o, l + 1⟩, false)
    | none => some (a, ⟨.manyWait old, o, l⟩, false)
  | _, _ => none

/-- What `wake_all` does to a thread: a sleeper returns from its `wait`. -/
def Thread.wake (t : Thread) : Thread :=
  match t.pc with
  | .acquireSleep => { t with pc := .acquireLoad }
  | .manySleep _ => { t with pc := .manyLoad }
  | _ => t

/-- One atomic step of thread `i` of the system. -/
def Sys.step (sem : Semaphore) (s : Sys) (i : Nat) (act : Act) : Option Sys := do
  let t ← s.threads[i]?
  let (a, t', wake) ← t.step sem.max s.a act
  let threads := s.threads.set i t'
  pure ⟨a, if wake then threads.map Thread.wake else threads⟩

/-- `Semaphore::new(max)`, and `n` threads that hold nothing. -/
def Sys.init (sem : Semaphore) (n : Nat) : Sys := ⟨sem.max, List.replicate n ⟨.idle, 0, 0⟩⟩

/-- The states some interleaving of the threads' steps reaches. -/
inductive Reachable (sem : Semaphore) : Sys → Prop where
  | init (n : Nat) : Reachable sem (Sys.init sem n)
  | step {s s' : Sys} (i : Nat) (act : Act) : Reachable sem s → s.step sem i act = some s' →
      Reachable sem s'

/-- Run the steps of a list in order. -/
def run (sem : Semaphore) : Sys → List (Nat × Act) → Option Sys
  | s, [] => some s
  | s, (i, act) :: rest => (s.step sem i act).bind (run sem · rest)

theorem run_reachable {sem : Semaphore} :
    ∀ {s s' : Sys} {l : List (Nat × Act)}, Reachable sem s → run sem s l = some s' →
      Reachable sem s'
  | _, _, [], hs, h => by rw [run, Option.some.injEq] at h; exact h ▸ hs
  | s, _, (i, act) :: rest, hs, h => by
    rw [run] at h
    cases hn : s.step sem i act with
    | none => rw [hn] at h; cases h
    | some s₁ => rw [hn, Option.some_bind] at h; exact run_reachable (hs.step i act hn) h

end Semaphore

end DbtXdbc
