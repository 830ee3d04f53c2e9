import DbtXdbc.Semaphore.Permits

/-!
# Wakeups and spurious failures

`acquire` sleeps in `wait(&a, 0)`, and every release that finds the counter at
`0` calls `wake_all`: no thread sleeps in `acquire` while a permit is free,
unless that `wake_all` is its next step (`acquire_no_lost_wakeup`).

`acquire_many(ask)` sleeps in `wait(&a, insufficient)` with `insufficient`
possibly above `0`, and a release from above `0` wakes nobody: a thread can
sleep in `acquire_all` while every permit is free
(`acquire_all_lost_wakeup`), and only a spurious wakeup gets it out.

`try_acquire` makes a single `compare_exchange_weak`, which may fail though no
other thread touched the counter: it can return `None` with a permit free
(`try_acquire_fails_uncontended`).
-/

namespace DbtXdbc.Semaphore

theorem Thread.wake_pc_ne_acquireSleep (t : Thread) : t.wake.pc ≠ .acquireSleep := by
  unfold Thread.wake; split <;> simp_all

theorem mem_set_of_ne {l : List Thread} {i : Nat} {t u x : Thread} (hu : u ∈ l) (ht : l[i]? = some t)
    (hne : u ≠ t) : u ∈ l.set i x := by
  obtain ⟨j, hj⟩ := List.mem_iff_getElem?.mp hu
  have hij : i ≠ j := by rintro rfl; exact hne (Option.some.inj (hj.symm.trans ht))
  exact List.getElem?_mem ((List.getElem?_set_ne hij).trans hj)

theorem mem_set_self {l : List Thread} {i : Nat} {t : Thread} (x : Thread) (ht : l[i]? = some t) :
    x ∈ l.set i x :=
  List.mem_set l i (List.getElem?_eq_some_iff.mp ht).1 x

/-! ## `acquire` loses no wakeup -/

/-- Every thread asleep in `acquire` sees no free permit, or a release that
found the counter at `0` is about to wake it. -/
def AcquireAwake (s : Sys) : Prop :=
  ∀ t ∈ s.threads, t.pc = .acquireSleep → s.a = 0 ∨ ∃ u ∈ s.threads, u.pc = .releaseWake

theorem Sys.acquireAwake_step {sem : Semaphore} {s s' : Sys} {i : Nat} {act : Act}
    (h : s.step sem i act = some s') (hi : AcquireAwake s) : AcquireAwake s' := by
  obtain ⟨t, a', t', w, ht, hs, rfl⟩ := Sys.step_eq_some h
  have hkept : ∀ v ∈ s.threads, v.pc = .releaseWake → t.pc ≠ .releaseWake → v ∈ s.threads.set i t' :=
    fun v hv hvpc hne => mem_set_of_ne hv ht fun e => hne (e ▸ hvpc)
  rcases Thread.step_cases hs with ⟨-, rfl, -, -⟩ | ⟨rfl, hne, rfl, -, -, hsleep, -⟩ |
    ⟨rfl, hne, hidle, htake⟩ | ⟨rfl, hidle, hpc', -⟩
  · -- `wake_all`: nobody sleeps any more
    intro u hu hpc
    obtain ⟨v, -, rfl⟩ := List.mem_map.mp hu
    exact absurd hpc (Thread.wake_pc_ne_acquireSleep v)
  · -- the counter stays, and the thread sleeps only on `0`
    intro u hu hpc
    rcases List.mem_or_eq_of_mem_set hu with hu | rfl
    · rcases hi u hu hpc with h0 | ⟨v, hv, hvpc⟩
      · exact .inl h0
      · exact .inr ⟨v, hkept v hv hvpc hne, hvpc⟩
    · exact .inl (hsleep hpc)
  · -- a permit taken: the counter was not `0`
    intro u hu hpc
    rcases List.mem_or_eq_of_mem_set hu with hu | rfl
    · rcases hi u hu hpc with h0 | ⟨v, hv, hvpc⟩
      · have := sem.max_pos
        rcases htake with ⟨h1, -⟩ | ⟨h1, -⟩ <;> omega
      · exact .inr ⟨v, hkept v hv hvpc hne, hvpc⟩
    · rw [hidle] at hpc; cases hpc
  · -- a release: from `0`, its `wake_all` is next
    intro u hu hpc
    rcases List.mem_or_eq_of_mem_set hu with hu | rfl
    · rcases hi u hu hpc with h0 | ⟨v, hv, hvpc⟩
      · exact .inr ⟨t', mem_set_self t' ht, by rw [hpc', h0]; rfl⟩
      · exact .inr ⟨v, hkept v hv hvpc (by rw [hidle]; decide), hvpc⟩
    · rw [hpc', afterRelease] at hpc; split at hpc <;> cases hpc

/-- No lost wakeup in `acquire`: in every reachable state, a thread asleep in
`acquire` sees no free permit, or the `wake_all` of a release is pending. -/
theorem acquire_no_lost_wakeup (sem : Semaphore) {s : Sys} (h : Reachable sem s) : AcquireAwake s := by
  induction h with
  | init n =>
    intro t ht hpc
    rw [Sys.init, List.mem_replicate] at ht
    rw [ht.2] at hpc; cases hpc
  | step i act _ hs ih => exact Sys.acquireAwake_step hs ih

/-- One permit: thread 0 holds it, and thread 1 sleeps in `acquire` on `0`. -/
theorem acquire_no_lost_wakeup_while_held :
    Reachable ⟨1, by decide, by decide⟩ ⟨0, [⟨.idle, 1, 0⟩, ⟨.acquireSleep, 0, 0⟩]⟩ ∧
    AcquireAwake ⟨0, [⟨.idle, 1, 0⟩, ⟨.acquireSleep, 0, 0⟩]⟩ :=
  have h : Reachable ⟨1, by decide, by decide⟩ ⟨0, [⟨.idle, 1, 0⟩, ⟨.acquireSleep, 0, 0⟩]⟩ :=
    @run_reachable _ _ _ [(0, .call .acquire), (0, .step), (0, .step), (0, .cas false),
      (1, .call .acquire), (1, .step)] (Reachable.init 2) rfl
  ⟨h, acquire_no_lost_wakeup _ h⟩

/-! ## `acquire_all` can lose its wakeup -/

/-- Two permits. Thread 1 takes one; thread 0 calls `acquire_all`, computes
`insufficient = min(2 - 1, 1) = 1` and sleeps on it; thread 1 releases from `1`,
so nobody calls `wake_all`. Thread 0 sleeps with both permits free, and no step
of its own but a spurious wakeup gets it out. -/
theorem acquire_all_lost_wakeup :
    Reachable ⟨2, by decide, by decide⟩ ⟨2, [⟨.manySleep 1, 0, 0⟩, ⟨.idle, 0, 0⟩]⟩ ∧
    ∀ act s', Sys.step ⟨2, by decide, by decide⟩ ⟨2, [⟨.manySleep 1, 0, 0⟩, ⟨.idle, 0, 0⟩]⟩ 0 act =
      some s' → act = .wake := by
  refine ⟨@run_reachable _ _ _ [(1, .call .acquire), (1, .step), (1, .step), (1, .cas false),
      (0, .call .acquireAll), (0, .step), (0, .step), (1, .call .release)] (Reachable.init 2) rfl, ?_⟩
  intro act s' h
  rcases act with c | _ | b | _ <;> (try cases c) <;> (try cases b) <;> first | rfl | cases h

/-! ## `try_acquire` can fail with a permit free -/

/-- One permit and one thread: `try_acquire` loads `1`, no other thread touches
the counter, and its weak compare-exchange fails: it returns `None`, and the
permit stays free. -/
theorem try_acquire_fails_uncontended :
    run ⟨1, by decide, by decide⟩ (Sys.init ⟨1, by decide, by decide⟩ 1)
        [(0, .call .tryAcquire), (0, .step)] = some ⟨1, [⟨.tryCas 1, 0, 0⟩]⟩ ∧
    Sys.step ⟨1, by decide, by decide⟩ ⟨1, [⟨.tryCas 1, 0, 0⟩]⟩ 0 (.cas true) =
      some ⟨1, [⟨.idle, 0, 0⟩]⟩ :=
  ⟨rfl, rfl⟩

end DbtXdbc.Semaphore
