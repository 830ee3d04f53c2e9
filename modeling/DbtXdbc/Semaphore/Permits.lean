import DbtXdbc.Semaphore.Model

/-!
# Permits are conserved

Every permit of a semaphore is either free, counted by its `AtomicU32`, or
held by a thread, in every state that any interleaving of any number of threads
reaches (`permits_conserved`). So the counter never wraps or underflows, at most
`max` permits are held at once, and while a thread holds all of them through
`acquire_all` nobody else holds one.

`Thread.step_cases` says once what one atomic step of a thread can do; the
invariants are derived from it.
-/

namespace DbtXdbc.Semaphore

/-- The permits a thread holds: one per `PermitGuard`, all `max` per `PermitGuardAll`. -/
def Thread.held (max : Nat) (t : Thread) : Nat := t.ones + t.alls * max

/-- The permits the threads hold. -/
def Sys.held (max : Nat) (s : Sys) : Nat := (s.threads.map (Thread.held max)).sum

@[simp] theorem Thread.held_wake (max : Nat) (t : Thread) : t.wake.held max = t.held max := by
  unfold Thread.wake; split <;> rfl

/-! ## What one step of a thread does -/

section
variable {max a a' : Nat} {t t' : Thread} {act : Act} {w : Bool}

theorem tryAcquireImpl_eq_some {old ask : Nat} {weakFail : Bool}
    (h : tryAcquireImpl a old ask weakFail = some a') : ask ≤ a ∧ a' = a - ask := by
  unfold tryAcquireImpl at h
  split at h
  · cases h; omega
  · cases h

/-- Everything one step of a thread can do: `wake_all`; a step that moves no
permit and sleeps only on the value it waits for; a compare-exchange that takes
one permit or all `max`; or a release of one or of all `max`, whose `fetch_add`
of `0` leaves `wake_all` to do. -/
theorem Thread.step_cases (h : t.step max a act = some (a', t', w)) :
    (t.pc = .releaseWake ∧ w = true ∧ a' = a ∧ t' = ⟨.idle, t.ones, t.alls⟩) ∨
    (w = false ∧ t.pc ≠ .releaseWake ∧ a' = a ∧ t'.ones = t.ones ∧ t'.alls = t.alls ∧
      (t'.pc = .acquireSleep → a = 0) ∧ (∀ ins, t'.pc = .manySleep ins → a = ins)) ∨
    (w = false ∧ t.pc ≠ .releaseWake ∧ t'.pc = .idle ∧
      ((1 ≤ a ∧ a' = a - 1 ∧ t'.ones = t.ones + 1 ∧ t'.alls = t.alls) ∨
       (max ≤ a ∧ a' = a - max ∧ t'.ones = t.ones ∧ t'.alls = t.alls + 1))) ∨
    (w = false ∧ t.pc = .idle ∧ t'.pc = afterRelease a ∧
      ((0 < t.ones ∧ a' = fetchAdd a 1 ∧ t'.ones = t.ones - 1 ∧ t'.alls = t.alls) ∨
       (0 < t.alls ∧ a' = fetchAdd a max ∧ t'.ones = t.ones ∧ t'.alls = t.alls - 1))) := by
  obtain ⟨pc, o, l⟩ := t
  rcases act with c | _ | weakFail | _ <;> cases pc <;>
    simp only [Thread.step, Option.some.injEq, Prod.mk.injEq, reduceCtorEq] at h
  case call.idle =>
    rcases c with _ | _ | _ | _ | _
    iterate 3
      simp only [Thread.step, Option.some.injEq, Prod.mk.injEq] at h
      obtain ⟨rfl, rfl, rfl⟩ := h
      exact .inr (.inl ⟨rfl, by simp, rfl, rfl, rfl, by simp, by simp⟩)
    · cases o <;> simp only [Thread.step, Option.some.injEq, Prod.mk.injEq, reduceCtorEq] at h
      obtain ⟨rfl, rfl, rfl⟩ := h
      exact .inr (.inr (.inr ⟨rfl, rfl, rfl, .inl ⟨by simp, rfl, rfl, rfl⟩⟩))
    · cases l <;> simp only [Thread.step, Option.some.injEq, Prod.mk.injEq, reduceCtorEq] at h
      obtain ⟨rfl, rfl, rfl⟩ := h
      exact .inr (.inr (.inr ⟨rfl, rfl, rfl, .inr ⟨by simp, rfl, rfl, rfl⟩⟩))
  case step.releaseWake =>
    obtain ⟨rfl, rfl, rfl⟩ := h
    exact .inl ⟨rfl, rfl, rfl, rfl⟩
  case cas.acquireCas | cas.tryCas | cas.manyCas =>
    split at h <;> obtain ⟨rfl, rfl, rfl⟩ := h
    · obtain ⟨hle, rfl⟩ := tryAcquireImpl_eq_some ‹_›
      simp [hle]
    · exact .inr (.inl ⟨rfl, by simp, rfl, rfl, rfl, by simp, by simp⟩)
  all_goals
    obtain ⟨rfl, rfl, rfl⟩ := h
    refine .inr (.inl ⟨rfl, by simp, rfl, rfl, rfl, ?_, ?_⟩) <;> (try split_ifs) <;> simp_all

/-- A step moves permits between the counter and its thread and loses none,
when the counter has room for the permits the thread holds. -/
theorem Thread.held_step (h : t.step max a act = some (a', t', w)) (hb : a + t.held max < wordSize) :
    a' + t'.held max = a + t.held max := by
  have hf : ∀ u, u ≤ t.held max → fetchAdd a u = a + u := fun u hu => Nat.mod_eq_of_lt (by omega)
  obtain ⟨pc, o, l⟩ := t
  unfold Thread.held at *
  rcases Thread.step_cases h with ⟨-, -, rfl, rfl⟩ | ⟨-, -, rfl, ho, hl, -⟩ |
    ⟨-, -, -, ⟨h1, rfl, ho, hl⟩ | ⟨h1, rfl, ho, hl⟩⟩ | ⟨-, -, -, ⟨h1, rfl, ho, hl⟩ | ⟨h1, rfl, ho, hl⟩⟩
  · rfl
  · rw [ho, hl]
  · rw [ho, hl]; omega
  · rw [ho, hl, Nat.succ_mul]; omega
  · rw [hf 1 (by simp at h1 ⊢; omega), ho, hl]; simp at h1 ⊢; omega
  · simp only at h1 ho hl ⊢
    obtain ⟨l, rfl⟩ : ∃ l', l = l' + 1 := ⟨l - 1, by omega⟩
    rw [hf max (by simp only [Nat.succ_mul]; omega), ho, hl, Nat.add_sub_cancel, Nat.succ_mul]; omega

end

/-! ## One step of the system -/

theorem Sys.step_eq_some {sem : Semaphore} {s s' : Sys} {i : Nat} {act : Act}
    (h : s.step sem i act = some s') :
    ∃ t a' t' w, s.threads[i]? = some t ∧ t.step sem.max s.a act = some (a', t', w) ∧
      s' = ⟨a', if w then (s.threads.set i t').map Thread.wake else s.threads.set i t'⟩ := by
  simp only [Sys.step, Option.bind_eq_bind, Option.bind_eq_some] at h
  obtain ⟨t, ht, ⟨a', t', w⟩, hs, he⟩ := h
  exact ⟨t, a', t', w, ht, hs, (Option.some.inj he).symm⟩

theorem sum_set_add : ∀ {l : List Nat} {i n : Nat} (x : Nat), l[i]? = some n →
    (l.set i x).sum + n = l.sum + x
  | [], _, _, _, h => by simp at h
  | m :: l, 0, n, x, h => by
    simp only [List.getElem?_cons_zero, Option.some.injEq] at h
    subst h; simp; omega
  | m :: l, i + 1, n, x, h => by
    have := sum_set_add x (by simpa using h)
    simp; omega

theorem Thread.held_le {max : Nat} {s : Sys} {t : Thread} (h : t ∈ s.threads) :
    t.held max ≤ s.held max :=
  List.le_sum_of_mem (List.mem_map_of_mem _ h)

/-- A step of the system keeps every permit free or held. -/
theorem Sys.conserved_step {sem : Semaphore} {s s' : Sys} {i : Nat} {act : Act}
    (h : s.step sem i act = some s') (hc : s.a + s.held sem.max = sem.max) :
    s'.a + s'.held sem.max = sem.max := by
  obtain ⟨t, a', t', w, ht, hs, rfl⟩ := Sys.step_eq_some h
  have hle := @Thread.held_le sem.max _ _ (List.getElem?_mem ht)
  have hstep := Thread.held_step hs (by have := sem.max_lt; omega)
  have hset : ((s.threads.set i t').map (Thread.held sem.max)).sum + t.held sem.max =
      s.held sem.max + t'.held sem.max := by
    rw [List.map_set]
    exact sum_set_add _ (by simp [ht])
  have hwake : ∀ l : List Thread,
      (l.map Thread.wake).map (Thread.held sem.max) = l.map (Thread.held sem.max) :=
    fun l => by rw [List.map_map]; exact List.map_congr_left fun u _ => Thread.held_wake _ u
  show a' + (List.map (Thread.held sem.max)
    (if w then (s.threads.set i t').map Thread.wake else s.threads.set i t')).sum = sem.max
  split
  · rw [hwake]; omega
  · omega

/-- Permits are conserved in every state any interleaving reaches. -/
theorem Reachable.conserved {sem : Semaphore} {s : Sys} (h : Reachable sem s) :
    s.a + s.held sem.max = sem.max := by
  induction h with
  | init n => simp [Sys.init, Sys.held, Thread.held]
  | step i act _ hs ih => exact Sys.conserved_step hs ih

/-- Permit conservation: in every reachable state the free permits and the held
ones make `max`. So every release a thread can start adds to the counter without
wrapping it, and a thread that holds all permits through `acquire_all` holds
every permit held, with the counter at `0`. -/
theorem permits_conserved (sem : Semaphore) {s : Sys} (h : Reachable sem s) :
    s.a + s.held sem.max = sem.max ∧
    (∀ t ∈ s.threads, (0 < t.ones → s.a + 1 ≤ sem.max) ∧ (0 < t.alls → s.a + sem.max ≤ sem.max)) ∧
    (∀ t ∈ s.threads, 0 < t.alls → s.a = 0 ∧ t.held sem.max = s.held sem.max) := by
  have hc := h.conserved
  refine ⟨hc, fun t ht => ?_, fun t ht hl => ?_⟩ <;> have hle := @Thread.held_le sem.max _ _ ht <;>
    unfold Thread.held at hle
  · exact ⟨fun ho => by omega, fun hl => by
      have : sem.max ≤ t.alls * sem.max := Nat.le_mul_of_pos_left _ hl
      omega⟩
  · have : sem.max ≤ t.alls * sem.max := Nat.le_mul_of_pos_left _ hl
    unfold Thread.held; omega

/-- Two permits, and a state with one of them taken by `acquire`. -/
theorem permits_conserved_after_acquire :
    Reachable ⟨2, by decide, by decide⟩ ⟨1, [⟨.idle, 1, 0⟩, ⟨.idle, 0, 0⟩]⟩ ∧
    1 + Sys.held 2 ⟨1, [⟨.idle, 1, 0⟩, ⟨.idle, 0, 0⟩]⟩ = 2 ∧
    (∀ t ∈ [(⟨.idle, 1, 0⟩ : Thread), ⟨.idle, 0, 0⟩], (0 < t.ones → 1 + 1 ≤ 2) ∧ (0 < t.alls → 1 + 2 ≤ 2)) ∧
    (∀ t ∈ [(⟨.idle, 1, 0⟩ : Thread), ⟨.idle, 0, 0⟩], 0 < t.alls →
      1 = 0 ∧ t.held 2 = Sys.held 2 ⟨1, [⟨.idle, 1, 0⟩, ⟨.idle, 0, 0⟩]⟩) :=
  have h : Reachable ⟨2, by decide, by decide⟩ ⟨1, [⟨.idle, 1, 0⟩, ⟨.idle, 0, 0⟩]⟩ :=
    @run_reachable _ _ _ [(0, .call .acquire), (0, .step), (0, .step), (0, .cas false)]
      (Reachable.init 2) rfl
  ⟨h, permits_conserved _ h⟩

end DbtXdbc.Semaphore
