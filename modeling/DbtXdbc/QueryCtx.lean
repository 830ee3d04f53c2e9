import Mathlib.Logic.Basic

/-!
# The query context of `query_ctx.rs`

`QueryCtx` carries a query and its metadata through adapter code. It is built
by a chain of `with_*` calls, each of which copies the context with one field
set and a fresh `created_at`: the SQL text and the execution phase may be set
any number of times, the last setting winning, while the node id and the
description may be set once, a second setting failing an `assert!`. A chain is
a run of `QueryCtx.call` (`QueryCtx.run`); `Utc::now()` is the clock reading
each call is given.

* `isSome_run`: a chain panics exactly when it sets the node id or the
  description a second time, counting a value the context started with;
* `run_eq_some`: the context a chain that does not panic builds: the adapter
  type it started with, the node id and description it started with or was
  given, the last SQL text and phase it was given, and the clock reading of
  its last call.
-/

namespace DbtXdbc

/-- `ExecutionPhase`. -/
inductive ExecutionPhase where
  | unspecified
  | render
  | analyze
  | run
  deriving DecidableEq, Repr

namespace ExecutionPhase

/-- `FromStr for ExecutionPhase`. -/
def fromStr : String → Except String ExecutionPhase
  | "render" => .ok .render
  | "analyze" => .ok .analyze
  | "run" => .ok .run
  | _ => .error "Invalid execution phase"

/-- `Display for ExecutionPhase`. -/
def display : ExecutionPhase → String
  | .unspecified => "unspecified"
  | .render => "render"
  | .analyze => "analyze"
  | .run => "run"

end ExecutionPhase

/-- `QueryCtx`; `created_at` is the clock reading `Utc::now()` returned when it
was created. -/
structure QueryCtx where
  adapterType : String
  nodeUniqueId : Option String
  phase : Option ExecutionPhase
  sql : Option String
  createdAt : Nat
  desc : Option String

namespace QueryCtx

/-- `QueryCtx::create`, at clock reading `now`. -/
def create (adapterType : String) (nodeUniqueId : Option String) (phase : Option ExecutionPhase)
    (sql : Option String) (desc : Option String) (now : Nat) : QueryCtx :=
  ⟨adapterType, nodeUniqueId, phase, sql, now, desc⟩

/-- `QueryCtx::new`. -/
def new (adapterType : String) (now : Nat) : QueryCtx := create adapterType none none none none now

/-- `QueryCtx::with_node_id`; `none` where its `assert!` fails. -/
def withNodeId (c : QueryCtx) (nodeUniqueId : String) (now : Nat) : Option QueryCtx :=
  if c.nodeUniqueId.isNone then some (create c.adapterType (some nodeUniqueId) c.phase c.sql c.desc now)
  else none

/-- `QueryCtx::with_sql`. -/
def withSql (c : QueryCtx) (sql : String) (now : Nat) : QueryCtx :=
  create c.adapterType c.nodeUniqueId c.phase (some sql) c.desc now

/-- `QueryCtx::with_desc`; `none` where its `assert!` fails. -/
def withDesc (c : QueryCtx) (desc : String) (now : Nat) : Option QueryCtx :=
  if c.desc.isNone then some (create c.adapterType c.nodeUniqueId c.phase c.sql (some desc) now)
  else none

/-- `QueryCtx::with_phase`. -/
def withPhase (c : QueryCtx) (phase : ExecutionPhase) (now : Nat) : QueryCtx :=
  create c.adapterType c.nodeUniqueId (some phase) c.sql c.desc now

/-- The `with_*` methods. -/
inductive Call where
  | nodeId (nodeUniqueId : String)
  | sql (sql : String)
  | desc (desc : String)
  | phase (phase : ExecutionPhase)

/-- One `with_*` call, at clock reading `now`. -/
def call (c : QueryCtx) (now : Nat) : Call → Option QueryCtx
  | .nodeId id => c.withNodeId id now
  | .sql s => some (c.withSql s now)
  | .desc d => c.withDesc d now
  | .phase p => some (c.withPhase p now)

/-- A chain of `with_*` calls, each with its clock reading. -/
def run : QueryCtx → List (Call × Nat) → Option QueryCtx
  | c, [] => some c
  | c, (k, now) :: rest => (c.call now k).bind (run · rest)

/-! ## What a chain builds -/

namespace Call

/-- The node id a call sets, if it is `with_node_id`. -/
def nodeId? : Call → Option String
  | .nodeId id => some id
  | _ => none

/-- The SQL text a call sets, if it is `with_sql`. -/
def sql? : Call → Option String
  | .sql s => some s
  | _ => none

/-- The description a call sets, if it is `with_desc`. -/
def desc? : Call → Option String
  | .desc d => some d
  | _ => none

/-- The phase a call sets, if it is `with_phase`. -/
def phase? : Call → Option ExecutionPhase
  | .phase p => some p
  | _ => none

end Call

/-- The value `f` finds in the last call of a chain that has one, or `x`. -/
def lastOr {α : Type} (f : Call → Option α) (calls : List (Call × Nat)) (x : Option α) : Option α :=
  calls.foldl (fun x k => (f k.1).orElse fun _ => x) x

/-- The context a chain that does not panic builds. -/
def built (c : QueryCtx) (calls : List (Call × Nat)) : QueryCtx :=
  ⟨c.adapterType, lastOr Call.nodeId? calls c.nodeUniqueId, lastOr Call.phase? calls c.phase,
    lastOr Call.sql? calls c.sql, calls.foldl (fun _ k => k.2) c.createdAt, lastOr Call.desc? calls c.desc⟩

/-- How often a chain sets a field `f` reads, counting a value it starts with. -/
def sets {α : Type} (f : Call → Option α) (calls : List (Call × Nat)) (x : Option α) : Nat :=
  x.isSome.toNat + calls.countP fun k => (f k.1).isSome

theorem sets_cons {α : Type} (f : Call → Option α) (k : Call) (now : Nat) (calls : List (Call × Nat))
    (x : Option α) :
    sets f ((k, now) :: calls) x = x.isSome.toNat + (f k).isSome.toNat + calls.countP fun k => (f k.1).isSome := by
  unfold sets
  rw [List.countP_cons]
  cases (f k).isSome <;> simp only [Bool.toNat_false, Bool.toNat_true, Bool.false_eq_true, ↓reduceIte] <;> omega

/-- One call: it panics exactly when it sets the node id or the description a
second time, and otherwise builds what `built` says of a chain of one. -/
theorem call_eq (c : QueryCtx) (now : Nat) (k : Call) :
    c.call now k = if (c.nodeUniqueId.isSome && (k.nodeId?).isSome) || (c.desc.isSome && (k.desc?).isSome)
      then none else some (built c [(k, now)]) := by
  obtain ⟨_, _ | _, _, _, _, _ | _⟩ := c <;> cases k <;> rfl

theorem built_cons (c : QueryCtx) (k : Call) (now : Nat) (calls : List (Call × Nat)) :
    built (built c [(k, now)]) calls = built c ((k, now) :: calls) :=
  rfl

end QueryCtx

theorem toNat_isSome_orElse {α : Type} (a b : Option α) (h : (b.isSome && a.isSome) = false) :
    (a.orElse fun _ => b).isSome.toNat = b.isSome.toNat + a.isSome.toNat := by
  cases a <;> cases b <;> first | rfl | cases h

open QueryCtx in
/-- A chain of `with_*` calls panics exactly when it sets the node id or the
description twice, counting a value the context starts with. -/
theorem isSome_run (c : QueryCtx) (calls : List (Call × Nat)) :
    (c.run calls).isSome = decide (sets Call.nodeId? calls c.nodeUniqueId ≤ 1 ∧ sets Call.desc? calls c.desc ≤ 1) := by
  induction calls generalizing c with
  | nil => cases c.nodeUniqueId <;> cases c.desc <;> rfl
  | cons kn calls ih =>
    obtain ⟨k, now⟩ := kn
    rw [run, call_eq, sets_cons, sets_cons]
    split
    · rename_i h
      simp only [Bool.or_eq_true, Bool.and_eq_true] at h
      rw [Option.none_bind, Option.isSome_none, eq_comm, decide_eq_false_iff_not]
      rcases h with ⟨h₁, h₂⟩ | ⟨h₁, h₂⟩ <;> rw [h₁, h₂] <;> simp only [Bool.toNat_true] <;> omega
    · rename_i h
      simp only [Bool.not_eq_true, Bool.or_eq_false_iff] at h
      rw [Option.some_bind, ih, sets, sets]
      show decide (((k.nodeId?).orElse fun _ => c.nodeUniqueId).isSome.toNat + _ ≤ 1 ∧
        ((k.desc?).orElse fun _ => c.desc).isSome.toNat + _ ≤ 1) = _
      rw [toNat_isSome_orElse _ _ h.1, toNat_isSome_orElse _ _ h.2]

/-- `with_desc` twice panics, as `test_desc_twice` expects. -/
example : ((QueryCtx.new "fake" 0).run [(.desc "abc", 1), (.desc "123", 2)]).isSome = false := rfl

open QueryCtx in
/-- What a chain of `with_*` calls that does not panic builds: the adapter type
it starts with, the node id and description it starts with or sets once, the
last SQL text and phase it sets, and the clock reading of its last call. -/
theorem run_eq_some {c c' : QueryCtx} {calls : List (Call × Nat)} (h : c.run calls = some c') :
    c' = built c calls := by
  induction calls generalizing c with
  | nil => cases c; exact (Option.some.inj h).symm
  | cons kn calls ih =>
    obtain ⟨k, now⟩ := kn
    rw [run, call_eq] at h
    split at h
    · cases h
    · rw [Option.some_bind] at h
      rw [ih h, built_cons]

/-- `QueryCtx::new("fake")`, then `with_sql`, `with_desc` and `with_sql` again:
the last SQL text, the description, and the clock reading of the last call. -/
theorem run_eq_some_fake :
    (QueryCtx.new "fake" 0).run [(.sql "select 1", 1), (.desc "d", 2), (.sql "select 2", 3)] =
      some ⟨"fake", none, none, some "select 2", 3, some "d"⟩ ∧
    (⟨"fake", none, none, some "select 2", 3, some "d"⟩ : QueryCtx) =
      QueryCtx.built (QueryCtx.new "fake" 0) [(.sql "select 1", 1), (.desc "d", 2), (.sql "select 2", 3)] :=
  ⟨rfl, run_eq_some rfl⟩

end DbtXdbc
