import Mathlib.Tactic

/-!
# Backends

The SQL backends `crate::Backend` names, and the groups of them that
`sql/types.rs` treats alike. `SqlType::write` and the time-zone writers match on
the PostgreSQL family (`Postgres | Redshift | RedshiftODBC`) and the Databricks
family (`Databricks | DatabricksODBC`); `Backend.dialect` is that view of a
backend, so that the renderer matches on five cases instead of nine.
-/

namespace DbtXdbc

/-- Modelled from the spec: `crate::Backend` (its declaration is not under `src/`),
with the variants spec §3 lists and the fields the tests give `Generic`. -/
inductive Backend where
  | postgres
  | redshift
  | redshiftODBC
  | snowflake
  | bigQuery
  | databricks
  | databricksODBC
  | salesforce
  | generic (libraryName : String) (entrypoint : Option String)
  deriving DecidableEq, Repr

/-- The groups of backends the arms of `SqlType::write` tell apart. -/
inductive Dialect where
  | bigQuery
  | snowflake
  | postgres
  | databricks
  | generic
  deriving DecidableEq, Repr

namespace Backend

/-- `matches!(backend, Postgres | Redshift | RedshiftODBC)`. -/
def isPostgres : Backend → Bool
  | .postgres | .redshift | .redshiftODBC => true
  | _ => false

/-- `matches!(backend, Databricks | DatabricksODBC)`. -/
def isDatabricks : Backend → Bool
  | .databricks | .databricksODBC => true
  | _ => false

/-- `matches!(backend, Postgres | Redshift | RedshiftODBC | Generic { .. })`: the
backends whose parser reads `(...)` structs and postfix `[]` arrays. -/
def isPostgresOrGeneric : Backend → Bool
  | .postgres | .redshift | .redshiftODBC | .generic _ _ => true
  | _ => false

/-- Which arms of `SqlType::write` a backend takes. -/
def dialect : Backend → Dialect
  | .bigQuery => .bigQuery
  | .snowflake => .snowflake
  | .postgres | .redshift | .redshiftODBC => .postgres
  | .databricks | .databricksODBC => .databricks
  | .salesforce | .generic _ _ => .generic

theorem dialect_postgres_iff (b : Backend) : b.dialect = .postgres ↔ b.isPostgres := by
  cases b <;> simp [dialect, isPostgres]

end Backend

end DbtXdbc
