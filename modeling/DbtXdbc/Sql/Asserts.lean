import DbtXdbc.Sql.Parser

/-!
# Debug assertions of the renderer

`TimeZoneSpec::write_single_token_suffix` asserts that the backend has the
time-zone variant it is asked to write. `SqlType::write` calls it for the
timestamps of Snowflake, of Databricks, and of the PostgreSQL family when they
have no precision; BigQuery renders its timestamps with
`write_with_leading_space`, which asserts nothing. So a rendering fails an
assertion exactly when the type holds, at any depth, a timestamp `WITH LOCAL
TIME ZONE` on the Databricks family, or one without precision on the
PostgreSQL family (`write_asserts_iff`). The parser produces such types:
`TIMESTAMP WITH LOCAL TIME ZONE` parses on every backend
(`parsed_local_timestamp_asserts`).
-/

namespace DbtXdbc

mutual

/-- Whether `t` holds, at any depth, a timestamp `WITH LOCAL TIME ZONE` whose
single-token rendering on backend `b` has no such type: on the Databricks family,
and on the PostgreSQL family when it has no precision. -/
def SqlType.hasUnsupportedLocal (b : Backend) : SqlType → Bool
  | .timestamp p .«local» => b.isDatabricks || (b.isPostgres && p.isNone)
  | .array (some t) => SqlType.hasUnsupportedLocal b t
  | .struct (some fields) => SqlType.fieldsHaveUnsupportedLocal b fields
  | .map (some (k, v)) => SqlType.hasUnsupportedLocal b k || SqlType.hasUnsupportedLocal b v
  | _ => false

/-- `SqlType.hasUnsupportedLocal` for some field of a struct. -/
def SqlType.fieldsHaveUnsupportedLocal (b : Backend) : List (Ident × SqlType × Bool) → Bool
  | [] => false
  | (_, t, _) :: fields =>
    SqlType.hasUnsupportedLocal b t || SqlType.fieldsHaveUnsupportedLocal b fields

end

/-! ## The assertions a nested type reaches are those of its members -/

theorem failed_writeIn_array (b : Backend) (d : Dialect) (t : SqlType) :
    (SqlType.writeIn b d (.array (some t))).failed = (SqlType.writeIn b d t).failed := by
  cases d <;> exact List.append_nil _

theorem failed_writeIn_struct (b : Backend) (d : Dialect) (fields : List (Ident × SqlType × Bool)) :
    (SqlType.writeIn b d (.struct (some fields))).failed = (SqlType.writeFields b d 0 fields).failed := by
  cases d <;> exact List.append_nil _

theorem failed_writeIn_map (b : Backend) (d : Dialect) (k v : SqlType) :
    (SqlType.writeIn b d (.map (some (k, v)))).failed =
      (SqlType.writeIn b d k).failed ++ (SqlType.writeIn b d v).failed := by
  have h : ∀ K V : List String, (([] ++ K ++ []) ++ V) ++ [] = K ++ V := by simp
  cases d <;> exact h _ _

theorem failed_writeFields_cons (b : Backend) (d : Dialect) (i : Nat) (name : Ident) (t : SqlType)
    (nullable : Bool) (fields : List (Ident × SqlType × Bool)) :
    (SqlType.writeFields b d i ((name, t, nullable) :: fields)).failed =
      (SqlType.writeIn b d t).failed ++ (SqlType.writeFields b d (i + 1) fields).failed := by
  have h : ∀ T F : List String, (([] ++ [] ++ T) ++ []) ++ F = T ++ F := by simp
  exact h _ _

/-! ## The assertions of one node -/

/-- A timestamp fails an assertion exactly where `hasUnsupportedLocal` says. -/
theorem isEmpty_failed_timestamp (b : Backend) (p : Option UInt8) (tz : TimeZoneSpec) :
    (SqlType.writeIn b b.dialect (.timestamp p tz)).failed.isEmpty =
      !(SqlType.timestamp p tz).hasUnsupportedLocal b := by
  cases b <;> cases tz <;> cases p <;> rfl

/-! ## The assertions of a whole rendering -/

theorem isEmpty_append {α : Type} (l₁ l₂ : List α) : (l₁ ++ l₂).isEmpty = (l₁.isEmpty && l₂.isEmpty) := by
  cases l₁ <;> rfl

mutual

theorem isEmpty_failed_writeIn (b : Backend) :
    (t : SqlType) → (SqlType.writeIn b b.dialect t).failed.isEmpty = !t.hasUnsupportedLocal b
  | .array (some t) => by
    rw [failed_writeIn_array, isEmpty_failed_writeIn b t]; rfl
  | .struct (some fields) => by
    rw [failed_writeIn_struct, isEmpty_failed_writeFields b 0 fields]; rfl
  | .map (some (k, v)) => by
    rw [failed_writeIn_map, isEmpty_append, isEmpty_failed_writeIn b k,
      isEmpty_failed_writeIn b v, ← Bool.not_or]; rfl
  | .timestamp p tz => isEmpty_failed_timestamp b p tz
  | .time p tz => by cases b <;> cases tz <;> rfl
  | .float p => by cases b <;> cases p <;> rfl
  | .numeric ps | .bigNumeric ps => by cases b <;> rcases ps with _ | ⟨_, _ | _⟩ <;> rfl
  | .char len | .varchar len => by cases b <;> cases len <;> rfl
  | .interval q => by cases b <;> rcases q with _ | ⟨_, _ | _⟩ <;> rfl
  | .boolean | .tinyInt | .smallInt | .integer | .bigInt | .real | .double | .text | .clob | .blob
  | .binary | .date | .dateTime | .json | .jsonb | .geometry | .geography | .variant | .void
  | .array none | .struct none | .map none | .other _ => by cases b <;> rfl

theorem isEmpty_failed_writeFields (b : Backend) (i : Nat) :
    (fields : List (Ident × SqlType × Bool)) →
      (SqlType.writeFields b b.dialect i fields).failed.isEmpty =
        !SqlType.fieldsHaveUnsupportedLocal b fields
  | [] => rfl
  | (name, t, nullable) :: fields => by
    rw [failed_writeFields_cons, isEmpty_append, isEmpty_failed_writeIn b t,
      isEmpty_failed_writeFields b (i + 1) fields, ← Bool.not_or]; rfl

end

/-- Rendering a type fails a debug assertion exactly when it holds, at any
depth, a timestamp `WITH LOCAL TIME ZONE` on the Databricks family, or one
without precision on the PostgreSQL family. -/
theorem write_asserts_iff (b : Backend) (t : SqlType) :
    (t.write b).failed ≠ [] ↔ t.hasUnsupportedLocal b = true := by
  rw [Ne, ← List.isEmpty_iff, SqlType.write, isEmpty_failed_writeIn]
  simp

/-- `TIMESTAMP WITH LOCAL TIME ZONE` parses on PostgreSQL and on Databricks, and
rendering it fails an assertion on both. -/
theorem parsed_local_timestamp_asserts :
    SqlType.parse .postgres "TIMESTAMP WITH LOCAL TIME ZONE" = .ok (.timestamp none .«local», true) ∧
    ((SqlType.timestamp none .«local»).write .postgres).failed =
      ["PostgreSQL does not have a TIMESTAMP WITH LOCAL TIME ZONE type"] ∧
    SqlType.parse .databricks "TIMESTAMP WITH LOCAL TIME ZONE" =
      .ok (.timestamp none .«local», true) ∧
    ((SqlType.timestamp none .«local»).write .databricks).failed =
      ["Databricks does not have a TIMESTAMP WITH LOCAL TIME ZONE type"] :=
  ⟨rfl, rfl, rfl, rfl⟩

end DbtXdbc
