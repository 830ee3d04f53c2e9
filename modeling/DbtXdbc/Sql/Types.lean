import DbtXdbc.Sql.Ident

/-!
# SQL types and their rendering

`SqlType` and its parts (`DateTimeField`, `TimeZoneSpec`) as `types.rs` declares
them, and `SqlType::write`, which renders a type in the preferred syntax of a
backend.

`write` appends to a `String` and can only fail a `debug_assert!`: the model
returns an `Out`, the text it appends together with the messages of the
`debug_assert!`s it reached whose condition was false. A release build renders
`Out.text`; a debug build panics at the first message of `Out.failed`. The arms
of `write` are matched in the code's order on `Backend.dialect`, with the
PostgreSQL and Databricks families each one case.
-/

namespace DbtXdbc

/-- `DateTimeField`. -/
inductive DateTimeField where
  | year
  | month
  | day
  | hour
  | minute
  | second
  | millisecond
  | microsecond
  | nanosecond
  deriving DecidableEq, Repr

namespace DateTimeField

/-- `Display for DateTimeField`. -/
def name : DateTimeField → String
  | .year => "YEAR"
  | .month => "MONTH"
  | .day => "DAY"
  | .hour => "HOUR"
  | .minute => "MINUTE"
  | .second => "SECOND"
  | .millisecond => "MILLISECOND"
  | .microsecond => "MICROSECOND"
  | .nanosecond => "NANOSECOND"

/-- `DateTimeField::write`: on the PostgreSQL family the sub-second fields are
`SECOND` with a precision. -/
def write (f : DateTimeField) (b : Backend) : String :=
  if b.isPostgres then
    match f with
    | .millisecond => "SECOND(3)"
    | .microsecond => "SECOND(6)"
    | .nanosecond => "SECOND(9)"
    | _ => f.name
  else f.name

/-- `DateTimeField::from_precision`. -/
def fromPrecision (p : UInt8) : DateTimeField :=
  if p.toNat ≤ 2 then .second
  else if p.toNat ≤ 5 then .millisecond
  else if p.toNat ≤ 8 then .microsecond
  else .nanosecond

end DateTimeField

/-- `TimeZoneSpec`. -/
inductive TimeZoneSpec where
  /-- WITH LOCAL TIME ZONE -/
  | «local»
  /-- WITH TIME ZONE -/
  | «with»
  /-- WITHOUT TIME ZONE -/
  | without
  /-- no specification, as in a bare TIMESTAMP -/
  | unspecified
  deriving DecidableEq, Repr

/-- What one call of `write` appends to `out`, and the messages of the
`debug_assert!`s it reached whose condition was false. -/
structure Out where
  text : String
  failed : List String

instance : Append Out := ⟨fun a b => ⟨a.text ++ b.text, a.failed ++ b.failed⟩⟩

/-- `write!(out, "{s}")`. -/
def emit (s : String) : Out := ⟨s, []⟩

/-- `debug_assert!(c, msg)`. -/
def debugAssert (c : Bool) (msg : String) : Out := ⟨"", if c then [] else [msg]⟩

@[simp] theorem Out.text_append (a b : Out) : (a ++ b).text = a.text ++ b.text := rfl
@[simp] theorem Out.failed_append (a b : Out) : (a ++ b).failed = a.failed ++ b.failed := rfl
@[simp] theorem text_emit (s : String) : (emit s).text = s := rfl
@[simp] theorem failed_emit (s : String) : (emit s).failed = [] := rfl
@[simp] theorem text_debugAssert (c : Bool) (m : String) : (debugAssert c m).text = "" := rfl
@[simp] theorem failed_debugAssert (c : Bool) (m : String) :
    (debugAssert c m).failed = if c then [] else [m] := rfl

namespace TimeZoneSpec

/-- `TimeZoneSpec::write_with_leading_space`. -/
def writeWithLeadingSpace (tz : TimeZoneSpec) (b : Backend) : Out :=
  match b.dialect, tz with
  | .bigQuery, .without | .bigQuery, .unspecified => emit ""
  | .postgres, .without => emit ""
  | _, .«local» => emit " WITH LOCAL TIME ZONE"
  | _, .«with» => emit " WITH TIME ZONE"
  | _, .without => emit " WITHOUT TIME ZONE"
  | _, .unspecified => emit ""

/-- `TimeZoneSpec::write_single_token_suffix`, with its three `debug_assert!`s. -/
def writeSingleTokenSuffix (tz : TimeZoneSpec) (b : Backend) : Out :=
  match b.dialect, tz with
  | .bigQuery, _ =>
    debugAssert (decide (tz = .without ∨ tz = .unspecified))
      "BigQuery does not support time zone suffixes in its type names"
  | .postgres, .«local» | .postgres, .«with» =>
    debugAssert (decide (tz = .«with»)) "PostgreSQL does not have a TIMESTAMP WITH LOCAL TIME ZONE type" ++
      emit "TZ"
  | .postgres, .without | .postgres, .unspecified => emit ""
  | .databricks, .«local» | .databricks, .unspecified =>
    debugAssert (decide (tz ≠ .«local»)) "Databricks does not have a TIMESTAMP WITH LOCAL TIME ZONE type"
  | .databricks, .without => emit "_NTZ"
  | .databricks, .«with» => emit ""
  | _, .«local» => emit "_LTZ"
  | _, .«with» => emit "_TZ"
  | _, .without => emit "_NTZ"
  | _, .unspecified => emit ""

/-- `TimeZoneSpec::is_with_time_zone`: the answer, and the messages of the
`debug_assert!`s it fails on the way, as `Out.failed` has them for the
renderer. Snowflake with no specification fails one, whose time zone depends on
the session. -/
def isWithTimeZone (tz : TimeZoneSpec) (b : Backend) : Bool × List String :=
  match b, tz with
  | .databricks, .unspecified | .databricks, .«with» | .databricks, .«local» => (true, [])
  | .snowflake, .unspecified =>
    (false, (debugAssert false ("Snowflake TIMESTAMP without a time zone spec is ambiguous. " ++
      "Avoid constructing Snowflake TIME/TIMESTAMP types without an explicit time zone specification.")).failed)
  | _, .«with» | _, .«local» => (true, [])
  | _, .without | _, .unspecified => (false, [])

end TimeZoneSpec

/-- `SqlType`: the syntax of a SQL type. -/
inductive SqlType where
  | boolean
  | tinyInt
  | smallInt
  | integer
  | bigInt
  | real
  | float (precision : Option UInt8)
  | double
  | numeric (ps : Option (UInt8 × Option I8))
  | bigNumeric (ps : Option (UInt8 × Option I8))
  | char (len : Option UInt64)
  | varchar (len : Option UInt64)
  | text
  | clob
  | blob
  | binary
  | date
  | time (precision : Option UInt8) (timeZoneSpec : TimeZoneSpec)
  | timestamp (precision : Option UInt8) (timeZoneSpec : TimeZoneSpec)
  | dateTime
  | interval (qualifier : Option (DateTimeField × Option DateTimeField))
  | json
  | jsonb
  | geometry
  | geography
  | array (inner : Option SqlType)
  | struct (fields : Option (List (Ident × SqlType × Bool)))
  | map (kv : Option (SqlType × SqlType))
  | variant
  | void
  | other (s : String)

/-- `"(p)"`, for `write!(out, "({p})")`. -/
def parens (s : String) : String := "(" ++ s ++ ")"

/-- `"(p, s)"`, for `write!(out, "({p}, {s})")`. -/
def parens2 (p : UInt8) (s : I8) : String := "(" ++ toString p ++ ", " ++ s.toString ++ ")"

mutual

/-- `SqlType::write` on backend `b`, whose dialect is the first argument. -/
def SqlType.writeIn (b : Backend) : Dialect → SqlType → Out
  -- BigQuery
  | .bigQuery, .boolean => emit "BOOL"
  | .bigQuery, .tinyInt | .bigQuery, .smallInt | .bigQuery, .integer | .bigQuery, .bigInt => emit "INT64"
  | .bigQuery, .real | .bigQuery, .float _ | .bigQuery, .double => emit "FLOAT64"
  | .bigQuery, .char _ | .bigQuery, .varchar _ | .bigQuery, .text | .bigQuery, .clob => emit "STRING"
  | .bigQuery, .blob | .bigQuery, .binary => emit "BYTES"
  | .bigQuery, .time _ tz => emit "TIME" ++ tz.writeWithLeadingSpace b
  | .bigQuery, .timestamp _ tz => emit "TIMESTAMP" ++ tz.writeWithLeadingSpace b
  -- Snowflake
  | .snowflake, .float _ => emit "FLOAT"
  | .snowflake, .numeric none | .snowflake, .bigNumeric none => emit "NUMBER"
  | .snowflake, .numeric (some (p, none)) | .snowflake, .bigNumeric (some (p, none)) =>
    emit ("NUMBER" ++ parens (toString p))
  | .snowflake, .numeric (some (p, some s)) | .snowflake, .bigNumeric (some (p, some s)) =>
    emit ("NUMBER" ++ parens2 p s)
  | .snowflake, .clob => emit "TEXT"
  | .snowflake, .blob => emit "BINARY"
  | .snowflake, .time p tz =>
    emit "TIME" ++ emit (match p with | some p => parens (toString p) | none => "") ++
      match tz with
      | .unspecified | .without => emit ""
      | .«local» | .«with» => tz.writeWithLeadingSpace b
  | .snowflake, .timestamp p tz =>
    emit "TIMESTAMP" ++ tz.writeSingleTokenSuffix b ++
      emit (match p with | some p => parens (toString p) | none => "")
  | .snowflake, .dateTime => emit "TIMESTAMP_NTZ"
  -- PostgreSQL
  | .postgres, .tinyInt => emit "SMALLINT"
  | .postgres, .binary | .postgres, .blob => emit "BYTEA"
  | .postgres, .dateTime => emit "TIMESTAMP"
  | .postgres, .timestamp p tz =>
    match p with
    | some p => emit ("TIMESTAMP" ++ parens (toString p)) ++ tz.writeWithLeadingSpace b
    | none => emit "TIMESTAMP" ++ tz.writeSingleTokenSuffix b
  | .postgres, .float _ => emit "REAL"
  | .postgres, .clob => emit "TEXT"
  | .postgres, .array (some inner) => SqlType.writeIn b .postgres inner ++ emit "[]"
  -- Databricks
  | .databricks, .binary | .databricks, .blob => emit "BINARY"
  | .databricks, .clob | .databricks, .text | .databricks, .varchar _ => emit "STRING"
  | .databricks, .numeric none | .databricks, .bigNumeric none => emit "DECIMAL"
  | .databricks, .numeric (some (p, none)) | .databricks, .bigNumeric (some (p, none)) =>
    emit ("DECIMAL" ++ parens (toString p))
  | .databricks, .numeric (some (p, some s)) | .databricks, .bigNumeric (some (p, some s)) =>
    emit ("DECIMAL" ++ parens2 p s)
  | .databricks, .real | .databricks, .float _ => emit "FLOAT"
  | .databricks, .double => emit "DOUBLE"
  | .databricks, .dateTime => emit "TIMESTAMP_NTZ"
  | .databricks, .timestamp _ tz => emit "TIMESTAMP" ++ tz.writeSingleTokenSuffix b
  -- Generic SQL / fallback
  | _, .boolean => emit "BOOLEAN"
  | _, .tinyInt => emit "TINYINT"
  | _, .smallInt => emit "SMALLINT"
  | _, .integer => emit "INT"
  | _, .bigInt => emit "BIGINT"
  | _, .real => emit "REAL"
  | _, .float (some p) => emit ("FLOAT" ++ parens (toString p))
  | _, .float none => emit "FLOAT"
  | _, .double => emit "DOUBLE PRECISION"
  | _, .numeric none => emit "NUMERIC"
  | _, .numeric (some (p, none)) => emit ("NUMERIC" ++ parens (toString p))
  | _, .numeric (some (p, some s)) => emit ("NUMERIC" ++ parens2 p s)
  | _, .bigNumeric none => emit "BIGNUMERIC"
  | _, .bigNumeric (some (p, none)) => emit ("BIGNUMERIC" ++ parens (toString p))
  | _, .bigNumeric (some (p, some s)) => emit ("BIGNUMERIC" ++ parens2 p s)
  | _, .char none => emit "CHAR"
  | _, .char (some len) => emit "CHAR" ++ emit (if len > 0 then parens (toString len) else "")
  | _, .varchar none => emit "VARCHAR"
  | _, .varchar (some len) => emit "VARCHAR" ++ emit (if len > 0 then parens (toString len) else "")
  | _, .text => emit "TEXT"
  | _, .clob => emit "CLOB"
  | _, .blob => emit "BLOB"
  | _, .binary => emit "BINARY"
  | _, .date => emit "DATE"
  | _, .time p tz =>
    emit (match p with | some p => "TIME" ++ parens (toString p) | none => "TIME") ++
      tz.writeWithLeadingSpace b
  | _, .dateTime => emit "DATETIME"
  | _, .timestamp p tz =>
    emit (match p with | some p => "TIMESTAMP" ++ parens (toString p) | none => "TIMESTAMP") ++
      tz.writeWithLeadingSpace b
  | _, .interval none => emit "INTERVAL"
  | _, .interval (some (start, some e)) => emit ("INTERVAL " ++ start.name ++ " TO " ++ e.write b)
  | _, .interval (some (start, none)) => emit ("INTERVAL " ++ start.write b)
  | _, .json => emit "JSON"
  | _, .jsonb => emit "JSONB"
  | _, .geometry => emit "GEOMETRY"
  | _, .geography => emit "GEOGRAPHY"
  | _, .array none => emit "ARRAY"
  | d, .array (some inner) => emit "ARRAY<" ++ SqlType.writeIn b d inner ++ emit ">"
  | _, .struct none => emit "STRUCT"
  | d, .struct (some fields) =>
    emit (if b.isPostgres then "(" else "STRUCT<") ++ SqlType.writeFields b d 0 fields ++
      emit (if b.isPostgres then ")" else ">")
  | _, .map none => emit "MAP"
  | d, .map (some (k, v)) =>
    emit "MAP<" ++ SqlType.writeIn b d k ++ emit ", " ++ SqlType.writeIn b d v ++ emit ">"
  | _, .variant => emit "VARIANT"
  | _, .void => emit "VOID"
  | _, .other s => emit s

/-- The loop of `write` over the fields of a struct, the `i`-th onwards. -/
def SqlType.writeFields (b : Backend) (d : Dialect) : Nat → List (Ident × SqlType × Bool) → Out
  | _, [] => emit ""
  | i, (name, ty, nullable) :: fields =>
    emit (if i > 0 then ", " else "") ++ emit (name.display b ++ " ") ++ SqlType.writeIn b d ty ++
      emit (if nullable then "" else " NOT NULL") ++ SqlType.writeFields b d (i + 1) fields

end

/-- `SqlType::write`: the type in the preferred syntax of backend `b`. -/
def SqlType.write (t : SqlType) (b : Backend) : Out := SqlType.writeIn b b.dialect t

/-- `SqlType::to_string`: the rendering, as a release build produces it. -/
def SqlType.toString (t : SqlType) (b : Backend) : String := (t.write b).text

example : (SqlType.timestamp (some 3) .«with»).toString .postgres = "TIMESTAMP(3) WITH TIME ZONE" := by
  decide

end DbtXdbc
