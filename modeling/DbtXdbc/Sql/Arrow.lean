import DbtXdbc.Sql.Reparse
import DbtXdbc.Sql.Asserts

/-!
# The metadata bridge

`SqlType::from_field` reads the SQL type of an Arrow field: from the first of
its backend's metadata keys the field carries, parsed, or else by the
best-effort table of `_from_arrow_type` on its Arrow data type.
`SqlType::to_field` would write the rendering under the first key, but picks
its Arrow type with `_pick_best_arrow_type`, which is `todo!()`.

* `failed_write_fromArrowType`: the rendering of what it returns fails no
  debug assertion;
* `fromArrowType_reparses`: what it returns reads back from its rendering,
  unless it reaches a struct field whose name is not a plain word (the code's
  own caveat) or a union or fixed-size list, which it makes an unknown type;
* `fromField_metadata`: a field that carries, under its backend's first key,
  the rendering of a type as `SqlType::to_string` writes it in a release build
  reads back as the type that rendering reads as, and nullable, whatever the
  field says.
-/

namespace DbtXdbc

namespace Arrow

/-- Modelled from the code's match arms: `arrow_schema::TimeUnit`. -/
inductive TimeUnit where
  | second
  | millisecond
  | microsecond
  | nanosecond
  deriving DecidableEq, Repr

/-- Modelled from the code's match arms: `arrow_schema::IntervalUnit`. -/
inductive IntervalUnit where
  | yearMonth
  | dayTime
  | monthDayNano
  deriving DecidableEq, Repr

/-- Modelled from the code's match arms: `arrow_schema::DataType`, with what
`_from_arrow_type` reads of each variant. A struct field is its name, its data
type and whether it is nullable. -/
inductive DataType where
  | null
  | boolean
  | int8
  | uint8
  | int16
  | uint16
  | int32
  | uint32
  | int64
  | uint64
  | float16
  | float32
  | float64
  | decimal128 (precision : UInt8) (scale : I8)
  | decimal256 (precision : UInt8) (scale : I8)
  | utf8View
  | utf8
  | largeUtf8
  | binary
  | largeBinary
  | binaryView
  | fixedSizeBinary
  | date32
  | date64
  | time32 (unit : TimeUnit)
  | time64 (unit : TimeUnit)
  | timestamp (unit : TimeUnit) (tz : Option String)
  | duration
  | interval (unit : IntervalUnit)
  | list
  | largeList
  | listView
  | largeListView
  | fixedSizeList
  | struct (fields : List (String × DataType × Bool))
  | union
  | map
  | dictionary (valueType : DataType)
  | runEndEncoded (values : DataType)

/-- Modelled from the code: an `arrow_schema::Field`, with its metadata map as
a list of pairs (`HashMap::get` is `List.lookup`). -/
structure Field where
  name : String
  dataType : DataType
  nullable : Bool
  metadata : List (String × String)

end Arrow

/-! ## The best-effort table -/

mutual

/-- `SqlType::_from_arrow_type`; `none` where the code panics (`todo!` on a
`Duration`, `unreachable!` on a time unit a `Time32` or `Time64` cannot have). -/
def SqlType.fromArrowType (b : Backend) : Arrow.DataType → Option SqlType
  | .null => some (.varchar none)
  | .boolean => some .boolean
  | .int8 | .uint8 | .int16 => some .smallInt
  | .uint16 | .int32 => some .integer
  | .uint32 | .int64 | .uint64 => some .bigInt
  | .float16 | .float32 => some .real
  | .float64 => some .double
  | .decimal128 p s | .decimal256 p s => some (.numeric (some (p, some s)))
  | .utf8View | .utf8 => some (.varchar none)
  | .largeUtf8 => some .text
  | .binary | .largeBinary | .binaryView | .fixedSizeBinary => some .binary
  | .date32 | .date64 => some .date
  | .time32 .second => some (.time none .without)
  | .time32 .millisecond => some (.time (some 3) .without)
  | .time64 .microsecond => some (.time (some 6) .without)
  | .time64 .nanosecond => some (.time (some 9) .without)
  | .time32 _ | .time64 _ => none
  | .timestamp .second tz => some (.timestamp none (if tz.isSome then .«with» else .without))
  | .timestamp .millisecond tz => some (.timestamp (some 3) (if tz.isSome then .«with» else .without))
  | .timestamp .microsecond tz => some (.timestamp (some 6) (if tz.isSome then .«with» else .without))
  | .timestamp .nanosecond tz => some (.timestamp (some 9) (if tz.isSome then .«with» else .without))
  | .duration => none
  | .interval .yearMonth => some (.interval (some (.year, some .month)))
  | .interval .dayTime => some (.interval (some (.day, some .millisecond)))
  | .interval .monthDayNano => some (.interval (some (.month, some .nanosecond)))
  | .list | .largeList | .listView | .largeListView => some (.array none)
  | .fixedSizeList => some (.other "ARRAY")
  | .struct fields => (SqlType.fromArrowFields b fields).map fun fs => .struct (some fs)
  | .union => some (.other "UNION")
  | .map => some (.map none)
  | .dictionary v => SqlType.fromArrowType b v
  | .runEndEncoded v => SqlType.fromArrowType b v

/-- The loop over the fields of a `Struct` in `_from_arrow_type`: each field
named as a plain identifier. -/
def SqlType.fromArrowFields (b : Backend) :
    List (String × Arrow.DataType × Bool) → Option (List (Ident × SqlType × Bool))
  | [] => some []
  | (name, dt, nullable) :: fields => do
    let t ← SqlType.fromArrowType b dt
    let fs ← SqlType.fromArrowFields b fields
    pure ((.plain name, t, nullable) :: fs)

end

/-! ## No debug assertion -/

theorem fromArrowFields_cons_eq_some {b : Backend} {name : String} {dt : Arrow.DataType} {nullable : Bool}
    {fields : List (String × Arrow.DataType × Bool)} {fs : List (Ident × SqlType × Bool)}
    (h : SqlType.fromArrowFields b ((name, dt, nullable) :: fields) = some fs) :
    ∃ t fs', SqlType.fromArrowType b dt = some t ∧ SqlType.fromArrowFields b fields = some fs' ∧
      fs = (.plain name, t, nullable) :: fs' := by
  rw [SqlType.fromArrowFields] at h
  cases ht : SqlType.fromArrowType b dt <;> cases hfs : SqlType.fromArrowFields b fields <;>
    simp only [ht, hfs, Option.bind_eq_bind, Option.none_bind, Option.some_bind, reduceCtorEq] at h
  exact ⟨_, _, rfl, rfl, (Option.some.inj h).symm⟩

mutual

/-- `_from_arrow_type` makes no timestamp `WITH LOCAL TIME ZONE`. -/
theorem hasUnsupportedLocal_fromArrowType (b : Backend) :
    (dt : Arrow.DataType) → ∀ {t}, SqlType.fromArrowType b dt = some t → t.hasUnsupportedLocal b = false
  | .struct fields, _, h => by
    obtain ⟨fs, hfs, rfl⟩ := Option.map_eq_some'.mp h
    exact hasUnsupportedLocal_fromArrowFields b fields hfs
  | .dictionary v, _, h | .runEndEncoded v, _, h => hasUnsupportedLocal_fromArrowType b v h
  | .timestamp u tz, _, h => by cases u <;> cases h <;> cases tz <;> rfl
  | .time32 u, _, h | .time64 u, _, h | .interval u, _, h => by cases u <;> cases h <;> rfl
  | .null, _, h | .boolean, _, h | .int8, _, h | .uint8, _, h | .int16, _, h | .uint16, _, h
  | .int32, _, h | .uint32, _, h | .int64, _, h | .uint64, _, h | .float16, _, h | .float32, _, h
  | .float64, _, h | .decimal128 _ _, _, h | .decimal256 _ _, _, h | .utf8View, _, h | .utf8, _, h
  | .largeUtf8, _, h | .binary, _, h | .largeBinary, _, h | .binaryView, _, h | .fixedSizeBinary, _, h
  | .date32, _, h | .date64, _, h | .list, _, h | .largeList, _, h | .listView, _, h
  | .largeListView, _, h | .fixedSizeList, _, h | .union, _, h | .map, _, h => by cases h; rfl
  | .duration, _, h => nomatch h

theorem hasUnsupportedLocal_fromArrowFields (b : Backend) :
    (fields : List (String × Arrow.DataType × Bool)) → ∀ {fs}, SqlType.fromArrowFields b fields = some fs →
      SqlType.fieldsHaveUnsupportedLocal b fs = false
  | [], _, h => by cases h; rfl
  | (_, dt, _) :: fields, _, h => by
    obtain ⟨t, fs', ht, hfs, rfl⟩ := fromArrowFields_cons_eq_some h
    show (t.hasUnsupportedLocal b || SqlType.fieldsHaveUnsupportedLocal b fs') = false
    rw [hasUnsupportedLocal_fromArrowType b dt ht, hasUnsupportedLocal_fromArrowFields b fields hfs]
    rfl

end

/-- The rendering of what `_from_arrow_type` returns fails no debug assertion. -/
theorem failed_write_fromArrowType {b : Backend} {dt : Arrow.DataType} {t : SqlType}
    (h : SqlType.fromArrowType b dt = some t) : (t.write b).failed = [] := by
  rw [← List.isEmpty_iff, SqlType.write, isEmpty_failed_writeIn, hasUnsupportedLocal_fromArrowType b dt h]
  rfl

/-- A dictionary of second timestamps with a time zone becomes a timestamp
`WITH TIME ZONE`, which Databricks renders with no failed assertion. -/
theorem failed_write_fromArrowType_databricks :
    SqlType.fromArrowType .databricks (.dictionary (.timestamp .second (some "UTC"))) =
      some (.timestamp none .«with») ∧
    ((SqlType.timestamp none .«with»).write .databricks).failed = [] :=
  ⟨rfl, @failed_write_fromArrowType .databricks (.dictionary (.timestamp .second (some "UTC"))) _ rfl⟩

/-! ## Reading a conversion back from its rendering -/

mutual

/-- Whether what `_from_arrow_type` makes of `dt` reads back from its rendering
inside another type: it reaches no union and no fixed-size list, which it makes
unknown types, and every struct field name it reaches is a plain word. -/
def Arrow.DataType.nests : Arrow.DataType → Bool
  | .union | .fixedSizeList => false
  | .struct fields => Arrow.DataType.fieldsNest fields
  | .dictionary v | .runEndEncoded v => Arrow.DataType.nests v
  | _ => true

/-- `Arrow.DataType.nests` for every field of a struct, and its name. -/
def Arrow.DataType.fieldsNest : List (String × Arrow.DataType × Bool) → Bool
  | [] => true
  | (name, dt, _) :: fields =>
    decide (IsPlainWord name) && Arrow.DataType.nests dt && Arrow.DataType.fieldsNest fields

end

mutual

theorem nested_fromArrowType (b : Backend) :
    (dt : Arrow.DataType) → ∀ {t}, SqlType.fromArrowType b dt = some t → dt.nests = true → t.Nested b
  | .struct fields, _, h, hn => by
    obtain ⟨fs, hfs, rfl⟩ := Option.map_eq_some'.mp h
    exact nested_fromArrowFields b fields hfs hn
  | .dictionary v, _, h, hn | .runEndEncoded v, _, h, hn => nested_fromArrowType b v h hn
  | .union, _, _, hn | .fixedSizeList, _, _, hn => nomatch hn
  | .timestamp u tz, _, h, _ => by cases u <;> cases h <;> cases tz <;> trivial
  | .time32 u, _, h, _ | .time64 u, _, h, _ | .interval u, _, h, _ => by cases u <;> cases h <;> trivial
  | .null, _, h, _ | .boolean, _, h, _ | .int8, _, h, _ | .uint8, _, h, _ | .int16, _, h, _
  | .uint16, _, h, _ | .int32, _, h, _ | .uint32, _, h, _ | .int64, _, h, _ | .uint64, _, h, _
  | .float16, _, h, _ | .float32, _, h, _ | .float64, _, h, _ | .decimal128 _ _, _, h, _
  | .decimal256 _ _, _, h, _ | .utf8View, _, h, _ | .utf8, _, h, _ | .largeUtf8, _, h, _
  | .binary, _, h, _ | .largeBinary, _, h, _ | .binaryView, _, h, _ | .fixedSizeBinary, _, h, _
  | .date32, _, h, _ | .date64, _, h, _ | .list, _, h, _ | .largeList, _, h, _
  | .listView, _, h, _ | .largeListView, _, h, _ | .map, _, h, _ => by cases h; trivial
  | .duration, _, h, _ => nomatch h

theorem nested_fromArrowFields (b : Backend) :
    (fields : List (String × Arrow.DataType × Bool)) → ∀ {fs}, SqlType.fromArrowFields b fields = some fs →
      Arrow.DataType.fieldsNest fields = true → SqlType.FieldsNested b fs
  | [], _, h, _ => by cases h; trivial
  | (_, dt, _) :: fields, _, h, hn => by
    obtain ⟨t, fs', ht, hfs, rfl⟩ := fromArrowFields_cons_eq_some h
    simp only [Arrow.DataType.fieldsNest, Bool.and_eq_true, decide_eq_true_eq] at hn
    exact ⟨hn.1.1, .inl (nested_fromArrowType b dt ht hn.1.2), nested_fromArrowFields b fields hfs hn.2⟩

end

/-- What `_from_arrow_type` returns reads back from its rendering, nullable, as
a type that renders the same, when it reaches no union, no fixed-size list and
no struct field name that is not a plain word. -/
theorem fromArrowType_reparses {b : Backend} {dt : Arrow.DataType} {t : SqlType}
    (h : SqlType.fromArrowType b dt = some t) (hn : dt.nests = true) :
    SqlType.parse b (t.toString b) = .ok (t.canon b.dialect, true) ∧
      (t.canon b.dialect).toString b = t.toString b :=
  ⟨parse_toString b t (.inl (nested_fromArrowType b dt h hn)),
    toString_canon b t (.inl (nested_fromArrowType b dt h hn))⟩

/-- A struct of a 32-bit integer and a microsecond timestamp with a time zone,
rendered on Databricks, reads back as the type it renders. -/
theorem fromArrowType_reparses_databricks :
    SqlType.fromArrowType .databricks
        (.struct [("id", .int32, false), ("at", .timestamp .microsecond (some "UTC"), true)]) =
      some (.struct (some [(.plain "id", .integer, false), (.plain "at", .timestamp (some 6) .«with», true)])) ∧
    (Arrow.DataType.struct [("id", .int32, false), ("at", .timestamp .microsecond (some "UTC"), true)]).nests ∧
    SqlType.parse .databricks ((SqlType.struct (some [(.plain "id", .integer, false),
        (.plain "at", .timestamp (some 6) .«with», true)])).toString .databricks) =
      .ok ((SqlType.struct (some [(.plain "id", .integer, false),
        (.plain "at", .timestamp (some 6) .«with», true)])).canon Backend.databricks.dialect, true) ∧
    ((SqlType.struct (some [(.plain "id", .integer, false),
        (.plain "at", .timestamp (some 6) .«with», true)])).canon Backend.databricks.dialect).toString .databricks =
      (SqlType.struct (some [(.plain "id", .integer, false),
        (.plain "at", .timestamp (some 6) .«with», true)])).toString .databricks :=
  ⟨rfl, by decide, @fromArrowType_reparses _
    (.struct [("id", .int32, false), ("at", .timestamp .microsecond (some "UTC"), true)]) _ rfl (by decide)⟩

/-- A fixed-size list becomes the unknown type `ARRAY`, whose rendering reads
back on every backend as an array of unknown element type: the unknown type is
lost. -/
theorem fromArrowType_fixedSizeList (b : Backend) :
    SqlType.fromArrowType b .fixedSizeList = some (.other "ARRAY") ∧
      SqlType.parse b ((SqlType.other "ARRAY").toString b) = .ok (.array none, true) := by
  cases b <;> exact ⟨rfl, rfl⟩

/-! ## Metadata keys -/

/-- `POSTGRES_KEYS`. -/
def postgresKeys : List String := ["POSTGRES:type", "type"]

/-- `SNOWFLAKE_KEYS`. -/
def snowflakeKeys : List String := ["SNOWFLAKE:type", "type"]

/-- `BIGQUERY_KEYS`. -/
def bigqueryKeys : List String := ["BIGQUERY:type", "type"]

/-- `DATABRICKS_KEYS`. -/
def databricksKeys : List String := ["DBX:type", "type_text", "type"]

/-- `REDSHIFT_KEYS`. -/
def redshiftKeys : List String := ["REDSHIFT:type", "type"]

/-- `GENERIC_KEYS`. -/
def genericKeys : List String := ["SQL:type", "type"]

/-- `metadata_type_candidate_keys`: the keys a backend's type string may be
stored under, the one it writes first. -/
def metadataTypeCandidateKeys : Backend → List String
  | .postgres | .salesforce => postgresKeys
  | .snowflake => snowflakeKeys
  | .bigQuery => bigqueryKeys
  | .databricks => databricksKeys
  | .redshift | .redshiftODBC => redshiftKeys
  | .databricksODBC => databricksKeys
  | .generic _ _ => genericKeys

theorem metadataTypeCandidateKeys_ne_nil (b : Backend) : metadataTypeCandidateKeys b ≠ [] := by
  cases b <;> exact List.cons_ne_nil _ _

/-- `metadata_key`: the first of the candidate keys, the one `to_field` writes. -/
def metadataKey (b : Backend) : String :=
  (metadataTypeCandidateKeys b).head (metadataTypeCandidateKeys_ne_nil b)

/-- `type_string_from_field`: the value of the first candidate key the field's
metadata holds. -/
def typeStringFromField (b : Backend) (f : Arrow.Field) : Option String :=
  (metadataTypeCandidateKeys b).findSome? fun k => f.metadata.lookup k

/-- `SqlType::from_field`: the type string of the field, parsed, nullable when
the string or the field says so; or, with no type string, the best-effort
conversion of its data type. `none` where `_from_arrow_type` panics. -/
def SqlType.fromField (b : Backend) (f : Arrow.Field) : Option (Except String (SqlType × Bool)) :=
  match typeStringFromField b f with
  | some s => some do
    let (t, nullable) ← SqlType.parse b s
    pure (t, nullable || f.nullable)
  | none => (SqlType.fromArrowType b f.dataType).map fun t => .ok (t, f.nullable)

/-- `_pick_best_arrow_type`, which is `todo!()`: it panics on every type. -/
def SqlType.pickBestArrowType (_t : SqlType) (_b : Backend) : Option Arrow.DataType := none

/-- `SqlType::to_field`: the field with the rendering under the backend's first
key; `none` where `_pick_best_arrow_type` panics. -/
def SqlType.toField (t : SqlType) (b : Backend) (name : String) (nullable : Bool) : Option Arrow.Field := do
  let dataType ← t.pickBestArrowType b
  pure ⟨name, dataType, nullable, [(metadataKey b, t.toString b)]⟩

theorem metadataTypeCandidateKeys_eq_cons (b : Backend) :
    ∃ ks, metadataTypeCandidateKeys b = metadataKey b :: ks := by
  cases b <;> exact ⟨_, rfl⟩

/-- The key a backend writes is the first it reads: a field that holds it is
read by it, whatever other candidate keys it holds. -/
theorem typeStringFromField_of_metadataKey {b : Backend} {f : Arrow.Field} {s : String}
    (h : f.metadata.lookup (metadataKey b) = some s) : typeStringFromField b f = some s := by
  obtain ⟨ks, e⟩ := metadataTypeCandidateKeys_eq_cons b
  rw [typeStringFromField, e, List.findSome?_cons, h]

/-- A field whose metadata holds, under its backend's first key, the rendering
of a type that reads back reads as the type that rendering reads as, and
nullable, whether or not the field is. -/
theorem fromField_metadata {b : Backend} {t : SqlType} (ht : t.Renderable b) {f : Arrow.Field}
    (h : f.metadata.lookup (metadataKey b) = some (t.toString b)) :
    SqlType.fromField b f = some (.ok (t.canon b.dialect, true)) := by
  rw [SqlType.fromField, typeStringFromField_of_metadataKey h]
  dsimp only
  rw [parse_toString b t ht]
  rfl

/-- A non-nullable Snowflake field that holds `NUMBER(10, 2)` under
`SNOWFLAKE:type` and its PostgreSQL spelling under `type` reads as a nullable
`NUMERIC(10, 2)`. -/
theorem fromField_metadata_snowflake :
    (SqlType.numeric (some (10, some ⟨2, by decide⟩))).Renderable .snowflake ∧
    List.lookup (metadataKey .snowflake)
        [("type", "NUMERIC(10, 2)"), ("SNOWFLAKE:type", (SqlType.numeric (some (10, some ⟨2, by decide⟩))).toString
          .snowflake)] =
      some ((SqlType.numeric (some (10, some ⟨2, by decide⟩))).toString .snowflake) ∧
    SqlType.fromField .snowflake ⟨"amount", .decimal128 10 ⟨2, by decide⟩, false,
        [("type", "NUMERIC(10, 2)"), ("SNOWFLAKE:type", (SqlType.numeric (some (10, some ⟨2, by decide⟩))).toString
          .snowflake)]⟩ =
      some (.ok ((SqlType.numeric (some (10, some ⟨2, by decide⟩))).canon Backend.snowflake.dialect, true)) :=
  ⟨.inl trivial, rfl, fromField_metadata (by exact .inl trivial) rfl⟩

end DbtXdbc
