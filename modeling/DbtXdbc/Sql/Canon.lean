import DbtXdbc.Sql.Lexes

/-!
# What a rendering reads back as

Spec §6 asks that the rendering of a parsed type read back as a type that
renders the same. `SqlType.write` spells a type in the syntax of its backend,
which cannot say everything a `SqlType` says: BigQuery has one integer type and
no string lengths, the PostgreSQL family writes a `FLOAT` as `REAL`, Databricks
drops the precision of a timestamp, and a quoted field name is written in the
quote of the dialect. `SqlType.canon d t` is the type the rendering of `t` in
dialect `d` reads back as: each part of `t` replaced by the type of the keyword
the renderer spells it with, as the keyword table of §4.3 reads that keyword,
and each quoted field name put in the dialect's quote (`Ident.canon`).

`SqlType.Renderable b t` names the types whose rendering reads back as their
`canon` (`Sql/Reparse.lean`): all but

* an unknown type (`Other`) inside another, except as a struct field that is
  `NOT NULL`: what follows it would be captured with it;
* a Snowflake timestamp `WITH LOCAL TIME ZONE`, which the renderer spells
  `TIMESTAMP_LTZ`, a word the parser has no keyword for;
* a struct field whose name does not read back: a plain name that is not one
  plain word, or a quoted one that holds the dialect's quote when the backend
  keeps that quote doubled (everywhere but on the PostgreSQL family);
* a time with no time-zone specification on the generic and Databricks arms,
  which reads back as a time `WITHOUT TIME ZONE`, and these arms spell that out.

`text_writeIn_canon`: the type a rendering reads back as renders as that
rendering.
-/

namespace DbtXdbc

/-- What the rendering of `t` in dialect `d` reads back as, for `t` not an
array, struct or map of another type: the type of the keyword the arm of
`SqlType::write` for `t` spells, as `parse_inner` reads it. -/
def SqlType.canonLeaf : Dialect → SqlType → SqlType
  | .bigQuery, .tinyInt | .bigQuery, .smallInt | .bigQuery, .integer => .bigInt
  | .bigQuery, .real | .bigQuery, .float _ => .double
  | .bigQuery, .char _ | .bigQuery, .varchar _ | .bigQuery, .text | .bigQuery, .clob => .varchar none
  | .bigQuery, .blob => .binary
  | .bigQuery, .time _ tz => .time none (if tz = .unspecified then .without else tz)
  | .bigQuery, .timestamp _ tz => .timestamp none (if tz = .without then .unspecified else tz)
  | .snowflake, .float _ => .float none
  | .snowflake, .bigNumeric ps => .numeric ps
  | .snowflake, .clob => .text
  | .snowflake, .blob => .binary
  | .snowflake, .dateTime => .timestamp none .without
  | .postgres, .tinyInt => .smallInt
  | .postgres, .blob => .binary
  | .postgres, .dateTime => .timestamp none .unspecified
  | .postgres, .timestamp (some p) tz => .timestamp (some p) (if tz = .without then .unspecified else tz)
  | .postgres, .timestamp none tz =>
    .timestamp none (if tz = .«local» ∨ tz = .«with» then .«with» else .unspecified)
  | .postgres, .float _ => .real
  | .postgres, .clob => .text
  | .databricks, .blob => .binary
  | .databricks, .clob | .databricks, .text | .databricks, .varchar _ => .varchar none
  | .databricks, .bigNumeric ps => .numeric ps
  | .databricks, .real | .databricks, .float _ => .float none
  | .databricks, .dateTime => .timestamp none .without
  | .databricks, .timestamp _ tz => .timestamp none (if tz = .without then .without else .unspecified)
  | _, .char (some len) => .char (if len > 0 then some len else none)
  | _, .varchar (some len) => .varchar (if len > 0 then some len else none)
  | _, .time p tz => .time p (if tz = .unspecified then .without else tz)
  | _, t => t

/-- What the rendering of a field name in dialect `d` reads back as: a quoted
name comes back in the dialect's quote. -/
def Ident.canon (d : Dialect) : Ident → Ident
  | .plain s => .plain s
  | .unquoted _ s => .unquoted d.quote s

/-- A name and the one it reads back as render alike. -/
@[simp] theorem Ident.display_canon (b : Backend) (name : Ident) :
    (name.canon b.dialect).display b = name.display b := by
  cases name <;> rfl

mutual

/-- What the rendering of `t` in dialect `d` reads back as. -/
def SqlType.canon (d : Dialect) : SqlType → SqlType
  | .array (some t) => .array (some (SqlType.canon d t))
  | .struct (some fields) => .struct (some (SqlType.canonFields d fields))
  | .map (some (k, v)) => .map (some (SqlType.canon d k, SqlType.canon d v))
  | t => t.canonLeaf d

/-- `SqlType.canon` on each field of a struct. -/
def SqlType.canonFields (d : Dialect) : List (Ident × SqlType × Bool) → List (Ident × SqlType × Bool)
  | [] => []
  | (name, t, nullable) :: fields =>
    (name.canon d, SqlType.canon d t, nullable) :: SqlType.canonFields d fields

end

@[simp] theorem SqlType.canon_array (d : Dialect) (t : SqlType) :
    (SqlType.array (some t)).canon d = .array (some (t.canon d)) := by
  rfl

@[simp] theorem SqlType.canon_struct (d : Dialect) (fields : List (Ident × SqlType × Bool)) :
    (SqlType.struct (some fields)).canon d = .struct (some (SqlType.canonFields d fields)) := by
  rfl

@[simp] theorem SqlType.canon_map (d : Dialect) (k v : SqlType) :
    (SqlType.map (some (k, v))).canon d = .map (some (k.canon d, v.canon d)) := by
  rfl

/-! ## The types whose rendering reads back -/

/-- A struct field's name reads back from its rendering: a plain name is one
plain word, and a quoted one, in the dialect's quote, is unescaped back to its
text (`word2ident_wrap`). -/
def Ident.ReadsBack (b : Backend) : Ident → Prop
  | .plain s => IsPlainWord s
  | .unquoted _ s => collapses b b.dialect.quote = true ∨ b.dialect.quote.toChar ∉ s.data

instance (b : Backend) : (name : Ident) → Decidable (name.ReadsBack b)
  | .plain s => inferInstanceAs (Decidable (IsPlainWord s))
  | .unquoted _ s =>
    inferInstanceAs (Decidable (collapses b b.dialect.quote = true ∨ b.dialect.quote.toChar ∉ s.data))

/-- `s` is the text `parse_inner` captures for an unknown type that opens with
the word `w` and goes on with the tokens `captured`: `w` names no keyword, and
no captured token is `NOT` or `NULL`. -/
structure OtherText (s w : String) (captured : List Token) : Prop where
  text : s = Grammar.otherText w captured
  word : Keyword.ofWord? w = none
  captured : ∀ t ∈ captured, Grammar.endsOther t = false

mutual

/-- The types whose rendering on backend `b` reads back when more of a type
string follows it: no unknown type but a struct field that is `NOT NULL`, no
Snowflake timestamp `WITH LOCAL TIME ZONE`, no time with no time-zone
specification on the generic and Databricks arms, and struct fields whose names
read back. -/
def SqlType.Nested (b : Backend) : SqlType → Prop
  | .timestamp _ .«local» => b.dialect ≠ .snowflake
  | .time _ .unspecified => b.dialect ≠ .generic ∧ b.dialect ≠ .databricks
  | .array (some t) => SqlType.Nested b t
  | .struct (some fields) => SqlType.FieldsNested b fields
  | .map (some (k, v)) => SqlType.Nested b k ∧ SqlType.Nested b v
  | .other _ => False
  | _ => True

/-- `SqlType.Nested` for the fields of a struct; a field that is `NOT NULL` may
be an unknown type whose text tokenizes into the tokens it was captured from. -/
def SqlType.FieldsNested (b : Backend) : List (Ident × SqlType × Bool) → Prop
  | [] => True
  | (name, t, nullable) :: fields =>
    name.ReadsBack b ∧
      (SqlType.Nested b t ∨
        nullable = false ∧ ∃ s w captured, t = .other s ∧ Lexes s (.word w :: captured) ∧
          OtherText s w captured) ∧
      SqlType.FieldsNested b fields

end

/-- The types whose rendering on backend `b` reads back: a type `Nested` allows,
or an unknown type whose text tokenizes into the tokens it was captured from. -/
def SqlType.Renderable (b : Backend) (t : SqlType) : Prop :=
  t.Nested b ∨ ∃ s w captured, t = .other s ∧ tokenize s = .word w :: captured ∧ OtherText s w captured

/-! ## The type a rendering reads back as renders as that rendering -/

theorem text_writeIn_array (b : Backend) (d : Dialect) (t : SqlType) :
    (SqlType.writeIn b d (.array (some t))).text =
      if d = .postgres then (SqlType.writeIn b d t).text ++ "[]"
      else "ARRAY<" ++ (SqlType.writeIn b d t).text ++ ">" := by
  cases d <;> rfl

theorem text_writeIn_struct (b : Backend) (d : Dialect) (fields : List (Ident × SqlType × Bool)) :
    (SqlType.writeIn b d (.struct (some fields))).text =
      (if b.isPostgres then "(" else "STRUCT<") ++ (SqlType.writeFields b d 0 fields).text ++
        (if b.isPostgres then ")" else ">") := by
  cases d <;> rfl

theorem text_writeIn_map (b : Backend) (d : Dialect) (k v : SqlType) :
    (SqlType.writeIn b d (.map (some (k, v)))).text =
      "MAP<" ++ (SqlType.writeIn b d k).text ++ ", " ++ (SqlType.writeIn b d v).text ++ ">" := by
  cases d <;> rfl

theorem text_writeFields_cons (b : Backend) (d : Dialect) (i : Nat) (name : Ident) (t : SqlType)
    (nullable : Bool) (fields : List (Ident × SqlType × Bool)) :
    (SqlType.writeFields b d i ((name, t, nullable) :: fields)).text =
      (if i > 0 then ", " else "") ++ (name.display b ++ " ") ++ (SqlType.writeIn b d t).text ++
        (if nullable then "" else " NOT NULL") ++ (SqlType.writeFields b d (i + 1) fields).text := rfl

theorem canonLeaf_char {d : Dialect} (hd : d ≠ .bigQuery) (len : UInt64) :
    SqlType.canonLeaf d (.char (some len)) = .char (if len > 0 then some len else none) := by
  cases d <;> first | rfl | exact absurd rfl hd

theorem canonLeaf_varchar {d : Dialect} (hd : d ≠ .bigQuery ∧ d ≠ .databricks) (len : UInt64) :
    SqlType.canonLeaf d (.varchar (some len)) = .varchar (if len > 0 then some len else none) := by
  cases d <;> first | rfl | exact absurd rfl hd.1 | exact absurd rfl hd.2

theorem text_writeIn_char_none (b : Backend) {d : Dialect} (hd : d ≠ .bigQuery) :
    (SqlType.writeIn b d (.char none)).text = "CHAR" := by
  cases d <;> first | rfl | exact absurd rfl hd

theorem text_writeIn_char (b : Backend) {d : Dialect} (hd : d ≠ .bigQuery) (len : UInt64) :
    (SqlType.writeIn b d (.char (some len))).text = "CHAR" ++ if len > 0 then parens (toString len) else "" := by
  cases d <;> first | rfl | exact absurd rfl hd

theorem text_writeIn_varchar_none (b : Backend) {d : Dialect} (hd : d ≠ .bigQuery ∧ d ≠ .databricks) :
    (SqlType.writeIn b d (.varchar none)).text = "VARCHAR" := by
  cases d <;> first | rfl | exact absurd rfl hd.1 | exact absurd rfl hd.2

theorem text_writeIn_varchar (b : Backend) {d : Dialect} (hd : d ≠ .bigQuery ∧ d ≠ .databricks)
    (len : UInt64) :
    (SqlType.writeIn b d (.varchar (some len))).text =
      "VARCHAR" ++ if len > 0 then parens (toString len) else "" := by
  cases d <;> first | rfl | exact absurd rfl hd.1 | exact absurd rfl hd.2

/-- A type with no other type in it renders as the type its rendering reads
back as. -/
theorem text_writeIn_canonLeaf (b : Backend) (t : SqlType) (h : t.Nested b) :
    (SqlType.writeIn b b.dialect (t.canonLeaf b.dialect)).text = (SqlType.writeIn b b.dialect t).text := by
  cases t with
  | char len =>
    rcases len with _ | len
    · cases b <;> rfl
    by_cases hd : b.dialect = .bigQuery
    · rw [hd]; rfl
    rw [canonLeaf_char hd]
    split
    · rfl
    · rw [text_writeIn_char b hd, if_neg ‹_›, String.append_empty, text_writeIn_char_none b hd]
  | varchar len =>
    rcases len with _ | len
    · cases b <;> rfl
    by_cases hd : b.dialect = .bigQuery ∨ b.dialect = .databricks
    · rcases hd with hd | hd <;> rw [hd] <;> rfl
    rw [not_or] at hd
    rw [canonLeaf_varchar hd]
    split
    · rfl
    · rw [text_writeIn_varchar b hd, if_neg ‹_›, String.append_empty, text_writeIn_varchar_none b hd]
  | time p tz =>
    cases b <;> cases tz <;> cases p <;> first | rfl | exact absurd rfl h.1 | exact absurd rfl h.2
  | timestamp p tz => cases b <;> cases tz <;> cases p <;> rfl
  | float p => cases b.dialect <;> cases p <;> rfl
  | numeric ps | bigNumeric ps => cases b.dialect <;> rcases ps with _ | ⟨_, _ | _⟩ <;> rfl
  | interval q => cases b <;> rcases q with _ | ⟨_, _ | _⟩ <;> rfl
  | dateTime => cases b <;> rfl
  | _ => cases b.dialect <;> rfl
mutual

theorem text_writeIn_canon (b : Backend) :
    (t : SqlType) → t.Nested b →
      (SqlType.writeIn b b.dialect (t.canon b.dialect)).text = (SqlType.writeIn b b.dialect t).text
  | .array (some t), h => by
    rw [SqlType.canon_array, text_writeIn_array, text_writeIn_array, text_writeIn_canon b t h]
  | .struct (some fields), h => by
    rw [SqlType.canon_struct, text_writeIn_struct, text_writeIn_struct,
      text_writeFields_canon b 0 fields h]
  | .map (some (k, v)), h => by
    rw [SqlType.canon_map, text_writeIn_map, text_writeIn_map, text_writeIn_canon b k h.1,
      text_writeIn_canon b v h.2]
  | .other _, h => h.elim
  | .array none, h | .struct none, h | .map none, h => text_writeIn_canonLeaf b _ h
  | .boolean, h | .tinyInt, h | .smallInt, h | .integer, h | .bigInt, h | .real, h | .float _, h
  | .double, h | .numeric _, h | .bigNumeric _, h | .char _, h | .varchar _, h | .text, h | .clob, h
  | .blob, h | .binary, h | .date, h | .time _ _, h | .timestamp _ _, h | .dateTime, h | .interval _, h
  | .json, h | .jsonb, h | .geometry, h | .geography, h | .variant, h | .void, h =>
    text_writeIn_canonLeaf b _ h

theorem text_writeFields_canon (b : Backend) (i : Nat) :
    (fields : List (Ident × SqlType × Bool)) → SqlType.FieldsNested b fields →
      (SqlType.writeFields b b.dialect i (SqlType.canonFields b.dialect fields)).text =
        (SqlType.writeFields b b.dialect i fields).text
  | [], _ => rfl
  | (name, t, nullable) :: fields, ⟨_, ht, hfs⟩ => by
    have hty : (SqlType.writeIn b b.dialect (t.canon b.dialect)).text = (SqlType.writeIn b b.dialect t).text := by
      rcases ht with ht | ⟨_, s, _, _, rfl, _⟩
      · exact text_writeIn_canon b t ht
      · cases b <;> rfl
    rw [SqlType.canonFields, text_writeFields_cons, text_writeFields_cons, hty, Ident.display_canon,
      text_writeFields_canon b (i + 1) fields hfs]

end

end DbtXdbc
