import DbtXdbc.Sql.Parser

/-!
# What the parser sees of a backend

`parse_inner` and `_unescape_quoted_ident` test a backend in three ways only:
whether it is of the PostgreSQL family (`FLOAT4`, doubled `"` in a quoted
field name), whether it reads `(...)` structs and postfix `[]` arrays, and
whether it is Snowflake (`DATETIME`). Two backends that agree on these parse
every text alike.

* `parse_congr`: backends that agree on the three tests parse every text to
  the same type, nullability and error; `Databricks` and `DatabricksODBC`, for
  one.
-/

namespace DbtXdbc

/-- Two backends the parser cannot tell apart: they agree on each test
`parse_inner` and `_unescape_quoted_ident` make of a backend. -/
structure Backend.ParsesAlike (b b' : Backend) : Prop where
  isPostgres : b.isPostgres = b'.isPostgres
  isPostgresOrGeneric : b.isPostgresOrGeneric = b'.isPostgresOrGeneric
  snowflake : b = .snowflake ↔ b' = .snowflake

namespace Backend.ParsesAlike

variable {b b' : Backend}

/-- `_unescape_quoted_ident` asks only whether the backend is of the PostgreSQL
family. -/
theorem word2ident (h : b.ParsesAlike b') (w : String) : DbtXdbc.word2ident w b = DbtXdbc.word2ident w b' := by
  simp only [DbtXdbc.word2ident, unescapeQuotedIdent, h.isPostgres]

/-- Of the keyword arms, `FLOAT4` asks whether the backend is of the PostgreSQL
family, and `DATETIME` whether it is Snowflake. -/
theorem parseWord (h : b.ParsesAlike b') (u : Parser SqlType)
    (f : Token → Parser (List (Ident × SqlType × Bool))) (w : String) :
    Parser.parseWord u f b w = Parser.parseWord u f b' w := by
  unfold Parser.parseWord
  rw [h.isPostgres]
  congr
  funext
  simp only [h.snowflake]

/-- The four functions of the parser's recursion, at every fuel. -/
theorem parsers (h : b.ParsesAlike b') : (n : Nat) →
    Parser.parseInner n b = Parser.parseInner n b' ∧
      Parser.parseUnconstrainedType n b = Parser.parseUnconstrainedType n b' ∧
      Parser.parseConstrainedType n b = Parser.parseConstrainedType n b' ∧
      Parser.structFields n b = Parser.structFields n b'
  | 0 => ⟨rfl, rfl, rfl, rfl⟩
  | n + 1 => by
    obtain ⟨hi, hu, hc, hs⟩ := h.parsers n
    refine ⟨?_, ?_, ?_, ?_⟩
    · rw [Parser.parseInner, Parser.parseInner, hu, hs, h.isPostgresOrGeneric]
      simp only [h.parseWord]
    · rw [Parser.parseUnconstrainedType, Parser.parseUnconstrainedType, hi, h.isPostgresOrGeneric]
    · rw [Parser.parseConstrainedType, Parser.parseConstrainedType, hu]
    · funext term fields
      rw [Parser.structFields, Parser.structFields, hc, hs]
      simp only [h.word2ident]

end Backend.ParsesAlike

/-- Backends that agree on the tests the parser makes of a backend parse every
text alike: to the same type and nullability, or the same error. -/
theorem parse_congr {b b' : Backend} (h : b.ParsesAlike b') (s : String) :
    SqlType.parse b s = SqlType.parse b' s := by
  simp only [SqlType.parse, Parser.parse, fun n => (h.parsers n).2.2.1]

/-- `DatabricksODBC` parses `TIMESTAMP` as `Databricks` does. -/
theorem parse_congr_databricksODBC :
    Backend.ParsesAlike .databricksODBC .databricks ∧
      SqlType.parse .databricksODBC "TIMESTAMP" = SqlType.parse .databricks "TIMESTAMP" :=
  ⟨⟨rfl, rfl, by decide⟩, parse_congr ⟨rfl, rfl, by decide⟩ "TIMESTAMP"⟩

end DbtXdbc
