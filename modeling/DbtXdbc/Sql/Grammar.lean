import DbtXdbc.Sql.Parser

/-!
# The grammar of SQL type strings

Spec §4.3 describes the type strings the parser accepts by a grammar: a type is
a keyword of its table with the parts that follow it, `ARRAY<..>`, `MAP<..,..>`,
`STRUCT<..>`, a parenthesised struct and postfix `[]` on the PostgreSQL family,
or an unknown word captured as `Other`, and then an optional nullability. This
module states that grammar as inductive relations over tokens, one per
production: `Inner b ts t rest` says that the tokens `ts` begin with a type that
reads as `t` on backend `b`, and that `rest` follows it.

The parser never backtracks: an optional part is read whenever the next token
can begin it. So each rule for an absent part has the lookahead condition that
the next token is not the one it would begin with (`heads`).

The grammar is the one of §4.3 as the parser reads it, and differs from the
text of the spec in four places: a field list may end with a comma before its
closer (`Fields.more` then `Fields.close`); a date/time field of an interval
other than `SECOND` takes no precision (`Qualifier.field`); an interval
precision is read as a `u8` (`Precision u8FromStr`), so that `INTERVAL(256)`
fails with a `ParseIntError` where §4.3.1 maps every precision from 9 up to
nanoseconds; and nothing asks that the input end after the type and its suffix
(`rest` is what the type leaves unread). `Sql/Accepts.lean` shows that the parser accepts exactly this
grammar.
-/

namespace DbtXdbc

/-- The keywords of the table of §4.3 that stand alone, and the type each names
on backend `b`. -/
def Keyword.standalone (b : Backend) : Keyword → Option SqlType
  | .boolean => some .boolean
  | .tinyInt => some .tinyInt
  | .smallInt => some .smallInt
  | .integer => some .integer
  | .bigInt => some .bigInt
  | .real => some .real
  | .float4 => some (if b.isPostgres then .real else .float none)
  | .float8 => some .double
  | .string => some (.varchar none)
  | .text => some .text
  | .clob => some .clob
  | .blob => some .blob
  | .varbinary => some .binary
  | .date => some .date
  | .timetz => some (.time none .«with»)
  | .timestamptz => some (.timestamp none .«with»)
  | .json => some .json
  | .jsonb => some .jsonb
  | .geometry => some .geometry
  | .geography => some .geography
  | .variant => some .variant
  | .void => some .void
  | _ => none

namespace Grammar

/-- Whether the next token is `pat`, compared as `Parser::match_` compares. -/
def heads (pat : Token) : List Token → Bool
  | t :: _ => t.beq pat
  | [] => false

@[simp] theorem heads_nil (pat : Token) : heads pat [] = false := rfl
@[simp] theorem heads_cons (pat t : Token) (ts : List Token) : heads pat (t :: ts) = t.beq pat := rfl

/-! ## The parts that follow a keyword -/

/-- *Precision:* `( n )`, with `n` read by `fromStr`, or nothing when no `(`
follows. -/
inductive Precision {α : Type} (fromStr : String → Except IntErrorKind α) :
    List Token → Option α → List Token → Prop
  | absent {ts : List Token} : heads .lParen ts = false → Precision fromStr ts none ts
  | present {w : String} {v : α} {ts : List Token} : fromStr w = .ok v →
      Precision fromStr (.lParen :: .word w :: .rParen :: ts) (some v) ts

/-- *Precision-and-scale:* `( p )` or `( p , s )`, the scale signed, or nothing
when no `(` follows. -/
inductive PrecisionAndScale : List Token → Option (UInt8 × Option I8) → List Token → Prop
  | absent {ts : List Token} : heads .lParen ts = false → PrecisionAndScale ts none ts
  | precision {w : String} {p : UInt8} {ts : List Token} : u8FromStr w = .ok p →
      PrecisionAndScale (.lParen :: .word w :: .rParen :: ts) (some (p, none)) ts
  | scale {w w' : String} {p : UInt8} {s : I8} {ts : List Token} : u8FromStr w = .ok p →
      i8FromStr w' = .ok s →
      PrecisionAndScale (.lParen :: .word w :: .comma :: .word w' :: .rParen :: ts) (some (p, some s)) ts

/-- `[ w ]`: an optional keyword, and whether it is there. -/
inductive OptWord (w : String) : List Token → Bool → List Token → Prop
  | absent {ts : List Token} : heads (.word w) ts = false → OptWord w ts false ts
  | present {t : Token} {ts : List Token} : t.beq (.word w) = true → OptWord w (t :: ts) true ts

/-- *Time-zone spec:* `WITH [LOCAL] TIME ZONE`, `WITHOUT TIME ZONE`, or nothing. -/
inductive TimeZone : List Token → TimeZoneSpec → List Token → Prop
  | «with» {t t₁ t₂ : Token} {ts rest : List Token} {isLocal : Bool} : t.beq (.word "WITH") = true →
      OptWord "LOCAL" ts isLocal (t₁ :: t₂ :: rest) → t₁.beq (.word "TIME") = true →
      t₂.beq (.word "ZONE") = true → TimeZone (t :: ts) (if isLocal then .«local» else .«with») rest
  | without {t t₁ t₂ : Token} {rest : List Token} : t.beq (.word "WITHOUT") = true →
      t₁.beq (.word "TIME") = true → t₂.beq (.word "ZONE") = true →
      TimeZone (t :: t₁ :: t₂ :: rest) .without rest
  | unspecified {ts : List Token} : heads (.word "WITH") ts = false →
      heads (.word "WITHOUT") ts = false → TimeZone ts .unspecified ts

/-- The date/time field a token names. -/
def field? : Token → Option DateTimeField
  | .word w => DateTimeField.ofWord? w
  | _ => none

/-- A `SECOND` made finer by the precision after it, by the table of §4.3.1. -/
def refineSecond (p : Option UInt8) : DateTimeField :=
  (p.map DateTimeField.fromPrecision).getD .second

/-- *Interval qualifier* (§4.3.1): a field, or a range `field TO field`, a
`SECOND` at its end made finer by a precision; or a precision alone, which names
a sub-second field. -/
inductive Qualifier : List Token → Option (DateTimeField × Option DateTimeField) → List Token → Prop
  | field {t : Token} {f : DateTimeField} {ts : List Token} : field? t = some f → f ≠ .second →
      heads (.word "TO") ts = false → Qualifier (t :: ts) (some (f, none)) ts
  | second {t : Token} {ts rest : List Token} {p : Option UInt8} : field? t = some .second →
      heads (.word "TO") ts = false → Precision u8FromStr ts p rest →
      Qualifier (t :: ts) (some (refineSecond p, none)) rest
  | range {t u t' : Token} {f e : DateTimeField} {ts : List Token} : field? t = some f →
      u.beq (.word "TO") = true → field? t' = some e → e ≠ .second →
      Qualifier (t :: u :: t' :: ts) (some (f, some e)) ts
  | rangeSecond {t u t' : Token} {f : DateTimeField} {ts rest : List Token} {p : Option UInt8} :
      field? t = some f → u.beq (.word "TO") = true → field? t' = some .second →
      Precision u8FromStr ts p rest → Qualifier (t :: u :: t' :: ts) (some (f, some (refineSecond p))) rest
  | precision {ts rest : List Token} {p : Option UInt8} : ts.head?.bind field? = none →
      Precision u8FromStr ts p rest →
      Qualifier ts (p.map fun p => (DateTimeField.fromPrecision p, none)) rest

/-- The nullability suffix: `NOT NULL`, `NULLABLE`, or nothing. -/
inductive Nullable : List Token → Option Bool → List Token → Prop
  | notNull {t u : Token} {ts : List Token} : t.beq (.word "NOT") = true →
      u.beq (.word "NULL") = true → Nullable (t :: u :: ts) (some false) ts
  | nullable {t : Token} {ts : List Token} : t.beq (.word "NULLABLE") = true →
      Nullable (t :: ts) (some true) ts
  | absent {ts : List Token} : heads (.word "NOT") ts = false → heads (.word "NULLABLE") ts = false →
      Nullable ts none ts

/-- The postfix arrays of the PostgreSQL family: `[]`, any number of times, each
an array of what it follows. -/
inductive ArraySuffix : SqlType → List Token → SqlType → List Token → Prop
  | done {t : SqlType} {ts : List Token} : heads .lBracket ts = false → ArraySuffix t ts t ts
  | array {t t' : SqlType} {ts rest : List Token} : ArraySuffix (.array (some t)) ts t' rest →
      ArraySuffix t (.lBracket :: .rBracket :: ts) t' rest

/-- Whether a token ends the capture of an unknown type: `NOT` or `NULL`. -/
def endsOther (t : Token) : Bool := t.beq (.word "NOT") || t.beq (.word "NULL")

/-- The text of an unknown type: its word, and each token it captures after a
space. -/
def otherText (w : String) (captured : List Token) : String :=
  captured.foldl (fun other t => other ++ " " ++ t.display) w

/-! ## The keyword table -/

/-- The rows of the keyword table of §4.3 that hold no other type: what follows
the keyword `k`, and the type it names on backend `b`. -/
inductive Scalar (b : Backend) : Keyword → List Token → SqlType → List Token → Prop
  | standalone {k : Keyword} {t : SqlType} {ts : List Token} : k.standalone b = some t →
      Scalar b k ts t ts
  | float {ts rest : List Token} {p : Option UInt8} : Precision u8FromStr ts p rest →
      Scalar b .float ts (.float p) rest
  | double {ts rest : List Token} {precision : Bool} : OptWord "PRECISION" ts precision rest →
      Scalar b .double ts .double rest
  | decimal {ts rest : List Token} {ps : Option (UInt8 × Option I8)} : PrecisionAndScale ts ps rest →
      Scalar b .decimal ts (.numeric ps) rest
  | bigDecimal {ts rest : List Token} {ps : Option (UInt8 × Option I8)} :
      PrecisionAndScale ts ps rest → Scalar b .bigDecimal ts (.bigNumeric ps) rest
  | charLargeObject {t u : Token} {ts : List Token} : t.beq (.word "LARGE") = true →
      u.beq (.word "OBJECT") = true → Scalar b .char (t :: u :: ts) .clob ts
  | char {ts ts₁ rest : List Token} {varying : Bool} {len : Option UInt64} :
      heads (.word "LARGE") ts = false → OptWord "VARYING" ts varying ts₁ →
      Precision usizeFromStr ts₁ len rest →
      Scalar b .char ts (if varying then .varchar len else .char len) rest
  | varchar {ts rest : List Token} {len : Option UInt64} : Precision usizeFromStr ts len rest →
      Scalar b .varchar ts (.varchar len) rest
  | national {t : Token} {ts ts₁ rest : List Token} {varying : Bool} {len : Option UInt64} :
      t.beq (.word "CHAR") = true → OptWord "VARYING" ts varying ts₁ →
      Precision usizeFromStr ts₁ len rest →
      Scalar b .national (t :: ts) (if varying then .varchar len else .char len) rest
  | binaryLargeObject {t u : Token} {ts : List Token} : t.beq (.word "LARGE") = true →
      u.beq (.word "OBJECT") = true → Scalar b .binary (t :: u :: ts) .blob ts
  | binary {ts : List Token} : heads (.word "LARGE") ts = false → Scalar b .binary ts .binary ts
  | time {ts ts₁ rest : List Token} {p : Option UInt8} {tz : TimeZoneSpec} :
      Precision u8FromStr ts p ts₁ → TimeZone ts₁ tz rest →
      Scalar b .time ts (.time p (if tz = .unspecified then .without else tz)) rest
  | timestamp {ts ts₁ rest : List Token} {p : Option UInt8} {tz : TimeZoneSpec} :
      Precision u8FromStr ts p ts₁ → TimeZone ts₁ tz rest → Scalar b .timestamp ts (.timestamp p tz) rest
  | timestampNtz {ts rest : List Token} {p : Option UInt8} : Precision u8FromStr ts p rest →
      Scalar b .timestampNtz ts (.timestamp p .without) rest
  | datetime {ts rest : List Token} {p : Option UInt8} : Precision u8FromStr ts p rest →
      Scalar b .datetime ts (if b = .snowflake then .timestamp p .without else .dateTime) rest
  | timestampTz {ts rest : List Token} {p : Option UInt8} : Precision u8FromStr ts p rest →
      Scalar b .timestampTz ts (.timestamp p .«with») rest
  | interval {ts rest : List Token} {q : Option (DateTimeField × Option DateTimeField)} :
      Qualifier ts q rest → Scalar b .interval ts (.interval q) rest

/-! ## Types -/

mutual

/-- A type, without the postfix `[]` of the PostgreSQL family: the dispatch on
its first token of §4.3. -/
inductive Inner (b : Backend) : List Token → SqlType → List Token → Prop
  | paren {ts rest : List Token} {fs : List (Ident × SqlType × Bool)} :
      b.isPostgresOrGeneric = true → Fields b .rParen ts fs rest →
      Inner b (.lParen :: ts) (.struct (some fs)) rest
  | scalar {w : String} {k : Keyword} {ts rest : List Token} {t : SqlType} :
      Keyword.ofWord? w = some k → Scalar b k ts t rest → Inner b (.word w :: ts) t rest
  | arrayOf {w : String} {ts rest : List Token} {t : SqlType} : Keyword.ofWord? w = some .array →
      Unconstrained b ts t (.rAngle :: rest) → Inner b (.word w :: .lAngle :: ts) (.array (some t)) rest
  | array {w : String} {ts : List Token} : Keyword.ofWord? w = some .array →
      heads .lAngle ts = false → Inner b (.word w :: ts) (.array none) ts
  | structOf {w : String} {ts rest : List Token} {fs : List (Ident × SqlType × Bool)} :
      Keyword.ofWord? w = some .struct → Fields b .rAngle ts fs rest →
      Inner b (.word w :: .lAngle :: ts) (.struct (some fs)) rest
  | struct {w : String} {ts : List Token} : Keyword.ofWord? w = some .struct →
      heads .lAngle ts = false → Inner b (.word w :: ts) (.struct none) ts
  | mapOf {w : String} {ts ts₁ rest : List Token} {k v : SqlType} : Keyword.ofWord? w = some .map →
      Unconstrained b ts k (.comma :: ts₁) → Unconstrained b ts₁ v (.rAngle :: rest) →
      Inner b (.word w :: .lAngle :: ts) (.map (some (k, v))) rest
  | map {w : String} {ts : List Token} : Keyword.ofWord? w = some .map →
      heads .lAngle ts = false → Inner b (.word w :: ts) (.map none) ts
  | other {w : String} {captured rest : List Token} : Keyword.ofWord? w = none →
      (∀ t ∈ captured, endsOther t = false) → (∀ t ∈ rest.head?, endsOther t = true) →
      Inner b (.word w :: (captured ++ rest)) (.other (otherText w captured)) rest

/-- A type, and on the PostgreSQL family its postfix `[]`s. -/
inductive Unconstrained (b : Backend) : List Token → SqlType → List Token → Prop
  | arrays {ts ts₁ rest : List Token} {t t' : SqlType} : b.isPostgresOrGeneric = true →
      Inner b ts t ts₁ → ArraySuffix t ts₁ t' rest → Unconstrained b ts t' rest
  | inner {ts rest : List Token} {t : SqlType} : b.isPostgresOrGeneric = false →
      Inner b ts t rest → Unconstrained b ts t rest

/-- A type and its optional nullability suffix. -/
inductive Constrained (b : Backend) : List Token → SqlType × Option Bool → List Token → Prop
  | mk {ts ts₁ rest : List Token} {t : SqlType} {nl : Option Bool} : Unconstrained b ts t ts₁ →
      Nullable ts₁ nl rest → Constrained b ts (t, nl) rest

/-- *Struct fields,* after `(` or `STRUCT<` and up to the closer `term`: each a
word naming the field and a type, nullable unless it says `NOT NULL`, and
separated by commas. The list may be empty, and may end with a comma. -/
inductive Fields (b : Backend) : Token → List Token → List (Ident × SqlType × Bool) → List Token → Prop
  | close {term t : Token} {ts : List Token} : t.beq term = true → Fields b term (t :: ts) [] ts
  | last {term t : Token} {w : String} {name : Ident} {ts rest : List Token} {ty : SqlType}
      {nl : Option Bool} : (Token.word w).beq term = false → word2ident w b = .ok name →
      Constrained b ts (ty, nl) (t :: rest) → t ≠ .comma → t.beq term = true →
      Fields b term (.word w :: ts) [(name, ty, nl.getD true)] rest
  | more {term : Token} {w : String} {name : Ident} {ts ts₁ rest : List Token} {ty : SqlType}
      {nl : Option Bool} {fs : List (Ident × SqlType × Bool)} : (Token.word w).beq term = false →
      word2ident w b = .ok name → Constrained b ts (ty, nl) (.comma :: ts₁) →
      Fields b term ts₁ fs rest → Fields b term (.word w :: ts) ((name, ty, nl.getD true) :: fs) rest

end

end Grammar

end DbtXdbc
