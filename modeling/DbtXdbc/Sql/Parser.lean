import DbtXdbc.Sql.Types

/-!
# The parser of SQL type strings

`Parser` of `types.rs`: a recursive-descent parser over the tokens of the input.
Its methods take `&mut self` and return a `Result`; the model runs them in the
monad `Parser`, whose state is the list of tokens not yet consumed and whose
failures are the code's `ParseError`s.

The productions `parse_unconstrained_type`, `parse_constrained_type`,
`struct_fields` and `parse_inner` call one another. The model passes them a
fuel, one unit per call, so that they are structurally recursive; the code has
none, and running out of it (`Failure.outOfFuel`) is the model's own outcome.
`SqlType.parse` gives the parser two units per token and three more, which
`Sql/Terminates.lean` shows is never exhausted.

`parse_inner` tests a word against its keywords with a chain of `eqi`s; the
model writes the chain as a table (`keywords`, in the code's order) and
dispatches on the first branch whose spelling matches (`Keyword.ofWord?`). The
`Token::Word` arm of `parse_inner` is `parseWord`, given the two productions it
calls back, so that its many branches are reasoned about once.
-/

namespace DbtXdbc

/-- How a production stops short of a value: with the code's `ParseError`, or
with the model's fuel exhausted. -/
inductive Failure where
  | error (e : ParseError)
  | outOfFuel
  deriving DecidableEq, Repr

/-- `Parser`: a production reads and consumes the tokens left, and returns a
value or stops with a `Failure`. -/
abbrev Parser := StateT (List Token) (Except Failure)

/-- The branches of the keyword chain of `parse_inner`, one per `if eqi(..)`. -/
inductive Keyword where
  | boolean | tinyInt | smallInt | integer | bigInt | real | float | float4 | float8 | double
  | decimal | bigDecimal | char | varchar | national | string | text | clob | blob | binary
  | varbinary | date | time | timetz | timestamp | timestamptz | timestampNtz | datetime
  | timestampTz | interval | json | jsonb | geometry | geography | array | struct | map
  | variant | void
  deriving DecidableEq, Repr

/-- The spellings `parse_inner` tests with `eqi`, in the order of the code, and
the branch each leads to. -/
def keywords : List (String × Keyword) :=
  [("BOOLEAN", .boolean), ("BOOL", .boolean), ("TINYINT", .tinyInt), ("BYTEINT", .tinyInt),
   ("SMALLINT", .smallInt), ("INT2", .smallInt), ("SMALLSERIAL", .smallInt), ("SERIAL2", .smallInt),
   ("INTEGER", .integer), ("INT", .integer), ("INT4", .integer), ("SERIAL", .integer),
   ("SERIAL4", .integer), ("BIGINT", .bigInt), ("INT64", .bigInt), ("INT8", .bigInt),
   ("BIGSERIAL", .bigInt), ("SERIAL8", .bigInt), ("REAL", .real), ("FLOAT", .float),
   ("FLOAT4", .float4), ("FLOAT8", .float8), ("FLOAT64", .float8), ("DOUBLE", .double),
   ("DECIMAL", .decimal), ("NUMERIC", .decimal), ("NUMBER", .decimal), ("BIGDECIMAL", .bigDecimal),
   ("BIGNUMERIC", .bigDecimal), ("CHAR", .char), ("CHARACTER", .char), ("NCHAR", .char),
   ("VARCHAR", .varchar), ("NVARCHAR", .varchar), ("NATIONAL", .national), ("STRING", .string),
   ("TEXT", .text), ("CLOB", .clob), ("BLOB", .blob), ("BINARY", .binary),
   ("VARBINARY", .varbinary), ("BYTES", .varbinary), ("BYTEA", .varbinary), ("DATE", .date),
   ("TIME", .time), ("TIMETZ", .timetz), ("TIMESTAMP", .timestamp), ("TIMESTAMPTZ", .timestamptz),
   ("TIMESTAMP_NTZ", .timestampNtz), ("DATETIME", .datetime), ("TIMESTAMP_TZ", .timestampTz),
   ("INTERVAL", .interval), ("JSON", .json), ("JSONB", .jsonb), ("GEOMETRY", .geometry),
   ("GEOGRAPHY", .geography), ("ARRAY", .array), ("STRUCT", .struct), ("MAP", .map),
   ("VARIANT", .variant), ("VOID", .void)]

/-- The first branch of the keyword chain whose spelling `w` matches, ignoring case. -/
def Keyword.ofWord? (w : String) : Option Keyword :=
  (keywords.find? fun k => eqi w k.1).map Prod.snd

/-- The date/time field a word names, ignoring case (the test of `datetime_field`). -/
def DateTimeField.ofWord? (w : String) : Option DateTimeField :=
  if eqi w "YEAR" then some .year
  else if eqi w "MONTH" then some .month
  else if eqi w "DAY" then some .day
  else if eqi w "HOUR" then some .hour
  else if eqi w "MINUTE" then some .minute
  else if eqi w "SECOND" then some .second
  else if eqi w "MILLISECOND" then some .millisecond
  else if eqi w "MICROSECOND" then some .microsecond
  else if eqi w "NANOSECOND" then some .nanosecond
  else none

@[simp] theorem except_pure {ε α : Type} (a : α) : (pure a : Except ε α) = .ok a := rfl
@[simp] theorem except_ok_bind {ε α β : Type} (a : α) (f : α → Except ε β) :
    (Except.ok a >>= f) = f a := rfl
@[simp] theorem except_error_bind {ε α β : Type} (e : ε) (f : α → Except ε β) :
    (Except.error e >>= f) = .error e := rfl

namespace Parser

/-- Return the code's error `e`. -/
def fail {α : Type} (e : ParseError) : Parser α := throw (.error e)

@[simp] theorem run_fail {α : Type} (e : ParseError) (ts : List Token) :
    (fail e : Parser α).run ts = .error (.error e) := rfl
@[simp] theorem run_throw {α : Type} (e : Failure) (ts : List Token) :
    (throw e : Parser α).run ts = .error e := rfl

/-- `Parser::next`. -/
def next : Parser Token
  | t :: ts => .ok (t, ts)
  | [] => .error (.error .unexpectedEndOfInput)

@[simp] theorem run_next_cons (t : Token) (ts : List Token) : next.run (t :: ts) = .ok (t, ts) := rfl
@[simp] theorem run_next_nil : next.run [] = .error (.error .unexpectedEndOfInput) := rfl

/-- `Parser::expect`. -/
def expect (expected : Token) : Parser Unit := do
  let tok ← next
  if tok.beq expected then pure () else fail (.unexpected tok)

/-- `Parser::match_`: consume the next token if it equals `pat`. -/
def match_ (pat : Token) : Parser Bool
  | t :: ts => if t.beq pat then .ok (true, ts) else .ok (false, t :: ts)
  | [] => .ok (false, [])

theorem run_match_cons (pat t : Token) (ts : List Token) :
    (match_ pat).run (t :: ts) = if t.beq pat then .ok (true, ts) else .ok (false, t :: ts) := rfl
@[simp] theorem run_match_nil (pat : Token) : (match_ pat).run [] = .ok (false, []) := rfl

/-- `Parser::match_word`. -/
def matchWord (w : String) : Parser Bool := match_ (.word w)

/-- `Tokenizer::peek_and_then`: apply `f` to the next token, and consume it when
`f` gives a value. -/
def peekAndThen {α : Type} (f : Token → Option α) : Parser (Option α)
  | t :: ts =>
    match f t with
    | some a => .ok (some a, ts)
    | none => .ok (none, t :: ts)
  | [] => .ok (none, [])

theorem run_peekAndThen_cons {α : Type} (f : Token → Option α) (t : Token) (ts : List Token) :
    (peekAndThen f).run (t :: ts) =
      match f t with
      | some a => .ok (some a, ts)
      | none => .ok (none, t :: ts) := rfl
@[simp] theorem run_peekAndThen_nil {α : Type} (f : Token → Option α) :
    (peekAndThen f).run [] = .ok (none, []) := rfl

/-- `Parser::next_int::<T>`, where `fromStr` is `<T as FromStr>::from_str`. -/
def nextInt {α : Type} (fromStr : String → Except IntErrorKind α) : Parser α := do
  let tok ← next
  match tok with
  | .word w =>
    match fromStr w with
    | .ok v => pure v
    | .error e => fail (.parseIntError e)
  | _ => fail (.unexpected tok)

/-- `Parser::precision::<T>`: an optional `(n)`. -/
def precision {α : Type} (fromStr : String → Except IntErrorKind α) : Parser (Option α) := do
  if ← match_ .lParen then
    let value ← nextInt fromStr
    expect .rParen
    pure (some value)
  else pure none

/-- `Parser::precision_and_scale`: an optional `(p)` or `(p, s)`. -/
def precisionAndScale : Parser (Option (UInt8 × Option I8)) := do
  if ← match_ .lParen then
    let precision ← nextInt u8FromStr
    let scale ← if ← match_ .comma then do
        let s ← nextInt i8FromStr
        pure (some s)
      else pure none
    expect .rParen
    pure (some (precision, scale))
  else pure none

/-- `Parser::time_zone_spec`. -/
def timeZoneSpec : Parser TimeZoneSpec := do
  if ← matchWord "WITH" then
    let isLocal ← matchWord "LOCAL"
    expect (.word "TIME")
    expect (.word "ZONE")
    pure (if isLocal then .«local» else .«with»)
  else if ← matchWord "WITHOUT" then
    expect (.word "TIME")
    expect (.word "ZONE")
    pure .without
  else pure .unspecified

/-- `Parser::datetime_field`: the next token, if it is a word naming a field. -/
def datetimeField : Parser (Option DateTimeField) :=
  peekAndThen fun
    | .word w => DateTimeField.ofWord? w
    | _ => none

/-- `Parser::interval_qualifier`. -/
def intervalQualifier : Parser (Option (DateTimeField × Option DateTimeField)) := do
  match ← datetimeField with
  | some start =>
    if ← matchWord "TO" then
      match ← datetimeField with
      | some e => pure (some (start, some e))
      | none => fail .expectedDateTimeField
    else pure (some (start, none))
  | none => pure none

/-- `Parser::nullable`: an optional `NOT NULL` or `NULLABLE`. -/
def nullable : Parser (Option Bool) := do
  if ← matchWord "NOT" then
    expect (.word "NULL")
    pure (some false)
  else if ← matchWord "NULLABLE" then pure (some true)
  else pure none

/-- The `INTERVAL` branch of `parse_inner`: a qualifier, then a precision that
refines a `SECOND` field into a sub-second one. -/
def interval : Parser SqlType := do
  let qualifier ← match ← intervalQualifier with
    | some (start, none) =>
      if start = .second then do
        let p ← precision u8FromStr
        pure ((p.map fun p => (DateTimeField.fromPrecision p, none)).or (some (start, none)))
      else pure (some (start, none))
    | some (start, some e) =>
      if e = .second then do
        let p ← precision u8FromStr
        pure ((p.map fun p => (start, some (DateTimeField.fromPrecision p))).or (some (start, some e)))
      else pure (some (start, some e))
    | none => do
      let p ← precision u8FromStr
      pure (p.map fun p => (DateTimeField.fromPrecision p, none))
  pure (.interval qualifier)

/-- The loop of `parse_inner` that gathers an unknown type: `other` and, each
after a space, the tokens up to a `NOT` or a `NULL`. -/
def collectOther (other : String) : Parser String
  | t :: ts =>
    if t.beq (.word "NOT") || t.beq (.word "NULL") then .ok (other, t :: ts)
    else collectOther (other ++ " " ++ t.display) ts
  | [] => .ok (other, [])

theorem run_collectOther_cons (other : String) (t : Token) (ts : List Token) :
    (collectOther other).run (t :: ts) =
      if t.beq (.word "NOT") || t.beq (.word "NULL") then .ok (other, t :: ts)
      else (collectOther (other ++ " " ++ t.display)).run ts := rfl
@[simp] theorem run_collectOther_nil (other : String) : (collectOther other).run [] = .ok (other, []) :=
  rfl

/-- The postfix-`[]` loop of `parse_unconstrained_type`:
`while self.match_(LBracket) { self.expect(RBracket)?; .. }`. -/
def postfixArrays (t : SqlType) : Parser SqlType
  | .lBracket :: .rBracket :: ts => postfixArrays (.array (some t)) ts
  | .lBracket :: tok :: _ => .error (.error (.unexpected tok))
  | [.lBracket] => .error (.error .unexpectedEndOfInput)
  | ts => .ok (t, ts)

/-- The `Token::Word(w)` arm of `parse_inner`. `unconstrained` and `fields` are
the productions it calls back, `parse_unconstrained_type` and `struct_fields`. -/
def parseWord (unconstrained : Parser SqlType)
    (fields : Token → Parser (List (Ident × SqlType × Bool))) (b : Backend) (w : String) :
    Parser SqlType :=
  match Keyword.ofWord? w with
  | some .boolean => pure .boolean
  | some .tinyInt => pure .tinyInt
  | some .smallInt => pure .smallInt
  | some .integer => pure .integer
  | some .bigInt => pure .bigInt
  | some .real => pure .real
  | some .float => do
    let p ← precision u8FromStr
    pure (.float p)
  | some .float4 => pure (if b.isPostgres then .real else .float none)
  | some .float8 => pure .double
  | some .double => do
    let _ ← matchWord "PRECISION"
    pure .double
  | some .decimal => do
    let ps ← precisionAndScale
    pure (.numeric ps)
  | some .bigDecimal => do
    let ps ← precisionAndScale
    pure (.bigNumeric ps)
  | some .char => do
    if ← matchWord "LARGE" then
      expect (.word "OBJECT")
      pure .clob
    else
      let varying ← matchWord "VARYING"
      let len ← precision usizeFromStr
      pure (if varying then .varchar len else .char len)
  | some .varchar => do
    let len ← precision usizeFromStr
    pure (.varchar len)
  | some .national => do
    expect (.word "CHAR")
    let varying ← matchWord "VARYING"
    let len ← precision usizeFromStr
    pure (if varying then .varchar len else .char len)
  | some .string => pure (.varchar none)
  | some .text => pure .text
  | some .clob => pure .clob
  | some .blob => pure .blob
  | some .binary => do
    if ← matchWord "LARGE" then
      expect (.word "OBJECT")
      pure .blob
    else pure .binary
  | some .varbinary => pure .binary
  | some .date => pure .date
  | some .time => do
    let p ← precision u8FromStr
    let tz ← timeZoneSpec
    pure (.time p (if tz = .unspecified then .without else tz))
  | some .timetz => pure (.time none .«with»)
  | some .timestamp => do
    let p ← precision u8FromStr
    let tz ← timeZoneSpec
    pure (.timestamp p tz)
  | some .timestamptz => pure (.timestamp none .«with»)
  | some .timestampNtz => do
    let p ← precision u8FromStr
    pure (.timestamp p .without)
  | some .datetime => do
    let p ← precision u8FromStr
    pure (if b = .snowflake then .timestamp p .without else .dateTime)
  | some .timestampTz => do
    let p ← precision u8FromStr
    pure (.timestamp p .«with»)
  | some .interval => interval
  | some .json => pure .json
  | some .jsonb => pure .jsonb
  | some .geometry => pure .geometry
  | some .geography => pure .geography
  | some .array => do
    if ← match_ .lAngle then
      let inner ← unconstrained
      expect .rAngle
      pure (.array (some inner))
    else pure (.array none)
  | some .struct => do
    let innerFields ← if ← match_ .lAngle then do
        let fs ← fields .rAngle
        pure (some fs)
      else pure none
    pure (.struct innerFields)
  | some .map => do
    let kv ← if ← match_ .lAngle then do
        let k ← unconstrained
        expect .comma
        let v ← unconstrained
        expect .rAngle
        pure (some (k, v))
      else pure none
    pure (.map kv)
  | some .variant => pure .variant
  | some .void => pure .void
  | none => do
    let other ← collectOther w
    pure (.other other)

mutual

/-- `Parser::parse_unconstrained_type`. -/
def parseUnconstrainedType : Nat → Backend → Parser SqlType
  | 0, _ => throw .outOfFuel
  | n + 1, b => do
    let t ← parseInner n b
    if b.isPostgresOrGeneric then postfixArrays t else pure t

/-- `Parser::parse_constrained_type`: a type and its optional nullability. -/
def parseConstrainedType : Nat → Backend → Parser (SqlType × Option Bool)
  | 0, _ => throw .outOfFuel
  | n + 1, b => do
    let t ← parseUnconstrainedType n b
    let nl ← nullable
    pure (t, nl)

/-- `Parser::struct_fields`: the fields after `(` or `STRUCT<`, up to `term`;
`fields` are those read so far. -/
def structFields : Nat → Backend → Token → List (Ident × SqlType × Bool) →
    Parser (List (Ident × SqlType × Bool))
  | 0, _, _, _ => throw .outOfFuel
  | n + 1, b, term, fields => do
    let tok ← next
    if tok.beq term then pure fields else
    match tok with
    | .word w =>
      match word2ident w b with
      | .error e => fail e
      | .ok name => do
        let (ty, nl) ← parseConstrainedType n b
        let fields := fields ++ [(name, ty, nl.getD true)]
        let tok ← next
        match tok with
        | .comma => structFields n b term fields
        | _ => if tok.beq term then pure fields else fail (.unexpected tok)
    | _ => fail (.unexpected tok)

/-- `Parser::parse_inner`: one type, without the postfix `[]` of PostgreSQL. -/
def parseInner : Nat → Backend → Parser SqlType
  | 0, _ => throw .outOfFuel
  | n + 1, b => do
    let tok ← next
    match tok with
    | .lParen =>
      if b.isPostgresOrGeneric then do
        let fields ← structFields n b .rParen []
        pure (.struct (some fields))
      else fail (.unexpected tok)
    | .word w => parseWord (parseUnconstrainedType n b) (fun term => structFields n b term []) b w
    | _ => fail (.unexpected tok)

end

/-- `Parser::parse`: a type and its nullability, `true` unless it says
`NOT NULL`. -/
def parse (n : Nat) (b : Backend) : Parser (SqlType × Bool) := do
  let (ty, nl) ← parseConstrainedType n b
  pure (ty, nl.getD true)

end Parser

/-- The fuel `SqlType.parse` gives the parser on `ts`. -/
def fuelFor (ts : List Token) : Nat := 2 * ts.length + 3

/-- `SqlType::parse`: the type a string spells on a backend, and whether it is
nullable. -/
def SqlType.parse (b : Backend) (input : String) : Except String (SqlType × Bool) :=
  let ts := tokenize input
  match (Parser.parse (fuelFor ts) b).run ts with
  | .ok (r, _) => .ok r
  | .error (.error e) => .error ("Failed to parse SQL type '" ++ input ++ "': " ++ e.display)
  | .error .outOfFuel => .error ("Failed to parse SQL type '" ++ input ++ "': out of fuel")

end DbtXdbc
