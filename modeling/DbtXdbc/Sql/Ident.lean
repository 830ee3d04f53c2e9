import DbtXdbc.Sql.Integer

/-!
# Parse errors and identifiers

`ParseError` and `word2ident` of `types.rs`, and the identifiers of struct
fields. A word that opens with a quote must close with the same quote
(`word2ident`); its inside is then unescaped by `_unescape_quoted_ident`, which
collapses doubled quotes for `"` on the PostgreSQL family and for `'` on every
backend, and keeps the inside verbatim otherwise.

`Ident` and its rendering live in `super::ident`, which is not under `src/`;
they are modelled from spec §3 and §4.2: a quoted identifier is rendered in the
quote of the backend's dialect, whatever quote it was read with, with that
quote doubled inside (`Ident.display`). `word2ident_wrap` says what reading
such a rendering back gives: the text itself exactly where the unescaping
collapses that quote, or where the text has no such quote.
-/

namespace DbtXdbc

/-- `ParseError` of `types.rs`. -/
inductive ParseError where
  | unexpectedEndOfInput
  | unexpected (tok : Token)
  | parseIntError (e : IntErrorKind)
  | unclosedQuote (q : Char)
  | expectedDateTimeField
  deriving DecidableEq, Repr

/-- `Display for ParseError`. -/
def ParseError.display : ParseError → String
  | .unexpectedEndOfInput => "unexpected end of input"
  | .unexpected tok => "unexpected token: " ++ tok.display
  | .parseIntError e => e.display
  | .unclosedQuote q => "'" ++ q.toString ++ "' is not closed"
  | .expectedDateTimeField => "expected a date/time field (e.g. YEAR, DAY, SECOND, etc.)"

/-- The quote a quoted identifier was written with. -/
inductive Quote where
  | double
  | backtick
  | single
  deriving DecidableEq, Repr

namespace Quote

def toChar : Quote → Char
  | .double => '"'
  | .backtick => DbtXdbc.backtick
  | .single => '\''

/-- `[b'\'', b'"', b'`'].contains(&first_byte)`, then `first_byte.try_into()`. -/
def ofChar? (c : Char) : Option Quote :=
  if c = '"' then some .double
  else if c = DbtXdbc.backtick then some .backtick
  else if c = '\'' then some .single
  else none

@[simp] theorem ofChar_toChar (q : Quote) : ofChar? q.toChar = some q := by
  cases q <;> decide

end Quote

/-- Modelled from the spec: `Ident` of `super::ident`, a plain identifier or one
quoted with `q`, whose text is already unescaped. -/
inductive Ident where
  | plain (s : String)
  | unquoted (q : Quote) (s : String)
  deriving DecidableEq, Repr

/-- `s.replace(qq, q)`: each doubled `q`, from left to right, becomes one. -/
def collapseQuotes (q : Char) : List Char → List Char
  | c :: d :: cs => if c = q ∧ d = q then q :: collapseQuotes q cs else c :: collapseQuotes q (d :: cs)
  | cs => cs

/-- `s.replace(q, qq)`: every `q` doubled. -/
def doubleQuotes (q : Char) (s : List Char) : List Char :=
  s.flatMap fun c => if c = q then [q, q] else [c]

/-- `_unescape_quoted_ident`: the inside of a word quoted with `q` (`&word[1..len - 1]`),
unescaped by the rules of the backend. The code returns it as `Ok`, always. -/
def unescapeQuotedIdent (word : String) (q : Quote) (b : Backend) : String :=
  let inner := (word.data.drop 1).dropLast
  match b.isPostgres, q with
  | true, .double => String.mk (collapseQuotes '"' inner)
  | _, .single => String.mk (collapseQuotes '\'' inner)
  | _, _ => String.mk inner

/-- `word2ident`: a plain word as it is; a quoted word, which must end with the
quote it opens with, unescaped. -/
def word2ident (word : String) (b : Backend) : Except ParseError Ident :=
  match word.data with
  | [] => .error .unexpectedEndOfInput
  | c :: rest =>
    match Quote.ofChar? c with
    | none => .ok (.plain word)
    | some q =>
      if rest.getLast? = some c then .ok (.unquoted q (unescapeQuotedIdent word q b))
      else .error (.unclosedQuote c)

/-- Modelled from the spec (§4.2): the quote the renderer writes a quoted
identifier in, `"` on PostgreSQL, Redshift and Snowflake and a backtick on
BigQuery and Databricks. The spec names none for `Salesforce` and `Generic`,
which get ANSI SQL's `"`. -/
def Dialect.quote : Dialect → Quote
  | .bigQuery | .databricks => .backtick
  | .snowflake | .postgres | .generic => .double

/-- The text `s` in the quote `q`, with every `q` inside doubled. -/
def Quote.wrap (q : Quote) (s : String) : String :=
  String.mk (q.toChar :: doubleQuotes q.toChar s.data ++ [q.toChar])

/-- Modelled from the spec: `Ident::display(backend)`. A plain identifier as it
is; a quoted one in the quote of the backend's dialect. -/
def Ident.display (b : Backend) : Ident → String
  | .plain s => s
  | .unquoted _ s => b.dialect.quote.wrap s

/-- On BigQuery a name read in `"` is written in BigQuery's quote, which is
doubled inside. -/
example : Ident.display .bigQuery (.unquoted .double "a`b") = "`a``b`" := by
  decide

/-! ## Unescaping undoes doubling where the backend collapses the quote -/

@[simp] theorem doubleQuotes_nil (q : Char) : doubleQuotes q [] = [] := rfl

theorem doubleQuotes_cons (q c : Char) (s : List Char) :
    doubleQuotes q (c :: s) = (if c = q then [q, q] else [c]) ++ doubleQuotes q s := rfl

theorem length_doubleQuotes (q : Char) (s : List Char) :
    (doubleQuotes q s).length = s.length + s.count q := by
  induction s with
  | nil => rfl
  | cons c s ih =>
    rw [doubleQuotes_cons, List.length_append, ih, List.count_cons]
    split <;> simp_all <;> omega

theorem collapseQuotes_cons_of_ne {q c : Char} (h : c ≠ q) (cs : List Char) :
    collapseQuotes q (c :: cs) = c :: collapseQuotes q cs := by
  cases cs with
  | nil => rfl
  | cons d cs => simp [collapseQuotes, h]

theorem collapseQuotes_doubleQuotes (q : Char) (s : List Char) :
    collapseQuotes q (doubleQuotes q s) = s := by
  induction s with
  | nil => rfl
  | cons c s ih =>
    rw [doubleQuotes_cons]
    by_cases h : c = q
    · subst h; simp [collapseQuotes, ih]
    · rw [if_neg h, List.singleton_append, collapseQuotes_cons_of_ne h, ih]

/-- Doubling changes a text exactly when the quote occurs in it. -/
theorem doubleQuotes_eq_self_iff (q : Char) (s : List Char) : doubleQuotes q s = s ↔ q ∉ s := by
  constructor
  · intro e h
    have hl := length_doubleQuotes q s
    rw [e] at hl
    have := List.count_pos_iff.mpr h
    omega
  · intro h
    induction s with
    | nil => rfl
    | cons c s ih =>
      simp only [List.mem_cons, not_or] at h
      rw [doubleQuotes_cons, if_neg (Ne.symm h.1), ih h.2, List.singleton_append]

/-- Whether `_unescape_quoted_ident` collapses doubled `q` on backend `b`. -/
def collapses (b : Backend) : Quote → Bool
  | .double => b.isPostgres
  | .single => true
  | .backtick => false

/-- Reading back a text in quote `q`: doubling is undone exactly where the
backend collapses that quote. -/
theorem word2ident_wrap (b : Backend) (q : Quote) (s : String) :
    word2ident (q.wrap s) b =
      .ok (.unquoted q (if collapses b q then s else String.mk (doubleQuotes q.toChar s.data))) := by
  cases q <;> cases hb : b.isPostgres <;>
    simp [word2ident, Quote.wrap, unescapeQuotedIdent, collapses, hb, Quote.toChar, Quote.ofChar?,
      collapseQuotes_doubleQuotes]

/-- Where the backend collapses the quote, or the text holds none, a text in
quote `q` reads back as itself. -/
theorem word2ident_wrap_self {b : Backend} {q : Quote} {s : String}
    (h : collapses b q = true ∨ q.toChar ∉ s.data) : word2ident (q.wrap s) b = .ok (.unquoted q s) := by
  rw [word2ident_wrap]
  split
  · rfl
  · rw [(doubleQuotes_eq_self_iff _ _).mpr (h.resolve_left ‹_›)]

/-- A quoted word in the form the renderer produces reads back as the text it
quotes exactly when the backend collapses that quote or the text has none. -/
theorem word2ident_quoted_iff (b : Backend) (q : Quote) (s : String) :
    word2ident (String.mk (q.toChar :: doubleQuotes q.toChar s.data ++ [q.toChar])) b =
        .ok (.unquoted q s) ↔ collapses b q = true ∨ q.toChar ∉ s.data := by
  refine ⟨fun e => ?_, word2ident_wrap_self⟩
  rw [← Quote.wrap, word2ident_wrap] at e
  cases hc : collapses b q
  · simp only [hc, Bool.false_eq_true, if_false, Except.ok.injEq, Ident.unquoted.injEq, true_and] at e
    exact .inr ((doubleQuotes_eq_self_iff _ _).mp (congrArg String.data e))
  · exact .inl rfl

/-- On Snowflake, `"a""b"`, the rendering of the text `a"b`, reads back as `a""b`. -/
theorem word2ident_snowflake_doubled_quote :
    word2ident "\"a\"\"b\"" .snowflake = .ok (.unquoted .double "a\"\"b") := rfl

end DbtXdbc
