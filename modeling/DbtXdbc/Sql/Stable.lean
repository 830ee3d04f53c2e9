import DbtXdbc.Sql.Reparse

/-!
# Parsed types render stably

Spec §6 asks that the rendering of every parsed type read back as a type that
renders the same, with an unknown type only where the parsed type has one. It
does not always. On Snowflake, `TimeZoneSpec::write_single_token_suffix` writes
a timestamp `WITH LOCAL TIME ZONE` as `TIMESTAMP_LTZ`, a spelling no branch of
`parse_inner` tests for, so that it reads back as an unknown type. And a struct
field name that holds the dialect's quote comes back longer where
`_unescape_quoted_ident` keeps that quote doubled, as Snowflake does for `"`:
the renderer doubles the quote and each round doubles it again
(`snowflake_reparse_diverges`).

These are the only two failures. For every parsed type that holds neither
(`SqlType.rereads`), the rendering reads back as `canon` of the type
(`parse_toString_of_parse`), which renders the same and keeps its unknown types
(`others_canon`). Both speak of `SqlType::to_string` as a release build runs
it, where the debug assertions of `SqlType::write` do not stop it.

The proof meets `Sql/Reparse.lean` at `SqlType.Renderable`: a parsed type is
renderable (`renderable_of_parse`). The parser captures an unknown type up to
`NOT`, `NULL` or the end of the input, so one inside another type is a struct
field that is `NOT NULL`; its tokens are tokens the tokenizer returned, which
read back as themselves (`relexes_tokenize`); and a name the parser reads as
plain is a plain word. `grammar_reread` is the induction over the grammar,
with the invariant that the tokens still to read are such tokens
(`Grammar.suffix`: a derivation reads a prefix of its tokens).
-/

namespace DbtXdbc

/-! ## The unknown types of a type -/

mutual

/-- The texts of the unknown types `t` holds, in order. -/
def SqlType.others : SqlType → List String
  | .other s => [s]
  | .array (some t) => SqlType.others t
  | .struct (some fields) => SqlType.fieldsOthers fields
  | .map (some (k, v)) => SqlType.others k ++ SqlType.others v
  | _ => []

/-- `SqlType.others` of the fields of a struct. -/
def SqlType.fieldsOthers : List (Ident × SqlType × Bool) → List String
  | [] => []
  | (_, t, _) :: fields => SqlType.others t ++ SqlType.fieldsOthers fields

end

theorem others_canonLeaf (d : Dialect) (t : SqlType) : (t.canonLeaf d).others = t.others := by
  cases t with
  | char len | varchar len => rcases len with _ | _ <;> cases d <;> rfl
  | timestamp p tz => rcases p with _ | _ <;> cases d <;> rfl
  | _ => cases d <;> rfl

mutual

/-- A rendering reads back with the unknown types of the type it renders. -/
theorem others_canon (d : Dialect) : (t : SqlType) → (t.canon d).others = t.others
  | .array (some t) => by rw [SqlType.canon_array]; exact others_canon d t
  | .struct (some fields) => by rw [SqlType.canon_struct]; exact fieldsOthers_canonFields d fields
  | .map (some (k, v)) => by
    rw [SqlType.canon_map]
    exact congrArg₂ (· ++ ·) (others_canon d k) (others_canon d v)
  | .array none | .struct none | .map none | .other _ => others_canonLeaf d _
  | .boolean | .tinyInt | .smallInt | .integer | .bigInt | .real | .float _ | .double | .numeric _
  | .bigNumeric _ | .char _ | .varchar _ | .text | .clob | .blob | .binary | .date | .time _ _
  | .timestamp _ _ | .dateTime | .interval _ | .json | .jsonb | .geometry | .geography | .variant
  | .void => others_canonLeaf d _

theorem fieldsOthers_canonFields (d : Dialect) :
    (fields : List (Ident × SqlType × Bool)) →
      SqlType.fieldsOthers (SqlType.canonFields d fields) = SqlType.fieldsOthers fields
  | [] => rfl
  | (_, t, _) :: fields =>
    congrArg₂ (· ++ ·) (others_canon d t) (fieldsOthers_canonFields d fields)

end

/-! ## The two failures -/

/-- Whether a struct field name reads back from its rendering, as far as its
quote goes: a plain name does, and a quoted one, which the renderer writes in
the dialect's quote, when the backend collapses that quote doubled or the name
holds none (`word2ident_wrap`). -/
def Ident.quoteReadsBack (b : Backend) : Ident → Bool
  | .plain _ => true
  | .unquoted _ s => collapses b b.dialect.quote || decide (b.dialect.quote.toChar ∉ s.data)

mutual

/-- Whether `t` holds neither a Snowflake timestamp `WITH LOCAL TIME ZONE` nor a
struct field whose quoted name does not read back. -/
def SqlType.rereads (b : Backend) : SqlType → Bool
  | .timestamp _ .«local» => b.dialect != .snowflake
  | .array (some t) => SqlType.rereads b t
  | .struct (some fields) => SqlType.fieldsReread b fields
  | .map (some (k, v)) => SqlType.rereads b k && SqlType.rereads b v
  | _ => true

/-- `SqlType.rereads` for the fields of a struct, and their names. -/
def SqlType.fieldsReread (b : Backend) : List (Ident × SqlType × Bool) → Bool
  | [] => true
  | (name, t, _) :: fields =>
    name.quoteReadsBack b && SqlType.rereads b t && SqlType.fieldsReread b fields

end

/-- On Snowflake, `TIMESTAMP(3) WITH LOCAL TIME ZONE` renders as
`TIMESTAMP_LTZ(3)`, which reads back as an `Other` whose rendering is not the
one it was read from; and the field `"a""b"` renders as `"a""""b"`, which reads
back as a field whose rendering is longer again. -/
theorem snowflake_reparse_diverges :
    SqlType.parse .snowflake "TIMESTAMP(3) WITH LOCAL TIME ZONE" = .ok (.timestamp (some 3) .«local», true) ∧
    (SqlType.timestamp (some 3) .«local»).toString .snowflake = "TIMESTAMP_LTZ(3)" ∧
    SqlType.parse .snowflake "TIMESTAMP_LTZ(3)" = .ok (.other "TIMESTAMP_LTZ ( 3 )", true) ∧
    (SqlType.other "TIMESTAMP_LTZ ( 3 )").toString .snowflake = "TIMESTAMP_LTZ ( 3 )" ∧
    SqlType.parse .snowflake "STRUCT<\"a\"\"b\" INT>" =
      .ok (.struct (some [(.unquoted .double "a\"\"b", .integer, true)]), true) ∧
    (SqlType.struct (some [(.unquoted .double "a\"\"b", .integer, true)])).toString .snowflake =
      "STRUCT<\"a\"\"\"\"b\" INT>" ∧
    SqlType.parse .snowflake "STRUCT<\"a\"\"\"\"b\" INT>" =
      .ok (.struct (some [(.unquoted .double "a\"\"\"\"b", .integer, true)]), true) ∧
    (SqlType.struct (some [(.unquoted .double "a\"\"\"\"b", .integer, true)])).toString .snowflake =
      "STRUCT<\"a\"\"\"\"\"\"\"\"b\" INT>" :=
  ⟨rfl, rfl, rfl, rfl, rfl, rfl, rfl, rfl⟩

/-! ## A derivation reads a prefix of its tokens -/

namespace Grammar

theorem Precision.suffix {α : Type} {fromStr : String → Except IntErrorKind α} {ts rest : List Token}
    {v : Option α} (h : Precision fromStr ts v rest) : rest <:+ ts := by
  cases h
  · exact List.suffix_refl _
  · exact ⟨[_, _, _], rfl⟩

theorem OptWord.suffix {w : String} {ts rest : List Token} {x : Bool} (h : OptWord w ts x rest) :
    rest <:+ ts := by
  cases h
  · exact List.suffix_refl _
  · exact List.suffix_cons _ _

theorem Scalar.suffix {b : Backend} {k : Keyword} {ts rest : List Token} {t : SqlType}
    (h : Scalar b k ts t rest) : rest <:+ ts := by
  cases h with
  | standalone _ => exact List.suffix_refl _
  | float h | varchar h | timestampNtz h | datetime h | timestampTz h => exact h.suffix
  | double h => exact h.suffix
  | decimal h | bigDecimal h => cases h <;> first | exact List.suffix_refl _ | exact ⟨[_, _, _], rfl⟩ |
      exact ⟨[_, _, _, _, _], rfl⟩
  | charLargeObject _ _ | binaryLargeObject _ _ => exact ⟨[_, _], rfl⟩
  | char _ h₁ h₂ => exact h₂.suffix.trans h₁.suffix
  | national _ h₁ h₂ => exact (h₂.suffix.trans h₁.suffix).trans (List.suffix_cons _ _)
  | binary _ => exact List.suffix_refl _
  | time h₁ h₂ | timestamp h₁ h₂ =>
    refine List.IsSuffix.trans ?_ h₁.suffix
    cases h₂ with
    | «with» _ h _ _ => exact (List.IsSuffix.trans ⟨[_, _], rfl⟩ h.suffix).trans (List.suffix_cons _ _)
    | without _ _ _ => exact ⟨[_, _, _], rfl⟩
    | unspecified _ _ => exact List.suffix_refl _
  | interval h =>
    cases h with
    | field _ _ _ => exact List.suffix_cons _ _
    | second _ _ h => exact h.suffix.trans (List.suffix_cons _ _)
    | range _ _ _ _ => exact ⟨[_, _, _], rfl⟩
    | rangeSecond _ _ _ h => exact h.suffix.trans ⟨[_, _, _], rfl⟩
    | precision _ h => exact h.suffix

theorem Nullable.suffix {ts rest : List Token} {nl : Option Bool} (h : Nullable ts nl rest) :
    rest <:+ ts := by
  cases h
  · exact ⟨[_, _], rfl⟩
  · exact List.suffix_cons _ _
  · exact List.suffix_refl _

theorem ArraySuffix.suffix {t t' : SqlType} {ts rest : List Token} (h : ArraySuffix t ts t' rest) :
    rest <:+ ts := by
  induction h with
  | done _ => exact List.suffix_refl _
  | array _ ih => exact ih.trans ⟨[_, _], rfl⟩

/-- What follows a type, a nullability or a field list is what its tokens end
with. -/
theorem suffix (b : Backend) :
    (∀ {ts t rest}, Inner b ts t rest → rest <:+ ts) ∧
    (∀ {ts t rest}, Unconstrained b ts t rest → rest <:+ ts) ∧
    (∀ {ts r rest}, Constrained b ts r rest → rest <:+ ts) ∧
    (∀ {term ts fs rest}, Fields b term ts fs rest → rest <:+ ts) := by
  refine (fun paren scalar arrayOf array structOf struct mapOf map other arrays inner mk close last more =>
    ⟨fun h => @Inner.rec b (fun ts _ rest _ => rest <:+ ts) (fun ts _ rest _ => rest <:+ ts)
        (fun ts _ rest _ => rest <:+ ts) (fun _ ts _ rest _ => rest <:+ ts) paren scalar arrayOf array
        structOf struct mapOf map other arrays inner mk close last more _ _ _ h,
      fun h => @Unconstrained.rec b (fun ts _ rest _ => rest <:+ ts) (fun ts _ rest _ => rest <:+ ts)
        (fun ts _ rest _ => rest <:+ ts) (fun _ ts _ rest _ => rest <:+ ts) paren scalar arrayOf array
        structOf struct mapOf map other arrays inner mk close last more _ _ _ h,
      fun h => @Constrained.rec b (fun ts _ rest _ => rest <:+ ts) (fun ts _ rest _ => rest <:+ ts)
        (fun ts _ rest _ => rest <:+ ts) (fun _ ts _ rest _ => rest <:+ ts) paren scalar arrayOf array
        structOf struct mapOf map other arrays inner mk close last more _ _ _ h,
      fun h => @Fields.rec b (fun ts _ rest _ => rest <:+ ts) (fun ts _ rest _ => rest <:+ ts)
        (fun ts _ rest _ => rest <:+ ts) (fun _ ts _ rest _ => rest <:+ ts) paren scalar arrayOf array
        structOf struct mapOf map other arrays inner mk close last more _ _ _ _ h⟩)
    ?paren ?scalar ?arrayOf ?array ?structOf ?struct ?mapOf ?map ?other ?arrays ?inner ?mk ?close ?last ?more
  case paren => intro _ _ _ _ _ ih; exact ih.trans (List.suffix_cons _ _)
  case scalar => intro _ _ _ _ _ _ hs; exact hs.suffix.trans (List.suffix_cons _ _)
  case arrayOf => intro _ _ _ _ _ _ ih; exact (List.suffix_cons _ _).trans (ih.trans ⟨[_, _], rfl⟩)
  case structOf => intro _ _ _ _ _ _ ih; exact ih.trans ⟨[_, _], rfl⟩
  case array | struct | map => intro _ _ _ _; exact List.suffix_cons _ _
  case mapOf =>
    intro _ _ _ _ _ _ _ _ _ ih₁ ih₂
    exact ((List.suffix_cons _ _).trans ih₂).trans
      (((List.suffix_cons _ _).trans ih₁).trans ⟨[_, _], rfl⟩)
  case other => intro w captured rest _ _ _; exact ⟨.word w :: captured, rfl⟩
  case arrays => intro _ _ _ _ _ _ _ hs ih; exact hs.suffix.trans ih
  case inner => intro _ _ _ _ _ ih; exact ih
  case mk => intro _ _ _ _ _ _ hn ih; exact hn.suffix.trans ih
  case close => intro _ _ _ _; exact List.suffix_cons _ _
  case last => intro _ _ _ _ _ _ _ _ _ _ _ _ _ ih; exact ((List.suffix_cons _ _).trans ih).trans (List.suffix_cons _ _)
  case more =>
    intro _ _ _ _ _ _ _ _ _ _ _ _ _ ih₁ ih₂
    exact ih₂.trans (((List.suffix_cons _ _).trans ih₁).trans (List.suffix_cons _ _))

end Grammar

/-! ## What the grammar derives from the tokenizer's tokens -/

theorem Relexes.suffix {ts rest : List Token} (h : Relexes ts) (hs : rest <:+ ts) : Relexes rest := by
  obtain ⟨pre, rfl⟩ := hs
  induction pre with
  | nil => exact h
  | cons t pre ih => exact ih h.tail

theorem Relexes.head {t : Token} {ts : List Token} (h : Relexes (t :: ts)) (hne : ts ≠ []) : t.Closed := by
  obtain ⟨u, us, rfl⟩ := List.exists_cons_of_ne_nil hne
  exact h.1

/-- What the grammar says of a type it derives, before the tokens `rest`: the
type is `Nested`, or it is an unknown type whose capture `rest` ends and whose
tokens the tokenizer returned. -/
def Reread (b : Backend) (t : SqlType) (rest : List Token) : Prop :=
  t.Nested b ∨ ∃ s w captured, t = .other s ∧ OtherText s w captured ∧
    (∀ u ∈ rest.head?, Grammar.endsOther u = true) ∧ Relexes (.word w :: (captured ++ rest))

/-- A type that a token other than `NOT` or `NULL` follows is `Nested`. -/
theorem Reread.nested {b : Backend} {t : SqlType} {u : Token} {rest : List Token} (h : Reread b t (u :: rest))
    (hu : Grammar.endsOther u = false) : t.Nested b := by
  rcases h with h | ⟨_, _, _, _, _, hend, _⟩
  · exact h
  · exact nomatch (hend u rfl).symm.trans hu

theorem eqi_left {x a : String} (h : eqi x a = true) (c : String) : eqi x c = eqi a c := by
  unfold eqi at *
  rw [of_decide_eq_true h]

theorem endsOther_of_nullable {t : Token} (h : t.beq (.word "NULLABLE") = true) :
    Grammar.endsOther t = false := by
  cases t with
  | word x => rw [Grammar.endsOther, Token.beq, Token.beq, eqi_left h, eqi_left h]; decide
  | _ => cases h

theorem endsOther_of_beq {t term : Token} (h : t.beq term = true) (hterm : term = .rAngle ∨ term = .rParen) :
    Grammar.endsOther t = false := by
  rcases hterm with rfl | rfl <;> cases t <;> first | rfl | cases h

/-- The type of a struct field, which a comma or the closer follows after its
nullability: `Nested`, or an unknown type that is `NOT NULL` and whose text
reads back as its tokens. -/
theorem Reread.field {b : Backend} {t : SqlType} {ts₁ : List Token} {nl : Option Bool} {u : Token}
    {rest : List Token} (h : Reread b t ts₁) (hn : Grammar.Nullable ts₁ nl (u :: rest))
    (hu : Grammar.endsOther u = false) :
    t.Nested b ∨ nl.getD true = false ∧ ∃ s w captured, t = .other s ∧ Lexes s (.word w :: captured) ∧
      OtherText s w captured := by
  rcases h with h | ⟨s, w, captured, rfl, ho, hend, hrel⟩
  · exact .inl h
  · cases hn with
    | notNull _ _ =>
      exact .inr ⟨rfl, s, w, captured, rfl, ho.text ▸ hrel.otherText.2 (List.cons_ne_nil _ _), ho⟩
    | nullable hnl => exact nomatch (hend _ rfl).symm.trans (endsOther_of_nullable hnl)
    | absent _ _ => exact nomatch (hend u rfl).symm.trans hu

/-- A name the parser reads from a completed word reads back from its
rendering, as far as its quote allows. -/
theorem readsBack_of_word2ident {w : String} {b : Backend} {name : Ident} (hw : word2ident w b = .ok name)
    (hc : (Token.word w).Closed) (hq : name.quoteReadsBack b = true) : name.ReadsBack b := by
  obtain ⟨_ | ⟨c, cs⟩⟩ := w
  · cases hw
  · unfold word2ident at hw
    dsimp only at hw
    cases hqc : Quote.ofChar? c with
    | none =>
      rw [hqc] at hw
      cases hw
      exact hc.isPlainWord (Quote.ofChar_eq_none.mp hqc)
    | some q =>
      rw [hqc] at hw
      dsimp only at hw
      split at hw
      · cases hw
        simpa [Ident.quoteReadsBack, Ident.ReadsBack] using hq
      · cases hw

theorem Grammar.ArraySuffix.rereads {b : Backend} {t t' : SqlType} {ts rest : List Token}
    (h : Grammar.ArraySuffix t ts t' rest) : t'.rereads b = t.rereads b := by
  induction h with
  | done _ => rfl
  | array _ ih => exact ih

theorem Grammar.ArraySuffix.reread {b : Backend} {t t' : SqlType} {ts rest : List Token}
    (h : Grammar.ArraySuffix t ts t' rest) (hr : Reread b t ts) : Reread b t' rest := by
  induction h with
  | done _ => exact hr
  | array _ ih => exact ih (.inl (hr.nested rfl))

/-- The parser reads a time with no time-zone specification as one `WITHOUT
TIME ZONE`. -/
theorem nested_time (b : Backend) (p : Option UInt8) (tz : TimeZoneSpec) :
    (SqlType.time p (if tz = .unspecified then .without else tz)).Nested b := by
  cases tz <;> trivial

theorem Grammar.Scalar.nested {b : Backend} {k : Keyword} {ts rest : List Token} {t : SqlType}
    (h : Grammar.Scalar b k ts t rest) (hr : t.rereads b = true) : t.Nested b := by
  cases h with
  | standalone hk => cases k <;> cases hk <;> first | trivial | (split <;> trivial)
  | char _ _ _ | national _ _ _ | datetime _ => split <;> trivial
  | time _ _ => exact nested_time b _ _
  | timestamp _ _ => rename_i tz _ _; cases tz <;> first | trivial | exact bne_iff_ne.mp hr
  | _ => trivial

/-- The grammar derives, from tokens the tokenizer returned, only what `Reread`
says, for a type that holds neither failure. -/
theorem grammar_reread (b : Backend) :
    (∀ {ts t rest}, Grammar.Inner b ts t rest → Relexes ts → t.rereads b = true → Reread b t rest) ∧
    (∀ {ts t rest}, Grammar.Unconstrained b ts t rest → Relexes ts → t.rereads b = true →
      Reread b t rest) ∧
    (∀ {ts r rest}, Grammar.Constrained b ts r rest → Relexes ts → r.1.rereads b = true →
      ∃ ts₁, Reread b r.1 ts₁ ∧ Grammar.Nullable ts₁ r.2 rest) ∧
    (∀ {term ts fs rest}, Grammar.Fields b term ts fs rest → Relexes ts →
      (term = .rAngle ∨ term = .rParen) → SqlType.fieldsReread b fs = true → SqlType.FieldsNested b fs) := by
  let MI := fun ts t rest (_ : Grammar.Inner b ts t rest) =>
    Relexes ts → t.rereads b = true → Reread b t rest
  let MU := fun ts t rest (_ : Grammar.Unconstrained b ts t rest) =>
    Relexes ts → t.rereads b = true → Reread b t rest
  let MC := fun ts (r : SqlType × Option Bool) rest (_ : Grammar.Constrained b ts r rest) =>
    Relexes ts → r.1.rereads b = true → ∃ ts₁, Reread b r.1 ts₁ ∧ Grammar.Nullable ts₁ r.2 rest
  let MF := fun term ts fs rest (_ : Grammar.Fields b term ts fs rest) =>
    Relexes ts → (term = .rAngle ∨ term = .rParen) → SqlType.fieldsReread b fs = true →
      SqlType.FieldsNested b fs
  refine (fun paren scalar arrayOf array structOf struct mapOf map other arrays inner mk close last more =>
    ⟨fun h => @Grammar.Inner.rec b MI MU MC MF paren scalar arrayOf array structOf struct mapOf map other
        arrays inner mk close last more _ _ _ h,
      fun h => @Grammar.Unconstrained.rec b MI MU MC MF paren scalar arrayOf array structOf struct mapOf map
        other arrays inner mk close last more _ _ _ h,
      fun h => @Grammar.Constrained.rec b MI MU MC MF paren scalar arrayOf array structOf struct mapOf map
        other arrays inner mk close last more _ _ _ h,
      fun h => @Grammar.Fields.rec b MI MU MC MF paren scalar arrayOf array structOf struct mapOf map other
        arrays inner mk close last more _ _ _ _ h⟩)
    ?paren ?scalar ?arrayOf ?array ?structOf ?struct ?mapOf ?map ?other ?arrays ?inner ?mk ?close ?last ?more
  case paren => intro _ _ _ _ _ ih hts hr; exact .inl (ih hts.tail (.inr rfl) hr)
  case scalar => intro _ _ _ _ _ _ hs _ hr; exact .inl (hs.nested hr)
  case arrayOf => intro _ _ _ _ _ _ ih hts hr; exact .inl ((ih hts.tail.tail hr).nested rfl)
  case structOf => intro _ _ _ _ _ _ ih hts hr; exact .inl (ih hts.tail.tail (.inl rfl) hr)
  case array | struct | map => intro _ _ _ _ _ _; exact .inl trivial
  case mapOf =>
    intro _ ts ts₁ _ _ _ _ hk _ ih₁ ih₂ hts hr
    obtain ⟨hrk, hrv⟩ := Bool.and_eq_true _ _ ▸ hr
    have hts₁ : Relexes ts₁ := hts.tail.tail.suffix ((List.suffix_cons _ _).trans ((Grammar.suffix b).2.1 hk))
    exact .inl ⟨(ih₁ hts.tail.tail hrk).nested rfl, (ih₂ hts₁ hrv).nested rfl⟩
  case other => intro w captured _ hk hc hend hts _; exact .inr ⟨_, w, captured, rfl, ⟨rfl, hk, hc⟩, hend, hts⟩
  case arrays => intro _ _ _ _ _ _ _ hs ih hts hr; exact hs.reread (ih hts (hs.rereads ▸ hr))
  case inner => intro _ _ _ _ _ ih; exact ih
  case mk => intro _ ts₁ _ _ _ _ hn ih hts hr; exact ⟨ts₁, ih hts hr, hn⟩
  case close => intro _ _ _ _ _ _ _; trivial
  case last =>
    intro term u w name ts rest ty nl _ hname hc _ hu ih hts hterm hr
    simp only [SqlType.fieldsReread, Bool.and_true, Bool.and_eq_true] at hr
    have hne : ts ≠ [] := ((Grammar.suffix b).2.2.1 hc).ne_nil (List.cons_ne_nil _ _)
    obtain ⟨ts₁, hre, hn⟩ := ih hts.tail hr.2
    exact ⟨readsBack_of_word2ident hname (hts.head hne) hr.1, hre.field hn (endsOther_of_beq hu hterm), trivial⟩
  case more =>
    intro term w name ts ts₁ rest ty nl fs _ hname hc _ ih₁ ih₂ hts hterm hr
    simp only [SqlType.fieldsReread, Bool.and_eq_true] at hr
    have hs := (Grammar.suffix b).2.2.1 hc
    obtain ⟨ts₂, hre, hn⟩ := ih₁ hts.tail hr.1.2
    exact ⟨readsBack_of_word2ident hname (hts.head (hs.ne_nil (List.cons_ne_nil _ _))) hr.1.1,
      hre.field hn rfl, ih₂ (hts.tail.suffix ((List.suffix_cons _ _).trans hs)) hterm hr.2⟩

/-! ## Parsed types -/

theorem renderable_of_constrained {b : Backend} {ts : List Token} (hts : Relexes ts) {t : SqlType}
    {nl : Option Bool} {rest : List Token} (h : Grammar.Constrained b ts (t, nl) rest)
    (hr : t.rereads b = true) : t.Renderable b := by
  obtain ⟨_, hre | ⟨s, w, captured, rfl, ho, _, hrel⟩, _⟩ := (grammar_reread b).2.2.1 h hts hr
  · exact .inl hre
  · exact .inr ⟨s, w, captured, rfl, ho.text ▸ hrel.otherText.1, ho⟩

/-- A parsed type that holds neither failure is renderable. -/
theorem renderable_of_parse {b : Backend} {s : String} {t : SqlType} {nullable : Bool}
    (h : SqlType.parse b s = .ok (t, nullable)) (hr : t.rereads b = true) : t.Renderable b := by
  obtain ⟨_, _, hc, _⟩ := run_parse_fuelFor_iff.mp (parse_eq_ok_iff_run.mp h)
  exact renderable_of_constrained (relexes_tokenize s) hc hr

/-- The rendering of a parsed type reads back, nullable, as `canon` of it, which
renders the same and holds the same unknown types; unless the type holds a
Snowflake timestamp `WITH LOCAL TIME ZONE` or a quoted struct field name that
does not read back. -/
theorem parse_toString_of_parse {b : Backend} {s : String} {t : SqlType} {nullable : Bool}
    (h : SqlType.parse b s = .ok (t, nullable)) (hr : t.rereads b = true) :
    SqlType.parse b (t.toString b) = .ok (t.canon b.dialect, true) ∧
      (t.canon b.dialect).toString b = t.toString b ∧ (t.canon b.dialect).others = t.others :=
  ⟨parse_toString b t (renderable_of_parse h hr), toString_canon b t (renderable_of_parse h hr),
    others_canon b.dialect t⟩

/-- On PostgreSQL, `(b mytype NOT NULL)` reads as a struct whose field is an
unknown type; its rendering reads back as it. -/
theorem parse_toString_of_parse_postgres :
    SqlType.parse .postgres "(b mytype NOT NULL)" =
      .ok (.struct (some [(.plain "b", .other "mytype", false)]), true) ∧
    (SqlType.struct (some [(.plain "b", .other "mytype", false)])).rereads .postgres = true ∧
    SqlType.parse .postgres ((SqlType.struct (some [(.plain "b", .other "mytype", false)])).toString .postgres) =
      .ok ((SqlType.struct (some [(.plain "b", .other "mytype", false)])).canon Backend.postgres.dialect, true) ∧
    ((SqlType.struct (some [(.plain "b", .other "mytype", false)])).canon Backend.postgres.dialect).toString
      .postgres = (SqlType.struct (some [(.plain "b", .other "mytype", false)])).toString .postgres ∧
    ((SqlType.struct (some [(.plain "b", .other "mytype", false)])).canon Backend.postgres.dialect).others =
      (SqlType.struct (some [(.plain "b", .other "mytype", false)])).others :=
  ⟨rfl, rfl, @parse_toString_of_parse .postgres "(b mytype NOT NULL)" _ true rfl rfl⟩

example : (SqlType.struct (some [(.plain "b", .other "mytype", false)])).toString .postgres =
    "(b mytype NOT NULL)" := by
  decide

/-- The text `parse_inner` captures for an unknown type, its first word and
each token after it behind a space, tokenizes back into those tokens, wherever
they stand among the tokens of an input. -/
theorem tokenize_otherText {s w : String} {pre captured rest : List Token}
    (h : tokenize s = pre ++ .word w :: (captured ++ rest)) :
    tokenize (Grammar.otherText w captured) = .word w :: captured :=
  ((relexes_tokenize s).suffix ⟨pre, h.symm⟩).otherText.1

/-- The capture of `a "b c" d` from its first word reads back as its three
tokens, the quoted one whole. -/
theorem tokenize_otherText_quoted :
    tokenize "a \"b c\" d" = [] ++ .word "a" :: ([.word "\"b c\"", .word "d"] ++ []) ∧
    tokenize (Grammar.otherText "a" [.word "\"b c\"", .word "d"]) = [.word "a", .word "\"b c\"", .word "d"] :=
  ⟨by decide, @tokenize_otherText "a \"b c\" d" "a" [] [.word "\"b c\"", .word "d"] [] (by decide)⟩

end DbtXdbc
