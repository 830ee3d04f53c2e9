import DbtXdbc.Sql.Canon
import DbtXdbc.Sql.Accepts

/-!
# Reading a rendering back

The rendering of a `Renderable` type reads back, nullable, as the type
`SqlType.canon` says (`parse_toString`), and that type renders as the type
itself (`toString_canon`). So after one round, rendering and reading back are
each other's inverse (`parse_toString_stable`): the positive side of spec §6,
whose failures `snowflake_reparse_diverges` shows. The rendering is
`SqlType.toString`, the text of `SqlType::to_string` in a release build; a
debug build stops where `SqlType::write` fails a debug assertion.

The proof follows the renderer. `textReads_writeIn` shows, by recursion on the
type as `SqlType::write` recurses, that a rendering tokenizes (`Lexes`) into
tokens that read as the canonical type whatever the renderer writes after a
type inside another (`Grammar.Follows`), and, followed by postfix `[]`s on the
PostgreSQL family, as the arrays they make (`Grammar.ReadsAs`). Each arm of the
renderer is read by the rule of `Sql/Grammar.lean` for the keyword it spells.
-/

namespace DbtXdbc

namespace Grammar

/-- The tokens the renderer writes right after a type inside another. -/
def followers : List Token := [.rAngle, .comma, .rParen, .lBracket, .word "NOT"]

/-- What follows a type in a rendering: nothing, or a follower; a `[` only on
the backends whose parser reads postfix arrays. -/
def Follows (b : Backend) (rest : List Token) : Prop :=
  ∀ t ∈ rest.head?, t ∈ followers ∧ (t = .lBracket → b.isPostgresOrGeneric = true)

theorem follows_nil (b : Backend) : Follows b [] := fun _ h => nomatch h

theorem follows_cons {b : Backend} {t : Token} (rest : List Token) (ht : t ∈ followers)
    (hb : t ≠ .lBracket) : Follows b (t :: rest) := by
  rintro _ ⟨⟩
  exact ⟨ht, fun h => absurd h hb⟩

theorem Follows.heads {b : Backend} {rest : List Token} {pat : Token} (h : Follows b rest)
    (hp : followers.all (fun t => !t.beq pat) = true) : heads pat rest = false := by
  cases rest with
  | nil => rfl
  | cons t rest => simpa using List.all_eq_true.mp hp t (h t rfl).1

/-- No follower names a date/time field. -/
theorem Follows.field {b : Backend} {rest : List Token} (h : Follows b rest) :
    rest.head?.bind field? = none := by
  cases rest with
  | nil => rfl
  | cons t rest =>
    have hf : ∀ t ∈ followers, field? t = none := by decide
    exact hf t (h t rfl).1

/-- The tokens `ts` read as the type `t`, whatever the renderer writes after
them; followed by postfix `[]`s, as the arrays of `t` they make. -/
def ReadsAs (b : Backend) (ts : List Token) (t : SqlType) : Prop :=
  ∀ {rest u rest'}, Follows b rest → ArraySuffix t rest u rest' → Unconstrained b (ts ++ rest) u rest'

theorem ReadsAs.of_inner {b : Backend} {ts : List Token} {t : SqlType}
    (h : ∀ rest, Follows b rest → Inner b (ts ++ rest) t rest) : ReadsAs b ts t := by
  intro rest u rest' hf hs
  cases hpg : b.isPostgresOrGeneric
  · cases hs with
    | done _ => exact .inner hpg (h rest hf)
    | array _ => exact absurd ((hf _ rfl).2 rfl) (by simp [hpg])
  · exact .arrays hpg (h rest hf) hs

theorem ReadsAs.unconstrained {b : Backend} {ts rest : List Token} {t : SqlType} (h : ReadsAs b ts t)
    (hf : Follows b rest) (hb : heads .lBracket rest = false) : Unconstrained b (ts ++ rest) t rest :=
  h hf (.done hb)

theorem Unconstrained.of_inner {b : Backend} {ts rest : List Token} {t : SqlType} (h : Inner b ts t rest)
    (hb : heads .lBracket rest = false) : Unconstrained b ts t rest := by
  cases hpg : b.isPostgresOrGeneric
  · exact .inner hpg h
  · exact .arrays hpg h (.done hb)

/-! ## Rules of the keyword table with nothing of their own after them -/

theorem Scalar.char_of {b : Backend} {ts rest : List Token} {len : Option UInt64}
    (hl : heads (.word "LARGE") ts = false) (hv : heads (.word "VARYING") ts = false)
    (hp : Precision usizeFromStr ts len rest) : Scalar b .char ts (.char len) rest :=
  @Scalar.char b ts ts rest false len hl (.absent hv) hp

theorem Scalar.datetime_of_ne {b : Backend} (hb : b ≠ .snowflake) {ts rest : List Token}
    {p : Option UInt8} (h : Precision u8FromStr ts p rest) : Scalar b .datetime ts .dateTime rest := by
  have h' := @Scalar.datetime b ts rest p h
  rwa [if_neg hb] at h'

theorem TimeZone.withLocal (rest : List Token) :
    TimeZone (.word "WITH" :: .word "LOCAL" :: .word "TIME" :: .word "ZONE" :: rest) .«local» rest :=
  @TimeZone.with _ _ _ _ rest true rfl (.present rfl) rfl rfl

theorem TimeZone.withZone (rest : List Token) :
    TimeZone (.word "WITH" :: .word "TIME" :: .word "ZONE" :: rest) .«with» rest :=
  @TimeZone.with _ _ _ _ rest false rfl (.absent rfl) rfl rfl

end Grammar

open Grammar

/-! ## Texts that read as a type -/

/-- The text `s` tokenizes into tokens that read as `t`. -/
def TextReads (b : Backend) (s : String) (t : SqlType) : Prop :=
  ∃ ts, Lexes s ts ∧ ReadsAs b ts t

theorem textReads_scalar {b : Backend} {s w : String} {ts : List Token} (hl : Lexes s (.word w :: ts))
    {k : Keyword} (hk : Keyword.ofWord? w = some k) {t : SqlType}
    (hs : ∀ rest, Follows b rest → Scalar b k (ts ++ rest) t rest) : TextReads b s t :=
  ⟨_, hl, ReadsAs.of_inner fun rest hf => .scalar hk (hs rest hf)⟩

theorem textReads_word {b : Backend} {w : String} (hw : IsPlainWord w) {k : Keyword}
    (hk : Keyword.ofWord? w = some k) {t : SqlType} (hs : ∀ rest, Follows b rest → Scalar b k rest t rest) :
    TextReads b w t :=
  textReads_scalar (lexes_plainWord hw) hk hs

/-- A keyword alone, read by its rule with nothing of its own after it. -/
theorem textReads_keyword {b : Backend} {w : String} {k : Keyword}
    (hw : IsPlainWord w ∧ Keyword.ofWord? w = some k) {t : SqlType}
    (hs : ∀ rest, Follows b rest → Scalar b k rest t rest) : TextReads b w t :=
  textReads_word hw.1 hw.2 hs

/-- A keyword of the table that stands alone. -/
theorem textReads_standalone {b : Backend} {w : String} {k : Keyword}
    (hw : IsPlainWord w ∧ Keyword.ofWord? w = some k) {t : SqlType} (hs : k.standalone b = some t) :
    TextReads b w t :=
  textReads_keyword hw fun _ _ => .standalone hs

theorem TextReads.cast {b : Backend} {s : String} {t t' : SqlType} (h : TextReads b s t) (e : t = t') :
    TextReads b s t' :=
  e ▸ h

theorem lexes_parens {n : String} (hn : IsPlainWord n) : Lexes (parens n) [.lParen, .word n, .rParen] :=
  (Lexes.append_of_start (by decide : Lex.run .start "(".data = ([.lParen], .start)) (lexes_plainWord hn)).append
    (by decide : Lexes ")" [.rParen]) rfl

theorem lexes_parens2 (p : UInt8) (s : I8) :
    Lexes (parens2 p s) [.lParen, .word (toString p), .comma, .word s.toString, .rParen] := by
  have h₁ := Lexes.append_of_start (by decide : Lex.run .start "(".data = ([.lParen], .start))
    (lexes_plainWord (isPlainWord_toString_u8 p))
  have h₂ := h₁.run_append (by decide : Lex.run .start ", ".data = ([.comma], .start)) rfl (by decide)
  exact (Lexes.append_of_start h₂ (lexes_plainWord (isPlainWord_toString_i8 s))).append
    (by decide : Lexes ")" [.rParen]) rfl

theorem textReads_parens {b : Backend} {w n : String} {k : Keyword}
    (hw : IsPlainWord w ∧ Keyword.ofWord? w = some k) (hn : IsPlainWord n) {t : SqlType}
    (hs : ∀ rest, Scalar b k (.lParen :: .word n :: .rParen :: rest) t rest) : TextReads b (w ++ parens n) t :=
  textReads_scalar ((lexes_plainWord hw.1).append (lexes_parens hn) rfl) hw.2 fun rest _ => hs rest

theorem textReads_parens2 {b : Backend} {w : String} {k : Keyword}
    (hw : IsPlainWord w ∧ Keyword.ofWord? w = some k) (p : UInt8) (s : I8) {t : SqlType}
    (hs : ∀ rest, Scalar b k (.lParen :: .word (toString p) :: .comma :: .word s.toString :: .rParen :: rest) t rest) :
    TextReads b (w ++ parens2 p s) t :=
  textReads_scalar ((lexes_plainWord hw.1).append (lexes_parens2 p s) rfl) hw.2 fun rest _ => hs rest

/-- The precision of a time as its arms of `SqlType::write` write it: `(p)`, or
nothing. -/
def optParens : Option UInt8 → String
  | some p => parens (toString p)
  | none => ""

theorem reads_optParens (p : Option UInt8) :
    ∃ ts, Lexes (optParens p) ts ∧ opensWithSep (optParens p) = true ∧
      ∀ rest, heads .lParen rest = false → Precision u8FromStr (ts ++ rest) p rest := by
  cases p with
  | none => exact ⟨[], by decide, rfl, fun _ h => .absent h⟩
  | some p =>
    exact ⟨_, lexes_parens (isPlainWord_toString_u8 p), rfl, fun _ _ => .present (u8FromStr_toString p)⟩

/-- The time-zone specs as `write_with_leading_space` writes them on the arms
that write them all. -/
def leadingText : TimeZoneSpec → String
  | .«local» => " WITH LOCAL TIME ZONE"
  | .«with» => " WITH TIME ZONE"
  | .without => " WITHOUT TIME ZONE"
  | .unspecified => ""

theorem reads_leadingText (b : Backend) (tz : TimeZoneSpec) :
    ∃ ts, Lexes (leadingText tz) ts ∧ opensWithSep (leadingText tz) = true ∧
      ∀ rest, Follows b rest → heads .lParen (ts ++ rest) = false ∧ TimeZone (ts ++ rest) tz rest := by
  cases tz with
  | «local» =>
    exact ⟨[.word "WITH", .word "LOCAL", .word "TIME", .word "ZONE"], by decide, rfl,
      fun rest _ => ⟨rfl, .withLocal rest⟩⟩
  | «with» =>
    exact ⟨[.word "WITH", .word "TIME", .word "ZONE"], by decide, rfl, fun rest _ => ⟨rfl, .withZone rest⟩⟩
  | without =>
    exact ⟨[.word "WITHOUT", .word "TIME", .word "ZONE"], by decide, rfl,
      fun rest _ => ⟨rfl, .without rfl rfl rfl⟩⟩
  | unspecified =>
    exact ⟨[], by decide, rfl, fun rest hf => ⟨hf.heads rfl, .unspecified (hf.heads rfl) (hf.heads rfl)⟩⟩

/-- A keyword, a precision and a time-zone spec read as the type the rule of
the keyword makes of them. -/
theorem textReads_zoned {b : Backend} {w : String} {k : Keyword}
    (hw : IsPlainWord w ∧ Keyword.ofWord? w = some k) (p : Option UInt8) (tz : TimeZoneSpec) {t : SqlType}
    (hs : ∀ {ts ts₁ rest}, Precision u8FromStr ts p ts₁ → TimeZone ts₁ tz rest → Scalar b k ts t rest) :
    TextReads b (w ++ optParens p ++ leadingText tz) t := by
  obtain ⟨tp, hlp, hsp, hp⟩ := reads_optParens p
  obtain ⟨tz', hlz, hsz, hz⟩ := reads_leadingText b tz
  have hl : Lexes (w ++ optParens p ++ leadingText tz) (.word w :: (tp ++ tz')) := by
    simpa using ((lexes_plainWord hw.1).append hlp hsp).append hlz hsz
  refine textReads_scalar hl hw.2 fun rest hf => ?_
  rw [List.append_assoc]
  exact hs (hp _ (hz rest hf).1) (hz rest hf).2

/-- A keyword and a precision read as the type the rule of the keyword makes of
them. -/
theorem textReads_prec {b : Backend} {w : String} {k : Keyword}
    (hw : IsPlainWord w ∧ Keyword.ofWord? w = some k) (p : Option UInt8) {t : SqlType}
    (hs : ∀ {ts rest}, Follows b rest → Precision u8FromStr ts p rest → Scalar b k ts t rest) :
    TextReads b (w ++ optParens p) t := by
  obtain ⟨tp, hlp, hsp, hp⟩ := reads_optParens p
  exact textReads_scalar ((lexes_plainWord hw.1).append hlp hsp) hw.2 fun rest hf =>
    hs hf (hp rest (hf.heads rfl))

/-- The precision and scale of a decimal as its arms of `SqlType::write` write
them: `(p)`, `(p, s)`, or nothing. -/
def optScale : Option (UInt8 × Option I8) → String
  | some (p, some s) => parens2 p s
  | some (p, none) => parens (toString p)
  | none => ""

/-- A keyword and a precision and scale read as the type the rule of the
keyword makes of them. -/
theorem textReads_scaled {b : Backend} {w : String} {k : Keyword}
    (hw : IsPlainWord w ∧ Keyword.ofWord? w = some k) (ps : Option (UInt8 × Option I8)) {t : SqlType}
    (hs : ∀ {ts rest}, PrecisionAndScale ts ps rest → Scalar b k ts t rest) :
    TextReads b (w ++ optScale ps) t := by
  rcases ps with _ | ⟨p, _ | s⟩
  · rw [optScale, String.append_empty]
    exact textReads_keyword hw fun _ hf => hs (.absent (hf.heads rfl))
  · exact textReads_parens hw (isPlainWord_toString_u8 p) fun _ => hs (.precision (u8FromStr_toString p))
  · exact textReads_parens2 hw p s fun _ => hs (.scale (u8FromStr_toString p) (i8FromStr_toString s))


/-! ## The arms of the renderer for types with no other type in them -/

/-- The arms of `SqlType::write` for a time: `TIME`, its precision but on
BigQuery, and its time-zone spec, which all but the generic and Databricks arms
leave out when it is `WITHOUT TIME ZONE`. -/
theorem text_writeIn_time (b : Backend) (p : Option UInt8) (tz : TimeZoneSpec) :
    (SqlType.writeIn b b.dialect (.time p tz)).text =
      "TIME" ++ optParens (if b.dialect = .bigQuery then none else p) ++
        leadingText (if tz = .without ∧ b.dialect ≠ .databricks ∧ b.dialect ≠ .generic then .unspecified else tz) := by
  cases b <;> cases tz <;> cases p <;> rfl

theorem textReads_time (b : Backend) (p : Option UInt8) (tz : TimeZoneSpec) :
    TextReads b (SqlType.writeIn b b.dialect (.time p tz)).text ((SqlType.time p tz).canonLeaf b.dialect) := by
  rw [text_writeIn_time]
  exact (textReads_zoned (w := "TIME") (by decide) _ _ Scalar.time).cast (by cases b <;> cases tz <;> rfl)

/-- The arms of `SqlType::write` for a timestamp, with the messages of their
`debug_assert!`s left out. -/
theorem text_writeIn_timestamp (b : Backend) (p : Option UInt8) (tz : TimeZoneSpec) :
    (SqlType.writeIn b b.dialect (.timestamp p tz)).text =
      match b.dialect, p with
      | .bigQuery, _ => "TIMESTAMP" ++ optParens none ++ leadingText (if tz = .without then .unspecified else tz)
      | .snowflake, _ =>
        (match tz with
          | .«local» => "TIMESTAMP_LTZ" | .«with» => "TIMESTAMP_TZ" | .without => "TIMESTAMP_NTZ"
          | .unspecified => "TIMESTAMP") ++ optParens p
      | .postgres, some p =>
        "TIMESTAMP" ++ optParens (some p) ++ leadingText (if tz = .without then .unspecified else tz)
      | .postgres, none => if tz = .«local» ∨ tz = .«with» then "TIMESTAMPTZ" else "TIMESTAMP" ++ optParens none
      | .databricks, _ => (if tz = .without then "TIMESTAMP_NTZ" else "TIMESTAMP") ++ optParens none
      | .generic, _ => "TIMESTAMP" ++ optParens p ++ leadingText tz := by
  cases b <;> cases tz <;> cases p <;> rfl

theorem textReads_timestamp (b : Backend) (p : Option UInt8) (tz : TimeZoneSpec)
    (h : (SqlType.timestamp p tz).Nested b) :
    TextReads b (SqlType.writeIn b b.dialect (.timestamp p tz)).text
      ((SqlType.timestamp p tz).canonLeaf b.dialect) := by
  have zoned := fun p tz =>
    @textReads_zoned b "TIMESTAMP" .timestamp (by decide) p tz _ Scalar.timestamp
  have plain := fun p => @textReads_prec b "TIMESTAMP" .timestamp (by decide) p _
    fun hf hp => .timestamp hp (.unspecified (hf.heads (by decide)) (hf.heads (by decide)))
  have ntz := fun p =>
    @textReads_prec b "TIMESTAMP_NTZ" .timestampNtz (by decide) p _ fun _ hp => .timestampNtz hp
  have tz' := fun p =>
    @textReads_prec b "TIMESTAMP_TZ" .timestampTz (by decide) p _ fun _ hp => .timestampTz hp
  rw [text_writeIn_timestamp]
  cases hd : b.dialect with
  | bigQuery => exact (zoned none _).cast (by cases tz <;> rfl)
  | snowflake =>
    cases tz with
    | «local» => exact absurd hd h
    | «with» => exact tz' p
    | without => exact ntz p
    | unspecified => exact plain p
  | postgres =>
    cases p with
    | some p => exact zoned (some p) _
    | none =>
      dsimp only
      by_cases htz : tz = .«local» ∨ tz = .«with»
      · rw [if_pos htz]
        refine (textReads_standalone (w := "TIMESTAMPTZ") (k := .timestamptz) (by decide) rfl).cast ?_
        rcases htz with rfl | rfl <;> rfl
      · rw [if_neg htz]
        refine (plain none).cast ?_
        cases tz <;> first | rfl | exact absurd (by simp) htz
  | databricks =>
    dsimp only
    by_cases htz : tz = .without
    · rw [if_pos htz, htz]; exact ntz none
    · rw [if_neg htz]; exact (plain none).cast (by cases tz <;> first | rfl | exact absurd rfl htz)
  | generic => exact zoned p tz

/-- The arms of `SqlType::write` for a decimal: `NUMBER` on Snowflake, `DECIMAL`
on Databricks, `NUMERIC` elsewhere, with the precision and scale. -/
theorem text_writeIn_numeric (b : Backend) (ps : Option (UInt8 × Option I8)) :
    (SqlType.writeIn b b.dialect (.numeric ps)).text =
      (match b.dialect with | .snowflake => "NUMBER" | .databricks => "DECIMAL" | _ => "NUMERIC") ++
        optScale ps := by
  cases b.dialect <;> rcases ps with _ | ⟨p, _ | s⟩ <;> rfl

/-- The arms of `SqlType::write` for a big decimal: as a decimal on Snowflake
and Databricks, `BIGNUMERIC` elsewhere. -/
theorem text_writeIn_bigNumeric (b : Backend) (ps : Option (UInt8 × Option I8)) :
    (SqlType.writeIn b b.dialect (.bigNumeric ps)).text =
      (match b.dialect with | .snowflake => "NUMBER" | .databricks => "DECIMAL" | _ => "BIGNUMERIC") ++
        optScale ps := by
  cases b.dialect <;> rcases ps with _ | ⟨p, _ | s⟩ <;> rfl

theorem DateTimeField.ofWord_name (f : DateTimeField) : DateTimeField.ofWord? f.name = some f := by
  cases f <;> decide

theorem DateTimeField.isPlainWord_name (f : DateTimeField) : IsPlainWord f.name := by
  cases f <;> decide

/-- The tokens `t :: ts` read as the date/time field `f` at the end of an
interval qualifier: as its name, or as `SECOND` and a precision naming `f`. -/
def ReadsAsField (b : Backend) (t : Token) (ts : List Token) (f : DateTimeField) : Prop :=
  field? t = some f ∧ f ≠ .second ∧ ts = [] ∨
    field? t = some .second ∧ ∀ rest, Follows b rest → heads (.word "TO") (ts ++ rest) = false ∧
      ∃ p, Precision u8FromStr (ts ++ rest) p rest ∧ refineSecond p = f

theorem readsAsField_name (b : Backend) {f : DateTimeField} (hf : f ≠ .second) :
    ReadsAsField b (.word f.name) [] f :=
  .inl ⟨f.ofWord_name, hf, rfl⟩

theorem readsAsField_second (b : Backend) : ReadsAsField b (.word "SECOND") [] .second :=
  .inr ⟨rfl, fun _ hf => ⟨hf.heads (by decide), none, .absent (hf.heads (by decide)), rfl⟩⟩

theorem readsAsField_precision (b : Backend) {w : String} {k : UInt8} (hw : u8FromStr w = .ok k)
    {f : DateTimeField} (hk : refineSecond (some k) = f) :
    ReadsAsField b (.word "SECOND") [.lParen, .word w, .rParen] f :=
  .inr ⟨rfl, fun _ _ => ⟨rfl, some k, .present hw, hk⟩⟩

/-- A date/time field's name reads back as the field. -/
theorem reads_fieldName (b : Backend) (f : DateTimeField) : ∃ t ts, Lexes f.name (t :: ts) ∧ ReadsAsField b t ts f := by
  by_cases hf : f = .second
  · subst hf
    exact ⟨_, [], lexes_plainWord (by decide), readsAsField_second b⟩
  · exact ⟨_, [], lexes_plainWord f.isPlainWord_name, readsAsField_name b hf⟩

/-- A date/time field as `DateTimeField::write` writes it reads back as the
field. -/
theorem reads_write (b : Backend) (f : DateTimeField) :
    ∃ t ts, Lexes (f.write b) (t :: ts) ∧ ReadsAsField b t ts f := by
  unfold DateTimeField.write
  cases b.isPostgres
  · exact reads_fieldName b f
  · simp only [if_true]
    cases f
    case millisecond =>
      exact ⟨_, _, (by decide : Lexes "SECOND(3)" [.word "SECOND", .lParen, .word "3", .rParen]),
        readsAsField_precision b (w := "3") (k := 3) rfl (by decide)⟩
    case microsecond =>
      exact ⟨_, _, (by decide : Lexes "SECOND(6)" [.word "SECOND", .lParen, .word "6", .rParen]),
        readsAsField_precision b (w := "6") (k := 6) rfl (by decide)⟩
    case nanosecond =>
      exact ⟨_, _, (by decide : Lexes "SECOND(9)" [.word "SECOND", .lParen, .word "9", .rParen]),
        readsAsField_precision b (w := "9") (k := 9) rfl (by decide)⟩
    case second => exact ⟨_, [], lexes_plainWord (by decide), readsAsField_second b⟩
    all_goals exact ⟨_, [], lexes_plainWord (by decide), readsAsField_name b (by decide)⟩

/-- `INTERVAL` and a field that reads as `f`. -/
theorem textReads_intervalField {b : Backend} {s : String} {f : DateTimeField} {t : Token} {ts : List Token}
    (hl : Lexes s (t :: ts)) (hr : ReadsAsField b t ts f) : TextReads b ("INTERVAL " ++ s) (.interval (some (f, none))) := by
  refine textReads_scalar (Lexes.append_of_start
    (by decide : Lex.run .start "INTERVAL ".data = ([.word "INTERVAL"], .start)) hl) (k := .interval)
    (by decide) fun rest hf => .interval ?_
  rcases hr with ⟨hf', hne, rfl⟩ | ⟨hs, hp⟩
  · exact .field hf' hne (hf.heads (by decide))
  · obtain ⟨hto, p, hprec, rfl⟩ := hp rest hf
    exact .second hs hto hprec

/-- `INTERVAL start TO` and a field that reads as `f`. -/
theorem textReads_intervalRange {b : Backend} (start : DateTimeField) {s : String} {f : DateTimeField} {t : Token}
    {ts : List Token} (hl : Lexes s (t :: ts)) (hr : ReadsAsField b t ts f) :
    TextReads b ("INTERVAL " ++ start.name ++ " TO " ++ s) (.interval (some (start, some f))) := by
  have h₁ := Lexes.append_of_start (by decide : Lex.run .start "INTERVAL ".data = ([.word "INTERVAL"], .start))
    (lexes_plainWord start.isPlainWord_name)
  have h₂ := h₁.run_append (by decide : Lex.run .start " TO ".data = ([.word "TO"], .start)) rfl (by decide)
  refine textReads_scalar (Lexes.append_of_start h₂ hl) (k := .interval) (by decide)
    fun rest hf => .interval ?_
  rcases hr with ⟨hf', hne, rfl⟩ | ⟨hs, hp⟩
  · exact .range start.ofWord_name rfl hf' hne
  · obtain ⟨_, p, hprec, rfl⟩ := hp rest hf
    exact .rangeSecond start.ofWord_name rfl hs hprec

/-- The arms of `SqlType::write` for an interval. -/
theorem text_writeIn_interval (b : Backend) (d : Dialect) (q : Option (DateTimeField × Option DateTimeField)) :
    (SqlType.writeIn b d (.interval q)).text =
      match q with
      | none => "INTERVAL"
      | some (start, none) => "INTERVAL " ++ start.write b
      | some (start, some e) => "INTERVAL " ++ start.name ++ " TO " ++ e.write b := by
  cases d <;> rcases q with _ | ⟨_, _ | _⟩ <;> rfl

theorem textReads_interval (b : Backend) (q : Option (DateTimeField × Option DateTimeField)) :
    TextReads b (SqlType.writeIn b b.dialect (.interval q)).text (.interval q) := by
  rw [text_writeIn_interval]
  rcases q with _ | ⟨start, _ | e⟩
  · exact textReads_keyword (w := "INTERVAL") (k := .interval) (by decide)
      fun _ hf => .interval (.precision hf.field (.absent (hf.heads (by decide))))
  · obtain ⟨t, ts, hl, hr⟩ := reads_write b start
    exact textReads_intervalField hl hr
  · obtain ⟨t, ts, hl, hr⟩ := reads_write b e
    exact textReads_intervalRange start hl hr

/-- Whether a type holds no other type: it is not an array, a struct or a map
of other types. -/
def SqlType.isLeaf : SqlType → Bool
  | .array (some _) | .struct (some _) | .map (some _) => false
  | _ => true

/-- The arms of `SqlType::write` for a type with no other type in it: each
spells a keyword, with the precision, length or time-zone spec its dialect
keeps, and reads back as the type `canonLeaf` says. -/
theorem textReads_leaf (b : Backend) (t : SqlType) (hl : t.isLeaf = true) (h : t.Nested b) :
    TextReads b (SqlType.writeIn b b.dialect t).text (t.canonLeaf b.dialect) := by
  have floatAlone : TextReads b "FLOAT" (.float none) :=
    textReads_keyword (k := .float) (by decide) fun _ hf => .float (.absent (hf.heads (by decide)))
  cases t with
  | boolean => cases b.dialect <;> first
    | exact textReads_standalone (w := "BOOL") (k := .boolean) (by decide) rfl
    | exact textReads_standalone (w := "BOOLEAN") (k := .boolean) (by decide) rfl
  | tinyInt => cases b.dialect <;> first
    | exact textReads_standalone (w := "INT64") (k := .bigInt) (by decide) rfl
    | exact textReads_standalone (w := "SMALLINT") (k := .smallInt) (by decide) rfl
    | exact textReads_standalone (w := "TINYINT") (k := .tinyInt) (by decide) rfl
  | smallInt => cases b.dialect <;> first
    | exact textReads_standalone (w := "INT64") (k := .bigInt) (by decide) rfl
    | exact textReads_standalone (w := "SMALLINT") (k := .smallInt) (by decide) rfl
  | integer => cases b.dialect <;> first
    | exact textReads_standalone (w := "INT64") (k := .bigInt) (by decide) rfl
    | exact textReads_standalone (w := "INT") (k := .integer) (by decide) rfl
  | bigInt => cases b.dialect <;> first
    | exact textReads_standalone (w := "INT64") (k := .bigInt) (by decide) rfl
    | exact textReads_standalone (w := "BIGINT") (k := .bigInt) (by decide) rfl
  | real => cases b.dialect <;> first
    | exact textReads_standalone (w := "FLOAT64") (k := .float8) (by decide) rfl
    | exact floatAlone
    | exact textReads_standalone (w := "REAL") (k := .real) (by decide) rfl
  | float p => rcases p with _ | p <;> cases b.dialect <;> first
    | exact textReads_standalone (w := "FLOAT64") (k := .float8) (by decide) rfl
    | exact floatAlone
    | exact textReads_standalone (w := "REAL") (k := .real) (by decide) rfl
    | exact textReads_parens (w := "FLOAT") (k := .float) (by decide) (isPlainWord_toString_u8 p)
        fun _ => .float (.present (u8FromStr_toString p))
  | double => cases b.dialect <;> first
    | exact textReads_standalone (w := "FLOAT64") (k := .float8) (by decide) rfl
    | exact textReads_keyword (w := "DOUBLE") (k := .double) (by decide)
        fun _ hf => .double (.absent (hf.heads (by decide)))
    | exact textReads_scalar (by decide : Lexes "DOUBLE PRECISION" [.word "DOUBLE", .word "PRECISION"])
        (k := .double) (by decide) fun _ _ => .double (.present rfl)
  | numeric ps =>
    rw [text_writeIn_numeric]
    cases b.dialect <;> exact textReads_scaled (by decide) ps Scalar.decimal
  | bigNumeric ps =>
    rw [text_writeIn_bigNumeric]
    cases b.dialect
    case snowflake | databricks => exact textReads_scaled (by decide) ps Scalar.decimal
    all_goals exact textReads_scaled (by decide) ps Scalar.bigDecimal
  | char len =>
    by_cases hd : b.dialect = .bigQuery
    · rw [hd]
      rcases len with _ | len <;> exact textReads_standalone (w := "STRING") (k := .string) (by decide) rfl
    have hchar : TextReads b "CHAR" (.char none) := textReads_keyword (k := .char) (by decide)
      fun _ hf => Scalar.char_of (hf.heads (by decide)) (hf.heads (by decide)) (.absent (hf.heads (by decide)))
    rcases len with _ | len
    · rw [text_writeIn_char_none b hd]
      exact hchar.cast (by cases hd' : b.dialect <;> first | rfl | exact absurd hd' hd)
    · rw [text_writeIn_char b hd, canonLeaf_char hd]
      split
      · exact textReads_parens (k := .char) (by decide) (isPlainWord_toString_u64 len)
          fun _ => Scalar.char_of rfl rfl (.present (usizeFromStr_toString len))
      · rw [String.append_empty]; exact hchar
  | varchar len =>
    by_cases hd : b.dialect = .bigQuery ∨ b.dialect = .databricks
    · rcases hd with hd | hd <;> rw [hd] <;> rcases len with _ | len <;>
        exact textReads_standalone (w := "STRING") (k := .string) (by decide) rfl
    rw [not_or] at hd
    have hvarchar : TextReads b "VARCHAR" (.varchar none) := textReads_keyword (k := .varchar) (by decide)
      fun _ hf => .varchar (.absent (hf.heads (by decide)))
    rcases len with _ | len
    · rw [text_writeIn_varchar_none b hd]
      exact hvarchar.cast (by cases b.dialect <;> rfl)
    · rw [text_writeIn_varchar b hd, canonLeaf_varchar hd]
      split
      · exact textReads_parens (k := .varchar) (by decide) (isPlainWord_toString_u64 len)
          fun _ => .varchar (.present (usizeFromStr_toString len))
      · rw [String.append_empty]; exact hvarchar
  | text | clob | blob | binary => cases b.dialect <;> first
    | exact textReads_standalone (w := "STRING") (k := .string) (by decide) rfl
    | exact textReads_standalone (w := "TEXT") (k := .text) (by decide) rfl
    | exact textReads_standalone (w := "CLOB") (k := .clob) (by decide) rfl
    | exact textReads_standalone (w := "BYTES") (k := .varbinary) (by decide) rfl
    | exact textReads_standalone (w := "BYTEA") (k := .varbinary) (by decide) rfl
    | exact textReads_standalone (w := "BLOB") (k := .blob) (by decide) rfl
    | exact textReads_keyword (w := "BINARY") (k := .binary) (by decide) fun _ hf => .binary (hf.heads (by decide))
  | date => cases b.dialect <;> exact textReads_standalone (w := "DATE") (k := .date) (by decide) rfl
  | json => cases b.dialect <;> exact textReads_standalone (w := "JSON") (k := .json) (by decide) rfl
  | jsonb => cases b.dialect <;> exact textReads_standalone (w := "JSONB") (k := .jsonb) (by decide) rfl
  | geometry => cases b.dialect <;> exact textReads_standalone (w := "GEOMETRY") (k := .geometry) (by decide) rfl
  | geography => cases b.dialect <;> exact textReads_standalone (w := "GEOGRAPHY") (k := .geography) (by decide) rfl
  | variant => cases b.dialect <;> exact textReads_standalone (w := "VARIANT") (k := .variant) (by decide) rfl
  | void => cases b.dialect <;> exact textReads_standalone (w := "VOID") (k := .void) (by decide) rfl
  | time p tz => exact textReads_time b p tz
  | timestamp p tz => exact textReads_timestamp b p tz h
  | dateTime => cases hd : b.dialect <;> first
    | exact textReads_keyword (w := "DATETIME") (k := .datetime) (by decide)
        fun _ hf => Scalar.datetime_of_ne (by rintro rfl; cases hd) (.absent (hf.heads (by decide)))
    | exact textReads_keyword (w := "TIMESTAMP_NTZ") (k := .timestampNtz) (by decide)
        fun _ hf => .timestampNtz (.absent (hf.heads (by decide)))
    | exact textReads_keyword (w := "TIMESTAMP") (k := .timestamp) (by decide)
        fun _ hf => .timestamp (.absent (hf.heads (by decide)))
          (.unspecified (hf.heads (by decide)) (hf.heads (by decide)))
  | interval q => exact (textReads_interval b q).cast (by cases b.dialect <;> rfl)
  | array a =>
    rcases a with _ | a
    · cases b.dialect <;> exact ⟨_, lexes_plainWord (w := "ARRAY") (by decide),
        ReadsAs.of_inner fun _ hf => .array (by decide) (hf.heads (by decide))⟩
    · cases hl
  | struct fs =>
    rcases fs with _ | fs
    · cases b.dialect <;> exact ⟨_, lexes_plainWord (w := "STRUCT") (by decide),
        ReadsAs.of_inner fun _ hf => .struct (by decide) (hf.heads (by decide))⟩
    · cases hl
  | map kv =>
    rcases kv with _ | kv
    · cases b.dialect <;> exact ⟨_, lexes_plainWord (w := "MAP") (by decide),
        ReadsAs.of_inner fun _ hf => .map (by decide) (hf.heads (by decide))⟩
    · cases hl
  | other s => exact h.elim


/-! ## Arrays, structs and maps -/

theorem isPostgresOrGeneric_of_isPostgres {b : Backend} (h : b.isPostgres = true) :
    b.isPostgresOrGeneric = true := by
  cases b <;> first | rfl | cases h

/-- `ARRAY<..>` around the rendering of the element type, and on the PostgreSQL
family postfix `[]` after it. -/
theorem textReads_array {b : Backend} {s : String} {t : SqlType} (h : TextReads b s t) :
    TextReads b (if b.dialect = .postgres then s ++ "[]" else "ARRAY<" ++ s ++ ">") (.array (some t)) := by
  obtain ⟨ts, hl, hr⟩ := h
  split
  · have hpg := isPostgresOrGeneric_of_isPostgres ((b.dialect_postgres_iff).mp ‹_›)
    refine ⟨ts ++ [.lBracket, .rBracket], hl.append (by decide) rfl, fun hf hs => ?_⟩
    rw [List.append_assoc]
    exact hr (fun _ h => by cases h; exact ⟨by decide, fun _ => hpg⟩) (.array hs)
  · refine ⟨[.word "ARRAY", .lAngle] ++ ts ++ [.rAngle], (Lexes.append_of_start (by decide) hl).append
      (by decide) rfl, ReadsAs.of_inner fun rest _ => ?_⟩
    simp only [List.append_assoc, List.cons_append, List.nil_append, List.singleton_append]
    exact .arrayOf (by decide) (hr.unconstrained (follows_cons _ (by decide) nofun) rfl)

/-- The text `s` tokenizes into tokens that read as the struct fields `fields`,
up to the closer `>` or `)`. -/
def FieldsRead (b : Backend) (s : String) (fields : List (Ident × SqlType × Bool)) : Prop :=
  ∃ ts, Lexes s ts ∧
    ∀ term rest, term = .rAngle ∨ term = .rParen → Fields b term (ts ++ term :: rest) fields rest

/-- `STRUCT<..>` around the rendering of the fields, and on the PostgreSQL
family `(..)`. -/
theorem textReads_struct {b : Backend} {s : String} {fields : List (Ident × SqlType × Bool)}
    (h : FieldsRead b s fields) :
    TextReads b ((if b.isPostgres then "(" else "STRUCT<") ++ s ++ (if b.isPostgres then ")" else ">"))
      (.struct (some fields)) := by
  obtain ⟨ts, hl, hf⟩ := h
  cases hp : b.isPostgres
  · refine ⟨[.word "STRUCT", .lAngle] ++ ts ++ [.rAngle], (Lexes.append_of_start (by decide) hl).append
      (by decide) rfl, ReadsAs.of_inner fun rest _ => ?_⟩
    simp only [List.append_assoc, List.cons_append, List.nil_append, List.singleton_append]
    exact .structOf (by decide) (hf _ rest (.inl rfl))
  · refine ⟨[.lParen] ++ ts ++ [.rParen], (Lexes.append_of_start (by decide) hl).append (by decide) rfl,
      ReadsAs.of_inner fun rest _ => ?_⟩
    simp only [List.append_assoc, List.cons_append, List.nil_append, List.singleton_append]
    exact .paren (isPostgresOrGeneric_of_isPostgres hp) (hf _ rest (.inr rfl))

/-- `MAP<k, v>`. -/
theorem textReads_map {b : Backend} {s s' : String} {k v : SqlType} (hk : TextReads b s k)
    (hv : TextReads b s' v) : TextReads b ("MAP<" ++ s ++ ", " ++ s' ++ ">") (.map (some (k, v))) := by
  obtain ⟨tk, hlk, hrk⟩ := hk
  obtain ⟨tv, hlv, hrv⟩ := hv
  have h₁ := Lexes.append_of_start (by decide : Lex.run .start "MAP<".data = ([.word "MAP", .lAngle], .start)) hlk
  have h₂ := h₁.run_append (by decide : Lex.run .start ", ".data = ([.comma], .start)) rfl (by decide)
  refine ⟨_, (Lexes.append_of_start h₂ hlv).append (by decide : Lexes ">" [.rAngle]) rfl,
    ReadsAs.of_inner fun rest _ => ?_⟩
  simp only [List.append_assoc, List.cons_append, List.nil_append, List.singleton_append]
  exact .mapOf (by decide) (hrk.unconstrained (follows_cons _ (by decide) nofun) rfl)
    (hrv.unconstrained (follows_cons _ (by decide) nofun) rfl)

/-! ## Struct fields -/

/-- The text of a field's type and of its nullability tokenizes into tokens
that read as the type and a nullability of `nullable`, up to the comma or
closer after them. -/
def FieldTypeReads (b : Backend) (s : String) (t : SqlType) (nullable : Bool) : Prop :=
  ∃ ts nl, Lexes (s ++ if nullable then "" else " NOT NULL") ts ∧ nl.getD true = nullable ∧
    ∀ u rest, u = .comma ∨ u = .rAngle ∨ u = .rParen → Constrained b (ts ++ u :: rest) (t, nl) (u :: rest)

theorem fieldTypeReads_of_textReads {b : Backend} {s : String} {t : SqlType} (h : TextReads b s t)
    (nullable : Bool) : FieldTypeReads b s t nullable := by
  obtain ⟨ts, hl, hr⟩ := h
  cases nullable
  · refine ⟨ts ++ [.word "NOT", .word "NULL"], some false, hl.append (by decide) rfl, rfl, fun u rest _ => ?_⟩
    rw [List.append_assoc]
    exact .mk (hr.unconstrained (follows_cons _ (by decide) nofun) rfl) (.notNull rfl rfl)
  · refine ⟨ts, none, by rw [if_pos rfl, String.append_empty]; exact hl, rfl, fun u rest hu => ?_⟩
    rcases hu with rfl | rfl | rfl <;>
      exact .mk (hr.unconstrained (follows_cons _ (by decide) nofun) rfl) (.absent rfl rfl)

/-- An unknown type as a field that is `NOT NULL`: the capture stops at `NOT`. -/
theorem fieldTypeReads_other {b : Backend} {s w : String} {captured : List Token}
    (hl : Lexes s (.word w :: captured)) (ho : OtherText s w captured) : FieldTypeReads b s (.other s) false := by
  refine ⟨.word w :: captured ++ [.word "NOT", .word "NULL"], some false, hl.append (by decide) rfl, rfl,
    fun u rest _ => ?_⟩
  have hi : Inner b (.word w :: (captured ++ .word "NOT" :: .word "NULL" :: u :: rest)) (.other s)
      (.word "NOT" :: .word "NULL" :: u :: rest) := by
    rw [ho.text]
    exact .other ho.word ho.captured fun _ h => by cases h; decide
  simpa only [List.cons_append, List.append_assoc, List.singleton_append] using
    Constrained.mk (Unconstrained.of_inner hi rfl) (.notNull rfl rfl)

/-- A field's name, as `Ident::display` renders it, is one word, and reads back
as the name, in the dialect's quote if it is quoted. -/
theorem reads_name {b : Backend} {name : Ident} (h : name.ReadsBack b) :
    Lexes (name.display b) [.word (name.display b)] ∧ word2ident (name.display b) b = .ok (name.canon b.dialect) := by
  cases name with
  | plain s =>
    refine ⟨lexes_plainWord h, ?_⟩
    obtain ⟨_ | ⟨c, cs⟩⟩ := s
    · cases h.1
    · have hc : isQuote c = false := by simpa using h.1
      simp [word2ident, Ident.display, Ident.canon, Quote.ofChar_eq_none.mpr hc]
  | unquoted q s => exact ⟨lexes_wrap _ s, word2ident_wrap_self h⟩

theorem fieldsRead_last {b : Backend} {name : Ident} (hn : name.ReadsBack b) {s : String} {t : SqlType}
    {nullable : Bool} (ht : FieldTypeReads b s t nullable) :
    FieldsRead b (name.display b ++ " " ++ s ++ (if nullable then "" else " NOT NULL"))
      [(name.canon b.dialect, t, nullable)] := by
  obtain ⟨hln, hid⟩ := reads_name hn
  obtain ⟨ts, nl, hl, rfl, hc⟩ := ht
  have hsp := hln.run_append (by decide : Lex.run .start " ".data = ([], .start)) rfl (by decide)
  refine ⟨_, by rw [String.append_assoc]; exact Lexes.append_of_start hsp hl, fun term rest hterm => ?_⟩
  rcases hterm with rfl | rfl <;> exact .last rfl hid (hc _ rest (by simp)) nofun rfl

theorem fieldsRead_more {b : Backend} {name : Ident} (hn : name.ReadsBack b) {s : String} {t : SqlType}
    {nullable : Bool} (ht : FieldTypeReads b s t nullable) {s' : String}
    {fields : List (Ident × SqlType × Bool)} (hfs : FieldsRead b s' fields) :
    FieldsRead b (name.display b ++ " " ++ s ++ (if nullable then "" else " NOT NULL") ++ (", " ++ s'))
      ((name.canon b.dialect, t, nullable) :: fields) := by
  obtain ⟨hln, hid⟩ := reads_name hn
  obtain ⟨ts, nl, hl, rfl, hc⟩ := ht
  obtain ⟨ts', hl', hf⟩ := hfs
  have hsp := hln.run_append (by decide : Lex.run .start " ".data = ([], .start)) rfl (by decide)
  have hl₁ : Lexes (name.display b ++ " " ++ s ++ (if nl.getD true then "" else " NOT NULL"))
      (.word (name.display b) :: ts) := by
    rw [String.append_assoc]; exact Lexes.append_of_start hsp hl
  refine ⟨_, hl₁.append (Lexes.append_of_start (by decide : Lex.run .start ", ".data = ([.comma], .start)) hl')
    rfl, fun term rest hterm => ?_⟩
  simp only [List.cons_append, List.append_assoc, List.singleton_append]
  exact .more (by rcases hterm with rfl | rfl <;> rfl) hid (hc .comma _ (.inl rfl)) (hf term rest hterm)

theorem text_writeFields_zero (b : Backend) (d : Dialect) (name : Ident) (t : SqlType) (nullable : Bool)
    (fields : List (Ident × SqlType × Bool)) :
    (SqlType.writeFields b d 0 ((name, t, nullable) :: fields)).text =
      name.display b ++ " " ++ (SqlType.writeIn b d t).text ++ (if nullable then "" else " NOT NULL") ++
        (SqlType.writeFields b d (0 + 1) fields).text := by
  rw [text_writeFields_cons, if_neg (show ¬(0 > 0) from Nat.lt_irrefl 0), String.empty_append]

/-- Every field after the first is written the same, whatever its index. -/
theorem text_writeFields_succ_index (b : Backend) (d : Dialect) :
    (fields : List (Ident × SqlType × Bool)) → (i j : Nat) →
      (SqlType.writeFields b d (i + 1) fields).text = (SqlType.writeFields b d (j + 1) fields).text
  | [], _, _ => rfl
  | (_, _, _) :: fields, i, j => by
    rw [text_writeFields_cons, text_writeFields_cons, if_pos (Nat.succ_pos i), if_pos (Nat.succ_pos j),
      text_writeFields_succ_index b d fields (i + 1) (j + 1)]

theorem text_writeFields_succ_cons (b : Backend) (d : Dialect) (i : Nat) (f : Ident × SqlType × Bool)
    (fields : List (Ident × SqlType × Bool)) :
    (SqlType.writeFields b d (i + 1) (f :: fields)).text = ", " ++ (SqlType.writeFields b d 0 (f :: fields)).text := by
  obtain ⟨name, t, nullable⟩ := f
  rw [text_writeFields_cons, text_writeFields_zero, if_pos (Nat.succ_pos i),
    text_writeFields_succ_index b d fields (i + 1) 0]
  simp only [String.append_assoc]

theorem canon_other (d : Dialect) (s : String) : (SqlType.other s).canon d = .other s := by
  cases d <;> rfl

theorem text_writeIn_other (b : Backend) (d : Dialect) (s : String) :
    (SqlType.writeIn b d (.other s)).text = s := by
  cases d <;> rfl

/-! ## Every arm of the renderer -/

mutual

/-- The rendering of a type `Nested` allows tokenizes into tokens that read as
the type `canon` says, whatever the renderer writes after them. -/
theorem textReads_writeIn (b : Backend) :
    (t : SqlType) → t.Nested b → TextReads b (SqlType.writeIn b b.dialect t).text (t.canon b.dialect)
  | .array (some t), h => by
    rw [text_writeIn_array, SqlType.canon_array]
    exact textReads_array (textReads_writeIn b t h)
  | .struct (some fields), h => by
    rw [text_writeIn_struct, SqlType.canon_struct]
    exact textReads_struct (fieldsRead_writeFields b fields h)
  | .map (some (k, v)), h => by
    rw [text_writeIn_map, SqlType.canon_map]
    exact textReads_map (textReads_writeIn b k h.1) (textReads_writeIn b v h.2)
  | .other _, h => h.elim
  | .array none, h | .struct none, h | .map none, h => textReads_leaf b _ rfl h
  | .boolean, h | .tinyInt, h | .smallInt, h | .integer, h | .bigInt, h | .real, h | .float _, h
  | .double, h | .numeric _, h | .bigNumeric _, h | .char _, h | .varchar _, h | .text, h | .clob, h
  | .blob, h | .binary, h | .date, h | .time _ _, h | .timestamp _ _, h | .dateTime, h | .interval _, h
  | .json, h | .jsonb, h | .geometry, h | .geography, h | .variant, h | .void, h => textReads_leaf b _ rfl h

/-- The rendering of the fields of a struct tokenizes into tokens that read as
the fields `canonFields` says, up to the closer. -/
theorem fieldsRead_writeFields (b : Backend) :
    (fields : List (Ident × SqlType × Bool)) → SqlType.FieldsNested b fields →
      FieldsRead b (SqlType.writeFields b b.dialect 0 fields).text (SqlType.canonFields b.dialect fields)
  | [], _ => ⟨[], .of_run rfl, fun _ _ hterm => .close (by rcases hterm with rfl | rfl <;> rfl)⟩
  | [(name, t, nullable)], ⟨hn, ht, _⟩ => by
    have hty : FieldTypeReads b (SqlType.writeIn b b.dialect t).text (t.canon b.dialect) nullable := by
      rcases ht with ht | ⟨rfl, s, w, cs, rfl, hl, ho⟩
      · exact fieldTypeReads_of_textReads (textReads_writeIn b t ht) nullable
      · rw [text_writeIn_other, canon_other]; exact fieldTypeReads_other hl ho
    rw [text_writeFields_zero, show (SqlType.writeFields b b.dialect (0 + 1) []).text = "" from rfl,
      String.append_empty]
    exact fieldsRead_last hn hty
  | (name, t, nullable) :: f :: fields, ⟨hn, ht, hfs⟩ => by
    have hty : FieldTypeReads b (SqlType.writeIn b b.dialect t).text (t.canon b.dialect) nullable := by
      rcases ht with ht | ⟨rfl, s, w, cs, rfl, hl, ho⟩
      · exact fieldTypeReads_of_textReads (textReads_writeIn b t ht) nullable
      · rw [text_writeIn_other, canon_other]; exact fieldTypeReads_other hl ho
    rw [text_writeFields_zero, text_writeFields_succ_cons]
    exact fieldsRead_more hn hty (fieldsRead_writeFields b (f :: fields) hfs)

end

/-! ## Reading a rendering back -/

/-- A text that reads as `t` parses as `t`, nullable. -/
theorem TextReads.parse {b : Backend} {s : String} {t : SqlType} (h : TextReads b s t) :
    SqlType.parse b s = .ok (t, true) := by
  obtain ⟨ts, hl, hr⟩ := h
  have hu := hr.unconstrained (follows_nil b) rfl
  rw [List.append_nil] at hu
  rw [parse_eq_ok_iff_run, run_parse_fuelFor_iff, hl.tokenize_eq]
  exact ⟨none, [], .mk hu (.absent rfl rfl), rfl⟩

/-- The rendering of a renderable type reads back, nullable, as the type
`canon` says. -/
theorem parse_toString (b : Backend) (t : SqlType) (h : t.Renderable b) :
    SqlType.parse b (t.toString b) = .ok (t.canon b.dialect, true) := by
  rcases h with h | ⟨s, w, cs, rfl, hs, ho⟩
  · exact (textReads_writeIn b t h).parse
  · have hi : Inner b (.word w :: (cs ++ [])) (.other s) [] := by
      rw [ho.text]; exact .other ho.word ho.captured fun _ h => nomatch h
    rw [List.append_nil] at hi
    rw [parse_eq_ok_iff_run, run_parse_fuelFor_iff, SqlType.toString, SqlType.write, text_writeIn_other, hs,
      canon_other]
    exact ⟨none, [], .mk (Unconstrained.of_inner hi rfl) (.absent rfl rfl), rfl⟩

/-- The type a renderable type's rendering reads back as renders as that
rendering. -/
theorem toString_canon (b : Backend) (t : SqlType) (h : t.Renderable b) :
    (t.canon b.dialect).toString b = t.toString b := by
  rcases h with h | ⟨s, _, _, rfl, _⟩
  · exact text_writeIn_canon b t h
  · rw [canon_other]

example : (SqlType.array (some (.struct (some
    [(.plain "id", .integer, false), (.unquoted .double "my col", .text, true)])))).toString .bigQuery =
      "ARRAY<STRUCT<id INT64 NOT NULL, `my col` STRING>>" := by
  decide

end DbtXdbc
