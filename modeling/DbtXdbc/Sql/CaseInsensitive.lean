import DbtXdbc.Sql.CaseFold
import DbtXdbc.Sql.Accepts

/-!
# Parsing does not see the case of keywords

Spec §8 asks that every keyword be matched ignoring ASCII case. The parser tests
a word in four ways: against a keyword (`Token.beq`, `Keyword.ofWord?`,
`DateTimeField.ofWord?`), as an integer, as the name of a field, and as the
text of an unknown type. The first two do not see the case of a word, and the
last two keep it, so that a type read from an input differs from the type read
from the same input in another case only in the text of its `Other`s and of its
plain field names.

* `sameCase_grammar`: a sentence of the grammar of `Sql/Grammar.lean` stays one
  when the case of its unquoted words changes, and reads as the same type up to
  `SqlType.foldCase`; one case per rule, over the whole derivation;
* `parse_case_insensitive`: two inputs that differ only in the case of letters
  outside quoted words are both accepted or both rejected, with the same
  nullability and types equal up to `SqlType.foldCase`.
-/

namespace DbtXdbc

namespace Grammar

/-- Two token lists that are the same up to the case of their unquoted words. -/
def SameCase (ts ts' : List Token) : Prop := List.Forall₂ (fun t t' => t.foldCase = t'.foldCase) ts ts'

theorem Token.eq_of_foldCase_punct {p t : Token} (hp : ∀ w, p ≠ .word w) (h : p.foldCase = t.foldCase) :
    t = p := by
  have hp' : p.foldCase = p := by cases p <;> first | rfl | exact absurd rfl (hp _)
  rw [hp'] at h
  cases t with
  | word w => exact absurd h (hp _)
  | _ => exact h.symm

theorem beq_of_foldCase {t t' pat : Token} {x : Bool} (h : t.foldCase = t'.foldCase) (hb : t.beq pat = x) :
    t'.beq pat = x := by
  rwa [← Token.beq_congr h]

theorem field_of_foldCase {t t' : Token} {x : Option DateTimeField} (h : t.foldCase = t'.foldCase)
    (hf : field? t = x) : field? t' = x := by
  rwa [← field?_foldCase, ← h, field?_foldCase]

theorem word2ident_congr {w w' : String} {b : Backend} {name : Ident} (h : foldWord w = foldWord w')
    (hn : word2ident w b = .ok name) : ∃ name', word2ident w' b = .ok name' ∧ name.foldCase = name'.foldCase := by
  have e := word2ident_foldWord w b
  rw [h, word2ident_foldWord, hn] at e
  cases hn' : word2ident w' b with
  | ok name' => rw [hn'] at e; exact ⟨name', rfl, (Except.ok.inj e).symm⟩
  | error _ => rw [hn'] at e; cases e

theorem foldWord_congr {β : Type} {f : String → β} (hf : ∀ w, f (foldWord w) = f w) {w w' : String}
    (h : foldWord w = foldWord w') : f w' = f w := by
  rw [← hf w, h, hf]

namespace SameCase

theorem of_map_eq {ts ts' : List Token} (h : ts.map Token.foldCase = ts'.map Token.foldCase) :
    SameCase ts ts' := by
  induction ts generalizing ts' with
  | nil => rw [List.map_nil, eq_comm, List.map_eq_nil_iff] at h; rw [h]; exact .nil
  | cons t ts ih =>
    obtain ⟨t', ts'', rfl, ht, h⟩ := List.map_eq_cons_iff.mp h.symm
    exact .cons ht.symm (ih h.symm)

theorem heads {ts ts' : List Token} (h : SameCase ts ts') {pat : Token} {x : Bool}
    (hh : Grammar.heads pat ts = x) : Grammar.heads pat ts' = x := by
  cases h with
  | nil => exact hh
  | cons ht _ => rwa [Grammar.heads_cons, ← Token.beq_congr ht]

theorem head_field {ts ts' : List Token} (h : SameCase ts ts') {x : Option DateTimeField}
    (hh : ts.head?.bind field? = x) : ts'.head?.bind field? = x := by
  cases h with
  | nil => exact hh
  | cons ht _ => rwa [List.head?_cons, Option.some_bind, ← field?_foldCase, ← ht, field?_foldCase]

theorem cons {t : Token} {ts ts' : List Token} (h : SameCase (t :: ts) ts') :
    ∃ t' ts'', ts' = t' :: ts'' ∧ t.foldCase = t'.foldCase ∧ SameCase ts ts'' := by
  obtain _ | ⟨ht, h⟩ := h
  exact ⟨_, _, rfl, ht, h⟩

theorem cons_punct {p : Token} {ts ts' : List Token} (h : SameCase (p :: ts) ts') (hp : ∀ w, p ≠ .word w) :
    ∃ ts'', ts' = p :: ts'' ∧ SameCase ts ts'' := by
  obtain ⟨t', ts'', rfl, ht, hs⟩ := h.cons
  exact ⟨ts'', by rw [Token.eq_of_foldCase_punct hp ht], hs⟩

theorem cons_word {w : String} {ts ts' : List Token} (h : SameCase (.word w :: ts) ts') :
    ∃ w' ts'', ts' = .word w' :: ts'' ∧ foldWord w = foldWord w' ∧ SameCase ts ts'' := by
  obtain ⟨t', ts'', rfl, ht, hs⟩ := h.cons
  cases t' with
  | word w' => exact ⟨w', ts'', rfl, Token.word.inj ht, hs⟩
  | _ => cases ht

theorem forall_endsOther {l l' : List Token} (h : SameCase l l') {x : Bool}
    (hl : ∀ t ∈ l, endsOther t = x) : ∀ t ∈ l', endsOther t = x := by
  induction h with
  | nil => exact hl
  | cons ht _ ih =>
    simp only [List.mem_cons, forall_eq_or_imp] at hl ⊢
    exact ⟨by rw [← endsOther_foldCase, ← ht, endsOther_foldCase, hl.1], ih hl.2⟩

theorem head_endsOther {l l' : List Token} (h : SameCase l l') {x : Bool}
    (hl : ∀ t ∈ l.head?, endsOther t = x) : ∀ t ∈ l'.head?, endsOther t = x := by
  cases h with
  | nil => exact hl
  | cons ht _ =>
    simp only [List.head?_cons, Option.mem_def, Option.some.injEq, forall_eq'] at hl ⊢
    rw [← endsOther_foldCase, ← ht, endsOther_foldCase, hl]

/-- The text of an unknown type is the same up to case. -/
theorem asciiUpper_otherText {c c' : List Token} (h : SameCase c c') {w w' : String}
    (hw : asciiUpper w = asciiUpper w') : asciiUpper (otherText w c) = asciiUpper (otherText w' c') := by
  induction h generalizing w w' with
  | nil => exact hw
  | cons ht _ ih =>
    apply ih
    rw [asciiUpper_append, asciiUpper_append, asciiUpper_append, asciiUpper_append, hw,
      ← asciiUpper_display_foldCase, ht, asciiUpper_display_foldCase]

theorem append {l₁ l₂ ts' : List Token} (h : SameCase (l₁ ++ l₂) ts') :
    ∃ l₁' l₂', ts' = l₁' ++ l₂' ∧ SameCase l₁ l₁' ∧ SameCase l₂ l₂' := by
  induction l₁ generalizing ts' with
  | nil => exact ⟨[], ts', rfl, .nil, h⟩
  | cons t l₁ ih =>
    obtain ⟨t', ts'', rfl, ht, hs⟩ := cons h
    obtain ⟨l₁', l₂', rfl, h₁, h₂⟩ := ih hs
    exact ⟨t' :: l₁', l₂', rfl, List.Forall₂.cons ht h₁, h₂⟩

end SameCase

/-! ## The parts that follow a keyword

Each keeps its value, and what it leaves unread is the same up to case. -/

section Leaves

variable {ts ts' rest : List Token}

theorem Precision.sameCase {α : Type} {fromStr : String → Except IntErrorKind α}
    (hfs : ∀ w, fromStr (foldWord w) = fromStr w) {v : Option α} (h : Precision fromStr ts v rest)
    (hs : SameCase ts ts') : ∃ rest', Precision fromStr ts' v rest' ∧ SameCase rest rest' := by
  cases h with
  | absent hl => exact ⟨ts', .absent (hs.heads hl), hs⟩
  | present hw =>
    obtain ⟨_, rfl, hs₁⟩ := hs.cons_punct fun _ => nofun
    obtain ⟨w', _, rfl, hw', hs₂⟩ := hs₁.cons_word
    obtain ⟨_, rfl, hs₃⟩ := hs₂.cons_punct fun _ => nofun
    exact ⟨_, .present ((foldWord_congr hfs hw').trans hw), hs₃⟩

theorem PrecisionAndScale.sameCase {v : Option (UInt8 × Option I8)} (h : PrecisionAndScale ts v rest)
    (hs : SameCase ts ts') : ∃ rest', PrecisionAndScale ts' v rest' ∧ SameCase rest rest' := by
  cases h with
  | absent hl => exact ⟨ts', .absent (hs.heads hl), hs⟩
  | precision hw =>
    obtain ⟨_, rfl, hs₁⟩ := hs.cons_punct fun _ => nofun
    obtain ⟨w', _, rfl, hw', hs₂⟩ := hs₁.cons_word
    obtain ⟨_, rfl, hs₃⟩ := hs₂.cons_punct fun _ => nofun
    exact ⟨_, .precision ((foldWord_congr u8FromStr_foldWord hw').trans hw), hs₃⟩
  | scale hw hw₂ =>
    obtain ⟨_, rfl, hs₁⟩ := hs.cons_punct fun _ => nofun
    obtain ⟨w', _, rfl, hw', hs₂⟩ := hs₁.cons_word
    obtain ⟨_, rfl, hs₃⟩ := hs₂.cons_punct fun _ => nofun
    obtain ⟨w₂', _, rfl, hw₂', hs₄⟩ := hs₃.cons_word
    obtain ⟨_, rfl, hs₅⟩ := hs₄.cons_punct fun _ => nofun
    exact ⟨_, .scale ((foldWord_congr u8FromStr_foldWord hw').trans hw)
      ((foldWord_congr i8FromStr_foldWord hw₂').trans hw₂), hs₅⟩

theorem OptWord.sameCase {w : String} {v : Bool} (h : OptWord w ts v rest) (hs : SameCase ts ts') :
    ∃ rest', OptWord w ts' v rest' ∧ SameCase rest rest' := by
  cases h with
  | absent hl => exact ⟨ts', .absent (hs.heads hl), hs⟩
  | present ht =>
    obtain ⟨t', _, rfl, ht', hs₁⟩ := hs.cons
    exact ⟨_, .present (beq_of_foldCase ht' ht), hs₁⟩

theorem TimeZone.sameCase {tz : TimeZoneSpec} (h : TimeZone ts tz rest) (hs : SameCase ts ts') :
    ∃ rest', TimeZone ts' tz rest' ∧ SameCase rest rest' := by
  cases h with
  | «with» ht hl h₁ h₂ =>
    obtain ⟨t', _, rfl, ht', hs₁⟩ := hs.cons
    obtain ⟨_, hl', hs₂⟩ := hl.sameCase hs₁
    obtain ⟨t₁', _, rfl, ht₁, hs₃⟩ := hs₂.cons
    obtain ⟨t₂', _, rfl, ht₂, hs₄⟩ := hs₃.cons
    exact ⟨_, .with (beq_of_foldCase ht' ht) hl' (beq_of_foldCase ht₁ h₁) (beq_of_foldCase ht₂ h₂), hs₄⟩
  | without ht h₁ h₂ =>
    obtain ⟨t', _, rfl, ht', hs₁⟩ := hs.cons
    obtain ⟨t₁', _, rfl, ht₁, hs₂⟩ := hs₁.cons
    obtain ⟨t₂', _, rfl, ht₂, hs₃⟩ := hs₂.cons
    exact ⟨_, .without (beq_of_foldCase ht' ht) (beq_of_foldCase ht₁ h₁) (beq_of_foldCase ht₂ h₂), hs₃⟩
  | unspecified h₁ h₂ => exact ⟨ts', .unspecified (hs.heads h₁) (hs.heads h₂), hs⟩

theorem Qualifier.sameCase {q : Option (DateTimeField × Option DateTimeField)} (h : Qualifier ts q rest)
    (hs : SameCase ts ts') : ∃ rest', Qualifier ts' q rest' ∧ SameCase rest rest' := by
  cases h with
  | field hf hne hto =>
    obtain ⟨t', _, rfl, ht, hs₁⟩ := hs.cons
    exact ⟨_, .field (field_of_foldCase ht hf) hne (hs₁.heads hto), hs₁⟩
  | second hf hto hp =>
    obtain ⟨t', _, rfl, ht, hs₁⟩ := hs.cons
    obtain ⟨_, hp', hs₂⟩ := hp.sameCase u8FromStr_foldWord hs₁
    exact ⟨_, .second (field_of_foldCase ht hf) (hs₁.heads hto) hp', hs₂⟩
  | range hf hto he hne =>
    obtain ⟨t', _, rfl, ht, hs₁⟩ := hs.cons
    obtain ⟨u', _, rfl, hu, hs₂⟩ := hs₁.cons
    obtain ⟨t₂', _, rfl, ht₂, hs₃⟩ := hs₂.cons
    exact ⟨_, .range (field_of_foldCase ht hf) (beq_of_foldCase hu hto) (field_of_foldCase ht₂ he) hne, hs₃⟩
  | rangeSecond hf hto he hp =>
    obtain ⟨t', _, rfl, ht, hs₁⟩ := hs.cons
    obtain ⟨u', _, rfl, hu, hs₂⟩ := hs₁.cons
    obtain ⟨t₂', _, rfl, ht₂, hs₃⟩ := hs₂.cons
    obtain ⟨_, hp', hs₄⟩ := hp.sameCase u8FromStr_foldWord hs₃
    exact ⟨_, .rangeSecond (field_of_foldCase ht hf) (beq_of_foldCase hu hto) (field_of_foldCase ht₂ he) hp',
      hs₄⟩
  | precision hf hp =>
    obtain ⟨_, hp', hs₁⟩ := hp.sameCase u8FromStr_foldWord hs
    exact ⟨_, .precision (hs.head_field hf) hp', hs₁⟩

theorem Nullable.sameCase {nl : Option Bool} (h : Nullable ts nl rest) (hs : SameCase ts ts') :
    ∃ rest', Nullable ts' nl rest' ∧ SameCase rest rest' := by
  cases h with
  | notNull ht hu =>
    obtain ⟨t', _, rfl, ht', hs₁⟩ := hs.cons
    obtain ⟨u', _, rfl, hu', hs₂⟩ := hs₁.cons
    exact ⟨_, .notNull (beq_of_foldCase ht' ht) (beq_of_foldCase hu' hu), hs₂⟩
  | nullable ht =>
    obtain ⟨t', _, rfl, ht', hs₁⟩ := hs.cons
    exact ⟨_, .nullable (beq_of_foldCase ht' ht), hs₁⟩
  | absent h₁ h₂ => exact ⟨ts', .absent (hs.heads h₁) (hs.heads h₂), hs⟩

theorem ArraySuffix.sameCase {t t' : SqlType} (h : ArraySuffix t ts t' rest) :
    ∀ {t₀ : SqlType} {ts' : List Token}, t.foldCase = t₀.foldCase → SameCase ts ts' →
      ∃ t₀' rest', ArraySuffix t₀ ts' t₀' rest' ∧ t'.foldCase = t₀'.foldCase ∧ SameCase rest rest' := by
  induction h with
  | done hl => exact fun ht hs => ⟨_, _, .done (hs.heads hl), ht, hs⟩
  | array _ ih =>
    intro t₀ ts' ht hs
    obtain ⟨_, rfl, hs₁⟩ := hs.cons_punct fun _ => nofun
    obtain ⟨_, rfl, hs₂⟩ := hs₁.cons_punct fun _ => nofun
    obtain ⟨t₀', rest', h', ht', hs₃⟩ := @ih (.array (some t₀)) _ (by simp only [SqlType.foldCase, ht]) hs₂
    exact ⟨t₀', rest', .array h', ht', hs₃⟩

end Leaves

/-! ## Types -/

/-- Scalar types hold no text: each reads as the same type. -/
theorem Scalar.sameCase {b : Backend} {k : Keyword} {t : SqlType} {ts ts' rest : List Token}
    (h : Scalar b k ts t rest) (hs : SameCase ts ts') : ∃ rest', Scalar b k ts' t rest' ∧ SameCase rest rest' := by
  cases h with
  | standalone hk => exact ⟨ts', .standalone hk, hs⟩
  | float hp => exact (hp.sameCase u8FromStr_foldWord hs).imp fun _ => And.imp_left .float
  | double ho => exact (ho.sameCase hs).imp fun _ => And.imp_left .double
  | decimal hp => exact (hp.sameCase hs).imp fun _ => And.imp_left .decimal
  | bigDecimal hp => exact (hp.sameCase hs).imp fun _ => And.imp_left .bigDecimal
  | charLargeObject ht hu =>
    obtain ⟨t', _, rfl, ht', hs₁⟩ := hs.cons
    obtain ⟨u', _, rfl, hu', hs₂⟩ := hs₁.cons
    exact ⟨_, .charLargeObject (beq_of_foldCase ht' ht) (beq_of_foldCase hu' hu), hs₂⟩
  | char hl ho hp =>
    obtain ⟨_, ho', hs₁⟩ := ho.sameCase hs
    obtain ⟨_, hp', hs₂⟩ := hp.sameCase usizeFromStr_foldWord hs₁
    exact ⟨_, .char (hs.heads hl) ho' hp', hs₂⟩
  | varchar hp => exact (hp.sameCase usizeFromStr_foldWord hs).imp fun _ => And.imp_left .varchar
  | national ht ho hp =>
    obtain ⟨t', _, rfl, ht', hs₁⟩ := hs.cons
    obtain ⟨_, ho', hs₂⟩ := ho.sameCase hs₁
    obtain ⟨_, hp', hs₃⟩ := hp.sameCase usizeFromStr_foldWord hs₂
    exact ⟨_, .national (beq_of_foldCase ht' ht) ho' hp', hs₃⟩
  | binaryLargeObject ht hu =>
    obtain ⟨t', _, rfl, ht', hs₁⟩ := hs.cons
    obtain ⟨u', _, rfl, hu', hs₂⟩ := hs₁.cons
    exact ⟨_, .binaryLargeObject (beq_of_foldCase ht' ht) (beq_of_foldCase hu' hu), hs₂⟩
  | binary hl => exact ⟨ts', .binary (hs.heads hl), hs⟩
  | time hp htz =>
    obtain ⟨_, hp', hs₁⟩ := hp.sameCase u8FromStr_foldWord hs
    obtain ⟨_, htz', hs₂⟩ := htz.sameCase hs₁
    exact ⟨_, .time hp' htz', hs₂⟩
  | timestamp hp htz =>
    obtain ⟨_, hp', hs₁⟩ := hp.sameCase u8FromStr_foldWord hs
    obtain ⟨_, htz', hs₂⟩ := htz.sameCase hs₁
    exact ⟨_, .timestamp hp' htz', hs₂⟩
  | timestampNtz hp => exact (hp.sameCase u8FromStr_foldWord hs).imp fun _ => And.imp_left .timestampNtz
  | datetime hp => exact (hp.sameCase u8FromStr_foldWord hs).imp fun _ => And.imp_left .datetime
  | timestampTz hp => exact (hp.sameCase u8FromStr_foldWord hs).imp fun _ => And.imp_left .timestampTz
  | interval hq => exact (hq.sameCase hs).imp fun _ => And.imp_left .interval

/-- A sentence of the grammar stays one when the case of its unquoted words
changes, reads as the same type up to `SqlType.foldCase`, and leaves the same
tokens unread up to case: one case per rule of the four productions. -/
theorem sameCase_grammar (b : Backend) :
    (∀ {ts t rest}, Inner b ts t rest → ∀ {ts'}, SameCase ts ts' →
      ∃ t' rest', Inner b ts' t' rest' ∧ t.foldCase = t'.foldCase ∧ SameCase rest rest') ∧
    (∀ {ts t rest}, Unconstrained b ts t rest → ∀ {ts'}, SameCase ts ts' →
      ∃ t' rest', Unconstrained b ts' t' rest' ∧ t.foldCase = t'.foldCase ∧ SameCase rest rest') ∧
    (∀ {ts r rest}, Constrained b ts r rest → ∀ {ts'}, SameCase ts ts' →
      ∃ t' rest', Constrained b ts' (t', r.2) rest' ∧ r.1.foldCase = t'.foldCase ∧ SameCase rest rest') ∧
    (∀ {term ts fs rest}, Fields b term ts fs rest → ∀ {ts'}, SameCase ts ts' →
      ∃ fs' rest', Fields b term ts' fs' rest' ∧ SqlType.foldFields fs = SqlType.foldFields fs' ∧
        SameCase rest rest') := by
  let MI := fun ts t rest (_ : Inner b ts t rest) => ∀ {ts'}, SameCase ts ts' →
    ∃ t' rest', Inner b ts' t' rest' ∧ t.foldCase = t'.foldCase ∧ SameCase rest rest'
  let MU := fun ts t rest (_ : Unconstrained b ts t rest) => ∀ {ts'}, SameCase ts ts' →
    ∃ t' rest', Unconstrained b ts' t' rest' ∧ t.foldCase = t'.foldCase ∧ SameCase rest rest'
  let MC := fun ts (r : SqlType × Option Bool) rest (_ : Constrained b ts r rest) => ∀ {ts'}, SameCase ts ts' →
    ∃ t' rest', Constrained b ts' (t', r.2) rest' ∧ r.1.foldCase = t'.foldCase ∧ SameCase rest rest'
  let MF := fun term ts fs rest (_ : Fields b term ts fs rest) => ∀ {ts'}, SameCase ts ts' →
    ∃ fs' rest', Fields b term ts' fs' rest' ∧ SqlType.foldFields fs = SqlType.foldFields fs' ∧
      SameCase rest rest'
  have kw : ∀ {w w' k}, foldWord w = foldWord w' → Keyword.ofWord? w = k → Keyword.ofWord? w' = k :=
    fun hw hk => (foldWord_congr Keyword.ofWord?_foldWord hw).trans hk
  refine (fun paren scalar arrayOf array structOf struct mapOf map other arrays inner mk close last more =>
    ⟨fun h => @Grammar.Inner.rec b MI MU MC MF paren scalar arrayOf array structOf struct mapOf map other
        arrays inner mk close last more _ _ _ h,
      fun h => @Grammar.Unconstrained.rec b MI MU MC MF paren scalar arrayOf array structOf struct mapOf map
        other arrays inner mk close last more _ _ _ h,
      fun h => @Grammar.Constrained.rec b MI MU MC MF paren scalar arrayOf array structOf struct mapOf map
        other arrays inner mk close last more _ _ _ h,
      fun h => @Grammar.Fields.rec b MI MU MC MF paren scalar arrayOf array structOf struct mapOf map other
        arrays inner mk close last more _ _ _ _ h⟩)
    ?paren ?scalar ?arrayOf ?array ?structOf ?struct ?mapOf ?map ?other ?arrays ?inner ?mk ?close ?last ?more
  case paren =>
    intro ts rest fs hb _ ih ts' hs
    obtain ⟨_, rfl, hs₁⟩ := hs.cons_punct fun _ => nofun
    obtain ⟨fs', rest', h', hfs, hs₂⟩ := ih hs₁
    exact ⟨_, rest', .paren hb h', by simp only [SqlType.foldCase, hfs], hs₂⟩
  case scalar =>
    intro w k ts rest t hk hsc ts' hs
    obtain ⟨w', _, rfl, hw, hs₁⟩ := hs.cons_word
    obtain ⟨rest', hsc', hs₂⟩ := hsc.sameCase hs₁
    exact ⟨t, rest', .scalar (kw hw hk) hsc', rfl, hs₂⟩
  case arrayOf =>
    intro w ts rest t hk _ ih ts' hs
    obtain ⟨w', _, rfl, hw, hs₁⟩ := hs.cons_word
    obtain ⟨_, rfl, hs₂⟩ := hs₁.cons_punct fun _ => nofun
    obtain ⟨t', _, h', ht, hs₃⟩ := ih hs₂
    obtain ⟨rest', rfl, hs₄⟩ := hs₃.cons_punct fun _ => nofun
    exact ⟨_, rest', .arrayOf (kw hw hk) h', by simp only [SqlType.foldCase, ht], hs₄⟩
  case array =>
    intro w ts hk hh ts' hs
    obtain ⟨w', _, rfl, hw, hs₁⟩ := hs.cons_word
    exact ⟨_, _, .array (kw hw hk) (hs₁.heads hh), rfl, hs₁⟩
  case structOf =>
    intro w ts rest fs hk _ ih ts' hs
    obtain ⟨w', _, rfl, hw, hs₁⟩ := hs.cons_word
    obtain ⟨_, rfl, hs₂⟩ := hs₁.cons_punct fun _ => nofun
    obtain ⟨fs', rest', h', hfs, hs₃⟩ := ih hs₂
    exact ⟨_, rest', .structOf (kw hw hk) h', by simp only [SqlType.foldCase, hfs], hs₃⟩
  case struct =>
    intro w ts hk hh ts' hs
    obtain ⟨w', _, rfl, hw, hs₁⟩ := hs.cons_word
    exact ⟨_, _, .struct (kw hw hk) (hs₁.heads hh), rfl, hs₁⟩
  case mapOf =>
    intro w ts ts₁ rest k v hk _ _ ihk ihv ts' hs
    obtain ⟨w', _, rfl, hw, hs₁⟩ := hs.cons_word
    obtain ⟨_, rfl, hs₂⟩ := hs₁.cons_punct fun _ => nofun
    obtain ⟨k', _, hk', hkf, hs₃⟩ := ihk hs₂
    obtain ⟨ts₁', rfl, hs₄⟩ := hs₃.cons_punct fun _ => nofun
    obtain ⟨v', _, hv', hvf, hs₅⟩ := ihv hs₄
    obtain ⟨rest', rfl, hs₆⟩ := hs₅.cons_punct fun _ => nofun
    exact ⟨_, rest', .mapOf (kw hw hk) hk' hv', by simp only [SqlType.foldCase, hkf, hvf], hs₆⟩
  case map =>
    intro w ts hk hh ts' hs
    obtain ⟨w', _, rfl, hw, hs₁⟩ := hs.cons_word
    exact ⟨_, _, .map (kw hw hk) (hs₁.heads hh), rfl, hs₁⟩
  case other =>
    intro w captured rest hk hc hr ts' hs
    obtain ⟨w', _, rfl, hw, hs₁⟩ := hs.cons_word
    obtain ⟨captured', rest', rfl, hsc, hsr⟩ := hs₁.append
    refine ⟨_, rest', .other (kw hw hk) (hsc.forall_endsOther hc) (hsr.head_endsOther hr), ?_, hsr⟩
    exact congrArg SqlType.other
      (hsc.asciiUpper_otherText (by rw [← asciiUpper_foldWord, hw, asciiUpper_foldWord]))
  case arrays =>
    intro ts ts₁ rest t t' hb _ hsuf ih ts' hs
    obtain ⟨t₀, ts₁', h', ht, hs₁⟩ := ih hs
    obtain ⟨t₀', rest', hsuf', ht', hs₂⟩ := hsuf.sameCase ht hs₁
    exact ⟨_, _, .arrays hb h' hsuf', ht', hs₂⟩
  case inner =>
    intro ts rest t hb _ ih ts' hs
    obtain ⟨t', rest', h', ht, hs₁⟩ := ih hs
    exact ⟨_, _, .inner hb h', ht, hs₁⟩
  case mk =>
    intro ts ts₁ rest t nl _ hn ih ts' hs
    obtain ⟨t', ts₁', h', ht, hs₁⟩ := ih hs
    obtain ⟨rest', hn', hs₂⟩ := hn.sameCase hs₁
    exact ⟨t', rest', .mk h' hn', ht, hs₂⟩
  case close =>
    intro term t ts ht ts' hs
    obtain ⟨t', _, rfl, ht', hs₁⟩ := hs.cons
    exact ⟨[], _, .close (beq_of_foldCase ht' ht), rfl, hs₁⟩
  case last =>
    intro term t w name ts rest ty nl hw hn _ hne ht ih ts' hs
    obtain ⟨w', _, rfl, hww, hs₁⟩ := hs.cons_word
    obtain ⟨ty', _, hc', hty, hs₂⟩ := ih hs₁
    obtain ⟨t', rest', rfl, ht', hs₃⟩ := hs₂.cons
    obtain ⟨name', hn', hname⟩ := word2ident_congr hww hn
    refine ⟨_, rest', .last (@beq_of_foldCase (.word w) (.word w') _ _ (congrArg Token.word hww) hw) hn' hc' ?_ (beq_of_foldCase ht' ht),
      by simp only [SqlType.foldFields, hname, hty], hs₃⟩
    rintro rfl
    exact hne (Token.eq_of_foldCase_punct (fun _ => nofun) ht'.symm)
  case more =>
    intro term w name ts ts₁ rest ty nl fs hw hn _ _ ihc ihf ts' hs
    obtain ⟨w', _, rfl, hww, hs₁⟩ := hs.cons_word
    obtain ⟨ty', _, hc', hty, hs₂⟩ := ihc hs₁
    obtain ⟨ts₁', rfl, hs₃⟩ := hs₂.cons_punct fun _ => nofun
    obtain ⟨fs', rest', hf', hfs, hs₄⟩ := ihf hs₃
    obtain ⟨name', hn', hname⟩ := word2ident_congr hww hn
    exact ⟨_, rest', .more (@beq_of_foldCase (.word w) (.word w') _ _ (congrArg Token.word hww) hw) hn' hc' hf',
      by simp only [SqlType.foldFields, hname, hty, hfs], hs₄⟩

end Grammar

/-! ## Inputs -/

/-- Two inputs that differ only in the case of letters outside quoted words
give the same tokens up to case. -/
theorem sameCase_tokenize {s s' : String} (h : foldCase s = foldCase s') :
    Grammar.SameCase (tokenize s) (tokenize s') :=
  .of_map_eq (by rw [← tokenize_foldCase, h, tokenize_foldCase])

theorem parse_foldCase_of_ok (b : Backend) {s s' : String} (h : foldCase s = foldCase s') {t : SqlType}
    {nullable : Bool} (hp : SqlType.parse b s = .ok (t, nullable)) :
    ∃ t', SqlType.parse b s' = .ok (t', nullable) ∧ t.foldCase = t'.foldCase := by
  rw [parse_eq_ok_iff_run, run_parse_fuelFor_iff] at hp
  obtain ⟨nl, rest, hc, rfl⟩ := hp
  obtain ⟨t', rest', hc', ht, -⟩ := (Grammar.sameCase_grammar b).2.2.1 hc (sameCase_tokenize h)
  exact ⟨t', parse_eq_ok_iff_run.mpr (run_parse_fuelFor_iff.mpr ⟨nl, rest', hc', rfl⟩), ht⟩

/-- Parsing is insensitive to the case of the letters outside quoted words: of
two inputs that differ only there, `SqlType::parse` accepts both or neither,
with the same nullability, and with types that differ only in the case of the
text of their `Other`s and of their plain field names. -/
theorem parse_case_insensitive (b : Backend) {s s' : String} (h : foldCase s = foldCase s') :
    (∀ t nullable, SqlType.parse b s = .ok (t, nullable) →
      ∃ t', SqlType.parse b s' = .ok (t', nullable) ∧ t.foldCase = t'.foldCase) ∧
    (∀ t' nullable, SqlType.parse b s' = .ok (t', nullable) →
      ∃ t, SqlType.parse b s = .ok (t, nullable) ∧ t.foldCase = t'.foldCase) :=
  ⟨fun _ _ hp => parse_foldCase_of_ok b h hp, fun _ _ hp =>
    (parse_foldCase_of_ok b h.symm hp).imp fun _ => And.imp_right Eq.symm⟩

/-- On Snowflake, `struct<"Id" int not null, note text>` and its upper-case
spelling both parse, as structs whose fields differ only in the case of the
plain name. -/
theorem parse_case_insensitive_struct :
    SqlType.parse .snowflake "struct<\"Id\" int not null, note text>" =
      .ok (.struct (some [(.unquoted .double "Id", .integer, false), (.plain "note", .text, true)]), true) ∧
    SqlType.parse .snowflake "STRUCT<\"Id\" INT NOT NULL, Note TEXT>" =
      .ok (.struct (some [(.unquoted .double "Id", .integer, false), (.plain "Note", .text, true)]), true) ∧
    foldCase "struct<\"Id\" int not null, note text>" = foldCase "STRUCT<\"Id\" INT NOT NULL, Note TEXT>" ∧
    (∀ t nullable, SqlType.parse .snowflake "struct<\"Id\" int not null, note text>" = .ok (t, nullable) →
      ∃ t', SqlType.parse .snowflake "STRUCT<\"Id\" INT NOT NULL, Note TEXT>" = .ok (t', nullable) ∧
        t.foldCase = t'.foldCase) ∧
    (∀ t' nullable, SqlType.parse .snowflake "STRUCT<\"Id\" INT NOT NULL, Note TEXT>" = .ok (t', nullable) →
      ∃ t, SqlType.parse .snowflake "struct<\"Id\" int not null, note text>" = .ok (t, nullable) ∧
        t.foldCase = t'.foldCase) :=
  ⟨rfl, rfl, by decide, parse_case_insensitive .snowflake (by decide)⟩

end DbtXdbc
