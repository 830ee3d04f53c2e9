import DbtXdbc.Sql.Grammar
import DbtXdbc.Sql.Terminates

/-!
# The parser accepts exactly its grammar

`SqlType.parse b s` succeeds with a type and its nullability exactly when the
tokens of `s` begin with a type of the grammar of `Sql/Grammar.lean` that reads
so (`parse_iff_grammar`). The tokens after it are not looked at: the parser
accepts `INT )`, and a field list that ends with a comma, and rejects an
interval field with a precision inside `ARRAY<..>` and an interval precision
that does not fit in a `u8` (`parse_grammar_deviations`).

The proof is one spec lemma per production: `run_precision_iff` and its
siblings say what a production returns in the terms of the grammar. Soundness
(`sound_fuel`) is an induction on the fuel, one case per production;
completeness (`complete`) an induction on the derivation, with fuel enough for
every sub-derivation.
-/

namespace DbtXdbc

namespace Token

theorem beq_punct {t p : Token} (hp : ∀ w, p ≠ .word w) : t.beq p = decide (t = p) := by
  cases t <;> cases p <;> first | rfl | exact absurd rfl (hp _)

@[simp] theorem beq_punct_eq_true {t p : Token} (hp : ∀ w, p ≠ .word w) : t.beq p = true ↔ t = p := by
  rw [beq_punct hp, decide_eq_true_iff]

/-- A token equal to the word `a` compares with any word as `a` does. -/
theorem beq_word_congr {t : Token} {a : String} (h : t.beq (.word a) = true) (c : String) :
    t.beq (.word c) = eqi a c := by
  cases t <;> simp_all [beq, eqi]

end Token

open Grammar

namespace Parser

/-! ## What the primitives return -/

section
variable {α β : Type} {ts rest : List Token}

theorem run_bind_eq_ok {x : Parser α} {f : α → Parser β} {v : β} :
    (x >>= f).run ts = .ok (v, rest) ↔ ∃ a ts₁, x.run ts = .ok (a, ts₁) ∧ (f a).run ts₁ = .ok (v, rest) := by
  rw [StateT.run_bind]
  match x.run ts with
  | .ok (a, ts₁) => exact ⟨fun h => ⟨a, ts₁, rfl, h⟩, fun ⟨_, _, h, h'⟩ => by cases h; exact h'⟩
  | .error e => exact ⟨fun h => (by cases h), fun ⟨_, _, h, _⟩ => (by cases h)⟩

@[simp] theorem run_pure_eq_ok {a v : α} : (pure a : Parser α).run ts = .ok (v, rest) ↔ a = v ∧ ts = rest := by
  simp [StateT.run_pure]

theorem run_next_eq_ok {t : Token} : next.run ts = .ok (t, rest) ↔ ts = t :: rest := by
  cases ts <;> simp [next, StateT.run, eq_comm]

theorem run_match_eq_ok {pat : Token} {c : Bool} :
    (match_ pat).run ts = .ok (c, rest) ↔
      (c = true ∧ ∃ t, ts = t :: rest ∧ t.beq pat = true) ∨ (c = false ∧ rest = ts ∧ heads pat ts = false) := by
  rcases ts with _ | ⟨t, ts⟩
  · rw [run_match_nil]
    refine ⟨fun h => by cases h; simp, ?_⟩
    rintro (⟨_, _, h, _⟩ | ⟨rfl, rfl, _⟩)
    · cases h
    · rfl
  · rw [run_match_cons]
    cases h : t.beq pat
    · refine ⟨fun h' => by cases h'; simp [h], ?_⟩
      rintro (⟨_, _, h', h''⟩ | ⟨rfl, rfl, _⟩)
      · cases h'; simp_all
      · rfl
    · refine ⟨fun h' => by cases h'; simp [h], ?_⟩
      rintro (⟨rfl, _, h', _⟩ | ⟨_, _, h''⟩)
      · cases h'; rfl
      · simp_all

theorem run_expect_eq_ok {e : Token} {u : Unit} :
    (expect e).run ts = .ok (u, rest) ↔ ∃ t, ts = t :: rest ∧ t.beq e = true := by
  rw [expect, run_bind_eq_ok]
  constructor
  · rintro ⟨t, ts₁, h, h'⟩
    rw [run_next_eq_ok] at h
    split at h' <;> simp_all
  · rintro ⟨t, rfl, h⟩
    exact ⟨t, rest, rfl, by simp [h]⟩

theorem run_nextInt_eq_ok {fromStr : String → Except IntErrorKind α} {v : α} :
    (nextInt fromStr).run ts = .ok (v, rest) ↔ ∃ w, ts = .word w :: rest ∧ fromStr w = .ok v := by
  rw [nextInt, run_bind_eq_ok]
  constructor
  · rintro ⟨t, ts₁, h, h'⟩
    rw [run_next_eq_ok] at h
    subst h
    split at h'
    · split at h' <;> simp_all
    · simp at h'
  · rintro ⟨w, rfl, h⟩
    exact ⟨.word w, rest, rfl, by simp [h]⟩

theorem run_peekAndThen_eq_ok {f : Token → Option α} {o : Option α} :
    (peekAndThen f).run ts = .ok (o, rest) ↔
      (∃ t a, ts = t :: rest ∧ f t = some a ∧ o = some a) ∨ (o = none ∧ rest = ts ∧ ts.head?.bind f = none) := by
  rcases ts with _ | ⟨t, ts⟩
  · simp [eq_comm]
  · rw [run_peekAndThen_cons]
    cases h : f t with
    | none => simp [h, eq_comm]
    | some a =>
      simp only [Except.ok.injEq, Prod.mk.injEq, List.cons.injEq, h]
      constructor
      · rintro ⟨rfl, rfl⟩
        exact .inl ⟨t, a, ⟨rfl, rfl⟩, h, rfl⟩
      · rintro (⟨_, _, ⟨rfl, rfl⟩, h', rfl⟩ | ⟨_, _, h'⟩)
        · exact ⟨by rw [h] at h'; exact congrArg some (Option.some.inj h'), rfl⟩
        · simp [h] at h'

end

/-! ## The parts that follow a keyword -/

section
variable {ts rest : List Token}

theorem run_matchWord_iff {w : String} {c : Bool} :
    (matchWord w).run ts = .ok (c, rest) ↔ OptWord w ts c rest := by
  rw [matchWord, run_match_eq_ok]
  constructor
  · rintro (⟨rfl, t, rfl, h⟩ | ⟨rfl, rfl, h⟩)
    · exact .present h
    · exact .absent h
  · rintro (⟨h⟩ | ⟨h⟩)
    · exact .inr ⟨rfl, rfl, h⟩
    · exact .inl ⟨rfl, _, rfl, h⟩

theorem run_precision_iff {α : Type} {fromStr : String → Except IntErrorKind α} {v : Option α} :
    (precision fromStr).run ts = .ok (v, rest) ↔ Precision fromStr ts v rest := by
  constructor
  · intro h
    simp only [precision, run_bind_eq_ok, run_match_eq_ok] at h
    obtain ⟨c, ts₁, ⟨rfl, t, rfl, ht⟩ | ⟨rfl, rfl, hh⟩, h⟩ := h
    · simp only [ite_true, run_bind_eq_ok, run_nextInt_eq_ok, run_expect_eq_ok, run_pure_eq_ok] at h
      obtain ⟨v', ts₂, ⟨w, rfl, hw⟩, u, ts₃, ⟨t', rfl, ht'⟩, rfl, rfl⟩ := h
      simp only [reduceCtorEq, ne_eq, not_false_eq_true, implies_true, Token.beq_punct_eq_true] at ht ht'
      subst ht ht'
      exact .present hw
    · simp only [ite_false, Bool.false_eq_true, run_pure_eq_ok] at h
      obtain ⟨rfl, rfl⟩ := h
      exact .absent hh
  · rintro (⟨hh⟩ | ⟨hw⟩)
    · rw [precision, run_bind_eq_ok]
      exact ⟨false, _, run_match_eq_ok.mpr (.inr ⟨rfl, rfl, hh⟩), rfl⟩
    · simp [precision, nextInt, expect, run_match_cons, hw, Token.beq]

theorem run_precisionAndScale_iff {ps : Option (UInt8 × Option I8)} :
    precisionAndScale.run ts = .ok (ps, rest) ↔ PrecisionAndScale ts ps rest := by
  constructor
  · intro h
    simp only [precisionAndScale, run_bind_eq_ok, run_match_eq_ok] at h
    obtain ⟨c, ts₁, ⟨rfl, t, rfl, ht⟩ | ⟨rfl, rfl, hh⟩, h⟩ := h
    · simp only [ite_true, run_bind_eq_ok, run_nextInt_eq_ok, run_match_eq_ok] at h
      obtain ⟨p, ts₂, ⟨w, rfl, hw⟩, c', ts₃, ⟨rfl, t', rfl, ht'⟩ | ⟨rfl, rfl, -⟩, h⟩ := h
      · simp only [ite_true, run_bind_eq_ok, run_nextInt_eq_ok, run_expect_eq_ok, run_pure_eq_ok] at h
        obtain ⟨s', ts₄, ⟨w', rfl, hw'⟩, _, _, ⟨rfl, rfl⟩, u, ts₅, ⟨t'', rfl, ht''⟩, rfl, rfl⟩ := h
        simp only [reduceCtorEq, ne_eq, not_false_eq_true, implies_true, Token.beq_punct_eq_true] at ht ht' ht''
        subst ht ht' ht''
        exact .scale hw hw'
      · simp only [ite_false, Bool.false_eq_true, run_bind_eq_ok, run_expect_eq_ok, run_pure_eq_ok] at h
        obtain ⟨_, _, ⟨rfl, rfl⟩, u, ts₅, ⟨t'', rfl, ht''⟩, rfl, rfl⟩ := h
        simp only [reduceCtorEq, ne_eq, not_false_eq_true, implies_true, Token.beq_punct_eq_true] at ht ht''
        subst ht ht''
        exact .precision hw
    · simp only [ite_false, Bool.false_eq_true, run_pure_eq_ok] at h
      obtain ⟨rfl, rfl⟩ := h
      exact .absent hh
  · rintro (⟨hh⟩ | ⟨hw⟩ | ⟨hw, hw'⟩)
    · rw [precisionAndScale, run_bind_eq_ok]
      exact ⟨false, _, run_match_eq_ok.mpr (.inr ⟨rfl, rfl, hh⟩), rfl⟩
    · simp [precisionAndScale, nextInt, expect, run_match_cons, hw, Token.beq]
    · simp [precisionAndScale, nextInt, expect, run_match_cons, hw, hw', Token.beq]

theorem run_timeZoneSpec_iff {tz : TimeZoneSpec} :
    timeZoneSpec.run ts = .ok (tz, rest) ↔ TimeZone ts tz rest := by
  constructor
  · intro h
    simp only [timeZoneSpec, run_bind_eq_ok, run_matchWord_iff] at h
    obtain ⟨c, ts₁, ⟨hh⟩ | ⟨ht⟩, h⟩ := h
    · simp only [ite_false, Bool.false_eq_true, run_bind_eq_ok, run_matchWord_iff] at h
      obtain ⟨c', ts₂, ⟨hh'⟩ | ⟨ht'⟩, h⟩ := h
      · simp only [ite_false, Bool.false_eq_true, run_pure_eq_ok] at h
        obtain ⟨rfl, rfl⟩ := h
        exact .unspecified hh hh'
      · simp only [ite_true, run_bind_eq_ok, run_expect_eq_ok, run_pure_eq_ok] at h
        obtain ⟨u, ts₃, ⟨t₁, rfl, h₁⟩, u', ts₄, ⟨t₂, rfl, h₂⟩, rfl, rfl⟩ := h
        exact .without ht' h₁ h₂
    · simp only [ite_true, run_bind_eq_ok, run_matchWord_iff, run_expect_eq_ok, run_pure_eq_ok] at h
      obtain ⟨l, ts₂, hl, u, ts₃, ⟨t₁, rfl, h₁⟩, u', ts₄, ⟨t₂, rfl, h₂⟩, rfl, rfl⟩ := h
      exact .with ht hl h₁ h₂
  · rintro (⟨ht, hl, h₁, h₂⟩ | ⟨ht, h₁, h₂⟩ | ⟨hh, hh'⟩)
    · simp only [timeZoneSpec, run_bind_eq_ok, run_matchWord_iff]
      refine ⟨true, _, .present ht, ?_⟩
      simp only [ite_true, run_bind_eq_ok, run_matchWord_iff, run_expect_eq_ok, run_pure_eq_ok]
      exact ⟨_, _, hl, (), _, ⟨_, rfl, h₁⟩, (), _, ⟨_, rfl, h₂⟩, rfl, rfl⟩
    · simp only [timeZoneSpec, run_bind_eq_ok, run_matchWord_iff]
      refine ⟨false, _, .absent (by simp [Token.beq_word_congr ht]; decide), ?_⟩
      simp only [ite_false, Bool.false_eq_true, run_bind_eq_ok, run_matchWord_iff]
      refine ⟨true, _, .present ht, ?_⟩
      simp only [ite_true, run_bind_eq_ok, run_expect_eq_ok, run_pure_eq_ok]
      exact ⟨(), _, ⟨_, rfl, h₁⟩, (), _, ⟨_, rfl, h₂⟩, trivial, rfl⟩
    · simp only [timeZoneSpec, run_bind_eq_ok, run_matchWord_iff]
      refine ⟨false, _, .absent hh, ?_⟩
      simp only [ite_false, Bool.false_eq_true, run_bind_eq_ok, run_matchWord_iff]
      exact ⟨false, _, .absent hh', rfl⟩

theorem run_nullable_iff {nl : Option Bool} : nullable.run ts = .ok (nl, rest) ↔ Nullable ts nl rest := by
  constructor
  · intro h
    simp only [nullable, run_bind_eq_ok, run_matchWord_iff] at h
    obtain ⟨c, ts₁, ⟨hh⟩ | ⟨ht⟩, h⟩ := h
    · simp only [ite_false, Bool.false_eq_true, run_bind_eq_ok, run_matchWord_iff] at h
      obtain ⟨c', ts₂, ⟨hh'⟩ | ⟨ht'⟩, h⟩ := h
      · simp only [ite_false, Bool.false_eq_true, run_pure_eq_ok] at h
        obtain ⟨rfl, rfl⟩ := h
        exact .absent hh hh'
      · simp only [ite_true, run_pure_eq_ok] at h
        obtain ⟨rfl, rfl⟩ := h
        exact .nullable ht'
    · simp only [ite_true, run_bind_eq_ok, run_expect_eq_ok, run_pure_eq_ok] at h
      obtain ⟨u, ts₂, ⟨t₁, rfl, h₁⟩, rfl, rfl⟩ := h
      exact .notNull ht h₁
  · rintro (⟨ht, h₁⟩ | ⟨ht⟩ | ⟨hh, hh'⟩)
    · simp only [nullable, run_bind_eq_ok, run_matchWord_iff]
      refine ⟨true, _, .present ht, ?_⟩
      simp only [ite_true, run_bind_eq_ok, run_expect_eq_ok, run_pure_eq_ok]
      exact ⟨(), _, ⟨_, rfl, h₁⟩, trivial, rfl⟩
    · simp only [nullable, run_bind_eq_ok, run_matchWord_iff]
      refine ⟨false, _, .absent (by simp [Token.beq_word_congr ht]; decide), ?_⟩
      simp only [ite_false, Bool.false_eq_true, run_bind_eq_ok, run_matchWord_iff]
      exact ⟨true, _, .present ht, rfl⟩
    · simp only [nullable, run_bind_eq_ok, run_matchWord_iff]
      refine ⟨false, _, .absent hh, ?_⟩
      simp only [ite_false, Bool.false_eq_true, run_bind_eq_ok, run_matchWord_iff]
      exact ⟨false, _, .absent hh', rfl⟩

theorem datetimeField_eq : datetimeField = peekAndThen field? := rfl

theorem run_intervalQualifier_eq_ok {o : Option (DateTimeField × Option DateTimeField)} :
    intervalQualifier.run ts = .ok (o, rest) ↔
      (∃ t f, ts = t :: rest ∧ field? t = some f ∧ heads (.word "TO") rest = false ∧ o = some (f, none)) ∨
      (∃ t u t' f e, ts = t :: u :: t' :: rest ∧ field? t = some f ∧ u.beq (.word "TO") = true ∧
        field? t' = some e ∧ o = some (f, some e)) ∨
      (o = none ∧ rest = ts ∧ ts.head?.bind field? = none) := by
  simp only [intervalQualifier, datetimeField_eq, run_bind_eq_ok]
  constructor
  · rintro ⟨s, ts₁, hs, h⟩
    rcases run_peekAndThen_eq_ok.mp hs with ⟨t, f, rfl, hf, rfl⟩ | ⟨rfl, rfl, hn⟩
    · simp only [run_bind_eq_ok, run_matchWord_iff] at h
      obtain ⟨c, ts₂, ⟨hh⟩ | ⟨hu⟩, h⟩ := h
      · simp only [ite_false, Bool.false_eq_true, run_pure_eq_ok] at h
        obtain ⟨rfl, rfl⟩ := h
        exact .inl ⟨t, f, rfl, hf, hh, rfl⟩
      · simp only [ite_true, run_bind_eq_ok, run_peekAndThen_eq_ok] at h
        obtain ⟨e', ts₃, ⟨t', e, rfl, he, rfl⟩ | ⟨rfl, rfl, -⟩, h⟩ := h
        · simp only [run_pure_eq_ok] at h
          obtain ⟨rfl, rfl⟩ := h
          exact .inr (.inl ⟨t, _, t', f, e, rfl, hf, hu, he, rfl⟩)
        · simp at h
    · simp only [run_pure_eq_ok] at h
      obtain ⟨rfl, rfl⟩ := h
      exact .inr (.inr ⟨rfl, rfl, hn⟩)
  · rintro (⟨t, f, rfl, hf, hto, rfl⟩ | ⟨t, u, t', f, e, rfl, hf, hu, he, rfl⟩ | ⟨rfl, rfl, hn⟩)
    · refine ⟨some f, _, run_peekAndThen_eq_ok.mpr (.inl ⟨t, f, rfl, hf, rfl⟩), ?_⟩
      simp only [run_bind_eq_ok, run_matchWord_iff]
      exact ⟨false, _, .absent hto, rfl⟩
    · refine ⟨some f, _, run_peekAndThen_eq_ok.mpr (.inl ⟨t, f, rfl, hf, rfl⟩), ?_⟩
      simp only [run_bind_eq_ok, run_matchWord_iff]
      refine ⟨true, _, .present hu, ?_⟩
      simp only [ite_true, run_bind_eq_ok, run_peekAndThen_eq_ok]
      exact ⟨some e, _, .inl ⟨t', e, rfl, he, rfl⟩, rfl⟩
    · exact ⟨none, _, run_peekAndThen_eq_ok.mpr (.inr ⟨rfl, rfl, hn⟩), rfl⟩

theorem or_refineSecond (p : Option UInt8) :
    (p.map fun p => (DateTimeField.fromPrecision p, none)).or (some (.second, none)) =
      some (refineSecond p, (none : Option DateTimeField)) := by
  cases p <;> rfl

theorem or_refineSecond_range (f : DateTimeField) (p : Option UInt8) :
    (p.map fun p => (f, some (DateTimeField.fromPrecision p))).or (some (f, some .second)) =
      some (f, some (refineSecond p)) := by
  cases p <;> rfl

theorem run_interval_iff {t : SqlType} :
    interval.run ts = .ok (t, rest) ↔ ∃ q, Qualifier ts q rest ∧ t = .interval q := by
  constructor
  · intro h
    simp only [interval, pure_bind, run_bind_eq_ok] at h
    obtain ⟨o, ts₁, ho, h⟩ := h
    rcases run_intervalQualifier_eq_ok.mp ho with ⟨t, f, rfl, hf, hto, rfl⟩ |
      ⟨t, u, t', f, e, rfl, hf, hu, he, rfl⟩ | ⟨rfl, rfl, hn⟩
    · by_cases hs : f = .second
      · subst hs
        simp only [ite_true, run_bind_eq_ok, run_pure_eq_ok] at h
        obtain ⟨p, _, hp, rfl, rfl⟩ := h
        exact ⟨_, .second hf hto (run_precision_iff.mp hp), by rw [or_refineSecond]⟩
      · simp only [hs, ite_false, run_pure_eq_ok] at h
        obtain ⟨rfl, rfl⟩ := h
        exact ⟨_, .field hf hs hto, rfl⟩
    · by_cases hs : e = .second
      · subst hs
        simp only [ite_true, run_bind_eq_ok, run_pure_eq_ok] at h
        obtain ⟨p, _, hp, rfl, rfl⟩ := h
        exact ⟨_, .rangeSecond hf hu he (run_precision_iff.mp hp), by rw [or_refineSecond_range]⟩
      · simp only [hs, ite_false, run_pure_eq_ok] at h
        obtain ⟨rfl, rfl⟩ := h
        exact ⟨_, .range hf hu he hs, rfl⟩
    · simp only [run_bind_eq_ok, run_pure_eq_ok] at h
      obtain ⟨p, _, hp, rfl, rfl⟩ := h
      exact ⟨_, .precision hn (run_precision_iff.mp hp), rfl⟩
  · rintro ⟨q, hq, rfl⟩
    simp only [interval, pure_bind, run_bind_eq_ok]
    cases hq with
    | field hf hs hto =>
      refine ⟨_, _, run_intervalQualifier_eq_ok.mpr (.inl ⟨_, _, rfl, hf, hto, rfl⟩), ?_⟩
      simp [hs]
    | second hf hto hp =>
      refine ⟨_, _, run_intervalQualifier_eq_ok.mpr (.inl ⟨_, _, rfl, hf, hto, rfl⟩), ?_⟩
      simp only [ite_true, run_bind_eq_ok, run_pure_eq_ok]
      exact ⟨_, _, run_precision_iff.mpr hp, by rw [or_refineSecond], rfl⟩
    | range hf hu he hs =>
      refine ⟨_, _, run_intervalQualifier_eq_ok.mpr (.inr (.inl ⟨_, _, _, _, _, rfl, hf, hu, he, rfl⟩)), ?_⟩
      simp [hs]
    | rangeSecond hf hu he hp =>
      refine ⟨_, _, run_intervalQualifier_eq_ok.mpr (.inr (.inl ⟨_, _, _, _, _, rfl, hf, hu, he, rfl⟩)), ?_⟩
      simp only [ite_true, run_bind_eq_ok, run_pure_eq_ok]
      exact ⟨_, _, run_precision_iff.mpr hp, by rw [or_refineSecond_range], rfl⟩
    | precision hn hp =>
      refine ⟨_, _, run_intervalQualifier_eq_ok.mpr (.inr (.inr ⟨rfl, rfl, hn⟩)), ?_⟩
      simp only [run_bind_eq_ok, run_pure_eq_ok]
      exact ⟨_, _, run_precision_iff.mpr hp, rfl, rfl⟩

theorem run_collectOther_iff {o o' : String} :
    (collectOther o).run ts = .ok (o', rest) ↔
      ∃ captured, ts = captured ++ rest ∧ (∀ t ∈ captured, endsOther t = false) ∧
        (∀ t ∈ rest.head?, endsOther t = true) ∧ o' = otherText o captured := by
  induction ts generalizing o with
  | nil =>
    simp only [run_collectOther_nil, Except.ok.injEq, Prod.mk.injEq, List.nil_eq_append_iff]
    constructor
    · rintro ⟨rfl, rfl⟩
      exact ⟨[], ⟨rfl, rfl⟩, by simp, by simp, rfl⟩
    · rintro ⟨_, ⟨rfl, rfl⟩, -, -, rfl⟩
      exact ⟨rfl, rfl⟩
  | cons t ts ih =>
    rw [run_collectOther_cons, show (t.beq (.word "NOT") || t.beq (.word "NULL")) = endsOther t from rfl]
    by_cases hs : endsOther t = true
    · rw [if_pos hs]
      simp only [Except.ok.injEq, Prod.mk.injEq]
      constructor
      · rintro ⟨rfl, rfl⟩
        exact ⟨[], rfl, by simp, by simpa using hs, rfl⟩
      · rintro ⟨_ | ⟨u, captured⟩, h, hc, hr, rfl⟩
        · exact ⟨rfl, by simpa using h⟩
        · obtain ⟨rfl, -⟩ := List.cons.inj h
          simp [hc t (by simp)] at hs
    · rw [if_neg hs, ih]
      constructor
      · rintro ⟨captured, rfl, hc, hr, rfl⟩
        exact ⟨t :: captured, rfl, by simpa [hs] using hc, hr, rfl⟩
      · rintro ⟨_ | ⟨u, captured⟩, h, hc, hr, rfl⟩
        · subst h; simp [hs] at hr
        · obtain ⟨rfl, rfl⟩ := List.cons.inj h
          exact ⟨captured, rfl, fun v hv => hc v (by simp [hv]), hr, rfl⟩

theorem run_postfixArrays_of_heads {t : SqlType} (h : heads .lBracket ts = false) :
    (postfixArrays t).run ts = .ok (t, ts) := by
  rcases ts with _ | ⟨u, ts⟩
  · rfl
  · cases u <;> first | rfl | simp [Token.beq] at h

theorem run_postfixArrays_iff {t t' : SqlType} :
    (postfixArrays t).run ts = .ok (t', rest) ↔ ArraySuffix t ts t' rest := by
  constructor
  · simp only [StateT.run]
    intro h
    induction t, ts using postfixArrays.induct with
    | case1 t ts ih => exact .array (ih (by simpa [postfixArrays] using h))
    | case2 | case3 => simp [postfixArrays] at h
    | case4 t ts h₁ h₂ h₃ =>
      rw [postfixArrays.eq_4 t ts h₁ h₂ h₃] at h
      cases h
      refine .done ?_
      rcases rest with _ | ⟨u, rest⟩
      · rfl
      · cases u <;> try rfl
        rcases rest with _ | ⟨v, rest⟩
        · exact (h₃ rfl).elim
        · exact (h₂ v rest rfl).elim
  · intro h
    induction h with
    | done hh => exact run_postfixArrays_of_heads hh
    | array _ ih => exact ih

end


/-! ## The keyword table -/

section
variable {b : Backend} {u : Parser SqlType} {fs : Token → Parser (List (Ident × SqlType × Bool))}
  {w : String} {ts rest : List Token} {t : SqlType}

/-- What the `Token::Word` arm returns is a type of the grammar, when the
productions it calls back return types of the grammar. -/
theorem parseWord_sound
    (hu : ∀ {ts t rest}, u.run ts = .ok (t, rest) → Unconstrained b ts t rest)
    (hfs : ∀ {term ts fields rest}, (fs term).run ts = .ok (fields, rest) → Fields b term ts fields rest)
    (h : (parseWord u fs b w).run ts = .ok (t, rest)) : Inner b (.word w :: ts) t rest := by
  unfold parseWord at h
  rcases hk : Keyword.ofWord? w with _ | k
  · simp only [hk, run_bind_eq_ok, run_pure_eq_ok, run_collectOther_iff] at h
    obtain ⟨_, _, ⟨captured, rfl, hc, hr, rfl⟩, rfl, rfl⟩ := h
    exact .other hk hc hr
  cases k <;> simp only [hk] at h
  all_goals first
    | (obtain ⟨rfl, rfl⟩ := run_pure_eq_ok.mp h; exact .scalar hk (.standalone rfl))
    | skip
  case float | timestampNtz | datetime | timestampTz | varchar =>
    simp only [run_bind_eq_ok, run_pure_eq_ok, run_precision_iff] at h
    obtain ⟨p, _, hp, rfl, rfl⟩ := h
    first
      | exact .scalar hk (.float hp)
      | exact .scalar hk (.timestampNtz hp)
      | exact .scalar hk (.datetime hp)
      | exact .scalar hk (.timestampTz hp)
      | exact .scalar hk (.varchar hp)
  case double =>
    simp only [run_bind_eq_ok, run_pure_eq_ok, run_matchWord_iff] at h
    obtain ⟨_, _, hp, rfl, rfl⟩ := h
    exact .scalar hk (.double hp)
  case decimal | bigDecimal =>
    simp only [run_bind_eq_ok, run_pure_eq_ok, run_precisionAndScale_iff] at h
    obtain ⟨ps, _, hps, rfl, rfl⟩ := h
    first
      | exact .scalar hk (.decimal hps)
      | exact .scalar hk (.bigDecimal hps)
  case char | binary =>
    simp only [run_bind_eq_ok, run_matchWord_iff] at h
    obtain ⟨c, _, ⟨hh⟩ | ⟨ht⟩, h⟩ := h
    · simp only [ite_false, Bool.false_eq_true, run_bind_eq_ok, run_matchWord_iff, run_precision_iff,
        run_pure_eq_ok] at h
      first
        | (obtain ⟨v, _, hv, len, _, hlen, rfl, rfl⟩ := h; exact .scalar hk (.char hh hv hlen))
        | (obtain ⟨rfl, rfl⟩ := h; exact .scalar hk (.binary hh))
    · simp only [ite_true, run_bind_eq_ok, run_expect_eq_ok, run_pure_eq_ok] at h
      obtain ⟨_, _, ⟨_, rfl, hu⟩, rfl, rfl⟩ := h
      first
        | exact .scalar hk (.charLargeObject ht hu)
        | exact .scalar hk (.binaryLargeObject ht hu)
  case national =>
    simp only [run_bind_eq_ok, run_expect_eq_ok, run_matchWord_iff, run_precision_iff, run_pure_eq_ok] at h
    obtain ⟨_, _, ⟨_, rfl, hc⟩, v, _, hv, len, _, hlen, rfl, rfl⟩ := h
    exact .scalar hk (.national hc hv hlen)
  case time | timestamp =>
    simp only [run_bind_eq_ok, run_precision_iff, run_timeZoneSpec_iff, run_pure_eq_ok] at h
    obtain ⟨p, _, hp, tz, _, htz, rfl, rfl⟩ := h
    first
      | exact .scalar hk (.time hp htz)
      | exact .scalar hk (.timestamp hp htz)
  case interval =>
    obtain ⟨q, hq, rfl⟩ := run_interval_iff.mp h
    exact .scalar hk (.interval hq)
  case array =>
    simp only [run_bind_eq_ok, run_match_eq_ok] at h
    obtain ⟨c, _, ⟨rfl, _, rfl, hl⟩ | ⟨rfl, rfl, hh⟩, h⟩ := h
    · simp only [ite_true, run_bind_eq_ok, run_expect_eq_ok, run_pure_eq_ok] at h
      obtain ⟨inner, _, hi, _, _, ⟨_, rfl, hr⟩, rfl, rfl⟩ := h
      simp only [reduceCtorEq, ne_eq, not_false_eq_true, implies_true, Token.beq_punct_eq_true] at hl hr
      subst hl hr
      exact .arrayOf hk (hu hi)
    · simp only [ite_false, Bool.false_eq_true, run_pure_eq_ok] at h
      obtain ⟨rfl, rfl⟩ := h
      exact .array hk hh
  case struct =>
    simp only [run_bind_eq_ok, run_match_eq_ok] at h
    obtain ⟨c, _, ⟨rfl, _, rfl, hl⟩ | ⟨rfl, rfl, hh⟩, h⟩ := h
    · simp only [ite_true, pure_bind, run_bind_eq_ok, run_pure_eq_ok] at h
      obtain ⟨fields, _, hf, rfl, rfl⟩ := h
      simp only [reduceCtorEq, ne_eq, not_false_eq_true, implies_true, Token.beq_punct_eq_true] at hl
      subst hl
      exact .structOf hk (hfs hf)
    · simp only [ite_false, Bool.false_eq_true, pure_bind, run_pure_eq_ok] at h
      obtain ⟨rfl, rfl⟩ := h
      exact .struct hk hh
  case map =>
    simp only [run_bind_eq_ok, run_match_eq_ok] at h
    obtain ⟨c, _, ⟨rfl, _, rfl, hl⟩ | ⟨rfl, rfl, hh⟩, h⟩ := h
    · simp only [ite_true, pure_bind, run_bind_eq_ok, run_expect_eq_ok, run_pure_eq_ok] at h
      obtain ⟨k, _, hkey, _, _, ⟨_, rfl, hc⟩, v, _, hv, _, _, ⟨_, rfl, hr⟩, rfl, rfl⟩ := h
      simp only [reduceCtorEq, ne_eq, not_false_eq_true, implies_true, Token.beq_punct_eq_true] at hl hc hr
      subst hl hc hr
      exact .mapOf hk (hu hkey) (hu hv)
    · simp only [ite_false, Bool.false_eq_true, pure_bind, run_pure_eq_ok] at h
      obtain ⟨rfl, rfl⟩ := h
      exact .map hk hh


/-- A row of the keyword table, read as the grammar reads it, is what the
`Token::Word` arm returns, whatever the productions it could call back. -/
theorem parseWord_complete {k : Keyword} (hk : Keyword.ofWord? w = some k) (h : Scalar b k ts t rest) :
    (parseWord u fs b w).run ts = .ok (t, rest) := by
  unfold parseWord
  cases h with
  | standalone hs =>
    cases k <;> simp only [Keyword.standalone, Option.some.injEq, reduceCtorEq] at hs <;> subst hs <;>
      simp [hk]
  | float hp | timestampNtz hp | datetime hp | timestampTz hp | varchar hp =>
    simp only [hk, run_bind_eq_ok, run_precision_iff, run_pure_eq_ok]
    exact ⟨_, _, hp, rfl, rfl⟩
  | double hp =>
    simp only [hk, run_bind_eq_ok, run_matchWord_iff, run_pure_eq_ok]
    exact ⟨_, _, hp, trivial, rfl⟩
  | decimal hps | bigDecimal hps =>
    simp only [hk, run_bind_eq_ok, run_precisionAndScale_iff, run_pure_eq_ok]
    exact ⟨_, _, hps, rfl, rfl⟩
  | charLargeObject ht hu | binaryLargeObject ht hu =>
    simp only [hk, run_bind_eq_ok, run_matchWord_iff]
    refine ⟨true, _, .present ht, ?_⟩
    simp only [ite_true, run_bind_eq_ok, run_expect_eq_ok, run_pure_eq_ok]
    exact ⟨(), _, ⟨_, rfl, hu⟩, trivial, rfl⟩
  | char hh hv hlen =>
    simp only [hk, run_bind_eq_ok, run_matchWord_iff]
    refine ⟨false, _, .absent hh, ?_⟩
    simp only [ite_false, Bool.false_eq_true, run_bind_eq_ok, run_matchWord_iff, run_precision_iff,
      run_pure_eq_ok]
    exact ⟨_, _, hv, _, _, hlen, rfl, rfl⟩
  | binary hh =>
    simp only [hk, run_bind_eq_ok, run_matchWord_iff]
    exact ⟨false, _, .absent hh, rfl⟩
  | national hc hv hlen =>
    simp only [hk, run_bind_eq_ok, run_expect_eq_ok, run_matchWord_iff, run_precision_iff, run_pure_eq_ok]
    exact ⟨(), _, ⟨_, rfl, hc⟩, _, _, hv, _, _, hlen, rfl, rfl⟩
  | time hp htz | timestamp hp htz =>
    simp only [hk, run_bind_eq_ok, run_precision_iff, run_timeZoneSpec_iff, run_pure_eq_ok]
    exact ⟨_, _, hp, _, _, htz, rfl, rfl⟩
  | interval hq =>
    simp only [hk]
    exact run_interval_iff.mpr ⟨_, hq, rfl⟩

theorem parseWord_complete_noAngle {k : Keyword} (hk : Keyword.ofWord? w = some k) (hh : heads .lAngle ts = false)
    (ht : (k = .array ∧ t = .array none) ∨ (k = .struct ∧ t = .struct none) ∨ (k = .map ∧ t = .map none)) :
    (parseWord u fs b w).run ts = .ok (t, ts) := by
  rcases ht with ⟨rfl, rfl⟩ | ⟨rfl, rfl⟩ | ⟨rfl, rfl⟩ <;>
    simp only [parseWord, hk, pure_bind, run_bind_eq_ok, run_match_eq_ok] <;>
    exact ⟨false, _, .inr ⟨rfl, rfl, hh⟩, rfl⟩

theorem parseWord_complete_other (hk : Keyword.ofWord? w = none) {captured : List Token}
    (hc : ∀ t ∈ captured, endsOther t = false) (hr : ∀ t ∈ rest.head?, endsOther t = true) :
    (parseWord u fs b w).run (captured ++ rest) = .ok (.other (otherText w captured), rest) := by
  simp only [parseWord, hk, run_bind_eq_ok, run_collectOther_iff, run_pure_eq_ok]
  exact ⟨_, _, ⟨captured, rfl, hc, hr, rfl⟩, rfl, rfl⟩

theorem parseWord_arrayOf (hk : Keyword.ofWord? w = some .array) (hi : u.run ts = .ok (t, .rAngle :: rest)) :
    (parseWord u fs b w).run (.lAngle :: ts) = .ok (.array (some t), rest) := by
  simp only [parseWord, hk, run_bind_eq_ok, run_match_eq_ok]
  refine ⟨true, _, .inl ⟨rfl, _, rfl, rfl⟩, ?_⟩
  simp only [ite_true, run_bind_eq_ok, run_expect_eq_ok, run_pure_eq_ok]
  exact ⟨_, _, hi, (), _, ⟨_, rfl, rfl⟩, rfl, rfl⟩

theorem parseWord_structOf {fields : List (Ident × SqlType × Bool)} (hk : Keyword.ofWord? w = some .struct)
    (hf : (fs .rAngle).run ts = .ok (fields, rest)) :
    (parseWord u fs b w).run (.lAngle :: ts) = .ok (.struct (some fields), rest) := by
  simp only [parseWord, hk, run_bind_eq_ok, run_match_eq_ok]
  refine ⟨true, _, .inl ⟨rfl, _, rfl, rfl⟩, ?_⟩
  simp only [ite_true, pure_bind, run_bind_eq_ok, run_pure_eq_ok]
  exact ⟨_, _, hf, rfl, rfl⟩

theorem parseWord_mapOf {k v : SqlType} {ts₁ : List Token} (hk : Keyword.ofWord? w = some .map)
    (hkey : u.run ts = .ok (k, .comma :: ts₁)) (hv : u.run ts₁ = .ok (v, .rAngle :: rest)) :
    (parseWord u fs b w).run (.lAngle :: ts) = .ok (.map (some (k, v)), rest) := by
  simp only [parseWord, hk, run_bind_eq_ok, run_match_eq_ok]
  refine ⟨true, _, .inl ⟨rfl, _, rfl, rfl⟩, ?_⟩
  simp only [ite_true, pure_bind, run_bind_eq_ok, run_expect_eq_ok, run_pure_eq_ok]
  exact ⟨_, _, hkey, (), _, ⟨_, rfl, rfl⟩, _, _, hv, (), _, ⟨_, rfl, rfl⟩, rfl, rfl⟩


end

@[simp] theorem run_next_bind {α : Type} {f : Token → Parser α} (t : Token) (ts : List Token) :
    (next >>= f).run (t :: ts) = (f t).run ts := rfl

/-! ## Soundness: what the parser returns, the grammar derives -/

/-- With any fuel, what the productions return is read so by the grammar. -/
theorem sound_fuel (b : Backend) : ∀ n : Nat,
    (∀ {ts t rest}, (parseInner n b).run ts = .ok (t, rest) → Inner b ts t rest) ∧
    (∀ {ts t rest}, (parseUnconstrainedType n b).run ts = .ok (t, rest) → Unconstrained b ts t rest) ∧
    (∀ {ts r rest}, (parseConstrainedType n b).run ts = .ok (r, rest) → Constrained b ts r rest) ∧
    (∀ {term acc ts fields rest}, (structFields n b term acc).run ts = .ok (fields, rest) →
      ∃ fs, fields = acc ++ fs ∧ Fields b term ts fs rest)
  | 0 => by
    refine ⟨fun h => ?_, fun h => ?_, fun h => ?_, fun h => ?_⟩ <;>
      simp [parseInner, parseUnconstrainedType, parseConstrainedType, structFields] at h
  | n + 1 => by
    obtain ⟨hi, hu, hc, hs⟩ := sound_fuel b n
    refine ⟨fun h => ?_, fun h => ?_, fun h => ?_, fun {term _ _ _ _} h => ?_⟩
    · rw [parseInner, run_bind_eq_ok] at h
      obtain ⟨tok, _, hn, h⟩ := h
      rw [run_next_eq_ok] at hn
      subst hn
      cases tok
      case lParen =>
        simp only at h
        split at h
        · simp only [run_bind_eq_ok, run_pure_eq_ok] at h
          obtain ⟨fields, _, hf, rfl, rfl⟩ := h
          obtain ⟨fs, rfl, hfs⟩ := hs hf
          exact .paren ‹_› hfs
        · simp at h
      case word w =>
        exact parseWord_sound hu (fun hf => by obtain ⟨fs, rfl, hfs⟩ := hs hf; simpa using hfs) h
      all_goals simp at h
    · rw [parseUnconstrainedType, run_bind_eq_ok] at h
      obtain ⟨t₀, _, h₀, h⟩ := h
      cases hb : b.isPostgresOrGeneric
      · simp only [hb, Bool.false_eq_true, ite_false, run_pure_eq_ok] at h
        obtain ⟨rfl, rfl⟩ := h
        exact .inner hb (hi h₀)
      · simp only [hb, ite_true, run_postfixArrays_iff] at h
        exact .arrays hb (hi h₀) h
    · rw [parseConstrainedType, run_bind_eq_ok] at h
      obtain ⟨t, _, h₀, h⟩ := h
      simp only [run_bind_eq_ok, run_nullable_iff, run_pure_eq_ok] at h
      obtain ⟨nl, _, hnl, rfl, rfl⟩ := h
      exact .mk (hu h₀) hnl
    · rw [structFields, run_bind_eq_ok] at h
      obtain ⟨tok, _, hn, h⟩ := h
      rw [run_next_eq_ok] at hn
      subst hn
      by_cases ht : tok.beq term = true
      · rw [if_pos ht, run_pure_eq_ok] at h
        obtain ⟨rfl, rfl⟩ := h
        exact ⟨[], by simp, .close ht⟩
      rw [if_neg ht] at h
      cases tok with
      | word w =>
        simp only at h
        cases hw : word2ident w b with
        | error e => simp [hw] at h
        | ok name =>
          simp only [hw, run_bind_eq_ok] at h
          obtain ⟨⟨ty, nl⟩, _, hty, tok', _, hn', h⟩ := h
          rw [run_next_eq_ok] at hn'
          subst hn'
          have hw' : (Token.word w).beq term = false := by simpa using ht
          cases tok' with
          | comma =>
            obtain ⟨fs, rfl, hfs⟩ := hs h
            exact ⟨_ :: fs, by simp, .more hw' hw (hc hty) hfs⟩
          | _ =>
            simp only at h
            split at h
            · obtain ⟨rfl, rfl⟩ := run_pure_eq_ok.mp h
              exact ⟨_, rfl, .last hw' hw (hc hty) (by simp) ‹_›⟩
            · simp at h
      | _ => simp at h

/-! ## Completeness: what the grammar derives, the parser returns -/

/-- A derivation of the grammar is what the production returns, with some fuel
and any more. The proof is one case per rule of the grammar, by the recursor of
its productions. -/
theorem complete (b : Backend) :
    (∀ {ts t rest}, Inner b ts t rest → ∃ n, ∀ m, (parseInner (n + m) b).run ts = .ok (t, rest)) ∧
    (∀ {ts t rest}, Unconstrained b ts t rest →
      ∃ n, ∀ m, (parseUnconstrainedType (n + m) b).run ts = .ok (t, rest)) ∧
    (∀ {ts r rest}, Constrained b ts r rest →
      ∃ n, ∀ m, (parseConstrainedType (n + m) b).run ts = .ok (r, rest)) ∧
    (∀ {term ts fs rest}, Fields b term ts fs rest →
      ∃ n, ∀ m acc, (structFields (n + m) b term acc).run ts = .ok (acc ++ fs, rest)) := by
  let MI := fun ts t rest (_ : Inner b ts t rest) =>
    ∃ n, ∀ m, (parseInner (n + m) b).run ts = .ok (t, rest)
  let MU := fun ts t rest (_ : Unconstrained b ts t rest) =>
    ∃ n, ∀ m, (parseUnconstrainedType (n + m) b).run ts = .ok (t, rest)
  let MC := fun ts r rest (_ : Constrained b ts r rest) =>
    ∃ n, ∀ m, (parseConstrainedType (n + m) b).run ts = .ok (r, rest)
  let MF := fun term ts fs rest (_ : Fields b term ts fs rest) =>
    ∃ n, ∀ m acc, (structFields (n + m) b term acc).run ts = .ok (acc ++ fs, rest)
  refine (fun paren scalar arrayOf array structOf struct mapOf map other arrays inner mk close last more =>
    ⟨fun h => @Grammar.Inner.rec b MI MU MC MF paren scalar arrayOf array structOf struct mapOf map other
        arrays inner mk close last more _ _ _ h,
      fun h => @Grammar.Unconstrained.rec b MI MU MC MF paren scalar arrayOf array structOf struct mapOf map
        other arrays inner mk close last more _ _ _ h,
      fun h => @Grammar.Constrained.rec b MI MU MC MF paren scalar arrayOf array structOf struct mapOf map
        other arrays inner mk close last more _ _ _ h,
      fun h => @Grammar.Fields.rec b MI MU MC MF paren scalar arrayOf array structOf struct mapOf map other
        arrays inner mk close last more _ _ _ _ h⟩)
    ?paren ?scalar ?arrayOf ?array ?structOf ?struct ?mapOf ?map ?other ?arrays ?inner ?mk ?close ?last ?more
  case paren =>
    rintro ts rest fs hb - ⟨n, hn⟩
    refine ⟨n + 1, fun m => ?_⟩
    rw [Nat.add_right_comm, parseInner, run_next_bind]
    simp only [hb, ite_true, run_bind_eq_ok, run_pure_eq_ok]
    exact ⟨_, _, hn m [], by simp, rfl⟩
  case scalar =>
    intro w k ts rest t hk hs
    exact ⟨1, fun m => by rw [Nat.add_comm, parseInner, run_next_bind]; exact parseWord_complete hk hs⟩
  case arrayOf =>
    rintro w ts rest t hk - ⟨n, hn⟩
    exact ⟨n + 1, fun m => by rw [Nat.add_right_comm, parseInner, run_next_bind]; exact parseWord_arrayOf hk (hn m)⟩
  case array =>
    intro w ts hk hh
    exact ⟨1, fun m => by
      rw [Nat.add_comm, parseInner, run_next_bind]; exact parseWord_complete_noAngle hk hh (.inl ⟨rfl, rfl⟩)⟩
  case structOf =>
    rintro w ts rest fs hk - ⟨n, hn⟩
    exact ⟨n + 1, fun m => by
      rw [Nat.add_right_comm, parseInner, run_next_bind]; exact parseWord_structOf hk (by simpa using hn m [])⟩
  case struct =>
    intro w ts hk hh
    exact ⟨1, fun m => by
      rw [Nat.add_comm, parseInner, run_next_bind]
      exact parseWord_complete_noAngle hk hh (.inr (.inl ⟨rfl, rfl⟩))⟩
  case mapOf =>
    rintro w ts ts₁ rest k v hk - - ⟨n₁, h₁⟩ ⟨n₂, h₂⟩
    refine ⟨n₁ + n₂ + 1, fun m => ?_⟩
    rw [Nat.add_right_comm, parseInner, run_next_bind]
    refine parseWord_mapOf hk (by simpa only [Nat.add_assoc] using h₁ (n₂ + m)) ?_
    rw [show n₁ + n₂ + m = n₂ + (n₁ + m) by omega]
    exact h₂ _
  case map =>
    intro w ts hk hh
    exact ⟨1, fun m => by
      rw [Nat.add_comm, parseInner, run_next_bind]
      exact parseWord_complete_noAngle hk hh (.inr (.inr ⟨rfl, rfl⟩))⟩
  case other =>
    intro w captured rest hk hc hr
    exact ⟨1, fun m => by rw [Nat.add_comm, parseInner, run_next_bind]; exact parseWord_complete_other hk hc hr⟩
  case arrays =>
    rintro ts ts₁ rest t t' hb - hp ⟨n, hn⟩
    refine ⟨n + 1, fun m => ?_⟩
    rw [Nat.add_right_comm, parseUnconstrainedType, run_bind_eq_ok]
    exact ⟨_, _, hn m, by simpa [hb] using run_postfixArrays_iff.mpr hp⟩
  case inner =>
    rintro ts rest t hb - ⟨n, hn⟩
    refine ⟨n + 1, fun m => ?_⟩
    rw [Nat.add_right_comm, parseUnconstrainedType, run_bind_eq_ok]
    exact ⟨_, _, hn m, by simp [hb]⟩
  case mk =>
    rintro ts ts₁ rest t nl - hnl ⟨n, hn⟩
    refine ⟨n + 1, fun m => ?_⟩
    rw [Nat.add_right_comm, parseConstrainedType, run_bind_eq_ok]
    refine ⟨_, _, hn m, ?_⟩
    simp only [run_bind_eq_ok, run_nullable_iff, run_pure_eq_ok]
    exact ⟨_, _, hnl, rfl, rfl⟩
  case close =>
    intro term t ts ht
    exact ⟨1, fun m acc => by rw [Nat.add_comm, structFields, run_next_bind]; simp [ht]⟩
  case last =>
    rintro term t w name ts rest ty nl hw hname - hne ht ⟨n, hn⟩
    refine ⟨n + 1, fun m acc => ?_⟩
    rw [Nat.add_right_comm, structFields, run_next_bind]
    simp only [hw, Bool.false_eq_true, ite_false, hname, run_bind_eq_ok]
    refine ⟨_, _, hn m, ?_⟩
    refine ⟨_, _, rfl, ?_⟩
    split
    · exact absurd rfl hne
    · simp [ht]
  case more =>
    rintro term w name ts ts₁ rest ty nl fs hw hname - - ⟨n₁, h₁⟩ ⟨n₂, h₂⟩
    refine ⟨n₁ + n₂ + 1, fun m acc => ?_⟩
    rw [Nat.add_right_comm, structFields, run_next_bind]
    simp only [hw, Bool.false_eq_true, ite_false, hname, run_bind_eq_ok]
    refine ⟨_, _, by simpa only [Nat.add_assoc] using h₁ (n₂ + m), ?_⟩
    refine ⟨_, _, rfl, ?_⟩
    rw [show n₁ + n₂ + m = n₂ + (n₁ + m) by omega]
    simpa using h₂ (n₁ + m) (acc ++ [(name, ty, nl.getD true)])

end Parser

/-! ## `SqlType::parse` and the grammar -/

/-- `Parser::parse`, run with the fuel `SqlType.parse` gives it, returns a type
and its nullability exactly when the grammar derives them. -/
theorem run_parse_fuelFor_iff {b : Backend} {ts : List Token} {t : SqlType} {nullable : Bool} :
    (∃ rest, (Parser.parse (fuelFor ts) b).run ts = .ok ((t, nullable), rest)) ↔
      ∃ nl rest, Grammar.Constrained b ts (t, nl) rest ∧ nl.getD true = nullable := by
  simp only [Parser.parse, Parser.run_bind_eq_ok, Parser.run_pure_eq_ok]
  constructor
  · rintro ⟨rest, ⟨t', nl⟩, _, h, ⟨⟨rfl, rfl⟩, rfl⟩⟩
    exact ⟨nl, _, (Parser.sound_fuel b _).2.2.1 h, rfl⟩
  · rintro ⟨nl, rest, h, rfl⟩
    obtain ⟨n, hn⟩ := (Parser.complete b).2.2.1 h
    have hok : (Parser.parse (fuelFor ts + n) b).run ts = .ok ((t, nl.getD true), rest) := by
      simp only [Parser.parse, Parser.run_bind_eq_ok, Parser.run_pure_eq_ok]
      exact ⟨_, _, by rw [Nat.add_comm]; exact hn _, rfl, rfl⟩
    rw [Parser.run_parse_fuelFor_add] at hok
    simp only [Parser.parse, Parser.run_bind_eq_ok, Parser.run_pure_eq_ok] at hok
    exact ⟨rest, hok⟩

theorem parse_eq_ok_iff_run {b : Backend} {s : String} {t : SqlType} {nullable : Bool} :
    SqlType.parse b s = .ok (t, nullable) ↔
      ∃ rest, (Parser.parse (fuelFor (tokenize s)) b).run (tokenize s) = .ok ((t, nullable), rest) := by
  rw [SqlType.parse]
  split <;> simp_all

/-- `SqlType::parse` accepts exactly the grammar of spec §4.3 as the code reads
it: it returns a type and its nullability when the tokens of the input begin
with a type of the grammar and its optional nullability, whatever tokens follow
them. -/
theorem parse_iff_grammar (b : Backend) (s : String) (t : SqlType) (nullable : Bool) :
    SqlType.parse b s = .ok (t, nullable) ↔
      ∃ nl rest, Grammar.Constrained b (tokenize s) (t, nl) rest ∧ nl.getD true = nullable := by
  rw [parse_eq_ok_iff_run, run_parse_fuelFor_iff]

/-- Where the parser and the text of spec §4.3 part: `INT )` is accepted with
its `)` unread; a field list that ends with a comma is accepted; and the
decorative precision of a `DAY` field, which the spec consumes, is left unread:
inside `ARRAY<..>` it is rejected, and before `TO SECOND` it ends the qualifier
at `DAY`. An interval precision is read as a `u8`, so `INTERVAL(256)`, which
§4.3.1 maps to nanoseconds, fails with a `ParseIntError`. -/
theorem parse_grammar_deviations :
    SqlType.parse .postgres "INT )" = .ok (.integer, true) ∧
    SqlType.parse .snowflake "STRUCT<a INT,>" = .ok (.struct (some [(.plain "a", .integer, true)]), true) ∧
    SqlType.parse .snowflake "ARRAY<INTERVAL DAY(3)>" =
      .error "Failed to parse SQL type 'ARRAY<INTERVAL DAY(3)>': unexpected token: (" ∧
    SqlType.parse .snowflake "INTERVAL DAY(3) TO SECOND" = .ok (.interval (some (.day, none)), true) ∧
    SqlType.parse .postgres "INTERVAL(256)" =
      .error "Failed to parse SQL type 'INTERVAL(256)': number too large to fit in target type" :=
  ⟨rfl, rfl, rfl, rfl, rfl⟩

end DbtXdbc
