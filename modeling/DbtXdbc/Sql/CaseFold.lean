import DbtXdbc.Sql.Grammar

/-!
# Letter case outside quoted words

Spec §8 asks that keywords be matched ignoring ASCII case. This module says what
it is for two inputs to differ only in the case of the letters outside quoted
words, at each level the parser sees:

* `foldCase s`: the input with every ASCII letter outside a quoted word
  upper-cased, where a character is inside a quoted word when the tokenizer
  reads it so (`Lex.inQuotes`); two inputs differ only in that case exactly
  when their `foldCase`s are equal;
* `Token.foldCase`: a word that does not open with a quote, upper-cased;
* `SqlType.foldCase`: a type with the text of each `Other` and of each plain
  field name upper-cased.

The main results:

* `tokenize_foldCase`: the tokens of `foldCase s` are those of `s`, folded;
* `Token.beq_foldCase`, `Keyword.ofWord?_foldWord`, `Grammar.field?_foldCase`,
  `u8FromStr_foldWord` and its siblings: each test the parser makes of a token
  gives the same answer on the token folded;
* `word2ident_foldWord`, `asciiUpper_display_foldCase`: the identifier and the
  text it reads from a token are the same up to folding.
-/

namespace DbtXdbc

/-! ## Characters -/

theorem toNat_ofNat_of_lt {n : Nat} (h : n < 55296) : (Char.ofNat n).toNat = n := by
  rw [Char.ofNat, dif_pos (Or.inl h)]
  simp [Char.ofNatAux, Char.toNat, UInt32.toNat]

theorem toUpper_of_lower {c : Char} (h : 97 ≤ c.toNat ∧ c.toNat ≤ 122) :
    c.toUpper.toNat = c.toNat - 32 := by
  simp only [Char.toUpper, ge_iff_le, if_pos h]
  exact toNat_ofNat_of_lt (by omega)

theorem toUpper_of_not_lower {c : Char} (h : ¬(97 ≤ c.toNat ∧ c.toNat ≤ 122)) : c.toUpper = c := by
  simp only [Char.toUpper, ge_iff_le, if_neg h]

theorem toUpper_toUpper (c : Char) : c.toUpper.toUpper = c.toUpper := by
  by_cases h : 97 ≤ c.toNat ∧ c.toNat ≤ 122
  · exact toUpper_of_not_lower (by rw [toUpper_of_lower h]; omega)
  · rw [toUpper_of_not_lower h, toUpper_of_not_lower h]

theorem toLower_toUpper (c : Char) : c.toUpper.toLower = c.toLower := by
  by_cases h : 97 ≤ c.toNat ∧ c.toNat ≤ 122
  · have hu := toUpper_of_lower h
    simp only [Char.toLower, ge_iff_le, hu]
    rw [if_pos (by omega), if_neg (by omega), Nat.sub_add_cancel (by omega), Char.ofNat_toNat]
  · rw [toUpper_of_not_lower h]

/-- An ASCII letter is not whitespace, punctuation, a quote, a digit or a sign:
nothing the tokenizer or the integer reader tests for. -/
theorem letter_class {c : Char} (h : 65 ≤ c.toNat ∧ c.toNat ≤ 90 ∨ 97 ≤ c.toNat ∧ c.toNat ≤ 122) :
    c.isWhitespace = false ∧ punct? c = none ∧ isQuote c = false ∧ digitValue? c = none ∧
      c ≠ '+' ∧ c ≠ '-' := by
  have table : ∀ n < 123, (65 ≤ n ∧ n ≤ 90 ∨ 97 ≤ n ∧ n ≤ 122) →
      (Char.ofNat n).isWhitespace = false ∧ punct? (Char.ofNat n) = none ∧
        isQuote (Char.ofNat n) = false ∧ digitValue? (Char.ofNat n) = none ∧
        Char.ofNat n ≠ '+' ∧ Char.ofNat n ≠ '-' := by decide
  rw [← Char.ofNat_toNat c]
  exact table _ (by omega) h

/-- So upper-casing a character changes none of these. -/
theorem class_toUpper (c : Char) :
    c.toUpper.isWhitespace = c.isWhitespace ∧ punct? c.toUpper = punct? c ∧
      isQuote c.toUpper = isQuote c ∧ digitValue? c.toUpper = digitValue? c ∧
      (c.toUpper = '+' ↔ c = '+') ∧ (c.toUpper = '-' ↔ c = '-') := by
  by_cases h : 97 ≤ c.toNat ∧ c.toNat ≤ 122
  · have hu := toUpper_of_lower h
    obtain ⟨u₁, u₂, u₃, u₄, u₅, u₆⟩ := @letter_class c.toUpper (by omega)
    obtain ⟨l₁, l₂, l₃, l₄, l₅, l₆⟩ := letter_class (.inr h)
    exact ⟨u₁.trans l₁.symm, u₂.trans l₂.symm, u₃.trans l₃.symm, u₄.trans l₄.symm,
      iff_of_false u₅ l₅, iff_of_false u₆ l₆⟩
  · simp only [toUpper_of_not_lower h, iff_self, and_self]

theorem toUpper_of_isQuote {c : Char} (h : isQuote c = true) : c.toUpper = c :=
  toUpper_of_not_lower fun hl => by simp [(letter_class (.inr hl)).2.2.1] at h

/-! ## Words and tokens -/

/-- `str::to_ascii_uppercase`. -/
def asciiUpper (s : String) : String := ⟨s.data.map Char.toUpper⟩

/-- Whether a word opens with a quote, as `word2ident` tests it. -/
def quoted (w : String) : Bool := w.data.head?.any isQuote

/-- A word with its case folded: upper-cased, unless it opens with a quote. -/
def foldWord (w : String) : String := if quoted w then w else asciiUpper w

/-- A token with its case folded. -/
def Token.foldCase : Token → Token
  | .word w => .word (foldWord w)
  | t => t

/-- An identifier with its case folded: a plain one upper-cased. -/
def Ident.foldCase : Ident → Ident
  | .plain s => .plain (asciiUpper s)
  | i => i

theorem foldWord_of_isQuote {c : Char} (h : isQuote c = true) (cs : List Char) :
    foldWord ⟨c :: cs⟩ = ⟨c :: cs⟩ := if_pos h

theorem foldWord_of_not_isQuote {c : Char} (h : isQuote c = false) (cs : List Char) :
    foldWord ⟨c :: cs⟩ = ⟨(c :: cs).map Char.toUpper⟩ := if_neg (by simp [quoted, h])

theorem asciiUpper_append (a b : String) : asciiUpper (a ++ b) = asciiUpper a ++ asciiUpper b :=
  String.ext (List.map_append _ _ _)

theorem asciiUpper_asciiUpper (s : String) : asciiUpper (asciiUpper s) = asciiUpper s := by
  simp only [asciiUpper, List.map_map, Function.comp_def, toUpper_toUpper]

theorem asciiUpper_foldWord (w : String) : asciiUpper (foldWord w) = asciiUpper w := by
  unfold foldWord
  split
  · rfl
  · exact asciiUpper_asciiUpper w

theorem eqi_foldWord (a b : String) : eqi (foldWord a) b = eqi a b := by
  unfold foldWord
  split
  · rfl
  · simp only [eqi, asciiUpper, List.map_map, Function.comp_def, toLower_toUpper]

theorem Token.beq_foldCase (t pat : Token) : t.foldCase.beq pat = t.beq pat := by
  cases t with
  | word w =>
    cases pat with
    | word p => exact eqi_foldWord w p
    | _ => rfl
  | _ => rfl

/-- Two tokens the same up to case are equal to the same tokens. -/
theorem Token.beq_congr {t t' : Token} (h : t.foldCase = t'.foldCase) (pat : Token) :
    t.beq pat = t'.beq pat := by
  rw [← beq_foldCase, h, beq_foldCase]

theorem Keyword.ofWord?_foldWord (w : String) : Keyword.ofWord? (foldWord w) = Keyword.ofWord? w := by
  simp only [Keyword.ofWord?, eqi_foldWord]

theorem DateTimeField.ofWord?_foldWord (w : String) :
    DateTimeField.ofWord? (foldWord w) = DateTimeField.ofWord? w := by
  simp only [DateTimeField.ofWord?, eqi_foldWord]

theorem Grammar.field?_foldCase (t : Token) : Grammar.field? t.foldCase = Grammar.field? t := by
  cases t with
  | word w => exact DateTimeField.ofWord?_foldWord w
  | _ => rfl

theorem Grammar.endsOther_foldCase (t : Token) : Grammar.endsOther t.foldCase = Grammar.endsOther t := by
  simp only [Grammar.endsOther, Token.beq_foldCase]

theorem asciiUpper_display_foldCase (t : Token) : asciiUpper t.foldCase.display = asciiUpper t.display := by
  cases t with
  | word w => exact asciiUpper_foldWord w
  | _ => rfl

/-! ## Integers -/

theorem digitsLoop_map_toUpper (neg : Bool) (lo hi acc : Int) (cs : List Char) :
    digitsLoop neg lo hi acc (cs.map Char.toUpper) = digitsLoop neg lo hi acc cs := by
  induction cs generalizing acc with
  | nil => rfl
  | cons c cs ih => simp only [List.map_cons, digitsLoop, (class_toUpper c).2.2.2.1, ih]

theorem fromStrRadix_cons (signed : Bool) (lo hi : Int) (c : Char) (rest : List Char) :
    fromStrRadix signed lo hi (c :: rest) =
      if (c = '+' ∨ c = '-') ∧ rest = [] then .error .invalidDigit
      else if c = '+' then digitsLoop false lo hi 0 rest
      else if c = '-' ∧ signed then digitsLoop true lo hi 0 rest
      else digitsLoop false lo hi 0 (c :: rest) := by
  unfold fromStrRadix
  split <;> simp_all

theorem fromStrRadix_map_toUpper (signed : Bool) (lo hi : Int) (cs : List Char) :
    fromStrRadix signed lo hi (cs.map Char.toUpper) = fromStrRadix signed lo hi cs := by
  cases cs with
  | nil => rfl
  | cons c rest =>
    have hc := class_toUpper c
    rw [List.map_cons, fromStrRadix_cons, fromStrRadix_cons, ← List.map_cons]
    simp only [hc.2.2.2.2.1, hc.2.2.2.2.2, List.map_eq_nil_iff, digitsLoop_map_toUpper]

theorem fromStrRadix_foldWord (signed : Bool) (lo hi : Int) (w : String) :
    fromStrRadix signed lo hi (foldWord w).data = fromStrRadix signed lo hi w.data := by
  unfold foldWord
  split
  · rfl
  · exact fromStrRadix_map_toUpper _ _ _ w.data

theorem u8FromStr_foldWord (w : String) : u8FromStr (foldWord w) = u8FromStr w := by
  simp only [u8FromStr, fromStrRadix_foldWord]

theorem i8FromStr_foldWord (w : String) : i8FromStr (foldWord w) = i8FromStr w := by
  simp only [i8FromStr, fromStrRadix_foldWord]

theorem usizeFromStr_foldWord (w : String) : usizeFromStr (foldWord w) = usizeFromStr w := by
  simp only [usizeFromStr, fromStrRadix_foldWord]

/-! ## Identifiers -/

theorem Quote.ofChar_eq_none {c : Char} : Quote.ofChar? c = none ↔ isQuote c = false := by
  unfold Quote.ofChar? isQuote
  split_ifs <;> simp_all

theorem word2ident_foldWord (w : String) (b : Backend) :
    word2ident (foldWord w) b = (word2ident w b).map Ident.foldCase := by
  rcases w with ⟨_ | ⟨c, rest⟩⟩
  · rfl
  unfold foldWord
  split
  · simp only [word2ident]
    split
    · simp_all [quoted, Quote.ofChar_eq_none]
    · split <;> rfl
  · rename_i h
    have hq : isQuote c = false := by simpa [quoted] using h
    have hc : Quote.ofChar? c.toUpper = none := by rw [Quote.ofChar_eq_none, (class_toUpper c).2.2.1, hq]
    simp only [word2ident, asciiUpper, List.map_cons, hc, Quote.ofChar_eq_none.mpr hq]
    rfl

/-! ## The tokenizer -/

namespace Lex

/-- Whether the character `c`, read in state `st`, belongs to a quoted word:
everything after the opening quote, up to and with the quote that closes it. -/
def inQuotes : Lex → Char → Bool
  | .quoted _ _, _ => true
  | .closing q _, c => c = q
  | _, _ => false

/-- The state with the characters of a plain word read so far upper-cased. -/
def foldCase : Lex → Lex
  | .word acc => .word (acc.map Char.toUpper)
  | st => st

/-- The states the tokenizer reaches: a plain word opens with a character that
is not a quote, and a quoted word opens with its quote. -/
def Valid : Lex → Prop
  | .start => True
  | .word acc => ∃ c cs, acc = c :: cs ∧ isQuote c = false
  | .quoted q acc | .closing q acc => isQuote q = true ∧ ∃ cs, acc = q :: cs

theorem valid_startAt (c : Char) : (startAt c).2.Valid := by
  unfold startAt
  split
  · trivial
  · split
    · trivial
    · split
      · exact ⟨‹_›, _, rfl⟩
      · exact ⟨c, [], rfl, by simpa using ‹¬isQuote c = true›⟩

theorem valid_step {st : Lex} (h : st.Valid) (c : Char) : (st.step c).2.Valid := by
  cases st with
  | start => exact valid_startAt c
  | word acc =>
    obtain ⟨d, ds, rfl, hd⟩ := h
    simp only [step]
    split
    · exact valid_startAt c
    · exact ⟨d, ds ++ [c], rfl, hd⟩
  | quoted q acc =>
    obtain ⟨hq, cs, rfl⟩ := h
    simp only [step]
    split <;> exact ⟨hq, cs ++ [c], rfl⟩
  | closing q acc =>
    obtain ⟨hq, cs, rfl⟩ := h
    simp only [step]
    split
    · exact ⟨hq, cs ++ [c], rfl⟩
    · exact valid_startAt c

theorem foldCase_punct {c : Char} {t : Token} (h : punct? c = some t) : t.foldCase = t := by
  unfold punct? at h
  split at h <;> cases h <;> rfl

/-- Between tokens the tokenizer does not see the case of what it reads. -/
theorem startAt_toUpper (c : Char) :
    startAt c.toUpper = ((startAt c).1.map Token.foldCase, (startAt c).2.foldCase) := by
  have hc := class_toUpper c
  unfold startAt
  rw [hc.1, hc.2.1, hc.2.2.1]
  split
  · rfl
  · split
    · exact Prod.ext (by simp [foldCase_punct ‹_›]) rfl
    · split
      · rw [toUpper_of_isQuote ‹_›]; rfl
      · rfl

/-- One step of the tokenizer on the folded input: the tokens it completes, and
the state it reaches, are those of the input, folded. -/
theorem step_foldCase {st : Lex} (h : st.Valid) (c : Char) :
    st.foldCase.step (if st.inQuotes c then c else c.toUpper) =
      ((st.step c).1.map Token.foldCase, (st.step c).2.foldCase) := by
  cases st with
  | start => exact startAt_toUpper c
  | word acc =>
    obtain ⟨d, ds, rfl, hd⟩ := h
    have hc := class_toUpper c
    simp only [foldCase, inQuotes, Bool.false_eq_true, if_false, step, hc.1, hc.2.1]
    split
    · simp [startAt_toUpper, foldCase, Token.foldCase, foldWord_of_not_isQuote hd]
    · simp [foldCase]
  | quoted q acc =>
    simp only [foldCase, inQuotes, if_true, step]
    split <;> rfl
  | closing q acc =>
    obtain ⟨hq, cs, rfl⟩ := h
    simp only [foldCase, inQuotes, step]
    by_cases hcq : c = q
    · simp [hcq]
    · have hu : c.toUpper ≠ q := fun e => by
        have hc : isQuote c = true := by rw [← (class_toUpper c).2.2.1, e, hq]
        exact hcq (by rw [← e, toUpper_of_isQuote hc])
      simp [hcq, hu, startAt_toUpper, foldCase, Token.foldCase, foldWord_of_isQuote hq]

theorem flush_foldCase {st : Lex} (h : st.Valid) : st.foldCase.flush = st.flush.map Token.foldCase := by
  cases st with
  | start => rfl
  | word acc =>
    obtain ⟨d, ds, rfl, hd⟩ := h
    simp [foldCase, flush, Token.foldCase, foldWord_of_not_isQuote hd]
  | quoted q acc | closing q acc =>
    obtain ⟨hq, cs, rfl⟩ := h
    simp [foldCase, flush, Token.foldCase, foldWord_of_isQuote hq]

end Lex

/-- The characters `cs`, read from state `st`, with each ASCII letter outside a
quoted word upper-cased. -/
def foldFrom : Lex → List Char → List Char
  | _, [] => []
  | st, c :: cs => (if st.inQuotes c then c else c.toUpper) :: foldFrom (st.step c).2 cs

/-- The input with each ASCII letter outside a quoted word upper-cased. Two
inputs differ only in the case of letters outside quoted words exactly when
their folds are equal. -/
def foldCase (s : String) : String := ⟨foldFrom .start s.data⟩

theorem lexFrom_foldFrom {st : Lex} (h : st.Valid) (cs : List Char) :
    lexFrom st.foldCase (foldFrom st cs) = (lexFrom st cs).map Token.foldCase := by
  induction cs generalizing st with
  | nil => exact Lex.flush_foldCase h
  | cons c cs ih =>
    simp only [foldFrom, lexFrom, Lex.step_foldCase h, ih (Lex.valid_step h c), List.map_append]

/-- The tokens of the folded input are those of the input, folded. -/
theorem tokenize_foldCase (s : String) : tokenize (foldCase s) = (tokenize s).map Token.foldCase :=
  @lexFrom_foldFrom .start trivial s.data

example : foldCase "varchar(3) \"Ab\"x,y" = "VARCHAR(3) \"Ab\"X,Y" := by decide

/-! ## Types -/

mutual

/-- A type with the text of each `Other` and of each plain field name
upper-cased. -/
def SqlType.foldCase : SqlType → SqlType
  | .array (some t) => .array (some (SqlType.foldCase t))
  | .struct (some fields) => .struct (some (SqlType.foldFields fields))
  | .map (some (k, v)) => .map (some (SqlType.foldCase k, SqlType.foldCase v))
  | .other s => .other (asciiUpper s)
  | t => t

/-- `SqlType.foldCase` on each field of a struct, with its name. -/
def SqlType.foldFields : List (Ident × SqlType × Bool) → List (Ident × SqlType × Bool)
  | [] => []
  | (name, t, nullable) :: fields => (name.foldCase, SqlType.foldCase t, nullable) :: SqlType.foldFields fields

end

end DbtXdbc
