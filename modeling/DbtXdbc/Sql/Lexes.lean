import DbtXdbc.Sql.CaseFold

/-!
# Tokenizing a text piece by piece

The renderer builds a type string by concatenation, and reading it back starts
with the tokenizer. This module says when the tokens of a concatenation are
those of its pieces. `Lex.run` reads characters from a state, and returns the
tokens they complete and the state they leave; `Lexes s ts` says that `s`
tokenizes as `ts` and leaves the tokenizer outside any quoted word.

* `Lexes.append`: two texts tokenize apart when the second opens with a
  separator (whitespace or punctuation), which ends whatever the first left
  unfinished; `Lexes.append_of_start`: and when the first ends between tokens;
* `lexes_plainWord`, `lexes_wrap`: a word with no separator that does not
  open with a quote, and a text in a quote with that quote doubled inside, as
  `Ident.display` renders a quoted identifier, are one token each; so are the numerals the renderer writes
  (`isPlainWord_toString`).
-/

namespace DbtXdbc

namespace Lex

/-- Reading the characters `cs` from `st`: the tokens they complete, and the
state they leave. -/
def run : Lex → List Char → List Token × Lex
  | st, [] => ([], st)
  | st, c :: cs => ((st.step c).1 ++ (run (st.step c).2 cs).1, (run (st.step c).2 cs).2)

@[simp] theorem run_nil (st : Lex) : run st [] = ([], st) := rfl

@[simp] theorem run_cons (st : Lex) (c : Char) (cs : List Char) :
    run st (c :: cs) = ((st.step c).1 ++ (run (st.step c).2 cs).1, (run (st.step c).2 cs).2) := rfl

theorem lexFrom_eq_run (st : Lex) (cs : List Char) :
    lexFrom st cs = (run st cs).1 ++ (run st cs).2.flush := by
  induction cs generalizing st with
  | nil => rfl
  | cons c cs ih => rw [lexFrom, ih, run, List.append_assoc]

theorem run_append (st : Lex) (as bs : List Char) :
    run st (as ++ bs) = ((run st as).1 ++ (run (run st as).2 bs).1, (run (run st as).2 bs).2) := by
  induction as generalizing st with
  | nil => rfl
  | cons c cs ih => simp only [List.cons_append, run_cons, ih, List.append_assoc]

theorem valid_run {st : Lex} (h : st.Valid) (cs : List Char) : (run st cs).2.Valid := by
  induction cs generalizing st with
  | nil => exact h
  | cons c cs ih => exact ih (valid_step h c)

/-- Whether the tokenizer is inside a quoted word that no quote has closed. -/
def isOpen : Lex → Bool
  | .quoted _ _ => true
  | _ => false

end Lex

/-- Whitespace or punctuation: a character that ends a plain word. -/
def sep (c : Char) : Bool := c.isWhitespace || (punct? c).isSome

theorem isQuote_of_sep {c : Char} (h : sep c = true) : isQuote c = false := by
  cases hq : isQuote c
  · rfl
  · simp only [isQuote, Bool.or_eq_true, decide_eq_true_eq] at hq
    rcases hq with (rfl | rfl) | rfl <;> revert h <;> decide

namespace Lex

theorem startAt_of_word {c : Char} (hs : sep c = false) (hq : isQuote c = false) :
    startAt c = ([], .word [c]) := by
  obtain ⟨hw, hp⟩ := Bool.or_eq_false_iff.mp hs
  cases hpc : punct? c with
  | none => simp [startAt, hw, hpc, hq]
  | some t => rw [hpc] at hp; cases hp

theorem startAt_of_isQuote {c : Char} (hq : isQuote c = true) : startAt c = ([], .quoted c [c]) := by
  have hw : c.isWhitespace = false ∧ punct? c = none := by
    simp only [isQuote, Bool.or_eq_true, decide_eq_true_eq] at hq
    rcases hq with (rfl | rfl) | rfl <;> decide
  simp [startAt, hw.1, hw.2, hq]

/-- A separator read outside a quoted word ends the token being read, and is
then read as between tokens. -/
theorem step_sep {st : Lex} (hv : st.Valid) (ho : st.isOpen = false) {c : Char} (hc : sep c = true) :
    st.step c = (st.flush ++ (startAt c).1, (startAt c).2) := by
  cases st with
  | start => rfl
  | word acc =>
    have hc' : (c.isWhitespace || (punct? c).isSome) = true := hc
    simp only [step, hc', if_true, flush, List.singleton_append]
  | quoted q acc => cases ho
  | closing q acc =>
    have hcq : c ≠ q := fun e => by
      have h := isQuote_of_sep hc
      rw [e, hv.1] at h
      cases h
    simp only [step, if_neg hcq, flush, List.singleton_append]

theorem run_sep {st : Lex} (hv : st.Valid) (ho : st.isOpen = false) {c : Char} (hc : sep c = true)
    (cs : List Char) :
    run st (c :: cs) = (st.flush ++ (run .start (c :: cs)).1, (run .start (c :: cs)).2) := by
  simp only [run_cons, step_sep hv ho hc, List.append_assoc]
  rfl

theorem run_word (acc cs : List Char) (h : ∀ c ∈ cs, sep c = false) :
    run (.word acc) cs = ([], .word (acc ++ cs)) := by
  induction cs generalizing acc with
  | nil => simp
  | cons c cs ih =>
    have hc : (c.isWhitespace || (punct? c).isSome) = false := h c (List.mem_cons_self c cs)
    simp only [run_cons, step, hc, Bool.false_eq_true, if_false, List.nil_append]
    rw [ih _ fun d hd => h d (List.mem_cons_of_mem c hd), List.append_assoc, List.singleton_append]

theorem run_doubleQuotes (q : Char) (acc s : List Char) :
    run (.quoted q acc) (doubleQuotes q s) = ([], .quoted q (acc ++ doubleQuotes q s)) := by
  induction s generalizing acc with
  | nil => simp
  | cons c s ih =>
    rw [doubleQuotes_cons]
    split
    · simp only [List.cons_append, List.nil_append, run_cons, step, if_true, ih, List.append_assoc,
        List.singleton_append]
    · simp only [List.cons_append, List.nil_append, run_cons, step, if_neg ‹c ≠ q›, ih,
        List.append_assoc, List.singleton_append]

end Lex

/-! ## Texts and their tokens -/

/-- The text `s` tokenizes as `ts`, and leaves the tokenizer outside any quoted
word: a text after it that opens with a separator is then tokenized on its own. -/
structure Lexes (s : String) (ts : List Token) : Prop where
  tokens : (Lex.run .start s.data).1 ++ (Lex.run .start s.data).2.flush = ts
  closed : (Lex.run .start s.data).2.isOpen = false

instance (s : String) (ts : List Token) : Decidable (Lexes s ts) :=
  decidable_of_iff (_ ∧ _) ⟨fun h => ⟨h.1, h.2⟩, fun h => ⟨h.1, h.2⟩⟩

theorem Lexes.tokenize_eq {s : String} {ts : List Token} (h : Lexes s ts) : tokenize s = ts := by
  rw [tokenize, Lex.lexFrom_eq_run, h.tokens]

/-- A text that ends between tokens. -/
theorem Lexes.of_run {s : String} {ts : List Token} (h : Lex.run .start s.data = (ts, .start)) :
    Lexes s ts :=
  ⟨by rw [h]; exact List.append_nil ts, by rw [h]; rfl⟩

/-- Whether a text is empty or opens with a separator. -/
def opensWithSep (s : String) : Bool := s.data.head?.all sep

theorem run_append_sep {a : String} {c : Char} (ho : (Lex.run .start a.data).2.isOpen = false)
    (hc : sep c = true) (cs : List Char) :
    Lex.run .start (a.data ++ c :: cs) =
      ((Lex.run .start a.data).1 ++ (Lex.run .start a.data).2.flush ++ (Lex.run .start (c :: cs)).1,
        (Lex.run .start (c :: cs)).2) := by
  rw [Lex.run_append, Lex.run_sep (@Lex.valid_run .start trivial a.data) ho hc, List.append_assoc]

/-- Two texts tokenize apart when the second opens with a separator. -/
theorem Lexes.append {a b : String} {ta tb : List Token} (ha : Lexes a ta) (hb : Lexes b tb)
    (hs : opensWithSep b = true) : Lexes (a ++ b) (ta ++ tb) := by
  obtain ⟨_ | ⟨c, cs⟩⟩ := b
  · obtain rfl : [] = tb := hb.tokens
    show Lexes (a ++ "") (ta ++ [])
    rw [String.append_empty, List.append_nil]
    exact ha
  · have e := run_append_sep ha.closed hs cs
    exact ⟨by rw [String.data_append, e, ← ha.tokens, ← hb.tokens, List.append_assoc, List.append_assoc],
      by rw [String.data_append, e]; exact hb.closed⟩

/-- Two texts tokenize apart when the first ends between tokens. -/
theorem Lexes.append_of_start {a b : String} {ta tb : List Token} (ha : Lex.run .start a.data = (ta, .start))
    (hb : Lexes b tb) : Lexes (a ++ b) (ta ++ tb) := by
  have e : Lex.run .start (a ++ b).data = (ta ++ (Lex.run .start b.data).1, (Lex.run .start b.data).2) := by
    rw [String.data_append, Lex.run_append, ha]
  exact ⟨by rw [e, List.append_assoc, hb.tokens], by rw [e]; exact hb.closed⟩

/-- A text that opens with a separator and ends between tokens, after one that
leaves the tokenizer outside a quoted word. -/
theorem Lexes.run_append {a b : String} {ta tb : List Token} (ha : Lexes a ta)
    (hb : Lex.run .start b.data = (tb, .start)) (hs : opensWithSep b = true) (hne : b ≠ "") :
    Lex.run .start (a ++ b).data = (ta ++ tb, .start) := by
  obtain ⟨_ | ⟨c, cs⟩⟩ := b
  · exact absurd rfl hne
  · rw [String.data_append, run_append_sep ha.closed hs cs, hb, ha.tokens]

/-! ## Words -/

/-- A word that does not open with a quote and holds no separator: the
tokenizer reads it as one plain word. -/
def IsPlainWord (w : String) : Prop :=
  (w.data.head?.any fun c => !isQuote c) = true ∧ ∀ c ∈ w.data, sep c = false

instance (w : String) : Decidable (IsPlainWord w) := by
  unfold IsPlainWord
  infer_instance

theorem lexes_plainWord {w : String} (h : IsPlainWord w) : Lexes w [.word w] := by
  obtain ⟨hq, hs⟩ := h
  obtain ⟨_ | ⟨c, cs⟩⟩ := w
  · cases hq
  · have hc : isQuote c = false := by simpa using hq
    have e : Lex.run .start (c :: cs) = ([], .word (c :: cs)) := by
      rw [Lex.run_cons, Lex.step, Lex.startAt_of_word (hs c (List.mem_cons_self c cs)) hc,
        Lex.run_word _ _ fun d hd => hs d (List.mem_cons_of_mem c hd)]
      rfl
    exact ⟨by rw [e]; rfl, by rw [e]; rfl⟩

theorem mem_toDigits {n : Nat} {c : Char} (h : c ∈ Nat.toDigits 10 n) : ∃ k < 10, c = Nat.digitChar k := by
  induction n using Nat.strong_induction_on with
  | _ n ih =>
    rcases Nat.lt_or_ge n 10 with hn | hn
    · rw [toDigits_ten_of_lt hn, List.mem_singleton] at h
      exact ⟨n, hn, h⟩
    · rw [toDigits_ten_of_le hn, List.mem_append, List.mem_singleton] at h
      rcases h with h | h
      · exact ih (n / 10) (by omega) h
      · exact ⟨n % 10, Nat.mod_lt n (by decide), h⟩

theorem digitChar_class : ∀ k < 10, sep (Nat.digitChar k) = false ∧ isQuote (Nat.digitChar k) = false := by
  decide

theorem isPlainWord_toDigits (n : Nat) : IsPlainWord ⟨Nat.toDigits 10 n⟩ := by
  obtain ⟨c, ds, hc⟩ := List.exists_cons_of_ne_nil (toDigits_ne_nil n)
  have hd : ∀ d ∈ Nat.toDigits 10 n, sep d = false ∧ isQuote d = false := fun d hd => by
    obtain ⟨k, hk, rfl⟩ := mem_toDigits hd
    exact digitChar_class k hk
  refine ⟨?_, fun d h => (hd d h).1⟩
  simp only [hc, List.head?_cons, Option.any_some, Bool.not_eq_true']
  exact (hd c (by rw [hc]; exact List.mem_cons_self c ds)).2

/-- The numerals the renderer writes are plain words. -/
theorem isPlainWord_toString_u8 (p : UInt8) : IsPlainWord (toString p) := isPlainWord_toDigits _

theorem isPlainWord_toString_u64 (p : UInt64) : IsPlainWord (toString p) := isPlainWord_toDigits _

theorem isPlainWord_toString_i8 (x : I8) : IsPlainWord x.toString := by
  obtain ⟨n | n, _⟩ := x
  · exact isPlainWord_toDigits n
  · obtain ⟨hq, hs⟩ := isPlainWord_toDigits (n + 1)
    refine ⟨rfl, fun c hc => ?_⟩
    rcases List.mem_cons.mp hc with rfl | hc
    · rfl
    · exact hs c hc

/-! ## Quoted identifiers -/

/-- A text in quote `q`, with `q` doubled inside, is one quoted word. -/
theorem lexes_wrap (q : Quote) (s : String) : Lexes (q.wrap s) [.word (q.wrap s)] := by
  have hq : isQuote q.toChar = true := by cases q <;> rfl
  have e : Lex.run .start (q.wrap s).data = ([], .closing q.toChar (q.wrap s).data) := by
    simp only [Quote.wrap]
    rw [Lex.run_append, Lex.run_cons, Lex.step, Lex.startAt_of_isQuote hq, Lex.run_doubleQuotes]
    simp [Lex.step]
  exact ⟨by rw [e]; rfl, by rw [e]; rfl⟩

/-! ## What the tokenizer returns -/

namespace Lex

/-- The states the tokenizer reaches from between tokens: a plain word holds a
plain word, and a quoted word holds what leads to it, read from between tokens,
with no token completed. -/
def Sound : Lex → Prop
  | .start => True
  | .word acc => IsPlainWord ⟨acc⟩
  | .quoted q acc => run .start acc = ([], .quoted q acc)
  | .closing q acc => run .start acc = ([], .closing q acc)

end Lex

/-- A token the tokenizer completes: punctuation, a plain word, or a quoted word
that its closing quote ends. -/
def Token.Closed : Token → Prop
  | .word w => IsPlainWord w ∨ ∃ q, Lex.run .start w.data = ([], .closing q w.data)
  | _ => True

/-- A completed token reads back as itself, and leaves the tokenizer outside any
quoted word. -/
theorem Token.Closed.lexes {t : Token} (h : t.Closed) : Lexes t.display [t] := by
  cases t with
  | word w =>
    rcases h with h | ⟨q, e⟩
    · exact lexes_plainWord h
    · exact ⟨by rw [Token.display, e]; rfl, by rw [Token.display, e]; rfl⟩
  | _ => decide

/-- A completed word that does not open with a quote is a plain word. -/
theorem Token.Closed.isPlainWord {c : Char} {cs : List Char} (h : (Token.word ⟨c :: cs⟩).Closed)
    (hc : isQuote c = false) : IsPlainWord ⟨c :: cs⟩ := by
  rcases h with h | ⟨q, e⟩
  · exact h
  · have hv := @Lex.valid_run .start trivial (String.data ⟨c :: cs⟩)
    rw [e] at hv
    obtain ⟨hq, _, hcs⟩ := hv
    obtain ⟨rfl, -⟩ := List.cons.inj hcs
    rw [hq] at hc
    cases hc

theorem closed_of_punct {c : Char} {t : Token} (h : punct? c = some t) : t.Closed := by
  cases t with
  | word w => unfold punct? at h; split at h <;> cases h
  | _ => trivial

namespace Lex

theorem sound_startAt (c : Char) : (startAt c).2.Sound ∧ ∀ t ∈ (startAt c).1, t.Closed := by
  unfold startAt
  split
  · exact ⟨trivial, nofun⟩
  · split
    · exact ⟨trivial, fun t ht => by rw [List.mem_singleton.mp ht]; exact closed_of_punct ‹_›⟩
    · split
      · exact ⟨show run .start [c] = _ by rw [run_cons, step, startAt_of_isQuote ‹_›]; rfl, nofun⟩
      · refine ⟨⟨by simpa using ‹¬isQuote c = true›, fun d hd => ?_⟩, nofun⟩
        rw [List.mem_singleton.mp hd]
        simp [sep, *]

/-- A state that holds what leads to it, after one more character that completes
no token. -/
theorem run_snoc {acc : List Char} {st : Lex} (h : run .start acc = ([], st)) {c : Char}
    (hc : (st.step c).1 = []) : run .start (acc ++ [c]) = ([], (st.step c).2) := by
  rw [run_append, h, run_cons, run_nil, hc]
  rfl

/-- Each step keeps the state sound, and completes only completed tokens. -/
theorem sound_step {st : Lex} (h : st.Sound) (c : Char) :
    (st.step c).2.Sound ∧ ∀ t ∈ (st.step c).1, t.Closed := by
  cases st with
  | start => exact sound_startAt c
  | word acc =>
    simp only [step]
    split
    · refine ⟨(sound_startAt c).1, fun t ht => ?_⟩
      rcases List.mem_cons.mp ht with rfl | ht
      · exact .inl h
      · exact (sound_startAt c).2 t ht
    · refine ⟨⟨?_, fun d hd => ?_⟩, nofun⟩
      · obtain ⟨_ | _, _⟩ := acc
        · exact absurd h.1 (by decide)
        · exact h.1
      · rcases List.mem_append.mp hd with hd | hd
        · exact h.2 d hd
        · rw [List.mem_singleton.mp hd]; exact Bool.eq_false_iff.mpr ‹_›
  | quoted q acc =>
    refine ⟨?_, fun t ht => by simp only [step, List.not_mem_nil] at ht⟩
    have e := run_snoc h (c := c) rfl
    simp only [step] at e ⊢
    split <;> simp_all [Sound]
  | closing q acc =>
    simp only [step]
    split
    · exact ⟨run_snoc h (c := c) (by simp [step, *]) |>.trans (by simp [step, *]), nofun⟩
    · refine ⟨(sound_startAt c).1, fun t ht => ?_⟩
      rcases List.mem_cons.mp ht with rfl | ht
      · exact .inr ⟨q, h⟩
      · exact (sound_startAt c).2 t ht

theorem sound_run {st : Lex} (h : st.Sound) (cs : List Char) :
    (run st cs).2.Sound ∧ ∀ t ∈ (run st cs).1, t.Closed := by
  induction cs generalizing st with
  | nil => exact ⟨h, nofun⟩
  | cons c cs ih =>
    obtain ⟨h₁, h₂⟩ := sound_step h c
    refine ⟨(ih h₁).1, fun t ht => ?_⟩
    rcases List.mem_append.mp ht with ht | ht
    · exact h₂ t ht
    · exact (ih h₁).2 t ht

/-- The token left open at the end of the input reads back as itself. -/
theorem sound_flush {st : Lex} (h : st.Sound) : ∀ t ∈ st.flush, tokenize t.display = [t] := by
  cases st with
  | start => nofun
  | word acc => intro t ht; rw [List.mem_singleton.mp ht]; exact (lexes_plainWord h).tokenize_eq
  | quoted q acc | closing q acc =>
    intro t ht
    rw [List.mem_singleton.mp ht]
    show lexFrom .start acc = _
    rw [lexFrom_eq_run, h]
    rfl

theorem length_flush_le (st : Lex) : st.flush.length ≤ 1 := by
  cases st <;> simp [flush]

end Lex

/-- Tokens as the tokenizer returns them: each but the last completed, and the
last one that reads back as itself (it may be a quoted word left open). -/
def Relexes : List Token → Prop
  | [] => True
  | [t] => tokenize t.display = [t]
  | t :: u :: ts => t.Closed ∧ Relexes (u :: ts)

theorem Relexes.cons {t : Token} (ht : t.Closed) : {ts : List Token} → Relexes ts → Relexes (t :: ts)
  | [], _ => ht.lexes.tokenize_eq
  | _ :: _, h => ⟨ht, h⟩

theorem Relexes.tail {t : Token} : {ts : List Token} → Relexes (t :: ts) → Relexes ts
  | [], _ => trivial
  | _ :: _, h => h.2

theorem Relexes.closed_of_append {ts : List Token} {u : Token} {rest : List Token}
    (h : Relexes (ts ++ u :: rest)) : ∀ t ∈ ts, t.Closed := by
  induction ts with
  | nil => nofun
  | cons t ts ih =>
    obtain ⟨v, vs, e⟩ := List.exists_cons_of_ne_nil (List.append_ne_nil_of_right_ne_nil ts (List.cons_ne_nil u rest))
    rw [List.cons_append, e] at h
    intro t' ht'
    rcases List.mem_cons.mp ht' with rfl | ht'
    · exact h.1
    · exact ih (e ▸ h.2) t' ht'

/-- The tokenizer returns what `Relexes` says. -/
theorem relexes_tokenize (s : String) : Relexes (tokenize s) := by
  rw [tokenize, Lex.lexFrom_eq_run]
  obtain ⟨hs, hc⟩ := @Lex.sound_run .start trivial s.data
  have hf := Lex.sound_flush hs
  have hl := Lex.length_flush_le (Lex.run .start s.data).2
  generalize (Lex.run .start s.data).1 = ts at hc
  generalize (Lex.run .start s.data).2.flush = last at hf hl
  induction ts with
  | nil =>
    match last, hl with
    | [], _ => trivial
    | [t], _ => exact hf t (List.mem_singleton_self t)
  | cons t ts ih =>
    exact Relexes.cons (hc t (List.mem_cons_self t ts)) (ih fun t' h => hc t' (List.mem_cons_of_mem t h))

/-! ## The text of an unknown type -/

theorem opensWithSep_space (s : String) : opensWithSep (" " ++ s) = true := by
  rw [opensWithSep, String.data_append]
  rfl

theorem Lexes.space {s : String} {ts : List Token} (h : Lexes s ts) : Lexes (" " ++ s) ts :=
  Lexes.append_of_start (show Lex.run .start " ".data = ([], .start) from rfl) h

theorem Lexes.tokenize_append {a b : String} {ta : List Token} (ha : Lexes a ta) (hs : opensWithSep b = true) :
    tokenize (a ++ b) = ta ++ tokenize b := by
  obtain ⟨_ | ⟨c, cs⟩⟩ := b
  · show tokenize (a ++ "") = ta ++ []
    rw [String.append_empty, List.append_nil, ha.tokenize_eq]
  · rw [tokenize, tokenize, Lex.lexFrom_eq_run, Lex.lexFrom_eq_run, String.data_append,
      run_append_sep ha.closed hs cs, ← ha.tokens, List.append_assoc, List.append_assoc]

theorem tokenize_space (s : String) : tokenize (" " ++ s) = tokenize s := by
  rw [tokenize, tokenize, String.data_append]
  rfl

theorem lexes_foldl_display {a : String} {ta : List Token} (ha : Lexes a ta) (cs : List Token)
    (hc : ∀ t ∈ cs, t.Closed) :
    Lexes (cs.foldl (fun other t => other ++ " " ++ t.display) a) (ta ++ cs) := by
  induction cs generalizing a ta with
  | nil => simpa using ha
  | cons t cs ih =>
    rw [List.foldl_cons, show ta ++ t :: cs = ta ++ [t] ++ cs by simp]
    refine ih ?_ fun t' h => hc t' (List.mem_cons_of_mem t h)
    rw [String.append_assoc]
    exact ha.append (hc t (List.mem_cons_self t cs)).lexes.space (opensWithSep_space _)

theorem tokenize_foldl_display {a : String} {ta : List Token} (ha : Lexes a ta) :
    (cs : List Token) → Relexes cs → tokenize (cs.foldl (fun other t => other ++ " " ++ t.display) a) = ta ++ cs
  | [], _ => by simpa using ha.tokenize_eq
  | [t], h => by
    rw [List.foldl_cons, List.foldl_nil, String.append_assoc, ha.tokenize_append (opensWithSep_space _),
      tokenize_space, h]
  | t :: u :: cs, ⟨ht, h⟩ => by
    have hat : Lexes (a ++ " " ++ t.display) (ta ++ [t]) := by
      rw [String.append_assoc]; exact ha.append ht.lexes.space (opensWithSep_space _)
    rw [List.foldl_cons, tokenize_foldl_display hat (u :: cs) h, List.append_assoc, List.singleton_append]

/-- The text of an unknown type, among tokens the tokenizer returned, reads back
as its tokens, and, with tokens after them, leaves the tokenizer outside any
quoted word. -/
theorem Relexes.otherText {w : String} {captured rest : List Token}
    (h : Relexes (.word w :: (captured ++ rest))) :
    tokenize (Grammar.otherText w captured) = .word w :: captured ∧
      (rest ≠ [] → Lexes (Grammar.otherText w captured) (.word w :: captured)) := by
  rcases rest with _ | ⟨u, rest⟩
  · rw [List.append_nil] at h
    refine ⟨?_, fun h => absurd rfl h⟩
    rcases captured with _ | ⟨c, cs⟩
    · exact h
    · exact tokenize_foldl_display h.1.lexes (c :: cs) h.2
  · have hc := @Relexes.closed_of_append (.word w :: captured) u rest h
    have hl := lexes_foldl_display (hc _ (List.mem_cons_self _ _)).lexes captured
      fun t ht => hc t (List.mem_cons_of_mem _ ht)
    exact ⟨hl.tokenize_eq, fun _ => hl⟩

end DbtXdbc
