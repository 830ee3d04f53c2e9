import DbtXdbc.Backend

/-!
# The tokenizer of SQL type strings

`sql/types.rs` reads its input through `super::tokenizer`, which is not under
`src/`; this module models it from spec §4.1. A type string is a sequence of
`Token`s: words (a maximal run of characters that are neither whitespace nor
punctuation, or a quoted run that keeps its quotes and in which a doubled quote
is an escape) and the punctuation `( ) [ ] < > ,`. An unterminated quoted run
is returned as it is, and the parser reports it.

The tokenizer is lazy in the code; since what it yields never depends on the
parser, the model tokenizes the whole input first (`tokenize`). It is a Mealy
machine over the characters (`Lex.step`), so that it is structurally recursive,
and so that a string cut in two is tokenized piece by piece (`lexFrom_append`).

`Token.beq` is the `PartialEq` the parser's `match_` and `expect` use. The tests
of `types.rs` (`"charaCTER VARying (20 )"`, `"TIMestamp(9) without TIME ZONE"`)
only pass when it compares words ignoring ASCII case, as spec §8 asks.
-/

namespace DbtXdbc

/-- `eqi`: `str::eq_ignore_ascii_case`. -/
def eqi (a b : String) : Bool :=
  decide (a.data.map Char.toLower = b.data.map Char.toLower)

/-- Modelled from the spec: `Token` of `super::tokenizer`. -/
inductive Token where
  | word (w : String)
  | lParen
  | rParen
  | lBracket
  | rBracket
  | lAngle
  | rAngle
  | comma
  deriving DecidableEq, Repr

namespace Token

/-- Modelled from the spec: `PartialEq for Token`, words compared ignoring ASCII case. -/
def beq : Token → Token → Bool
  | .word a, .word b => eqi a b
  | a, b => decide (a = b)

/-- Modelled from the spec: `Display for Token`, a word as it was read. -/
def display : Token → String
  | .word w => w
  | .lParen => "("
  | .rParen => ")"
  | .lBracket => "["
  | .rBracket => "]"
  | .lAngle => "<"
  | .rAngle => ">"
  | .comma => ","

end Token

/-! ## The tokenizer -/

/-- The punctuation token a character is, if it is one. -/
def punct? : Char → Option Token
  | '(' => some .lParen
  | ')' => some .rParen
  | '[' => some .lBracket
  | ']' => some .rBracket
  | '<' => some .lAngle
  | '>' => some .rAngle
  | ',' => some .comma
  | _ => none

/-- The backtick. -/
def backtick : Char := Char.ofNat 96

@[simp] theorem backtick_ne_dquote : backtick ≠ '"' := by decide
@[simp] theorem squote_ne_backtick : '\'' ≠ backtick := by decide

/-- The characters that open a quoted word: double quote, backtick, single quote. -/
def isQuote (c : Char) : Bool := c = '"' || c = backtick || c = '\''

/-- Where the tokenizer is between two characters: between tokens, inside a
plain word, inside a quoted word opened by `q`, or just after a `q` inside a
quoted word (which closes it, unless the next character doubles it). Each keeps
the characters of the token read so far. -/
inductive Lex where
  | start
  | word (acc : List Char)
  | quoted (q : Char) (acc : List Char)
  | closing (q : Char) (acc : List Char)
  deriving DecidableEq, Repr

namespace Lex

/-- Reading `c` between tokens. -/
def startAt (c : Char) : List Token × Lex :=
  if c.isWhitespace then ([], .start)
  else match punct? c with
    | some t => ([t], .start)
    | none => ([], if isQuote c then .quoted c [c] else .word [c])

/-- Reading one character: the tokens it completes, and the next state. -/
def step : Lex → Char → List Token × Lex
  | .start, c => startAt c
  | .word acc, c =>
    if c.isWhitespace || (punct? c).isSome then
      (.word (String.mk acc) :: (startAt c).1, (startAt c).2)
    else ([], .word (acc ++ [c]))
  | .quoted q acc, c => ([], if c = q then .closing q (acc ++ [c]) else .quoted q (acc ++ [c]))
  | .closing q acc, c =>
    if c = q then ([], .quoted q (acc ++ [c]))
    else (.word (String.mk acc) :: (startAt c).1, (startAt c).2)

/-- The token left open at the end of the input (an unterminated quoted word
included). -/
def flush : Lex → List Token
  | .start => []
  | .word acc | .quoted _ acc | .closing _ acc => [.word (String.mk acc)]

end Lex

/-- The tokens of the characters `cs`, read from the state `st`. -/
def lexFrom : Lex → List Char → List Token
  | st, [] => st.flush
  | st, c :: cs => (st.step c).1 ++ lexFrom (st.step c).2 cs

/-- Modelled from the spec: `Tokenizer::new(input)`, run to the end. -/
def tokenize (s : String) : List Token := lexFrom .start s.data

example : tokenize "ARRAY<STRUCT<\"a\"\"b\" INT>>" =
    [.word "ARRAY", .lAngle, .word "STRUCT", .lAngle, .word "\"a\"\"b\"", .word "INT", .rAngle,
      .rAngle] := by decide

end DbtXdbc
