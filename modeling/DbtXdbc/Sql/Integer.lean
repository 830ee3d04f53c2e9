import DbtXdbc.Sql.Tokenizer

/-!
# Integers in type strings

The parser reads precisions, scales and lengths with `str::parse::<T>` for
`T = u8`, `i8` and `usize` (`Parser::next_int`), and the renderer writes them
with `{}`. This module models the first with `fromStrRadix`, the base-10
`from_str_radix` of the standard library: an optional sign (`-` only for a signed
type), then decimal digits, failing at the first character that is not a digit
or takes the value out of the type's range.

`fromStrRadix_repr` is the round trip the renderer relies on: the decimal
numeral of a value in range reads back as that value (`u8FromStr_toString`,
`i8FromStr_toString`, `usizeFromStr_toString`). A `usize` is a `UInt64`: the
targets the crate builds for are 64-bit.
-/

namespace DbtXdbc

/-- `core::num::IntErrorKind`: why `str::parse` of an integer failed. -/
inductive IntErrorKind where
  | empty
  | invalidDigit
  | posOverflow
  | negOverflow
  deriving DecidableEq, Repr

/-- `Display for ParseIntError`. -/
def IntErrorKind.display : IntErrorKind → String
  | .empty => "cannot parse integer from empty string"
  | .invalidDigit => "invalid digit found in string"
  | .posOverflow => "number too large to fit in target type"
  | .negOverflow => "number too small to fit in target type"

/-- An `i8`. -/
abbrev I8 := {i : Int // -128 ≤ i ∧ i ≤ 127}

/-- `Display for i8`. -/
def I8.toString (x : I8) : String := ToString.toString x.val

/-- The value of an ASCII decimal digit (`char::to_digit(10)`). -/
def digitValue? (c : Char) : Option Nat :=
  if '0' ≤ c ∧ c ≤ '9' then some (c.toNat - 48) else none

/-- The digit loop of `from_str_radix` in base 10: each digit multiplies the
accumulator by ten and adds its value (subtracts it, for a negative number),
failing at the first character that is not a digit or leaves `[lo, hi]`. -/
def digitsLoop (neg : Bool) (lo hi : Int) : Int → List Char → Except IntErrorKind Int
  | acc, [] => .ok acc
  | acc, c :: cs =>
    match digitValue? c with
    | none => .error .invalidDigit
    | some d =>
      if neg then
        if lo ≤ acc * 10 - d then digitsLoop neg lo hi (acc * 10 - d) cs else .error .negOverflow
      else
        if acc * 10 + d ≤ hi then digitsLoop neg lo hi (acc * 10 + d) cs else .error .posOverflow

/-- `from_str_radix(src, 10)` for an integer type with values `[lo, hi]`. -/
def fromStrRadix (signed : Bool) (lo hi : Int) : List Char → Except IntErrorKind Int
  | [] => .error .empty
  | ['+'] | ['-'] => .error .invalidDigit
  | '+' :: rest => digitsLoop false lo hi 0 rest
  | '-' :: rest => if signed then digitsLoop true lo hi 0 rest else digitsLoop false lo hi 0 ('-' :: rest)
  | src => digitsLoop false lo hi 0 src

/-- `<u8 as FromStr>::from_str`. -/
def u8FromStr (s : String) : Except IntErrorKind UInt8 :=
  (fromStrRadix false 0 255 s.data).map fun i => UInt8.ofNat i.toNat

/-- `<i8 as FromStr>::from_str`. -/
def i8FromStr (s : String) : Except IntErrorKind I8 :=
  match fromStrRadix true (-128) 127 s.data with
  | .ok i => if h : -128 ≤ i ∧ i ≤ 127 then .ok ⟨i, h⟩ else .error .posOverflow
  | .error e => .error e

/-- `<usize as FromStr>::from_str`, on a 64-bit target. -/
def usizeFromStr (s : String) : Except IntErrorKind UInt64 :=
  (fromStrRadix false 0 (2 ^ 64 - 1) s.data).map fun i => UInt64.ofNat i.toNat

/-! ## Decimal numerals read back -/

theorem digitValue_digitChar {k : Nat} (hk : k < 10) : digitValue? (Nat.digitChar k) = some k := by
  interval_cases k <;> rfl

theorem toDigitsCore_acc (f n : Nat) (ds : List Char) :
    Nat.toDigitsCore 10 f n ds = Nat.toDigitsCore 10 f n [] ++ ds := by
  induction f generalizing n ds with
  | zero => rfl
  | succ f ih =>
    simp only [Nat.toDigitsCore]
    split
    · rfl
    · rw [ih _ (_ :: ds), ih _ [_], List.append_assoc, List.singleton_append]

theorem toDigitsCore_fuel {f g n : Nat} (hf : n < f) (hg : n < g) (ds : List Char) :
    Nat.toDigitsCore 10 f n ds = Nat.toDigitsCore 10 g n ds := by
  induction f generalizing g n ds with
  | zero => omega
  | succ f ih =>
    obtain ⟨g, rfl⟩ : ∃ g', g = g' + 1 := ⟨g - 1, by omega⟩
    simp only [Nat.toDigitsCore]
    split
    · rfl
    · exact ih (by omega) (by omega) _

/-- The decimal numeral of `n ≥ 10` is that of `n / 10` and one more digit. -/
theorem toDigits_ten_of_le {n : Nat} (hn : 10 ≤ n) :
    Nat.toDigits 10 n = Nat.toDigits 10 (n / 10) ++ [Nat.digitChar (n % 10)] := by
  rw [Nat.toDigits, Nat.toDigits, Nat.toDigitsCore, if_neg (by omega), toDigitsCore_acc,
    @toDigitsCore_fuel _ (n / 10 + 1) _ (by omega) (by omega)]

theorem toDigits_ten_of_lt {n : Nat} (hn : n < 10) : Nat.toDigits 10 n = [Nat.digitChar n] := by
  rw [Nat.toDigits, Nat.toDigitsCore, if_pos (Nat.div_eq_of_lt hn), Nat.mod_eq_of_lt hn]

theorem digitsLoop_append (neg : Bool) (lo hi acc : Int) (xs ys : List Char) :
    digitsLoop neg lo hi acc (xs ++ ys) = (digitsLoop neg lo hi acc xs).bind (digitsLoop neg lo hi · ys) := by
  induction xs generalizing acc with
  | nil => rfl
  | cons c cs ih =>
    simp only [List.cons_append, digitsLoop]
    split
    · rfl
    · split <;> split <;> first | exact ih _ | rfl

/-- The digit loop reads the numeral of `n` back, positive or negative. -/
theorem digitsLoop_toDigits (neg : Bool) {lo hi : Int} (n : Nat)
    (hn : if neg then lo ≤ -(n : Int) else (n : Int) ≤ hi) :
    digitsLoop neg lo hi 0 (Nat.toDigits 10 n) = .ok (if neg then -n else n) := by
  induction n using Nat.strong_induction_on with
  | _ n ih =>
    rcases Nat.lt_or_ge n 10 with h | h
    · rw [toDigits_ten_of_lt h]
      cases neg <;> simp [digitsLoop, digitValue_digitChar h] at hn ⊢ <;> omega
    · have h10 := Nat.mod_lt n (by decide : 10 > 0)
      have ih' := ih (n / 10) (by omega) (by cases neg <;> simp at hn ⊢ <;> omega)
      rw [toDigits_ten_of_le h, digitsLoop_append, ih']
      have e : (n : Int) / 10 * 10 + (n : Int) % 10 = n := Int.ediv_add_emod' _ _
      cases neg <;> simp [Except.bind, digitsLoop, digitValue_digitChar h10] at hn ⊢
      · simp [e, hn]
      · have e' : -((n : Int) / 10 * 10) - (n : Int) % 10 = -n := by omega
        simp [e', hn]

theorem toDigits_ne_nil (n : Nat) : Nat.toDigits 10 n ≠ [] := by
  rcases Nat.lt_or_ge n 10 with h | h
  · simp [toDigits_ten_of_lt h]
  · simp [toDigits_ten_of_le h]

/-- The decimal numeral of a value in range reads back as that value. -/
theorem fromStrRadix_repr (signed : Bool) {lo hi : Int} (n : Nat) (hhi : (n : Int) ≤ hi) :
    fromStrRadix signed lo hi (Nat.toDigits 10 n) = .ok n := by
  have h := @digitsLoop_toDigits false lo _ n hhi
  obtain ⟨c, ds, hc⟩ := List.exists_cons_of_ne_nil (toDigits_ne_nil n)
  rw [hc] at h ⊢
  have hd : digitValue? c ≠ none := by intro hc'; rw [digitsLoop, hc'] at h; cases h
  have hp : c ≠ '+' := by rintro rfl; exact hd rfl
  have hm : c ≠ '-' := by rintro rfl; exact hd rfl
  unfold fromStrRadix
  split <;> simp_all
theorem u8FromStr_toString (p : UInt8) : u8FromStr (toString p) = .ok p := by
  have hp : p.toNat < 256 := p.toBitVec.isLt
  show (fromStrRadix false 0 255 (Nat.toDigits 10 p.toNat)).map _ = _
  rw [fromStrRadix_repr _ _ (by omega)]
  exact congrArg Except.ok (UInt8.toNat.inj (UInt8.toNat_ofNat_of_lt hp))

theorem usizeFromStr_toString (p : UInt64) : usizeFromStr (toString p) = .ok p := by
  have hp : p.toNat < 2 ^ 64 := p.toBitVec.isLt
  show (fromStrRadix false 0 (2 ^ 64 - 1) (Nat.toDigits 10 p.toNat)).map _ = _
  rw [fromStrRadix_repr _ _ (by omega)]
  exact congrArg Except.ok (UInt64.toNat.inj (UInt64.toNat_ofNat_of_lt hp))

theorem i8FromStr_toString (x : I8) : i8FromStr x.toString = .ok x := by
  obtain ⟨i, hlo, hhi⟩ := x
  have key : fromStrRadix true (-128) 127 (I8.toString ⟨i, hlo, hhi⟩).data = .ok i := by
    rcases i with n | n
    · rw [Int.ofNat_eq_coe] at hhi
      exact fromStrRadix_repr true n (by omega)
    · rw [Int.negSucc_eq] at hlo
      obtain ⟨c, ds, hc⟩ := List.exists_cons_of_ne_nil (toDigits_ne_nil (n + 1))
      have h := @digitsLoop_toDigits true (-128) 127 (n + 1) (by simp; omega)
      show fromStrRadix true (-128) 127 ('-' :: Nat.toDigits 10 (n + 1)) = _
      rw [hc] at h ⊢
      rw [fromStrRadix, if_pos rfl, h, Int.negSucc_eq]
      all_goals simp
  simp [i8FromStr, key, hlo, hhi]

end DbtXdbc
