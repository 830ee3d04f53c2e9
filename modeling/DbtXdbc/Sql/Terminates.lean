import DbtXdbc.Sql.Parser

/-!
# The parser terminates

The productions of the parser call one another, and the model bounds the depth
of those calls with a fuel. This module shows that the bound is never reached
with the fuel `SqlType.parse` passes, and that more fuel changes nothing
(`parse_fuel_enough`): `SqlType.parse` is the result of the unbounded recursion
of the code, on every token sequence.

The measure is the one of the code: a production never adds tokens, and
`parse_inner` and `struct_fields` consume a token before they call back
(`Good.next_bind`), so that along a chain of calls the fuel needed falls with
the tokens left (`good_fuel`). Fuel independence (`refines_succ`) is the
monotonicity of each production in the productions it calls.
-/

namespace DbtXdbc.Parser

/-! ## Productions that never run out of fuel -/

/-- Run on at most `m` tokens, `x` does not run out of fuel, and leaves no more
tokens than it was given. -/
def Good {α : Type} (m : Nat) (x : Parser α) : Prop :=
  ∀ ts : List Token, ts.length ≤ m →
    x.run ts ≠ .error .outOfFuel ∧ ∀ v rest, x.run ts = .ok (v, rest) → rest.length ≤ ts.length

namespace Good

variable {α β : Type} {m : Nat}

theorem pure (v : α) : Good m (pure v : Parser α) :=
  fun _ _ => ⟨by simp, by simp⟩

theorem fail (e : ParseError) : Good m (Parser.fail e : Parser α) :=
  fun _ _ => ⟨by simp, by simp⟩

theorem bind {x : Parser α} {f : α → Parser β} (hx : Good m x) (hf : ∀ a, Good m (f a)) :
    Good m (x >>= f) := by
  intro ts hts
  obtain ⟨hx₁, hx₂⟩ := hx ts hts
  rw [StateT.run_bind]
  match h : x.run ts with
  | .error e => exact ⟨by simpa [h] using hx₁, by simp⟩
  | .ok (a, s) =>
    have hs := hx₂ a s h
    obtain ⟨hf₁, hf₂⟩ := hf a s (by omega)
    exact ⟨by simpa using hf₁, fun v rest hr => (hf₂ v rest (by simpa using hr)).trans hs⟩

/-- After `next`, the rest of a production runs on one token less. -/
theorem next_bind {f : Token → Parser β} (hf : ∀ t, Good m (f t)) : Good (m + 1) (next >>= f) := by
  rintro (_ | ⟨t, ts⟩) hts
  · exact ⟨by simp, by simp⟩
  · obtain ⟨hf₁, hf₂⟩ := hf t ts (by simp at hts; omega)
    exact ⟨by simpa using hf₁, fun v rest hr => by have := hf₂ v rest (by simpa using hr); simp; omega⟩

theorem zero_next_bind {f : Token → Parser β} : Good 0 (next >>= f) := by
  rintro (_ | ⟨t, ts⟩) hts
  · exact ⟨by simp, by simp⟩
  · simp at hts

end Good

theorem good_next {m : Nat} : Good m next := by
  rintro (_ | ⟨t, ts⟩) - <;> exact ⟨by simp, by simp⟩

theorem good_match {m : Nat} (pat : Token) : Good m (match_ pat) := by
  rintro (_ | ⟨t, ts⟩) -
  · exact ⟨by simp, by simp⟩
  · by_cases h : t.beq pat <;> exact ⟨by simp [run_match_cons, h], by simp [run_match_cons, h]⟩

theorem good_peekAndThen {α : Type} {m : Nat} (f : Token → Option α) : Good m (peekAndThen f) := by
  rintro (_ | ⟨t, ts⟩) -
  · exact ⟨by simp, by simp⟩
  · cases h : f t <;>
      exact ⟨by simp [run_peekAndThen_cons, h], by simp [run_peekAndThen_cons, h]⟩

theorem good_collectOther {m : Nat} (other : String) : Good m (collectOther other) := by
  rintro ts -
  induction ts generalizing other with
  | nil => exact ⟨by simp, by simp⟩
  | cons t ts ih =>
    by_cases h : (t.beq (.word "NOT") || t.beq (.word "NULL")) = true
    · exact ⟨by simp [run_collectOther_cons, h], by simp [run_collectOther_cons, h]⟩
    · obtain ⟨ih₁, ih₂⟩ := ih (other ++ " " ++ t.display)
      refine ⟨by simpa [run_collectOther_cons, h] using ih₁, fun v rest hr => ?_⟩
      have := ih₂ v rest (by simpa [run_collectOther_cons, h] using hr)
      simp; omega

theorem good_postfixArrays {m : Nat} (t : SqlType) : Good m (postfixArrays t) := by
  rintro ts -
  simp only [StateT.run]
  induction t, ts using postfixArrays.induct with
  | case1 t ts ih =>
    obtain ⟨ih₁, ih₂⟩ := ih
    refine ⟨by simpa [postfixArrays] using ih₁, fun v rest hr => ?_⟩
    have := ih₂ v rest (by simpa [postfixArrays] using hr)
    simp; omega
  | case2 | case3 => exact ⟨by simp [postfixArrays], by simp [postfixArrays]⟩
  | case4 t ts h₁ h₂ h₃ =>
    rw [postfixArrays.eq_4 t ts h₁ h₂ h₃]
    exact ⟨by simp, by simp⟩

theorem good_matchWord {m : Nat} (w : String) : Good m (matchWord w) := good_match _

theorem good_expect {m : Nat} (e : Token) : Good m (expect e) :=
  Good.bind good_next fun _ => by split <;> first | exact Good.pure _ | exact Good.fail _

theorem good_nextInt {α : Type} {m : Nat} (fromStr : String → Except IntErrorKind α) :
    Good m (nextInt fromStr) :=
  Good.bind good_next fun _ => by
    repeat' with_reducible first
      | exact Good.pure _
      | exact Good.fail _
      | split

theorem good_precision {α : Type} {m : Nat} (fromStr : String → Except IntErrorKind α) :
    Good m (precision fromStr) := by
  unfold precision
  repeat' with_reducible first
    | exact Good.pure _
    | exact good_match _
    | exact good_nextInt _
    | exact good_expect _
    | refine Good.bind ?_ fun _ => ?_
    | split

theorem good_precisionAndScale {m : Nat} : Good m precisionAndScale := by
  unfold precisionAndScale
  repeat' with_reducible first
    | exact Good.pure _
    | exact good_match _
    | exact good_nextInt _
    | exact good_expect _
    | refine Good.bind ?_ fun _ => ?_
    | split

theorem good_timeZoneSpec {m : Nat} : Good m timeZoneSpec := by
  unfold timeZoneSpec matchWord
  repeat' with_reducible first
    | exact Good.pure _
    | exact good_match _
    | exact good_expect _
    | refine Good.bind ?_ fun _ => ?_
    | split

theorem good_nullable {m : Nat} : Good m nullable := by
  unfold nullable matchWord
  repeat' with_reducible first
    | exact Good.pure _
    | exact good_match _
    | exact good_expect _
    | refine Good.bind ?_ fun _ => ?_
    | split

theorem good_interval {m : Nat} : Good m interval := by
  unfold interval intervalQualifier datetimeField matchWord
  repeat' with_reducible first
    | exact Good.pure _
    | exact Good.fail _
    | exact good_match _
    | exact good_peekAndThen _
    | exact good_precision _
    | refine Good.bind ?_ fun _ => ?_
    | split

/-- The `Token::Word` arm never runs out of fuel when the productions it calls
back do not. -/
theorem good_parseWord {m : Nat} {u : Parser SqlType}
    {fs : Token → Parser (List (Ident × SqlType × Bool))} (hu : Good m u)
    (hfs : ∀ term, Good m (fs term)) (b : Backend) (w : String) : Good m (parseWord u fs b w) := by
  unfold parseWord
  repeat' with_reducible first
    | exact Good.pure _
    | exact hu
    | exact hfs _
    | exact good_match _
    | exact good_matchWord _
    | exact good_expect _
    | exact good_precision _
    | exact good_precisionAndScale
    | exact good_timeZoneSpec
    | exact good_interval
    | exact good_collectOther _
    | refine Good.bind ?_ fun _ => ?_
    | split

/-- The fuel each production needs on `m` tokens: two units a token, and one
more for each production between it and `parse_inner`. -/
theorem good_fuel (n : Nat) (b : Backend) : ∀ m,
    (2 * m + 1 ≤ n → Good m (parseInner n b)) ∧
    (2 * m + 2 ≤ n → Good m (parseUnconstrainedType n b)) ∧
    (2 * m + 3 ≤ n → Good m (parseConstrainedType n b)) ∧
    (2 * m + 2 ≤ n → ∀ term fields, Good m (structFields n b term fields)) := by
  induction n with
  | zero => intro m; refine ⟨?_, ?_, ?_, ?_⟩ <;> intro h <;> omega
  | succ n ih =>
    intro m
    refine ⟨fun h => ?_, fun h => ?_, fun h => ?_, fun h term fields => ?_⟩
    · rw [parseInner]
      rcases m with _ | m
      · exact Good.zero_next_bind
      obtain ⟨-, hu, -, hs⟩ := ih m
      refine Good.next_bind fun tok => ?_
      split
      · split
        · exact Good.bind (hs (by omega) _ _) fun _ => Good.pure _
        · exact Good.fail _
      · exact good_parseWord (hu (by omega)) (fun _ => hs (by omega) _ _) b _
      · exact Good.fail _
    · rw [parseUnconstrainedType]
      refine Good.bind ((ih m).1 (by omega)) fun t => ?_
      split
      · exact good_postfixArrays t
      · exact Good.pure t
    · rw [parseConstrainedType]
      exact Good.bind ((ih m).2.1 (by omega)) fun _ => Good.bind good_nullable fun _ => Good.pure _
    · rw [structFields]
      rcases m with _ | m
      · exact Good.zero_next_bind
      obtain ⟨-, -, hc, hs⟩ := ih m
      refine Good.next_bind fun tok => ?_
      split
      · exact Good.pure _
      split
      · split
        · exact Good.fail _
        refine Good.bind (hc (by omega)) fun (ty, nl) => Good.bind good_next fun tok => ?_
        split
        · exact hs (by omega) _ _
        · split
          · exact Good.pure _
          · exact Good.fail _
      · exact Good.fail _

/-! ## More fuel changes nothing -/

/-- `x` gives what `y` gives, unless it runs out of fuel. -/
def Refines {α : Type} (x y : Parser α) : Prop :=
  ∀ ts, x.run ts = .error .outOfFuel ∨ x.run ts = y.run ts

namespace Refines

variable {α β : Type}

theorem refl (x : Parser α) : Refines x x := fun _ => .inr rfl

theorem outOfFuel (y : Parser α) : Refines (throw .outOfFuel) y := fun _ => .inl rfl

theorem trans {x y z : Parser α} (h : Refines x y) (k : Refines y z) : Refines x z := by
  intro ts
  rcases h ts with h | h
  · exact .inl h
  · rw [h]; exact k ts

theorem bind {x y : Parser α} {f g : α → Parser β} (h : Refines x y)
    (k : ∀ a, Refines (f a) (g a)) : Refines (x >>= f) (y >>= g) := by
  intro ts
  rw [StateT.run_bind, StateT.run_bind]
  rcases h ts with h | h
  · exact .inl (by simp [h])
  · rw [← h]
    match x.run ts with
    | .error e => exact .inr rfl
    | .ok (a, s) => simpa using k a s

theorem ite {c : Prop} [Decidable c] {x x' y y' : Parser α} (h₁ : c → Refines x x')
    (h₂ : ¬c → Refines y y') : Refines (if c then x else y) (if c then x' else y') := by
  by_cases hc : c
  · simpa [hc] using h₁ hc
  · simpa [hc] using h₂ hc

end Refines

theorem refines_parseWord {u u' : Parser SqlType}
    {fs fs' : Token → Parser (List (Ident × SqlType × Bool))} (hu : Refines u u')
    (hfs : ∀ term, Refines (fs term) (fs' term)) (b : Backend) (w : String) :
    Refines (parseWord u fs b w) (parseWord u' fs' b w) := by
  unfold parseWord
  rcases Keyword.ofWord? w with _ | k
  · exact Refines.refl _
  cases k
  all_goals
    repeat' with_reducible first
      | exact Refines.refl _
      | exact hu
      | exact hfs _
      | refine Refines.bind ?_ fun _ => ?_
      | refine Refines.ite (fun _ => ?_) fun _ => ?_

/-- One more unit of fuel changes no result but running out of fuel. -/
theorem refines_succ (n : Nat) (b : Backend) :
    Refines (parseInner n b) (parseInner (n + 1) b) ∧
    Refines (parseUnconstrainedType n b) (parseUnconstrainedType (n + 1) b) ∧
    Refines (parseConstrainedType n b) (parseConstrainedType (n + 1) b) ∧
    ∀ term fields, Refines (structFields n b term fields) (structFields (n + 1) b term fields) := by
  induction n with
  | zero =>
    rw [parseInner, parseUnconstrainedType, parseConstrainedType]
    exact ⟨Refines.outOfFuel _, Refines.outOfFuel _, Refines.outOfFuel _,
      fun _ _ => by rw [structFields]; exact Refines.outOfFuel _⟩
  | succ n ih =>
    obtain ⟨hi, hu, hc, hs⟩ := ih
    refine ⟨?_, ?_, ?_, fun term fields => ?_⟩
    · rw [parseInner, parseInner]
      refine Refines.bind (Refines.refl _) fun tok => ?_
      cases tok <;> dsimp only
      case lParen =>
        refine Refines.ite (fun _ => ?_) fun _ => Refines.refl _
        exact Refines.bind (hs _ _) fun _ => Refines.refl _
      case word w => exact refines_parseWord hu (fun _ => hs _ _) b w
      all_goals exact Refines.refl _
    · rw [parseUnconstrainedType, parseUnconstrainedType]
      exact Refines.bind hi fun _ => Refines.refl _
    · rw [parseConstrainedType, parseConstrainedType]
      exact Refines.bind hu fun _ => Refines.refl _
    · rw [structFields, structFields]
      refine Refines.bind (Refines.refl _) fun tok => ?_
      refine Refines.ite (fun _ => Refines.refl _) fun _ => ?_
      cases tok <;> dsimp only
      case word w _ =>
        cases word2ident w b <;> dsimp only
        · exact Refines.refl _
        · refine Refines.bind hc fun (ty, nl) => Refines.bind (Refines.refl _) fun tok => ?_
          cases tok <;> dsimp only
          case comma => exact hs _ _
          all_goals exact Refines.refl _
      all_goals exact Refines.refl _

theorem refines_add (n k : Nat) (b : Backend) : Refines (parse n b) (parse (n + k) b) := by
  induction k with
  | zero => exact Refines.refl _
  | succ k ih =>
    exact ih.trans (Refines.bind (refines_succ (n + k) b).2.2.1 fun _ => Refines.refl _)

/-- With the fuel `SqlType.parse` gives it, the parser does not run out. -/
theorem run_parse_fuelFor_ne (b : Backend) (ts : List Token) :
    (parse (fuelFor ts) b).run ts ≠ .error .outOfFuel :=
  ((Good.bind ((good_fuel _ b ts.length).2.2.1 (by simp [fuelFor])) fun _ => Good.pure _ :
    Good ts.length (parse (fuelFor ts) b)) ts le_rfl).1

/-- More fuel than `SqlType.parse` gives the parser changes nothing. -/
theorem run_parse_fuelFor_add (b : Backend) (ts : List Token) (k : Nat) :
    (parse (fuelFor ts + k) b).run ts = (parse (fuelFor ts) b).run ts := by
  rcases refines_add (fuelFor ts) k b ts with h | h
  · exact absurd h (run_parse_fuelFor_ne b ts)
  · exact h.symm

/-- The parser terminates: with the fuel `SqlType.parse` gives it, it never runs
out, and more fuel gives the same result. -/
theorem parse_fuel_enough (b : Backend) (ts : List Token) (k : Nat) :
    (parse (fuelFor ts) b).run ts ≠ .error .outOfFuel ∧
    (parse (fuelFor ts + k) b).run ts = (parse (fuelFor ts) b).run ts :=
  ⟨run_parse_fuelFor_ne b ts, run_parse_fuelFor_add b ts k⟩

end DbtXdbc.Parser
