import BoolQuery.Toml.Scalar
import Mathlib.Tactic.IntervalCases

/-! Numbers and truth values that are written without quotes are read again. -/
namespace BoolQuery.Toml

section Digits

variable {base value read : Nat} {behind : Bool} {first : List Char}

theorem digitsFrom_append (spelled : digitsFrom? base value behind first = some read)
    (second : List Char) :
    digitsFrom? base value behind (first ++ second) = digitsFrom? base read true second := by
  induction first generalizing value behind with
  | nil =>
    cases behind <;> cases spelled
    rfl
  | cons c rest ih =>
    rw [digitsFrom?] at spelled
    rw [List.cons_append, digitsFrom?]
    split at spelled
    · next under =>
      split at spelled
      · next digit =>
        rw [if_pos under, if_pos digit]
        exact ih spelled
      · cases spelled
    · next other =>
      rw [if_neg other]
      split at spelled
      · exact ih spelled
      · cases spelled

theorem digitsFrom_digitChar {digit : Nat} (small : digit < 10) :
    digitsFrom? 10 value behind [Nat.digitChar digit] = some (10 * value + digit) := by
  interval_cases digit <;> rfl

theorem digits_toDigits (n : Nat) : digits? 10 (Nat.toDigits 10 n) = some n := by
  induction n using Nat.strongRecOn with
  | ind n ih =>
    by_cases small : n < 10
    · rw [Nat.toDigits_of_lt_base small, digits?, digitsFrom_digitChar small]
      simp
    · have more := ih (n / 10) (by omega)
      rw [digits?] at more
      rw [Nat.toDigits_of_base_le (by decide) (by omega), digits?, digitsFrom_append more,
        digitsFrom_digitChar (Nat.mod_lt n (by decide)), Nat.div_add_mod]

theorem head_toDigits {n : Nat} (positive : 0 < n) :
    ∃ c rest, Nat.toDigits 10 n = c :: rest ∧ c.isDigit ∧ c ≠ '0' := by
  induction n using Nat.strongRecOn with
  | ind n ih =>
    by_cases small : n < 10
    · rw [Nat.toDigits_of_lt_base small]
      refine ⟨_, _, rfl, ?_⟩
      interval_cases n <;> decide
    · obtain ⟨c, rest, same, digit, nonzero⟩ := ih (n / 10) (by omega) (by omega)
      refine ⟨c, rest ++ [(n % 10).digitChar], ?_, digit, nonzero⟩
      rw [Nat.toDigits_of_base_le (by decide) (by omega), same, List.cons_append]

end Digits

section Scalars

variable {c : Char} {rest : List Char}

theorem splitSign_digit (digit : c.isDigit) : splitSign (c :: rest) = (false, c :: rest) := by
  unfold splitSign
  split
  · next same =>
    cases same
    cases digit
  · next same =>
    cases same
    cases digit
  · rfl

theorem plain_nonzero (nonzero : c ≠ '0') : plain? (c :: rest) = digits? 10 (c :: rest) := by
  unfold plain?
  split
  · next same =>
    cases same
    exact absurd rfl nonzero
  · rfl

theorem integer_nonzero (nonzero : c ≠ '0') (digit : c.isDigit) :
    integer? (c :: rest) = (digits? 10 (c :: rest)).map Int.ofNat := by
  unfold integer?
  split
  case h_4 =>
    rw [splitSign_digit digit]
    simp only [plain_nonzero nonzero]
    rfl
  all_goals
    next same =>
      cases same
      exact absurd rfl nonzero

theorem scalar_toString_nat (n : Nat) : scalar? (toString n).toList = some (.integer n) := by
  have written : (toString n).toList = Nat.toDigits 10 n := Nat.toList_repr
  rw [written]
  by_cases zero : n = 0
  · subst zero
    rfl
  · obtain ⟨c, rest, same, digit, nonzero⟩ := head_toDigits (Nat.pos_of_ne_zero zero)
    have spelled : integer? (c :: rest) = (digits? 10 (c :: rest)).map Int.ofNat :=
      integer_nonzero nonzero digit
    rw [← same, digits_toDigits, same] at spelled
    have noTrue : c ≠ 't' := by
      rintro rfl
      cases digit
    have noFalse : c ≠ 'f' := by
      rintro rfl
      cases digit
    rw [same]
    simp [scalar?, noTrue, noFalse, spelled]

theorem scalar_toString_bool (value : Bool) : scalar? (toString value).toList = some (.boolean value) := by
  cases value <;> rfl

end Scalars

end BoolQuery.Toml
