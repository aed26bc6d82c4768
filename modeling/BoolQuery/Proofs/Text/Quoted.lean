import BoolQuery.Proofs.Text.Lines
import BoolQuery.Text.Quoted
import Mathlib.Data.List.Chain

/-! Quoted texts can be told apart wherever they stand. Reading from the left, each character is
known from what it is written as, whatever follows. Reading from the right, the opening quote is the
first one behind no backslash, so a quoted text at the end of a line is found there, whatever stands
in front of it. -/
namespace BoolQuery.Text

section Digits

variable {base : Nat}

theorem not_mem_toDigits (several : 1 < base) {c : Char} (other : ∀ digit, Nat.digitChar digit ≠ c)
    (n : Nat) : c ∉ Nat.toDigits base n := by
  induction n using Nat.strongRecOn with
  | _ n ih =>
    by_cases small : n < base
    · rw [Nat.toDigits_of_lt_base small, List.mem_singleton]
      exact (other n).symm
    · have smaller : n / base < n := Nat.div_lt_self (by omega) several
      rw [Nat.toDigits_of_base_le several (by omega), List.mem_append, List.mem_singleton, not_or]
      exact ⟨ih _ smaller, (other (n % base)).symm⟩

theorem digitChar_inj {m n : Nat} (smallM : m < 16) (smallN : n < 16)
    (same : Nat.digitChar m = Nat.digitChar n) : m = n := by
  have apart : ∀ a b : Fin 16, Nat.digitChar a = Nat.digitChar b → a = b := by decide
  exact congrArg Fin.val (apart ⟨m, smallM⟩ ⟨n, smallN⟩ same)

-- The last digit is the remainder, and a number with one digit is that remainder.
theorem hexDigits_inj {m n : Nat} (same : hexDigits m = hexDigits n) : m = n := by
  have step (k : Nat) (large : 16 ≤ k) :
      hexDigits k = hexDigits (k / 16) ++ [Nat.digitChar (k % 16)] :=
    Nat.toDigits_of_base_le (by decide) large
  have single (k : Nat) (small : k < 16) : hexDigits k = [] ++ [Nat.digitChar k] :=
    Nat.toDigits_of_lt_base small
  have written (k : Nat) : hexDigits k ≠ [] := Nat.toDigits_ne_nil
  induction m using Nat.strongRecOn generalizing n with
  | _ m ih =>
    by_cases smallM : m < 16 <;> by_cases smallN : n < 16
    · rw [single m smallM, single n smallN] at same
      exact digitChar_inj smallM smallN (by simpa using same)
    · rw [single m smallM, step n (by omega)] at same
      exact absurd (List.append_inj' same rfl).1.symm (written _)
    · rw [step m (by omega), single n smallN] at same
      exact absurd (List.append_inj' same rfl).1 (written _)
    · rw [step m (by omega), step n (by omega)] at same
      obtain ⟨front, last⟩ := List.append_inj' same rfl
      have quotients : m / 16 = n / 16 := ih (m / 16) (by omega) front
      have remainders : m % 16 = n % 16 :=
        digitChar_inj (Nat.mod_lt m (by decide)) (Nat.mod_lt n (by decide)) (by simpa using last)
      omega

end Digits

section Characters

variable {c d : Char}

theorem visible_short {letter : Char} (short : shortEscape c = some letter) :
    visible c = ['\\', letter] := by
  simp [visible, short]

/-- What a character without a short escape is written as: itself, or its code point. -/
theorem visible_long (long : shortEscape c = none) :
    visible c = [c] ∨ visible c = '\\' :: 'u' :: '\x7b' :: (hexDigits c.toNat ++ ['\x7d']) := by
  unfold visible
  rw [long]
  by_cases seen : (!extendsGrapheme c && isPrintable c) = true
  · exact Or.inl (if_pos seen)
  · exact Or.inr (if_neg seen)

/-- The characters with a short escape, and the letter of each. -/
theorem shortEscape_cases {letter : Char} (short : shortEscape c = some letter) :
    (c, letter) ∈ [('\x00', '0'), ('\t', 't'), ('\n', 'n'), ('\r', 'r'), ('\\', '\\'),
      ('\x22', '\x22')] := by
  unfold shortEscape at short
  split at short <;> cases short <;> decide

theorem shortEscape_inj {letter : Char} (first : shortEscape c = some letter)
    (second : shortEscape d = some letter) : c = d := by
  have inFirst := shortEscape_cases first
  have inSecond := shortEscape_cases second
  simp only [List.mem_cons, Prod.mk.injEq, List.not_mem_nil, or_false] at inFirst inSecond
  rcases inFirst with ⟨rfl, rfl⟩ | ⟨rfl, rfl⟩ | ⟨rfl, rfl⟩ | ⟨rfl, rfl⟩ | ⟨rfl, rfl⟩ | ⟨rfl, rfl⟩
  all_goals simpa [eq_comm] using inSecond

theorem shortEscape_ne_u {letter : Char} (short : shortEscape c = some letter) : letter ≠ 'u' := by
  rintro rfl
  simpa using shortEscape_cases short

-- No backslash stands for itself, so an escape is known from its first character.
theorem ne_backslash (long : shortEscape c = none) : c ≠ '\\' := by
  rintro rfl
  cases long

/-- What a character is written as ends by itself: whatever follows, it is known, and what follows
is. -/
theorem visible_append_inj {first second : List Char}
    (same : visible c ++ first = visible d ++ second) : c = d ∧ first = second := by
  cases shortC : shortEscape c with
  | some letter =>
    rw [visible_short shortC] at same
    cases shortD : shortEscape d with
    | some other =>
      rw [visible_short shortD] at same
      obtain ⟨rfl, rfl⟩ : letter = other ∧ first = second := by simpa using same
      exact ⟨shortEscape_inj shortC shortD, rfl⟩
    | none =>
      rcases visible_long shortD with plain | long
      · rw [plain] at same
        exact absurd (List.cons.inj same).1.symm (ne_backslash shortD)
      · rw [long] at same
        exact absurd (List.cons.inj (List.cons.inj same).2).1 (shortEscape_ne_u shortC)
  | none =>
    cases shortD : shortEscape d with
    | some other =>
      rw [visible_short shortD] at same
      rcases visible_long shortC with plain | long
      · rw [plain] at same
        exact absurd (List.cons.inj same).1 (ne_backslash shortC)
      · rw [long] at same
        exact absurd (List.cons.inj (List.cons.inj same).2).1.symm (shortEscape_ne_u shortD)
    | none =>
      rcases visible_long shortC with plainC | longC <;> rcases visible_long shortD with plainD | longD
      · rw [plainC, plainD] at same
        simpa using same
      · rw [plainC, longD] at same
        exact absurd (List.cons.inj same).1 (ne_backslash shortC)
      · rw [longC, plainD] at same
        exact absurd (List.cons.inj same).1.symm (ne_backslash shortD)
      · -- The digits end at the closing brace, which is no digit.
        have brace (digit : Nat) : Nat.digitChar digit ≠ '\x7d' := Nat.digitChar_ne '\x7d' (by decide)
        have noBrace (n : Nat) : '\x7d' ∉ hexDigits n := not_mem_toDigits (by decide) brace n
        have behind : hexDigits c.toNat ++ '\x7d' :: first = hexDigits d.toNat ++ '\x7d' :: second := by
          simpa [longC, longD] using same
        obtain ⟨digits, rest⟩ := parted_at_first (noBrace c.toNat) (noBrace d.toNat) behind
        exact ⟨Char.toNat_inj.mp (hexDigits_inj digits), rest⟩

theorem feed_not_mem_visible (c : Char) : '\n' ∉ visible c := by
  cases short : shortEscape c with
  | some letter =>
    have listed := shortEscape_cases short
    simp only [List.mem_cons, Prod.mk.injEq, List.not_mem_nil, or_false] at listed
    rw [visible_short short]
    rcases listed with ⟨-, rfl⟩ | ⟨-, rfl⟩ | ⟨-, rfl⟩ | ⟨-, rfl⟩ | ⟨-, rfl⟩ | ⟨-, rfl⟩
    all_goals decide
  | none =>
    have other : c ≠ '\n' := by
      rintro rfl
      cases short
    rcases visible_long short with plain | long
    · simpa [plain] using other.symm
    · have feed (digit : Nat) : Nat.digitChar digit ≠ '\n' := Nat.digitChar_ne '\n' (by decide)
      have digits : '\n' ∉ hexDigits c.toNat := not_mem_toDigits (by decide) feed c.toNat
      simp [long, digits]

theorem feed_not_mem_quoted (text : String) : '\n' ∉ (quoted text).toList := by
  have letters : '\n' ∉ text.toList.flatMap visible := by
    rw [List.mem_flatMap]
    rintro ⟨c, -, member⟩
    exact feed_not_mem_visible c member
  simp [quoted, letters]

theorem quoted_last (text : String) : (quoted text).toList.getLast? = some '\x22' := by
  rw [quoted, String.toList_ofList, List.getLast?_concat]

theorem visible_ne_nil (c : Char) : visible c ≠ [] := by
  cases short : shortEscape c with
  | some letter => simp [visible_short short]
  | none => rcases visible_long short with plain | long <;> simp [*]

theorem flatMap_visible_inj {first second : List Char}
    (same : first.flatMap visible = second.flatMap visible) : first = second := by
  induction first generalizing second with
  | nil =>
    cases second with
    | nil => rfl
    | cons d others =>
      rw [List.flatMap_cons] at same
      exact absurd (List.append_eq_nil_iff.mp same.symm).1 (visible_ne_nil d)
  | cons c rest ih =>
    cases second with
    | nil =>
      rw [List.flatMap_cons] at same
      exact absurd (List.append_eq_nil_iff.mp same).1 (visible_ne_nil c)
    | cons d others =>
      obtain ⟨rfl, behind⟩ := visible_append_inj same
      rw [ih behind]

end Characters

section Quotes

/-- Of two neighbours, the second is no quote unless the first is a backslash. -/
def Guards (before after : Char) : Prop := after = '\x22' → before = '\\'

theorem guards_of_no_quote {text : List Char} (free : '\x22' ∉ text) : text.IsChain Guards := by
  refine (List.pairwise_of_forall_mem_list fun before _ after member same => ?_).isChain
  exact absurd (same ▸ member) free

theorem visible_guards (c : Char) : (visible c).IsChain Guards ∧ (visible c).head? ≠ some '\x22' := by
  cases short : shortEscape c with
  | some letter => simp [visible_short short, Guards]
  | none =>
    have other : c ≠ '\x22' := by
      rintro rfl
      cases short
    rcases visible_long short with plain | long
    · simp [plain, other]
    · have quote (digit : Nat) : Nat.digitChar digit ≠ '\x22' := Nat.digitChar_ne '\x22' (by decide)
      have noQuote : '\x22' ∉ hexDigits c.toNat := not_mem_toDigits (by decide) quote c.toNat
      rw [long]
      exact ⟨guards_of_no_quote (by simp [noQuote]), by simp⟩

theorem flatMap_visible_guards (text : List Char) :
    (text.flatMap visible).IsChain Guards ∧ (text.flatMap visible).head? ≠ some '\x22' := by
  induction text with
  | nil => simp
  | cons c rest ih =>
    obtain ⟨inside, opens⟩ := visible_guards c
    rw [List.flatMap_cons, List.isChain_append]
    refine ⟨⟨inside, ih.1, ?_⟩, ?_⟩
    · rintro before - after member rfl
      exact absurd member ih.2
    · rw [List.head?_append_of_ne_nil _ (visible_ne_nil c)]
      exact opens

-- Behind an opening quote, every further quote stands behind a backslash.
theorem quote_behind_backslash {text before after : List Char}
    (split : '\x22' :: text.flatMap visible = before ++ '\x22' :: after) (longer : before ≠ []) :
    before.getLast? = some '\\' := by
  obtain ⟨inside, opens⟩ := flatMap_visible_guards text
  have chain : ('\x22' :: text.flatMap visible).IsChain Guards := by
    refine List.isChain_cons.mpr ⟨?_, inside⟩
    rintro after member rfl
    exact absurd member opens
  rw [split, List.isChain_append] at chain
  obtain ⟨last, ends⟩ := Option.ne_none_iff_exists'.mp (mt List.getLast?_eq_none_iff.mp longer)
  rw [ends, chain.2.2 last ends '\x22' rfl rfl]

-- The quote that opens one text cannot be a quote inside the other.
theorem opening_inj {front between first second : List Char}
    (closed : (front ++ between).getLast? ≠ some '\\')
    (split : '\x22' :: first.flatMap visible = between ++ '\x22' :: second.flatMap visible) :
    between = [] ∧ first = second := by
  by_cases same : between = []
  · subst same
    exact ⟨rfl, flatMap_visible_inj (List.cons.inj split).2⟩
  · rw [List.getLast?_append, quote_behind_backslash split same] at closed
    exact absurd rfl closed

/-- Behind texts that end with no backslash, two quoted texts are told apart from the right: what
stands in front of them is the same, and so are they. -/
theorem quoted_behind_inj {front other : List Char} {first second : String}
    (closed : front.getLast? ≠ some '\\') (shut : other.getLast? ≠ some '\\')
    (same : front ++ (quoted first).toList = other ++ (quoted second).toList) :
    front = other ∧ first = second := by
  have whole : front ++ '\x22' :: first.toList.flatMap visible ++ ['\x22'] =
      other ++ '\x22' :: second.toList.flatMap visible ++ ['\x22'] := by
    simpa [quoted] using same
  have cut := (List.append_inj' whole rfl).1
  rcases List.append_eq_append_iff.mp cut with ⟨between, rfl, split⟩ | ⟨between, rfl, split⟩
  · obtain ⟨rfl, texts⟩ := opening_inj shut split
    exact ⟨(List.append_nil front).symm, String.toList_inj.mp texts⟩
  · obtain ⟨rfl, texts⟩ := opening_inj closed split
    exact ⟨List.append_nil other, String.toList_inj.mp texts.symm⟩

end Quotes

end BoolQuery.Text
