import BoolQuery.Text

/-! A text put together again from its lines. Only the carriage returns in front of its line feeds are
lost. -/
namespace BoolQuery.Text

section Phrases

theorem occursIn_iff {phrase text : List Char} : occursIn phrase text ↔ phrase <:+: text := by
  induction text with
  | nil => simp [occursIn]
  | cons c rest ih =>
    rw [occursIn, Bool.or_eq_true, List.isPrefixOf_iff_prefix, ih, List.infix_cons_iff]

theorem mentions_iff {phrase text : String} :
    mentions phrase text ↔ phrase.toList <:+: text.toList := occursIn_iff

theorem beginsWith_iff {phrase text : String} :
    beginsWith phrase text ↔ phrase.toList <+: text.toList := List.isPrefixOf_iff_prefix

theorem beginsWith_ofList {phrase : String} {text : List Char} :
    beginsWith phrase (String.ofList text) ↔ phrase.toList <+: text := by
  have chars : (String.ofList text).toList = text := String.toList_ofList
  rw [beginsWith_iff, chars]

-- A character that is not in the phrase keeps its two sides apart.
theorem infix_around {phrase before after : List Char} {c : Char} (other : c ∉ phrase) :
    phrase <:+: before ++ c :: after ↔ phrase <:+: before ∨ phrase <:+: after := by
  constructor
  · intro found
    rcases List.infix_append_iff.mp found with left | right | ⟨first, second, rfl, ends, begins⟩
    · exact Or.inl left
    · rcases List.infix_cons_iff.mp right with begins | inside
      · cases phrase with
        | nil => exact Or.inl (List.nil_infix)
        | cons d rest =>
          obtain ⟨rfl, -⟩ := List.cons_prefix_cons.mp begins
          exact absurd List.mem_cons_self other
      · exact Or.inr inside
    · cases second with
      | nil => exact Or.inl (by simpa using ends.isInfix)
      | cons d rest =>
        obtain ⟨rfl, -⟩ := List.cons_prefix_cons.mp begins
        exact absurd (List.mem_append_right first List.mem_cons_self) other
  · rintro (left | right)
    · exact left.trans (List.prefix_append before _).isInfix
    · exact right.trans ((List.suffix_cons c after).trans (List.suffix_append before _)).isInfix

-- A beginning ends before any character that is not in it.
theorem prefix_around {phrase before after : List Char} {c : Char} (other : c ∉ phrase) :
    phrase <+: before ++ c :: after ↔ phrase <+: before := by
  induction before generalizing phrase with
  | nil =>
    cases phrase with
    | nil => simp
    | cons d rest =>
      have apart : d ≠ c := fun same => other (by rw [same]; exact List.mem_cons_self)
      simp [List.cons_prefix_cons, apart]
  | cons b more ih =>
    cases phrase with
    | nil => simp
    | cons d rest =>
      have others : c ∉ rest := fun member => other (List.mem_cons_of_mem d member)
      rw [List.cons_append, List.cons_prefix_cons, List.cons_prefix_cons, ih others]

-- A character that is in neither of two texts parts what stands behind it from them.
theorem parted_at_first {c : Char} {text other first second : List Char} (apart : c ∉ text)
    (away : c ∉ other) (same : text ++ c :: first = other ++ c :: second) :
    text = other ∧ first = second := by
  induction text generalizing other with
  | nil =>
    cases other with
    | nil => exact ⟨rfl, (List.cons.inj same).2⟩
    | cons d others => exact absurd ((List.cons.inj same).1 ▸ List.mem_cons_self) away
  | cons b rest ih =>
    cases other with
    | nil => exact absurd ((List.cons.inj same).1 ▸ List.mem_cons_self) apart
    | cons d others =>
      obtain ⟨rfl, behind⟩ := List.cons.inj same
      obtain ⟨rfl, rfl⟩ := ih (fun member => apart (List.mem_cons_of_mem b member))
        (fun member => away (List.mem_cons_of_mem b member)) behind
      exact ⟨rfl, rfl⟩

end Phrases

section Lines

theorem dropReturn_kept {line : List Char} (other : line.head? ≠ some '\r') : dropReturn line = line := by
  unfold dropReturn
  split
  · exact absurd rfl other
  · rfl

theorem dropReturn_cases (line : List Char) :
    line.head? ≠ some '\r' ∧ dropReturn line = line ∨ line = '\r' :: dropReturn line := by
  by_cases ends : line.head? = some '\r'
  · obtain ⟨rest, rfl⟩ := List.head?_eq_some_iff.mp ends
    exact Or.inr rfl
  · exact Or.inl ⟨ends, dropReturn_kept ends⟩

theorem dropReturn_append (line : List Char) {more : List Char} (other : more.head? ≠ some '\r') :
    dropReturn (line ++ more) = dropReturn line ++ more := by
  cases line with
  | nil => exact dropReturn_kept other
  | cons c rest =>
    by_cases ends : c = '\r'
    · rw [ends]
      rfl
    · have first : (c :: rest).head? ≠ some '\r' := by simpa using ends
      have all : (c :: (rest ++ more)).head? ≠ some '\r' := by simpa using ends
      rw [dropReturn_kept first, List.cons_append, dropReturn_kept all]

theorem linesFrom_append (line first rest : List Char) :
    linesFrom line (first ++ '\n' :: rest) = linesFrom line (first ++ ['\n']) ++ linesFrom [] rest := by
  induction first generalizing line with
  | nil => simp [linesFrom]
  | cons c more ih =>
    rw [List.cons_append, List.cons_append, linesFrom, linesFrom]
    split
    · rw [ih, List.cons_append]
    · exact ih (c :: line)

theorem linesFrom_feed {part : List Char} (whole : '\n' ∉ part) (line rest : List Char) :
    linesFrom line (part ++ '\n' :: rest) =
      (dropReturn (part.reverse ++ line)).reverse :: linesFrom [] rest := by
  induction part generalizing line with
  | nil => simp [linesFrom]
  | cons c part ih =>
    have inside : c ≠ '\n' := fun feed => whole (by simp [feed])
    have others : '\n' ∉ part := fun member => whole (List.mem_cons_of_mem c member)
    rw [List.cons_append, linesFrom, if_neg inside, ih others]
    simp

theorem mem_linesFrom {line text found : List Char} (member : found ∈ linesFrom line text) :
    ∀ c ∈ found, c ∈ line ∨ c ∈ text := by
  induction text generalizing line with
  | nil =>
    rw [linesFrom] at member
    split at member
    · cases member
    · obtain rfl := List.mem_singleton.mp member
      exact fun c inside => Or.inl (List.mem_reverse.mp inside)
  | cons d rest ih =>
    intro c inside
    rw [linesFrom] at member
    split at member
    · rcases List.mem_cons.mp member with rfl | later
      · have whole := List.mem_reverse.mp inside
        rcases dropReturn_cases line with ⟨-, same⟩ | longer
        · exact Or.inl (same ▸ whole)
        · exact Or.inl (longer ▸ List.mem_cons_of_mem _ whole)
      · exact Or.inr (List.mem_cons_of_mem d ((ih later c inside).resolve_left List.not_mem_nil))
    · rcases ih member c inside with before | after
      · rcases List.mem_cons.mp before with rfl | before
        · exact Or.inr List.mem_cons_self
        · exact Or.inl before
      · exact Or.inr (List.mem_cons_of_mem d after)

/-- No line has a line feed in it. -/
theorem feed_not_mem_linesFrom {line text found : List Char} (whole : '\n' ∉ line)
    (member : found ∈ linesFrom line text) : '\n' ∉ found := by
  induction text generalizing line with
  | nil =>
    rw [linesFrom] at member
    split at member
    · cases member
    · obtain rfl := List.mem_singleton.mp member
      simpa using whole
  | cons c rest ih =>
    rw [linesFrom] at member
    split at member
    · rcases List.mem_cons.mp member with rfl | later
      · intro feed
        have inside := List.mem_reverse.mp feed
        rcases dropReturn_cases line with ⟨-, same⟩ | longer
        · exact whole (same ▸ inside)
        · exact whole (longer ▸ List.mem_cons_of_mem _ inside)
      · exact ih List.not_mem_nil later
    · next other =>
      refine ih ?_ member
      rw [List.mem_cons, not_or]
      exact ⟨fun same => other same.symm, whole⟩

/-- A line begins with a phrase just when the text does or the phrase stands behind a line feed. -/
theorem begins_line_iff {phrase line text : List Char} (some : phrase ≠ []) (feed : '\n' ∉ phrase)
    (return_ : '\r' ∉ phrase) :
    (∃ found ∈ linesFrom line text, phrase <+: found) ↔
      phrase <+: line.reverse ++ text ∨ '\n' :: phrase <:+: text := by
  induction text generalizing line with
  | nil =>
    rw [linesFrom]
    split
    · next empty => simp [empty, some]
    · simp
  | cons c rest ih =>
    rw [linesFrom]
    split
    · next isFeed =>
      have first : phrase <+: (dropReturn line).reverse ↔ phrase <+: line.reverse ++ c :: rest := by
        rw [isFeed, prefix_around feed]
        rcases dropReturn_cases line with ⟨-, same⟩ | longer
        · rw [same]
        · conv => rhs; rw [longer, List.reverse_cons, prefix_around return_]
      simp only [List.mem_cons, exists_eq_or_imp, first, ih, List.infix_cons_iff, isFeed,
        List.cons_prefix_cons, List.reverse_nil, List.nil_append, true_and]
    · next inside =>
      have other : ¬ '\n' :: phrase <+: c :: rest := fun begins =>
        inside (List.cons_prefix_cons.mp begins).1.symm
      rw [ih, List.infix_cons_iff, List.reverse_cons, List.append_assoc]
      simp [other]

theorem toList_pushn (text : String) (c : Char) (count : Nat) :
    (text.pushn c count).toList = text.toList ++ List.replicate count c := by
  induction count with
  | zero => simp [String.pushn_eq_repeat_push, Nat.repeat]
  | succ count ih =>
    rw [String.pushn_eq_repeat_push] at ih ⊢
    rw [Nat.repeat, String.toList_push, ih, List.replicate_succ', List.append_assoc]

/-- Some lines with a line feed behind each. -/
def joinLines (lines : List (List Char)) : List Char := lines.flatMap fun line => line ++ ['\n']

theorem joinLines_cons (line : List Char) (rest : List (List Char)) :
    joinLines (line :: rest) = line ++ '\n' :: joinLines rest := by simp [joinLines]

/-- Lines without line feeds in them are known from their text. -/
theorem joinLines_inj {lines others : List (List Char)} (whole : ∀ line ∈ lines, '\n' ∉ line)
    (unbroken : ∀ line ∈ others, '\n' ∉ line) (same : joinLines lines = joinLines others) :
    lines = others := by
  induction lines generalizing others with
  | nil =>
    cases others with
    | nil => rfl
    | cons other rest => simp [joinLines] at same
  | cons line rest ih =>
    cases others with
    | nil => simp [joinLines] at same
    | cons other behind =>
      rw [joinLines_cons, joinLines_cons] at same
      rw [List.forall_mem_cons] at whole unbroken
      obtain ⟨rfl, texts⟩ := parted_at_first whole.1 unbroken.1 same
      rw [ih whole.2 unbroken.2 texts]

/-- A text without the carriage returns that stand in front of its line feeds. -/
def withoutReturns : List Char → List Char
  | [] => []
  | c :: rest =>
    if c = '\r' ∧ rest.head? = some '\n' then withoutReturns rest else c :: withoutReturns rest

theorem withoutReturns_cons (c : Char) (rest : List Char) :
    withoutReturns (c :: rest) =
      if c = '\r' ∧ rest.head? = some '\n' then withoutReturns rest else c :: withoutReturns rest := rfl

theorem withoutReturns_append {first second : List Char}
    (apart : first.getLast? ≠ some '\r' ∨ second.head? ≠ some '\n') :
    withoutReturns (first ++ second) = withoutReturns first ++ withoutReturns second := by
  induction first with
  | nil => rfl
  | cons c rest ih =>
    cases rest with
    | nil =>
      have kept : ¬ (c = '\r' ∧ second.head? = some '\n') := by
        rintro ⟨rfl, feed⟩
        simp [feed] at apart
      simp [withoutReturns, kept]
    | cons d more =>
      have others : (d :: more).getLast? ≠ some '\r' ∨ second.head? ≠ some '\n' := by
        simpa [List.getLast?_cons_cons] using apart
      rw [List.cons_append, withoutReturns_cons, ih others, withoutReturns_cons c]
      by_cases lost : c = '\r' ∧ d = '\n' <;> simp [lost]

theorem withoutReturns_whole {text : List Char} (whole : '\n' ∉ text) : withoutReturns text = text := by
  induction text with
  | nil => rfl
  | cons c rest ih =>
    have others : '\n' ∉ rest := fun member => whole (List.mem_cons_of_mem c member)
    have kept : ¬ (c = '\r' ∧ rest.head? = some '\n') := by
      rintro ⟨-, feed⟩
      exact others (List.mem_of_head? feed)
    rw [withoutReturns_cons, if_neg kept, ih others]

theorem length_withoutReturns_le (text : List Char) : (withoutReturns text).length ≤ text.length := by
  induction text with
  | nil => exact Nat.le_refl _
  | cons c rest ih =>
    rw [withoutReturns_cons]
    split
    · exact Nat.le_succ_of_le ih
    · exact Nat.succ_le_succ ih

/-- Nothing is lost just when no carriage return stands in front of a line feed. -/
theorem withoutReturns_eq_self_iff {text : List Char} :
    withoutReturns text = text ↔ ¬ ['\r', '\n'] <:+: text := by
  induction text with
  | nil => simp [withoutReturns]
  | cons c rest ih =>
    have first : ['\r', '\n'] <+: c :: rest ↔ c = '\r' ∧ rest.head? = some '\n' := by
      cases rest with
      | nil => simp
      | cons d more => simp [List.cons_prefix_cons, eq_comm]
    rw [List.infix_cons_iff, first, not_or, ← ih, withoutReturns_cons]
    by_cases lost : c = '\r' ∧ rest.head? = some '\n'
    · have shorter := length_withoutReturns_le rest
      rw [if_pos lost]
      refine iff_of_false (fun same => ?_) (fun both => both.1 lost)
      have sizes := congrArg List.length same
      rw [List.length_cons] at sizes
      omega
    · simp [lost]

theorem withoutReturns_line {line : List Char} (whole : '\n' ∉ line) (rest : List Char) :
    withoutReturns (line.reverse ++ '\n' :: rest) =
      (dropReturn line).reverse ++ '\n' :: withoutReturns rest := by
  cases line with
  | nil => simp [withoutReturns, dropReturn]
  | cons c more =>
    have others : '\n' ∉ more.reverse := fun member =>
      whole (List.mem_cons_of_mem c (List.mem_reverse.mp member))
    have inside : c ≠ '\n' := fun feed => whole (by simp [feed])
    -- What stands in front of the last character of the line is kept.
    rw [List.reverse_cons, List.append_assoc, List.singleton_append,
      withoutReturns_append (Or.inr (by simpa using inside)), withoutReturns_whole others]
    by_cases lost : c = '\r'
    · subst lost
      simp [withoutReturns, dropReturn]
    · have kept : dropReturn (c :: more) = c :: more := dropReturn_kept (by simpa using lost)
      simp [withoutReturns, lost, kept]

theorem joinLines_linesFrom {line text : List Char} (whole : '\n' ∉ line)
    (ends : text.getLast? = some '\n' ∨ line = [] ∧ text = []) :
    joinLines (linesFrom line text) = withoutReturns (line.reverse ++ text) := by
  -- Induction over the text, for any beginning of a line in front of it.
  induction text generalizing line with
  | nil =>
    rcases ends with last | ⟨rfl, -⟩
    · simp at last
    · rfl
  | cons c rest ih =>
    rw [linesFrom]
    by_cases feed : c = '\n'
    · subst feed
      have behind : rest.getLast? = some '\n' ∨ ([] : List Char) = [] ∧ rest = [] := by
        cases rest with
        | nil => simp
        | cons d more => simpa [List.getLast?_cons_cons] using ends
      have others := ih List.not_mem_nil behind
      rw [if_pos rfl, withoutReturns_line whole, ← List.nil_append rest, ← List.reverse_nil, ← others]
      simp [joinLines]
    · have behind : rest.getLast? = some '\n' ∨ c :: line = [] ∧ rest = [] := by
        cases rest with
        | nil => simp [feed] at ends
        | cons d more => simpa [List.getLast?_cons_cons] using ends
      have longer : '\n' ∉ c :: line := by simp [whole, Ne.symm feed]
      rw [if_neg feed, ih longer behind]
      simp

/-- The lines of a text that ends with a line feed are the text without the carriage returns in front of
its line feeds. -/
theorem joinLines_lines {text : List Char} (ends : text.getLast? = some '\n') :
    joinLines (linesFrom [] text) = withoutReturns text :=
  joinLines_linesFrom List.not_mem_nil (Or.inl ends)

end Lines

end BoolQuery.Text
