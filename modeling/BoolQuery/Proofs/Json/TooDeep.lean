import BoolQuery.Proofs.Json.Text

/-! A value that is nested too deep is written but not read: the reader stops at the first bracket
for which it has no room. -/
namespace BoolQuery.Json.Reader

section Stopping

/-- Somewhere in the text the reader stops in a state, because a character cannot stand there. -/
def StopsIn (start : State) (text : String) (state : State) : Prop :=
  ∀ rest, start.run (text.toList ++ rest) = .stopped state .malformed

variable {start state stop : State} {out : String}

theorem stopsIn_append (stops : StopsIn start out stop) (text : String) :
    StopsIn start (out ++ text) stop := by
  intro rest
  rw [String.toList_append, List.append_assoc, stops]

theorem stopsIn_push (stops : StopsIn start out stop) (c : Char) : StopsIn start (out.push c) stop := by
  intro rest
  rw [String.toList_push, List.append_assoc, stops]

theorem stopsIn_newline (stops : StopsIn start out stop) (level : Nat) :
    StopsIn start (newline level out) stop := by
  have blanks (count : Nat) : StopsIn start ((out.push '\n').pushn ' ' count) stop := by
    induction count with
    | zero => exact stopsIn_push stops '\n'
    | succ count ih => exact stopsIn_push ih ' '
  exact blanks (2 * level)

theorem stopsIn_refused (leads : Leads start out state) (goesOn : state.mode.isOpen) {c : Char}
    (refused : state.step c = .error .malformed) : StopsIn start (out.push c) state := by
  intro rest
  rw [String.toList_push, List.append_assoc, leads, List.singleton_append, run_open goesOn, refused]

mutual

theorem stopsIn_value (value : Json) {start stop : State} {out : String}
    (stops : StopsIn start out stop) (level : Nat) : StopsIn start (writeValue level out value) stop := by
  match value with
  | .null | .bool _ | .number _ | .string _ => exact stopsIn_append stops _
  | .array items => exact stopsIn_array items (stopsIn_append stops "[") level
  | .object members => exact stopsIn_object members (stopsIn_append stops "\x7b") level

theorem stopsIn_array (items : List Json) {start stop : State} {out : String}
    (stops : StopsIn start (out ++ "[") stop) (level : Nat) :
    StopsIn start (writeValue level out (.array items)) stop := by
  match items with
  | [] =>
    have closed := stopsIn_append stops "]"
    rwa [String.append_assoc] at closed
  | first :: rest =>
    have opened := stopsIn_newline stops (level + 1)
    have written := stopsIn_items rest (stopsIn_value first opened (level + 1)) level
    exact stopsIn_append (stopsIn_newline written level) "]"

theorem stopsIn_object (members : List (String × Json)) {start stop : State} {out : String}
    (stops : StopsIn start (out ++ "\x7b") stop) (level : Nat) :
    StopsIn start (writeValue level out (.object members)) stop := by
  match members with
  | [] =>
    have closed := stopsIn_append stops "\x7d"
    rwa [String.append_assoc] at closed
  | (key, first) :: rest =>
    have opened := stopsIn_newline stops (level + 1)
    have named := stopsIn_append (stopsIn_append opened (stringText key)) ": "
    have written := stopsIn_members rest (stopsIn_value first named (level + 1)) level
    exact stopsIn_append (stopsIn_newline written level) "\x7d"

theorem stopsIn_items (items : List Json) {start stop : State} {out : String}
    (stops : StopsIn start out stop) (level : Nat) : StopsIn start (writeItems level out items) stop := by
  match items with
  | [] => exact stops
  | item :: rest =>
    have behind := stopsIn_newline (stopsIn_append stops ",") (level + 1)
    exact stopsIn_items rest (stopsIn_value item behind (level + 1)) level

theorem stopsIn_members (members : List (String × Json)) {start stop : State} {out : String}
    (stops : StopsIn start out stop) (level : Nat) :
    StopsIn start (writeMembers level out members) stop := by
  match members with
  | [] => exact stops
  | (key, value) :: rest =>
    have behind := stopsIn_newline (stopsIn_append stops ",") (level + 1)
    have named := stopsIn_append (stopsIn_append behind (stringText key)) ": "
    exact stopsIn_members rest (stopsIn_value value named (level + 1)) level

end

end Stopping

section Refusal

variable {start state : State} {out text : String} {frames : List Frame}

/-- The reader stops in the text, with these frames still around what it stands in. -/
def StopsInside (start : State) (text : String) (frames : List Frame) : Prop :=
  ∃ inner mode, StopsIn start text ⟨inner ++ frames, mode⟩

theorem stopsInside_outer {frame : Frame} (stops : StopsInside start text (frame :: frames)) :
    StopsInside start text frames := by
  obtain ⟨inner, mode, stops⟩ := stops
  exact ⟨inner ++ [frame], mode, by simpa using stops⟩

theorem stopsInside_begins (begins : Begins state frames) (stops : StopsInside start text frames) :
    StopsInside start text state.frames := by
  cases begins with
  | value => exact stops
  | item => exact stopsInside_outer stops

-- No bracket opens anything where all levels are in use.
theorem stopsIn_full (begins : Begins state frames) (leads : Leads start out state)
    (full : frames.length = maxNesting) :
    StopsIn start (out ++ "[") state ∧ StopsIn start (out ++ "\x7b") state := by
  have array : state.step '[' = .error .malformed := by
    simp [begins_step begins (c := '[') rfl (by decide), State.stepValue, full]
  have object : state.step '\x7b' = .error .malformed := by
    simp [begins_step begins (c := '\x7b') rfl (by decide), State.stepValue, full]
  rw [append_mark (c := '[') rfl, append_mark (c := '\x7b') rfl]
  exact ⟨stopsIn_refused leads (begins_open begins) array,
    stopsIn_refused leads (begins_open begins) object⟩

mutual

/-- In a value that is nested too deep the reader stops. -/
theorem stopsInside_value (value : Json) (plain : value.numberless) {start state : State}
    {out : String} {frames : List Frame} (begins : Begins state frames) (leads : Leads start out state)
    (fits : frames.length ≤ maxNesting) (deep : maxNesting < frames.length + value.nesting)
    (level : Nat) : StopsInside start (writeValue level out value) state.frames := by
  match value with
  | .null | .bool _ | .number _ | .string _ => exact absurd deep (Nat.not_lt.mpr fits)
  | .array items =>
    by_cases full : frames.length = maxNesting
    · exact ⟨[], _, stopsIn_array items (stopsIn_full begins leads full).1 level⟩
    simp only [Json.nesting] at deep
    have entered := (leads_enter begins leads (by omega)).1
    exact stopsInside_begins begins (stopsInside_array items plain entered (by omega) (by omega) level)
  | .object members =>
    by_cases full : frames.length = maxNesting
    · exact ⟨[], _, stopsIn_object members (stopsIn_full begins leads full).2 level⟩
    simp only [Json.nesting] at deep
    have entered := (leads_enter begins leads (by omega)).2
    exact stopsInside_begins begins (stopsInside_object members plain entered (by omega) (by omega) level)

theorem stopsInside_array (items : List Json) (plain : numberlessItems items) {start : State}
    {out : String} {frames : List Frame} (leads : Leads start (out ++ "[") ⟨frames, .firstItem⟩)
    (fits : frames.length < maxNesting) (deep : maxNesting ≤ frames.length + itemNesting items)
    (level : Nat) : StopsInside start (writeValue level out (.array items)) frames := by
  match items with
  | [] => exact absurd deep (Nat.not_le.mpr fits)
  | first :: rest =>
    simp only [numberlessItems, Bool.and_eq_true] at plain
    simp only [itemNesting] at deep
    have opened := leads_newline (begins_skips (.item frames)) leads (level + 1)
    by_cases here : maxNesting ≤ frames.length + first.nesting
    · obtain ⟨inner, mode, stops⟩ := stopsInside_value first plain.1 (.item frames) opened
        (by simp only [List.length_cons]; omega) (by simp only [List.length_cons]; omega) (level + 1)
      have written := stopsIn_items rest stops level
      exact ⟨inner, mode, stopsIn_append (stopsIn_newline written level) "]"⟩
    · have one := leads_value first plain.1 (.item frames) opened
        (by simp only [List.length_cons]; omega) (level + 1)
      obtain ⟨inner, mode, stops⟩ := stopsInside_items rest plain.2 one fits (by omega) level
      exact ⟨inner, mode, stopsIn_append (stopsIn_newline stops level) "]"⟩

theorem stopsInside_items (items : List Json) (plain : numberlessItems items) {start : State}
    {out : String} {frames : List Frame} {earlier : List Json}
    (leads : Leads start out ⟨frames, .afterItem earlier⟩) (fits : frames.length < maxNesting)
    (deep : maxNesting ≤ frames.length + itemNesting items) (level : Nat) :
    StopsInside start (writeItems level out items) frames := by
  match items with
  | [] => exact absurd deep (Nat.not_le.mpr fits)
  | item :: rest =>
    simp only [numberlessItems, Bool.and_eq_true] at plain
    simp only [itemNesting] at deep
    have behind := leads_nextItem leads (level + 1)
    by_cases here : maxNesting ≤ frames.length + item.nesting
    · obtain ⟨inner, mode, stops⟩ := stopsInside_outer (stopsInside_value item plain.1 (.value _) behind
        (by simp only [List.length_cons]; omega) (by simp only [List.length_cons]; omega) (level + 1))
      exact ⟨inner, mode, stopsIn_items rest stops level⟩
    · have one := leads_value item plain.1 (.value _) behind
        (by simp only [List.length_cons]; omega) (level + 1)
      exact stopsInside_items rest plain.2 one fits (by omega) level

theorem stopsInside_object (members : List (String × Json)) (plain : numberlessMembers members)
    {start : State} {out : String} {frames : List Frame}
    (leads : Leads start (out ++ "\x7b") ⟨frames, .firstKey⟩) (fits : frames.length < maxNesting)
    (deep : maxNesting ≤ frames.length + memberNesting members) (level : Nat) :
    StopsInside start (writeValue level out (.object members)) frames := by
  match members with
  | [] => exact absurd deep (Nat.not_le.mpr fits)
  | (key, first) :: rest =>
    simp only [numberlessMembers, Bool.and_eq_true] at plain
    simp only [memberNesting] at deep
    have named := leads_firstKey leads (level + 1) key
    by_cases here : maxNesting ≤ frames.length + first.nesting
    · obtain ⟨inner, mode, stops⟩ := stopsInside_outer (stopsInside_value first plain.1 (.value _) named
        (by simp only [List.length_cons]; omega) (by simp only [List.length_cons]; omega) (level + 1))
      have written := stopsIn_members rest stops level
      exact ⟨inner, mode, stopsIn_append (stopsIn_newline written level) "\x7d"⟩
    · have one := leads_value first plain.1 (.value _) named
        (by simp only [List.length_cons]; omega) (level + 1)
      obtain ⟨before, name, value, after, -, stops⟩ :=
        stopsInside_members rest plain.2 one fits (by omega) level
      obtain ⟨inner, mode, stops⟩ := stopsInside_outer stops
      exact ⟨inner, mode, stopsIn_append (stopsIn_newline stops level) "\x7d"⟩

/-- The reader stops in the value of one of the members, with those before it read. -/
theorem stopsInside_members (members : List (String × Json)) (plain : numberlessMembers members)
    {start : State} {out : String} {frames : List Frame} {earlier : List (String × Json)}
    (leads : Leads start out ⟨frames, .afterMember earlier⟩) (fits : frames.length < maxNesting)
    (deep : maxNesting ≤ frames.length + memberNesting members) (level : Nat) :
    ∃ before key value after, members = before ++ (key, value) :: after ∧
      StopsInside start (writeMembers level out members)
        (.object (before.reverse ++ earlier) key :: frames) := by
  match members with
  | [] => exact absurd deep (Nat.not_le.mpr fits)
  | (key, value) :: rest =>
    simp only [numberlessMembers, Bool.and_eq_true] at plain
    simp only [memberNesting] at deep
    have named := leads_nextKey leads (level + 1) key
    by_cases here : maxNesting ≤ frames.length + value.nesting
    · obtain ⟨inner, mode, stops⟩ := stopsInside_value value plain.1 (.value _) named
        (by simp only [List.length_cons]; omega) (by simp only [List.length_cons]; omega) (level + 1)
      exact ⟨[], key, value, rest, rfl, inner, mode, stopsIn_members rest stops level⟩
    · have one := leads_value value plain.1 (.value _) named
        (by simp only [List.length_cons]; omega) (level + 1)
      obtain ⟨before, name, found, after, rfl, stops⟩ :=
        stopsInside_members rest plain.2 one fits (by omega) level
      refine ⟨(key, value) :: before, name, found, after, rfl, ?_⟩
      rw [List.reverse_cons, List.append_assoc]
      exact stops

end

end Refusal

end BoolQuery.Json.Reader
