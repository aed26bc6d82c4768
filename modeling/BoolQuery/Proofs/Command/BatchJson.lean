import BoolQuery.Proofs.Command.Batch
import BoolQuery.Proofs.Condition.JsonLimits
import Mathlib.Data.List.Forall2

/-! A batch as one JSON array. Around each condition there are two more levels, its object and the
array, so the conditions of a text that is to be read again are two levels less deep. -/
namespace BoolQuery

open Json (Reordered)
open Json.Reader (Leads State maxNesting)

section Reading

variable {value : Json}

theorem read_of_leads {text : String} (leads : Leads {} text ⟨[], .done value⟩) :
    Json.read (text ++ "\n") = .ok value := by
  have ended : State.run {} (text ++ "\n").toList = .complete value "\n".toList := by
    rw [String.toList_append, leads]
    rfl
  have blank : "\n".toList.all Json.Reader.isBlank := by decide
  simp only [Json.read, ended, blank, if_true]

theorem nesting_le_of_read {text : String} (read : Json.read text = .ok value) :
    value.nesting ≤ maxNesting := by
  rw [Json.read] at read
  split at read
  · next found rest complete =>
    split at read
    · cases read
      exact Json.Reader.nesting_of_complete complete
    · cases read
  · cases read

/-- A text is read again as its value just when the value is not nested too deep. -/
theorem read_pretty_iff (plain : value.numberless) :
    Json.read (value.pretty ++ "\n") = .ok value ↔ value.nesting ≤ maxNesting :=
  ⟨nesting_le_of_read, fun fits => read_of_leads (Json.Reader.leads_pretty plain fits)⟩

end Reading

section Entries

/-- A value stands for a query and its condition: it is an object with the query and a value that is
read as the condition, in whatever order its members are kept. -/
def Records (item : Json) (entry : String × Condition) : Prop :=
  ∃ value, item = .object [("query", .string entry.1), ("condition", value)] ∧
    ∀ kept, Reordered value kept → Condition.ofJson false kept = .ok entry.2

theorem batchEntry_records (entry : String × Condition) : Records (batchEntry entry) entry :=
  ⟨entry.2.toJson, rfl, fun _ reordered => Condition.ofJson_reordered reordered
    (Condition.distinctKeys_toJson entry.2) (Condition.ofJson_toJson entry.2 false)⟩

theorem nesting_batchEntry (entry : String × Condition) :
    (batchEntry entry).nesting = entry.2.depth + 1 := by
  simp [batchEntry, Json.nesting, Json.memberNesting, Condition.nesting_toJson,
    Condition.depth_eq_height]

theorem nesting_batch_le_iff (entries : List (String × Condition)) :
    (Json.array (entries.map batchEntry)).nesting ≤ maxNesting ↔
      ∀ entry ∈ entries, entry.2.depth ≤ 125 := by
  have limit : maxNesting = 126 + 1 := rfl
  rw [Json.nesting, limit, Nat.add_le_add_iff_right, Json.itemNesting_le_iff, List.forall_mem_map]
  exact forall_congr' fun entry => forall_congr' fun _ => by rw [nesting_batchEntry]; omega

end Entries

section Batches

variable {entries : List (String × Condition)} (highlighter : Highlighter)

theorem renderBatch_error_iff :
    (∃ refusal, renderBatch ⟨false⟩ highlighter entries = .error refusal) ↔
      ∃ entry ∈ entries, 1024 < entry.2.depth := by
  rw [renderBatch_eq]
  cases first : tooDeep? .json entries with
  | some entry =>
    have deep : 1024 < entry.2.depth := by simpa using List.find?_some first
    exact iff_of_true ⟨_, rfl⟩ ⟨entry, List.mem_of_find?_eq_some first, deep⟩
  | none =>
    have shallow := (tooDeep?_eq_none_iff .json entries).mp first rfl
    refine iff_of_false (fun ⟨_, refused⟩ => by cases refused) ?_
    rintro ⟨entry, member, deep⟩
    have := shallow entry member
    omega

theorem renderBatch_ok (shallow : ∀ entry ∈ entries, entry.2.depth ≤ 1024) :
    renderBatch ⟨false⟩ highlighter entries =
      .ok ((Json.array (entries.map batchEntry)).pretty ++ "\n") := by
  have fits := (tooDeep?_eq_none_iff .json entries).mpr fun _ => shallow
  rw [renderBatch_eq, fits]
  rfl

/-- A batch is written as JSON unless one of its conditions is more than 1024 deep. The text is one
array with an object for each query in order, and it is read again as that array just when no condition
is more than 125 deep. -/
theorem batch_all_or_nothing (highlighter : Highlighter) (entries : List (String × Condition)) :
    ((∃ refusal, renderBatch ⟨false⟩ highlighter entries = .error refusal) ↔
      ∃ entry ∈ entries, 1024 < entry.2.depth) ∧
    ((∀ entry ∈ entries, entry.2.depth ≤ 1024) → ∃ items text,
      renderBatch ⟨false⟩ highlighter entries = .ok text ∧ text = (Json.array items).pretty ++ "\n" ∧
      List.Forall₂ Records items entries ∧
      (Json.read text = .ok (.array items) ↔ ∀ entry ∈ entries, entry.2.depth ≤ 125)) := by
  refine ⟨renderBatch_error_iff highlighter,
    fun shallow => ⟨entries.map batchEntry, _, renderBatch_ok highlighter shallow, rfl, ?_, ?_⟩⟩
  · rw [List.forall₂_map_left_iff]
    exact List.forall₂_same.mpr fun entry _ => batchEntry_records entry
  · rw [read_pretty_iff (numberless_batch entries)]
    exact nesting_batch_le_iff entries

-- Queries with quotes, a backslash, a line feed and a control character; and one condition too many.
theorem awkward_batch_read_back :
    (∃ items text, renderBatch ⟨false⟩ .uniform [("\"a\\\" b\n", .or (.term "a\\") (.term "b")),
        ("NOT (c:\x01)", .not (.holds "c" "\x01"))] = .ok text ∧
      Json.read text = .ok (.array items) ∧
      List.Forall₂ Records items [("\"a\\\" b\n", .or (.term "a\\") (.term "b")),
        ("NOT (c:\x01)", .not (.holds "c" "\x01"))]) ∧
    ∃ refusal, renderBatch ⟨false⟩ .uniform [("a", .term "a"), ("b", .negated 1024 (.term "b"))] =
      .error refusal := by
  have shallow : ∀ entry ∈ [("\"a\\\" b\n", Condition.or (.term "a\\") (.term "b")),
      ("NOT (c:\x01)", .not (.holds "c" "\x01"))], entry.2.depth ≤ 125 := by
    simp [Condition.depth_eq_height, Condition.height, Condition.term]
  obtain ⟨items, text, written, -, records, read⟩ := (batch_all_or_nothing .uniform _).2
    fun entry member => Nat.le_trans (shallow entry member) (by decide)
  have deep : ∃ entry ∈ [("a", .term "a"), ("b", Condition.negated 1024 (.term "b"))],
      1024 < entry.2.depth := by
    refine ⟨_, List.mem_cons_of_mem _ List.mem_cons_self, ?_⟩
    rw [Condition.depth_negated, Condition.depth_eq_height, Condition.term, Condition.height]
    decide
  exact ⟨⟨items, text, written, read.mpr shallow, records⟩, (batch_all_or_nothing .uniform _).1.mpr deep⟩

end Batches

end BoolQuery
