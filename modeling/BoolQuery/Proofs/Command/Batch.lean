import BoolQuery.Command.Run
import BoolQuery.Proofs.Condition.Encoding
import BoolQuery.Proofs.Json.Controls
import BoolQuery.Proofs.Palette.Strip

/-! Several queries at once. Each is told or printed for itself, and the commands that read queries come
to the same verdict about the list. -/
namespace BoolQuery

section Streams

def resultTexts (printed : List Printed) : List String :=
  printed.filterMap fun
    | .result text => some text
    | .remark _ => none

/-- `context.Tells spoken printed`: apart from log lines, the remarks among what is printed are those
spoken, in their order. -/
inductive Context.Tells (context : Context) : List String → List Printed → Prop
  | nil : context.Tells [] []
  | remark (text : String) {spoken : List String} {printed : List Printed}
    (others : context.Tells spoken printed) : context.Tells (text :: spoken) (.remark text :: printed)
  | log (event : Log.Event) {spoken : List String} {printed : List Printed}
    (passes : context.filter.passes event) (others : context.Tells spoken printed) :
    context.Tells spoken (.remark (event.line context.palette) :: printed)
  | result (text : String) {spoken : List String} {printed : List Printed}
    (others : context.Tells spoken printed) : context.Tells spoken (.result text :: printed)

variable {context : Context} {spoken more : List String} {printed behind : List Printed}

theorem tells_append (tells : context.Tells spoken printed) (onward : context.Tells more behind) :
    context.Tells (spoken ++ more) (printed ++ behind) := by
  induction tells with
  | nil => exact onward
  | remark text _ ih => exact .remark text ih
  | log event passes _ ih => exact .log event passes ih
  | result text _ ih => exact .result text ih

theorem tells_behind (aside : context.Tells [] behind) (tells : context.Tells spoken printed) :
    context.Tells spoken (behind ++ printed) :=
  tells_append aside tells

theorem tells_flatMap {item : Type} {spoken : item → List String} {printed : item → List Printed}
    (tells : ∀ one, context.Tells (spoken one) (printed one)) (items : List item) :
    context.Tells (items.flatMap spoken) (items.flatMap printed) := by
  induction items with
  | nil => exact .nil
  | cons one rest ih => exact tells_append (tells one) ih

theorem tells_log (event : Log.Event) : context.Tells [] (context.log event) := by
  unfold Context.log
  split
  · next passes => exact .log event passes .nil
  · exact .nil

theorem tells_logs {item : Type} (event : item → Log.Event) (items : List item) :
    context.Tells [] (items.flatMap fun one => context.log (event one)) := by
  induction items with
  | nil => exact .nil
  | cons one rest ih => exact tells_append (tells_log (event one)) ih

theorem tells_texts (texts : List String) : context.Tells texts (texts.map .remark) := by
  induction texts with
  | nil => exact .nil
  | cons text rest ih => exact .remark text ih

theorem results_texts (texts : List String) : resultTexts (texts.map .remark) = [] := by
  induction texts with
  | nil => rfl
  | cons text rest ih => exact ih

theorem results_append (printed behind : List Printed) :
    resultTexts (printed ++ behind) = resultTexts printed ++ resultTexts behind :=
  List.filterMap_append

theorem results_flatMap {item : Type} (printed : item → List Printed) (items : List item) :
    resultTexts (items.flatMap printed) = items.flatMap fun one => resultTexts (printed one) := by
  simp only [resultTexts, List.filterMap_flatMap]

theorem results_log (context : Context) (event : Log.Event) : resultTexts (context.log event) = [] := by
  unfold Context.log
  split <;> rfl

theorem results_logs {item : Type} (context : Context) (event : item → Log.Event)
    (items : List item) : resultTexts (items.flatMap fun one => context.log (event one)) = [] := by
  rw [results_flatMap]
  simp [results_log]

end Streams

section Verdicts

/-- The queries that cannot be read, with their errors. -/
def unreadable (limit : Nat) (queries : List String) : List (String × QueryError) :=
  queries.filterMap fun query =>
    match parse query limit with
    | .ok _ => none
    | .error error => some (query, error)

def Context.complaints (context : Context) (limit : Nat) (queries : List String) : List String :=
  (unreadable limit queries).map fun (query, error) => error.renderIn context.palette query

variable {context : Context} {limit : Nat}

theorem readable_cons (limit : Nat) (query : String) (rest : List String) :
    readable limit (query :: rest) =
      match parse query limit with
      | .ok condition => (query, condition) :: readable limit rest
      | .error _ => readable limit rest := by
  unfold readable
  rw [List.filterMap_cons]
  cases parse query limit <;> rfl

theorem unreadable_cons (limit : Nat) (query : String) (rest : List String) :
    unreadable limit (query :: rest) =
      match parse query limit with
      | .ok _ => unreadable limit rest
      | .error error => (query, error) :: unreadable limit rest := by
  unfold unreadable
  rw [List.filterMap_cons]
  cases parse query limit <;> rfl

theorem length_readable (limit : Nat) (queries : List String) :
    (readable limit queries).length + (unreadable limit queries).length = queries.length := by
  induction queries with
  | nil => rfl
  | cons query rest ih =>
    rw [readable_cons, unreadable_cons]
    cases parse query limit with
    | ok condition => simp only [List.length_cons]; omega
    | error error => simp only [List.length_cons]; omega

theorem complaints_flatMap (context : Context) (limit : Nat) (queries : List String) :
    context.complaints limit queries = queries.flatMap fun query => context.complaints limit [query] := by
  induction queries with
  | nil => rfl
  | cons query rest ih =>
    rw [List.flatMap_cons, ← ih]
    simp only [Context.complaints, unreadable_cons]
    cases parse query limit <;> rfl

theorem tells_remarksOn (query : String) :
    context.Tells (context.complaints limit [query]) (context.remarksOn limit query) := by
  have told : context.Tells (context.complaints limit [query])
      (match parse query limit with
        | .ok _ => []
        | .error error => [context.complaint query error]) := by
    rw [Context.complaints, unreadable_cons]
    cases parse query limit with
    | ok condition => exact .nil
    | error error => exact .remark _ .nil
  exact tells_behind (tells_logs id _) told

theorem results_remarksOn (context : Context) (limit : Nat) (query : String) :
    resultTexts (context.remarksOn limit query) = [] := by
  have logged : resultTexts (context.logParse query limit) = [] := results_logs context id _
  rw [Context.remarksOn, results_append, logged]
  cases parse query limit <;> rfl

end Verdicts

section Rendering

variable (palette : Palette) (highlighter : Highlighter)

/-- A condition as it is printed when it is not too deep. -/
def shown (format : Format) (condition : Condition) : String :=
  match format with
  | .tree => condition.outline
  | .query => condition.toQuery ++ "\n"
  | .json => palette.highlight highlighter .json condition.toJson.pretty ++ "\n"

/-- A condition of a batch as it is printed; a tree of several has its query in front. -/
def shownLabelled (format : Format) (several : Bool) (entry : String × Condition) : String :=
  (if several ∧ format = .tree then palette.paint .strong entry.1 ++ "\n" else "") ++
    shown palette highlighter format entry.2

/-- A batch as it is printed: the conditions one behind the other, or for several queries in JSON one
array of objects. -/
def shownBatch (format : Format) (several : Bool) (entries : List (String × Condition)) : String :=
  if format = .json ∧ several then
    palette.highlight highlighter .json (Json.array (entries.map fun entry =>
      .object [("query", .string entry.1), ("condition", entry.2.toJson)])).pretty ++ "\n"
  else String.join (entries.map (shownLabelled palette highlighter format several))

/-- The first condition that is too deep for the format. -/
def tooDeep? (format : Format) (entries : List (String × Condition)) : Option (String × Condition) :=
  entries.find? fun entry => format = .json ∧ 1024 < entry.2.depth

theorem tooDeep?_cons (format : Format) (entry : String × Condition)
    (rest : List (String × Condition)) :
    tooDeep? format (entry :: rest) =
      if format = .json ∧ 1024 < entry.2.depth then some entry else tooDeep? format rest := by
  by_cases deep : format = .json ∧ 1024 < entry.2.depth
  · simp [tooDeep?, deep]
  · simp [tooDeep?, deep]

theorem tooDeep?_eq_none_iff (format : Format) (entries : List (String × Condition)) :
    tooDeep? format entries = none ↔
      (format = .json → ∀ entry ∈ entries, entry.2.depth ≤ 1024) := by
  rw [tooDeep?, List.find?_eq_none]
  constructor
  · intro shallow json entry among
    have := shallow entry among
    simpa [json] using this
  · intro shallow entry among
    simpa using fun json => shallow json entry among

theorem renderCondition_eq (format : Format) (condition : Condition) :
    renderCondition palette highlighter format condition =
      if format = .json ∧ 1024 < condition.depth then .error ⟨condition.depth⟩
      else .ok (shown palette highlighter format condition) := by
  cases format with
  | tree => simp [renderCondition, shown]
  | query => simp [renderCondition, shown]
  | json =>
    have limit : maxJsonDepth = 1024 := rfl
    by_cases deep : 1024 < condition.depth
    · simp [renderCondition, checkJsonDepth, limit, deep, bind, Except.bind]
    · simp [renderCondition, checkJsonDepth, limit, deep, bind, Except.bind, pure, Except.pure, shown]

-- The first condition that is refused ends the run, and what was put together before it is dropped.
theorem foldlM_shown (format : Format) (text : String × Condition → String)
    (step : String → String × Condition → Except TooDeepForJson String)
    (stepped : ∀ out entry, step out entry =
      if format = .json ∧ 1024 < entry.2.depth then .error ⟨entry.2.depth⟩ else .ok (out ++ text entry))
    (entries : List (String × Condition)) (out : String) :
    entries.foldlM step out =
      match tooDeep? format entries with
      | some entry => .error ⟨entry.2.depth⟩
      | none => .ok (out ++ String.join (entries.map text)) := by
  induction entries generalizing out with
  | nil => simp [tooDeep?, pure, Except.pure]
  | cons entry rest ih =>
    rw [List.foldlM_cons, stepped, tooDeep?_cons]
    by_cases deep : format = .json ∧ 1024 < entry.2.depth
    · rw [if_pos deep, if_pos deep]
      rfl
    · rw [if_neg deep, if_neg deep, List.map_cons, String.join_cons, ← String.append_assoc]
      exact ih (out ++ text entry)

theorem renderEach_eq (format : Format) (several : Bool) (entries : List (String × Condition)) :
    renderEach palette highlighter format several entries =
      match tooDeep? format entries with
      | some entry => .error ⟨entry.2.depth⟩
      | none => .ok (String.join (entries.map (shownLabelled palette highlighter format several))) := by
  unfold renderEach
  rw [foldlM_shown format (shownLabelled palette highlighter format several), String.empty_append]
  intro out entry
  simp only [renderCondition_eq, shownLabelled]
  split
  · rfl
  · simp [bind, Except.bind, pure, Except.pure, String.append_assoc]

theorem forM_checkJsonDepth (entries : List (String × Condition)) :
    (entries.forM fun entry => checkJsonDepth entry.2) =
      match tooDeep? .json entries with
      | some entry => .error ⟨entry.2.depth⟩
      | none => .ok () := by
  have limit : maxJsonDepth = 1024 := rfl
  induction entries with
  | nil => rfl
  | cons entry rest ih =>
    rw [List.forM_eq_forM, List.forM_cons, tooDeep?_cons, checkJsonDepth, limit]
    by_cases deep : 1024 < entry.2.depth
    · rw [if_pos deep, if_pos ⟨rfl, deep⟩]
      rfl
    · rw [if_neg deep, if_neg fun both => deep both.2]
      exact ih

theorem renderBatch_eq (entries : List (String × Condition)) :
    renderBatch palette highlighter entries =
      match tooDeep? .json entries with
      | some entry => .error ⟨entry.2.depth⟩
      | none => .ok (shownBatch palette highlighter .json true entries) := by
  unfold renderBatch
  rw [forM_checkJsonDepth]
  cases tooDeep? .json entries with
  | some entry => rfl
  | none => rfl

theorem rendered_eq (format : Format) (several : Bool) (entries : List (String × Condition)) :
    (if format = .json && several then renderBatch palette highlighter entries
      else renderEach palette highlighter format several entries) =
      match tooDeep? format entries with
      | some entry => .error ⟨entry.2.depth⟩
      | none => .ok (shownBatch palette highlighter format several entries) := by
  by_cases array : format = .json ∧ several
  · obtain ⟨rfl, rfl⟩ := array
    exact renderBatch_eq palette highlighter entries
  · have each : shownBatch palette highlighter format several entries =
        String.join (entries.map (shownLabelled palette highlighter format several)) := if_neg array
    rw [if_neg (by simpa using array), each]
    exact renderEach_eq palette highlighter format several entries

end Rendering

section Colors

open Palette (Remains remains_highlight strip_of_whole)

variable (palette : Palette) (highlighter : Highlighter)

theorem numberless_entry (entry : String × Condition) : (batchEntry entry).numberless := by
  simp [batchEntry, Json.numberless, Json.numberlessMembers, Condition.numberless_toJson]

theorem numberless_batch (entries : List (String × Condition)) :
    (Json.array (entries.map batchEntry)).numberless := by
  rw [Json.numberless]
  induction entries with
  | nil => rfl
  | cons entry rest ih =>
    rw [List.map_cons, Json.numberlessItems, ih, numberless_entry]
    rfl

theorem remains_json {value : Json} (plain : value.numberless) {rest out : List Char}
    (others : Remains rest out) :
    Remains ((palette.highlight highlighter .json value.pretty ++ "\n").toList ++ rest)
      ((value.pretty ++ "\n").toList ++ out) := by
  have feed : Remains ("\n".toList ++ rest) ("\n".toList ++ out) := .kept nofun others
  rw [String.toList_append, String.toList_append, List.append_assoc, List.append_assoc]
  exact remains_highlight palette highlighter .json (Json.escape_not_mem_pretty plain) feed

theorem remains_conditions (several : Bool) (entries : List (String × Condition)) :
    Remains (String.join (entries.map (shownLabelled palette highlighter .json several))).toList
      (String.join (entries.map (shownLabelled ⟨false⟩ highlighter .json several))).toList := by
  induction entries with
  | nil => exact .done
  | cons entry rest ih =>
    have unlabelled (colors : Palette) : shownLabelled colors highlighter .json several entry =
        colors.highlight highlighter .json entry.2.toJson.pretty ++ "\n" := by
      simp [shownLabelled, shown]
    have both := remains_json palette highlighter (Condition.numberless_toJson entry.2) ih
    rw [← String.toList_append, ← String.toList_append] at both
    rw [List.map_cons, List.map_cons, String.join_cons, String.join_cons, unlabelled, unlabelled]
    exact both

/-- Without its colors a batch in JSON is what it would be if there were none. -/
theorem strip_shownBatch (several : Bool) (entries : List (String × Condition)) :
    Palette.strip (shownBatch palette highlighter .json several entries) =
      shownBatch ⟨false⟩ highlighter .json several entries := by
  have remains : Remains (shownBatch palette highlighter .json several entries).toList
      (shownBatch ⟨false⟩ highlighter .json several entries).toList := by
    unfold shownBatch
    by_cases array : several
    · rw [if_pos ⟨rfl, array⟩, if_pos ⟨rfl, array⟩]
      have whole := remains_json palette highlighter (numberless_batch entries) .done
      rwa [List.append_nil, List.append_nil] at whole
    · rw [if_neg fun both => array both.2, if_neg fun both => array both.2]
      exact remains_conditions palette highlighter several entries
  exact strip_of_whole remains

end Colors

section Batches

variable {context : Context} {limit : Nat} {queries : List String}

def refused (entry : String × Condition) : String :=
  "error: failed to serialize JSON: " ++ (TooDeepForJson.mk entry.2.depth).message ++ "\n"

/-- What a check says about a query that can be read. -/
def Context.approval (context : Context) (entry : String × Condition) : String :=
  context.palette.paint .success "ok" ++ " " ++ entry.1 ++ "\n"

/-- What a check says at the end about a list of queries: how many cannot be read, if there are such
queries and more than one was given. -/
def Context.tally (context : Context) (limit : Nat) (queries : List String) : List String :=
  if unreadable limit queries ≠ [] ∧ 1 < queries.length then
    [context.palette.paint .warning
      (toString (unreadable limit queries).length ++ " of " ++ toString queries.length ++
        " queries failed") ++ "\n"]
  else []

/-- How a list of queries is parsed, query by query. -/
structure ParsesEach (context : Context) (format : Format) (limit : Nat) (queries : List String)
    (outcome : Outcome) : Prop where
  success : outcome.exit = 0 ↔ unreadable limit queries = [] ∧
    (format = .json → ∀ entry ∈ readable limit queries, entry.2.depth ≤ 1024)
  failure : outcome.exit = 0 ∨ outcome.exit = 1
  told : context.Tells
    (context.complaints limit queries ++ (tooDeep? format (readable limit queries)).toList.map refused)
    outcome.printed
  results : resultTexts outcome.printed =
    match tooDeep? format (readable limit queries) with
    | some _ => []
    | none => [shownBatch context.palette context.highlighter format (1 < queries.length)
        (readable limit queries)]
  uncolored : format = .json → ∀ text ∈ resultTexts outcome.printed, Palette.strip text =
    shownBatch ⟨false⟩ context.highlighter format (1 < queries.length) (readable limit queries)

/-- How a list of queries is checked, query by query. -/
structure ChecksEach (context : Context) (quiet : Bool) (limit : Nat) (queries : List String)
    (outcome : Outcome) : Prop where
  success : outcome.exit = 0 ↔ unreadable limit queries = []
  failure : outcome.exit = 0 ∨ outcome.exit = 1
  told : context.Tells (context.complaints limit queries ++ context.tally limit queries)
    outcome.printed
  results : resultTexts outcome.printed =
    if quiet then [] else (readable limit queries).map context.approval

theorem length_readable_eq_iff (limit : Nat) (queries : List String) :
    (readable limit queries).length = queries.length ↔ unreadable limit queries = [] := by
  have all := length_readable limit queries
  rw [← List.length_eq_zero_iff]
  omega

theorem tells_remarks (context : Context) (limit : Nat) (queries : List String) :
    context.Tells (context.complaints limit queries) (queries.flatMap (context.remarksOn limit)) := by
  rw [complaints_flatMap]
  exact tells_flatMap (fun _ => tells_remarksOn _) queries

theorem results_remarks (context : Context) (limit : Nat) (queries : List String) :
    resultTexts (queries.flatMap (context.remarksOn limit)) = [] := by
  rw [results_flatMap]
  simp [results_remarksOn]

theorem tells_checkOne (quiet : Bool) (query : String) :
    context.Tells (context.complaints limit [query]) (context.checkOne limit quiet query) := by
  have approved : context.Tells [] (match parse query limit with
      | .ok _ =>
        if quiet then [] else [.result (context.palette.paint .success "ok" ++ " " ++ query ++ "\n")]
      | .error _ => []) := by
    cases parse query limit with
    | error error => exact .nil
    | ok condition =>
      cases quiet with
      | true => exact .nil
      | false => exact .result _ .nil
  rw [← List.append_nil (context.complaints limit [query])]
  exact tells_append (tells_remarksOn query) approved

theorem tells_checks (quiet : Bool) (queries : List String) :
    context.Tells (context.complaints limit queries)
      (queries.flatMap (context.checkOne limit quiet)) := by
  rw [complaints_flatMap]
  exact tells_flatMap (tells_checkOne quiet) queries

theorem results_checkOne (context : Context) (limit : Nat) (quiet : Bool) (query : String) :
    resultTexts (context.checkOne limit quiet query) =
      if quiet then [] else (readable limit [query]).map context.approval := by
  rw [Context.checkOne, results_append, results_remarksOn, readable_cons]
  cases parse query limit <;> cases quiet <;> rfl

theorem results_checks (context : Context) (limit : Nat) (quiet : Bool) (queries : List String) :
    resultTexts (queries.flatMap (context.checkOne limit quiet)) =
      if quiet then [] else (readable limit queries).map context.approval := by
  induction queries with
  | nil => cases quiet <;> rfl
  | cons query rest ih =>
    rw [List.flatMap_cons, results_append, ih, results_checkOne]
    simp only [readable_cons]
    cases parse query limit <;> cases quiet <;> rfl

theorem exit_zero_or_one (succeeded : Bool) :
    (if succeeded then 0 else 1) = 0 ∨ (if succeeded then 0 else 1) = 1 := by
  cases succeeded with
  | true => exact Or.inl rfl
  | false => exact Or.inr rfl

theorem runParse_eq (context : Context) (queries : List String) (asked : Option Format)
    (maxDepth : Option Nat) :
    let limit := context.settings.chosenLimit maxDepth
    let format := context.settings.chosenFormat asked
    let remarks := (formatEvents context.settings asked limit).flatMap context.log ++
      queries.flatMap (context.remarksOn limit)
    context.runParse queries asked maxDepth =
      match tooDeep? format (readable limit queries) with
      | some entry => ⟨false, remarks ++ [.remark (refused entry)]⟩
      | none => ⟨(readable limit queries).length = queries.length, remarks ++
          [.result (shownBatch context.palette context.highlighter format (1 < queries.length)
            (readable limit queries))]⟩ := by
  intro limit format remarks
  rw [Context.runParse, rendered_eq]
  cases tooDeep? format (readable limit queries) with
  | some entry => rfl
  | none => rfl

-- What is printed in front may only be log lines.
theorem runParse_each (context : Context) (queries : List String) (asked : Option Format)
    (maxDepth : Option Nat) {logged : List Printed} (aside : context.Tells [] logged)
    (silent : resultTexts logged = []) (tree : FileTree) :
    let report := context.runParse queries asked maxDepth
    ParsesEach context (context.settings.chosenFormat asked) (context.settings.chosenLimit maxDepth)
      queries ⟨if report.succeeded then 0 else 1, logged ++ report.printed, tree⟩ := by
  intro report
  have shape : report = _ := runParse_eq context queries asked maxDepth
  generalize context.settings.chosenLimit maxDepth = limit at shape ⊢
  generalize context.settings.chosenFormat asked = format at shape ⊢
  have remarked := tells_behind (tells_logs id (formatEvents context.settings asked limit))
    (tells_remarks context limit queries)
  have unheard : resultTexts ((formatEvents context.settings asked limit).flatMap context.log ++
      queries.flatMap (context.remarksOn limit)) = [] := by
    rw [results_append, results_remarks, List.append_nil]
    exact results_logs context id _
  have fits := tooDeep?_eq_none_iff format (readable limit queries)
  cases deep : tooDeep? format (readable limit queries) with
  | some entry =>
    rw [deep] at shape fits
    have printed : resultTexts (logged ++ report.printed) = [] := by
      rw [shape, results_append, results_append, silent, unheard]
      rfl
    rw [shape] at printed ⊢
    constructor
    case success => exact iff_of_false (by simp) fun both => by simpa using fits.mpr both.2
    case failure => exact Or.inr rfl
    case told =>
      rw [deep]
      exact tells_behind aside (tells_append remarked (.remark _ .nil))
    case results =>
      rw [deep]
      exact printed
    case uncolored =>
      rw [printed]
      exact fun _ _ among => absurd among List.not_mem_nil
  | none =>
    rw [deep] at shape fits
    have printed : resultTexts (logged ++ report.printed) = [shownBatch context.palette
        context.highlighter format (1 < queries.length) (readable limit queries)] := by
      rw [shape, results_append, results_append, silent, unheard]
      rfl
    rw [shape] at printed ⊢
    constructor
    case success =>
      have shallow := fits.mp rfl
      simpa [length_readable_eq_iff] using fun _ json query condition among =>
        shallow json (query, condition) among
    case failure => exact exit_zero_or_one _
    case told =>
      rw [deep]
      exact tells_behind aside (tells_append remarked (.result _ .nil))
    case results =>
      rw [deep]
      exact printed
    case uncolored =>
      rintro rfl text among
      rw [printed] at among
      rw [List.mem_singleton.mp among]
      exact strip_shownBatch context.palette context.highlighter _ _

theorem runCheck_each (context : Context) (queries : List String) (quiet : Bool)
    (maxDepth : Option Nat) {logged : List Printed} (aside : context.Tells [] logged)
    (silent : resultTexts logged = []) (tree : FileTree) :
    let report := context.runCheck queries quiet maxDepth
    ChecksEach context quiet (context.settings.chosenLimit maxDepth) queries
      ⟨if report.succeeded then 0 else 1, logged ++ report.printed, tree⟩ := by
  intro report
  generalize limit_eq : context.settings.chosenLimit maxDepth = limit
  have failures : queries.length - (readable limit queries).length =
      (unreadable limit queries).length := by
    have all := length_readable limit queries
    omega
  have succeeded : report.succeeded = decide (unreadable limit queries = []) := by
    simp [report, Context.runCheck, limit_eq, failures]
  have printed : report.printed = queries.flatMap (context.checkOne limit quiet) ++
      (context.tally limit queries).map .remark := by
    simp only [report, Context.runCheck, limit_eq, failures, Context.tally]
    by_cases counted : unreadable limit queries ≠ [] ∧ 1 < queries.length
    · rw [if_pos counted, if_pos (by simpa using counted)]
      rfl
    · rw [if_neg counted, if_neg (by simpa using counted)]
      rfl
  rw [succeeded, printed]
  constructor
  case success => simp
  case failure => exact exit_zero_or_one _
  case told =>
    exact tells_behind aside (tells_append (tells_checks quiet queries) (tells_texts _))
  case results =>
    rw [results_append, results_append, silent, results_checks, results_texts]
    simp

/-- A project without settings. -/
def bareProject : Surroundings where
  tree := .folder []
  folder := []
  home := []
  highlighter := .uniform

end Batches

end BoolQuery
