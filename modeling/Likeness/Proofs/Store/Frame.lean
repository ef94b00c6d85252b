import Likeness.Proofs.Store.Insertion

/-!
# What saving leaves alone

A question about a run sees the rows of that run only.  So rows of another run, in whatever tables,
do not change its answer: neither the records and the matrix of an earlier run, nor its line in the
list of all runs.

**Main statements.**
* `Store.IsOf`: rows that belong to one run.
* `Store.results_grown`, `Store.matrix_grown`: the questions about another run.
* `Store.OneMore`, `Store.list_grown`: the list of all runs.
* `Store.AddsRun`, `Store.addsRun_of_save`: what a saved batch does to a store.
* `Store.results_of_save`, `Store.matrix_of_save`, `Store.list_of_save`: what it leaves alone.
-/

namespace Likeness
namespace Store

def IsOf (runId : String) (new : Part → List (List Cell)) : Prop :=
  ∀ part, ∀ row ∈ new part, Table.cell row 0 = .text runId

section Columns

variable {store : Store} (standard : store.IsStandard)
include standard

theorem at?_eq {part : Part} {key : String} {place : Nat}
    (found : part.definition.place? key = some place) (row : List Cell) :
    (store.table part).at? key row = Table.cell row place := by
  rw [Table.at?, standard part, found]
  rfl

theorem columnOf_eq {part : Part} {key : String} {place : Nat}
    (found : part.definition.place? key = some place) :
    (store.table part).columnOf key = part.definition.column place := by
  rw [Table.columnOf, standard part, found]
  rfl

theorem isPlain_columns {part : Part} {columns : List (String × Bool)}
    (known : columns.all (fun column => ((part.definition.place? column.1).map fun place =>
      (part.definition.column place).collation) == some (.plain .utf8)) = true) :
    (store.table part).IsPlain columns := by
  intro column mem
  have found := List.all_eq_true.1 known column mem
  rw [beq_iff_eq, Option.map_eq_some_iff] at found
  obtain ⟨place, found, collation⟩ := found
  rw [columnOf_eq standard found, collation]

/-- A question that mentions columns of a new store can be answered. -/
theorem check_eq_ok (query : Query) : query.question.check store = .ok () := by
  have known : query.question.mentions.all (fun mention =>
      (mention.part.definition.place? mention.key).isSome) = true := by
    cases query <;> rfl
  have none : query.question.mentions.find? (fun mention =>
      ((store.table mention.part).definition.place? mention.key).isNone) = none := by
    rw [List.find?_eq_none]
    intro mention mem
    rw [standard, Option.isNone_iff_eq_none, ← ne_eq, Option.ne_none_iff_isSome]
    exact List.all_eq_true.1 known mention mem
  rw [Question.check, none]

omit standard in
theorem place?_runId (part : Part) : part.definition.place? "run_id" = some 0 := by
  cases part <;> decide

/-- The rows of a run are those that begin with its name. -/
theorem rowsOf_eq (part : Part) (runId : String) :
    (store.table part).rowsOf runId = (store.table part).rows.filter (fun row =>
      (Table.cell row 0).agrees (.plain .utf8) (.text runId)) := by
  rw [Table.rowsOf, columnOf_eq standard (place?_runId part)]
  simp only [at?_eq standard (place?_runId part)]
  cases part <;> rfl

theorem belongs_eq (run pair : List Cell) :
    store.belongs run pair = (Table.cell pair 0).agrees (.plain .utf8) (Table.cell run 0) := by
  have runs : store.runs.columnOf "run_id" = Part.runs.definition.column 0 :=
    columnOf_eq standard (place?_runId .runs)
  have pairs : store.pairs.columnOf "run_id" = Part.pairs.definition.column 0 :=
    columnOf_eq standard (place?_runId .pairs)
  have left : store.pairs.at? "run_id" pair = Table.cell pair 0 :=
    at?_eq standard (place?_runId .pairs) pair
  have right : store.runs.at? "run_id" run = Table.cell run 0 :=
    at?_eq standard (place?_runId .runs) run
  rw [belongs, runs, pairs, left, right]
  rfl

end Columns

section Questions

variable {store : Store} (standard : store.IsStandard) {new : Part → List (List Cell)}
  {runId other : String} (ofRun : IsOf runId new)

theorem check_grown (question : Question) (store : Store) (new : Part → List (List Cell)) :
    question.check (store.grown new) = question.check store := by
  simp only [Question.check, table_grown]

include standard ofRun

theorem rowsOf_grown (apart : other ≠ runId) (part : Part) :
    ((store.grown new).table part).rowsOf other = (store.table part).rowsOf other := by
  rw [rowsOf_eq (standard.grown new), rowsOf_eq standard, table_grown, List.filter_append]
  have none : (new part).filter (fun row =>
      (Table.cell row 0).agrees (.plain .utf8) (.text other)) = [] := by
    rw [List.filter_eq_nil_iff]
    intro row mem
    rw [ofRun part row mem, Cell.agrees_text_iff]
    exact apart.symm
  rw [none, List.append_nil]

/-- What is asked about another run has the same answer. -/
theorem answer_grown (apart : other ≠ runId) {query : Query}
    (about : query ∈ [.run other, .results other, .files other]) :
    (store.grown new).answer query = store.answer query := by
  have runs : (store.grown new).runs.rowsOf other = store.runs.rowsOf other :=
    rowsOf_grown standard ofRun apart .runs
  have pairs : (store.grown new).pairs.rowsOf other = store.pairs.rowsOf other :=
    rowsOf_grown standard ofRun apart .pairs
  have files : (store.grown new).files.rowsOf other = store.files.rowsOf other :=
    rowsOf_grown standard ofRun apart .files
  simp only [List.mem_cons, List.not_mem_nil, or_false] at about
  rcases about with rfl | rfl | rfl
  · rw [answer, answer, check_grown, runs]
    rfl
  · rw [answer, answer, check_grown, pairs]
    rfl
  · rw [answer, answer, check_grown, files]
    rfl

theorem demandRun_grown (apart : other ≠ runId) :
    (store.grown new).demandRun other = store.demandRun other := by
  rw [demandRun, answer_grown standard ofRun apart (by simp), ← demandRun]

/-- The records of another run are the same. -/
theorem results_grown (apart : other ≠ runId) :
    (store.grown new).results other = store.results other := by
  rw [results, demandRun_grown standard ofRun apart,
    answer_grown standard ofRun apart (by simp), ← results]

/-- The identifiers and the matrix of another run are the same. -/
theorem matrix_grown (apart : other ≠ runId) :
    (store.grown new).matrix other = store.matrix other := by
  rw [matrix, demandRun_grown standard ofRun apart, identifiersOf,
    answer_grown standard ofRun apart (by simp), results_grown standard ofRun apart, ← identifiersOf,
    ← matrix]

end Questions

section Listing

/-- What is listed has one more line than before, wherever it stands; if nothing could be listed,
then for the same reason nothing can be listed now. -/
def OneMore {ε β : Type} (line : β) : Except ε (List β) → Except ε (List β) → Prop
  | .error fault, after => after = .error fault
  | .ok lines, after =>
      ∃ front back, lines = front ++ back ∧ after = .ok (front ++ line :: back)

theorem OneMore.mapError {ε ε' β : Type} {line : β} {before after : Except ε (List β)}
    (more : OneMore line before after) (f : ε → ε') :
    OneMore line (before.mapError f) (after.mapError f) := by
  cases before with
  | error fault =>
      obtain rfl : after = .error fault := more
      rfl
  | ok lines =>
      obtain ⟨front, back, rfl, rfl⟩ := more
      exact ⟨front, back, rfl, rfl⟩

/-- One more item among those that are looked at. -/
theorem mapM_middle {ε α β : Type} {f g : α → Except ε β} {front back : List α} {x : α} {y : β}
    (came : g x = .ok y) (same : ∀ z ∈ front ++ back, g z = f z) :
    OneMore y ((front ++ back).mapM f) ((front ++ x :: back).mapM g) := by
  have first : front.mapM g = front.mapM f :=
    mapM_congr fun z mem => same z (List.mem_append_left back mem)
  have last : back.mapM g = back.mapM f :=
    mapM_congr fun z mem => same z (List.mem_append_right front mem)
  rw [List.mapM_append, List.mapM_append, List.mapM_cons, came, first, last]
  cases front.mapM f with
  | error fault => rfl
  | ok first =>
      cases back.mapM f with
      | error fault => rfl
      | ok last => exact ⟨first, last, rfl, rfl⟩

/-- The line of a run in the list of all runs. -/
def info (store : Store) (run : List Cell) : Except QuestionFault RunInfo :=
  readInfo ⟨store.listedColumns, store.listedRow run⟩

theorem list_eq {store : Store} (standard : store.IsStandard) :
    store.list =
      if store.runs.isWhole && store.pairs.isWhole then
        (store.runs.sortedBy [("timestamp", true), ("run_id", true)] store.runs.rows).mapM
          store.info
      else .error .illegible := by
  rw [list, answer, check_eq_ok standard]
  cases store.runs.isWhole with
  | false => rfl
  | true =>
      cases store.pairs.isWhole with
      | false => rfl
      | true =>
          change Answer.readAll _ _ = List.mapM _ _
          rw [Answer.readAll, List.mapM_map]
          change _ >>= pure = _
          rw [bind_pure]
          rfl

variable {store : Store} (standard : store.IsStandard) {new : Part → List (List Cell)}
  {runId : String} (ofRun : IsOf runId new)
  (fresh : ∀ row ∈ store.runs.rows,
    (Cell.text runId).agrees (.plain .utf8) (Table.cell row 0) = false)
include standard ofRun fresh

/-- A run that was there before is listed as before. -/
theorem info_grown {run : List Cell} (mem : run ∈ store.runs.rows) :
    (store.grown new).info run = store.info run := by
  have count : (store.grown new).pairCount run = store.pairCount run := by
    have none : (new .pairs).countP ((store.grown new).belongs run) = 0 := by
      rw [List.countP_eq_zero]
      intro pair there
      rw [belongs_eq (standard.grown new), ofRun .pairs pair there, fresh run mem]
      exact Bool.false_ne_true
    rw [pairCount]
    change (store.pairs.rows ++ new .pairs).countP _ = _
    rw [List.countP_append, none, Nat.add_zero]
    rfl
  rw [info, listedRow, count]
  rfl

/-- The list of all runs has one more line, wherever it stands. -/
theorem list_grown {row : List Cell} (one : new .runs = [row]) {info : RunInfo}
    (shown : (store.grown new).info row = .ok info) :
    OneMore info store.list (store.grown new).list := by
  have plain : store.runs.IsPlain [("timestamp", true), ("run_id", true)] :=
    @isPlain_columns _ standard .runs _ (by decide)
  obtain ⟨front, back, before, after⟩ :=
    Table.sortedBy_append_singleton plain store.runs.rows row
  -- every other line is that of a run that was there before
  have same : ∀ run ∈ front ++ back, (store.grown new).info run = store.info run := by
    intro run mem
    rw [← before, Table.sortedBy, List.mem_mergeSort] at mem
    exact info_grown standard ofRun fresh mem
  have lines := mapM_middle shown same
  have sorted : (store.grown new).runs.sortedBy [("timestamp", true), ("run_id", true)]
      (store.grown new).runs.rows = front ++ row :: back := by
    rw [← after, ← one]
    rfl
  have whole : ((store.grown new).runs.isWhole && (store.grown new).pairs.isWhole) =
      (store.runs.isWhole && store.pairs.isWhole) := rfl
  rw [list_eq standard, list_eq (standard.grown new), before, sorted, whole]
  cases store.runs.isWhole && store.pairs.isWhole with
  | false => rfl
  | true => exact lines

end Listing

section Adding

/-- A store has the rows of one more run, and nothing else has changed. -/
structure AddsRun (store kept : Store) (name? : Option String) (params : Params) (batch : Batch)
    (clock : Nat) (runId : String) : Prop where
  named : runId = (runRow name? params batch clock).runId
  /-- The run, its identifiers and its records stand behind all other rows. -/
  rows : ∃ records, batch.records? = some records ∧
    kept = store.grown (added name? params batch records clock)
  /-- What has been added belongs to the run. -/
  owned : ∀ part, ∃ new, (kept.table part).rows = (store.table part).rows ++ new ∧
    ∀ row ∈ new, Table.cell row 0 = .text runId
  /-- There was no run of this name. -/
  fresh : store.runs.rowsOf runId = []

theorem sameKey_primaryKey (places : List Nat) (a b : List Cell) :
    Table.sameKey (Definition.primaryKey places) a b =
      places.all (fun place => (Table.cell a place).agrees (.plain .utf8) (Table.cell b place)) := by
  simp [Table.sameKey, Definition.primaryKey, Key.plain, Table.concerns, List.all_map,
    Function.comp_def]

variable {store kept : Store} {name? : Option String} {params : Params} {batch : Batch}
  {records : List Record} {clock : Nat} {runId : String}

theorem isOf_added : IsOf (runRow name? params batch clock).runId
    (added name? params batch records clock) := by
  intro part row mem
  cases part with
  | runs =>
      obtain rfl := List.mem_singleton.1 mem
      rfl
  | files =>
      simp only [added, fileRows, List.map_map, List.mem_map] at mem
      obtain ⟨_, _, rfl⟩ := mem
      rfl
  | pairs =>
      simp only [added, List.map_map, List.mem_map] at mem
      obtain ⟨_, _, rfl⟩ := mem
      rfl

/-- The line of a run. -/
theorem info_row (standard : store.IsStandard) (run : StoredRun) :
    store.info run.row = .ok ⟨run.runId, run.digest, run.name?, Int.bmod run.seconds (2 ^ 64),
      wordOf (Int.bmod run.treeCount (2 ^ 64)), wordOf (store.pairCount run.row)⟩ := by
  have cell (place : Nat) (key : String) (found : Part.runs.definition.place? key = some place) :
      store.runs.at? key run.row = Table.cell run.row place :=
    at?_eq standard found run.row
  have row : store.listedRow run.row =
      [.text run.runId, .text run.digest, (run.name?.map Cell.text).getD .null,
        storedNumber run.seconds, storedNumber run.treeCount,
        .integer (store.pairCount run.row)] := by
    simp only [listedRow, listedKeys, List.map_cons, List.map_nil,
      cell 0 "run_id" (by decide), cell 1 "run_hash" (by decide), cell 2 "name" (by decide),
      cell 3 "timestamp" (by decide), cell 4 "tree_count" (by decide)]
    rfl
  rw [info, row]
  cases run with
  | mk runId digest name? seconds treeCount params => cases name? <;> rfl

/-- A batch is not saved under a name that is taken. -/
theorem agrees_of_save (standard : store.IsStandard)
    (saved : store.save name? params batch clock = .ok (runId, kept)) :
    ∀ row ∈ store.runs.rows,
      (Cell.text runId).agrees (.plain .utf8) (Table.cell row 0) = false := by
  obtain ⟨records, _, rfl, _, facts⟩ := save_eq_ok standard saved
  intro row mem
  have apart := (facts .runs).2.2 _ (List.mem_singleton_self _) row mem _
    (List.mem_singleton_self _)
  rw [sameKey_primaryKey, List.all_cons, List.all_nil, Bool.and_true] at apart
  exact apart

variable (standard : store.IsStandard)
  (saved : store.save name? params batch clock = .ok (runId, kept))
include standard saved

/-- A batch that is saved adds its run. -/
theorem addsRun_of_save : store.AddsRun kept name? params batch clock runId := by
  have fresh := agrees_of_save standard saved
  obtain ⟨records, there, rfl, rfl, _⟩ := save_eq_ok standard saved
  refine ⟨rfl, ⟨records, there, rfl⟩, ?_, ?_⟩
  · intro part
    refine ⟨added name? params batch records clock part, ?_, isOf_added part⟩
    rw [table_grown]
  · rw [show store.runs = store.table .runs from rfl, rowsOf_eq standard, List.filter_eq_nil_iff]
    intro row mem
    rw [Cell.agrees_comm, fresh row mem]
    exact Bool.false_ne_true

theorem results_of_save {other : String} (apart : other ≠ runId) :
    kept.results other = store.results other := by
  obtain ⟨records, _, rfl, rfl, _⟩ := save_eq_ok standard saved
  exact results_grown standard isOf_added apart

theorem matrix_of_save {other : String} (apart : other ≠ runId) :
    kept.matrix other = store.matrix other := by
  obtain ⟨records, _, rfl, rfl, _⟩ := save_eq_ok standard saved
  exact matrix_grown standard isOf_added apart

theorem list_of_save :
    ∃ info : RunInfo, info.runId = runId ∧ OneMore info store.list kept.list := by
  have fresh := agrees_of_save standard saved
  obtain ⟨records, _, rfl, rfl, _⟩ := save_eq_ok standard saved
  have shown := info_row (standard.grown (added name? params batch records clock))
    (runRow name? params batch clock)
  exact ⟨_, rfl, list_grown standard isOf_added fresh rfl shown⟩

end Adding

end Store
end Likeness
