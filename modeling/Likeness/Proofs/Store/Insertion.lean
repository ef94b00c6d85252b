import Likeness.Proofs.Answer
import Likeness.Proofs.Store.Order

/-!
# What saving adds to a store

The tables of a new store only require values and keep keys apart.  So a row that is added to one
of them is complete, agrees with no other row in a key, and stands behind all others, and a batch
that is saved adds one row for the run, one for each of its identifiers and one for each of its
records.

**Main statements.**
* `Part.isPlain`: what the tables of a new store are like.
* `Table.insert_eq_ok`, `Store.insert_eq_ok`: one row.
* `Store.insertRows_eq_ok`: rows one after the other.
* `Store.save_eq_ok`: a batch.
-/

namespace Likeness

section Plain

/-- A table that only requires values and keeps keys apart: nothing is computed, numbered, replaced
or left out. -/
structure Definition.IsPlain (definition : Definition) : Prop where
  number : definition.number? = none
  rules : definition.rules = []
  numbering : definition.numbering = .abort
  notStrict : definition.isStrict = false
  derivation : ∀ column ∈ definition.columns, column.derivation? = none
  required : ∀ column ∈ definition.columns,
    column.required? = none ∨ column.required? = some .abort
  keys : ∀ key ∈ definition.keys, key.resolution? = none

theorem Part.isPlain (part : Part) : part.definition.IsPlain := by
  cases part <;> constructor <;> decide

namespace Table

/-- Without resolutions a row settles only where no other one has one of its keys. -/
theorem settle_eq_ok {definition : Definition} {row : List Cell} {keys : List Key}
    {rows : List (List Cell)} {settled? : Option (List (List Cell))}
    (strict : ∀ key ∈ keys, key.resolution? = none)
    (settled : settle definition row keys rows = .ok settled?) :
    settled? = some rows ∧ ∀ key ∈ keys, ∀ other ∈ rows, sameKey key row other = false := by
  induction keys with
  | nil =>
      cases settled
      exact ⟨rfl, nofun⟩
  | cons key keys ih =>
      cases there : rows.any (sameKey key row) with
      -- without a resolution a key that is there refuses the row
      | true => simp [settle, there, strict key (.head _)] at settled
      | false =>
          rw [settle, there] at settled
          obtain ⟨same, fresh⟩ := ih (fun other mem => strict other (.tail _ mem)) settled
          rw [List.any_eq_false] at there
          refine ⟨same, ?_⟩
          intro other mem row' inside
          rcases List.mem_cons.1 mem with rfl | mem
          · exact Bool.eq_false_iff.2 (there row' inside)
          · exact fresh other mem row' inside

theorem mem_columns_of_missing? {definition : Definition} {row : List Cell} {column : Column}
    (missing : missing? definition row = some column) : column ∈ definition.columns := by
  have listed : column ∈ ((definition.columns.zip row).filter (fun item =>
      item.1.required?.isSome && item.2 == .null)).map Prod.fst := by
    rcases Option.or_eq_some_iff.1 missing with found | ⟨_, first⟩
    · exact List.mem_of_find?_eq_some found
    · exact List.mem_of_head? first
  obtain ⟨pair, mem, rfl⟩ := List.mem_map.1 listed
  exact (List.of_mem_zip (List.mem_filter.1 mem).1).1

/-- No required value is missing. -/
theorem ne_null_of_missing? {definition : Definition} {row : List Cell}
    (missing : missing? definition row = none) {column : Column} {cell : Cell}
    (mem : (column, cell) ∈ definition.columns.zip row) (required : column.required?.isSome = true) :
    cell ≠ .null := by
  rintro rfl
  have none := (Option.or_eq_none_iff.1 missing).2
  rw [List.head?_eq_none_iff, List.map_eq_nil_iff, List.filter_eq_nil_iff] at none
  exact none _ mem (by simp [required])

variable {definition : Definition} (plain : definition.IsPlain)
include plain

theorem completed_row (given : List (String × Cell)) :
    completed definition (definition.row given) = definition.row given := by
  rw [completed, Definition.row, List.zipWith_map_right, List.zipWith_self]
  refine List.map_congr_left ?_
  intro column mem
  refine if_neg ?_
  rintro ⟨_, replaced⟩
  rcases plain.required column mem with none | abort
  · rw [none] at replaced
    cases replaced
  · rw [abort] at replaced
    cases replaced

theorem derive_eq (row : List Cell) : definition.derive row = row := by
  have none : definition.columns.filterMap Column.derivation? = [] := by
    rw [List.filterMap_eq_nil_iff]
    exact plain.derivation
  rw [Definition.derive, none, List.foldl_nil]

theorem keys_eq : keys definition = definition.keys.reverse := by
  have last : definition.keys.reverse.filter (fun key => key.resolution? == some .replace) = [] := by
    rw [List.filter_eq_nil_iff]
    intro key mem
    rw [plain.keys key (List.mem_reverse.1 mem)]
    decide
  have others : definition.keys.reverse.filter
      (fun key => !(key.resolution? == some .replace)) = definition.keys.reverse := by
    rw [List.filter_eq_self]
    intro key mem
    rw [plain.keys key (List.mem_reverse.1 mem)]
    decide
  simp only [keys, List.partition_eq_filter_filter, Function.comp_def, last, others, plain.number,
    plain.numbering]
  simp

end Table

namespace Table
variable {table : Table} (plain : table.definition.IsPlain)
include plain

theorem rowFor_eq (given : List (String × Cell)) :
    table.rowFor given = table.definition.row given := by
  rw [rowFor, completed_row plain, numbered, plain.number]
  exact derive_eq plain _

/-- A row that is added has all required values, and keys that no other row has; it stands behind
all others. -/
theorem insert_eq_ok {given : List (String × Cell)} {row : List Cell} {next? : Option Table}
    (made : table.definition.row given = row) (inserted : table.insert given = .ok next?) :
    next? = some { table with rows := table.rows ++ [row] } ∧
      missing? table.definition row = none ∧
      ∀ key ∈ table.definition.keys, ∀ other ∈ table.rows, sameKey key row other = false := by
  have isNumbered : isNumbered table.definition row = true := by
    rw [Table.isNumbered, plain.number]
    rfl
  have broken : broken? table.definition row = none := by
    rw [broken?, plain.rules, List.find?_nil]
  have misfit : misfit? table.definition row = none := by
    rw [misfit?, plain.notStrict]
    rfl
  simp only [insert, rowFor_eq plain, made, isNumbered, misfit, broken] at inserted
  cases missing : missing? table.definition row with
  | some column =>
      rcases plain.required column (mem_columns_of_missing? missing) with none | abort
      · simp [missing, none] at inserted
      · simp [missing, abort] at inserted
  | none =>
      cases settled : settle table.definition row table.definition.keys.reverse table.rows with
      | error fault => simp [missing, add, keys_eq plain, settled] at inserted
      | ok rows? =>
          obtain ⟨rfl, fresh⟩ := settle_eq_ok
            (fun key mem => plain.keys key (List.mem_reverse.1 mem)) settled
          simp only [missing, add, keys_eq plain, settled, enter, plain.number] at inserted
          cases inserted
          exact ⟨rfl, rfl, fun key mem => fresh key (List.mem_reverse.2 mem)⟩

end Table
end Plain

namespace Store

section Parts

/-- The tables of all parts are like those of a new store; there may be others. -/
def IsStandard (store : Store) : Prop :=
  ∀ part, (store.table part).definition = part.definition

theorem isStandard_empty : empty.IsStandard := by
  intro part
  cases part <;> rfl

def append (store : Store) (part : Part) (rows : List (List Cell)) : Store :=
  store.setTable part { store.table part with rows := (store.table part).rows ++ rows }

variable {store : Store} {part : Part}

@[simp] theorem table_setTable (store : Store) (part other : Part) (table : Table) :
    (store.setTable part table).table other = if other = part then table else store.table other := by
  cases part <;> cases other <;> rfl

@[simp] theorem definition_append (store : Store) (part other : Part) (rows : List (List Cell)) :
    ((store.append part rows).table other).definition = (store.table other).definition := by
  rw [append, table_setTable]
  split
  · next same => rw [same]
  · rfl

@[simp] theorem rows_append (store : Store) (part other : Part) (rows : List (List Cell)) :
    ((store.append part rows).table other).rows =
      (store.table other).rows ++ if other = part then rows else [] := by
  rw [append, table_setTable]
  split
  · next same => rw [same]
  · rw [List.append_nil]

theorem append_append (store : Store) (part : Part) (first second : List (List Cell)) :
    (store.append part first).append part second = store.append part (first ++ second) := by
  cases part <;> simp [append, setTable, table]

theorem append_nil (store : Store) (part : Part) : store.append part [] = store := by
  cases part <;> simp [append, setTable, table]

theorem IsStandard.append (standard : store.IsStandard) (part : Part) (rows : List (List Cell)) :
    (store.append part rows).IsStandard := fun other =>
  (definition_append store part other rows).trans (standard other)

end Parts

section Inserting

variable {store store' : Store} {part : Part}

theorem replaces_eq_false {definition : Definition} (plain : definition.IsPlain) :
    definition.replaces = false := by
  rw [Definition.replaces, plain.numbering, Bool.or_eq_false_iff, List.any_eq_false]
  refine ⟨rfl, ?_⟩
  intro key mem
  rw [plain.keys key mem]
  decide

/-- A row that a part takes stands behind all others, has all required values, and keys that no
other row has. -/
theorem insert_eq_ok (standard : store.IsStandard) {given : List (String × Cell)}
    (inserted : store.insert part given = .ok store') :
    let row := part.definition.row given
    store' = store.append part [row] ∧ Table.missing? part.definition row = none ∧
      ∀ key ∈ part.definition.keys, ∀ other ∈ (store.table part).rows,
        Table.sameKey key row other = false := by
  have same := standard part
  have plain : (store.table part).definition.IsPlain := same ▸ part.isPlain
  obtain ⟨next?, there, rest⟩ := bind_eq_ok inserted
  obtain ⟨rfl, complete, fresh⟩ := Table.insert_eq_ok plain rfl there
  rw [same] at complete fresh
  refine ⟨?_, complete, fresh⟩
  simp only [replaces_eq_false plain] at rest
  split at rest
  · cases rest
  · cases rest
    rw [← same]
    rfl

/-- No two rows have the same key. -/
def Apart (part : Part) (rows : List (List Cell)) : Prop :=
  rows.Pairwise (fun old row => ∀ key ∈ part.definition.keys, Table.sameKey key row old = false)

/-- Rows that a part takes one after the other. -/
theorem insertRows_eq_ok (standard : store.IsStandard) {given : List (List (String × Cell))}
    (inserted : insertRowsBy insertRow store part given = .ok store') :
    let rows := given.map part.definition.row
    store' = store.append part rows ∧
      (∀ row ∈ rows, Table.missing? part.definition row = none) ∧ Apart part rows ∧
      ∀ row ∈ rows, ∀ other ∈ (store.table part).rows, ∀ key ∈ part.definition.keys,
        Table.sameKey key row other = false := by
  induction given generalizing store with
  | nil =>
      cases inserted
      exact ⟨(append_nil _ part).symm, nofun, .nil, nofun⟩
  | cons first given ih =>
      rw [insertRowsBy, List.foldlM_cons] at inserted
      obtain ⟨next, inserted, rest⟩ := bind_eq_ok inserted
      obtain ⟨rfl, complete, fresh⟩ := insert_eq_ok standard (mapError_eq_ok inserted)
      obtain ⟨rfl, completes, apart, news⟩ := ih (standard.append part _) rest
      simp only [rows_append, if_pos, List.mem_append, List.mem_singleton] at news
      refine ⟨append_append store part _ _, ?_, ?_, ?_⟩
      · intro row mem
        rcases List.mem_cons.1 mem with rfl | mem
        · exact complete
        · exact completes row mem
      · refine List.pairwise_cons.2 ⟨?_, apart⟩
        intro row mem
        exact news row mem _ (Or.inr rfl)
      · intro row mem other old key keyed
        rcases List.mem_cons.1 mem with rfl | mem
        · exact fresh key keyed other old
        · exact news row mem other (Or.inl old) key keyed

end Inserting
end Store

section Rows

def StoredRun.row (run : StoredRun) : List Cell :=
  [.text run.runId, .text run.digest, (run.name?.map Cell.text).getD .null,
    storedNumber run.seconds, storedNumber run.treeCount, .text run.params]

def StoredFile.row (file : StoredFile) : List Cell :=
  [.text file.runId, storedNumber file.position, .text file.file]

def StoredPair.row (pair : StoredPair) : List Cell :=
  [.text pair.runId, .text pair.file1, .text pair.file2,
    Affinity.real.keep (.ofReal pair.similarity), storedNumber pair.distance]

theorem StoredRun.row_eq (run : StoredRun) : Part.runs.definition.row run.cells = run.row := by
  cases run with
  | mk runId digest name? seconds treeCount params =>
      cases name? <;> rfl

theorem StoredFile.row_eq (file : StoredFile) : Part.files.definition.row file.cells = file.row :=
  rfl

theorem StoredPair.row_eq (pair : StoredPair) : Part.pairs.definition.row pair.cells = pair.row :=
  rfl

end Rows

namespace Store

section Saving

variable {store store' : Store} {name? : Option String} {params : Params} {batch : Batch}
  {clock : Nat} {runId : String}

def added (name? : Option String) (params : Params) (batch : Batch) (records : List Record)
    (clock : Nat) (part : Part) : List (List Cell) :=
  let run := runRow name? params batch clock
  match part with
  | .runs => [run.row]
  | .files => (fileRows run.runId batch.identifiers).map StoredFile.row
  | .pairs => (records.map (pairRow run.runId)).map StoredPair.row

def grown (store : Store) (new : Part → List (List Cell)) : Store :=
  ⟨{ store.runs with rows := store.runs.rows ++ new .runs },
    { store.files with rows := store.files.rows ++ new .files },
    { store.pairs with rows := store.pairs.rows ++ new .pairs }, store.others⟩

theorem table_grown (store : Store) (new : Part → List (List Cell)) (part : Part) :
    (store.grown new).table part =
      { store.table part with rows := (store.table part).rows ++ new part } := by
  cases part <;> rfl

theorem IsStandard.grown (standard : store.IsStandard) (new : Part → List (List Cell)) :
    (store.grown new).IsStandard := by
  intro part
  rw [table_grown]
  exact standard part

/-- A batch that is saved adds its rows to each part. -/
theorem save_eq_ok (standard : store.IsStandard)
    (saved : store.save name? params batch clock = .ok (runId, store')) :
    ∃ records, batch.records? = some records ∧
      runId = (runRow name? params batch clock).runId ∧
      store' = store.grown (added name? params batch records clock) ∧
      ∀ part,
        (∀ row ∈ added name? params batch records clock part,
          Table.missing? part.definition row = none) ∧
        Apart part (added name? params batch records clock part) ∧
        ∀ row ∈ added name? params batch records clock part, ∀ other ∈ (store.table part).rows,
          ∀ key ∈ part.definition.keys, Table.sameKey key row other = false := by
  obtain ⟨first, runs, saved⟩ := bind_eq_ok saved
  obtain ⟨second, files, saved⟩ := bind_eq_ok saved
  obtain ⟨_, _, saved⟩ := bind_eq_ok saved
  cases named : batch.records? with
  | none =>
      rw [named] at saved
      cases saved
  | some records =>
      rw [named] at saved
      obtain ⟨third, pairs, saved⟩ := bind_eq_ok saved
      cases saved
      obtain ⟨_, _, runs⟩ := bind_eq_ok runs
      obtain ⟨_, _, files⟩ := bind_eq_ok files
      obtain ⟨rfl, runFacts⟩ := insertRows_eq_ok standard runs
      obtain ⟨rfl, fileFacts⟩ := insertRows_eq_ok (standard.append _ _) files
      obtain ⟨rfl, pairFacts⟩ := insertRows_eq_ok ((standard.append _ _).append _ _) pairs
      have runsEq : [(runRow name? params batch clock).cells].map Part.runs.definition.row =
          added name? params batch records clock .runs := by
        simp [added, StoredRun.row_eq]
      have filesEq : ((fileRows (runRow name? params batch clock).runId batch.identifiers).map
          StoredFile.cells).map Part.files.definition.row =
          added name? params batch records clock .files := by
        simp [added, StoredFile.row_eq]
      have pairsEq : ((records.map (pairRow (runRow name? params batch clock).runId)).map
          StoredPair.cells).map Part.pairs.definition.row =
          added name? params batch records clock .pairs := by
        simp [added, StoredPair.row_eq]
      rw [runsEq] at runFacts ⊢
      rw [filesEq] at fileFacts ⊢
      rw [pairsEq] at pairFacts ⊢
      refine ⟨records, rfl, rfl, rfl, ?_⟩
      intro part
      cases part with
      | runs => exact runFacts
      | files => exact fileFacts
      | pairs => exact pairFacts

end Saving
end Store
end Likeness
