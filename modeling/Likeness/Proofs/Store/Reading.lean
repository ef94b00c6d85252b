import Likeness.Proofs.Batch.Orderly
import Likeness.Proofs.Store.Frame

/-!
# Reading a run back

What a run has put into the tables is read back as it was.  Numbers that fit a word come back from
the cells, similarities that are numbers keep all their bits, the order of texts is that of names,
and halving finds the place of each name, as the names ascend.

**Main statements.**
* `Store.placeIn_eq_some`: halving finds what is there.
* `Store.readRecord_eq`: a record in its row.
* `Store.identifiersOf_eq`, `Store.results_eq`, `Store.matrix_eq`: a run that is read back.
-/

namespace Likeness
namespace Store

section Halving

variable {names : Array String} (ascending : names.toList.Pairwise (· < ·))
include ascending

theorem lt_of_getElem? {i j : Nat} {a b : String} (less : i < j) (first : names[i]? = some a)
    (second : names[j]? = some b) : a < b := by
  obtain ⟨hi, rfl⟩ := Array.getElem?_eq_some_iff.1 first
  obtain ⟨hj, rfl⟩ := Array.getElem?_eq_some_iff.1 second
  exact List.pairwise_iff_getElem.1 ascending i j hi hj less

/-- Halving finds the place of a name that is there. -/
theorem placeIn_eq_some {name : String} {k low count : Nat} (there : names[k]? = some name)
    (above : low ≤ k) (below : k < low + count) (inside : low + count ≤ names.size) :
    placeIn names name low count = some k := by
  fun_induction placeIn names name low count with
  | case1 low count few found =>
      obtain rfl : low = k := by omega
      rfl
  | case2 low count few missing =>
      obtain rfl : low = k := by omega
      exact absurd ⟨by omega, there⟩ missing
  | case3 low count many half middle found ih =>
      split
      · next less =>
          rw [dif_pos less] at ih
          -- what is less than the middle one stands before it
          have left : k < low + half := by
            by_contra notLeft
            rcases Nat.eq_or_lt_of_le (Nat.le_of_not_lt notLeft) with rfl | greater
            · rw [found, Option.some.injEq] at there
              exact String.lt_irrefl _ (there ▸ less)
            · exact String.lt_asymm less (lt_of_getElem? ascending greater found there)
          exact ih above (by omega) (by omega)
      · next notLess =>
          rw [dif_neg notLess] at ih
          have right : low + half ≤ k := by
            by_contra notRight
            exact notLess (lt_of_getElem? ascending (by omega) there found)
          exact ih right (by omega) (by omega)
  | case4 low count many half none =>
      rw [Array.getElem?_eq_none_iff] at none
      omega

end Halving

section Cells

theorem wordOf_natCast {n : Nat} (fits : n < 2 ^ 64) : wordOf n = n := by
  have same : (n : Int) % 2 ^ 64 = n := by
    rw [show (2 : Int) ^ 64 = ((2 ^ 64 : Nat) : Int) by norm_num]
    omega
  rw [wordOf, same]
  rfl

theorem wordOf_bmod {n : Nat} (fits : n < 2 ^ 64) : wordOf (Int.bmod n (2 ^ 64)) = n := by
  have same : Int.bmod n (2 ^ 64) % (2 : Int) ^ 64 = n := by
    rw [show (2 : Int) ^ 64 = ((2 ^ 64 : Nat) : Int) by norm_num, Int.bmod_emod]
    omega
  rw [wordOf, same]
  rfl

theorem bmod_of_lt {n : Nat} (fits : n < 2 ^ 63) : Int.bmod n (2 ^ 64) = n :=
  Int.bmod_eq_of_le (by omega) (by omega)

/-- A similarity that is a number other than minus zero keeps its bits. -/
theorem keep_ofReal {value : Binary64} (number : value.isNaN = false)
    (unsigned : value.isZero = true → value = .zero) :
    Affinity.real.keep (.ofReal value) = .real value := by
  rw [Cell.ofReal, number, if_neg Bool.false_ne_true, Affinity.keep]
  split
  · next zero => rw [unsigned zero]
  · rfl

/-- A result that is complete has a number for a similarity. -/
theorem isNaN_of_missing? {pair : StoredPair}
    (complete : Table.missing? Definition.pairs pair.row = none) :
    pair.similarity.isNaN = false := by
  rw [← Bool.not_eq_true]
  intro nan
  have null : Affinity.real.keep (.ofReal pair.similarity) = .null := by
    rw [Cell.ofReal, if_pos nan, Affinity.keep]
  have there : (Definition.realColumn true "similarity",
      Affinity.real.keep (.ofReal pair.similarity)) ∈ Definition.pairs.columns.zip pair.row := by
    simp [Definition.pairs, StoredPair.row]
  exact Table.ne_null_of_missing? complete there rfl null

end Cells

section Rows

variable {store : Store} (standard : store.IsStandard)
include standard

/-- What is answered for a result. -/
theorem pairCells_eq (runId : String) (r : Record) :
    ["file_a", "file_b", "edit_distance", "similarity"].map (fun key =>
      store.pairs.at? key (pairRow runId r).row) =
      [.text r.file1, .text r.file2, storedNumber r.distance,
        Affinity.real.keep (.ofReal r.similarity)] := by
  have cell (place : Nat) (key : String) (found : Part.pairs.definition.place? key = some place) :
      store.pairs.at? key (pairRow runId r).row = Table.cell (pairRow runId r).row place :=
    at?_eq standard found _
  simp only [List.map_cons, List.map_nil, cell 1 "file_a" (by decide),
    cell 2 "file_b" (by decide), cell 4 "edit_distance" (by decide),
    cell 3 "similarity" (by decide)]
  rfl

omit standard in
/-- A record is read back, if its distance fits a word and its similarity is a number other than
minus zero. -/
theorem readRecord_eq (columns : List String) {runId : String} {r : Record}
    (fits : r.distance < 2 ^ 64) (unsigned : r.similarity.isZero = true → r.similarity = .zero)
    (complete : Table.missing? Definition.pairs (pairRow runId r).row = none) :
    readRecord ⟨columns, [.text r.file1, .text r.file2, storedNumber r.distance,
      Affinity.real.keep (.ofReal r.similarity)]⟩ = .ok r := by
  have number : (pairRow runId r).similarity.isNaN = false := isNaN_of_missing? complete
  have similarity : Affinity.real.keep (.ofReal r.similarity) = .real r.similarity :=
    keep_ofReal number unsigned
  let row : AnswerRow :=
    ⟨columns, [.text r.file1, .text r.file2, storedNumber r.distance, .real r.similarity]⟩
  have distance : row.integer 2 = .ok (Int.bmod r.distance (2 ^ 64)) := rfl
  have file1 : row.text 0 = .ok r.file1 := rfl
  have file2 : row.text 1 = .ok r.file2 := rfl
  have real : row.real 3 = .ok r.similarity := rfl
  rw [similarity, readRecord, distance, file1, file2, real]
  change Except.ok (Record.mk r.file1 r.file2 (wordOf (Int.bmod r.distance (2 ^ 64)))
    r.similarity) = _
  rw [wordOf_bmod fits]

omit standard in
theorem compare_of_lt {a b : String} (less : a < b) : compare a b = .lt := by
  change compareOfLessAndEq a b = .lt
  rw [compareOfLessAndEq, if_pos less]

theorem orderBy_names (runId : String) (a b : Record) :
    store.pairs.orderBy [("file_a", false), ("file_b", false)] (pairRow runId a).row
      (pairRow runId b).row = (compare a.file1 b.file1).then (compare a.file2 b.file2) := by
  have cell (place : Nat) (key : String) (found : Part.pairs.definition.place? key = some place)
      (row : List Cell) : store.pairs.at? key row = Table.cell row place :=
    at?_eq standard found row
  have column (place : Nat) (key : String)
      (found : Part.pairs.definition.place? key = some place) :
      store.pairs.columnOf key = Part.pairs.definition.column place := columnOf_eq standard found
  simp only [Table.orderBy, List.foldr_cons, List.foldr_nil, cell 1 "file_a" (by decide),
    cell 2 "file_b" (by decide), column 1 "file_a" (by decide), column 2 "file_b" (by decide)]
  change (compare a.file1 b.file1).then ((compare a.file2 b.file2).then .eq) = _
  rw [Ordering.then_eq]

theorem sortedBy_names (runId : String) {records sorted : List Record} (perm : sorted.Perm records)
    (ordered : sorted.Pairwise (fun a b =>
      a.file1 < b.file1 ∨ a.file1 = b.file1 ∧ a.file2 < b.file2)) :
    store.pairs.sortedBy [("file_a", false), ("file_b", false)]
      ((records.map (pairRow runId)).map StoredPair.row) =
      (sorted.map (pairRow runId)).map StoredPair.row := by
  have plain : (store.table .pairs).IsPlain [("file_a", false), ("file_b", false)] :=
    isPlain_columns standard (by decide)
  refine Table.sortedBy_eq plain ((perm.symm.map (pairRow runId)).map StoredPair.row) ?_
  rw [List.map_map, List.pairwise_map]
  refine ordered.imp ?_
  intro a b before
  refine (orderBy_names standard runId a b).trans ?_
  rcases before with less | ⟨same, less⟩
  · rw [compare_of_lt less]
    rfl
  · rw [same, compare_of_lt less]
    exact congrArg (Ordering.then · .lt) Std.ReflCmp.compare_self

theorem orderBy_position {runId file file' : String} {i j : Nat} (hi : i < 2 ^ 63)
    (hj : j < 2 ^ 63) :
    store.files.orderBy [("position", false)] (StoredFile.row ⟨runId, i, file⟩)
      (StoredFile.row ⟨runId, j, file'⟩) = compare (i : Int) j := by
  have place (file : String) {i : Nat} (fits : i < 2 ^ 63) :
      store.files.at? "position" (StoredFile.row ⟨runId, i, file⟩) = .integer i := by
    have cell : store.files.at? "position" (StoredFile.row ⟨runId, i, file⟩) = storedNumber i :=
      at?_eq standard (show Part.files.definition.place? "position" = some 1 by decide) _
    rw [cell, storedNumber, bmod_of_lt fits]
  simp only [Table.orderBy, List.foldr_cons, List.foldr_nil, place file hi, place file' hj]
  exact Ordering.then_eq

end Rows

section Answers

variable {store : Store}

/-- What is read off all rows of a whole answer. -/
theorem readAll_eq_ok {α β : Type} {columns : List String} {items : List α} {f : α → List Cell}
    {h : α → β} {read : AnswerRow → Except QuestionFault β}
    (each : ∀ item ∈ items, read ⟨columns, f item⟩ = .ok (h item)) :
    Answer.readAll ⟨columns, items.map f, true⟩ read = .ok (items.map h) := by
  have values := mapM_map_eq_ok (f := fun row => read ⟨columns, row⟩) each
  rw [Answer.readAll]
  change (items.map f).mapM _ >>= _ = _
  rw [values]
  rfl

/-- The rows of a run as they are found. -/
structure KeepsRun (store : Store) (run : StoredRun) (identifiers : List String)
    (records : List Record) : Prop where
  runs : store.runs.rowsOf run.runId = [run.row]
  files : store.files.rowsOf run.runId = (fileRows run.runId identifiers).map StoredFile.row
  pairs : store.pairs.rowsOf run.runId = (records.map (pairRow run.runId)).map StoredPair.row
  wholeFiles : store.files.isWhole = true
  wholePairs : store.pairs.isWhole = true

variable (standard : store.IsStandard) {run : StoredRun} {identifiers : List String}
  {records : List Record} (keeps : store.KeepsRun run identifiers records)
include standard keeps

theorem demandRun_eq : store.demandRun run.runId = .ok () := by
  have named : store.runs.at? "run_id" run.row = .text run.runId :=
    at?_eq standard (place?_runId .runs) run.row
  rw [demandRun, answer, check_eq_ok standard, keeps.runs]
  simp only [Table.select, List.map_cons, List.map_nil, named]
  rfl

/-- The identifiers of a run come back in their places. -/
theorem identifiersOf_eq (fits : identifiers.length ≤ 2 ^ 63) :
    store.identifiersOf run.runId = .ok identifiers := by
  have sorted : store.files.sortedBy [("position", false)]
      ((fileRows run.runId identifiers).map StoredFile.row) =
      (fileRows run.runId identifiers).map StoredFile.row := by
    refine List.mergeSort_of_pairwise ?_
    have places := List.pairwise_lt_range' (s := 0) (n := identifiers.length)
    rw [← List.zipIdx_map_snd, List.pairwise_map] at places
    rw [fileRows, List.map_map, List.pairwise_map]
    refine places.imp_of_mem ?_
    rintro ⟨file, i⟩ ⟨file', j⟩ hi hj less
    have hi := List.snd_lt_of_mem_zipIdx hi
    have hj := List.snd_lt_of_mem_zipIdx hj
    have order : store.files.orderBy [("position", false)] (StoredFile.row ⟨run.runId, i, file⟩)
        (StoredFile.row ⟨run.runId, j, file'⟩) = .lt := by
      rw [orderBy_position standard (by omega) (by omega)]
      exact Int.compare_eq_lt.2 (Int.ofNat_lt.2 less)
    exact congrArg Ordering.isLE order
  have cells : ((fileRows run.runId identifiers).map StoredFile.row).map (fun row =>
      ["file"].map (fun key => store.files.at? key row)) =
      identifiers.zipIdx.map (fun item => [.text item.1]) := by
    rw [fileRows, List.map_map, List.map_map]
    refine List.map_congr_left ?_
    intro item _
    exact congrArg (fun cell => [cell])
      (at?_eq standard (show Part.files.definition.place? "file" = some 2 by decide) _)
  rw [identifiersOf, answer, check_eq_ok standard, keeps.files, sorted]
  change readFiles (Table.select _ _ _) = _
  rw [readFiles, Table.select, cells, keeps.wholeFiles]
  refine readAll_eq_ok (h := Prod.fst) (fun _ _ => rfl) |>.trans ?_
  rw [List.zipIdx_map_fst]

/-- The records of a run come back in the order of their names. -/
theorem results_eq {sorted : List Record} (perm : sorted.Perm records)
    (ordered : sorted.Pairwise (fun a b =>
      a.file1 < b.file1 ∨ a.file1 = b.file1 ∧ a.file2 < b.file2))
    (back : ∀ columns, ∀ r ∈ records, readRecord ⟨columns, [.text r.file1, .text r.file2,
      storedNumber r.distance, Affinity.real.keep (.ofReal r.similarity)]⟩ = .ok r) :
    store.results run.runId = .ok sorted := by
  have cells : ((sorted.map (pairRow run.runId)).map StoredPair.row).map (fun row =>
      ["file_a", "file_b", "edit_distance", "similarity"].map (fun key =>
        store.pairs.at? key row)) =
      sorted.map (fun r => [.text r.file1, .text r.file2, storedNumber r.distance,
        Affinity.real.keep (.ofReal r.similarity)]) := by
    rw [List.map_map, List.map_map]
    exact List.map_congr_left fun r _ => pairCells_eq standard run.runId r
  rw [results, demandRun_eq standard keeps, answer, check_eq_ok standard, keeps.pairs,
    sortedBy_names standard run.runId perm ordered]
  change readRecords (Table.select _ _ _) = _
  rw [readRecords, Table.select, cells, keeps.wholePairs]
  refine readAll_eq_ok (h := id) (fun r mem => back _ r (perm.mem_iff.1 mem)) |>.trans ?_
  rw [List.map_id]

end Answers

section Matrix

/-- A record is entered at the places of its result. -/
theorem enterRecord_eq {identifiers : List String} (ascending : identifiers.Pairwise (· < ·))
    {r : PairResult} {record : Record} (recorded : Batch.record? identifiers r = some record)
    (m : SymmetricMatrix Binary64) :
    enterRecord identifiers.toArray m record = m.put r.i r.j r.similarity := by
  obtain ⟨file1, file2, _, similarity⟩ := Batch.record?_eq_some_iff.1 recorded
  -- names ascend, so halving leads back to the place of each
  have place {k : Nat} {name : String} (there : identifiers[k]? = some name) :
      placeIn identifiers.toArray name 0 identifiers.toArray.size = some k := by
    have below : k < 0 + identifiers.toArray.size := by
      rw [Nat.zero_add, List.size_toArray]
      exact (List.getElem?_eq_some_iff.1 there).1
    refine placeIn_eq_some ascending ?_ (Nat.zero_le k) below (Nat.le_of_eq (Nat.zero_add _))
    rw [List.getElem?_toArray]
    exact there
  simp only [enterRecord, place file1, place file2, similarity]

/-- The matrix that is put together from records holds what their results say. -/
theorem holds_foldl_enterRecord {identifiers : List String}
    (ascending : identifiers.Pairwise (· < ·)) {results : List PairResult} {records : List Record}
    (recorded : results.map (Batch.record? identifiers) = records.map some)
    (inRange : ∀ r ∈ results, r.i < r.j ∧ r.j < identifiers.length)
    {m : SymmetricMatrix Binary64} {entries : List ((Nat × Nat) × Binary64)}
    (holds : m.Holds identifiers.length .one .zero entries)
    (apart : (entries.map Prod.fst ++ results.map PairResult.place).Nodup) :
    (records.foldl (enterRecord identifiers.toArray) m).Holds identifiers.length .one .zero
      (entries ++ results.map (Ledger.entry PairResult.similarity)) := by
  induction results generalizing records m entries with
  | nil =>
      obtain rfl := List.map_eq_nil_iff.1 recorded.symm
      rw [List.map_nil, List.append_nil]
      exact holds
  | cons r results ih =>
      cases records with
      | nil => cases recorded
      | cons record records =>
          obtain ⟨first, rest⟩ := List.cons.inj recorded
          obtain ⟨order, bound⟩ := inRange r (.head _)
          have fresh : (r.i, r.j) ∉ entries.map Prod.fst := by
            intro old
            exact List.disjoint_of_nodup_append apart old (.head _)
          rw [List.foldl_cons, enterRecord_eq ascending first]
          have next := ih rest (fun other mem => inRange other (.tail _ mem))
            (holds.put order bound fresh r.similarity) (by
              rw [List.map_append, List.append_assoc]
              exact apart)
          rw [List.append_assoc] at next
          exact next

variable {store : Store} (standard : store.IsStandard) {run : StoredRun} {batch : Batch}
  {records : List Record} (keeps : store.KeepsRun run batch.identifiers records)
include standard keeps

/-- The matrix of a run comes back. -/
theorem matrix_eq (orderly : batch.IsOrderly) (fits : batch.identifiers.length ≤ 2 ^ 63)
    {sorted : List Record}
    (listed : batch.sortedResults.mapM (Batch.record? batch.identifiers) = some sorted)
    (loaded : store.results run.runId = .ok sorted) :
    store.matrix run.runId = .ok (batch.identifiers, batch.similarity) := by
  have perm : batch.sortedResults.Perm batch.results := List.mergeSort_perm _ _
  have holds := holds_foldl_enterRecord orderly.ascending (mapM_eq_some_iff.1 listed)
    (fun r mem => orderly.inRange r (perm.mem_iff.1 mem)) (.filled _ _ _)
    ((perm.map PairResult.place).nodup_iff.2 orderly.apart)
  have same := holds.eq_of_perm orderly.similarity
    (perm.map (Ledger.entry PairResult.similarity))
  rw [matrix, demandRun_eq standard keeps, identifiersOf_eq standard keeps fits, loaded, ← same]
  rfl

end Matrix
end Store
end Likeness
