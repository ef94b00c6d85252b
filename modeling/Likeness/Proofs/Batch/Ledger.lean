import Likeness.Proofs.Batch.Pairing
import Likeness.Proofs.Matrix

/-!
# What the ledger says

The ledger is filled report by report, and its parts are written apart from each other: the
results, the failures, the marks of the pairs that have reported, and the cells of both
matrices.  `Ledger.Records` says what all of them have to do with the reports taken so far, and
a report of a pair that has not reported yet keeps it true.

A ledger is closed when some pairs, from the first one on, have reported and all others have
not.  The failures that are added then are those of the others, in their order.

**Main statements.**
* `Ledger.Records.receive`: one more report.
* `Ledger.missing_eq`: the failures that are added in the end.
-/

namespace Likeness

theorem filterMap_cons_append {α β : Type} (f : α → Option β) (x : α) (l : List α) :
    (x :: l).filterMap f = (f x).toList ++ l.filterMap f := by
  cases there : f x with
  | none => rw [List.filterMap_cons_none there, Option.toList_none, List.nil_append]
  | some y => rw [List.filterMap_cons_some there, Option.toList_some, List.singleton_append]

/-- The places of a result. -/
def PairResult.place (r : PairResult) : Nat × Nat :=
  (r.i, r.j)

def Failure.place (f : Failure) : Nat × Nat :=
  (f.i, f.j)

/-- The failure of a pair that was not started before the batch was cancelled. -/
def Failure.ofCancelled (pair : Pairing) : Failure :=
  ⟨pair.i, pair.j, .cancelled, "batch cancelled before the task started"⟩

namespace Pairing

/-- The result of a pair, unless its comparison broke off. -/
def result? (pair : Pairing) : Verdict → Option PairResult
  | .ok score => some ⟨pair.i, pair.j, score.distance, score.similarity⟩
  | .error _ => none

def breakage? (pair : Pairing) : Verdict → Option Failure
  | .ok _ => none
  | .error message => some ⟨pair.i, pair.j, .panicked, message⟩

theorem result?_eq_some_iff {pair : Pairing} {verdict : Verdict} {r : PairResult} :
    pair.result? verdict = some r ↔
      ∃ score, verdict = .ok score ∧ r = ⟨pair.i, pair.j, score.distance, score.similarity⟩ := by
  cases verdict with
  | ok score => simp [result?, eq_comm]
  | error message => simp [result?]

theorem breakage?_eq_some_iff {pair : Pairing} {verdict : Verdict} {f : Failure} :
    pair.breakage? verdict = some f ↔
      ∃ message, verdict = .error message ∧ f = ⟨pair.i, pair.j, .panicked, message⟩ := by
  cases verdict with
  | ok score => simp [breakage?]
  | error message => simp [breakage?, eq_comm]

theorem place_of_result? {pair : Pairing} {verdict : Verdict} {r : PairResult}
    (h : pair.result? verdict = some r) : r.place = pair.place := by
  obtain ⟨score, _, rfl⟩ := result?_eq_some_iff.1 h
  rfl

/-- Each pair has a result or a failure, and not both. -/
theorem perm_places (verdict : Pairing → Verdict) (pairs : List Pairing) :
    ((pairs.filterMap (fun pair => pair.result? (verdict pair))).map PairResult.place ++
      (pairs.filterMap (fun pair => pair.breakage? (verdict pair))).map Failure.place).Perm
      (pairs.map place) := by
  induction pairs with
  | nil => exact .refl _
  | cons pair rest ih =>
      rw [filterMap_cons_append, filterMap_cons_append]
      cases came : verdict pair with
      | ok score => exact ih.cons _
      | error message => exact List.perm_middle.trans (ih.cons _)

end Pairing

namespace Report

/-- The result of the pair that a report is about. -/
def result? (pairs : Array Pairing) (report : Report) : Option PairResult :=
  pairs[report.pair]?.bind (fun pair => pair.result? report.verdict)

def breakage? (pairs : Array Pairing) (report : Report) : Option Failure :=
  pairs[report.pair]?.bind (fun pair => pair.breakage? report.verdict)

end Report

namespace Ledger

section Receiving

/-- What a report of one of the pairs adds. -/
theorem receive_spec (ledger : Ledger) {pairs : Array Pairing} {report : Report} {pair : Pairing}
    (there : pairs[report.pair]? = some pair) (every : Nat) :
    let after := ledger.receive pairs every report
    let result? := pair.result? report.verdict
    after.results.toList = ledger.results.toList ++ result?.toList ∧
    after.failures.toList = ledger.failures.toList ++ (pair.breakage? report.verdict).toList ∧
    after.reported = ledger.reported.setIfInBounds report.pair true ∧
    after.similarity =
      result?.elim ledger.similarity (fun r => ledger.similarity.put r.i r.j r.similarity) ∧
    after.distance =
      result?.elim ledger.distance (fun r => ledger.distance.put r.i r.j r.distance) := by
  cases verdict : report.verdict with
  | ok score =>
      simp [receive, there, verdict, enter, enterScore, tick, Pairing.result?, Pairing.breakage?]
  | error message =>
      simp [receive, there, verdict, enter, enterFailure, tick, Pairing.result?,
        Pairing.breakage?]

end Receiving

section Recording

variable {trees : List Tree} {ledger : Ledger} {reports : List Report}

def entry {α : Type} (value : PairResult → α) (r : PairResult) : (Nat × Nat) × α :=
  (r.place, value r)

/-- The ledger says what some reports on the pairs of some trees say. -/
structure Records (ledger : Ledger) (trees : List Tree) (reports : List Report) : Prop where
  results : ledger.results.toList =
    reports.filterMap (Report.result? (Pairing.all trees).toArray)
  failures : ledger.failures.toList =
    reports.filterMap (Report.breakage? (Pairing.all trees).toArray)
  marks : ledger.reported.size = (Pairing.all trees).length
  reported : ∀ k, k < (Pairing.all trees).length →
    ledger.reported[k]? = some (decide (k ∈ reports.map Report.pair))
  similarity : ledger.similarity.Holds trees.length .one .zero
    (ledger.results.toList.map (entry PairResult.similarity))
  distance : ledger.distance.Holds trees.length 0 0
    (ledger.results.toList.map (entry PairResult.distance))

namespace Records

theorem empty (trees : List Tree) :
    (Ledger.empty trees.length (Pairing.all trees).length).Records trees [] where
  results := rfl
  failures := rfl
  marks := by simp [Ledger.empty]
  reported k hk := by simp [Ledger.empty, hk]
  similarity := .filled _ _ _
  distance := .filled _ _ _

/-- A pair has no result before it has reported. -/
theorem fresh (h : ledger.Records trees reports) {k : Nat} {pair : Pairing}
    (there : (Pairing.all trees)[k]? = some pair) (first : k ∉ reports.map Report.pair) :
    pair.place ∉ ledger.results.toList.map PairResult.place := by
  rw [h.results, List.mem_map]
  rintro ⟨r, mem, same⟩
  obtain ⟨report, mem, found⟩ := List.mem_filterMap.1 mem
  obtain ⟨other, there', verdict⟩ := Option.bind_eq_some_iff.1 found
  rw [List.getElem?_toArray] at there'
  rw [Pairing.place_of_result? verdict] at same
  -- places tell pairs apart, so the earlier report would be about the same pair
  have places := Pairing.nodup_places trees
  have equal : ((Pairing.all trees).map Pairing.place)[report.pair]? =
      ((Pairing.all trees).map Pairing.place)[k]? := by
    rw [List.getElem?_map, List.getElem?_map, there, there', Option.map_some, Option.map_some,
      same]
  obtain ⟨inside, _⟩ := List.getElem?_eq_some_iff.1 there'
  have number : report.pair = k := (List.getElem?_inj (by simpa using inside) places).1 equal
  exact first (number ▸ List.mem_map_of_mem mem)

/-- A matrix takes up the result that a report adds, if it adds one. -/
theorem holds_elim {α : Type} {m : SymmetricMatrix α} {diagonal elsewhere : α}
    {value : PairResult → α} {results : List PairResult} {pair : Pairing} {verdict : Verdict}
    (h : m.Holds trees.length diagonal elsewhere (results.map (entry value)))
    (mem : pair ∈ Pairing.all trees)
    (first : pair.place ∉ results.map PairResult.place) :
    ((pair.result? verdict).elim m (fun r => m.put r.i r.j (value r))).Holds trees.length
      diagonal elsewhere ((results ++ (pair.result? verdict).toList).map (entry value)) := by
  cases verdict with
  | ok score =>
      rw [List.map_append]
      apply h.put (Pairing.mem_all_iff.1 mem).1 (Pairing.lt_length_of_mem_all mem)
      rw [List.map_map]
      exact first
  | error message => simpa [Pairing.result?] using h

theorem receive (h : ledger.Records trees reports) {report : Report} {pair : Pairing}
    (there : (Pairing.all trees)[report.pair]? = some pair)
    (first : report.pair ∉ reports.map Report.pair) (every : Nat) :
    (ledger.receive (Pairing.all trees).toArray every report).Records trees
      (reports ++ [report]) := by
  have there' : (Pairing.all trees).toArray[report.pair]? = some pair := by
    rw [List.getElem?_toArray, there]
  obtain ⟨results, failures, reported, similarity, distance⟩ :=
    receive_spec ledger there' every
  have mem : pair ∈ Pairing.all trees := List.mem_of_getElem? there
  have fresh := h.fresh there first
  refine ⟨?_, ?_, ?_, ?_, ?_, ?_⟩
  · rw [results, h.results, List.filterMap_append, filterMap_cons_append, Report.result?, there',
      Option.bind_some, List.filterMap_nil, List.append_nil]
  · rw [failures, h.failures, List.filterMap_append, filterMap_cons_append, Report.breakage?,
      there', Option.bind_some, List.filterMap_nil, List.append_nil]
  · rw [reported, Array.size_setIfInBounds, h.marks]
  · intro k hk
    rw [reported, Array.getElem?_setIfInBounds, h.reported k hk, h.marks]
    by_cases same : report.pair = k
    · simp [same, hk]
    · simp [same, Ne.symm same]
  · rw [similarity, results]
    exact holds_elim h.similarity mem fresh
  · rw [distance, results]
    exact holds_elim h.distance mem fresh

end Records

end Recording

section Closing

variable {ledger : Ledger} {pairs : Array Pairing} {c : Nat}

/-- Of numbered elements, those from one number on are left. -/
theorem filter_zipIdx_eq {α : Type} {l : List α} (le : c ≤ l.length) {p : α × Nat → Bool}
    (h : ∀ x k, k < l.length → p (x, k) = !decide (k < c)) :
    l.zipIdx.filter p = (l.drop c).zipIdx c := by
  have length : (l.take c).length = c := by
    rw [List.length_take, Nat.min_eq_left le]
  have numbered : l.zipIdx = (l.take c).zipIdx ++ (l.drop c).zipIdx c := by
    conv_lhs => rw [← List.take_append_drop c l, List.zipIdx_append, length, Nat.zero_add]
  -- the filter drops all of the first part and keeps all of the second
  have first : (l.take c).zipIdx.filter p = [] := by
    rw [List.filter_eq_nil_iff]
    rintro ⟨x, k⟩ mem
    obtain ⟨_, inside, _⟩ := List.mem_zipIdx mem
    simp [h x k (by omega), show k < c by omega]
  have others : ((l.drop c).zipIdx c).filter p = (l.drop c).zipIdx c := by
    rw [List.filter_eq_self]
    rintro ⟨x, k⟩ mem
    obtain ⟨behind, inside, _⟩ := List.mem_zipIdx mem
    rw [List.length_drop] at inside
    simp [h x k (by omega), behind]
  rw [numbered, List.filter_append, first, others, List.nil_append]

/-- If the first pairs have reported and no other one, the failures that are added are those of
the other pairs, in their order. -/
theorem missing_eq (reported : ∀ k, k < pairs.size → ledger.reported[k]? = some (decide (k < c)))
    (le : c ≤ pairs.size) {cancelled : Bool} (flag : c < pairs.size → cancelled = true) :
    ledger.missing pairs c cancelled = (pairs.toList.drop c).map Failure.ofCancelled := by
  rw [missing, filter_zipIdx_eq le (fun pair k hk => by simp [reported k hk])]
  conv_rhs => rw [← List.zipIdx_map_fst c (pairs.toList.drop c), List.map_map]
  apply List.map_congr_left
  rintro ⟨pair, number⟩ mem
  obtain ⟨behind, inside, _⟩ := List.mem_zipIdx mem
  rw [List.length_drop, Array.length_toList] at inside
  simp [unreported, flag (by omega), behind, Failure.ofCancelled]

end Closing

end Ledger
end Likeness
