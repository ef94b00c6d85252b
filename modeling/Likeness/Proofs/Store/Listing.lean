import Likeness.Proofs.Store.ReadBack
import Likeness.Proofs.Store.Saving
import Likeness.Proofs.Text.Numeral

/-!
# The list of all runs

Batches are saved one after the other, some of them are refused, and the clock may go back.  The
list has a line for each batch that was saved.  It is sorted by seconds and then by names as texts,
and within a second names start with numerals of the same length, so that the lines come out by the
milliseconds of the clock, the latest first; a tie is decided by the first digits of the digest.

**Main statements.**
* `Store.Lists.save`, `View.History.lists`: what the tables hold after one batch, and after all.
* `SaveRequest.before_of_orderBy`: the order of two lines.
* `Store.Lists.exists_listed`: the list that the tables give.
* `list_after_saves`: the list of a database.
-/

namespace Likeness

namespace SaveRequest

def run (request : SaveRequest) : StoredRun :=
  Store.runRow request.name? request.params request.batch request.clock

/-- The first digits of the digest. -/
def digits (request : SaveRequest) : String :=
  String.ofList (request.batch.digest.toList.take Store.digestLength)

def info (request : SaveRequest) : RunInfo :=
  ⟨request.run.runId, request.batch.digest, request.name?, (request.clock / 1000 : Nat),
    request.batch.identifiers.length, request.batch.results.length⟩

/-- The first second is over, and seconds and counts fit machine words. -/
structure Fits (request : SaveRequest) : Prop where
  late : 1000 ≤ request.clock
  seconds : request.clock < 1000 * 2 ^ 63
  places : request.batch.identifiers.length < 2 ^ 64
  results : request.batch.results.length < 2 ^ 64

end SaveRequest

namespace Store

section Histories

/-- A store of the runs of some batches, with a line for each. -/
structure Lists (store : Store) (saved : List SaveRequest) : Prop where
  sound : store.IsSound
  rows : store.runs.rows = saved.map fun request => request.run.row
  shown : ∀ request ∈ saved, store.info request.run.row = .ok request.info
  apart : (saved.map fun request => request.run.runId).Nodup

theorem lists_empty : empty.Lists [] where
  sound := isSound_empty
  rows := rfl
  shown := nofun
  apart := .nil

variable {store kept : Store} {saved : List SaveRequest} {request : SaveRequest}

/-- A run that has just been saved has as many results as its batch. -/
theorem pairCount_added {records : List Record} (sound : store.IsSound)
    (fresh : ∀ row ∈ store.runs.rows,
      (Cell.text request.run.runId).agrees (.plain .utf8) (Table.cell row 0) = false)
    (there : request.batch.records? = some records) :
    (store.grown (added request.name? request.params request.batch records request.clock)).pairCount
      request.run.row = request.batch.results.length := by
  have length : request.batch.results.length = records.length := by
    have same := congrArg List.length (mapM_eq_some_iff.1 there)
    rwa [List.length_map, List.length_map] at same
  have named : Table.cell request.run.row 0 = .text request.run.runId := rfl
  have old : store.pairs.rows.countP ((store.grown (added request.name? request.params
      request.batch records request.clock)).belongs request.run.row) = 0 := by
    rw [List.countP_eq_zero]
    intro pair mem
    -- an older result belongs to an older run, which has another name
    obtain ⟨run, inside, same⟩ := sound.owned .pairs pair mem
    rw [belongs_eq (sound.standard.grown _), ← same, named, Cell.agrees_comm, fresh run inside]
    exact Bool.false_ne_true
  have new : ((records.map (pairRow request.run.runId)).map StoredPair.row).countP
      ((store.grown (added request.name? request.params request.batch records
        request.clock)).belongs request.run.row) = records.length := by
    rw [List.map_map, List.countP_eq_length.2, List.length_map]
    intro pair mem
    obtain ⟨record, _, rfl⟩ := List.mem_map.1 mem
    rw [belongs_eq (sound.standard.grown _), named]
    exact Cell.agrees_text_iff.2 rfl
  rw [pairCount, length]
  change (store.pairs.rows ++ (records.map (pairRow request.run.runId)).map StoredPair.row).countP _
    = _
  rw [List.countP_append, old, new, Nat.zero_add]

/-- One batch more: its run stands behind all others, under a name of its own. -/
theorem Lists.save (h : store.Lists saved) (fits : request.Fits) {runId : String}
    (came : store.save request.name? request.params request.batch request.clock =
      .ok (runId, kept)) : kept.Lists (saved ++ [request]) := by
  have standard := h.sound.standard
  have fresh := agrees_of_save standard came
  have sound := h.sound.save came
  obtain ⟨records, there, rfl, rfl, _⟩ := save_eq_ok standard came
  refine ⟨sound, ?_, ?_, ?_⟩
  · rw [List.map_append]
    exact congrArg (· ++ _) h.rows
  · intro other mem
    rcases List.mem_append.1 mem with before | here
    · have inside : other.run.row ∈ store.runs.rows := by
        rw [h.rows]
        exact List.mem_map_of_mem before
      rw [info_grown standard isOf_added fresh inside]
      exact h.shown other before
    · obtain rfl := List.mem_singleton.1 here
      have count := pairCount_added h.sound fresh there
      have seconds : other.run.seconds < 2 ^ 63 := Nat.div_lt_of_lt_mul fits.seconds
      have places : other.run.treeCount < 2 ^ 64 := fits.places
      rw [info_row sound.standard, count, bmod_of_lt seconds, wordOf_bmod places,
        wordOf_natCast fits.results]
      rfl
  · rw [List.map_append, List.nodup_append]
    refine ⟨h.apart, List.nodup_singleton _, ?_⟩
    intro name before name' here same
    obtain ⟨other, mem, rfl⟩ := List.mem_map.1 before
    obtain rfl := List.mem_singleton.1 here
    have different := fresh other.run.row (by
      rw [h.rows]
      exact List.mem_map_of_mem mem)
    have equal := Cell.agrees_text_iff.2 same.symm
    exact absurd (equal.symm.trans different) (by decide)

end Histories
end Store

/-- After any saves, the tables hold the runs of the batches that were saved. -/
theorem View.History.lists {W : Type} [Host (StateM W)] [Database (StateM W)] {view : View W}
    {name : String} (kept : view.IsTransactional name) {saved : List SaveRequest} {world : W}
    (history : view.History name saved world) (fits : ∀ request ∈ saved, request.Fits) :
    (view.held world).store.Lists saved := by
  have lists := history.induction kept
    (P := fun saved store => (∀ request ∈ saved, request.Fits) → store.Lists saved)
    (fun _ => Store.lists_empty)
    fun request ih taken fits =>
      (ih fun other mem => fits other (List.mem_append_left _ mem)).save
        (fits request (List.mem_append_right _ List.mem_cons_self)) taken
  exact lists fits

namespace SaveRequest

variable {a b : SaveRequest}

/-- The name of a run starts with a numeral. -/
theorem toList_runId (request : SaveRequest) :
    request.run.runId.toList =
      Nat.toDigits 10 request.clock ++ '-' :: request.digits.toList := by
  have name : request.run.runId = toString request.clock ++ "-" ++ request.digits := rfl
  rw [name, String.toList_append, String.toList_append, Nat.toString_eq_repr, Nat.toList_repr,
    List.append_assoc]
  rfl

/-- Within a second, names as texts are in the order of the clock, then of the digits. -/
theorem before_of_runId_lt (late : 1000 ≤ a.clock) (same : a.clock / 1000 = b.clock / 1000)
    (less : b.run.runId < a.run.runId) :
    b.clock < a.clock ∨ a.clock = b.clock ∧ b.digits < a.digits := by
  have long : (Nat.toDigits 10 b.clock).length = (Nat.toDigits 10 a.clock).length :=
    length_toDigits_eq_of_div 3 (by omega) (by omega)
  rw [String.lt_iff, toList_runId, toList_runId] at less
  rcases lt_of_toDigits_append_lt long less with earlier | ⟨tie, behind⟩
  · exact Or.inl earlier
  · exact Or.inr ⟨tie.symm, String.lt_iff.2 (List.cons_lt_cons_self.1 behind)⟩

theorem orderBy_runs {store : Store} (standard : store.IsStandard) (ha : a.Fits) (hb : b.Fits) :
    store.runs.orderBy [("timestamp", true), ("run_id", true)] a.run.row b.run.row =
      (compare ((a.clock / 1000 : Nat) : Int) ((b.clock / 1000 : Nat) : Int)).swap.then
        (compare a.run.runId b.run.runId).swap := by
  have cell (place : Nat) (key : String) (found : Part.runs.definition.place? key = some place)
      (row : List Cell) : store.runs.at? key row = Table.cell row place :=
    Store.at?_eq standard found row
  have column : (store.runs.columnOf "run_id").collation = .plain .utf8 :=
    congrArg Column.collation (Store.columnOf_eq standard (Store.place?_runId .runs))
  have seconds {request : SaveRequest} (fits : request.Fits) :
      Table.cell request.run.row 3 = .integer ((request.clock / 1000 : Nat) : Int) := by
    have less : request.clock / 1000 < 2 ^ 63 := Nat.div_lt_of_lt_mul fits.seconds
    exact congrArg Cell.integer (Store.bmod_of_lt less)
  simp only [Table.orderBy, List.foldr_cons, List.foldr_nil, cell 3 "timestamp" (by decide),
    cell 0 "run_id" (by decide), column, seconds ha, seconds hb, if_true, Ordering.then_eq]
  rfl

/-- A line stands before another of another name only if it is of a later moment, or of the same one
with greater digits. -/
theorem before_of_orderBy {store : Store} (standard : store.IsStandard) (ha : a.Fits) (hb : b.Fits)
    (apart : a.run.runId ≠ b.run.runId)
    (order : (store.runs.orderBy [("timestamp", true), ("run_id", true)] a.run.row
      b.run.row).isLE = true) :
    b.clock < a.clock ∨ a.clock = b.clock ∧ b.digits < a.digits := by
  rw [orderBy_runs standard ha hb, Ordering.isLE_then_iff_or, Ordering.swap_eq_lt,
    Ordering.swap_eq_eq, Int.compare_eq_gt, Int.compare_eq_eq] at order
  rcases order with later | ⟨same, name⟩
  · exact Or.inl (by omega)
  · refine before_of_runId_lt ha.late (Int.ofNat.inj same) ?_
    by_contra notLess
    have less : a.run.runId < b.run.runId := by
      by_contra notGreater
      exact apart (String.le_antisymm notLess notGreater)
    rw [Store.compare_of_lt less] at name
    cases name

end SaveRequest

/-- The lines are those of the batches, in the order of the clock. -/
theorem Store.Lists.exists_listed {store : Store} {saved : List SaveRequest}
    (h : store.Lists saved) (fits : ∀ request ∈ saved, request.Fits) :
    ∃ listed : List SaveRequest, listed.Perm saved ∧
      store.list = .ok (listed.map SaveRequest.info) ∧
      listed.Pairwise (fun a b =>
        b.clock < a.clock ∨ a.clock = b.clock ∧ b.digits < a.digits) := by
  have standard := h.sound.standard
  have plain : store.runs.IsPlain [("timestamp", true), ("run_id", true)] :=
    @isPlain_columns _ standard .runs _ (by decide)
  let listed := saved.mergeSort fun a b =>
    (store.runs.orderBy [("timestamp", true), ("run_id", true)] a.run.row b.run.row).isLE
  have perm : listed.Perm saved := List.mergeSort_perm _ _
  have sorted : listed.map (fun request => request.run.row) =
      store.runs.sortedBy [("timestamp", true), ("run_id", true)] store.runs.rows := by
    rw [h.rows]
    exact List.map_mergeSort fun a _ b _ => rfl
  refine ⟨listed, perm, ?_, ?_⟩
  · have whole : store.runs.isWhole = true := h.sound.whole .runs
    have whole' : store.pairs.isWhole = true := h.sound.whole .pairs
    rw [list_eq standard, whole, whole', ← sorted]
    exact mapM_map_eq_ok fun request mem => h.shown request (perm.mem_iff.1 mem)
  · have ordered := Table.pairwise_sortedBy plain store.runs.rows
    rw [← sorted, List.pairwise_map] at ordered
    have apart := (perm.map fun request => request.run.runId).nodup_iff.2 h.apart
    rw [List.Nodup, List.pairwise_map] at apart
    refine (ordered.and apart).imp_of_mem ?_
    rintro a b ha hb ⟨order, other⟩
    exact SaveRequest.before_of_orderBy standard (fits a (perm.mem_iff.1 ha))
      (fits b (perm.mem_iff.1 hb)) other order

/-- After any batches have been saved to a new database, or refused, at any moments of the clock from
the first second on, the list has one line for each batch that was saved, with the numbers of its
trees and of its results.  Later moments come first, and at the same moment greater digits do. -/
theorem list_after_saves {W : Type} [Host (StateM W)] [Database (StateM W)] {view : View W}
    {name : String} (kept : view.IsTransactional name) {saved : List SaveRequest} {last : W}
    (history : view.History name saved last) (fits : ∀ request ∈ saved, request.Fits)
    (ready : view.IsReady last) :
    ∃ listed : List SaveRequest, listed.Perm saved ∧
      (listIn last name).1 = .ok (listed.map SaveRequest.info) ∧
      listed.Pairwise (fun a b =>
        b.clock < a.clock ∨ a.clock = b.clock ∧ b.digits < a.digits) := by
  obtain ⟨listed, perm, lines, ordered⟩ := (history.lists kept fits).exists_listed fits
  refine ⟨listed, perm, ?_, ordered⟩
  rw [kept.listIn_eq ready, lines]
  rfl

section Samples

/-- The same batch three times, twice at the same moment. -/
def sampleRequests : List SaveRequest :=
  [9999, 10000, 10000].map (⟨none, .standard, sampleBatch [samplePair], ·⟩)

theorem digest_samplePair : (sampleBatch [samplePair]).digest =
    "9e1dee1da3ba8efbe373d85b49a8bc625b98af29cfb1d410096e01ed3beda476" := by
  rw [digest_sampleBatch (by decide)]
  decide +kernel

/-- The third one is refused, as there is a run of its name. -/
theorem clocks_saveEach_sample :
    (Store.empty.saveEach sampleRequests).1.map SaveRequest.clock = [9999, 10000] := by
  simp only [sampleRequests, List.map_cons, List.map_nil, Store.saveEach, Store.save, Store.saveBy,
    Store.runRow, digest_samplePair]
  decide +kernel

theorem fits_sampleRequests : ∀ request ∈ sampleRequests, request.Fits := by
  intro request mem
  obtain ⟨clock, inside, rfl⟩ := List.mem_map.1 mem
  have near : ∀ clock ∈ [9999, 10000, 10000], 1000 ≤ clock ∧ clock < 1000 * 2 ^ 63 := by decide
  obtain ⟨late, early⟩ := near clock inside
  exact ⟨late, early, (by decide : ["a", "b"].length < 2 ^ 64),
    (by decide : [samplePair].length < 2 ^ 64)⟩

/-- The later one comes first, although its numeral is less as a text. -/
theorem list_after_saves_sample :
    (Site.view Site.sampleName).IsTransactional Site.sampleName ∧
    ∃ (saved : List SaveRequest) (last : Site),
      (Site.view Site.sampleName).History Site.sampleName saved last ∧
      (∀ request ∈ saved, request.Fits) ∧ (Site.view Site.sampleName).IsReady last ∧
      ∃ lines, (listIn last Site.sampleName).1 = .ok lines ∧
        lines.map RunInfo.seconds = [10, 9] := by
  have kept := Site.isTransactional_sampleName
  obtain ⟨last, history, -⟩ := Site.exists_history Site.ancestors_sampleName sampleRequests
  have fits : ∀ request ∈ (Store.empty.saveEach sampleRequests).1, request.Fits :=
    fun request mem => fits_sampleRequests request (Store.mem_saveEach mem)
  obtain ⟨listed, perm, lines, ordered⟩ := list_after_saves kept history fits trivial
  have clocks : listed.map SaveRequest.clock = [10000, 9999] := by
    have falling : (listed.map SaveRequest.clock).Pairwise (· ≥ ·) :=
      List.pairwise_map.2 (ordered.imp fun before => by omega)
    have same : (listed.map SaveRequest.clock).Perm [10000, 9999] := by
      refine (perm.map SaveRequest.clock).trans ?_
      rw [clocks_saveEach_sample]
      exact .swap _ _ _
    exact same.eq_of_pairwise (fun a b _ _ first second => Nat.le_antisymm second first) falling
      (by decide)
  refine ⟨kept, _, last, history, fits, trivial, _, lines, ?_⟩
  have seconds := congrArg (List.map fun clock => ((clock / 1000 : Nat) : Int)) clocks
  rw [List.map_map] at seconds ⊢
  exact seconds

end Samples
end Likeness
