import Likeness.Digest.Run
import Likeness.Proofs.Batch.Orderly
import Likeness.Proofs.Text.ByteOrder
import Likeness.Proofs.Text.Numeral

/-!
# What the bytes of a batch tell

The bytes that identify a batch have no counts and no mark between names and results.  They can be
read in one way only all the same.  Names in ascending order are not empty, the first one excepted,
so that no two null bytes follow each other in what is written of the others; a row of a result
starts with a place below `2 ^ 48`, whose two highest bytes are null.  So a row is never taken for
a name, or else at least one whole row would have to be names.

**Main statements.**
* `PairResult.eq_of_bytes_eq`: a row of bytes is that of one result.
* `names_eq_or_left_over`: what two sequences of names and rows with the same bytes have in common.
* `false_of_rows_eq_names`: no rows begin with the bytes of names.
* `Batch.digestBytes_eq_iff`: the bytes of a batch tell its identifiers and its results.
-/

namespace Likeness

section Words

theorem wordBytes_eq (word : UInt64) :
    wordBytes word =
      [word.toUInt8, (word >>> 8).toUInt8, (word >>> 16).toUInt8, (word >>> 24).toUInt8,
        (word >>> 32).toUInt8, (word >>> 40).toUInt8, (word >>> 48).toUInt8,
        (word >>> 56).toUInt8] := by
  simp [wordBytes, List.range, List.range.loop]

@[simp] theorem length_wordBytes (word : UInt64) : (wordBytes word).length = 8 := by
  rw [wordBytes_eq]
  rfl

theorem wordBytes_injective {v w : UInt64} (same : wordBytes v = wordBytes w) : v = w := by
  rw [wordBytes_eq, wordBytes_eq] at same
  simp only [List.cons.injEq, ← UInt8.toNat_inj, UInt64.toNat_toUInt8, UInt64.toNat_shiftRight,
    Nat.shiftRight_eq_div_pow] at same
  rw [← UInt64.toNat_inj]
  have hv := v.toNat_lt
  have hw := w.toNat_lt
  simp at same
  omega

/-- The two highest bytes of a small word are null. -/
theorem exists_wordBytes_eq {word : UInt64} (small : word.toNat < 2 ^ 48) :
    ∃ low, wordBytes word = low ++ [0, 0] := by
  refine ⟨[word.toUInt8, (word >>> 8).toUInt8, (word >>> 16).toUInt8, (word >>> 24).toUInt8,
    (word >>> 32).toUInt8, (word >>> 40).toUInt8], ?_⟩
  rw [wordBytes_eq]
  simp only [List.cons_append, List.nil_append, List.cons.injEq, true_and, and_true,
    ← UInt8.toNat_inj, UInt64.toNat_toUInt8, UInt64.toNat_shiftRight, Nat.shiftRight_eq_div_pow]
  simp
  omega

theorem toUInt64_injOn {m n : Nat} (hm : m < 2 ^ 64) (hn : n < 2 ^ 64)
    (same : m.toUInt64 = n.toUInt64) : m = n :=
  calc
    m = m.toUInt64.toNat := (UInt64.toNat_ofNat_of_lt' hm).symm
    _ = n.toUInt64.toNat := congrArg UInt64.toNat same
    _ = n := UInt64.toNat_ofNat_of_lt' hn

end Words

section Rows

namespace PairResult

/-- Places of 48 bits and a distance of 64 bits. -/
structure Fits (r : PairResult) : Prop where
  i : r.i < 2 ^ 48
  j : r.j < 2 ^ 48
  distance : r.distance < 2 ^ 64

@[simp] theorem length_bytes (r : PairResult) : r.bytes.length = 32 := by
  simp [bytes]

theorem eq_of_bytes_eq {r s : PairResult} (hr : r.Fits) (hs : s.Fits)
    (same : r.bytes = s.bytes) : r = s := by
  unfold bytes at same
  obtain ⟨front, similarity⟩ := List.append_inj same (by simp)
  obtain ⟨places, distance⟩ := List.append_inj front (by simp)
  obtain ⟨first, second⟩ := List.append_inj places (by simp)
  have hi := toUInt64_injOn (Nat.lt_trans hr.i (by decide)) (Nat.lt_trans hs.i (by decide))
    (wordBytes_injective first)
  have hj := toUInt64_injOn (Nat.lt_trans hr.j (by decide)) (Nat.lt_trans hs.j (by decide))
    (wordBytes_injective second)
  have hd := toUInt64_injOn hr.distance hs.distance (wordBytes_injective distance)
  have bits := wordBytes_injective similarity
  rcases r with ⟨_, _, _, ⟨_⟩⟩
  rcases s with ⟨_, _, _, ⟨_⟩⟩
  simp only at hi hj hd bits
  rw [hi, hj, hd, bits]

/-- The first place of a row ends in two null bytes. -/
theorem Fits.exists_bytes_eq {r : PairResult} (fits : r.Fits) :
    ∃ low rest, low.length = 6 ∧ r.bytes = low ++ [0, 0] ++ rest := by
  have small : r.i.toUInt64.toNat < 2 ^ 48 := by
    refine Nat.lt_of_le_of_lt (Nat.le_of_eq ?_) fits.i
    exact UInt64.toNat_ofNat_of_lt' (Nat.lt_trans fits.i (by decide))
  obtain ⟨low, first⟩ := exists_wordBytes_eq small
  refine ⟨low, wordBytes r.j.toUInt64 ++ wordBytes r.distance.toUInt64
    ++ wordBytes r.similarity.bits, ?_, ?_⟩
  · have length := congrArg List.length first
    rw [length_wordBytes, List.length_append] at length
    exact Nat.add_right_cancel length.symm
  · rw [bytes, first]
    simp only [List.append_assoc]

end PairResult

theorem length_rows (rows : List PairResult) :
    (rows.flatMap PairResult.bytes).length = 32 * rows.length := by
  induction rows with
  | nil => rfl
  | cons r rows ih =>
      rw [List.flatMap_cons, List.length_append, ih, PairResult.length_bytes, List.length_cons]
      omega

/-- Rows are cut at every 32 bytes. -/
theorem rows_eq_of_bytes_eq {rows rows' : List PairResult} (fits : ∀ r ∈ rows, r.Fits)
    (fits' : ∀ r ∈ rows', r.Fits)
    (same : rows.flatMap PairResult.bytes = rows'.flatMap PairResult.bytes) : rows = rows' := by
  have lengths := congrArg List.length same
  rw [length_rows, length_rows] at lengths
  induction rows generalizing rows' with
  | nil => exact (List.eq_nil_of_length_eq_zero (by simpa using lengths.symm)).symm
  | cons r rows ih =>
      cases rows' with
      | nil => simp at lengths
      | cons s rows' =>
          rw [List.flatMap_cons, List.flatMap_cons] at same
          obtain ⟨first, others⟩ := List.append_inj same (by simp)
          obtain rfl := PairResult.eq_of_bytes_eq (fits r (.head _)) (fits' s (.head _)) first
          rw [ih (fun r mem => fits r (.tail _ mem)) (fun r mem => fits' r (.tail _ mem)) others
            (by simpa using lengths)]

end Rows

section Names

/-- A name ends at the first null byte. -/
theorem identifierBytes_append_inj {name name' : String} {rest rest' : List UInt8}
    (plain : '\x00' ∉ name.toList) (plain' : '\x00' ∉ name'.toList)
    (same : identifierBytes name ++ rest = identifierBytes name' ++ rest') :
    name = name' ∧ rest = rest' := by
  rw [← Utf8.zero_mem_bytes_iff] at plain plain'
  rw [identifierBytes, identifierBytes, List.append_assoc, List.append_assoc] at same
  obtain ⟨bytes, others⟩ := append_separator_inj plain plain' same
  exact ⟨Utf8.eq_iff_bytes_eq.2 bytes, others⟩

/-- If names with something behind them have the same bytes, then these are the same names and the
same bytes behind them, or there are more names on one side, and their bytes come first behind the
names on the other side. -/
theorem names_eq_or_left_over {names names' : List String} {rest rest' : List UInt8}
    (plain : ∀ name ∈ names, '\x00' ∉ name.toList)
    (plain' : ∀ name ∈ names', '\x00' ∉ name.toList)
    (same : names.flatMap identifierBytes ++ rest = names'.flatMap identifierBytes ++ rest') :
    (names = names' ∧ rest = rest')
      ∨ (∃ more, more ≠ [] ∧ names' = names ++ more
          ∧ rest = more.flatMap identifierBytes ++ rest')
      ∨ ∃ more, more ≠ [] ∧ names = names' ++ more
          ∧ rest' = more.flatMap identifierBytes ++ rest := by
  induction names generalizing names' with
  | nil =>
      cases names' with
      | nil => exact Or.inl ⟨rfl, same⟩
      | cons name' names' => exact Or.inr (Or.inl ⟨name' :: names', by simp, rfl, same⟩)
  | cons name names ih =>
      cases names' with
      | nil => exact Or.inr (Or.inr ⟨name :: names, by simp, rfl, same.symm⟩)
      | cons name' names' =>
          rw [List.flatMap_cons, List.flatMap_cons, List.append_assoc, List.append_assoc] at same
          obtain ⟨rfl, others⟩ := identifierBytes_append_inj (plain name (.head _))
            (plain' name' (.head _)) same
          rcases ih (fun n mem => plain n (.tail _ mem)) (fun n mem => plain' n (.tail _ mem))
            others with ⟨rfl, h⟩ | ⟨more, some, rfl, h⟩ | ⟨more, some, rfl, h⟩
          · exact Or.inl ⟨rfl, h⟩
          · exact Or.inr (Or.inl ⟨more, some, rfl, h⟩)
          · exact Or.inr (Or.inr ⟨more, some, rfl, h⟩)

theorem exists_identifierBytes_eq {name : String} (written : name ≠ "")
    (plain : '\x00' ∉ name.toList) :
    ∃ byte rest, byte ≠ 0 ∧ 0 ∉ byte :: rest ∧ identifierBytes name = byte :: rest ++ [0] := by
  rw [← Utf8.zero_mem_bytes_iff] at plain
  cases h : name.toUTF8.toList with
  | nil =>
      refine absurd (Utf8.eq_iff_bytes_eq.2 ?_) written
      rw [h, Utf8.toList_toUTF8]
      rfl
  | cons byte rest =>
      rw [h] at plain
      exact ⟨byte, rest, fun null => plain (null ▸ .head _), plain, by rw [identifierBytes, h]⟩

/-- No two null bytes follow each other in names that are not empty. -/
theorem isChain_names {names : List String} (written : ∀ name ∈ names, name ≠ "")
    (plain : ∀ name ∈ names, '\x00' ∉ name.toList) :
    (names.flatMap identifierBytes).IsChain (fun x y => x = 0 → y ≠ 0) := by
  induction names with
  | nil => exact .nil
  | cons name names ih =>
      obtain ⟨byte, rest, -, none, eq⟩ :=
        exists_identifierBytes_eq (written name (.head _)) (plain name (.head _))
      have inner : (byte :: rest).IsChain (fun x y => x = 0 → y ≠ 0) := by
        refine List.Pairwise.isChain (List.pairwise_of_forall_mem_list ?_)
        intro x mem y _ null
        exact absurd (null ▸ mem) none
      rw [List.flatMap_cons, eq, List.isChain_append, List.isChain_append]
      refine ⟨⟨inner, .singleton _, ?_⟩, ih (fun n mem => written n (.tail _ mem))
        (fun n mem => plain n (.tail _ mem)), ?_⟩
      · intro x last y _ null
        exact absurd (null ▸ List.mem_of_mem_getLast? last) none
      · -- the next name does not start with a null byte
        intro _ _ y first _
        cases names with
        | nil => simp at first
        | cons other names =>
            obtain ⟨byte', rest', some, -, eq'⟩ :=
              exists_identifierBytes_eq (written other (by simp)) (plain other (by simp))
            rw [List.flatMap_cons, eq'] at first
            obtain rfl : byte' = y := by simpa using first
            exact some

/-- No rows begin with the bytes of names that are not empty. -/
theorem false_of_rows_eq_names {rows rows' : List PairResult} {names : List String}
    (fits : ∀ r ∈ rows, r.Fits) (some : names ≠ [])
    (written : ∀ name ∈ names, name ≠ "") (plain : ∀ name ∈ names, '\x00' ∉ name.toList)
    (same : rows.flatMap PairResult.bytes =
      names.flatMap identifierBytes ++ rows'.flatMap PairResult.bytes) : False := by
  have length := congrArg List.length same
  rw [length_rows, List.length_append, length_rows] at length
  have positive : 0 < (names.flatMap identifierBytes).length := by
    obtain ⟨name, others, rfl⟩ := List.exists_cons_of_ne_nil some
    rw [List.flatMap_cons, List.length_append, identifierBytes, List.length_append]
    exact Nat.lt_of_lt_of_le (Nat.succ_pos _) (Nat.le_add_right _ _)
  cases rows with
  | nil =>
      rw [List.length_nil] at length
      omega
  | cons r rows =>
      -- the names make up whole rows, so the first place of the first row is read as names
      obtain ⟨low, rest, six, eq⟩ := (fits r (.head _)).exists_bytes_eq
      rw [List.flatMap_cons, eq, List.append_assoc] at same
      obtain ⟨more, front⟩ : low ++ [0, 0] <+: names.flatMap identifierBytes := by
        refine List.prefix_of_prefix_length_le ⟨_, same⟩ (List.prefix_append _ _) ?_
        rw [List.length_append, six]
        change 8 ≤ _
        omega
      have chain := isChain_names written plain
      rw [← front, List.isChain_append, List.isChain_append] at chain
      exact (List.isChain_pair.1 chain.1.2.1) rfl rfl

end Names

namespace Batch

/-- What the bytes of a batch can hold: places of 48 bits, names without null characters, and
distances that are words of 64 bits. -/
structure FitsBytes (batch : Batch) : Prop where
  places : batch.identifiers.length < 2 ^ 48
  names : ∀ name ∈ batch.identifiers, '\x00' ∉ name.toList
  distances : ∀ r ∈ batch.results, r.distance < 2 ^ 64

variable {batch batch' : Batch}

theorem Compared.fits (compared : batch.Compared) (fits : batch.FitsBytes) :
    ∀ r ∈ batch.sortedResults, r.Fits := by
  intro r mem
  have perm : batch.sortedResults.Perm batch.results := List.mergeSort_perm _ _
  rw [perm.mem_iff] at mem
  obtain ⟨order, bound⟩ := compared.inRange r mem
  have places := fits.places
  exact ⟨by omega, by omega, fits.distances r mem⟩

/-- Behind the names of a batch no other names can stand. -/
theorem Compared.false_of_left_over (compared : batch.Compared) (compared' : batch'.Compared)
    (fits : batch.FitsBytes) (fits' : batch'.FitsBytes) {more : List String} (some : more ≠ [])
    (names : batch'.identifiers = batch.identifiers ++ more)
    (rows : batch.sortedResults.flatMap PairResult.bytes =
      more.flatMap identifierBytes ++ batch'.sortedResults.flatMap PairResult.bytes) :
    False := by
  refine false_of_rows_eq_names (compared.fits fits) some ?_ ?_ rows
  · -- only the first one of all names may be empty
    intro name mem
    have ascending := compared'.ascending
    rw [names, List.pairwise_append] at ascending
    obtain ⟨first, there⟩ := List.exists_mem_of_length_pos
      (Nat.lt_of_lt_of_le (by decide) compared.enough)
    rintro rfl
    exact List.not_lt_nil _ (ascending.2.2 first there "" mem)
  · intro name mem
    refine fits'.names name ?_
    rw [names]
    exact List.mem_append_right _ mem

theorem digestBytes_eq_iff (compared : batch.Compared) (compared' : batch'.Compared)
    (fits : batch.FitsBytes) (fits' : batch'.FitsBytes) :
    batch.digestBytes = batch'.digestBytes ↔
      batch.identifiers = batch'.identifiers ∧ batch.sortedResults = batch'.sortedResults := by
  constructor
  · intro same
    rw [digestBytes, digestBytes] at same
    rcases names_eq_or_left_over fits.names fits'.names same with
      ⟨names, rows⟩ | ⟨more, some, names, rows⟩ | ⟨more, some, names, rows⟩
    · exact ⟨names, rows_eq_of_bytes_eq (compared.fits fits) (compared'.fits fits') rows⟩
    · exact (compared.false_of_left_over compared' fits fits' some names rows).elim
    · exact (compared'.false_of_left_over compared fits' fits some names rows).elim
  · rintro ⟨names, results⟩
    rw [digestBytes, digestBytes, names, results]

section Samples

open Pool

/-- Three named trees; the first name is empty. -/
def threeEntries : List (String × Tree) :=
  [("b", .leaf "identifier" "x"), ("", .leaf "identifier" "x"), ("a", .leaf "identifier" "y")]

/-- The first two of them are compared. -/
def whole : FinishedRun
    (.ofTrees 1 1 scoreOf ((Collection.ofList (threeEntries.drop 1)).map Prod.snd)) :=
  .ofActions _ false
    [.look 0, .claim 0, .compare 0, .send 0, .receive, .look 0, .claim 0] (by decide +kernel)

/-- All three are to be compared, but after the first pair the batch is cancelled. -/
def cutOff : FinishedRun (.ofTrees 1 1 scoreOf ((Collection.ofList threeEntries).map Prod.snd)) :=
  .ofActions _ false
    [.look 0, .claim 0, .compare 0, .cancel, .send 0, .receive, .look 0] (by decide +kernel)

def wholeBatch : Batch :=
  .assemble ((Collection.ofList (threeEntries.drop 1)).map Prod.fst) whole.outcome 0

def cutOffBatch : Batch :=
  .assemble ((Collection.ofList threeEntries).map Prod.fst) cutOff.outcome 0

theorem results_wholeBatch : wholeBatch.results = [⟨0, 1, 1, Likeness.similarity 1 2⟩] := by
  decide +kernel

theorem results_cutOffBatch : cutOffBatch.results = [⟨0, 1, 1, Likeness.similarity 1 2⟩] := by
  decide +kernel

/-- The results are the same, and the names are told apart from the bytes behind them. -/
theorem digestBytes_eq_iff_cutOff :
    wholeBatch.Compared ∧ cutOffBatch.Compared ∧ wholeBatch.FitsBytes ∧ cutOffBatch.FitsBytes ∧
      wholeBatch.identifiers = ["", "a"] ∧ cutOffBatch.identifiers = ["", "a", "b"] ∧
      wholeBatch.sortedResults = cutOffBatch.sortedResults ∧
      wholeBatch.digestBytes ≠ cutOffBatch.digestBytes := by
  have compared : wholeBatch.Compared := .assemble (by decide +kernel) (by decide) whole 0
  have compared' : cutOffBatch.Compared := .assemble (by decide +kernel) (by decide) cutOff 0
  have names : wholeBatch.identifiers = ["", "a"] := by decide +kernel
  have names' : cutOffBatch.identifiers = ["", "a", "b"] := by decide +kernel
  have fits : wholeBatch.FitsBytes := by
    refine ⟨?_, ?_, ?_⟩
    · rw [names]
      decide
    · rw [names]
      decide +kernel
    · rw [results_wholeBatch]
      decide
  have fits' : cutOffBatch.FitsBytes := by
    refine ⟨?_, ?_, ?_⟩
    · rw [names']
      decide
    · rw [names']
      decide +kernel
    · rw [results_cutOffBatch]
      decide
  have results : wholeBatch.sortedResults = cutOffBatch.sortedResults := by
    rw [sortedResults, sortedResults, results_wholeBatch, results_cutOffBatch]
  refine ⟨compared, compared', fits, fits', names, names', results, ?_⟩
  intro same
  have told := (digestBytes_eq_iff compared compared' fits fits').1 same
  rw [names, names'] at told
  exact absurd told.1 (by decide)

end Samples

end Batch

end Likeness
