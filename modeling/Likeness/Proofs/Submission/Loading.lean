import Likeness.Proofs.Tree.Walk
import Likeness.Submission.Loading
import Mathlib.Data.List.Nodup

/-!
# What becomes of the files of a directory

Every submission of a directory is either loaded or left out, and only once.  Those with a name
that is a text and with a content that is a tree are loaded, in the order of their names; the
others are left out.  The order in which the directory lists its entries makes no difference to
the trees.

**Main statements.**
* `Listing.perm_shown`: a submission has a name or is left out as nameless.
* `Loaded.ofContents_eq`: which files are loaded and which are left out.
* `Loaded.perm_ofEntries`, `Loaded.mem_trees_ofEntries_iff`, `Loaded.pairwise_trees_ofEntries`,
  `Loaded.ofEntries_of_perm`: the trees of a directory.
-/

namespace Likeness

/-- A regular file whose name ends with the suffix, as far as it can be shown. -/
def Entry.isSubmission (suffix : String) (entry : Entry) : Bool :=
  entry.isFile && Listing.hasEnding suffix (Utf8.shown entry.name)

namespace Listing

variable {suffix : String} {entry : Entry} {entries : List Entry}

section Names

theorem fromUTF8?_eq_some_iff {bytes : ByteArray} {text : String} :
    String.fromUTF8? bytes = some text ↔ bytes = text.toUTF8 := by
  rw [String.toUTF8_eq_toByteArray, String.fromUTF8?]
  constructor
  · intro h
    split at h
    · cases h
      rfl
    · cases h
  · rintro rfl
    rw [dif_pos text.isValidUTF8]
    rfl

theorem shown_of_fromUTF8? {bytes : ByteArray} {text : String}
    (h : String.fromUTF8? bytes = some text) : Utf8.shown bytes = text := by
  rw [Utf8.shown, h]

theorem name?_eq_some_iff {name : String} :
    name? suffix entry = some name ↔
      entry.isFile = true ∧ entry.name = name.toUTF8 ∧ hasEnding suffix name = true := by
  rw [name?]
  split
  · next file =>
      rw [Option.filter_eq_some_iff, fromUTF8?_eq_some_iff]
      simp [file]
  · next other => simp [other]

/-- A submission has a name, or is reported as nameless; all other entries are passed over. -/
theorem name?_or_nameless? (suffix : String) (entry : Entry) :
    (entry.isSubmission suffix = true ∧ name? suffix entry = some (Utf8.shown entry.name) ∧
      nameless? suffix entry = none) ∨
    (entry.isSubmission suffix = true ∧ name? suffix entry = none ∧
      nameless? suffix entry = some ⟨Utf8.shown entry.name, namelessReason⟩) ∨
    (entry.isSubmission suffix = false ∧ name? suffix entry = none ∧
      nameless? suffix entry = none) := by
  cases file : entry.isFile with
  | false => simp [Entry.isSubmission, name?, nameless?, file]
  | true =>
      cases text : String.fromUTF8? entry.name with
      | none =>
          cases ending : hasEnding suffix (Utf8.shown entry.name) <;>
            simp [Entry.isSubmission, name?, nameless?, file, text, ending]
      | some name =>
          have shown := shown_of_fromUTF8? text
          cases ending : hasEnding suffix name <;>
            simp [Entry.isSubmission, name?, nameless?, file, text, shown, ending]

end Names

section Entries

/-- Each submission once, by its name or as nameless. -/
theorem perm_shown (suffix : String) (entries : List Entry) :
    (entries.filterMap (name? suffix) ++
        (entries.filterMap (nameless? suffix)).map Skipped.file).Perm
      ((entries.filter (Entry.isSubmission suffix)).map (fun entry => Utf8.shown entry.name)) := by
  induction entries with
  | nil => exact .nil
  | cons entry entries ih =>
      rcases name?_or_nameless? suffix entry with ⟨is, name, nameless⟩ | ⟨is, name, nameless⟩ |
        ⟨is, name, nameless⟩
      · rw [List.filterMap_cons_some name, List.filterMap_cons_none nameless,
          List.filter_cons_of_pos is]
        exact ih.cons _
      · rw [List.filterMap_cons_none name, List.filterMap_cons_some nameless,
          List.filter_cons_of_pos is]
        exact List.perm_middle.trans (ih.cons _)
      · rw [List.filterMap_cons_none name, List.filterMap_cons_none nameless,
          List.filter_cons_of_neg (by simp [is])]
        exact ih

theorem perm_names (suffix : String) (entries : List Entry) :
    (ofEntries suffix entries).names.Perm (entries.filterMap (name? suffix)) :=
  List.mergeSort_perm _ _

theorem nodup_names (distinct : (entries.map Entry.name).Nodup) :
    (entries.filterMap (name? suffix)).Nodup := by
  have apart : entries.Pairwise (fun a b => a.name ≠ b.name) := List.pairwise_map.1 distinct
  refine List.Pairwise.filterMap _ ?_ apart
  intro a b other name ha name' hb same
  rw [name?_eq_some_iff] at ha hb
  exact other (ha.2.1.trans (same ▸ hb.2.1.symm))

theorem pairwise_names (distinct : (entries.map Entry.name).Nodup) :
    (ofEntries suffix entries).names.Pairwise (· < ·) := by
  have ascending : (ofEntries suffix entries).names.Pairwise (· ≤ ·) := by
    have sorted : (ofEntries suffix entries).names.Pairwise (fun a b => decide (a ≤ b) = true) :=
      List.pairwise_mergeSort (fun a b c => by simpa using String.le_trans)
        (fun a b => by simpa using String.le_total a b) _
    simpa only [decide_eq_true_eq] using sorted
  have apart := (perm_names suffix entries).nodup_iff.2 (nodup_names distinct)
  refine ascending.imp₂ ?_ apart
  intro a b le other
  by_contra notLess
  exact other (String.le_antisymm le notLess)

/-- The names do not depend on the order of the entries. -/
theorem names_of_perm {entries' : List Entry} (distinct : (entries.map Entry.name).Nodup)
    (perm : entries.Perm entries') :
    (ofEntries suffix entries).names = (ofEntries suffix entries').names := by
  have distinct' := (perm.map Entry.name).nodup_iff.1 distinct
  have same := ((perm_names suffix entries).trans (perm.filterMap _)).trans
    (perm_names suffix entries').symm
  refine List.Perm.eq_of_pairwise ?_ (pairwise_names distinct) (pairwise_names distinct') same
  intro a b _ _ less greater
  exact absurd greater (String.lt_asymm less)

end Entries

end Listing

namespace Loaded

variable {directory : String}

section Contents

theorem textOfContent_eq_ok_iff {content : Except FileFault ByteArray} {text : String} :
    textOfContent content = .ok text ↔ content = .ok text.toUTF8 := by
  cases content with
  | error fault => simp [textOfContent, bind, Except.bind]
  | ok bytes =>
      rw [Except.ok.injEq, ← Listing.fromUTF8?_eq_some_iff]
      simp only [textOfContent, bind, Except.bind]
      cases String.fromUTF8? bytes with
      | none => exact ⟨nofun, nofun⟩
      | some other => exact ⟨fun same => congrArg some (Except.ok.inj same), fun same =>
          congrArg Except.ok (Option.some.inj same)⟩

/-- A file is loaded if it holds a text, the text a tree, and each node of the tree has a kind. -/
theorem ofContent_eq_ok_iff (path : String) {content : Except FileFault ByteArray} {tree : Tree} :
    Tree.ofContent path content = .ok tree ↔
      ∃ text, content = .ok text.toUTF8 ∧ Tree.parse text = .ok tree ∧
        ∀ node ∈ tree.postorder, node.kind ≠ "" := by
  simp only [← textOfContent_eq_ok_iff, ← Tree.flaw?_eq_none_iff, Tree.ofContent]
  cases textOfContent content with
  | error fault => simp
  | ok text =>
      cases parsed : Tree.parse text with
      | error rejection => simp [parsed]
      | ok other =>
          simp only [Except.ok.injEq, exists_eq_left', parsed]
          constructor
          · intro loaded
            split at loaded
            · cases loaded
            · next flawless =>
                cases loaded
                exact ⟨rfl, flawless⟩
          · rintro ⟨rfl, flawless⟩
            rw [flawless]

/-- A named tree, if the file of that name can be loaded. -/
def tree? (directory : String) (file : String × Except FileFault ByteArray) :
    Option (String × Tree) :=
  match Tree.ofContent (Path.join directory file.1) file.2 with
  | .ok tree => some (file.1, tree)
  | .error _ => none

/-- What is reported of a file that cannot be loaded. -/
def fault? (directory : String) (file : String × Except FileFault ByteArray) : Option Skipped :=
  match Tree.ofContent (Path.join directory file.1) file.2 with
  | .ok _ => none
  | .error fault => some ⟨file.1, fault.message⟩

theorem insert_of_lt {name : String} {tree : Tree} {trees : Collection}
    (last : ∀ other ∈ trees, other.1 < name) :
    Collection.insert name tree trees = trees ++ [(name, tree)] := by
  induction trees with
  | nil => rfl
  | cons first rest ih =>
      have less := last first (.head _)
      rw [Collection.insert, if_neg (String.lt_asymm less), if_neg (String.ne_of_lt less).symm,
        ih fun other mem => last other (.tail _ mem), List.cons_append]

/-- Files in the order of their names are loaded or left out one after the other. -/
theorem foldl_add_eq {files : List (String × Except FileFault ByteArray)} {loaded : Loaded}
    (ascending : (files.map Prod.fst).Pairwise (· < ·))
    (last : ∀ file ∈ files, ∀ other ∈ loaded.trees, other.1 < file.1) :
    files.foldl (fun loaded (name, content) => loaded.add directory name content) loaded =
      ⟨loaded.trees ++ files.filterMap (tree? directory),
        loaded.skipped ++ files.filterMap (fault? directory)⟩ := by
  induction files generalizing loaded with
  | nil => simp
  | cons file files ih =>
      obtain ⟨name, content⟩ := file
      obtain ⟨first, ascending⟩ := List.pairwise_cons.1 ascending
      rw [List.foldl_cons]
      cases came : Tree.ofContent (Path.join directory name) content with
      | error fault =>
          rw [ih ascending]
          · simp [add, tree?, fault?, came]
          · intro file mem
            simpa [add, came] using last file (.tail _ mem)
      | ok tree =>
          have inserted : Collection.insert name tree loaded.trees =
              loaded.trees ++ [(name, tree)] := insert_of_lt (last _ (.head _))
          rw [ih ascending]
          · simp [add, tree?, fault?, came, inserted]
          · intro file mem other there
            simp only [add, came, inserted, List.mem_append, List.mem_singleton] at there
            rcases there with there | rfl
            · exact last file (.tail _ mem) other there
            · exact first file.1 (List.mem_map_of_mem mem)

theorem ofContents_eq {files : List (String × Except FileFault ByteArray)}
    (ascending : (files.map Prod.fst).Pairwise (· < ·)) (skipped : List Skipped) :
    ofContents directory skipped files =
      ⟨files.filterMap (tree? directory), skipped ++ files.filterMap (fault? directory)⟩ := by
  rw [ofContents, foldl_add_eq ascending (by simp), List.nil_append]

end Contents

section Entries

variable {suffix : String} {entries : List Entry} {content : String → Except FileFault ByteArray}

theorem ofEntries_eq (distinct : (entries.map Entry.name).Nodup) :
    ofEntries directory suffix entries content =
      ⟨(Listing.ofEntries suffix entries).names.filterMap
          (fun name => tree? directory (name, content name)),
        entries.filterMap (Listing.nameless? suffix) ++
          (Listing.ofEntries suffix entries).names.filterMap
            (fun name => fault? directory (name, content name))⟩ := by
  rw [ofEntries, ofContents_eq]
  · simp only [List.filterMap_map]
    rfl
  · rw [List.map_map]
    exact (List.map_id _).symm ▸ Listing.pairwise_names distinct

/-- Each file is loaded or left out. -/
theorem perm_tree?_fault? (directory : String) (content : String → Except FileFault ByteArray)
    (names : List String) :
    ((names.filterMap (fun name => tree? directory (name, content name))).map Prod.fst ++
      (names.filterMap (fun name => fault? directory (name, content name))).map
        Skipped.file).Perm names := by
  induction names with
  | nil => exact .nil
  | cons name names ih =>
      cases came : Tree.ofContent (Path.join directory name) (content name) with
      | ok tree => simpa [tree?, fault?, came] using ih
      | error fault =>
          simp only [List.filterMap_cons, tree?, fault?, came, List.map_cons]
          exact List.perm_middle.trans (ih.cons _)

/-- Each submission is loaded or left out, and only once; nothing else is. -/
theorem perm_ofEntries (distinct : (entries.map Entry.name).Nodup) :
    let loaded := ofEntries directory suffix entries content
    (loaded.trees.map Prod.fst ++ loaded.skipped.map Skipped.file).Perm
      ((entries.filter (Entry.isSubmission suffix)).map (fun entry => Utf8.shown entry.name)) := by
  intro loaded
  rw [show loaded = _ from ofEntries_eq distinct, List.map_append]
  have files := (perm_tree?_fault? directory content
    (Listing.ofEntries suffix entries).names).trans (Listing.perm_names suffix entries)
  refine .trans ?_ (Listing.perm_shown suffix entries)
  refine .trans ?_ (files.append_right _)
  rw [List.append_assoc]
  exact List.perm_append_comm.append_left _

theorem mem_trees_ofEntries_iff (distinct : (entries.map Entry.name).Nodup) {name : String}
    {tree : Tree} :
    (name, tree) ∈ (ofEntries directory suffix entries content).trees ↔
      (∃ entry ∈ entries, entry.isFile = true ∧ entry.name = name.toUTF8) ∧
        Listing.hasEnding suffix name = true ∧
        ∃ text, content name = .ok text.toUTF8 ∧ Tree.parse text = .ok tree ∧
          ∀ node ∈ tree.postorder, node.kind ≠ "" := by
  rw [← ofContent_eq_ok_iff (Path.join directory name), ofEntries_eq distinct]
  simp only [List.mem_filterMap, (Listing.perm_names suffix entries).mem_iff,
    Listing.name?_eq_some_iff]
  constructor
  · rintro ⟨other, ⟨entry, mem, file, named, ending⟩, came⟩
    cases loaded : Tree.ofContent (Path.join directory other) (content other) with
    | error fault => simp [tree?, loaded] at came
    | ok there =>
        simp only [tree?, loaded, Option.some.injEq, Prod.mk.injEq] at came
        obtain ⟨rfl, rfl⟩ := came
        exact ⟨⟨entry, mem, file, named⟩, ending, loaded⟩
  · rintro ⟨⟨entry, mem, file, named⟩, ending, loaded⟩
    exact ⟨name, ⟨entry, mem, file, named, ending⟩, by simp [tree?, loaded]⟩

/-- The trees stand in the order of their names. -/
theorem pairwise_trees_ofEntries (directory suffix : String)
    (content : String → Except FileFault ByteArray) (distinct : (entries.map Entry.name).Nodup) :
    ((ofEntries directory suffix entries content).trees.map Prod.fst).Pairwise (· < ·) := by
  have sub : ∀ names : List String,
      ((names.filterMap (fun name => tree? directory (name, content name))).map
        Prod.fst).Sublist names := by
    intro names
    induction names with
    | nil => exact .slnil
    | cons name names ih =>
        cases came : Tree.ofContent (Path.join directory name) (content name) with
        | ok tree => simpa [tree?, came] using ih
        | error fault =>
            simp only [List.filterMap_cons, tree?, came]
            exact ih.cons _
  rw [ofEntries_eq distinct]
  exact (Listing.pairwise_names distinct).sublist (sub _)

/-- The order of the entries changes at most the order in which nameless files are left out. -/
theorem ofEntries_of_perm {entries' : List Entry} (distinct : (entries.map Entry.name).Nodup)
    (perm : entries.Perm entries') :
    (ofEntries directory suffix entries content).trees =
        (ofEntries directory suffix entries' content).trees ∧
      (ofEntries directory suffix entries content).skipped.Perm
        (ofEntries directory suffix entries' content).skipped := by
  rw [ofEntries_eq distinct, ofEntries_eq ((perm.map Entry.name).nodup_iff.1 distinct),
    Listing.names_of_perm distinct perm]
  exact ⟨rfl, (perm.filterMap _).append_right _⟩

end Entries

end Loaded
end Likeness
