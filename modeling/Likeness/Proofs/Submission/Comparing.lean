import Likeness.Files.Session
import Likeness.Proofs.Batch.Driving
import Likeness.Proofs.Batch.Records
import Likeness.Proofs.Submission.Loading
import Likeness.Proofs.Text.ByteOrder
import Likeness.Submission.Comparing

/-!
# From a directory to a batch

A batch covers the submissions of a directory: its identifiers are the names of the trees, the
files that were left out are all listed, and each pair of trees is either completed or failed.
This holds whatever the workers do, and it depends on the order in which the directory lists its
entries only as far as files without a name are listed in that order.

**Main statements.**
* `Batch.Covers`: what a batch says about the files it comes from.
* `Loaded.covers_of_finishedRun`: every interleaving of the workers.
* `tooFew_compareDirectory_iff`: when a directory is refused.
* `directory_is_covered`: from the entries of a directory to the batch.
-/

namespace Likeness

/-- A batch accounts for everything that was found in a directory. -/
structure Batch.Covers (batch : Batch) (loaded : Loaded) : Prop where
  identifiers : batch.identifiers = loaded.trees.map Prod.fst
  /-- The bytes of the identifiers ascend strictly. -/
  ascending : batch.identifiers.Pairwise (fun a b => a.toUTF8.toList < b.toUTF8.toList)
  skipped : batch.skipped = loaded.skipped
  skippedFiles : batch.summary.skippedFiles = loaded.skipped.length
  completed : batch.summary.completed = batch.results.length
  failed : batch.summary.failed = batch.failures.length
  /-- Each pair is completed or failed. -/
  counted : batch.summary.completed + batch.summary.failed =
    loaded.trees.length * (loaded.trees.length - 1) / 2
  /-- Each result has a record, and the bytes of its names are in order. -/
  records : ∃ records, batch.records? = some records ∧ ∀ record ∈ records,
    record.file1.toUTF8.toList < record.file2.toUTF8.toList ∧
      record.file1 ∈ batch.identifiers ∧ record.file2 ∈ batch.identifiers

namespace Batch

theorem Covers.withElapsed {batch : Batch} {loaded : Loaded} (h : batch.Covers loaded)
    (elapsed : Nat) : (batch.withElapsed elapsed).Covers loaded :=
  ⟨h.identifiers, h.ascending, h.skipped, h.skippedFiles, h.completed, h.failed, h.counted,
    h.records⟩

end Batch

namespace Loaded

variable {loaded : Loaded}

/-- Whatever the workers do, and whatever comparisons come to, the batch covers all files. -/
theorem covers_of_finishedRun (sorted : (loaded.trees.map Prod.fst).Pairwise (· < ·))
    {workers every : Nat} {verdict : Pairing → Verdict}
    (r : Pool.FinishedRun (.ofTrees workers every verdict (loaded.trees.map Prod.snd)))
    (hworkers : 1 ≤ workers) (elapsed : Nat) :
    ((Batch.assemble (loaded.trees.map Prod.fst) r.outcome elapsed).withSkipped
      loaded.skipped).Covers loaded := by
  have counted := r.length_results_add_failures hworkers
  rw [List.length_map] at counted
  obtain ⟨records, there, facts⟩ := r.exists_records (by simp) sorted elapsed
  refine ⟨rfl, ?_, rfl, rfl, rfl, rfl, counted, records, there, ?_⟩
  · exact sorted.imp Utf8.lt_iff_bytes_lt.1
  · intro record mem
    obtain ⟨less, first, second⟩ := facts record mem
    exact ⟨Utf8.lt_iff_bytes_lt.1 less, first, second⟩

/-- A directory is compared exactly if it has two trees. -/
theorem compare_spec (sorted : (loaded.trees.map Prod.fst).Pairwise (· < ·)) (available : Nat)
    (params : Params) (cancelled : Bool) :
    (loaded.trees.length < 2 ∧
      loaded.compare available params cancelled = .error ⟨loaded.trees.length⟩) ∨
    (2 ≤ loaded.trees.length ∧
      ∃ batch, loaded.compare available params cancelled = .ok batch ∧ batch.Covers loaded) := by
  rw [Loaded.compare, compareCollection, compareTrees, List.length_map]
  by_cases few : loaded.trees.length < 2
  · rw [if_pos few]
    exact Or.inl ⟨few, rfl⟩
  · rw [if_neg few]
    refine Or.inr ⟨Nat.le_of_not_lt few, _, rfl, ?_⟩
    obtain ⟨r, _, came⟩ := Pool.exists_finishedRun_comparePairs
      (.ofParams available params cancelled) (fun _ => false) scoreOf (loaded.trees.map Prod.snd)
    rw [← came]
    exact covers_of_finishedRun sorted r (Nat.le_max_right _ _) 0

end Loaded

namespace Session

def contentOf (session : Session) (path : String) : Except FileFault ByteArray :=
  (Route.ofPath path).bind session.disk.read

def entriesOf (session : Session) (path : String) : Except FileFault (List Entry) :=
  (Route.ofPath path).bind session.disk.entries

/-- The second of two steps goes on from where the first one ends. -/
theorem run_bind_eq {α β : Type} {first : StateM Session α} {next : α → StateM Session β}
    {session after : Session} {a : α} (came : first.run session = (a, after)) :
    (first >>= next).run session = (next a).run after := by
  rw [StateT.run_bind, came]
  rfl

end Session

section Sessions

variable {session : Session} {directory : String} {entries : List Entry}

theorem run_mapM_readEntry (session : Session) (directory : String) (names : List String) :
    (names.mapM (readEntry (m := StateM Session) directory)).run session =
      (names.map (fun name => (name, session.contentOf (Path.join directory name))), session) := by
  induction names with
  | nil => rfl
  | cons name names ih =>
      rw [List.mapM_cons]
      refine (Session.run_bind_eq rfl).trans ?_
      exact (Session.run_bind_eq ih).trans rfl

/-- A directory that can be listed is loaded from its entries and from what reading comes to. -/
theorem run_loadDirectory (listed : session.entriesOf directory = .ok entries) (suffix : String) :
    (loadDirectory (m := StateM Session) directory suffix).run session =
      (.ok (Loaded.ofEntries directory suffix entries
        (fun name => session.contentOf (Path.join directory name))), session) := by
  have list : (listDirectory (m := StateM Session) directory suffix).run session =
      (.ok (Listing.ofEntries suffix entries), session) := by
    have found : (Host.entries (m := StateM Session) directory).run session =
        (.ok entries, session) := congrArg (·, session) listed
    exact (Session.run_bind_eq found).trans rfl
  refine (Session.run_bind_eq list).trans ?_
  exact (Session.run_bind_eq (run_mapM_readEntry session directory _)).trans rfl

/-- The clock stands still, so comparing takes no time. -/
theorem run_compareDirectory {params : Params} {loaded : Loaded}
    (came : (loadDirectory (m := StateM Session) directory params.suffix).run session =
      (.ok loaded, session)) (cancelled : Bool) :
    (compareDirectory (m := StateM Session) directory params cancelled).run session =
      (((loaded.compare session.room params cancelled).mapError .tooFew).map
        (Batch.withElapsed · 0), session) := by
  have room : (Host.room (m := StateM Session)).run session = (session.room, session) := rfl
  have clock : (Host.clock (m := StateM Session)).run session = (session.clock, session) := rfl
  refine (Session.run_bind_eq came).trans ?_
  refine (Session.run_bind_eq room).trans ?_
  refine (Session.run_bind_eq clock).trans ?_
  cases loaded.compare session.room params cancelled with
  | error fault => rfl
  | ok batch =>
      refine (Session.run_bind_eq clock).trans ?_
      rw [Nat.sub_self]
      rfl

section Comparing

variable {params : Params} {loaded : Loaded}
  (loading : (loadDirectory (m := StateM Session) directory params.suffix).run session =
    (.ok loaded, session))
  (sorted : (loaded.trees.map Prod.fst).Pairwise (· < ·)) (cancelled : Bool)
include loading sorted

/-- A directory is refused exactly if fewer than two trees are loaded from it. -/
theorem tooFew_compareDirectory_iff (found : Nat) :
    ((compareDirectory (m := StateM Session) directory params cancelled).run session).1 =
      .error (.tooFew ⟨found⟩) ↔ found = loaded.trees.length ∧ found < 2 := by
  rw [run_compareDirectory loading cancelled]
  rcases Loaded.compare_spec sorted session.room params cancelled with
    ⟨few, came⟩ | ⟨enough, batch, came, -⟩
  · rw [came]
    constructor
    · intro same
      cases same
      exact ⟨rfl, few⟩
    · rintro ⟨rfl, -⟩
      rfl
  · rw [came]
    constructor
    · exact nofun
    · rintro ⟨rfl, few⟩
      omega

theorem exists_covers_compareDirectory (enough : 2 ≤ loaded.trees.length) :
    ∃ batch, (compareDirectory (m := StateM Session) directory params cancelled).run session =
      (.ok batch, session) ∧ batch.Covers loaded := by
  rcases Loaded.compare_spec sorted session.room params cancelled with
    ⟨few, -⟩ | ⟨-, batch, came, covers⟩
  · omega
  · refine ⟨batch.withElapsed 0, ?_, covers.withElapsed 0⟩
    rw [run_compareDirectory loading cancelled, came]
    rfl

end Comparing

/-- Each submission of a directory is either among the trees or left out, and the trees are those of
the files that have a name and hold a tree; the order of the entries makes no difference to them.
Fewer than two trees are refused, and no others.  Otherwise the batch covers all submissions,
whatever the workers do. -/
theorem directory_is_covered (params : Params) (cancelled : Bool)
    (listed : session.entriesOf directory = .ok entries)
    (distinct : (entries.map Entry.name).Nodup) :
    ∃ loaded : Loaded,
      (loadDirectory (m := StateM Session) directory params.suffix).run session =
        (.ok loaded, session) ∧
      (loaded.trees.map Prod.fst ++ loaded.skipped.map Skipped.file).Perm
        ((entries.filter (Entry.isSubmission params.suffix)).map
          (fun entry => Utf8.shown entry.name)) ∧
      (loaded.trees.map Prod.fst).Nodup ∧
      (∀ name tree, (name, tree) ∈ loaded.trees ↔
        (∃ entry ∈ entries, entry.isFile = true ∧ entry.name = name.toUTF8) ∧
          Listing.hasEnding params.suffix name = true ∧
          ∃ text, session.contentOf (Path.join directory name) = .ok text.toUTF8 ∧
            Tree.parse text = .ok tree ∧ ∀ node ∈ tree.postorder, node.kind ≠ "") ∧
      (∀ (session' : Session) (entries' : List Entry),
        session'.entriesOf directory = .ok entries' → entries.Perm entries' →
        (∀ name, session'.contentOf (Path.join directory name) =
          session.contentOf (Path.join directory name)) →
        ∃ loaded' : Loaded,
          (loadDirectory (m := StateM Session) directory params.suffix).run session' =
            (.ok loaded', session') ∧
          loaded'.trees = loaded.trees ∧ loaded'.skipped.Perm loaded.skipped) ∧
      (∀ found, ((compareDirectory (m := StateM Session) directory params cancelled).run
          session).1 = .error (.tooFew ⟨found⟩) ↔ found = loaded.trees.length ∧ found < 2) ∧
      (2 ≤ loaded.trees.length → ∃ batch,
        (compareDirectory (m := StateM Session) directory params cancelled).run session =
          (.ok batch, session) ∧ batch.Covers loaded) ∧
      ∀ (workers every : Nat) (verdict : Pairing → Verdict)
        (r : Pool.FinishedRun (.ofTrees workers every verdict (loaded.trees.map Prod.snd)))
        (elapsed : Nat), 1 ≤ workers →
        ((Batch.assemble (loaded.trees.map Prod.fst) r.outcome elapsed).withSkipped
          loaded.skipped).Covers loaded := by
  have loading := run_loadDirectory listed params.suffix
  have sorted := Loaded.pairwise_trees_ofEntries directory params.suffix
    (fun name => session.contentOf (Path.join directory name)) distinct
  refine ⟨_, loading, Loaded.perm_ofEntries distinct, ?_, ?_, ?_,
    tooFew_compareDirectory_iff loading sorted cancelled,
    exists_covers_compareDirectory loading sorted cancelled, ?_⟩
  · exact sorted.imp fun less => String.ne_of_lt less
  · intro name tree
    exact Loaded.mem_trees_ofEntries_iff distinct
  · intro session' entries' listed' perm same
    refine ⟨_, run_loadDirectory listed' params.suffix, ?_⟩
    rw [funext same]
    obtain ⟨trees, skipped⟩ := Loaded.ofEntries_of_perm distinct perm
    exact ⟨trees.symm, skipped.symm⟩
  · intro workers every verdict r elapsed hworkers
    exact Loaded.covers_of_finishedRun sorted r hworkers elapsed

end Sessions

section Samples

/-- Two files that hold trees, one of them also under a name that is no text, and a directory. -/
def sampleDisk : Disk :=
  ⟨#[.directory 0
        [("b.json".toUTF8, 1), ("a.json".toUTF8, 2), (⟨#[0xff, 0x6e]⟩, 1), ("sub.json".toUTF8, 3)],
      .file "\x7b\"type\":\"b\"\x7d".toUTF8, .file "\x7b\"type\":\"a\"\x7d".toUTF8,
      .directory 0 []], 0⟩

def sampleSession : Session :=
  .start sampleDisk "/" 0

def sampleEntries : List Entry :=
  [⟨"b.json".toUTF8, true⟩, ⟨"a.json".toUTF8, true⟩, ⟨⟨#[0xff, 0x6e]⟩, true⟩,
    ⟨"sub.json".toUTF8, false⟩]

section Paths

variable {s : String} {start here : String.Pos.Raw} {done : List String}

theorem splitOnAux_end (ended : here.atEnd s = true) :
    s.splitOnAux "/" start here 0 done = (start.extract s here :: done).reverse := by
  rw [String.splitOnAux, if_pos ended]

theorem splitOnAux_slash (more : here.atEnd s = false) (slash : here.get s = '/') :
    s.splitOnAux "/" start here 0 done =
      s.splitOnAux "/" (here.next s) (here.next s) 0
        (start.extract s ((here.next s).unoffsetBy ⟨1⟩) :: done) := by
  have found : (here.get s == (0 : String.Pos.Raw).get "/") = true := by
    rw [slash]
    decide +kernel
  rw [String.splitOnAux, if_neg (by simp [more]), if_pos found]
  exact if_pos (by decide +kernel)

theorem splitOnAux_other (more : here.atEnd s = false) (other : here.get s ≠ '/') :
    s.splitOnAux "/" start here 0 done = s.splitOnAux "/" start (here.next s) 0 done := by
  have apart : ¬ (here.get s == (0 : String.Pos.Raw).get "/") = true := by
    rw [beq_iff_eq]
    exact other
  rw [String.splitOnAux, if_neg (by simp [more]), if_neg apart]
  rfl

/-- The way to the directory of the sample, and those to its trees. -/
theorem ofPath_sample :
    Route.ofPath "." = .ok ⟨false, [Disk.dot], 1⟩ ∧
      Route.ofPath "./b.json" = .ok ⟨false, [Disk.dot, "b.json".toUTF8], 8⟩ ∧
      Route.ofPath "./a.json" = .ok ⟨false, [Disk.dot, "a.json".toUTF8], 8⟩ := by
  simp only [Route.ofPath, String.contains_char_eq, Path.steps, Path.names, String.splitOn]
  simp (disch := decide +kernel) only [splitOnAux_other, splitOnAux_slash, splitOnAux_end]
  decide +kernel

end Paths

theorem walk_dot (disk : Disk) (links here : Nat) (rest : List ByteArray) :
    disk.walk .visit links here (Disk.dot :: rest) = disk.walk .visit links here rest := by
  rw [Disk.walk, if_pos (by decide +kernel)]

theorem entriesOf_sampleSession : sampleSession.entriesOf "." = .ok sampleEntries := by
  rw [Session.entriesOf, ofPath_sample.1]
  change sampleDisk.entries ⟨false, [Disk.dot], 1⟩ = _
  simp only [Disk.entries, Disk.find, Disk.locate, Disk.isFile, Disk.read, Route.child,
    List.cons_append, List.nil_append, walk_dot, Disk.walk]
  decide +kernel

theorem contentOf_sampleSession :
    sampleSession.contentOf (Path.join "." "b.json") = .ok "\x7b\"type\":\"b\"\x7d".toUTF8 ∧
      sampleSession.contentOf (Path.join "." "a.json") = .ok "\x7b\"type\":\"a\"\x7d".toUTF8 := by
  rw [Session.contentOf, Session.contentOf,
    show Path.join "." "b.json" = "./b.json" by decide +kernel,
    show Path.join "." "a.json" = "./a.json" by decide +kernel, ofPath_sample.2.1,
    ofPath_sample.2.2]
  change sampleDisk.read _ = _ ∧ sampleDisk.read _ = _
  simp only [Disk.find, Disk.locate, Disk.read, walk_dot, Disk.walk]
  decide +kernel

/-- Both texts are trees. -/
theorem parse_sampleContent {text : String}
    (mem : text ∈ ["\x7b\"type\":\"b\"\x7d", "\x7b\"type\":\"a\"\x7d"]) :
    ∃ tree, Tree.parse text = .ok tree ∧ ∀ node ∈ tree.postorder, node.kind ≠ "" := by
  have good : ["\x7b\"type\":\"b\"\x7d", "\x7b\"type\":\"a\"\x7d"].all (fun text =>
      match Tree.parse text with
      | .ok tree => tree.postorder.all (fun node => node.kind ≠ "")
      | .error _ => false) = true := by
    decide +kernel
  have good := List.all_eq_true.1 good text mem
  split at good
  · next tree parsed =>
      refine ⟨tree, parsed, ?_⟩
      simpa using good
  · cases good

/-- Both files are among the trees. -/
theorem readable_sample {name : String} (mem : name ∈ ["a.json", "b.json"]) :
    ∃ tree, (∃ entry ∈ sampleEntries, entry.isFile = true ∧ entry.name = name.toUTF8) ∧
      Listing.hasEnding "n" name = true ∧
      ∃ text, sampleSession.contentOf (Path.join "." name) = .ok text.toUTF8 ∧
        Tree.parse text = .ok tree ∧ ∀ node ∈ tree.postorder, node.kind ≠ "" := by
  have listed : ∀ name ∈ ["a.json", "b.json"],
      (∃ entry ∈ sampleEntries, entry.isFile = true ∧ entry.name = name.toUTF8) ∧
        Listing.hasEnding "n" name = true := by
    decide +kernel
  obtain ⟨entry, ending⟩ := listed name mem
  rcases List.mem_pair.1 mem with rfl | rfl
  · obtain ⟨tree, parsed, kinds⟩ := parse_sampleContent (List.mem_pair.2 (Or.inr rfl))
    exact ⟨tree, entry, ending, _, contentOf_sampleSession.2, parsed, kinds⟩
  · obtain ⟨tree, parsed, kinds⟩ := parse_sampleContent (List.mem_pair.2 (Or.inl rfl))
    exact ⟨tree, entry, ending, _, contentOf_sampleSession.1, parsed, kinds⟩

theorem directory_is_covered_sample :
    sampleSession.entriesOf "." = .ok sampleEntries ∧ (sampleEntries.map Entry.name).Nodup ∧
    ∃ (loaded : Loaded) (batch : Batch),
      (loadDirectory (m := StateM Session) "." "n").run sampleSession =
        (.ok loaded, sampleSession) ∧
      (loaded.trees.map Prod.fst ++ loaded.skipped.map Skipped.file).Perm
        ["b.json", "a.json", "\uFFFDn"] ∧
      (compareDirectory (m := StateM Session) "." ⟨none, 10, "n", false⟩ false).run
        sampleSession = (.ok batch, sampleSession) ∧
      batch.identifiers = ["a.json", "b.json"] := by
  have distinct : (sampleEntries.map Entry.name).Nodup := by decide +kernel
  obtain ⟨loaded, loading, submissions, apart, trees, -, -, comparing, -⟩ :=
    directory_is_covered ⟨none, 10, "n", false⟩ false entriesOf_sampleSession distinct
  have submissions : (loaded.trees.map Prod.fst ++ loaded.skipped.map Skipped.file).Perm
      ["b.json", "a.json", "\uFFFDn"] := submissions.trans (.of_eq (by decide +kernel))
  have names : (loaded.trees.map Prod.fst).Perm ["a.json", "b.json"] := by
    refine (List.perm_ext_iff_of_nodup apart (by decide)).2 ?_
    intro name
    constructor
    · intro mem
      obtain ⟨⟨name, tree⟩, there, rfl⟩ := List.mem_map.1 mem
      obtain ⟨entry, inside, isFile, same⟩ := ((trees name tree).1 there).1
      have possible := submissions.subset (List.mem_append_left _ mem)
      have garbled : name ≠ "\uFFFDn" := by
        rintro rfl
        exact (by decide +kernel : ¬ ∃ entry ∈ sampleEntries, entry.name = "\uFFFDn".toUTF8)
          ⟨entry, inside, same⟩
      simpa [garbled, or_comm] using possible
    · intro mem
      obtain ⟨tree, readable⟩ := readable_sample mem
      exact List.mem_map_of_mem ((trees name tree).2 readable)
  have enough : 2 ≤ loaded.trees.length := by
    have length := names.length_eq
    rw [List.length_map] at length
    exact length.ge
  obtain ⟨batch, compared, covers⟩ := comparing enough
  have identifiers : batch.identifiers = ["a.json", "b.json"] := by
    refine List.Perm.eq_of_pairwise ?_ covers.ascending (by decide +kernel)
      (covers.identifiers ▸ names)
    intro a b _ _ less more
    exact absurd more (List.lt_asymm less)
  exact ⟨entriesOf_sampleSession, distinct, loaded, batch, loading, submissions, compared,
    identifiers⟩

end Samples
end Likeness
