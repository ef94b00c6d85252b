import Likeness.Files.Fault
import Likeness.Store.Question

/-!
# Faults of stores

A store is refused for a cause: its location asks for something unknown, its file cannot be
opened or holds something else, what lies beside the file is in the way, or a table does not
take a row.  Each cause has a number, and the number gives the kind.  `StoreFault` adds what
goes wrong before a store is opened and what a caller asks for in vain.
-/

namespace Likeness

/-- Why a store is refused. -/
inductive StoreRefusal
  /-- The location names a host other than this one. -/
  | foreignHost (host : String)
  | unknownCache (mode : String)
  | unknownAccess (mode : String)
  /-- The location asks for more than it allowed before. -/
  | widerAccess (mode : String)
  | unknownEngine (name : String)
  /-- A number in the head of the file is from a later time. -/
  | laterFormat
  /-- Something is to be written, and nothing may be. -/
  | readOnly
  /-- A journal is to be rolled back, and nothing may be written. -/
  | unfinished
  /-- A directory stands where the file is read. -/
  | unreadable
  /-- A directory stands where the journal is read. -/
  | unreadableJournal
  /-- A directory stands where the log is removed. -/
  | stuckLog
  | malformed
  /-- The file cannot be opened, as the path is given. -/
  | unopened (path : String)
  /-- What lies beside the file cannot be opened. -/
  | unopenedBeside
  /-- The file holds something else. -/
  | notStore
  /-- The file says what cannot be about something that it names. -/
  | senseless (name detail : String)
  /-- A table cannot be made, because an index has its name. -/
  | taken (name : String)
  | table (fault : TableFault)
deriving DecidableEq, Repr

namespace StoreRefusal

/-- The wording of a cause. -/
def message : StoreRefusal → String
  | .foreignHost host => "invalid uri authority: " ++ host
  | .unknownCache mode => "no such cache mode: " ++ mode
  | .unknownAccess mode => "no such access mode: " ++ mode
  | .widerAccess mode => "access mode not allowed: " ++ mode
  | .unknownEngine name => "no such vfs: " ++ name
  | .laterFormat => "unsupported file format"
  | .readOnly | .unfinished => "attempt to write a readonly database"
  | .unreadable | .unreadableJournal | .stuckLog => "disk I/O error"
  | .malformed => TableFault.illegible.message
  | .unopened path => "unable to open database file: " ++ path
  | .unopenedBeside => "unable to open database file"
  | .notStore => "file is not a database"
  | .senseless name detail =>
      "malformed database schema (" ++ name ++ ")"
        ++ (if detail.isEmpty then "" else " - " ++ detail)
  | .taken name => "there is already an index named " ++ name
  | .table fault => fault.message

def number : StoreRefusal → Nat
  | .foreignHost _ | .unknownCache _ | .unknownAccess _ | .unknownEngine _ | .laterFormat
  | .taken _ => 1
  | .widerAccess _ => 3
  | .readOnly => 8
  | .unfinished => 776
  | .unreadable => 10
  | .unreadableJournal => 266
  | .stuckLog => 2570
  | .malformed | .senseless _ _ => 11
  | .unopened _ | .unopenedBeside => 14
  | .notStore => 26
  | .table fault => fault.number

/-- The kinds of causes by the low byte of their numbers. -/
def kinds : List (Nat × String) :=
  [(3, "PermissionDenied"), (8, "ReadOnly"), (10, "SystemIoFailure"), (11, "DatabaseCorrupt"),
    (14, "CannotOpen"), (19, "ConstraintViolation"), (20, "TypeMismatch"),
    (26, "NotADatabase")]

def kind (refusal : StoreRefusal) : String :=
  (kinds.lookup (refusal.number % 256)).getD "Unknown"

/-- The number of a cause as a value of its own, with its kind. -/
def code (refusal : StoreRefusal) : String :=
  FileFault.shownRecord "Error"
    [("code", refusal.kind), ("extended_code", toString refusal.number)]

/-- A cause as a value of its own, for reports that show values. -/
def inspect (refusal : StoreRefusal) : String :=
  "Sqlite(SqliteFailure(" ++ refusal.code ++ ", Some("
    ++ Quoting.text.quote refusal.message ++ ")))"

end StoreRefusal

namespace QuestionFault

def missingColumn (written : String) : String :=
  "no such column: " ++ written

/-- Number of bytes in front of the place where a word first occurs in a question. -/
def placeOf (question written : String) : Nat :=
  ((question.splitOn written).headD "").utf8ByteSize

/-- The number of a question that cannot be understood, as a value of its own. -/
def code : String :=
  FileFault.shownRecord "Error" [("code", "Unknown"), ("extended_code", "1")]

/-- A flaw of a text as a value of its own. -/
def inspectFlaw (flaw : Utf8.Flaw) : String :=
  let length := (flaw.length?.map (fun n => "Some(" ++ toString n ++ ")")).getD "None"
  FileFault.shownRecord "Utf8Error"
    [("valid_up_to", toString flaw.place), ("error_len", length)]

def message : QuestionFault → String
  | .noColumn question written =>
      "SQLite error: " ++ missingColumn written ++ " in " ++ question ++ " at offset "
        ++ toString (placeOf question written)
  | .wrongKind place column kind =>
      "SQLite error: Invalid column type " ++ kind ++ " at index: " ++ toString place
        ++ ", name: " ++ column
  | .garbled place flaw =>
      "SQLite error: Conversion error from type Text at index: " ++ toString place ++ ", "
        ++ flaw.message
  | .runNotFound runId => "Run not found: " ++ runId
  | .illegible => "SQLite error: " ++ StoreRefusal.malformed.message

/-- A fault as a value of its own, for reports that show values. -/
def inspect : QuestionFault → String
  | .noColumn question written =>
      "Sqlite(" ++ FileFault.shownRecord "SqlInputError"
        [("error", code), ("msg", Quoting.text.quote (missingColumn written)),
          ("sql", Quoting.text.quote question),
          ("offset", toString (placeOf question written))] ++ ")"
  | .wrongKind place column kind =>
      "Sqlite(InvalidColumnType(" ++ toString place ++ ", " ++ Quoting.text.quote column ++ ", "
        ++ kind ++ "))"
  | .garbled place flaw =>
      "Sqlite(FromSqlConversionFailure(" ++ toString place ++ ", Text, " ++ inspectFlaw flaw
        ++ "))"
  | .runNotFound runId => "RunNotFound(" ++ Quoting.text.quote runId ++ ")"
  | .illegible => StoreRefusal.malformed.inspect

end QuestionFault

/-- Why an operation on a store failed. -/
inductive StoreFault
  /-- The directory of the store cannot be made. -/
  | file (fault : FileFault)
  /-- The path holds a null character. -/
  | nullInPath (path : String)
  | refused (refusal : StoreRefusal)
  /-- A question to the store has no answer. -/
  | asked (fault : QuestionFault)
  /-- A place of a result has no identifier. -/
  | unnamed
deriving DecidableEq, Repr

namespace StoreFault

/-- The fault for a row that a table does not take. -/
def ofTable (fault : TableFault) : StoreFault :=
  .refused (.table fault)

/-- The number of bytes in front of the first null of a path. -/
def nullPlace (path : String) : Nat :=
  (String.ofList (path.toList.takeWhile (fun c => c != '\x00'))).utf8ByteSize

/-- The wording for a result without an identifier. -/
def unnamedMessage : String := "a result has no identifier"

def message : StoreFault → String
  | .file fault => fault.ioMessage
  | .nullInPath path =>
      "SQLite error: nul byte found in provided data at position: " ++ toString (nullPlace path)
  | .refused refusal => "SQLite error: " ++ refusal.message
  | .asked fault => fault.message
  | .unnamed => unnamedMessage

/-- A fault as a value of its own, for reports that show values. -/
def inspect : StoreFault → String
  | .file fault => "Io(" ++ fault.inspect ++ ")"
  | .nullInPath path =>
      "Sqlite(NulError(NulError(" ++ toString (nullPlace path) ++ ", ["
        ++ ", ".intercalate (path.toUTF8.toList.map (fun byte => toString byte.toNat)) ++ "])))"
  | .refused refusal => refusal.inspect
  | .asked fault => fault.inspect
  | .unnamed => Quoting.text.quote unnamedMessage

end StoreFault

end Likeness
