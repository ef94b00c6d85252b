import Likeness.Text.Quoted

/-!
# Faults of file operations

An operation on a file fails because the system refuses it, or because the bytes of the file
are no text, or because the name holds a null.  Each refusal has a number, a kind and a text.
`FileFault.message` is for readers, `FileFault.inspect` for reports that show values.
-/

namespace Likeness

/-- Why the system refuses an operation. -/
inductive Refusal
  /-- There is no such file, or no directory on the way to it. -/
  | missing
  | denied
  /-- The name is taken already. -/
  | taken
  | notDirectory
  | isDirectory
  | nameTooLong
  /-- Too many symbolic links on the way. -/
  | linkLoop
  | other (number : Nat) (text : String)
deriving DecidableEq, Repr

namespace Refusal

def number : Refusal → Nat
  | .missing => 2
  | .denied => 13
  | .taken => 17
  | .notDirectory => 20
  | .isDirectory => 21
  | .nameTooLong => 36
  | .linkLoop => 40
  | .other number _ => number

def kind : Refusal → String
  | .missing => "NotFound"
  | .denied => "PermissionDenied"
  | .taken => "AlreadyExists"
  | .notDirectory => "NotADirectory"
  | .isDirectory => "IsADirectory"
  | .nameTooLong => "InvalidFilename"
  | .linkLoop => "FilesystemLoop"
  | .other .. => "Uncategorized"

def text : Refusal → String
  | .missing => "No such file or directory"
  | .denied => "Permission denied"
  | .taken => "File exists"
  | .notDirectory => "Not a directory"
  | .isDirectory => "Is a directory"
  | .nameTooLong => "File name too long"
  | .linkLoop => "Too many levels of symbolic links"
  | .other _ text => text

/-- The refusal with a given number; `text` is for numbers without a name here. -/
def ofNumber (number : Nat) (text : String) : Refusal :=
  ([.missing, .denied, .taken, .notDirectory, .isDirectory, .nameTooLong,
    .linkLoop].find? (fun r : Refusal => r.number == number)).getD (.other number text)

end Refusal

/-- Why an operation on a file failed. -/
inductive FileFault
  | refused (refusal : Refusal)
  /-- The content is not UTF-8. -/
  | notText
  /-- The name holds a null character. -/
  | nullInName
deriving DecidableEq, Repr

namespace FileFault

/-- A record as reports show it: a name and members in braces. -/
def shownRecord (name : String) (members : List (String × String)) : String :=
  name ++ " \x7b " ++ ", ".intercalate (members.map (fun (key, value) => key ++ ": " ++ value))
    ++ " \x7d"

/-- The wording of a fault that is no refusal. -/
def notTextMessage : String := "stream did not contain valid UTF-8"

def nullInNameMessage : String := "file name contained an unexpected NUL byte"

def message : FileFault → String
  | .refused r => r.text ++ " (os error " ++ toString r.number ++ ")"
  | .notText => notTextMessage
  | .nullInName => nullInNameMessage

/-- The wording of a fault in the middle of another operation. -/
def ioMessage (fault : FileFault) : String :=
  "IO error: " ++ fault.message

/-- A fault as a value of its own, for reports that show values. -/
def inspect : FileFault → String
  | .refused r =>
      shownRecord "Os" [("code", toString r.number), ("kind", r.kind),
        ("message", Quoting.text.quote r.text)]
  | .notText =>
      shownRecord "Error" [("kind", "InvalidData"),
        ("message", Quoting.text.quote notTextMessage)]
  | .nullInName =>
      shownRecord "Error" [("kind", "InvalidInput"),
        ("message", Quoting.text.quote nullInNameMessage)]

end FileFault

end Likeness
