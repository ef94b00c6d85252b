import Likeness.Store.Fault
import Likeness.Text.Hexadecimal
import Likeness.Text.Utf8

/-!
# Locations of stores

A store is named by a path, or by an address that starts with `file:`.  An address may name
this host between two slashes and a third one, goes on with the path, and may have parameters
behind a question mark: names and values, separated by `&`.  A number sign ends it.  In each
part a percent sign with two hexadecimal digits stands for a byte, and the byte zero hides the
rest of the part.

The parameters say how the file is opened, and by what: for reading, for writing, or not at
all.  A later parameter takes precedence over an earlier one, but cannot ask for more access
than that one allowed.
-/

namespace Likeness

section Parts

def addressBytes : List Char → List UInt8
  | [] => []
  | '%' :: high :: low :: rest =>
      match hexNumber? [high, low] with
      | none => 37 :: addressBytes (high :: low :: rest)
      | some 0 => []
      | some byte => byte.toUInt8 :: addressBytes rest
  | c :: rest => (String.singleton c).toUTF8.toList ++ addressBytes rest
termination_by part => part.length

/-- The text that a part of an address stands for. -/
def addressText (part : List Char) : String :=
  Utf8.shown ⟨(addressBytes part).toArray⟩

/-- What stands in front of the first of some separators, and what stands behind it. -/
def cutAt (separator : Char) (text : List Char) : List Char × List Char :=
  (text.takeWhile (fun c => c != separator),
    (text.dropWhile (fun c => c != separator)).drop 1)

/-- The parameters of an address, those without a name left out. -/
def addressParameters (text : List Char) : List (String × String) :=
  ((text.splitOn '&').map (fun part =>
    let (name, value) := cutAt '=' part
    (addressText name, addressText value))).filter (fun parameter => !parameter.1.isEmpty)

end Parts

/-- How a store is opened. -/
inductive StoreAccess
  /-- The file has to be there, and nothing is written. -/
  | readOnly
  /-- The file has to be there. -/
  | present
  /-- The file is made if it is not there. -/
  | made
  /-- There is no file, and all is forgotten. -/
  | forgotten
deriving DecidableEq, Repr

namespace StoreAccess

def byName : List (String × StoreAccess) :=
  [("ro", .readOnly), ("rw", .present), ("rwc", .made), ("memory", .forgotten)]

/-- How much an access asks for. -/
def demand : StoreAccess → Nat
  | .forgotten => 0
  | .readOnly => 1
  | .present => 2
  | .made => 3

/-- How much may be asked for after an access. -/
def allowance : StoreAccess → Nat
  | .forgotten => 3
  | access => access.demand

end StoreAccess

/-- What reads and writes stores. -/
structure StoreEngine where
  name : String
  /-- Whether stores are kept without a file. -/
  inMemory : Bool
  /-- Whether it looks for journals before it reads a file. -/
  seesJournals : Bool
  /-- Whether it can write through a log. -/
  keepsLogs : Bool
  /-- Whether it keeps the index of a log in a file. -/
  keepsIndex : Bool
deriving DecidableEq, Repr

namespace StoreEngine

/-- What reads and writes stores unless an address says otherwise. -/
def plain : StoreEngine := ⟨"unix", false, true, true, true⟩

/-- What can read and write stores. -/
def all : List StoreEngine :=
  [plain, ⟨"unix-none", false, true, false, false⟩, ⟨"unix-dotfile", false, false, false, false⟩,
    ⟨"unix-excl", false, true, true, false⟩, ⟨"memdb", true, false, false, false⟩]

def named (name : String) : Except StoreRefusal StoreEngine :=
  match all.find? (fun engine => engine.name == name) with
  | none => .error (.unknownEngine name)
  | some engine => .ok engine

end StoreEngine

/-- Where a store is, and how it is opened. -/
structure StoreLocation where
  path : String
  access : StoreAccess
  engine : StoreEngine
  /-- Whether nobody else writes the file, so that it is read as it is. -/
  frozen : Bool
  /-- The file whose permissions the file takes over if it is made. -/
  model? : Option String
deriving DecidableEq, Repr

namespace StoreLocation

/-- The path of a store without a file. -/
def transientPath : String := ":memory:"

/-- A file that is made if it is not there. -/
def ofPlainPath (path : String) : StoreLocation :=
  ⟨path, .made, .plain, false, none⟩

/-- The words for yes. -/
def affirmations : List String := ["on", "yes", "true"]

/-- The number at the start of a text that starts with a digit.  It is hexadecimal if it starts
with a zero, an `x` and a hexadecimal digit. -/
def leadingNumber (text : List Char) : Nat :=
  let digits := (text.drop 2).takeWhile (fun c => (hexDigit? c).isSome)
  if text.head? = some '0' ∧ (text[1]?).map Char.toLower = some 'x' ∧ digits ≠ [] then
    (hexNumber? digits).getD 0
  else ((String.ofList (text.takeWhile Char.isDigit)).toNat?).getD 0

/-- Whether a value means yes: a word for it, or a number that is no multiple of 256. -/
def affirms (value : String) : Bool :=
  if (value.toList.head?).any Char.isDigit then
    let number := leadingNumber value.toList
    decide (number < 2 ^ 31) && number % 256 != 0
  else affirmations.contains value.toLower

/-- Whether the first parameter of a name means yes. -/
def isSet (parameters : List (String × String)) (name : String) : Bool :=
  ((parameters.lookup name).map affirms).getD false

/-- The access after one more parameter of an address. -/
def adjust (access : StoreAccess) (parameter : String × String) :
    Except StoreRefusal StoreAccess :=
  let (name, value) := parameter
  if name = "cache" then
    if value = "shared" ∨ value = "private" then .ok access else .error (.unknownCache value)
  else if name = "mode" then
    match StoreAccess.byName.lookup value with
    | none => .error (.unknownAccess value)
    | some next =>
        if next.demand ≤ access.allowance then .ok next else .error (.widerAccess value)
  else .ok access

/-- The location that an address stands for, from behind the name of its host. -/
def ofHostPart (text : List Char) : Except StoreRefusal StoreLocation := do
  let (path, query) := cutAt '?' (cutAt '#' text).1
  let parameters := addressParameters query
  let access ← parameters.foldlM adjust .made
  let engine ←
    match parameters.reverse.lookup "vfs" with
    | none => pure .plain
    | some name => StoreEngine.named name
  return ⟨addressText path, access,
    { engine with keepsLogs := engine.keepsLogs && !isSet parameters "nolock" },
    isSet parameters "immutable", parameters.lookup "modeof"⟩

/-- The location that an address stands for, from behind its first colon. -/
def ofAddress (text : List Char) : Except StoreRefusal StoreLocation :=
  match text with
  | '/' :: '/' :: rest =>
      let host := String.ofList (rest.takeWhile (fun c => c != '/'))
      if host = "" ∨ host = "localhost" then
        ofHostPart (rest.dropWhile (fun c => c != '/'))
      else .error (.foreignHost host)
  | _ => ofHostPart text

/-- How addresses start. -/
def scheme : List Char := "file:".toList

def parse (text : String) : Except StoreRefusal StoreLocation :=
  if scheme.isPrefixOf text.toList then ofAddress (text.toList.drop scheme.length)
  else .ok (ofPlainPath text)

/-- Whether a store has no file whatever its engine. -/
def isForgotten (location : StoreLocation) : Bool :=
  location.access == .forgotten || location.path.isEmpty || location.path == transientPath

end StoreLocation

end Likeness
