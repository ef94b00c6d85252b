import Likeness.Command.Value

/-!
# Forms of arguments

The arguments of a command fill in a form.  A form lists the flags, the options with the kinds
of their values, and the kinds of the arguments without a name, each of which has a place.

* A flag is written `--name`, an option `--name value` or `--name=value`; each may be given once.
* A value of its own does not begin with a dash, unless it is a single dash.
* Behind `--` all arguments are for places.
* `--help` and `-h` ask for help, and no argument behind them matters.

Arguments that do not fill in the form are misuse, for which there is no answer.  A value of
another kind is misuse where it stands, so it counts even if help is asked for behind it.
-/

namespace Likeness

/-- What the arguments of a command may be. -/
structure Form where
  flags : List String
  /-- Names with the kinds of their values. -/
  options : List (String × ValueKind)
  places : List ValueKind
deriving DecidableEq, Repr

/-- What the arguments of a command are. -/
structure Filled where
  flags : List String
  values : List (String × String)
  places : List String
deriving DecidableEq, Repr, Inhabited

/-- What the arguments of a command come to. -/
inductive Filling
  | filled (filled : Filled)
  | help
deriving DecidableEq, Repr

namespace Filled

def blank : Filled := ⟨[], [], []⟩

/-- Whether a flag is set. -/
def has (filled : Filled) (name : String) : Bool :=
  filled.flags.contains name

def value? (filled : Filled) (name : String) : Option String :=
  (filled.values.find? (fun entry => entry.1 == name)).map Prod.snd

def setFlag (filled : Filled) (name : String) : Option Filled :=
  if filled.has name then none else some { filled with flags := filled.flags ++ [name] }

/-- Gives a value to an option that has none. -/
def setValue (filled : Filled) (name value : String) : Option Filled :=
  if (filled.value? name).isSome then none
  else some { filled with values := filled.values ++ [(name, value)] }

end Filled

section Arguments

/-- An argument by its looks. -/
inductive Argument
  /-- `--` -/
  | divider
  /-- `--name` or `--name=value` -/
  | long (name : String) (value? : Option String)
  /-- A dash and letters. -/
  | short (letters : List Char)
  | plain (text : String)
deriving DecidableEq, Repr

/-- The name in front of an equality sign, and the value behind it. -/
def splitAtEquals (cs : List Char) : String × Option String :=
  match cs.dropWhile (· ≠ '=') with
  | [] => (String.ofList cs, none)
  | _ :: value => (String.ofList (cs.takeWhile (· ≠ '=')), some (String.ofList value))

def Argument.ofText (text : String) : Argument :=
  match text.toList with
  | ['-', '-'] => .divider
  | '-' :: '-' :: cs =>
      let (name, value?) := splitAtEquals cs
      .long name value?
  | '-' :: c :: cs => .short (c :: cs)
  | _ => .plain text

/-- Whether an argument can be the value of the option in front of it. -/
def canBeValue (text : String) : Bool :=
  match Argument.ofText text with
  | .plain _ => true
  | _ => false

end Arguments

namespace Form

def option? (form : Form) (name : String) : Option ValueKind :=
  (form.options.find? (fun option => option.1 == name)).map Prod.snd

/-- Gives a value to an option of the form. -/
def setValue (form : Form) (filled : Filled) (name value : String) : Option Filled :=
  match form.option? name with
  | none => none
  | some kind => if kind.accepts value then filled.setValue name value else none

/-- Puts an argument into the next place. -/
def setPlace (form : Form) (filled : Filled) (text : String) : Option Filled :=
  match form.places[filled.places.length]? with
  | none => none
  | some kind =>
      if kind.accepts text then some { filled with places := filled.places ++ [text] } else none

def fill (form : Form) (filled : Filled) (arguments : List String) : Option Filling :=
  match arguments with
  | [] => some (.filled filled)
  | argument :: rest =>
      match Argument.ofText argument with
      | .divider => (rest.foldlM form.setPlace filled).map .filled
      | .short letters => if letters.head? = some 'h' then some .help else none
      | .plain text =>
          match form.setPlace filled text with
          | none => none
          | some filled => fill form filled rest
      | .long name none =>
          if name = "help" then some .help
          else if form.flags.contains name then
            match filled.setFlag name with
            | none => none
            | some filled => fill form filled rest
          else
            match rest with
            | [] => none
            | value :: rest =>
                if canBeValue value then
                  match form.setValue filled name value with
                  | none => none
                  | some filled => fill form filled rest
                else none
      | .long name (some value) =>
          match form.setValue filled name value with
          | none => none
          | some filled => fill form filled rest
termination_by arguments.length

end Form

end Likeness
