import Likeness.Json.Number

/-!
# Values that are passed over

A member that the reader does not know is passed over.  Its value has to be JSON, but
nothing is made of it: numbers have no range, and a surrogate needs no partner.  Some faults
are worded or placed otherwise than in a value that is read: a number that ends early is a
bad number, a control character is not taken off the text, and behind a comma the reader
asks for an element or a member without looking for a closing bracket.

The functions take a budget, which drops by one for each bracket, element and member; any
budget above the length of the text is enough, because each of these takes a character.
-/

namespace Likeness
namespace Json

/-- Passes over what is written behind a backslash. -/
def skipEscape : List Char → Except Fault (List Char)
  | [] => .error (.before .endInText [])
  | 'u' :: s => (hexGroup s).map Prod.snd
  | c :: s =>
      if (shortEscape? c).isSome then .ok s else .error (.within .badEscape (c :: s))

/-- What is written behind a backslash is taken off the text. -/
theorem length_of_skipEscape {s rest : List Char} (h : skipEscape s = .ok rest) :
    rest.length < s.length := by
  unfold skipEscape at h
  split at h
  · cases h
  · next s' =>
      cases hexed : hexGroup s' with
      | error fault => simp [hexed, Except.map] at h
      | ok result =>
          have := length_of_hexGroup hexed
          simp only [hexed, Except.map, Except.ok.injEq] at h
          subst h
          simp only [List.length_cons]
          omega
  · split at h
    · simp only [Except.ok.injEq] at h
      subst h
      simp
    · cases h

/-- Passes over a text behind its opening quote. -/
def skipText (s : List Char) : Except Fault (List Char) :=
  match s with
  | [] => .error (.before .endInText [])
  | '"' :: rest => .ok rest
  | '\\' :: rest =>
      match _h : skipEscape rest with
      | .error fault => .error fault
      | .ok rest' => skipText rest'
  | c :: rest =>
      if c < ' ' then .error (.before .controlCharacter (c :: rest)) else skipText rest
termination_by s.length
decreasing_by
  · have := length_of_skipEscape _h
    simp only [List.length_cons]
    omega
  · simp

/-- Passes over a number behind its sign. -/
def skipNumber (s : List Char) : Except Fault (List Char) :=
  (scanNumeral .badNumber s).map Prod.snd

/-- The colon behind the name of a member. -/
def colon (s : List Char) : Except Fault (List Char) :=
  match skipBlank s with
  | ':' :: rest => .ok rest
  | [] => .error (.within .endInObject [])
  | s => .error (.within .noColon s)

/-- The name of a member that is passed over, and its colon. -/
def skipName (s : List Char) : Except Fault (List Char) :=
  match skipBlank s with
  | '"' :: rest => (skipText rest).bind colon
  | [] => .error (.within .endInObject [])
  | s => .error (.within .keyNoText s)

mutual

/-- Passes over one value. -/
def skipValue : Nat → List Char → Except Fault (List Char)
  | 0, s => .error (.within .noValue s)
  | budget + 1, s =>
      match skipBlank s with
      | [] => .error (.within .endInValue [])
      | 'n' :: rest => word ['u', 'l', 'l'] rest
      | 't' :: rest => word ['r', 'u', 'e'] rest
      | 'f' :: rest => word ['a', 'l', 's', 'e'] rest
      | '"' :: rest => skipText rest
      | '-' :: rest => skipNumber rest
      | '[' :: rest => skipElements budget true rest
      | '\x7b' :: rest => skipMembers budget true rest
      | c :: rest =>
          if isDigit c then skipNumber (c :: rest) else .error (.within .noValue (c :: rest))

/-- Passes over the elements of a list up to its bracket. -/
def skipElements : Nat → Bool → List Char → Except Fault (List Char)
  | 0, _, s => .error (.within .noValue s)
  | budget + 1, first, s =>
      match skipBlank s with
      | [] => .error (.within .endInList [])
      | ']' :: rest => .ok rest
      | c :: rest =>
          if first then
            (skipValue budget (c :: rest)).bind (skipElements budget false)
          else if c = ',' then
            (skipValue budget rest).bind (skipElements budget false)
          else .error (.within .noListEnd (c :: rest))

/-- Passes over the members of an object up to its brace. -/
def skipMembers : Nat → Bool → List Char → Except Fault (List Char)
  | 0, _, s => .error (.within .noValue s)
  | budget + 1, first, s =>
      match skipBlank s with
      | [] => .error (.within .endInObject [])
      | '\x7d' :: rest => .ok rest
      | c :: rest =>
          if first then
            ((skipName (c :: rest)).bind (skipValue budget)).bind (skipMembers budget false)
          else if c = ',' then
            ((skipName rest).bind (skipValue budget)).bind (skipMembers budget false)
          else .error (.within .noObjectEnd (c :: rest))

end

end Json
end Likeness
