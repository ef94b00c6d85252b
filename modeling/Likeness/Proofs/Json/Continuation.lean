import Likeness.Json.Shape
import Likeness.Proofs.Answer

/-!
# Reading a text that goes on

A reader that has taken a value off a text has looked at no more of it than it took, except that a
numeral goes on as long as there are digits.  So if something is left over, the same value is taken
off any longer text, and the longer text leaves more over.  Texts, fixed words, lists and objects
end by themselves: they are taken off a longer text in the same way even if nothing was left over.

A budget that was enough is enough for the longer text, and so is any larger one.

**Main statements.**
* `textBody_append`, `word_append`: texts and fixed words.
* `number_append`: numbers.
* `skip_passes`: values that are passed over.
* `StopsBefore`, `Stops`, `stops_listOf`: typed readers, and lists of what they read.
-/

namespace Likeness
namespace Json

variable {s rest tail : List Char}

section Blanks

theorem skipBlank_append (some : skipBlank s ≠ []) :
    skipBlank (s ++ tail) = skipBlank s ++ tail := by
  rw [skipBlank, skipBlank, List.dropWhile_append]
  exact if_neg (by simpa [skipBlank] using some)

theorem skipBlank_append_of_eq {c : Char} (first : skipBlank s = c :: rest) :
    skipBlank (s ++ tail) = c :: (rest ++ tail) := by
  rw [skipBlank_append (by simp [first]), first, List.cons_append]

end Blanks

section Texts

theorem word_append {letters : List Char} (taken : word letters s = .ok rest) :
    word letters (s ++ tail) = .ok (rest ++ tail) := by
  induction letters generalizing s with
  | nil =>
      cases taken
      rfl
  | cons letter letters ih =>
      cases s with
      | nil => cases taken
      | cons c s =>
          rw [List.cons_append]
          rw [word] at taken ⊢
          split at taken
          · next same =>
              rw [if_pos same]
              exact ih taken
          · cases taken

theorem hexGroup_append {n : Nat} (taken : hexGroup s = .ok (n, rest)) :
    hexGroup (s ++ tail) = .ok (n, rest ++ tail) := by
  unfold hexGroup at taken
  split at taken
  · next a b c d s =>
      cases value : hexValue? a b c d with
      | none => simp [value] at taken
      | some n' =>
          simp only [value, Except.ok.injEq, Prod.mk.injEq] at taken
          obtain ⟨rfl, rfl⟩ := taken
          simp [hexGroup, value]
  · cases taken

theorem secondHalf_append {leading : Nat} {c : Char}
    (taken : secondHalf leading s = .ok (c, rest)) :
    secondHalf leading (s ++ tail) = .ok (c, rest ++ tail) := by
  unfold secondHalf at taken
  split at taken
  · cases taken
  · cases taken
  · next s =>
      cases group : hexGroup s with
      | error fault => simp [group] at taken
      | ok result =>
          simp only [group] at taken
          split at taken
          · next trailing =>
              simp only [Except.ok.injEq, Prod.mk.injEq] at taken
              obtain ⟨rfl, rfl⟩ := taken
              simp [secondHalf, hexGroup_append group, trailing]
          · cases taken
  · cases taken
  · cases taken

theorem coded_append {c : Char} (taken : coded s = .ok (c, rest)) :
    coded (s ++ tail) = .ok (c, rest ++ tail) := by
  unfold coded at taken ⊢
  cases group : hexGroup s with
  | error fault => simp [group] at taken
  | ok result =>
      rw [hexGroup_append group]
      simp only [group] at taken
      split at taken
      · cases taken
      · next trailing =>
          simp only [trailing]
          split at taken
          · next leading =>
              simp only [leading]
              exact secondHalf_append taken
          · next leading =>
              cases taken
              simp [leading]

theorem escape_append {c : Char} (taken : escape s = .ok (c, rest)) :
    escape (s ++ tail) = .ok (c, rest ++ tail) := by
  unfold escape at taken
  split at taken
  · cases taken
  · exact coded_append taken
  · next letter s notCoded =>
      cases meant : shortEscape? letter with
      | none => simp [meant] at taken
      | some c' =>
          simp only [meant] at taken
          cases taken
          rw [List.cons_append, escape.eq_3 _ _ (fun h => notCoded h), meant]

/-- A text ends with its closing quote. -/
theorem textBody_append {taken : List Char} {value : String} (tail : List Char)
    (read : textBody taken s = .ok (value, rest)) :
    textBody taken (s ++ tail) = .ok (value, rest ++ tail) := by
  fun_induction textBody taken s with
  | case1 => cases read
  | case2 taken s =>
      cases read
      rw [List.cons_append, textBody]
  | case3 => cases read
  | case4 taken s c s' escaped ih =>
      rw [List.cons_append, textBody]
      split
      · next fault failed =>
          rw [escape_append escaped] at failed
          cases failed
      · next c' s'' again =>
          rw [escape_append escaped] at again
          cases again
          exact ih read
  | case5 => cases read
  | case6 taken c s notQuote notBackslash notControl ih =>
      rw [List.cons_append, textBody.eq_4 _ _ _ notQuote notBackslash, if_neg notControl]
      exact ih read

end Texts

section Numbers

variable {early : Cause}

theorem span_append {p : Char → Bool} (tail : List Char) (left : s.dropWhile p ≠ []) :
    (s ++ tail).takeWhile p = s.takeWhile p ∧
      (s ++ tail).dropWhile p = s.dropWhile p ++ tail := by
  constructor
  · rw [List.takeWhile_append, if_neg]
    intro all
    have split := congrArg List.length (List.takeWhile_append_dropWhile (p := p) (l := s))
    rw [List.length_append] at split
    exact left (List.length_eq_zero_iff.1 (by omega))
  · rw [List.dropWhile_append, if_neg (by simpa using left)]

theorem scanWhole_append {digits : List Char} (scanned : scanWhole early s = .ok (digits, rest))
    (left : rest ≠ []) : scanWhole early (s ++ tail) = .ok (digits, rest ++ tail) := by
  unfold scanWhole at scanned
  split at scanned
  · cases scanned
  · split at scanned
    · next d s =>
        split at scanned
        · cases scanned
        · next digit =>
            cases scanned
            simp [scanWhole, digit]
    · cases scanned
      exact absurd rfl left
  · next c s notZero =>
      split at scanned
      · next digit =>
          cases scanned
          obtain ⟨taken, dropped⟩ := span_append tail left
          rw [List.cons_append, scanWhole.eq_4 _ _ _ notZero, if_pos digit, taken, dropped]
      · cases scanned

theorem scanFraction_append {digits? : Option (List Char)}
    (scanned : scanFraction early s = .ok (digits?, rest)) (left : rest ≠ []) :
    scanFraction early (s ++ tail) = .ok (digits?, rest ++ tail) := by
  unfold scanFraction at scanned
  split at scanned
  · split at scanned
    · cases scanned
    · next d s =>
        split at scanned
        · next digit =>
            cases scanned
            obtain ⟨taken, dropped⟩ := span_append tail left
            simp [scanFraction, digit, taken, dropped]
        · cases scanned
  · next noPoint =>
      cases scanned
      refine scanFraction.eq_3 _ _ ?_
      intro s' point
      obtain ⟨c, s, rfl⟩ := List.exists_cons_of_ne_nil left
      rw [List.cons_append, List.cons.injEq] at point
      exact noPoint s (by rw [point.1])

theorem scanExponentDigits_append {negative : Bool} {exponent? : Option (Bool × List Char)}
    (scanned : scanExponentDigits early negative s = .ok (exponent?, rest)) (left : rest ≠ []) :
    scanExponentDigits early negative (s ++ tail) = .ok (exponent?, rest ++ tail) := by
  unfold scanExponentDigits at scanned
  split at scanned
  · cases scanned
  · next d s =>
      split at scanned
      · next digit =>
          cases scanned
          obtain ⟨taken, dropped⟩ := span_append tail left
          simp [scanExponentDigits, digit, taken, dropped]
      · cases scanned

theorem scanExponent_append {exponent? : Option (Bool × List Char)}
    (scanned : scanExponent early s = .ok (exponent?, rest)) (left : rest ≠ []) :
    scanExponent early (s ++ tail) = .ok (exponent?, rest ++ tail) := by
  cases s with
  | nil =>
      cases scanned
      exact absurd rfl left
  | cons c s =>
      rw [List.cons_append]
      unfold scanExponent at scanned ⊢
      dsimp only at scanned ⊢
      by_cases letter : c = 'e' ∨ c = 'E'
      · rw [if_pos letter] at scanned ⊢
        split at scanned
        · exact scanExponentDigits_append scanned left
        · exact scanExponentDigits_append scanned left
        · next noPlus noMinus =>
            cases s with
            | nil => cases scanned
            | cons sign s =>
                have digits := @scanExponentDigits_append _ _ tail _ _ _ scanned left
                rw [List.cons_append] at digits ⊢
                split
                · next same => cases same; exact absurd rfl (noPlus s)
                · next same => cases same; exact absurd rfl (noMinus s)
                · exact digits
      · rw [if_neg letter] at scanned ⊢
        cases scanned
        rfl

theorem scanNumeral_append {numeral : Numeral} (scanned : scanNumeral early s = .ok (numeral, rest))
    (left : rest ≠ []) : scanNumeral early (s ++ tail) = .ok (numeral, rest ++ tail) := by
  obtain ⟨⟨whole, s₁⟩, first, scanned⟩ := bind_eq_ok scanned
  obtain ⟨⟨fraction?, s₂⟩, second, scanned⟩ := bind_eq_ok scanned
  obtain ⟨⟨exponent?, s₃⟩, third, scanned⟩ := bind_eq_ok scanned
  cases scanned
  -- neither an exponent nor a fraction is found at the end of the text, and then nothing is left
  have left₂ : s₂ ≠ [] := by
    rintro rfl
    cases third
    exact left rfl
  have left₁ : s₁ ≠ [] := by
    rintro rfl
    cases second
    exact left₂ rfl
  simp only [scanNumeral, scanWhole_append first left₁, scanFraction_append second left₂,
    scanExponent_append third left, bind, Except.bind, pure, Except.pure]

/-- The text behind a numeral counts for the place of a fault only. -/
theorem Numeral.real_of_rest {numeral : Numeral} {negative : Bool} {n : Number}
    (value : numeral.real negative rest = .ok n) : numeral.real negative tail = .ok n := by
  unfold Numeral.real at value ⊢
  dsimp only at value ⊢
  split at value
  · split at value
    · exact value
    · cases value
  · split at value
    · split at value
      · exact value
      · cases value
    · split at value
      · cases value
      · next small =>
          rw [if_neg small]
          exact value

theorem Numeral.value_of_rest {numeral : Numeral} {negative : Bool} {n : Number}
    (value : numeral.value negative rest = .ok n) : numeral.value negative tail = .ok n := by
  unfold Numeral.value at value ⊢
  split at value
  · exact value
  · exact Numeral.real_of_rest value

theorem number_append {n : Number} (taken : number s = .ok (n, rest)) (left : rest ≠ []) :
    number (s ++ tail) = .ok (n, rest ++ tail) := by
  unfold number at taken
  split at taken
  · obtain ⟨⟨numeral, s'⟩, scanned, taken⟩ := bind_eq_ok taken
    obtain ⟨n', value, taken⟩ := bind_eq_ok taken
    cases taken
    have value' := @Numeral.value_of_rest _ (rest ++ tail) _ _ _ value
    simp only [List.cons_append, number, scanNumeral_append scanned left, value', bind,
      Except.bind, pure, Except.pure]
  · next unsigned =>
    obtain ⟨⟨numeral, s'⟩, scanned, taken⟩ := bind_eq_ok taken
    obtain ⟨n', value, taken⟩ := bind_eq_ok taken
    cases taken
    have value' := @Numeral.value_of_rest _ (rest ++ tail) _ _ _ value
    have unsigned' : ∀ s', s ++ tail = '-' :: s' → False := by
      intro s' sign
      cases s with
      | nil => cases scanned
      | cons c s =>
          rw [List.cons_append, List.cons.injEq] at sign
          exact unsigned s (by rw [sign.1])
    simp only [number.eq_2 _ unsigned', scanNumeral_append scanned left, value', bind,
      Except.bind, pure, Except.pure]

end Numbers

section Skipping

theorem skipEscape_append (skipped : skipEscape s = .ok rest) :
    skipEscape (s ++ tail) = .ok (rest ++ tail) := by
  unfold skipEscape at skipped
  split at skipped
  · cases skipped
  · obtain ⟨⟨n, s'⟩, group, rfl⟩ := map_eq_ok skipped
    simp only [List.cons_append, skipEscape, hexGroup_append group, Except.map]
  · next letter s notCoded =>
      rw [List.cons_append, skipEscape.eq_3 _ _ (fun h => notCoded h)]
      split at skipped
      · next known =>
          cases skipped
          rw [if_pos known]
      · cases skipped

theorem skipText_append (skipped : skipText s = .ok rest) :
    skipText (s ++ tail) = .ok (rest ++ tail) := by
  fun_induction skipText s with
  | case1 => cases skipped
  | case2 s =>
      cases skipped
      rw [List.cons_append, skipText]
  | case3 => cases skipped
  | case4 s s' escaped ih =>
      rw [List.cons_append, skipText]
      split
      · next fault failed =>
          rw [skipEscape_append escaped] at failed
          cases failed
      · next s'' again =>
          rw [skipEscape_append escaped] at again
          cases again
          exact ih skipped
  | case5 => cases skipped
  | case6 c s notQuote notBackslash notControl ih =>
      rw [List.cons_append, skipText.eq_4 _ _ notQuote notBackslash, if_neg notControl]
      exact ih skipped

theorem skipNumber_append (skipped : skipNumber s = .ok rest) (left : rest ≠ []) :
    skipNumber (s ++ tail) = .ok (rest ++ tail) := by
  obtain ⟨⟨numeral, s'⟩, scanned, rfl⟩ := map_eq_ok skipped
  rw [skipNumber, scanNumeral_append scanned left]
  rfl

theorem colon_append (taken : colon s = .ok rest) : colon (s ++ tail) = .ok (rest ++ tail) := by
  unfold colon at taken ⊢
  split at taken
  · next first =>
      cases taken
      rw [skipBlank_append_of_eq first]
      rfl
  · cases taken
  · cases taken

theorem skipName_append (skipped : skipName s = .ok rest) :
    skipName (s ++ tail) = .ok (rest ++ tail) := by
  unfold skipName at skipped ⊢
  split at skipped
  · next first =>
      obtain ⟨s', name, behind⟩ := bind_eq_ok skipped
      rw [skipBlank_append_of_eq first]
      simp only [skipText_append name, Except.bind]
      exact colon_append behind
  · cases skipped
  · cases skipped

section Values

variable {budget : Nat} {c : Char}

theorem skipValue_of_first (first : skipBlank s = c :: rest) :
    skipValue (budget + 1) s =
      if c = 'n' then word ['u', 'l', 'l'] rest
      else if c = 't' then word ['r', 'u', 'e'] rest
      else if c = 'f' then word ['a', 'l', 's', 'e'] rest
      else if c = '"' then skipText rest
      else if c = '-' then skipNumber rest
      else if c = '[' then skipElements budget true rest
      else if c = '\x7b' then skipMembers budget true rest
      else if isDigit c then skipNumber (c :: rest)
      else .error (.within .noValue (c :: rest)) := by
  rw [skipValue, first]
  split
  · next same => cases same
  · next same => cases same; rfl
  · next same => cases same; rfl
  · next same => cases same; rfl
  · next same => cases same; rfl
  · next same => cases same; rfl
  · next same => cases same; rfl
  · next same => cases same; rfl
  · next n t f quote minus bracket brace same =>
      cases same
      rw [if_neg n, if_neg t, if_neg f, if_neg quote, if_neg minus, if_neg bracket, if_neg brace]

theorem skipElements_of_first {isFirst : Bool} (first : skipBlank s = c :: rest) :
    skipElements (budget + 1) isFirst s =
      if c = ']' then .ok rest
      else if isFirst then (skipValue budget (c :: rest)).bind (skipElements budget false)
      else if c = ',' then (skipValue budget rest).bind (skipElements budget false)
      else .error (.within .noListEnd (c :: rest)) := by
  rw [skipElements, first]
  split
  · next same => cases same
  · next same =>
      cases same
      rfl
  · next other same =>
      cases same
      rw [if_neg other]

theorem skipMembers_of_first {isFirst : Bool} (first : skipBlank s = c :: rest) :
    skipMembers (budget + 1) isFirst s =
      if c = '\x7d' then .ok rest
      else if isFirst then
        ((skipName (c :: rest)).bind (skipValue budget)).bind (skipMembers budget false)
      else if c = ',' then
        ((skipName rest).bind (skipValue budget)).bind (skipMembers budget false)
      else .error (.within .noObjectEnd (c :: rest)) := by
  rw [skipMembers, first]
  split
  · next same => cases same
  · next same =>
      cases same
      rfl
  · next other same =>
      cases same
      rw [if_neg other]

theorem starved_skipValue (result : List Char) : skipValue budget [] ≠ .ok result := by
  cases budget <;> nofun

theorem starved_skipElements (isFirst : Bool) (result : List Char) :
    skipElements budget isFirst [] ≠ .ok result := by
  cases budget <;> nofun

theorem starved_skipMembers (isFirst : Bool) (result : List Char) :
    skipMembers budget isFirst [] ≠ .ok result := by
  cases budget <;> nofun

/-- What is passed over is passed over in a longer text too, if something is left behind it. -/
def PassesBefore (tail : List Char) (skip skip' : List Char → Except Fault (List Char)) : Prop :=
  ∀ s rest, skip s = .ok rest → rest ≠ [] → skip' (s ++ tail) = .ok (rest ++ tail)

/-- One thing behind the other: what comes second has something left to begin with. -/
theorem PassesBefore.bind {first first' next next' : List Char → Except Fault (List Char)}
    (passes : PassesBefore tail first first') (passes_next : PassesBefore tail next next')
    (starved : ∀ result, next [] ≠ .ok result) :
    PassesBefore tail (fun s => (first s).bind next) (fun s => (first' s).bind next') := by
  intro s rest skipped left
  obtain ⟨s', here, others⟩ := bind_eq_ok skipped
  have between : s' ≠ [] := by
    rintro rfl
    exact starved rest others
  simp only [passes s s' here between, Except.bind]
  exact passes_next s' rest others left

theorem skipName_passes : PassesBefore tail skipName skipName :=
  fun _ _ skipped _ => skipName_append skipped

section Steps

variable {budget' : Nat} (value : PassesBefore tail (skipValue budget) (skipValue budget'))

theorem skipValue_passes
    (elements : PassesBefore tail (skipElements budget true) (skipElements budget' true))
    (members : PassesBefore tail (skipMembers budget true) (skipMembers budget' true)) :
    PassesBefore tail (skipValue (budget + 1)) (skipValue (budget' + 1)) := by
  intro s rest skipped left
  cases first : skipBlank s with
  | nil => simp [skipValue, first] at skipped
  | cons c s' =>
      rw [skipValue_of_first first] at skipped
      rw [skipValue_of_first (skipBlank_append_of_eq first)]
      split_ifs at skipped ⊢ with _ _ _ _ _ _ _ digit
      · exact word_append skipped
      · exact word_append skipped
      · exact word_append skipped
      · exact skipText_append skipped
      · exact skipNumber_append skipped left
      · exact elements s' rest skipped left
      · exact members s' rest skipped left
      · exact skipNumber_append skipped left

include value in
theorem skipElements_passes {isFirst : Bool}
    (elements : PassesBefore tail (skipElements budget false) (skipElements budget' false)) :
    PassesBefore tail (skipElements (budget + 1) isFirst) (skipElements (budget' + 1) isFirst) := by
  intro s rest skipped left
  have one := value.bind elements (starved_skipElements false)
  cases first : skipBlank s with
  | nil => simp [skipElements, first] at skipped
  | cons c s' =>
      rw [skipElements_of_first first] at skipped
      rw [skipElements_of_first (skipBlank_append_of_eq first)]
      split_ifs at skipped ⊢
      · cases skipped
        rfl
      · exact one (c :: s') rest skipped left
      · exact one s' rest skipped left

include value in
theorem skipMembers_passes {isFirst : Bool}
    (members : PassesBefore tail (skipMembers budget false) (skipMembers budget' false)) :
    PassesBefore tail (skipMembers (budget + 1) isFirst) (skipMembers (budget' + 1) isFirst) := by
  intro s rest skipped left
  have one := (skipName_passes.bind value starved_skipValue).bind members
    (starved_skipMembers false)
  cases first : skipBlank s with
  | nil => simp [skipMembers, first] at skipped
  | cons c s' =>
      rw [skipMembers_of_first first] at skipped
      rw [skipMembers_of_first (skipBlank_append_of_eq first)]
      split_ifs at skipped ⊢
      · cases skipped
        rfl
      · exact one (c :: s') rest skipped left
      · exact one s' rest skipped left

end Steps

/-- By induction on the budget, which drops for each bracket, element and member. -/
theorem skip_passes (tail : List Char) {budget budget' : Nat} (le : budget ≤ budget') :
    PassesBefore tail (skipValue budget) (skipValue budget') ∧
      (∀ isFirst, PassesBefore tail (skipElements budget isFirst) (skipElements budget' isFirst)) ∧
      ∀ isFirst, PassesBefore tail (skipMembers budget isFirst) (skipMembers budget' isFirst) := by
  induction budget generalizing budget' with
  | zero => exact ⟨nofun, nofun, nofun⟩
  | succ budget ih =>
      obtain ⟨budget', rfl⟩ := Nat.exists_eq_add_one_of_ne_zero (Nat.ne_zero_of_lt le)
      obtain ⟨value, elements, members⟩ := ih (Nat.le_of_succ_le_succ le)
      exact ⟨skipValue_passes (elements true) (members true),
        fun _ => skipElements_passes value (elements false),
        fun _ => skipMembers_passes value (members false)⟩

end Values

end Skipping

section Typed

variable {α : Type}

/-- What the first reader takes off a text the second takes off a longer one, if something is left
behind it. -/
def StopsBefore (tail : List Char) (read read' : Reader α) : Prop :=
  ∀ s value rest, read s = .ok (value, rest) → rest ≠ [] →
    read' (s ++ tail) = .ok (value, rest ++ tail)

/-- The same, whatever is left. -/
def Stops (tail : List Char) (read read' : Reader α) : Prop :=
  ∀ s value rest, read s = .ok (value, rest) → read' (s ++ tail) = .ok (value, rest ++ tail)

theorem Stops.before {read read' : Reader α} (stops : Stops tail read read') :
    StopsBefore tail read read' :=
  fun s value rest came _ => stops s value rest came

theorem stops_text : Stops tail text text := by
  intro s value rest came
  unfold text at came ⊢
  split at came
  · next first =>
      rw [skipBlank_append_of_eq first]
      exact textBody_append tail came
  · cases came

theorem naturalUpTo_eq_ok_iff {limit n : Nat} {expected : String} :
    naturalUpTo limit expected s = .ok (n, rest) ↔
      startsNumber (skipBlank s) = true ∧ number (skipBlank s) = .ok (.integer (.ofNat n), rest) ∧
        n ≤ limit := by
  constructor
  · intro came
    unfold naturalUpTo at came
    dsimp only at came
    split at came
    · next starts =>
        split at came
        · cases came
        · next taken =>
            split at came
            · next fits =>
                cases came
                exact ⟨starts, taken, fits⟩
            · cases came
        · cases came
        · cases came
    · cases came
  · rintro ⟨starts, taken, fits⟩
    simp only [naturalUpTo, starts, taken, fits, if_true]

theorem stopsBefore_naturalUpTo {limit : Nat} {expected : String} :
    StopsBefore tail (naturalUpTo limit expected) (naturalUpTo limit expected) := by
  intro s n rest came left
  rw [naturalUpTo_eq_ok_iff] at came ⊢
  obtain ⟨starts, taken, fits⟩ := came
  have some : skipBlank s ≠ [] := by
    intro none
    rw [none] at starts
    cases starts
  rw [skipBlank_append some]
  refine ⟨?_, number_append taken left, fits⟩
  obtain ⟨c, s', first⟩ := List.exists_cons_of_ne_nil some
  rwa [first] at starts ⊢

theorem stopsBefore_nullable {item item' : Reader α} (stops : StopsBefore tail item item')
    (starved : ∀ result, item [] ≠ .ok result) :
    StopsBefore tail (nullable item) (nullable item') := by
  intro s value rest came left
  unfold nullable at came ⊢
  split at came
  · next first =>
      obtain ⟨s', taken, same⟩ := map_eq_ok came
      cases same
      rw [skipBlank_append_of_eq first]
      simp only [word_append taken, Except.map]
  · next other =>
      obtain ⟨⟨x, s'⟩, taken, same⟩ := map_eq_ok came
      cases same
      have some : skipBlank s ≠ [] := by
        intro none
        rw [none] at taken
        exact starved _ taken
      have longer := stops _ _ _ taken left
      rw [skipBlank_append some]
      obtain ⟨c, s', first⟩ := List.exists_cons_of_ne_nil some
      rw [first, List.cons_append] at longer ⊢
      split
      · next same =>
          rw [List.cons.injEq] at same
          exact absurd (first.trans (by rw [same.1])) (other s')
      · rw [longer]
        rfl

section Lists

variable {c : Char} {isFirst more : Bool}

/-- Whether another element follows is seen from the character that is left in front. -/
theorem nextElement_eq_ok (next : nextElement isFirst s = .ok (more, rest)) :
    (more = false ∧ skipBlank s = rest ∧ ∃ s', rest = ']' :: s') ∨
      more = true ∧ rest ≠ [] ∧ (∀ s', rest ≠ ']' :: s') ∧
        (isFirst = true ∧ skipBlank s = rest ∨
          isFirst = false ∧ ∃ s', skipBlank s = ',' :: s' ∧ skipBlank s' = rest) := by
  unfold nextElement at next
  split at next
  · cases next
  · next first =>
      cases next
      exact Or.inl ⟨rfl, first, _, rfl⟩
  · next c s' other first =>
      refine Or.inr ?_
      split at next
      · next isFirst =>
          cases next
          exact ⟨rfl, List.cons_ne_nil _ _, by simpa using other, Or.inl ⟨isFirst, first⟩⟩
      · next notFirst =>
          split at next
          · next comma =>
              split at next
              · cases next
              · cases next
              · next some notBracket =>
                  cases next
                  exact ⟨rfl, some, notBracket,
                    Or.inr ⟨by simpa using notFirst, s', by rw [first, comma], rfl⟩⟩
          · cases next

theorem nextElement_append (tail : List Char) (next : nextElement isFirst s = .ok (more, rest)) :
    nextElement isFirst (s ++ tail) = .ok (more, rest ++ tail) ∧ rest ≠ [] := by
  rcases nextElement_eq_ok next with ⟨rfl, first, s', rfl⟩ | ⟨rfl, some, notBracket, next⟩
  · refine ⟨?_, List.cons_ne_nil _ _⟩
    rw [nextElement, skipBlank_append_of_eq first]
    rfl
  · refine ⟨?_, some⟩
    obtain ⟨c, rest, rfl⟩ := List.exists_cons_of_ne_nil some
    have other : c ≠ ']' := fun bracket => notBracket rest (by rw [bracket])
    rcases next with ⟨rfl, first⟩ | ⟨rfl, s', first, second⟩
    · simp [nextElement, skipBlank_append_of_eq first]
    · simp [nextElement, skipBlank_append_of_eq first, skipBlank_append_of_eq second, other]

variable {item item' : Reader α} {budget budget' : Nat}

theorem ne_nil_of_elements {taken xs : List α}
    (came : elements item budget isFirst taken s = .ok (xs, rest)) : s ≠ [] := by
  rintro rfl
  cases budget <;> cases came

/-- A list ends with its bracket.  By induction on the budget, which drops for each element. -/
theorem stops_elements (stops : StopsBefore tail item item') (le : budget ≤ budget')
    (isFirst : Bool) (taken : List α) :
    Stops tail (elements item budget isFirst taken) (elements item' budget' isFirst taken) := by
  induction budget generalizing budget' isFirst taken with
  | zero => exact nofun
  | succ budget ih =>
      obtain ⟨budget', rfl⟩ := Nat.exists_eq_add_one_of_ne_zero (Nat.ne_zero_of_lt le)
      intro s xs rest came
      unfold elements at came ⊢
      split at came
      · cases came
      · next s' next =>
          obtain ⟨next', some⟩ := nextElement_append tail next
          cases came
          rw [next']
          cases s' with
          | nil => exact absurd rfl some
          | cons c s' => rfl
      · next s' next =>
          rw [(nextElement_append tail next).1]
          split at came
          · cases came
          · next x s'' here =>
              simp only [stops _ _ _ here (ne_nil_of_elements came)]
              exact ih (Nat.le_of_succ_le_succ le) false (x :: taken) _ _ _ came

theorem stops_listOf (stops : StopsBefore tail item item') (le : budget ≤ budget') :
    Stops tail (listOf budget item) (listOf budget' item') := by
  intro s xs rest came
  unfold listOf at came ⊢
  split at came
  · next first =>
      rw [skipBlank_append_of_eq first]
      exact stops_elements stops le true [] _ _ _ came
  · cases came

end Lists

end Typed

end Json
end Likeness
