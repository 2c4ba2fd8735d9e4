import Backtrack.Arithmetic.Pattern
import Backtrack.Proofs.DepthIndependence
import Backtrack.Proofs.Numerals
import Backtrack.Text.Longest

/-! The numeral that is read is the longest that matches. The numerals that can be written are
the texts of the regular expressions, and on each of them the scanner gets at least to
the end. So a choice that is never taken back loses no digit, and gives back no more
than a point. -/

namespace Backtrack

/-- It is enough that no other text of the language leaves less behind it. -/
theorem Text.isLongest_of_split {language : Text → Prop} {whole part rest : Text} (split : whole = part ++ rest)
    (member : language part)
    (leaves : ∀ other more, whole = other ++ more → language other → rest.length ≤ more.length) :
    Text.IsLongest language part whole where
  opens := ⟨rest, split.symm⟩
  member := member
  longest := by
    rintro other ⟨more, rfl⟩ isMember
    have behind := leaves other more rfl isMember
    have lengths := congrArg List.length split
    rw [List.length_append, List.length_append] at lengths
    omega

namespace Arithmetic

/-! ## Texts of the patterns -/

theorem mem_anyOf {characters : List Char} {text : Text} :
    text ∈ (anyOf characters).matches' ↔ ∃ c ∈ characters, text = [c] := by
  induction characters with
  | nil => simp [anyOf, Language.notMem_zero]
  | cons c others ih =>
    rw [anyOf, List.foldr_cons, RegularExpression.matches'_add, Language.mem_add, ← anyOf, ih]
    simp only [List.exists_mem_cons_iff]
    exact Iff.rfl

theorem mem_nonzeroPattern {text : Text} :
    text ∈ nonzeroPattern.matches' ↔ ∃ digit : Digit, digit ≠ 0 ∧ text = [digit.char] := by
  rw [nonzeroPattern, mem_anyOf]
  constructor
  · rintro ⟨c, member, rfl⟩
    have isNonzero : nonzero.mem c = true := CharClass.mem_oneOf.mpr member
    cases found : Numeral.digit? c with
    | none => exact absurd isNonzero (Bool.eq_false_iff.mp (not_mem_of_digit?_eq_none found).2)
    | some digit =>
      obtain rfl := Numeral.eq_char_of_digit? found
      rw [nonzero_mem_char] at isNonzero
      exact ⟨digit, of_decide_eq_true isNonzero, rfl⟩
  · rintro ⟨digit, nonzero, rfl⟩
    exact ⟨digit.char, by revert digit; decide, rfl⟩

theorem mem_digitPattern {text : Text} : text ∈ digitPattern.matches' ↔ ∃ digit : Digit, text = [digit.char] := by
  rw [digitPattern, RegularExpression.matches'_add, Language.mem_add, mem_nonzeroPattern]
  constructor
  · rintro (rfl | ⟨digit, _, same⟩)
    · exact ⟨0, rfl⟩
    · exact ⟨digit, same⟩
  · rintro ⟨digit, rfl⟩
    by_cases isZero : digit = 0
    · subst isZero
      exact .inl rfl
    · exact .inr ⟨digit, isZero, rfl⟩

theorem mem_digitPattern_star {text : Text} :
    text ∈ digitPattern.star.matches' ↔ ∃ digits : List Digit, text = digits.map Digit.char := by
  rw [RegularExpression.matches'_star, Language.mem_kstar]
  constructor
  · rintro ⟨texts, rfl, members⟩
    induction texts with
    | nil => exact ⟨[], rfl⟩
    | cons first others ih =>
      obtain ⟨digit, rfl⟩ := mem_digitPattern.mp (members first List.mem_cons_self)
      obtain ⟨digits, same⟩ := ih fun other member => members other (List.mem_cons_of_mem _ member)
      exact ⟨digit :: digits, by rw [List.flatten_cons, same]; rfl⟩
  · rintro ⟨digits, rfl⟩
    refine ⟨digits.map fun digit => [digit.char], ?_, ?_⟩
    · induction digits with
      | nil => rfl
      | cons digit digits ih => rw [List.map_cons, List.map_cons, List.flatten_cons, ← ih]; rfl
    · intro text member
      obtain ⟨digit, _, rfl⟩ := List.mem_map.mp member
      exact mem_digitPattern.mpr ⟨digit, rfl⟩

theorem mem_wholePattern {text : Text} :
    text ∈ wholePattern.matches' ↔ ∃ whole : Whole, text = whole.digits.map Digit.char := by
  rw [wholePattern, RegularExpression.matches'_add, Language.mem_add, RegularExpression.matches'_mul, Language.mem_mul]
  constructor
  · rintro (rfl | ⟨first, leads, others, follow, rfl⟩)
    · exact ⟨.zero, rfl⟩
    · obtain ⟨digit, nonzero, rfl⟩ := mem_nonzeroPattern.mp leads
      obtain ⟨digits, rfl⟩ := mem_digitPattern_star.mp follow
      exact ⟨.leading digit nonzero digits, rfl⟩
  · rintro ⟨whole, rfl⟩
    cases whole with
    | zero => exact .inl rfl
    | leading first nonzero others =>
      exact .inr ⟨_, mem_nonzeroPattern.mpr ⟨first, nonzero, rfl⟩, _, mem_digitPattern_star.mpr ⟨others, rfl⟩, rfl⟩

theorem mem_fractionPattern {text : Text} :
    text ∈ fractionPattern.matches' ↔ ∃ digits ≠ [], text = Numeral.fractionText digits := by
  rw [fractionPattern, RegularExpression.matches'_mul, Language.mem_mul]
  constructor
  · rintro ⟨_, rfl, _, follow, rfl⟩
    obtain ⟨first, leads, others, ends, rfl⟩ := Language.mem_mul.mp follow
    obtain ⟨digit, rfl⟩ := mem_digitPattern.mp leads
    obtain ⟨digits, rfl⟩ := mem_digitPattern_star.mp ends
    exact ⟨digit :: digits, List.cons_ne_nil _ _, rfl⟩
  · rintro ⟨digits, some_digit, rfl⟩
    obtain ⟨digit, digits, rfl⟩ := List.exists_cons_of_ne_nil some_digit
    refine ⟨['.'], rfl, _, Language.mem_mul.mpr ⟨[digit.char], ?_, digits.map Digit.char, ?_, rfl⟩, rfl⟩
    · exact mem_digitPattern.mpr ⟨digit, rfl⟩
    · exact mem_digitPattern_star.mpr ⟨digits, rfl⟩

/-- The numerals are what the pattern matches. -/
theorem mem_numeralPattern {text : Text} :
    text ∈ numeralPattern.matches' ↔ ∃ numeral : Numeral, text = numeral.text := by
  rw [numeralPattern, RegularExpression.matches'_mul, Language.mem_mul]
  constructor
  · rintro ⟨_, leads, _, follows, rfl⟩
    obtain ⟨whole, rfl⟩ := mem_wholePattern.mp leads
    rcases follows with fraction | rfl
    · obtain ⟨digits, _, rfl⟩ := mem_fractionPattern.mp fraction
      exact ⟨⟨whole, digits⟩, rfl⟩
    · exact ⟨⟨whole, []⟩, rfl⟩
  · rintro ⟨⟨whole, digits⟩, rfl⟩
    refine ⟨_, mem_wholePattern.mpr ⟨whole, rfl⟩, Numeral.fractionText digits, ?_, rfl⟩
    cases digits with
    | nil => exact .inr rfl
    | cons digit digits => exact .inl (mem_fractionPattern.mpr ⟨_, List.cons_ne_nil digit digits, rfl⟩)

/-! ## What is scanned is longest -/

namespace Numeral

variable {input rest : Text}

theorem scanWhole?_longest {whole : Whole} (scanned : scanWhole? input = some (whole, rest)) :
    Text.IsLongest (· ∈ wholePattern.matches') (whole.digits.map Digit.char) input := by
  refine Text.isLongest_of_split (scanWhole?_sound scanned) (mem_wholePattern.mpr ⟨whole, rfl⟩) ?_
  rintro other more rfl member
  obtain ⟨written, rfl⟩ := mem_wholePattern.mp member
  obtain ⟨longer, tail, again, reached, _⟩ := scanWhole?_digits written more
  cases scanned.symm.trans again
  exact reached

theorem scanFraction_longest (some_digit : (scanFraction input).1 ≠ []) :
    Text.IsLongest (· ∈ fractionPattern.matches') (fractionText (scanFraction input).1) input := by
  refine Text.isLongest_of_split (scanFraction_sound input) (mem_fractionPattern.mpr ⟨_, some_digit, rfl⟩) ?_
  rintro other more rfl member
  obtain ⟨digits, _, rfl⟩ := mem_fractionPattern.mp member
  obtain ⟨longer, tail, again, reached, _⟩ := scanFraction_fractionText digits more
  rw [again]
  exact reached

theorem scan?_longest {numeral : Numeral} (scanned : scan? input = some (numeral, rest)) :
    Text.IsLongest (· ∈ numeralPattern.matches') numeral.text input := by
  refine Text.isLongest_of_split (scan?_sound scanned) (mem_numeralPattern.mpr ⟨numeral, rfl⟩) ?_
  rintro other more rfl member
  obtain ⟨written, rfl⟩ := mem_numeralPattern.mp member
  obtain ⟨longer, tail, again, reached, _⟩ := scan?_text written more
  cases scanned.symm.trans again
  exact reached

theorem scanWhole?_isSome : (scanWhole? input).isSome = true ↔ ∃ c ∈ input.head?, c.isDigit = true := by
  cases input with
  | nil => simp [scanWhole?]
  | cons c rest =>
    rw [← Option.isSome_map, ← scan?, scan?_isSome, isSome_digit?]
    simp

theorem scanDigits_ne_nil : (scanDigits input).1 ≠ [] ↔ ∃ c ∈ input.head?, c.isDigit = true := by
  cases input with
  | nil => simp [scanDigits]
  | cons c rest => cases found : digit? c <;> simp [scanDigits, found, ← isSome_digit?]

/-- A fraction is scanned where a digit follows a point. -/
theorem scanFraction_ne_nil : (scanFraction input).1 ≠ [] ↔ ∃ c rest, input = '.' :: c :: rest ∧ c.isDigit = true := by
  cases input with
  | nil => simp [scanFraction]
  | cons point rest =>
    by_cases same : point = '.'
    · subst same
      have pointed : (scanFraction ('.' :: rest)).1 = (scanDigits rest).1 := by
        rw [scanFraction_point]
        split
        next none => exact none.symm
        next => rfl
      rw [pointed, scanDigits_ne_nil]
      cases rest <;> simp
    · simp [scanFraction_of_ne same, same]

theorem fractionText_of_ne_nil {digits : List Digit} (some_digit : digits ≠ []) :
    fractionText digits = '.' :: digits.map Digit.char := by
  simp [fractionText, some_digit]

end Numeral

/-- A whole part is worth the fold over its digits from the first. -/
theorem Whole.exists_digits (whole : Whole) : ∃ first others, whole.digits = first :: others ∧
    (first = 0 → others = []) ∧ ∀ {N : Type} [Arithmetic N], (whole.value : N) =
      others.foldl (fun value digit => value * ofNat 10 + ofNat digit.val) (ofNat first.val) := by
  cases whole with
  | zero => exact ⟨0, [], rfl, fun _ => rfl, rfl⟩
  | leading first nonzero others =>
    exact ⟨first, others, rfl, fun isZero => absurd isZero nonzero, List.foldl_map⟩

end Arithmetic

namespace Grammar

variable {Rule : Type → Type} {grammar : Grammar Rule} {parser : Parser Rule α} {condition : Prop}
  {pattern : RegularExpression Char} {worth : Text → α → Prop}

/-- The parser answers on the input. It succeeds exactly under the condition; it then takes the longest
text that matches, and its value is one that this text is worth. -/
def TakesLongest (grammar : Grammar Rule) (parser : Parser Rule α) (input : Text) (condition : Prop)
    (pattern : RegularExpression Char) (worth : Text → α → Prop) : Prop :=
  ∃ reply, grammar.apply parser input = some reply ∧ ((∃ success, reply.outcome = .ok success) ↔ condition) ∧
    ∀ success, reply.outcome = .ok success → ∃ part, input = part ++ success.tail ∧
      Text.IsLongest (· ∈ pattern.matches') part input ∧ worth part success.value

theorem Reads.takesLongest {result : Option (α × Text)} (reads : grammar.Reads (grammar.limit input) parser input result)
    (succeeds : result.isSome = true ↔ condition)
    (found : ∀ value rest, result = some (value, rest) → ∃ part, input = part ++ rest ∧
      Text.IsLongest (· ∈ pattern.matches') part input ∧ worth part value) :
    grammar.TakesLongest parser input condition pattern worth := by
  obtain ⟨⟨trace, outcome⟩, ran, rfl⟩ := apply_reads reads
  refine ⟨_, ran, ?_, ?_⟩
  · rw [← succeeds]
    cases outcome <;> simp [Reply.reading]
  · rintro ⟨tail, value⟩ rfl
    exact found value tail rfl

end Grammar

namespace Arithmetic

/-- Whole parts and numerals are read exactly where the input begins with a digit, fractions where
it begins with a point and a digit. What is taken is the longest text of its pattern, so no
digit follows a leading zero, and a point without a digit is left. The value is the fold
over the digits of the whole part from the first, to which that over the digits of the
fraction from the last is added. It is the same in every arithmetic, so it comes of
these operations in this order. -/
theorem numerals_match_longest {Rule : Type → Type} {N : Type} [Arithmetic N] (grammar : Grammar Rule) (input : Text) :
    grammar.TakesLongest (integer : Parser Rule N) input (∃ c ∈ input.head?, c.isDigit = true) wholePattern
      (fun part value => ∃ (first : Digit) (others : List Digit), part = (first :: others).map Digit.char ∧
        (first = 0 → others = []) ∧
        value = others.foldl (fun value digit => value * ofNat 10 + ofNat digit.val) (ofNat first.val)) ∧
    grammar.TakesLongest (fraction : Parser Rule N) input
      (∃ c rest, input = '.' :: c :: rest ∧ c.isDigit = true) fractionPattern
      (fun part value => ∃ digits : List Digit, part = '.' :: digits.map Digit.char ∧
        value = digits.foldr (fun digit value => (value + ofNat digit.val) / ofNat 10) (ofNat 0)) ∧
    grammar.TakesLongest (number : Parser Rule N) input (∃ c ∈ input.head?, c.isDigit = true) numeralPattern
      (fun part value => ∃ (first : Digit) (others digits : List Digit),
        part = (first :: others).map Digit.char ++ Numeral.fractionText digits ∧ (first = 0 → others = []) ∧
        value = others.foldl (fun value digit => value * ofNat 10 + ofNat digit.val) (ofNat first.val) +
          digits.foldr (fun digit value => (value + ofNat digit.val) / ofNat 10) (ofNat 0)) := by
  have deep := grammar.length_lt_limit input
  refine ⟨(reads_integer input deep).takesLongest ?_ ?_, (reads_fraction input deep).takesLongest ?_ ?_,
    (reads_number input deep).takesLongest ?_ ?_⟩
  · rw [Option.isSome_map]
    exact Numeral.scanWhole?_isSome
  · intro value rest found
    obtain ⟨⟨whole, tail⟩, scanned, same⟩ := Option.map_eq_some_iff.mp found
    cases same
    obtain ⟨first, others, digits, leading, worth⟩ := whole.exists_digits
    exact ⟨_, Numeral.scanWhole?_sound scanned, Numeral.scanWhole?_longest scanned,
      first, others, congrArg (List.map Digit.char) digits, leading, worth⟩
  · rw [← Numeral.scanFraction_ne_nil]
    split
    next none => simp [none]
    next some_digit => simp [some_digit]
  · intro value rest found
    split at found
    next => cases found
    next some_digit =>
      cases found
      exact ⟨_, Numeral.scanFraction_sound input, Numeral.scanFraction_longest some_digit, _,
        Numeral.fractionText_of_ne_nil some_digit, List.foldr_map⟩
  · rw [Option.isSome_map, Numeral.scan?, Option.isSome_map]
    exact Numeral.scanWhole?_isSome
  · intro value rest found
    obtain ⟨⟨numeral, tail⟩, scanned, same⟩ := Option.map_eq_some_iff.mp found
    cases same
    obtain ⟨first, others, digits, leading, worth⟩ := numeral.whole.exists_digits
    refine ⟨_, Numeral.scan?_sound scanned, Numeral.scan?_longest scanned, first, others, numeral.fraction, ?_, leading, ?_⟩
    · rw [← digits]
      rfl
    · rw [Numeral.value_eq, worth, fractionValue, List.foldr_map]

end Arithmetic
end Backtrack
