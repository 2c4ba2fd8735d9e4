import Backtrack.Arithmetic.Expression
import Backtrack.Proofs.Reading

/-! Decimal numerals: scanning undoes writing as far as the text behind the numeral
allows, and the number parser reads what the scanner finds. -/

namespace Backtrack.Arithmetic

def numeralCharacters : List Char := ['0', '1', '2', '3', '4', '5', '6', '7', '8', '9', '.']

/-- The characters with which a longer expression of the same level may go on. -/
def Level.continuing : Level → List Char
  | factor => numeralCharacters
  | product => '*' :: '/' :: numeralCharacters
  | sum => '+' :: '-' :: '*' :: '/' :: numeralCharacters

/-- What follows an expression does not belong to it. -/
def Level.Stops (level : Level) (rest : Text) : Prop := ∀ c ∈ rest.head?, c ∉ level.continuing

theorem Level.Stops.nil {level : Level} : level.Stops [] := by
  intro c first
  cases first

theorem Level.Stops.cons {level : Level} {c : Char} (other : c ∉ level.continuing) (rest : Text) :
    level.Stops (c :: rest) := by
  intro d first
  cases first
  exact other

/-- No expression goes on with a closing parenthesis. -/
theorem Level.stops_closing (rest : Text) : sum.Stops (')' :: rest) :=
  .cons (by decide) rest

namespace Numeral

theorem digit?_char (digit : Digit) : digit? digit.char = some digit := by
  revert digit
  decide

theorem eq_char_of_digit? {c : Char} {digit : Digit} (found : digit? c = some digit) : c = digit.char := by
  unfold digit? at found
  split at found
  next bounds =>
    cases found
    have zero : '0'.toNat = 48 := rfl
    simp only [Digit.char, zero] at bounds ⊢
    rw [Nat.add_sub_cancel' bounds.1, Char.ofNat_toNat]
  next => cases found

theorem isSome_digit? (c : Char) : (digit? c).isSome = c.isDigit := by
  rw [Bool.eq_iff_iff]
  simp only [digit?, Char.isDigit]
  split
  next bounds => simpa [UInt32.le_iff_toNat_le] using bounds
  next outside => simpa [UInt32.le_iff_toNat_le] using outside

theorem digit?_of_stops {c : Char} {tail : Text} (stops : Level.factor.Stops (c :: tail)) : digit? c = none := by
  cases found : digit? c with
  | none => rfl
  | some digit =>
    have member : ∀ digit : Digit, digit.char ∈ Level.factor.continuing := by decide
    exact absurd (eq_char_of_digit? found ▸ member digit) (stops c rfl)

/-! ## Scanning what was written -/

theorem scanDigits_append (digits : List Digit) (rest : Text) :
    scanDigits (digits.map Digit.char ++ rest) = (digits ++ (scanDigits rest).1, (scanDigits rest).2) := by
  induction digits with
  | nil => rfl
  | cons digit digits ih => simp [scanDigits, digit?_char, ih]

theorem scanDigits_sound (text : Text) : text = (scanDigits text).1.map Digit.char ++ (scanDigits text).2 := by
  induction text with
  | nil => rfl
  | cons c rest ih =>
    cases found : digit? c with
    | none => simp [scanDigits, found]
    | some digit =>
      simp only [scanDigits, found, List.map_cons, List.cons_append, ← ih]
      rw [eq_char_of_digit? found]

theorem scanDigits_of_stops {rest : Text} (stops : Level.factor.Stops rest) : scanDigits rest = ([], rest) := by
  cases rest with
  | nil => rfl
  | cons c tail => simp [scanDigits, digit?_of_stops stops]

theorem scanFraction_point (rest : Text) :
    scanFraction ('.' :: rest) = if (scanDigits rest).1 = [] then ([], '.' :: rest) else scanDigits rest := by
  simp only [scanFraction]
  split
  next found => simp [found]
  next scanned other =>
    split
    next empty => exact False.elim (other (scanDigits rest).2 (Prod.ext empty rfl))
    next => rfl

theorem scanFraction_of_ne {c : Char} (other : c ≠ '.') (rest : Text) : scanFraction (c :: rest) = ([], c :: rest) := by
  unfold scanFraction
  split
  next same => exact absurd (List.head_eq_of_cons_eq same) other
  next => rfl

theorem scanFraction_sound (text : Text) : text = fractionText (scanFraction text).1 ++ (scanFraction text).2 := by
  cases text with
  | nil => rfl
  | cons c rest =>
    by_cases same : c = '.'
    · subst same
      rw [scanFraction_point]
      split
      next => rfl
      next some_digit =>
        have digits := scanDigits_sound rest
        simpa [fractionText, some_digit] using digits
    · rw [scanFraction_of_ne same]
      rfl

theorem scanFraction_of_stops {rest : Text} (stops : Level.factor.Stops rest) : scanFraction rest = ([], rest) := by
  cases rest with
  | nil => rfl
  | cons c tail =>
    have other : c ≠ '.' := by
      rintro rfl
      exact stops '.' rfl (by decide)
    exact scanFraction_of_ne other tail

theorem scanDigits_length (text : Text) : (scanDigits text).2.length ≤ text.length := by
  have sound := congrArg List.length (scanDigits_sound text)
  rw [List.length_append] at sound
  omega

theorem scanFraction_length (text : Text) : (scanFraction text).2.length ≤ text.length := by
  have sound := congrArg List.length (scanFraction_sound text)
  rw [List.length_append] at sound
  omega

/-- Behind a whole part that was written, the scanner takes further digits only. -/
theorem scanWhole?_digits (whole : Whole) (rest : Text) :
    ∃ longer tail, scanWhole? (whole.digits.map Digit.char ++ rest) = some (longer, tail) ∧
      tail.length ≤ rest.length ∧ (scanDigits rest = ([], rest) → longer = whole ∧ tail = rest) := by
  cases whole with
  | zero => exact ⟨.zero, rest, rfl, Nat.le_refl _, fun _ => ⟨rfl, rfl⟩⟩
  | leading first nonzero others =>
    refine ⟨.leading first nonzero (others ++ (scanDigits rest).1), (scanDigits rest).2, ?_, scanDigits_length rest, ?_⟩
    · simp [Whole.digits, scanWhole?, digit?_char, nonzero, scanDigits_append]
    · intro none
      simp [none]

theorem scanFraction_fractionText (digits : List Digit) (rest : Text) :
    ∃ longer tail, scanFraction (fractionText digits ++ rest) = (longer, tail) ∧
      tail.length ≤ rest.length ∧ (Level.factor.Stops rest → longer = digits ∧ tail = rest) := by
  cases digits with
  | nil =>
    refine ⟨_, _, rfl, scanFraction_length rest, fun stops => ?_⟩
    have none := scanFraction_of_stops stops
    exact ⟨congrArg Prod.fst none, congrArg Prod.snd none⟩
  | cons digit digits =>
    refine ⟨digit :: digits ++ (scanDigits rest).1, (scanDigits rest).2, ?_, scanDigits_length rest, fun stops => ?_⟩
    · have scanned := scanDigits_append (digit :: digits) rest
      simp only [fractionText, List.isEmpty_cons, Bool.false_eq_true, ite_false, List.cons_append, scanFraction_point]
      rw [← List.cons_append, scanned]
      simp
    · simp [scanDigits_of_stops stops]

/-- A numeral that was written is scanned as itself or, where the text behind it goes
on with digits, as a longer one. -/
theorem scan?_text (numeral : Numeral) (rest : Text) :
    ∃ longer tail, scan? (numeral.text ++ rest) = some (longer, tail) ∧
      tail.length ≤ rest.length ∧ (Level.factor.Stops rest → longer = numeral ∧ tail = rest) := by
  obtain ⟨whole, fraction⟩ := numeral
  obtain ⟨longer, tail, scanned, shorter, exact_whole⟩ := scanWhole?_digits whole (fractionText fraction ++ rest)
  cases fraction with
  | nil =>
    refine ⟨_, _, by simp only [scan?, text, List.append_assoc, scanned]; rfl, ?_, fun stops => ?_⟩
    · exact Nat.le_trans (scanFraction_length tail) shorter
    · obtain ⟨rfl, rfl⟩ := exact_whole (scanDigits_of_stops stops)
      simp [scanFraction_of_stops stops]
  | cons digit digits =>
    -- The point ends the digits of the whole part.
    obtain ⟨rfl, rfl⟩ := exact_whole rfl
    obtain ⟨read, left, found, shorter, exact_fraction⟩ := scanFraction_fractionText (digit :: digits) rest
    refine ⟨⟨longer, read⟩, left, ?_, shorter, fun stops => ?_⟩
    · simp only [scan?, text, List.append_assoc, scanned, Option.map_some, found]
    · obtain ⟨rfl, rfl⟩ := exact_fraction stops
      exact ⟨rfl, rfl⟩

theorem scanWhole?_sound {text : Text} {whole : Whole} {rest : Text} (scanned : scanWhole? text = some (whole, rest)) :
    text = whole.digits.map Digit.char ++ rest := by
  cases text with
  | nil => cases scanned
  | cons c others =>
    simp only [scanWhole?] at scanned
    split at scanned
    next => cases scanned
    next first digit =>
      split at scanned
      next zero =>
        cases scanned
        rw [eq_char_of_digit? digit, zero]
        rfl
      next =>
        cases scanned
        simp only [Whole.digits, List.map_cons, List.cons_append, ← scanDigits_sound, eq_char_of_digit? digit]

theorem scanWhole?_length {text : Text} {whole : Whole} {rest : Text} (scanned : scanWhole? text = some (whole, rest)) :
    rest.length < text.length := by
  have sound := congrArg List.length (scanWhole?_sound scanned)
  have digits : 0 < whole.digits.length := by cases whole <;> simp [Whole.digits]
  rw [List.length_append, List.length_map] at sound
  omega

/-- A numeral stands wherever a digit does. -/
theorem scan?_isSome (c : Char) (rest : Text) : (scan? (c :: rest)).isSome = (digit? c).isSome := by
  simp only [scan?, scanWhole?, Option.isSome_map]
  cases digit? c with
  | none => rfl
  | some first =>
    simp only
    split <;> rfl

theorem scan?_sound {text : Text} {numeral : Numeral} {rest : Text} (scanned : scan? text = some (numeral, rest)) :
    text = numeral.text ++ rest := by
  obtain ⟨⟨whole, tail⟩, found, same⟩ := Option.map_eq_some_iff.mp scanned
  cases same
  simp only [Numeral.text, List.append_assoc, ← scanFraction_sound, ← scanWhole?_sound found]

end Numeral

/-! ## The parser of numbers -/

def Whole.value [Arithmetic N] (whole : Whole) : N :=
  wholeValue ((whole.digits.map Fin.val).headD 0) (whole.digits.map Fin.val).tail

theorem Numeral.value_eq [Arithmetic N] (numeral : Numeral) :
    (numeral.value : N) = numeral.whole.value + fractionValue (numeral.fraction.map Fin.val) := by
  obtain ⟨whole, fraction⟩ := numeral
  cases whole <;> rfl

variable {Rule : Type → Type} {grammar : Grammar Rule} {depth : Nat}

theorem zero_mem_char : ∀ digit : Digit, zero.mem digit.char = decide (digit = 0) := by decide

theorem nonzero_mem_char : ∀ digit : Digit, nonzero.mem digit.char = decide (digit ≠ 0) := by decide

theorem digitValue_char : ∀ digit : Digit, digitValue digit.char = digit.val := by decide

theorem not_mem_of_digit?_eq_none {c : Char} (none : Numeral.digit? c = none) :
    zero.mem c = false ∧ nonzero.mem c = false := by
  constructor
  all_goals
    rw [Bool.eq_false_iff]
    intro member
    simp only [zero, nonzero, CharClass.oneOf, List.contains_iff_mem, List.mem_cons, List.not_mem_nil, or_false] at member
    revert none
    rcases member with rfl | rfl | rfl | rfl | rfl | rfl | rfl | rfl | rfl <;> decide

theorem reads_digit_nil : grammar.Reads depth digit [] none :=
  ((Grammar.reads_take_nil zero).map _).alt_refused ((Grammar.reads_take_nil nonzero).map _)

theorem reads_digit_refused {c : Char} (none : Numeral.digit? c = none) (rest : Text) :
    grammar.Reads depth digit (c :: rest) Option.none :=
  have ⟨noZero, noNonzero⟩ := not_mem_of_digit?_eq_none none
  ((Grammar.reads_take_refused noZero rest).map _).alt_refused ((Grammar.reads_take_refused noNonzero rest).map _)

theorem reads_nonzeroDigit {digit : Digit} (nonzero : digit ≠ 0) (rest : Text) :
    grammar.Reads depth nonzeroDigit (digit.char :: rest) (some (digit.val, rest)) := by
  have member : Arithmetic.nonzero.mem digit.char = true := by simp [nonzero_mem_char, nonzero]
  have taken : grammar.Reads depth nonzeroDigit (digit.char :: rest) (some (digitValue digit.char, rest)) :=
    (Grammar.reads_take member rest).map digitValue
  rwa [digitValue_char] at taken

theorem reads_digit (digit : Digit) (rest : Text) :
    grammar.Reads depth Arithmetic.digit (digit.char :: rest) (some (digit.val, rest)) := by
  by_cases same : digit = 0
  · subst same
    exact ((Grammar.reads_take (by decide) rest).map _).alt
  · have noZero : zero.mem digit.char = false := by simp [zero_mem_char, same]
    exact ((Grammar.reads_take_refused noZero rest).map _).alt_refused (reads_nonzeroDigit same rest)

theorem reads_digits (input : Text) (deep : input.length < depth) :
    grammar.Reads depth (.many digit) input
      (some ((Numeral.scanDigits input).1.map Fin.val, (Numeral.scanDigits input).2)) := by
  rw [Grammar.Reads, Grammar.run_many]
  -- The limit falls with the text, while the depth at which the digits run stays.
  suffices ∀ limit, input.length < limit → (Run.many limit (grammar.run depth digit)).Reads input _ from this depth deep
  clear deep
  induction input with
  | nil =>
    intro limit deep
    obtain ⟨limit, rfl⟩ := Nat.exists_eq_succ_of_ne_zero (Nat.ne_zero_of_lt deep)
    exact Run.Reads.many_stop reads_digit_nil limit
  | cons c rest ih =>
    intro limit deep
    obtain ⟨limit, rfl⟩ := Nat.exists_eq_succ_of_ne_zero (Nat.ne_zero_of_lt deep)
    cases found : Numeral.digit? c with
    | none => simpa [Numeral.scanDigits, found] using Run.Reads.many_stop (reads_digit_refused found rest) limit
    | some digit =>
      have item : grammar.Reads depth Arithmetic.digit (c :: rest) (some (digit.val, rest)) :=
        Numeral.eq_char_of_digit? found ▸ reads_digit digit rest
      simpa [Numeral.scanDigits, found] using Run.Reads.many_step item (ih limit (Nat.lt_of_succ_lt_succ deep))

theorem reads_someDigits (input : Text) (deep : input.length < depth) :
    grammar.Reads depth (.some digit) input
      (if (Numeral.scanDigits input).1 = [] then none
        else some ((Numeral.scanDigits input).1.map Fin.val, (Numeral.scanDigits input).2)) := by
  cases input with
  | nil => exact reads_digit_nil.seq_refused.map _
  | cons c rest =>
    cases found : Numeral.digit? c with
    | none =>
      simp only [Numeral.scanDigits, found, ite_true]
      exact (reads_digit_refused found rest).seq_refused.map _
    | some digit =>
      simp only [Numeral.scanDigits, found, reduceCtorEq, ite_false]
      rw [Numeral.eq_char_of_digit? found]
      exact ((reads_digit digit rest).seq (reads_digits rest (Nat.lt_of_succ_lt deep))).map _

variable {N : Type} [Arithmetic N]

theorem reads_integer (input : Text) (deep : input.length < depth) :
    grammar.Reads depth (integer : Parser Rule N) input
      ((Numeral.scanWhole? input).map fun (whole, rest) => (whole.value, rest)) := by
  cases input with
  | nil =>
    exact (((Grammar.reads_take_nil nonzero).map _).seq_refused.map _).alt_refused
      (((Grammar.reads_take_nil zero).map _).map _)
  | cons c rest =>
    cases found : Numeral.digit? c with
    | none =>
      obtain ⟨noZero, noNonzero⟩ := not_mem_of_digit?_eq_none found
      simp only [Numeral.scanWhole?, found]
      exact (((Grammar.reads_take_refused noNonzero rest).map _).seq_refused.map _).alt_refused
        (((Grammar.reads_take_refused noZero rest).map _).map _)
    | some digit =>
      have same := Numeral.eq_char_of_digit? found
      by_cases isZero : digit = 0
      · simp only [Numeral.scanWhole?, found, isZero, dite_true]
        subst same isZero
        exact (((Grammar.reads_take_refused (by decide) rest).map _).seq_refused.map _).alt_refused
          (((Grammar.reads_take (by decide) rest).map _).map _)
      · simp only [Numeral.scanWhole?, found, isZero, dite_false]
        subst same
        exact ((reads_nonzeroDigit isZero rest).seq (reads_digits rest (Nat.lt_of_succ_lt deep))).map _ |>.alt

/-- A point without a digit behind it is not read. -/
theorem reads_fraction (input : Text) (deep : input.length < depth) :
    grammar.Reads depth (fraction : Parser Rule N) input
      (if (Numeral.scanFraction input).1 = [] then none
        else some (fractionValue ((Numeral.scanFraction input).1.map Fin.val), (Numeral.scanFraction input).2)) := by
  cases input with
  | nil => exact (Grammar.reads_take_nil point).seq_refused.map _
  | cons c rest =>
    by_cases same : c = '.'
    · subst same
      have pointed : grammar.Reads depth (.take point) ('.' :: rest) (some ('.', rest)) :=
        Grammar.reads_take (by decide) rest
      have digits : grammar.Reads depth (.some digit) rest _ := reads_someDigits rest (Nat.lt_of_succ_lt deep)
      rw [Numeral.scanFraction_point]
      split at digits
      next none =>
        rw [if_pos none]
        exact (pointed.seq digits).map _
      next some_digit =>
        rw [if_neg some_digit, if_neg some_digit]
        exact (pointed.seq digits).map _
    · have other : point.mem c = false := by simp [point, CharClass.oneOf, same]
      rw [Numeral.scanFraction_of_ne same]
      exact (Grammar.reads_take_refused other rest).seq_refused.map _

theorem reads_optionalFraction (input : Text) (deep : input.length < depth) :
    grammar.Reads depth (.optional fraction (ofNat 0) : Parser Rule N) input
      (some (fractionValue ((Numeral.scanFraction input).1.map Fin.val), (Numeral.scanFraction input).2)) := by
  have digits : grammar.Reads depth (fraction : Parser Rule N) input _ := reads_fraction input deep
  split at digits
  next none =>
    have left : input = (Numeral.scanFraction input).2 := by
      simpa [none, Numeral.fractionText] using Numeral.scanFraction_sound input
    rw [none, ← left]
    exact digits.alt_refused (Grammar.reads_ret (ofNat 0) input)
  next => exact digits.alt

/-- The number parser reads the numeral that the scanner finds. -/
theorem reads_number (input : Text) (deep : input.length < depth) :
    grammar.Reads depth (number : Parser Rule N) input
      ((Numeral.scan? input).map fun (numeral, rest) => (numeral.value, rest)) := by
  have whole : grammar.Reads depth (integer : Parser Rule N) input _ := reads_integer input deep
  cases scanned : Numeral.scanWhole? input with
  | none =>
    rw [scanned] at whole
    simp only [Numeral.scan?, scanned]
    exact whole.seq_refused.map _
  | some found =>
    obtain ⟨found, rest⟩ := found
    rw [scanned] at whole
    simp only [Numeral.scan?, scanned, Option.map_some, Numeral.value_eq]
    have shorter := Numeral.scanWhole?_length scanned
    exact (whole.seq (reads_optionalFraction rest (by omega))).map _

end Backtrack.Arithmetic
