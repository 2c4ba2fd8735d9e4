import Backtrack.Arithmetic.Shape
import Backtrack.Proofs.Numerals
import Backtrack.Proofs.Termination

/-! What decides how an expression is parsed. Two runs over texts of one shape are followed side
by side: every class sees the same in both, apart from the multiplicative signs, and
those are told apart only for the value. No parser is chosen by a value, so the runs may
even compute in different arithmetics. -/

namespace Backtrack

/-- How many characters are left behind what was read. A refused run reads nothing. -/
def Reply.left? (reply : Reply α) : Option Nat :=
  match reply.outcome with
  | .ok success => some success.tail.length
  | .error _ => none

namespace Arithmetic

/-! ## Characters of one kind -/

theorem exists_nonzero_digit {c : Char} (bounds : '1' ≤ c ∧ c ≤ '9') : ∃ digit : Digit, digit ≠ 0 ∧ c = digit.char := by
  obtain ⟨low, high⟩ := bounds
  have one : '1'.toNat ≤ c.toNat := low
  have nine : c.toNat ≤ '9'.toNat := high
  have between : '0'.toNat ≤ c.toNat ∧ c.toNat ≤ '9'.toNat := ⟨Nat.le_trans (by decide) one, nine⟩
  have found : Numeral.digit? c = some _ := dif_pos between
  have written := Numeral.eq_char_of_digit? found
  refine ⟨_, fun isZero => ?_, written⟩
  rw [isZero] at written
  subst written
  exact absurd one (by decide)

theorem sameShape_nil_iff {other : Text} : SameShape [] other ↔ other = [] := by
  simp [SameShape, eq_comm]

theorem SameShape.of_cons {c : Char} {rest other : Text} (same : SameShape (c :: rest) other) :
    ∃ d more, other = d :: more ∧ shape c = shape d ∧ SameShape rest more := by
  cases other with
  | nil => cases same
  | cons d more => exact ⟨d, more, rfl, List.head_eq_of_cons_eq same, List.tail_eq_of_cons_eq same⟩

theorem SameShape.length_eq {input other : Text} (same : SameShape input other) : input.length = other.length := by
  simpa only [List.length_map] using congrArg List.length same

/-- The test holds of both or neither of two characters of one kind. -/
def SeesShape (test : Char → Bool) : Prop := ∀ c d, shape c = shape d → test c = test d

theorem seesShape_of_kinds {test : Char → Bool} (digits : ∀ digit : Digit, digit ≠ 0 → test digit.char = test '1')
    (signs : test '/' = test '*') : SeesShape test := by
  have kept (c : Char) : test (shape c) = test c := by
    unfold shape
    split
    next bounds =>
      obtain ⟨digit, nonzero, rfl⟩ := exists_nonzero_digit bounds
      exact (digits digit nonzero).symm
    next =>
      split
      next slash => exact slash ▸ signs.symm
      next => rfl
  intro c d same
  rw [← kept c, same, kept d]

/-! ## Runs side by side -/

/-- Both runs are refused, or both succeed and leave texts of one shape. Their records and values
may differ. -/
inductive EndAlike : Reply α → Reply β → Prop where
  | refused {trace refusal again other} : EndAlike ⟨trace, .error refusal⟩ ⟨again, .error other⟩
  | read {trace tail value again rest found} (same : SameShape tail rest) :
      EndAlike ⟨trace, .ok ⟨tail, value⟩⟩ ⟨again, .ok ⟨rest, found⟩⟩

theorem EndAlike.map {reply : Reply α} {other : Reply β} (alike : EndAlike reply other) (f : α → γ) (g : β → δ) :
    EndAlike (reply.map f) (other.map g) := by
  cases alike with
  | refused => exact .refused
  | read same => exact .read same

theorem EndAlike.after {reply : Reply α} {other : Reply β} (alike : EndAlike reply other) (earlier before : Trace) :
    EndAlike (reply.after earlier) (other.after before) := by
  cases alike with
  | refused => exact .refused
  | read same => exact .read same

/-- On texts of one shape, both runs answer or neither does, and their answers end alike. -/
def Parallel (first : Run α) (second : Run β) : Prop :=
  ∀ input other, SameShape input other → Option.Rel EndAlike (first input) (second other)

private theorem rel_map {answer : Option (Reply α)} {other : Option (Reply β)} {f : Reply α → Reply γ}
    {g : Reply β → Reply δ} (alike : Option.Rel EndAlike answer other)
    (keeps : ∀ reply again, EndAlike reply again → EndAlike (f reply) (g again)) :
    Option.Rel EndAlike (answer.map f) (other.map g) := by
  cases alike with
  | none => exact .none
  | some ends => exact .some (keeps _ _ ends)

theorem parallel_endless : Parallel (fun _ => none : Run α) (fun _ => none : Run β) :=
  fun _ _ _ => .none

theorem parallel_ret (value : α) (other : β) : Parallel (Run.ret value) (Run.ret other) :=
  fun _ _ same => .some (.read same)

theorem parallel_take {expected : CharClass} (sees : SeesShape expected.mem) :
    Parallel (Run.take expected) (Run.take expected) := by
  intro input other same
  cases input with
  | nil =>
    rw [sameShape_nil_iff.mp same]
    exact .some .refused
  | cons c rest =>
    obtain ⟨d, more, rfl, kind, behind⟩ := same.of_cons
    simp only [Run.take, sees c d kind]
    split
    next => exact .some (.read behind)
    next => exact .some .refused

theorem reads_either (left right : CharClass) (first second : Char → α) (c : Char) (rest : Text) :
    (Run.alt (Run.map first (Run.take left)) (Run.map second (Run.take right))).Reads (c :: rest)
      (if left.mem c || right.mem c then some (if left.mem c then first c else second c, rest) else none) := by
  have one := (Run.reads_take_cons left c rest).map first
  have two := (Run.reads_take_cons right c rest).map second
  cases takesLeft : left.mem c with
  | true =>
    rw [takesLeft] at one
    exact one.alt
  | false =>
    rw [takesLeft] at one
    cases takesRight : right.mem c with
    | true =>
      rw [takesRight] at two
      exact one.alt_refused two
    | false =>
      rw [takesRight] at two
      exact one.alt_refused two

/-- Which of two classes takes the character need not be the same in both runs. -/
theorem parallel_either {left right : CharClass} (sees : SeesShape fun c => left.mem c || right.mem c)
    (first second : Char → α) (other further : Char → β) :
    Parallel (Run.alt (Run.map first (Run.take left)) (Run.map second (Run.take right)))
      (Run.alt (Run.map other (Run.take left)) (Run.map further (Run.take right))) := by
  intro input text same
  cases input with
  | nil =>
    rw [sameShape_nil_iff.mp same]
    exact .some .refused
  | cons c rest =>
    obtain ⟨d, more, rfl, kind, behind⟩ := same.of_cons
    have one := reads_either left right first second c rest
    have two := reads_either left right other further d more
    rw [show (left.mem c || right.mem c) = (left.mem d || right.mem d) from sees c d kind] at one
    by_cases taken : (left.mem d || right.mem d) = true
    · rw [if_pos taken] at one two
      obtain ⟨_, ran⟩ := Run.reads_some_iff.mp one
      obtain ⟨_, again⟩ := Run.reads_some_iff.mp two
      rw [ran, again]
      exact .some (.read behind)
    · rw [if_neg taken] at one two
      obtain ⟨_, _, ran⟩ := Run.reads_none_iff.mp one
      obtain ⟨_, _, again⟩ := Run.reads_none_iff.mp two
      rw [ran, again]
      exact .some .refused

theorem Parallel.map {first : Run α} {second : Run β} (runs : Parallel first second) (f : α → γ) (g : β → δ) :
    Parallel (Run.map f first) (Run.map g second) :=
  fun input other same => rel_map (runs input other same) fun _ _ alike => alike.map f g

theorem Parallel.seq {first : Run α} {second : Run β} {next : Run γ} {later : Run δ}
    (runs : Parallel first second) (going : Parallel next later) :
    Parallel (Run.seq first next) (Run.seq second later) := by
  intro input other same
  have begun := runs input other same
  simp only [Run.seq, Run.bind]
  generalize first input = answer at begun ⊢
  generalize second other = reply at begun ⊢
  cases begun with
  | none => exact .none
  | some ends =>
    cases ends with
    | refused => exact .some .refused
    | read same => exact rel_map (going.map _ _ _ _ same) fun _ _ alike => alike.after _ _

theorem Parallel.alt {first next : Run α} {second later : Run β} (runs : Parallel first second)
    (going : Parallel next later) : Parallel (Run.alt first next) (Run.alt second later) := by
  intro input other same
  have begun := runs input other same
  simp only [Run.alt]
  generalize first input = answer at begun ⊢
  generalize second other = reply at begun ⊢
  cases begun with
  | none => exact .none
  | some ends =>
    cases ends with
    | refused => exact rel_map (going input other same) fun _ _ alike => alike.after _ _
    | read same => exact .some (.read same)

theorem Parallel.many {run : Run α} {again : Run β} (item : Parallel run again) (limit : Nat) :
    Parallel (Run.many limit run) (Run.many limit again) := by
  induction limit with
  | zero => exact parallel_endless
  | succ limit ih => exact ((item.seq ih).map _ _).alt (parallel_ret [] [])

/-! ## Parsers of one form -/

variable {N M : Type}

/-- The same rule, in two arithmetics. -/
inductive SameRule : ∀ {α β : Type}, Rule N α → Rule M β → Prop where
  | sum : SameRule .sum .sum
  | sumTail : SameRule .sumTail .sumTail
  | product : SameRule .product .product
  | productTail : SameRule .productTail .productTail
  | factor : SameRule .factor .factor

/-- Parsers that are put together in one way, of classes that see no more than the kind of a
character. The functions on values need not agree. -/
inductive OneForm : ∀ {α β : Type}, Parser (Rule N) α → Parser (Rule M) β → Prop where
  | take {expected : CharClass} (sees : SeesShape expected.mem) : OneForm (.take expected) (.take expected)
  | either {α β : Type} {left right : CharClass} (sees : SeesShape fun c => left.mem c || right.mem c)
      {first second : Char → α} {other further : Char → β} :
      OneForm (.alt (.map first (.take left)) (.map second (.take right)))
        (.alt (.map other (.take left)) (.map further (.take right)))
  | ret {α β : Type} {value : α} {other : β} : OneForm (.ret value) (.ret other)
  | map {α β γ δ : Type} {f : α → γ} {g : β → δ} {parser : Parser (Rule N) α} {other : Parser (Rule M) β} :
      OneForm parser other → OneForm (.map f parser) (.map g other)
  | seq {α β γ δ : Type} {first : Parser (Rule N) α} {other : Parser (Rule M) β} {second : Parser (Rule N) γ}
      {further : Parser (Rule M) δ} :
      OneForm first other → OneForm second further → OneForm (.seq first second) (.seq other further)
  | alt {α β : Type} {first second : Parser (Rule N) α} {other further : Parser (Rule M) β} :
      OneForm first other → OneForm second further → OneForm (.alt first second) (.alt other further)
  | many {α β : Type} {parser : Parser (Rule N) α} {other : Parser (Rule M) β} :
      OneForm parser other → OneForm (.many parser) (.many other)
  | rule {α β : Type} {name : Rule N α} {other : Rule M β} : SameRule name other → OneForm (.rule name) (.rule other)

theorem OneForm.links {sign : Parser (Rule N) Operator} {again : Parser (Rule M) Operator} {operand : Rule N N}
    {other : Rule M M} {tail : Rule N (Chain N)} {further : Rule M (Chain M)} (signs : OneForm sign again)
    (operands : SameRule operand other) (tails : SameRule tail further) :
    OneForm (links sign operand tail) (links again other further) :=
  .alt (.map (.seq signs (.seq (.rule operands) (.rule tails)))) (.map (.seq signs (.rule operands)))

variable [Arithmetic N] [Arithmetic M]

theorem OneForm.number : OneForm (number : Parser (Rule N) N) (number : Parser (Rule M) M) := by
  have zeroDigit : OneForm (zeroDigit : Parser (Rule N) Nat) (zeroDigit : Parser (Rule M) Nat) :=
    .map (.take (seesShape_of_kinds (by decide) rfl))
  have nonzeroDigit : OneForm (nonzeroDigit : Parser (Rule N) Nat) (nonzeroDigit : Parser (Rule M) Nat) :=
    .map (.take (seesShape_of_kinds (by decide) rfl))
  have digit : OneForm (digit : Parser (Rule N) Nat) (digit : Parser (Rule M) Nat) := .alt zeroDigit nonzeroDigit
  have point : SeesShape point.mem := seesShape_of_kinds (by decide) rfl
  exact .map (.seq (.alt (.map (.seq nonzeroDigit (.many digit))) (.map zeroDigit))
    (.alt (.map (.seq (.take point) (.map (.seq digit (.many digit))))) .ret))

theorem OneForm.chained {operand : Rule N N} {other : Rule M M} {tail : Rule N (Chain N)} {further : Rule M (Chain M)}
    (operands : SameRule operand other) (tails : SameRule tail further) :
    OneForm (chained operand tail) (chained other further) :=
  .alt (.map (.seq (.rule operands) (.rule tails))) (.rule operands)

theorem OneForm.body {α β : Type} {name : Rule N α} {other : Rule M β} (same : SameRule name other) :
    OneForm (body name) (body other) := by
  cases same with
  | sum => exact .chained .product .sumTail
  | sumTail => exact .links (.either (seesShape_of_kinds (by decide) rfl)) .product .sumTail
  | product => exact .chained .factor .productTail
  | productTail => exact .links (.either (seesShape_of_kinds (by decide) rfl)) .factor .productTail
  | factor =>
    have opening : SeesShape opening.mem := seesShape_of_kinds (by decide) rfl
    have closing : SeesShape closing.mem := seesShape_of_kinds (by decide) rfl
    have minusSign : SeesShape minusSign.mem := seesShape_of_kinds (by decide) rfl
    exact .alt (.alt .number (.map (.seq (.take opening) (.seq (.rule .sum) (.take closing)))))
      (.map (.seq (.take minusSign) (.rule .factor)))

/-- Parsers of one form run side by side where the rules do that they call. -/
theorem OneForm.parallel_of_rules {depth : Nat} {α β : Type} {parser : Parser (Rule N) α} {other : Parser (Rule M) β}
    (form : OneForm parser other) (rules : ∀ {γ δ : Type} {name : Rule N γ} {other : Rule M δ}, SameRule name other →
      Parallel ((grammar N).run depth (.rule name)) ((grammar M).run depth (.rule other))) :
    Parallel ((grammar N).run depth parser) ((grammar M).run depth other) := by
  induction form with
  | take sees => simpa only [Grammar.run_take] using parallel_take sees
  | either sees => simpa only [Grammar.run_alt, Grammar.run_map, Grammar.run_take] using parallel_either sees _ _ _ _
  | ret => simpa only [Grammar.run_ret] using parallel_ret _ _
  | map _ ih => simpa only [Grammar.run_map] using ih.map _ _
  | seq _ _ first second => simpa only [Grammar.run_seq] using first.seq second
  | alt _ _ first second => simpa only [Grammar.run_alt] using first.alt second
  | many _ ih => simpa only [Grammar.run_many] using ih.many depth
  | rule same => exact rules same

/-- The induction is on the depth: the bodies of the rules run one level down. -/
theorem OneForm.parallel {α β : Type} {parser : Parser (Rule N) α} {other : Parser (Rule M) β}
    (form : OneForm parser other) (depth : Nat) :
    Parallel ((grammar N).run depth parser) ((grammar M).run depth other) := by
  induction depth generalizing α β with
  | zero => exact form.parallel_of_rules fun _ => parallel_endless
  | succ depth ih => exact form.parallel_of_rules fun same => ih (.body same)

/-! ## Where parsing stops -/

theorem EndAlike.left?_eq {reply : Reply α} {other : Reply β} (alike : EndAlike reply other) :
    reply.left? = other.left? := by
  cases alike with
  | refused => rfl
  | read same => exact congrArg some same.length_eq

/-- Both parsers answer, and are refused both, or both leave as many characters of their texts. -/
def StopAlike (parser : Parser (Rule N) α) (other : Parser (Rule M) β) (input text : Text) : Prop :=
  ∃ reply again, (grammar N).apply parser input = some reply ∧ (grammar M).apply other text = some again ∧
    reply.left? = again.left?

theorem OneForm.stopAlike {α β : Type} {parser : Parser (Rule N) α} {other : Parser (Rule M) β}
    (form : OneForm parser other) (terminates : (grammar N).Terminates parser) {input text : Text}
    (same : SameShape input text) : StopAlike parser other input text := by
  have limits : (grammar N).limit input = (grammar M).limit text :=
    congrArg (fun length => 6 * (length + 2)) same.length_eq
  have beside : Option.Rel EndAlike ((grammar N).apply parser input) ((grammar M).apply other text) := by
    rw [Grammar.apply, Grammar.apply, ← limits]
    exact form.parallel _ input text same
  obtain ⟨reply, ran⟩ := terminates.exists_reply input
  rw [ran] at beside
  generalize answered : (grammar M).apply other text = answer at beside
  cases beside with
  | some alike => exact ⟨reply, _, ran, answered, alike.left?_eq⟩

/-- Whether an expression, a product, a factor or a numeral is read, and where it stops, depends on
the shape of the text alone. No value decides it, be it infinite or no number. -/
theorem shape_decides_parse (N M : Type) [Arithmetic N] [Arithmetic M] {input text : Text} (same : SameShape input text) :
    StopAlike (.rule .sum : Parser (Rule N) N) (.rule .sum : Parser (Rule M) M) input text ∧
    StopAlike (.rule .product : Parser (Rule N) N) (.rule .product : Parser (Rule M) M) input text ∧
    StopAlike (.rule .factor : Parser (Rule N) N) (.rule .factor : Parser (Rule M) M) input text ∧
    StopAlike (number : Parser (Rule N) N) (number : Parser (Rule M) M) input text := by
  have rules := (ranking N).rulesTerminate
  refine ⟨OneForm.stopAlike (.rule .sum) (rules.rule _) same, OneForm.stopAlike (.rule .product) (rules.rule _) same,
    OneForm.stopAlike (.rule .factor) (rules.rule _) same, ?_⟩
  exact OneForm.number.stopAlike ((ranking N).terminates repeating_number) same

theorem division_by_zero_parsed_alike :
    SameShape ['1', '/', '0', ')'] ['7', '*', '0', ')'] ∧
      StopAlike (.rule .sum : Parser (Rule Float) Float) (.rule .sum : Parser (Rule Float) Float)
        ['1', '/', '0', ')'] ['7', '*', '0', ')'] := by
  have same : SameShape ['1', '/', '0', ')'] ['7', '*', '0', ')'] := rfl
  exact ⟨same, (shape_decides_parse Float Float same).1⟩

end Arithmetic
end Backtrack
