import Backtrack.Parser.Derived
import Backtrack.Proofs.GrammarRun

/-! What a run reads, apart from what it records. There is one law for each operation
and each way in which its first part may end, so that a grammar can be followed
from rule to rule. -/

namespace Backtrack

@[simp] theorem CharClass.mem_oneOf {members : List Char} {c : Char} :
    (CharClass.oneOf members).mem c = true ↔ c ∈ members :=
  List.contains_iff_mem

@[simp] theorem CharClass.mem_noneOf {members : List Char} {c : Char} :
    (CharClass.noneOf members).mem c = true ↔ c ∉ members := by
  simp [noneOf]

/-- The value that was read, and the text that is left. A refused run reads nothing. -/
def Reply.reading (reply : Reply α) : Option (α × Text) :=
  match reply.outcome with
  | .ok success => some (success.value, success.tail)
  | .error _ => none

namespace Run

/-- The run ends, and this is what it reads. -/
def Reads (run : Run α) (input : Text) (result : Option (α × Text)) : Prop :=
  (run input).map Reply.reading = some result

theorem Reads.unique {run : Run α} {first second : Option (α × Text)} (left : run.Reads input first)
    (right : run.Reads input second) : first = second :=
  Option.some.inj (left.symm.trans right)

theorem reads_some_iff {run : Run α} :
    run.Reads input (some (value, tail)) ↔ ∃ trace, run input = some ⟨trace, .ok ⟨tail, value⟩⟩ := by
  constructor
  · intro reads
    obtain ⟨⟨trace, outcome⟩, ran, same⟩ := Option.map_eq_some_iff.mp reads
    cases outcome with
    | error refusal => cases same
    | ok success =>
      cases same
      exact ⟨trace, ran⟩
  · rintro ⟨trace, ran⟩
    simp only [Reads, ran]
    rfl

theorem reads_none_iff {run : Run α} :
    run.Reads input none ↔ ∃ trace refusal, run input = some ⟨trace, .error refusal⟩ := by
  constructor
  · intro reads
    obtain ⟨⟨trace, outcome⟩, ran, same⟩ := Option.map_eq_some_iff.mp reads
    cases outcome with
    | error refusal => exact ⟨trace, refusal, ran⟩
    | ok success => cases same
  · rintro ⟨trace, refusal, ran⟩
    simp only [Reads, ran]
    rfl

theorem reads_ret (value : α) (input : Text) : (ret value).Reads input (some (value, input)) := rfl

theorem reads_take_nil (expected : CharClass) : (take expected).Reads [] none := rfl

theorem reads_take_cons (expected : CharClass) (c : Char) (rest : Text) :
    (take expected).Reads (c :: rest) (if expected.mem c then some (c, rest) else none) := by
  simp only [Reads, take]
  split <;> rfl

theorem Reads.map {run : Run α} (f : α → β) (reads : run.Reads input result) :
    (Run.map f run).Reads input (result.map fun (value, tail) => (f value, tail)) := by
  obtain ⟨⟨trace, outcome⟩, ran, rfl⟩ := Option.map_eq_some_iff.mp reads
  simp only [Reads, Run.map, ran]
  cases outcome <;> rfl

theorem Reads.bind {first : Run α} {next : α → Run β} (left : first.Reads input (some (value, tail)))
    (right : (next value).Reads tail result) : (Run.bind first next).Reads input result := by
  obtain ⟨trace, ran⟩ := reads_some_iff.mp left
  obtain ⟨reply, continued, rfl⟩ := Option.map_eq_some_iff.mp right
  simp only [Reads, Run.bind, ran, continued]
  rfl

theorem Reads.bind_refused {first : Run α} {next : α → Run β} (left : first.Reads input none) :
    (Run.bind first next).Reads input none := by
  obtain ⟨trace, refusal, ran⟩ := reads_none_iff.mp left
  simp only [Reads, Run.bind, ran]
  rfl

theorem Reads.seq {first : Run α} {second : Run β} (left : first.Reads input (some (value, tail)))
    (right : second.Reads tail result) :
    (Run.seq first second).Reads input (result.map fun (other, rest) => ((value, other), rest)) :=
  left.bind (right.map (Prod.mk value))

theorem Reads.seq_refused {first : Run α} {second : Run β} (left : first.Reads input none) :
    (Run.seq first second).Reads input none :=
  left.bind_refused

theorem Reads.alt {first second : Run α} (left : first.Reads input (some found)) :
    (Run.alt first second).Reads input (some found) := by
  obtain ⟨trace, ran⟩ := reads_some_iff.mp left
  simp only [Reads, Run.alt, ran]
  rfl

theorem Reads.alt_refused {first second : Run α} (left : first.Reads input none)
    (right : second.Reads input result) : (Run.alt first second).Reads input result := by
  obtain ⟨trace, refusal, ran⟩ := reads_none_iff.mp left
  obtain ⟨reply, continued, rfl⟩ := Option.map_eq_some_iff.mp right
  simp only [Reads, Run.alt, ran, continued]
  rfl

theorem Reads.many_stop {run : Run α} (reads : run.Reads input none) (limit : Nat) :
    (Run.many (limit + 1) run).Reads input (some ([], input)) :=
  ((reads.seq_refused).map _).alt_refused (reads_ret [] input)

theorem Reads.many_step {run : Run α} {limit : Nat} (item : run.Reads input (some (value, tail)))
    (others : (Run.many limit run).Reads tail (some (values, rest))) :
    (Run.many (limit + 1) run).Reads input (some (value :: values, rest)) :=
  ((item.seq others).map _).alt

/-! What was read was read by the parts. -/

theorem Reads.of_take {expected : CharClass} (reads : (take expected).Reads input (some (c, tail))) :
    input = c :: tail ∧ expected.mem c = true := by
  obtain ⟨trace, ran⟩ := reads_some_iff.mp reads
  exact of_take_ok ran

theorem Reads.of_map {f : α → β} {run : Run α} (reads : (Run.map f run).Reads input (some (value, tail))) :
    ∃ inner, run.Reads input (some (inner, tail)) ∧ f inner = value := by
  obtain ⟨trace, ran⟩ := reads_some_iff.mp reads
  obtain ⟨found, same, mapped⟩ := of_map_ok ran
  cases mapped
  exact ⟨found.value, reads_some_iff.mpr ⟨trace, same⟩, rfl⟩

theorem Reads.of_bind {first : Run α} {next : α → Run β}
    (reads : (Run.bind first next).Reads input (some (value, tail))) :
    ∃ earlier middle, first.Reads input (some (earlier, middle)) ∧ (next earlier).Reads middle (some (value, tail)) := by
  obtain ⟨trace, ran⟩ := reads_some_iff.mp reads
  obtain ⟨before, found, later, same, continued⟩ := of_bind_ok ran
  exact ⟨found.value, found.tail, reads_some_iff.mpr ⟨before, same⟩, reads_some_iff.mpr ⟨later, continued⟩⟩

theorem Reads.of_seq {first : Run α} {second : Run β}
    (reads : (Run.seq first second).Reads input (some ((value, other), tail))) :
    ∃ middle, first.Reads input (some (value, middle)) ∧ second.Reads middle (some (other, tail)) := by
  obtain ⟨earlier, middle, left, mapped⟩ := reads.of_bind
  obtain ⟨inner, right, same⟩ := mapped.of_map
  cases same
  exact ⟨middle, left, right⟩

/-- A class is read as long as characters of it follow. -/
theorem reads_many_take (expected : CharClass) (input : Text) (limit : Nat) (deep : input.length < limit) :
    (Run.many limit (take expected)).Reads input (some (input.takeWhile expected.mem, input.dropWhile expected.mem)) := by
  induction input generalizing limit with
  | nil =>
    obtain ⟨limit, rfl⟩ := Nat.exists_eq_succ_of_ne_zero (Nat.ne_zero_of_lt deep)
    exact (reads_take_nil expected).many_stop limit
  | cons c rest ih =>
    obtain ⟨limit, rfl⟩ := Nat.exists_eq_succ_of_ne_zero (Nat.ne_zero_of_lt deep)
    have head := reads_take_cons expected c rest
    rw [List.takeWhile_cons, List.dropWhile_cons]
    cases member : expected.mem c with
    | false => exact (by simpa [member] using head : (take expected).Reads (c :: rest) none).many_stop limit
    | true =>
      have item : (take expected).Reads (c :: rest) (some (c, rest)) := by simpa [member] using head
      exact item.many_step (ih limit (Nat.lt_of_succ_lt_succ deep))

end Run

namespace Grammar

/-- What a parser reads with rules nested at most `depth` deep. -/
abbrev Reads (grammar : Grammar Rule) (depth : Nat) (parser : Parser Rule α) (input : Text)
    (result : Option (α × Text)) : Prop :=
  Run.Reads (grammar.run depth parser) input result

section

variable {Rule : Type → Type} {grammar : Grammar Rule} {depth : Nat}

theorem reads_ret (value : α) (input : Text) : grammar.Reads depth (.ret value) input (some (value, input)) := by
  rw [Reads, run_ret]
  exact Run.reads_ret value input

theorem reads_take_nil (expected : CharClass) : grammar.Reads depth (.take expected) [] none := by
  rw [Reads, run_take]
  exact Run.reads_take_nil expected

theorem reads_take {expected : CharClass} {c : Char} (member : expected.mem c = true) (rest : Text) :
    grammar.Reads depth (.take expected) (c :: rest) (some (c, rest)) := by
  rw [Reads, run_take]
  simpa [member] using Run.reads_take_cons expected c rest

theorem reads_take_refused {expected : CharClass} {c : Char} (other : expected.mem c = false) (rest : Text) :
    grammar.Reads depth (.take expected) (c :: rest) none := by
  rw [Reads, run_take]
  simpa [other] using Run.reads_take_cons expected c rest

theorem reads_symbol (symbol : Char) (rest : Text) :
    grammar.Reads depth (.take (.oneOf [symbol])) (symbol :: rest) (some (symbol, rest)) :=
  reads_take (CharClass.mem_oneOf.mpr List.mem_cons_self) rest

theorem reads_symbol_refused {symbol : Char} {input : Text} (absent : ∀ rest, input ≠ symbol :: rest) :
    grammar.Reads depth (.take (.oneOf [symbol])) input none := by
  cases input with
  | nil => exact reads_take_nil _
  | cons c rest =>
    have other : c ≠ symbol := fun same => absent rest (same ▸ rfl)
    exact reads_take_refused (Bool.eq_false_iff.mpr fun member => other (by simpa using member)) rest

theorem reads_many_take (expected : CharClass) (input : Text) (deep : input.length < depth) :
    grammar.Reads depth (.many (.take expected)) input
      (some (input.takeWhile expected.mem, input.dropWhile expected.mem)) := by
  rw [Reads, run_many, run_take]
  exact Run.reads_many_take expected input depth deep

theorem reads_many_take_append {expected : CharClass} {text rest : Text} (members : ∀ c ∈ text, expected.mem c = true)
    (stop : ∀ c ∈ rest.head?, expected.mem c = false) (deep : (text ++ rest).length < depth) :
    grammar.Reads depth (.many (.take expected)) (text ++ rest) (some (text, rest)) := by
  have reads : grammar.Reads depth (.many (.take expected)) (text ++ rest) _ := reads_many_take expected (text ++ rest) deep
  rw [List.takeWhile_append_of_pos members, List.dropWhile_append_of_pos members] at reads
  cases rest with
  | nil => simpa using reads
  | cons c rest => simpa [stop c rfl] using reads

theorem Reads.of_many_take {expected : CharClass} (deep : input.length < depth)
    (reads : grammar.Reads depth (.many (.take expected)) input (some (text, tail))) :
    input = text ++ tail ∧ ∀ c ∈ text, expected.mem c = true := by
  have same := (reads_many_take expected input deep).unique reads
  cases same
  exact ⟨List.takeWhile_append_dropWhile.symm, List.all_eq_true.mp List.all_takeWhile⟩

variable {first second : Parser Rule α} {other : Parser Rule β}

theorem Reads.map (f : α → β) (reads : grammar.Reads depth first input result) :
    grammar.Reads depth (.map f first) input (result.map fun (value, tail) => (f value, tail)) := by
  rw [Reads, run_map]
  exact Run.Reads.map f reads

theorem Reads.seq (left : grammar.Reads depth first input (some (value, tail)))
    (right : grammar.Reads depth other tail result) :
    grammar.Reads depth (.seq first other) input (result.map fun (next, rest) => ((value, next), rest)) := by
  rw [Reads, run_seq]
  exact Run.Reads.seq left right

theorem Reads.seq_refused (left : grammar.Reads depth first input none) :
    grammar.Reads depth (.seq first other) input none := by
  rw [Reads, run_seq]
  exact Run.Reads.seq_refused left

theorem Reads.bind {next : α → Parser Rule β} (left : grammar.Reads depth first input (some (value, tail)))
    (right : grammar.Reads depth (next value) tail result) :
    grammar.Reads depth (.bind first next) input result := by
  rw [Reads, run_bind]
  exact Run.Reads.bind left right

theorem Reads.bind_refused {next : α → Parser Rule β} (left : grammar.Reads depth first input none) :
    grammar.Reads depth (.bind first next) input none := by
  rw [Reads, run_bind]
  exact Run.Reads.bind_refused left

theorem Reads.alt (left : grammar.Reads depth first input (some found)) :
    grammar.Reads depth (.alt first second) input (some found) := by
  rw [Reads, run_alt]
  exact Run.Reads.alt left

theorem Reads.alt_refused (left : grammar.Reads depth first input none)
    (right : grammar.Reads depth second input result) : grammar.Reads depth (.alt first second) input result := by
  rw [Reads, run_alt]
  exact Run.Reads.alt_refused left right

theorem Reads.of_take {expected : CharClass} (reads : grammar.Reads depth (.take expected) input (some (c, tail))) :
    input = c :: tail ∧ expected.mem c = true := by
  rw [Reads, run_take] at reads
  exact Run.Reads.of_take reads

theorem Reads.of_symbol {symbol : Char} (reads : grammar.Reads depth (.take (.oneOf [symbol])) input (some (c, tail))) :
    input = symbol :: tail := by
  obtain ⟨rfl, member⟩ := reads.of_take
  have same : c = symbol := by simpa using member
  rw [same]

theorem Reads.of_map {f : α → β} (reads : grammar.Reads depth (.map f first) input (some (value, tail))) :
    ∃ inner, grammar.Reads depth first input (some (inner, tail)) ∧ f inner = value := by
  rw [Reads, run_map] at reads
  exact Run.Reads.of_map reads

theorem Reads.of_seq (reads : grammar.Reads depth (.seq first other) input (some ((value, next), tail))) :
    ∃ middle, grammar.Reads depth first input (some (value, middle)) ∧
      grammar.Reads depth other middle (some (next, tail)) := by
  rw [Reads, run_seq] at reads
  exact Run.Reads.of_seq reads

theorem Reads.of_bind {next : α → Parser Rule β}
    (reads : grammar.Reads depth (.bind first next) input (some (value, tail))) :
    ∃ earlier middle, grammar.Reads depth first input (some (earlier, middle)) ∧
      grammar.Reads depth (next earlier) middle (some (value, tail)) := by
  rw [Reads, run_bind] at reads
  exact Run.Reads.of_bind reads

theorem reads_literal (word rest : Text) : grammar.Reads depth (.literal word) (word ++ rest) (some (word, rest)) := by
  induction word with
  | nil => exact reads_ret [] rest
  | cons c word ih =>
    exact ((reads_symbol c (word ++ rest)).seq ih).map _

theorem Reads.of_literal {word : Text} (reads : grammar.Reads depth (.literal word) input (some (value, tail))) :
    input = word ++ tail := by
  induction word generalizing input value with
  | nil => exact congrArg Prod.snd (Option.some.inj ((reads_ret [] input).unique reads))
  | cons c word ih =>
    obtain ⟨⟨first, others⟩, both, _⟩ := reads.of_map
    obtain ⟨middle, taken, later⟩ := both.of_seq
    obtain rfl := Reads.of_symbol taken
    obtain rfl := ih later
    rfl

theorem reads_string (word : String) (rest : Text) :
    grammar.Reads depth (.string word) (word.toList ++ rest) (some (word, rest)) := by
  have reads : grammar.Reads depth (.string word) (word.toList ++ rest) (some (String.ofList word.toList, rest)) :=
    (reads_literal word.toList rest).map String.ofList
  rwa [String.ofList_toList] at reads

theorem Reads.of_string {word : String} (reads : grammar.Reads depth (.string word) input (some (value, tail))) :
    input = word.toList ++ tail := by
  obtain ⟨_, literal, _⟩ := reads.of_map
  exact literal.of_literal

theorem Reads.rule {name : Rule α} (body : grammar.Reads depth (grammar.body name) input result) :
    grammar.Reads (depth + 1) (.rule name) input result := by
  rw [Reads, run_rule]
  exact body

end

theorem apply_reads {grammar : Grammar Rule} {parser : Parser Rule α}
    (reads : grammar.Reads (grammar.limit input) parser input result) :
    ∃ reply, grammar.apply parser input = some reply ∧ reply.reading = result :=
  Option.map_eq_some_iff.mp reads

theorem apply_eq_ok_iff {grammar : Grammar Rule} {parser : Parser Rule α} {value : α} :
    (∃ trace, grammar.apply parser input = some ⟨trace, .ok ⟨tail, value⟩⟩) ↔
      grammar.Reads (grammar.limit input) parser input (some (value, tail)) :=
  Run.reads_some_iff.symm

theorem parseAll_of_reads {grammar : Grammar Rule} {parser : Parser Rule α} {value : α}
    (reads : grammar.Reads (grammar.limit input) parser input (some (value, tail))) :
    grammar.parseAll parser input = some (complete (.ok ⟨tail, value⟩)) := by
  obtain ⟨trace, ran⟩ := apply_eq_ok_iff.mpr reads
  exact Option.map_eq_some_iff.mpr ⟨_, ran, rfl⟩

/-- The whole text is parsed exactly where all of it is read. -/
theorem parseAll_eq_ok_iff {grammar : Grammar Rule} {parser : Parser Rule α} {value : α} :
    grammar.parseAll parser input = some (.ok value) ↔
      grammar.Reads (grammar.limit input) parser input (some (value, [])) := by
  constructor
  · intro parsed
    obtain ⟨⟨trace, outcome⟩, ran, completed⟩ := Option.map_eq_some_iff.mp parsed
    cases outcome with
    | error refusal => cases completed
    | ok success =>
      obtain ⟨tail, found⟩ := success
      cases tail with
      | nil =>
        cases completed
        exact apply_eq_ok_iff.mp ⟨trace, ran⟩
      | cons c tail => cases completed
  · exact parseAll_of_reads

end Grammar
end Backtrack
