import ApiSchema.Annotation
import ApiSchema.Proofs.IdentifierCharacters
import Mathlib.Data.List.Nodup
import Mathlib.Tactic.IntervalCases

/-! Names in snake case and the other cases. A name made of words of small letters and digits, each with
a letter first and something after it, can be told back from what the camel and the Pascal strategy make
of it: in front of every capital stands a small letter or a digit, so that is where the snake strategy
puts an underscore. Members with different names of this kind have different properties. -/

namespace ApiSchema

namespace Naming

open Text

def isWordPart (c : Char) : Bool := c.isLower || c.isDigit

def isWord : List Char → Bool
  | first :: rest => first.isLower && !rest.isEmpty && rest.all isWordPart
  | [] => false

/-- The name is one word or several, joined by single underscores. -/
def SnakeCased (name : String) : Prop :=
  ∃ words : List (List Char), words ≠ [] ∧ (∀ word ∈ words, isWord word) ∧
    name.toList = ['_'].intercalate words

section Characters

def letters : List Char := "abcdefghijklmnopqrstuvwxyz".toList

def digits : List Char := "0123456789".toList

theorem mem_letters {c : Char} (lower : c.isLower) : c ∈ letters := by
  obtain ⟨low, high⟩ := lower_bounds lower
  rw [← Char.ofNat_toNat c]
  generalize c.toNat = n at low high
  interval_cases n <;> decide

theorem mem_digits {c : Char} (digit : c.isDigit) : c ∈ digits := by
  obtain ⟨low, high⟩ := digit_bounds digit
  rw [← Char.ofNat_toNat c]
  generalize c.toNat = n at low high
  interval_cases n <;> decide

/-- The strategies take a part of a word as it is. -/
theorem plain_of_part {c : Char} (part : isWordPart c) :
    isSeparator c = false ∧ c ≠ '-' ∧ c ≠ '_' ∧ isUppercase c = false ∧
      (isLowercase c || c.isDigit) = true := by
  have member : c ∈ letters ++ digits := by
    rcases Bool.or_eq_true_iff.mp part with lower | digit
    · exact List.mem_append_left _ (mem_letters lower)
    · exact List.mem_append_right _ (mem_digits digit)
  have all : ((letters ++ digits).all fun c => decide (isSeparator c = false ∧ c ≠ '-' ∧ c ≠ '_' ∧
      isUppercase c = false ∧ (isLowercase c || c.isDigit) = true)) = true := by
    decide
  exact of_decide_eq_true (List.all_eq_true.mp all c member)

/-- A small letter has a capital, whose small letter it is. -/
theorem capital_of_letter {c : Char} (lower : c.isLower) :
    lowerChar c = [c] ∧ upperChar c = [c.toUpper] ∧ isUppercase c.toUpper = true ∧
      lowerChar c.toUpper = [c] ∧ c.toUpper ≠ '-' := by
  have all : (letters.all fun c => decide (lowerChar c = [c] ∧ upperChar c = [c.toUpper] ∧
      isUppercase c.toUpper = true ∧ lowerChar c.toUpper = [c] ∧ c.toUpper ≠ '-')) = true := by
    decide
  exact of_decide_eq_true (List.all_eq_true.mp all c (mem_letters lower))

theorem part_of_letter {c : Char} (lower : c.isLower) : isWordPart c := by
  simp [isWordPart, lower]

end Characters

section Words

def capitalized : List Char → List Char
  | first :: rest => first.toUpper :: rest
  | [] => []

theorem isWord_cons {word : List Char} (isword : isWord word) : ∃ first second rest,
    word = first :: second :: rest ∧ first.isLower ∧ ∀ c ∈ second :: rest, isWordPart c := by
  match word with
  | [] | [_] => simp [isWord] at isword
  | first :: second :: rest =>
    simp only [isWord, Bool.and_eq_true, List.all_eq_true] at isword
    exact ⟨first, second, rest, rfl, isword.1.1, isword.2⟩

theorem intercalate_cons (word : List Char) (words : List (List Char)) :
    ['_'].intercalate (word :: words) = word ++ words.flatMap ('_' :: ·) := by
  induction words generalizing word with
  | nil => simp
  | cons next rest ih => simp [ih next]

variable {upperFirst : Bool} {word more : List Char} {words : List (List Char)}

theorem camelFrom_parts (parts : ∀ c ∈ word, isWordPart c) :
    camelFrom upperFirst true false (word ++ more) = word ++ camelFrom upperFirst true false more := by
  induction word with
  | nil => rfl
  | cons c rest ih =>
    obtain ⟨here, later⟩ := List.forall_mem_cons.mp parts
    obtain ⟨plain, _⟩ := plain_of_part here
    simp [camelFrom, plain, ih later]

/-- Where a capital is due, a word gets one. -/
theorem camelFrom_capital (isword : isWord word) (started : Bool) :
    camelFrom upperFirst started true (word ++ more) =
      capitalized word ++ camelFrom upperFirst true false more := by
  obtain ⟨first, second, rest, rfl, lower, parts⟩ := isWord_cons isword
  obtain ⟨plain, _⟩ := plain_of_part (part_of_letter lower)
  obtain ⟨_, upper, _⟩ := capital_of_letter lower
  have after := @camelFrom_parts upperFirst (second :: rest) more parts
  simp only [List.cons_append] at after ⊢
  rw [camelFrom, plain, if_neg Bool.false_ne_true, if_pos rfl, upper, after]
  rfl

/-- The first word of a name in camel case stays as it is. -/
theorem camelFrom_first (isword : isWord word) :
    camelFrom upperFirst false false (word ++ more) = word ++ camelFrom upperFirst true false more := by
  obtain ⟨first, second, rest, rfl, lower, parts⟩ := isWord_cons isword
  obtain ⟨plain, _⟩ := plain_of_part (part_of_letter lower)
  obtain ⟨small, _⟩ := capital_of_letter lower
  have after := @camelFrom_parts upperFirst (second :: rest) more parts
  simp only [List.cons_append] at after ⊢
  rw [camelFrom, plain, if_neg Bool.false_ne_true, if_neg Bool.false_ne_true,
    if_neg Bool.false_ne_true, small, after]
  rfl

theorem camelFrom_words (each : ∀ word ∈ words, isWord word) :
    camelFrom upperFirst true false (words.flatMap ('_' :: ·)) = words.flatMap capitalized := by
  induction words with
  | nil => rfl
  | cons word rest ih =>
    obtain ⟨here, later⟩ := List.forall_mem_cons.mp each
    have capital := @camelFrom_capital upperFirst word (rest.flatMap ('_' :: ·)) here true
    simp only [List.flatMap_cons, List.cons_append]
    rw [camelFrom, if_pos (by decide), Bool.true_or, capital, ih later]

/-- After the parts of a word, what was read last and what was written last is one of them. -/
theorem snakeFrom_parts {c : Char} (parts : ∀ d ∈ c :: word, isWordPart d) (previous written : Option Char) :
    ∃ last, isWordPart last ∧ ∀ more, snakeFrom previous written (c :: word ++ more) =
      c :: word ++ snakeFrom (some last) (some last) more := by
  induction word generalizing c previous written with
  | nil =>
    have here := parts c List.mem_cons_self
    obtain ⟨_, dash, _, upper, _⟩ := plain_of_part here
    exact ⟨c, here, fun more => by simp [snakeFrom, dash, upper]⟩
  | cons d rest ih =>
    obtain ⟨here, later⟩ := List.forall_mem_cons.mp parts
    obtain ⟨_, dash, _, upper, _⟩ := plain_of_part here
    obtain ⟨last, part, same⟩ := ih later (some c) (some c)
    refine ⟨last, part, fun more => ?_⟩
    rw [List.cons_append, snakeFrom, if_neg dash, upper, if_neg Bool.false_ne_true, same]
    rfl

/-- A capital after a part of a word begins a new word, and one that stands first does not. -/
theorem snakeFrom_capital (isword : isWord word) {previous : Option Char}
    (before : ∀ c ∈ previous, isWordPart c) : ∃ last, isWordPart last ∧ ∀ more,
      snakeFrom previous previous (capitalized word ++ more) =
        (if previous.isSome then '_' :: word else word) ++ snakeFrom (some last) (some last) more := by
  obtain ⟨first, second, rest, rfl, lower, parts⟩ := isWord_cons isword
  obtain ⟨_, _, upper, small, dash⟩ := capital_of_letter lower
  have begins (next : Option Char) : (previous ≠ some '_' && beginsWord previous next) = previous.isSome := by
    cases previous with
    | none => rfl
    | some p =>
      obtain ⟨_, _, separate, capital, part⟩ := plain_of_part (before p rfl)
      simp [beginsWord, separate, part]
  -- the small letter of the capital is what is written last, with or without an underscore before it
  obtain ⟨last, part, same⟩ := snakeFrom_parts parts (some first.toUpper) (some first)
  refine ⟨last, part, fun more => ?_⟩
  rw [capitalized, List.cons_append, snakeFrom, if_neg dash, upper, if_pos rfl]
  dsimp only
  rw [begins, small]
  cases previous.isSome with
  | true => simpa using same more
  | false => simpa using same more

theorem snakeFrom_words (each : ∀ word ∈ words, isWord word) {last : Char} (part : isWordPart last) :
    snakeFrom (some last) (some last) (words.flatMap capitalized) = words.flatMap ('_' :: ·) := by
  induction words generalizing last with
  | nil => rfl
  | cons word rest ih =>
    obtain ⟨here, later⟩ := List.forall_mem_cons.mp each
    obtain ⟨next, part', same⟩ := @snakeFrom_capital word here (some last) (by simpa using part)
    rw [List.flatMap_cons, same, ih later part']
    rfl

end Words

section Names

variable {word : List Char} {words : List (List Char)}

theorem snakeChars_camelChars (each : ∀ w ∈ word :: words, isWord w) (upperFirst : Bool) :
    snakeChars (camelChars upperFirst (['_'].intercalate (word :: words))) =
      ['_'].intercalate (word :: words) := by
  obtain ⟨here, later⟩ := List.forall_mem_cons.mp each
  rw [intercalate_cons, snakeChars, camelChars]
  cases upperFirst with
  | true =>
    obtain ⟨last, part, same⟩ := @snakeFrom_capital word here none (by simp)
    rw [camelFrom_capital here, camelFrom_words later, same, snakeFrom_words later part]
    rfl
  | false =>
    obtain ⟨first, second, rest, rfl, lower, parts⟩ := isWord_cons here
    obtain ⟨last, part, same⟩ :=
      snakeFrom_parts (List.forall_mem_cons.mpr ⟨part_of_letter lower, parts⟩) none none
    rw [camelFrom_first here, camelFrom_words later, same, snakeFrom_words later part]

/-- The snake strategy gives back what the camel or the Pascal strategy has changed. -/
theorem SnakeCased.restored {name : String} (cased : SnakeCased name) {strategy : Naming}
    (capitals : strategy = camel ∨ strategy = pascal) : snake.apply (strategy.apply name) = name := by
  obtain ⟨words, some, each, spelled⟩ := cased
  obtain ⟨word, rest, rfl⟩ := List.exists_cons_of_ne_nil some
  have restored := snakeChars_camelChars each
  rw [← spelled] at restored
  rcases capitals with rfl | rfl
  · rw [apply, apply, String.toList_ofList, restored false, String.ofList_toList]
  · rw [apply, apply, String.toList_ofList, restored true, String.ofList_toList]

theorem SnakeCased.injective {a b : String} (first : SnakeCased a) (second : SnakeCased b) {strategy : Naming}
    (capitals : strategy = camel ∨ strategy = pascal) (same : strategy.apply a = strategy.apply b) : a = b := by
  rw [← first.restored capitals, same, second.restored capitals]

/-- The strategy by which members are named: that of the declaration's rule, or else of the run. -/
def Governs (strategy : Naming) (config : Config) (renameAll : Option String) : Prop :=
  (∃ rule, renameAll = some rule ∧ ofRule? rule = some strategy) ∨
    (config.naming = strategy ∧ ∀ rule, renameAll = some rule → ∀ name, rename? rule name = none)

theorem Governs.propertyName {strategy : Naming} {config : Config} {renameAll : Option String}
    (governs : Governs strategy config renameAll) {field : Field}
    (own : (field.tags.schemaValue? "rename").or field.tags.rename = none) :
    field.propertyName config renameAll = strategy.apply field.name := by
  rw [Field.propertyName, own]
  dsimp only
  rcases governs with ⟨rule, rfl, known⟩ | ⟨rfl, unknown⟩
  · simp [rename?, known]
  · cases renameAll with
    | none => rfl
    | some rule => simp [unknown rule rfl]

end Names

/-- For names in snake case the camel and the Pascal strategy can be taken back, so they make different
names of different ones. Let members without names of their own be named by one of them: if their names
are in snake case and all different, so are the names of their properties. -/
theorem capitals_lose_nothing :
    (∀ name, SnakeCased name →
      snake.apply (camel.apply name) = name ∧ snake.apply (pascal.apply name) = name) ∧
    ∀ strategy, strategy = camel ∨ strategy = pascal →
      (∀ a b, SnakeCased a → SnakeCased b → strategy.apply a = strategy.apply b → a = b) ∧
      ∀ (config : Config) (renameAll : Option String) (fields : List Field),
        Governs strategy config renameAll →
        (∀ field ∈ fields, SnakeCased field.name ∧
          (field.tags.schemaValue? "rename").or field.tags.rename = none) →
        (fields.map Field.name).Nodup →
        (fields.map fun field => field.propertyName config renameAll).Nodup := by
  refine ⟨fun name cased => ⟨cased.restored (.inl rfl), cased.restored (.inr rfl)⟩,
    fun strategy capitals => ⟨fun a b first second same => first.injective second capitals same, ?_⟩⟩
  intro config renameAll fields governs each distinct
  refine List.Nodup.map_on ?_ (List.Nodup.of_map _ distinct)
  intro a first b second same
  obtain ⟨cased, own⟩ := each a first
  obtain ⟨cased', own'⟩ := each b second
  rw [governs.propertyName own, governs.propertyName own'] at same
  exact List.inj_on_of_nodup_map distinct first second (cased.injective cased' capitals same)

def revisions : List Field :=
  [{ (default : Field) with name := "line2_at" }, { (default : Field) with name := "line2at_x1" }]

theorem capitals_lose_nothing_revisions :
    SnakeCased "line2_at" ∧ SnakeCased "line2at_x1" ∧
      snake.apply (pascal.apply "line2_at") = "line2_at" ∧
      (pascal.apply "line2_at" = pascal.apply "line2at_x1" → "line2_at" = "line2at_x1") ∧
      Governs pascal {} (some "PascalCase") ∧ (revisions.map Field.name).Nodup ∧
      (revisions.map fun field => field.propertyName {} (some "PascalCase")).Nodup := by
  have first : SnakeCased "line2_at" := ⟨["line2".toList, "at".toList], by decide, by decide, by decide⟩
  have second : SnakeCased "line2at_x1" := ⟨["line2at".toList, "x1".toList], by decide, by decide, by decide⟩
  have cased : ∀ field ∈ revisions, SnakeCased field.name ∧
      (field.tags.schemaValue? "rename").or field.tags.rename = none := by
    simp only [revisions, List.forall_mem_cons]
    exact ⟨⟨first, rfl⟩, ⟨second, rfl⟩, by simp⟩
  have governs : Governs pascal {} (some "PascalCase") := .inl ⟨"PascalCase", rfl, rfl⟩
  have distinct : (revisions.map Field.name).Nodup := by decide
  obtain ⟨injective, names⟩ := capitals_lose_nothing.2 pascal (.inr rfl)
  exact ⟨first, second, (capitals_lose_nothing.1 "line2_at" first).2, injective _ _ first second, governs,
    distinct, names {} _ revisions governs cased distinct⟩

end Naming

end ApiSchema
