import ApiSchema.Proofs.IdentifierCharacters
import ApiSchema.Proofs.WrittenRules

/-! Cutting a text into tokens piece by piece. A word that the lexer once made it makes again wherever the
word ends before a blank or a mark of a printed type, and such marks are tokens of their own. -/

namespace ApiSchema.Source

open Text

def marks : List Char := [',', ':', '<', '>']

def breaks : List Char := ' ' :: marks

def Break (rest : List Char) : Prop := ∀ c, rest.head? = some c → c ∈ breaks

/-- Nothing comes next that a letter could make a quoted literal of. -/
def NoQuoteNext (rest : List Char) : Prop := ∀ c, rest.head? = some c → c ≠ '"' ∧ c ≠ '#' ∧ c.toNat ≠ 0x27

theorem breaks_apart : ∀ c ∈ breaks, c ≠ '"' ∧ c ≠ '#' ∧ c.toNat ≠ 0x27 := by
  simp [breaks, marks]

theorem breaks_narrow : ∀ c ∈ breaks, c.toNat < 0x30 ∨ 0x39 < c.toNat ∧ c.toNat < 0x41 := by
  simp [breaks, marks]

theorem not_part_of_break {c : Char} (mark : c ∈ breaks) : isIdentifierPart c = false := by
  refine Bool.eq_false_iff.mpr fun part => ?_
  have wide := part_ge part
  have narrow := breaks_narrow c mark
  omega

theorem break_nil : Break [] := by simp [Break]

theorem break_cons {c : Char} (mark : c ∈ breaks) (rest : List Char) : Break (c :: rest) := by
  rintro _ ⟨⟩
  exact mark

def WordNext (chars : List Char) : Prop := ∃ c more, chars = c :: more ∧ isIdentifierStart c = true

structure Word (chars : List Char) : Prop where
  start : WordNext chars
  parts : ∀ c ∈ chars, isIdentifierPart c = true

section Words

variable {cs word rest : List Char} {text : String} {c : Char}

theorem WordNext.append (wordNext : WordNext cs) (rest : List Char) : WordNext (cs ++ rest) := by
  obtain ⟨c, more, rfl, start⟩ := wordNext
  exact ⟨c, more ++ rest, rfl, start⟩

theorem noQuote_of_part (part : isIdentifierPart c = true) : c ≠ '"' ∧ c ≠ '#' ∧ c.toNat ≠ 0x27 := by
  have least := (part_ge part).1
  refine ⟨?_, ?_, by omega⟩
  · rintro rfl
    revert least
    decide
  · rintro rfl
    revert least
    decide

theorem noQuote_append (parts : ∀ c ∈ word, isIdentifierPart c = true) (ends : Break rest) :
    NoQuoteNext (word ++ rest) := by
  cases word with
  | nil => exact fun c here => breaks_apart c (ends c here)
  | cons first more =>
    rintro _ ⟨⟩
    exact noQuote_of_part (parts first List.mem_cons_self)

/-- So is what comes after a letter of the word. -/
theorem noQuote_tail (parts : ∀ c ∈ word, isIdentifierPart c = true) (ends : Break rest) {tail : List Char}
    (letter : isIdentifierPart c = true) (same : word ++ rest = c :: tail) : NoQuoteNext tail := by
  cases word with
  | nil =>
    have mark : c ∈ breaks := ends c (by simp [show rest = c :: tail from same])
    cases letter.symm.trans (not_part_of_break mark)
  | cons first more =>
    cases same
    exact noQuote_append (fun c member => parts c (List.mem_cons_of_mem _ member)) ends

theorem takeWord?_word (taken : takeWord? cs = some (word, rest)) : Word word := by
  refine ⟨?_, takeWord?_parts taken⟩
  cases cs with
  | nil => cases taken
  | cons c more =>
    simp only [takeWord?, List.span_eq_takeWhile_dropWhile] at taken
    split at taken
    · next start =>
      cases taken
      exact ⟨c, _, List.takeWhile_cons_of_pos (isIdentifierPart_of_start start), start⟩
    · cases taken

theorem span_break (ends : Break rest) : rest.span isIdentifierPart = ([], rest) := by
  rw [List.span_eq_takeWhile_dropWhile]
  cases rest with
  | nil => rfl
  | cons c more =>
    have mark := not_part_of_break (ends c rfl)
    rw [List.takeWhile_cons_of_neg (by simp [mark]), List.dropWhile_cons_of_neg (by simp [mark])]

theorem Word.taken (is : Word word) (ends : Break rest) : takeWord? (word ++ rest) = some (word, rest) := by
  have stop := span_break ends
  rw [List.span_eq_takeWhile_dropWhile] at stop
  have cut : (word ++ rest).span isIdentifierPart = (word, rest) := by
    rw [List.span_eq_takeWhile_dropWhile, List.takeWhile_append_of_pos is.parts,
      List.dropWhile_append_of_pos is.parts, (Prod.mk.inj stop).1, (Prod.mk.inj stop).2, List.append_nil]
  obtain ⟨c, more, rfl, start⟩ := is.start
  rw [List.cons_append] at cut ⊢
  simp only [takeWord?, start, if_true, cut]

/-- A word is plain or has the mark of raw ones. -/
theorem Lexed.plain_or_raw (lexed : Lexed text) : Word text.toList ∨ ∃ word, Word word ∧
    text = String.ofList ('r' :: '#' :: word) ∧
      ["_", "super", "self", "Self", "crate"].contains (String.ofList word) = false := by
  obtain ⟨cs, rest, read⟩ := lexed
  unfold identifier? at read
  split at read
  · obtain ⟨⟨word, after⟩, taken, read⟩ := Option.bind_eq_some_iff.mp read
    dsimp only at read
    split at read
    · cases read
    · next allowed =>
      cases read
      exact .inr ⟨word, takeWord?_word taken, rfl, by simpa using allowed⟩
  · obtain ⟨⟨word, after⟩, taken, same⟩ := Option.map_eq_some_iff.mp read
    cases same
    exact .inl (by simpa using takeWord?_word taken)

theorem Lexed.identifier?_again (lexed : Lexed text) (ends : Break rest) :
    identifier? (text.toList ++ rest) = some (text, rest) := by
  rcases lexed.plain_or_raw with is | ⟨word, is, rfl, allowed⟩
  · have noQuote := is.parts
    unfold identifier?
    split
    · next more raw =>
      have hash := noQuote_tail is.parts ends (by decide) raw '#' rfl
      exact absurd rfl hash.2.1
    · rw [is.taken ends]
      simp
  · simp only [String.toList_ofList, List.cons_append, identifier?, is.taken ends]
    exact if_neg (by simpa using allowed)

end Words

section Literals

variable {word rest cs : List Char} {c : Char}

theorem raw?_quiet (noQuote : NoQuoteNext cs) : raw? cs = none := by
  cases cs with
  | nil => rfl
  | cons c more =>
    obtain ⟨quote, hash, _⟩ := noQuote c rfl
    have cut : (c :: more).span (· = '#') = ([], c :: more) := by
      rw [List.span_eq_takeWhile_dropWhile, List.takeWhile_cons_of_neg (by simpa using hash),
        List.dropWhile_cons_of_neg (by simpa using hash)]
    simp only [raw?, cut]
    split
    · next same => exact absurd (List.cons.inj same).1 quote
    · rfl

theorem hexValue?_letter {digit : Nat} (letter : c.isDigit = false) (value : hexValue? c = some digit) :
    10 ≤ digit := by
  unfold hexValue? at value
  split at value
  · next decimal =>
    have same : c.isDigit = true := by
      simp only [Char.isDigit, Bool.and_eq_true, decide_eq_true_eq]
      exact decimal
    cases letter.symm.trans same
  · split at value
    · cases value
      omega
    · split at value
      · cases value
        omega
      · cases value

theorem number?_start (start : isIdentifierStart c = true) : number? (c :: rest) = none := by
  have least := start_ge start
  have letter : c.isDigit = false := by
    simp [Char.isDigit, UInt32.le_iff_toNat_le]
    omega
  have zero : c ≠ '0' := by
    rintro rfl
    revert letter
    decide
  have float : floatChars? (c :: rest) = none := by simp [floatChars?, letter]
  have digits : baseDigits? 10 false [] (c :: rest) = none := by
    rw [baseDigits?]
    split
    · rfl
    · cases value : hexValue? c with
      | none => rfl
      | some digit =>
        have high := hexValue?_letter letter value
        simp [letter, show ¬digit < 10 by omega]
  have integer : integerChars? (c :: rest) = none := by
    unfold integerChars?
    split
    · next same => exact absurd (List.cons.inj same).1 zero
    · next same => exact absurd (List.cons.inj same).1 zero
    · next same => exact absurd (List.cons.inj same).1 zero
    · exact digits
  simp [number?, float, integer]

theorem literal?_word (start : isIdentifierStart c = true) (parts : ∀ c ∈ word, isIdentifierPart c = true)
    (ends : Break rest) : literal? (c :: (word ++ rest)) = none := by
  have own := noQuote_of_part (isIdentifierPart_of_start start)
  have noQuote := noQuote_append parts ends
  have further {tail : List Char} (same : word ++ rest = 'r' :: tail) : raw? tail = none :=
    raw?_quiet (noQuote_tail parts ends (by decide) same)
  unfold literal?
  split
  · next same => exact absurd (List.cons.inj same).1 own.1
  · next same =>
    obtain ⟨rfl, rfl⟩ := List.cons.inj same
    rw [raw?_quiet noQuote]
    rfl
  · next same => exact absurd rfl (noQuote '"' (by rw [(List.cons.inj same).2]; rfl)).1
  · next same =>
    rw [further (List.cons.inj same).2]
    rfl
  · next same => exact absurd rfl (noQuote '"' (by rw [(List.cons.inj same).2]; rfl)).1
  · next same =>
    rw [further (List.cons.inj same).2]
    rfl
  · next q _ _ _ same => exact if_neg (noQuote q (by rw [(List.cons.inj same).2]; rfl)).2.2
  · next same =>
    obtain ⟨rfl, rfl⟩ := List.cons.inj same
    rw [if_neg own.2.2, number?_start start]
  · next same => cases same

theorem literal?_raw (is : Word word) : literal? ('r' :: '#' :: (word ++ rest)) = none := by
  obtain ⟨c, more, rfl, start⟩ := is.start
  have own := noQuote_of_part (isIdentifierPart_of_start start)
  have cut : ('#' :: c :: (more ++ rest)).span (· = '#') = (['#'], c :: (more ++ rest)) := by
    rw [List.span_eq_takeWhile_dropWhile, List.takeWhile_cons_of_pos (by simp),
      List.takeWhile_cons_of_neg (by simpa using own.2.1), List.dropWhile_cons_of_pos (by simp),
      List.dropWhile_cons_of_neg (by simpa using own.2.1)]
  simp only [List.cons_append, literal?, raw?, cut]
  split
  · next same => exact absurd (List.cons.inj same).1 own.1
  · rfl

theorem quoteLetters_word (parts : ∀ c ∈ word, isIdentifierPart c = true) (ends : Break rest) :
    quoteLetters (c :: (word ++ rest)) = false := by
  have noQuote := noQuote_append parts ends
  refine Bool.eq_false_iff.mpr fun quoted => ?_
  obtain ⟨mark, member, front⟩ := List.any_eq_true.mp quoted
  obtain ⟨tail, same⟩ := List.isPrefixOf_iff_prefix.mp front
  have further {d : Char} {tail : List Char} (same : 'r' :: d :: tail = word ++ rest) :=
    noQuote_tail parts ends (by decide) same.symm d rfl
  have next {d : Char} {tail : List Char} (same : d :: tail = word ++ rest) := noQuote d (same ▸ rfl)
  simp only [List.mem_cons, List.not_mem_nil, or_false] at member
  rcases member with rfl | rfl | rfl | rfl | rfl | rfl | rfl | rfl | rfl | rfl
  all_goals have behind := (List.cons.inj same).2
  · exact (next behind).1 rfl
  · exact (next behind).2.1 rfl
  · exact (next behind).2.1 rfl
  · exact (next behind).1 rfl
  · exact (next behind).2.2 rfl
  · exact (further behind).1 rfl
  · exact (further behind).2.1 rfl
  · exact (next behind).1 rfl
  · exact (further behind).1 rfl
  · exact (further behind).2.1 rfl

theorem quoteLetters_raw (is : Word word) : quoteLetters ('r' :: '#' :: (word ++ rest)) = false := by
  obtain ⟨c, more, rfl, start⟩ := is.start
  have own := noQuote_of_part (isIdentifierPart_of_start start)
  simp [quoteLetters, List.isPrefixOf, own.1.symm, own.2.1.symm]

end Literals

section Pieces

variable {cs rest : List Char} {text : String} {c : Char} {tokens : List Token}

theorem puncts_apart : ("~!@#$%^&*-=+|;:,<.>/?".toList.all fun c => !isIdentifierStart c) = true := by decide

theorem not_punct_of_start (start : isIdentifierStart c = true) : isPunct c = false := by
  refine Bool.eq_false_iff.mpr fun punct => ?_
  rcases Bool.or_eq_true_iff.mp punct with listed | quote
  · have apart := List.all_eq_true.mp puncts_apart c (List.contains_iff_mem.mp listed)
    simp [start] at apart
  · exact (noQuote_of_part (isIdentifierPart_of_start start)).2.2 (of_decide_eq_true quote)

theorem delimiter?_start (start : isIdentifierStart c = true) : delimiter? c = none := by
  unfold delimiter?
  split
  all_goals first | rfl | (revert start; decide)

theorem not_slash_of_start (start : isIdentifierStart c = true) : c ≠ '/' := by
  rintro rfl
  revert start
  decide

theorem docText?_start (start : isIdentifierStart c = true) : docText? (c :: cs) = none := by
  have slash := not_slash_of_start start
  unfold docText?
  split
  all_goals first | rfl | (next same => exact absurd (List.cons.inj same).1 slash)

theorem punctFollows_start (start : isIdentifierStart c = true) : punctFollows (c :: cs) = false := by
  have slash := not_slash_of_start start
  unfold punctFollows
  split
  · next same => exact absurd (List.cons.inj same).1 slash
  · next same => exact absurd (List.cons.inj same).1 slash
  · next same =>
    obtain ⟨rfl, _⟩ := List.cons.inj same
    exact not_punct_of_start start
  · next same => cases same

theorem skipGaps_start (start : isIdentifierStart c = true) (fuel : Nat) :
    skipGaps (fuel + 1) (c :: cs) = c :: cs := by
  have slash := not_slash_of_start start
  unfold skipGaps
  split
  all_goals first
    | next same => exact absurd (List.cons.inj same).1 slash
    | skip
  · next same =>
    obtain ⟨rfl, rfl⟩ := List.cons.inj same
    rw [isGap_of_part (isIdentifierPart_of_start start)]
    rfl
  · next same => cases same

theorem nextTokens?_start (start : isIdentifierStart c = true) (plain : literal? (c :: cs) = none)
    (unquoted : quoteLetters (c :: cs) = false) (read : identifier? (c :: cs) = some (text, rest)) :
    nextTokens? (c :: cs) = some ([.ident text], rest) := by
  simp only [nextTokens?, docText?_start start, delimiter?_start start, plain, punctFollows_start start,
    unquoted, read]
  rfl

/-- The lexer makes the word again of its characters. -/
theorem Lexed.nextTokens?_again (lexed : Lexed text) (ends : Break rest) :
    ∃ c more, text.toList = c :: more ∧ isIdentifierStart c = true ∧
      nextTokens? (c :: more ++ rest) = some ([.ident text], rest) := by
  have read := lexed.identifier?_again ends
  rcases lexed.plain_or_raw with is | ⟨word, is, rfl, _⟩
  · obtain ⟨c, more, same, start⟩ := is.start
    have parts : ∀ c ∈ more, isIdentifierPart c = true := fun c member => is.parts c (by simp [same, member])
    refine ⟨c, more, same, start, ?_⟩
    rw [same] at read
    exact nextTokens?_start start (literal?_word start parts ends) (quoteLetters_word parts ends) read
  · refine ⟨'r', '#' :: word, by simp, by decide, ?_⟩
    rw [String.toList_ofList] at read
    exact nextTokens?_start (by decide) (literal?_raw is) (quoteLetters_raw is) read

theorem tokensFrom?_front (solid : ∀ fuel, skipGaps (fuel + 1) (c :: cs) = c :: cs)
    (front : nextTokens? (c :: cs) = some (tokens, rest)) (fuel : Nat) :
    tokensFrom? (fuel + 1) (c :: cs) = (tokensFrom? fuel rest).map (tokens ++ ·) := by
  rw [tokensFrom?, solid]
  simp only [front, Option.bind_eq_bind, Option.bind_some]
  cases tokensFrom? fuel rest <;> rfl

/-- Before the rest the characters are cut into the tokens, none of which is a delimiter. -/
structure Cuts (cs : List Char) (tokens : List Token) (rest : List Char) : Prop where
  cut : ∀ fuel, tokensFrom? (fuel + tokens.length) (cs ++ rest) = (tokensFrom? fuel rest).map (tokens ++ ·)
  size : tokens.length ≤ cs.length
  flat : ∀ token ∈ tokens, ∀ d, token ≠ .opening d ∧ token ≠ .closing d

theorem cuts_nil (rest : List Char) : Cuts [] [] rest where
  cut fuel := by simp
  size := Nat.le_refl _
  flat _ member := by cases member

theorem Cuts.append {more : List Char} {others : List Token} (first : Cuts cs tokens (more ++ rest))
    (second : Cuts more others rest) : Cuts (cs ++ more) (tokens ++ others) rest where
  cut fuel := by
    have sum : fuel + (tokens ++ others).length = fuel + others.length + tokens.length := by
      rw [List.length_append]
      omega
    rw [sum, List.append_assoc, first.cut, second.cut, Option.map_map]
    simp [Function.comp_def]
  size := by
    have := first.size
    have := second.size
    simp only [List.length_append]
    omega
  flat token member := by
    rcases List.mem_append.mp member with early | late
    · exact first.flat token early
    · exact second.flat token late

theorem cuts_word (lexed : Lexed text) (ends : Break rest) : Cuts text.toList [.ident text] rest := by
  obtain ⟨c, more, same, start, front⟩ := lexed.nextTokens?_again ends
  rw [same]
  exact ⟨tokensFrom?_front (skipGaps_start start) front, by simp, by simp⟩

theorem cuts_blank (rest : List Char) : Cuts [' '] [] rest where
  cut fuel := by
    cases fuel with
    | zero => rfl
    | succ fuel =>
      have gap : skipGaps (([' '] ++ rest).length + 1) ([' '] ++ rest) = skipGaps (rest.length + 1) rest := rfl
      have skipped : tokensFrom? (fuel + 1) ([' '] ++ rest) = tokensFrom? (fuel + 1) rest := by
        simp only [tokensFrom?, gap]
      rw [List.length_nil, Nat.add_zero, skipped]
      simp
  size := Nat.zero_le _
  flat _ member := by cases member

theorem nextTokens?_mark (mark : c ∈ marks) (rest : List Char) :
    nextTokens? (c :: rest) = some ([.punct c (punctFollows rest)], rest) := by
  simp only [marks, List.mem_cons, List.not_mem_nil, or_false] at mark
  rcases mark with rfl | rfl | rfl | rfl
  all_goals rfl

theorem skipGaps_mark (mark : c ∈ marks) (fuel : Nat) (rest : List Char) :
    skipGaps (fuel + 1) (c :: rest) = c :: rest := by
  simp only [marks, List.mem_cons, List.not_mem_nil, or_false] at mark
  rcases mark with rfl | rfl | rfl | rfl
  all_goals rfl

theorem punctFollows_mark (mark : c ∈ marks) (rest : List Char) :
    punctFollows (c :: rest) = true := by
  simp only [marks, List.mem_cons, List.not_mem_nil, or_false] at mark
  rcases mark with rfl | rfl | rfl | rfl
  all_goals rfl

theorem cuts_mark (mark : c ∈ marks) (rest : List Char) :
    Cuts [c] [.punct c (punctFollows rest)] rest := by
  exact ⟨tokensFrom?_front (fun fuel => skipGaps_mark mark fuel rest) (nextTokens?_mark mark rest),
    Nat.le_refl _, by simp⟩

/-- A mark before a word stands alone. -/
theorem cuts_mark_word (mark : c ∈ marks) (wordNext : WordNext rest) :
    Cuts [c] [.punct c false] rest := by
  obtain ⟨d, more, rfl, start⟩ := wordNext
  have cut := cuts_mark mark (d :: more)
  rwa [punctFollows_start start] at cut

/-- A comma before a blank stands alone. -/
theorem cuts_comma (rest : List Char) : Cuts [',', ' '] [.punct ',' false] rest := by
  have comma : Cuts [','] [.punct ',' (punctFollows (' ' :: rest))] ([' '] ++ rest) :=
    cuts_mark (by simp [marks]) _
  exact comma.append (cuts_blank rest)

/-- What is cut before an angle that closes it is cut in angles. -/
theorem cuts_angles (wordNext : WordNext cs) (inside : Cuts cs tokens ('>' :: rest)) :
    Cuts ('<' :: (cs ++ ['>'])) (.punct '<' false :: (tokens ++ [.punct '>' (punctFollows rest)])) rest := by
  have angle : Cuts ['<'] [.punct '<' false] (cs ++ ['>'] ++ rest) :=
    cuts_mark_word (by simp [marks]) ((wordNext.append _).append _)
  exact angle.append (inside.append (cuts_mark (by simp [marks]) rest))

theorem balanced_flat (flat : ∀ token ∈ tokens, ∀ d, token ≠ .opening d ∧ token ≠ .closing d) :
    balanced [] tokens = true := by
  induction tokens with
  | nil => rfl
  | cons token rest ih =>
    obtain ⟨here, later⟩ := List.forall_mem_cons.mp flat
    cases token with
    | opening d => exact absurd rfl (here d).1
    | closing d => exact absurd rfl (here d).2
    | ident | lifetime | punct | literal => exact ih later

theorem startRanges_apart : ∀ range ∈ identifierStartRanges.toList, ¬(range.1 ≤ 0xfeff ∧ 0xfeff ≤ range.2) := by
  decide +kernel

theorem not_byteOrderMark_of_start (start : isIdentifierStart c = true) : c.toNat ≠ 0xfeff := by
  intro mark
  rw [isIdentifierStart, mark, if_neg (by decide)] at start
  obtain ⟨range, member, within⟩ := inRanges_iff.mp start
  exact startRanges_apart range member within

/-- A text that is cut to its end is those tokens. -/
theorem Cuts.tokenize? (cuts : Cuts text.toList tokens []) (wordNext : WordNext text.toList) :
    tokenize? text = some tokens := by
  have all : tokensFrom? (text.toList.length + 1) text.toList = some tokens := by
    have size := cuts.size
    have cut := cuts.cut (text.toList.length - tokens.length + 1)
    have sum : text.toList.length - tokens.length + 1 + tokens.length = text.toList.length + 1 := by omega
    have last : tokensFrom? (text.toList.length - tokens.length + 1) [] = some [] := rfl
    rw [sum, List.append_nil, last] at cut
    simpa using cut
  obtain ⟨c, more, same, start⟩ := wordNext
  rw [same] at all
  simp only [Source.tokenize?, same, not_byteOrderMark_of_start start, if_false, all, Option.bind_eq_bind,
    Option.bind_some, balanced_flat cuts.flat, if_true]

end Pieces

section Paths

def pathTokens : List String → List Token
  | [] => []
  | name :: rest => .ident name :: rest.flatMap fun name => [.punct ':' true, .punct ':' false, .ident name]

theorem joinSegments_cons (name : String) (rest : List String) : (joinSegments (name :: rest)).toList =
    name.toList ++ rest.flatMap fun name => ':' :: ':' :: name.toList := by
  induction rest generalizing name with
  | nil => simp [joinSegments]
  | cons second more ih =>
    have step : joinSegments (name :: second :: more) = name ++ "::" ++ joinSegments (second :: more) := by
      simp [joinSegments]
    rw [step, String.toList_append, String.toList_append, ih]
    simp

variable {segments : List String} {rest : List Char}

theorem break_segments (ends : Break rest) :
    Break (segments.flatMap (fun name => ':' :: ':' :: name.toList) ++ rest) := by
  cases segments with
  | nil => exact ends
  | cons name more => exact break_cons (by simp [breaks, marks]) _

theorem Lexed.wordNext {text : String} (lexed : Lexed text) : WordNext text.toList := by
  obtain ⟨c, more, same, start, _⟩ := lexed.nextTokens?_again break_nil
  exact ⟨c, more, same, start⟩

theorem isBlank_of_part {c : Char} (part : isIdentifierPart c = true) : isBlank c = false := by
  have gap := isGap_of_part part
  simp only [isGap, Bool.or_eq_false_iff] at gap
  exact gap.1.1

theorem Lexed.solid {text : String} (lexed : Lexed text) : ∀ c ∈ text.toList, isBlank c = false ∧ c ≠ '.' := by
  have solid {c : Char} (part : isIdentifierPart c = true) : isBlank c = false ∧ c ≠ '.' := by
    refine ⟨isBlank_of_part part, ?_⟩
    rintro rfl
    revert part
    decide
  rcases lexed.plain_or_raw with is | ⟨word, is, rfl, _⟩
  · exact fun c member => solid (is.parts c member)
  · rw [String.toList_ofList]
    refine List.forall_mem_cons.mpr ⟨by decide, List.forall_mem_cons.mpr ⟨by decide, ?_⟩⟩
    exact fun c member => solid (is.parts c member)

theorem cuts_separator (wordNext : WordNext rest) :
    Cuts [':', ':'] [.punct ':' true, .punct ':' false] rest := by
  have first : Cuts [':'] [.punct ':' (punctFollows (':' :: rest))] ([':'] ++ rest) :=
    cuts_mark (by simp [marks]) _
  rw [punctFollows_mark (by simp [marks])] at first
  exact first.append (cuts_mark_word (by simp [marks]) wordNext)

theorem cuts_segments (words : ∀ name ∈ segments, Lexed name) (ends : Break rest) :
    Cuts (segments.flatMap fun name => ':' :: ':' :: name.toList)
      (segments.flatMap fun name => [.punct ':' true, .punct ':' false, .ident name]) rest := by
  induction segments with
  | nil => exact cuts_nil rest
  | cons name more ih =>
    obtain ⟨here, later⟩ := List.forall_mem_cons.mp words
    have word := (cuts_word here (break_segments ends)).append (ih later)
    exact (cuts_separator (here.wordNext.append _ |>.append rest)).append word

/-- A path of words is cut into its words with the marks between them. -/
theorem cuts_path (words : ∀ name ∈ segments, Lexed name) (ends : Break rest) :
    Cuts (joinSegments segments).toList (pathTokens segments) rest := by
  cases segments with
  | nil => exact cuts_nil rest
  | cons name more =>
    obtain ⟨here, later⟩ := List.forall_mem_cons.mp words
    rw [joinSegments_cons]
    exact (cuts_word here (break_segments ends)).append (cuts_segments later ends)

end Paths

end ApiSchema.Source
