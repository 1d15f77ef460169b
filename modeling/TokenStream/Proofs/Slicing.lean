import TokenStream.Proofs.Progress

namespace TokenStream

open TokenStream.Text

/-! No slice is taken outside of the text.

A scanner may keep nothing but its place and slice the text there each time it looks at a
character.  A slice fails if one of its ends is no character boundary.  `Course` is such a
scanner, with every slice checked, and it remembers the places where it has been.  Started
where a scanner can stand, it comes by such places only, no slice fails, and it finds what
the scanner finds (`Scanner.slices_inside`).
-/

/-- A place where a scanner of the text can stand: a boundary, with the lines counted right. -/
structure Position.Stands (text : List Char) (place : Position) : Prop where
  boundary : Boundary text place.offset
  inside : place.offset ≤ byteLength text
  exact : place = Position.ofOffset text place.offset

theorem Position.stands_walk (before rest : List Char) :
    (Position.start.walk before).Stands (before ++ rest) := by
  have width := Position.walk_start_offset before
  refine ⟨⟨before, rest, rfl, width.symm⟩, ?_, ?_⟩
  · rw [width, byteLength_append]
    exact Nat.le_add_right _ _
  · rw [width, Position.ofOffset_boundary]

/-- The place of a scanner and the places that it has left, the last one first. -/
structure Course where
  place : Position
  passed : List Position
deriving Repr, DecidableEq

namespace Course

def start (place : Position) : Course :=
  { place, passed := [] }

/-- The next character, from the slice of all that is ahead. -/
def first? (text : List Char) (course : Course) : Option (Option Char) :=
  (slice? text course.place.offset (byteLength text)).map List.head?

def move (course : Course) (c : Char) : Course :=
  { place := course.place.advance c, passed := course.place :: course.passed }

theorem offset_lt_of_first? {text : List Char} {course : Course} {c : Char}
    (found : course.first? text = some (some c)) : course.place.offset < byteLength text := by
  obtain ⟨word, sliced, ahead⟩ := Option.map_eq_some_iff.mp found
  obtain ⟨before, after, split, offset, _⟩ := slice?_eq_some_iff.mp sliced
  obtain ⟨later, word⟩ := List.head?_eq_some_iff.mp ahead
  have width := c.utf8Size_pos
  rw [split, ← offset, word]
  simp only [byteLength_append, byteLength_cons]
  omega

def bump? (text : List Char) (course : Course) : Option Course := do
  match ← course.first? text with
  | none => return course
  | some c => return course.move c

/-- Passes characters that satisfy the predicate, with a look at each of them. -/
def eatWhile? (text : List Char) (p : Char → Bool) (course : Course) : Option Course :=
  match _found : course.first? text with
  | none => none
  | some none => some course
  | some (some c) => if p c then (course.move c).eatWhile? text p else some course
termination_by byteLength text - course.place.offset
decreasing_by
  have inside := offset_lt_of_first? _found
  have width := c.utf8Size_pos
  simp only [move, Position.advance_offset]
  omega

theorem eatWhile?_of_end {text : List Char} {course : Course} (p : Char → Bool)
    (ended : course.first? text = some none) : course.eatWhile? text p = some course := by
  rw [eatWhile?]
  split
  all_goals simp_all

theorem eatWhile?_of_first {text : List Char} {course : Course} {c : Char} (p : Char → Bool)
    (found : course.first? text = some (some c)) :
    course.eatWhile? text p = if p c then (course.move c).eatWhile? text p else some course := by
  rw [eatWhile?]
  split
  all_goals simp_all

/-- Passes the token that starts with `c`, which is next. -/
def pass? (text : List Char) (c : Char) (course : Course) : Option Course :=
  match CharClass.of c with
  | .special | .other | .whiteSpace => course.bump? text
  | .digit => course.eatWhile? text isDecimalDigit
  | .identifierStart => do (← course.bump? text).eatWhile? text isIdentifierContinue
  | .operator => course.eatWhile? text isOperator

def next? (text : List Char) (course : Course) : Option (Token × Course) := do
  let ahead ← course.eatWhile? text isWhiteSpace
  match ← ahead.first? text with
  | none => return (Token.endAt ahead.place, ahead)
  | some c =>
      let behind ← ahead.pass? text c
      let word ← slice? text ahead.place.offset behind.place.offset
      return ({ kind := TokenKind.startedBy (CharClass.of c), text := word,
                span := { start := ahead.place, stop := behind.place } }, behind)

/-- The course is between two parts of the text, and has been at no place where none can stand. -/
structure Between (before rest : List Char) (course : Course) : Prop where
  place : course.place = Position.start.walk before
  passed : ∀ place ∈ course.passed, place.Stands (before ++ rest)

theorem Between.stands (between : Between before rest course) :
    course.place.Stands (before ++ rest) := by
  rw [between.place]
  exact Position.stands_walk before rest

theorem Between.offset (between : Between before rest course) :
    course.place.offset = byteLength before := by
  rw [between.place, Position.walk_start_offset]

theorem Between.first? (between : Between before rest course) :
    course.first? (before ++ rest) = some rest.head? := by
  rw [Course.first?, between.offset, slice?_rest]
  rfl

/-- One character further on it is all the same. -/
theorem Between.move (between : Between before (c :: rest) course) :
    Between (before ++ [c]) rest (course.move c) := by
  have whole : before ++ [c] ++ rest = before ++ c :: rest := by simp
  constructor
  · rw [Course.move, between.place, Position.walk_append]
    rfl
  · rw [whole]
    intro place member
    obtain same | earlier := List.mem_cons.mp member
    · rw [same]
      exact between.stands
    · exact between.passed place earlier

theorem Between.bump? (between : Between before (c :: rest) course) :
    course.bump? (before ++ c :: rest) = some (course.move c) := by
  simp [Course.bump?, between.first?]

theorem Between.eatWhile? (between : Between before rest course) (p : Char → Bool) :
    ∃ after, course.eatWhile? (before ++ rest) p = some after ∧
      Between (before ++ rest.takeWhile p) (rest.dropWhile p) after := by
  induction rest generalizing before course with
  | nil =>
      have ended := between.first?
      exact ⟨course, eatWhile?_of_end p ended, by simpa using between⟩
  | cons c rest ih =>
      have found := between.first?
      rw [eatWhile?_of_first p found]
      by_cases goesOn : p c = true
      · obtain ⟨after, eaten, between'⟩ := ih between.move
        rw [if_pos goesOn]
        refine ⟨after, by simpa using eaten, by simpa [goesOn] using between'⟩
      · rw [if_neg goesOn]
        exact ⟨course, rfl, by simpa [goesOn] using between⟩

theorem takeWhile_never (text : List Char) :
    text.takeWhile (fun _ => false) = [] ∧ text.dropWhile (fun _ => false) = text := by
  cases text with
  | nil => exact ⟨rfl, rfl⟩
  | cons => exact ⟨rfl, rfl⟩

/-- What passes a token comes out behind the longest one. -/
theorem Between.pass? (between : Between before (c :: rest) course) :
    ∃ after, course.pass? (before ++ c :: rest) c = some after ∧
      Between (before ++ c :: rest.takeWhile (TokenKind.startedBy (CharClass.of c)).continuesWith)
        (rest.dropWhile (TokenKind.startedBy (CharClass.of c)).continuesWith) after := by
  have contains := CharClass.contains_of c
  have whole : before ++ [c] ++ rest = before ++ c :: rest := by simp
  -- A run that looks at `c` again passes it, since `c` is in the set that is its class.
  have eats (p : Char → Bool) (starts : p c = true) :
      ∃ after, course.eatWhile? (before ++ c :: rest) p = some after ∧
        Between (before ++ c :: rest.takeWhile p) (rest.dropWhile p) after := by
    simpa [starts] using between.eatWhile? p
  cases found : CharClass.of c with
  | whiteSpace | special | other =>
      refine ⟨course.move c, ?_, ?_⟩
      · rw [Course.pass?, found]
        exact between.bump?
      · change Between (before ++ c :: rest.takeWhile fun _ => false)
          (rest.dropWhile fun _ => false) (course.move c)
        rw [(takeWhile_never rest).1, (takeWhile_never rest).2]
        exact between.move
  | digit =>
      rw [found] at contains
      rw [Course.pass?, found]
      exact eats isDecimalDigit contains
  | identifierStart =>
      obtain ⟨after, eaten, between'⟩ := between.move.eatWhile? isIdentifierContinue
      rw [whole] at eaten
      have behind : Between (before ++ c :: rest.takeWhile isIdentifierContinue)
          (rest.dropWhile isIdentifierContinue) after := by
        simpa using between'
      refine ⟨after, ?_, behind⟩
      rw [Course.pass?, found]
      simpa [between.bump?] using eaten
  | operator =>
      rw [found] at contains
      rw [Course.pass?, found]
      exact eats isOperator contains

end Course

namespace Scanner

theorem pass_between (before rest : List Char) (p : Char → Bool) :
    (between before rest).pass p = between (before ++ rest.takeWhile p) (rest.dropWhile p) := by
  simp [pass, between, Position.walk_append]

theorem take_between (before after : List Char) (c : Char) :
    (between before (c :: after)).take c after =
      (Token.placed before (TokenKind.startedBy (CharClass.of c))
          (c :: after.takeWhile (TokenKind.startedBy (CharClass.of c)).continuesWith),
        between (before ++ c :: after.takeWhile (TokenKind.startedBy (CharClass.of c)).continuesWith)
          (after.dropWhile (TokenKind.startedBy (CharClass.of c)).continuesWith)) := by
  simp [take, between, Token.placed, Position.walk_append]

end Scanner

namespace Course

/-- A call with every slice checked finds what a call of the scanner finds. -/
theorem Between.next? (between : Between before rest course) :
    ∃ after passed ahead, before ++ rest = passed ++ ahead ∧ Between passed ahead after ∧
      course.next? (before ++ rest) = some ((Scanner.between before rest).next.1, after) ∧
      (Scanner.between before rest).next.2 = Scanner.between passed ahead := by
  obtain ⟨skipped, eaten, ready⟩ := between.eatWhile? isWhiteSpace
  have whole : before ++ rest.takeWhile isWhiteSpace ++ rest.dropWhile isWhiteSpace =
      before ++ rest := by simp
  have look := ready.first?
  have place := ready.place
  rw [whole] at look
  rw [Scanner.next, Scanner.pass_between]
  generalize rest.takeWhile isWhiteSpace = blanks at *
  cases found : rest.dropWhile isWhiteSpace with
  | nil =>
      rw [found] at ready look whole
      refine ⟨skipped, before ++ blanks, [], whole.symm, ready, ?_, rfl⟩
      simp [Course.next?, eaten, look, Scanner.between, place]
  | cons c later =>
      rw [found] at ready look whole
      obtain ⟨after, taken, behind⟩ := ready.pass?
      have word := slice?_append (before ++ blanks)
        (c :: later.takeWhile (TokenKind.startedBy (CharClass.of c)).continuesWith)
        (later.dropWhile (TokenKind.startedBy (CharClass.of c)).continuesWith)
      rw [List.cons_append, List.takeWhile_append_dropWhile, whole, ← ready.offset,
        ← behind.offset] at word
      rw [whole] at taken
      have found : course.next? (before ++ rest) = some (
          { kind := TokenKind.startedBy (CharClass.of c)
            text := c :: later.takeWhile (TokenKind.startedBy (CharClass.of c)).continuesWith
            span := { start := skipped.place, stop := after.place } }, after) := by
        simp [Course.next?, eaten, look, taken, word]
      have same := Scanner.take_between (before ++ blanks) later c
      refine ⟨after, _, _, ?_, behind, ?_, congrArg Prod.snd same⟩
      · simp [← whole]
      · rw [found, place, behind.place]
        exact congrArg (fun found => some (found.1, after)) same.symm

end Course

/-- The token is what stands between two places of the text, the first not behind the second. -/
structure Token.Inside (text : List Char) (token : Token) : Prop where
  start : token.span.start.Stands text
  stop : token.span.stop.Stands text
  ordered : token.span.start.offset ≤ token.span.stop.offset
  length : token.span.start.offset + token.span.length = token.span.stop.offset
  word : slice? text token.span.start.offset token.span.stop.offset = some token.text

theorem Token.inside_placed (before : List Char) (kind : TokenKind) (word after : List Char) :
    (Token.placed before kind word).Inside (before ++ (word ++ after)) := by
  have start : (Token.placed before kind word).span.start.offset = byteLength before :=
    Position.walk_start_offset before
  have stop : (Token.placed before kind word).span.stop.offset = byteLength (before ++ word) :=
    Position.walk_start_offset (before ++ word)
  have ordered : (Token.placed before kind word).span.start.offset ≤
      (Token.placed before kind word).span.stop.offset := by
    rw [start, stop, byteLength_append]
    exact Nat.le_add_right _ _
  refine ⟨Position.stands_walk before (word ++ after), ?_, ordered, Nat.add_sub_of_le ordered, ?_⟩
  · rw [← List.append_assoc]
    exact Position.stands_walk (before ++ word) after
  · rw [start, stop]
    exact slice?_append before word after

namespace Scanner

/-- A scanner for the whole text, or for what is behind an offset. -/
def startingAt (text : List Char) : Option Nat → Scanner
  | none => ofText text
  | some offset => resume text offset

theorem onBoundary_startingAt (text : List Char) (start : Option Nat) :
    (startingAt text start).OnBoundary text := by
  cases start with
  | none => exact onBoundary_ofText text
  | some offset => exact onBoundary_resume text offset

theorem OnBoundary.skip {text : List Char} {scanner : Scanner} (stands : scanner.OnBoundary text)
    (count : Nat) : (scanner.skip count).OnBoundary text := by
  induction count with
  | zero => exact stands
  | succ count ih => exact ih.next

/-- What a call finds is a part of the text, the empty one behind it if there is no more. -/
theorem next_placed (before rest : List Char) :
    ∃ passed kind word after, before ++ rest = passed ++ (word ++ after) ∧
      (between before rest).next.1 = Token.placed passed kind word := by
  obtain blank | ⟨blanks, kind, word, after, split, step⟩ := blank_or_reads rest
  · refine ⟨before ++ rest, .endOfInput, [], [], by simp, ?_⟩
    rw [next_between_blank blank]
    simp [Token.atEndOf, Token.placed, Token.endAt, Span.point]
  · subst split
    refine ⟨before ++ blanks, kind, word, after, by simp, ?_⟩
    rw [next_between_reads step]

theorem OnBoundary.stands {text : List Char} {scanner : Scanner}
    (stands : scanner.OnBoundary text) : scanner.position.Stands text := by
  obtain ⟨before, rest, split, same⟩ := stands
  rw [split, same]
  exact Position.stands_walk before rest

theorem OnBoundary.inside_next {text : List Char} {scanner : Scanner}
    (stands : scanner.OnBoundary text) : scanner.next.1.Inside text := by
  obtain ⟨before, rest, split, same⟩ := stands
  obtain ⟨passed, kind, word, after, split', placed⟩ := next_placed before rest
  rw [split, same, split', placed]
  exact Token.inside_placed passed kind word after

theorem OnBoundary.exists_course {text : List Char} {scanner : Scanner}
    (stands : scanner.OnBoundary text) :
    ∃ course, (Course.start scanner.position).next? text = some (scanner.next.1, course) ∧
      course.place = scanner.next.2.position ∧
      ∀ place ∈ course.place :: course.passed, place.Stands text := by
  obtain ⟨before, rest, split, same⟩ := stands
  have ready : Course.Between before rest (Course.start scanner.position) :=
    ⟨by rw [same]; rfl, by simp [Course.start]⟩
  obtain ⟨course, behind, ahead, split', behind', found, reached⟩ := ready.next?
  rw [← same] at found reached
  subst split
  refine ⟨course, found, ?_, ?_⟩
  · rw [reached, behind'.place]
    rfl
  · intro place member
    rw [split']
    obtain last | earlier := List.mem_cons.mp member
    · rw [last]
      exact behind'.stands
    · exact behind'.passed place earlier

/-- However often a scanner has been called, it stands at a character boundary with the lines counted
right, and so it does at each character that the next call looks at.  No slice that the call takes
fails, and the token it finds ends no earlier than it starts. -/
theorem slices_inside (text : List Char) (start : Option Nat) (count : Nat) :
    let scanner := (startingAt text start).skip count
    scanner.position.Stands text ∧
      (∃ course, (Course.start scanner.position).next? text = some (scanner.next.1, course) ∧
        course.place = scanner.next.2.position ∧
        ∀ place ∈ course.place :: course.passed, place.Stands text) ∧
      scanner.next.1.Inside text := by
  have stands := (onBoundary_startingAt text start).skip count
  exact ⟨stands.stands, stands.exists_course, stands.inside_next⟩

end Scanner

/-- A scan from an offset with every step checked, from the place of the offset on. -/
def nextToken? (text : List Char) (offset : Nat) : Option (Token × Nat) := do
  let place ← Position.ofOffset? text offset
  let (token, course) ← (Course.start place).next? text
  return (token, course.place.offset)

theorem nextToken?_eq_some (text : List Char) (offset : Nat) :
    nextToken? text offset = some (nextToken text offset) := by
  obtain ⟨course, found, place, _⟩ := (Scanner.onBoundary_resume text offset).exists_course
  change (Course.start (Position.ofOffset text offset)).next? text = _ at found
  simp only [nextToken?, Position.ofOffset?_eq_some, Option.bind_eq_bind, Option.bind_some, found]
  rw [place]
  rfl

/-- A scan that looks at each character before it passes it, and so passes the first character of a number
or of an operator only for being a digit or an operator, fails nowhere and moves on all the same. -/
theorem nextToken?_moves_on (text : List Char) (offset : Nat) :
    ∃ token reached, nextToken? text offset = some (token, reached) ∧
      MovesOn text offset token reached :=
  ⟨_, _, nextToken?_eq_some text offset, movesOn_next text offset⟩

end TokenStream
