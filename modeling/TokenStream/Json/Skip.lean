import TokenStream.Json.Quotation
import TokenStream.Json.Numeral

namespace TokenStream.Json

inductive Bracket where
  | array
  | object
deriving Repr, DecidableEq

namespace Bracket

def closing : Bracket → Char
  | .array => ']'
  | .object => '}'

/-- The fault when the text stops behind an item. -/
def openCause : Bracket → Cause
  | .array => .arrayOpen
  | .object => .objectOpen

/-- The fault when an item is followed by neither a comma nor the closing bracket. -/
def separatorCause : Bracket → Cause
  | .array => .noCommaOrBracket
  | .object => .noCommaOrBrace

end Bracket

def skipScalar : Reader Unit := do
  match ← Reader.peek with
  | none => Reader.failAtNext .valueMissing
  | some 'n' =>
      Reader.drop
      Reader.word ['u', 'l', 'l']
  | some 't' =>
      Reader.drop
      Reader.word ['r', 'u', 'e']
  | some 'f' =>
      Reader.drop
      Reader.word ['a', 'l', 's', 'e']
  | some '"' =>
      Reader.drop
      Reader.skipString
  | some '-' =>
      Reader.drop
      let _ ← Reader.numeral .malformedNumber
  | some c =>
      if isDigit c then
        let _ ← Reader.numeral .malformedNumber
      else Reader.failAtNext .noValue

theorem skipScalar_shrinks : skipScalar.Shrinks := by
  have word (letters : List Char) : (do Reader.drop; Reader.word letters).Shrinks :=
    Reader.Shrinks.drop.bind fun _ => Reader.Shrinks.word letters
  have number : (do let _ ← Reader.numeral .malformedNumber).Shrinks :=
    (Reader.Shrinks.numeral _).bind fun _ => Reader.Shrinks.pure ()
  refine Reader.Shrinks.peek.bind fun next => ?_
  split
  · exact Reader.Shrinks.failAtNext _
  · exact word _
  · exact word _
  · exact word _
  · exact Reader.Shrinks.drop.bind fun _ => Reader.Shrinks.skipString
  · exact Reader.Shrinks.drop.bind fun _ => number
  · split
    · exact number
    · exact Reader.Shrinks.failAtNext _

/-- Passes over the name of a member and the colon, from behind the opening mark. -/
def skipName : Reader Unit := do
  Reader.skipString
  Reader.colon

theorem skipName_shrinks : skipName.Shrinks :=
  Reader.Shrinks.skipString.bind fun _ => Reader.Shrinks.colon

/-- What is looked for while a value is passed over. -/
inductive Stage where
  /-- What may follow an opening bracket: an item or the closing bracket. -/
  | opened
  | name
  | value
  /-- What may follow a value: a comma or the closing bracket. -/
  | separator
deriving Repr, DecidableEq

/-- The stages in the order in which they may follow each other without taking text. -/
def Stage.rank : Stage → Nat
  | .opened => 2
  | .name | .value => 1
  | .separator => 0

/-- What an item inside the bracket starts with. -/
def Bracket.item : Bracket → Stage
  | .array => .value
  | .object => .name

theorem Bracket.rank_item (bracket : Bracket) : bracket.item.rank = 1 := by
  cases bracket <;> rfl

theorem length_le_of_skipBlanks {text rest : List Char} {c : Char}
    (found : text.dropWhile Reader.isBlank = c :: rest) : rest.length + 1 ≤ text.length := by
  have shorter := (List.dropWhile_suffix (l := text) Reader.isBlank).length_le
  rwa [found, List.length_cons] at shorter

/-- Passes over what is left of a value inside the given brackets, the innermost one first. -/
def skip (stage : Stage) (brackets : List Bracket) (text : List Char) :
    Except Failure (List Char) :=
  match stage, brackets with
  | .separator, [] => .ok text
  | .separator, bracket :: outer =>
      match _found : text.dropWhile Reader.isBlank with
      | [] => failAt bracket.openCause [] 1
      | c :: rest =>
          if c = ',' then skip bracket.item (bracket :: outer) rest
          else if c = bracket.closing then skip .separator outer rest
          else failAt bracket.separatorCause (c :: rest) 1
  | .opened, [] => .ok text
  | .opened, bracket :: outer =>
      match _found : text.dropWhile Reader.isBlank with
      | [] => failAt bracket.openCause [] 1
      | c :: rest =>
          if c = bracket.closing then skip .separator outer rest
          else skip bracket.item (bracket :: outer) (c :: rest)
  | .name, brackets =>
      match _found : text.dropWhile Reader.isBlank with
      | [] => failAt .objectOpen [] 1
      | c :: rest =>
          if c = '"' then
            match _read : skipName rest with
            | .error failure => .error failure
            | .ok ((), behind) => skip .value brackets behind
          else failAt .nameNotString (c :: rest) 1
  | .value, brackets =>
      match _found : text.dropWhile Reader.isBlank with
      | [] => failAt .valueMissing [] 1
      | c :: rest =>
          if c = '[' then skip .opened (.array :: brackets) rest
          else if c = '{' then skip .opened (.object :: brackets) rest
          else
            match _read : skipScalar (c :: rest) with
            | .error failure => .error failure
            | .ok ((), behind) => skip .separator brackets behind
termination_by 3 * text.length + stage.rank
decreasing_by
  all_goals have shorter := length_le_of_skipBlanks _found
  · rw [bracket.rank_item]
    simp only [Stage.rank]
    omega
  · simp only [Stage.rank]
    omega
  · simp only [Stage.rank]
    omega
  · rw [bracket.rank_item]
    simp only [Stage.rank, List.length_cons]
    omega
  · have behindShorter := skipName_shrinks _ _ _ _read
    simp only [Stage.rank]
    omega
  · simp only [Stage.rank]
    omega
  · simp only [Stage.rank]
    omega
  · have behindShorter := skipScalar_shrinks _ _ _ _read
    simp only [Stage.rank, List.length_cons] at behindShorter ⊢
    omega

theorem skip_length {stage : Stage} {brackets : List Bracket} {text left : List Char}
    (done : skip stage brackets text = .ok left) : left.length ≤ text.length := by
  fun_induction skip stage brackets text with
  | case1 => cases done; exact Nat.le_refl _
  | case2 => cases done
  | case3 text bracket outer rest found ih =>
      have shorter := length_le_of_skipBlanks found
      have later := ih done
      omega
  | case4 text bracket outer rest found noComma ih =>
      have shorter := length_le_of_skipBlanks found
      have later := ih done
      omega
  | case5 => cases done
  | case6 => cases done; exact Nat.le_refl _
  | case7 => cases done
  | case8 text bracket outer rest found ih =>
      have shorter := length_le_of_skipBlanks found
      have later := ih done
      omega
  | case9 text bracket outer c rest found noEnd ih =>
      have shorter := length_le_of_skipBlanks found
      have later := ih done
      simp only [List.length_cons] at later
      omega
  | case10 => cases done
  | case11 => cases done
  | case12 text brackets rest behind read found ih =>
      have shorter := length_le_of_skipBlanks found
      have nameShorter := skipName_shrinks _ _ _ read
      have later := ih done
      omega
  | case13 => cases done
  | case14 => cases done
  | case15 text brackets rest found ih =>
      have shorter := length_le_of_skipBlanks found
      have later := ih done
      omega
  | case16 text brackets rest found noArray ih =>
      have shorter := length_le_of_skipBlanks found
      have later := ih done
      omega
  | case17 => cases done
  | case18 text brackets c rest found noArray noObject behind read ih =>
      have shorter := length_le_of_skipBlanks found
      have scalarShorter := skipScalar_shrinks _ _ _ read
      have later := ih done
      simp only [List.length_cons] at scalarShorter
      omega

namespace Reader

/-- Passes over a value of any depth, since its open brackets are kept in a list. -/
def skipValue : Reader Unit :=
  ofSkip (skip .value [])

end Reader

end TokenStream.Json
