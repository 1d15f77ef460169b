import TokenStream.Json.Skip
import TokenStream.Text.Quoted

namespace TokenStream.Json

namespace Reader

/-- Fails because the value that comes next is not the expected one.  Scalars are taken first, so
that a fault inside them is reported instead. -/
def unexpected (expected : String) : Reader α := do
  match ← peek with
  | some 'n' =>
      drop
      word ['u', 'l', 'l']
      fail (.wrongType "null" expected)
  | some 't' =>
      drop
      word ['r', 'u', 'e']
      fail (.wrongType "boolean `true`" expected)
  | some 'f' =>
      drop
      word ['a', 'l', 's', 'e']
      fail (.wrongType "boolean `false`" expected)
  | some '-' =>
      drop
      let found ← number true
      fail (.wrongType found.describe expected)
  | some '"' =>
      drop
      let found ← string
      fail (.wrongType ("string " ++ String.ofList (Text.quoted found)) expected)
  | some '[' => fail (.wrongType "sequence" expected)
  | some '{' => fail (.wrongType "map" expected)
  | next =>
      if next.any isDigit then
        let found ← number false
        fail (.wrongType found.describe expected)
      else failAtNext .noValue

def boolean : Reader Bool := do
  match ← peekToken with
  | none => failAtNext .valueMissing
  | some 't' =>
      drop
      word ['r', 'u', 'e']
      return true
  | some 'f' =>
      drop
      word ['a', 'l', 's', 'e']
      return false
  | some _ => unexpected "a boolean"

def null : Reader Unit := do
  match ← peekToken with
  | none => failAtNext .valueMissing
  | some 'n' =>
      drop
      word ['u', 'l', 'l']
  | some _ => unexpected "unit"

/-- Null, or a value. -/
def optional (reader : Reader α) : Reader (Option α) := do
  match ← peekToken with
  | some 'n' =>
      drop
      word ['u', 'l', 'l']
      return none
  | _ => return some (← reader)

/-- Takes a name, from behind its opening mark, and looks it up. -/
def chosen (choices : List (String × α)) : Reader α := do
  let name ← string
  match choices.find? fun (known, _) => known.toList == name with
  | some (_, value) => return value
  | none => fail (.unknownChoice (String.ofList name) (choices.map (·.1)))

/-- Takes the object form of a choice, from behind its opening bracket. -/
def chosenMember (choices : List (String × α)) : Reader α := do
  match ← peekToken with
  | none => failAtNext .valueMissing
  | some '"' =>
      drop
      let value ← chosen choices
      colon
      null
      match ← peekToken with
      | none => fail .objectOpen
      | some '}' =>
          drop
          return value
      | some _ => fail .noValue
  | some '}' => failAtNext .noValue
  | some _ => failAtNext .nameNotString

/-- Takes a choice: its name, or an object that binds its name to null. -/
def choice (choices : List (String × α)) : Reader α := do
  match ← peekToken with
  | none => failAtNext .valueMissing
  | some '"' =>
      drop
      chosen choices
  | some '{' =>
      drop
      chosenMember choices
  | some _ => failAtNext .noValue

theorem Shrinks.number (negative : Bool) : Shrinks (number negative) := by
  refine (Shrinks.numeral _).bind fun numeral => ?_
  split
  · exact Shrinks.pure _
  · intro text value left read
    cases read

theorem Shrinks.unexpected (expected : String) : Shrinks (unexpected expected : Reader α) := by
  refine Shrinks.peek.bind fun next => ?_
  split
  · exact Shrinks.drop.bind fun _ => (Shrinks.word _).bind fun _ => Shrinks.fail _
  · exact Shrinks.drop.bind fun _ => (Shrinks.word _).bind fun _ => Shrinks.fail _
  · exact Shrinks.drop.bind fun _ => (Shrinks.word _).bind fun _ => Shrinks.fail _
  · exact Shrinks.drop.bind fun _ => (Shrinks.number _).bind fun _ => Shrinks.fail _
  · exact Shrinks.drop.bind fun _ => Shrinks.string.bind fun _ => Shrinks.fail _
  · exact Shrinks.fail _
  · exact Shrinks.fail _
  · split
    · exact (Shrinks.number _).bind fun _ => Shrinks.fail _
    · exact Shrinks.failAtNext _

theorem Shrinks.boolean : Shrinks boolean := by
  refine Shrinks.peekToken.bind fun next => ?_
  split
  · exact Shrinks.failAtNext _
  · exact Shrinks.drop.bind fun _ => (Shrinks.word _).bind fun _ => Shrinks.pure _
  · exact Shrinks.drop.bind fun _ => (Shrinks.word _).bind fun _ => Shrinks.pure _
  · exact Shrinks.unexpected _

theorem Shrinks.null : Shrinks null := by
  refine Shrinks.peekToken.bind fun next => ?_
  split
  · exact Shrinks.failAtNext _
  · exact Shrinks.drop.bind fun _ => Shrinks.word _
  · exact Shrinks.unexpected _

theorem Shrinks.optional {reader : Reader α} (shrinks : reader.Shrinks) :
    (optional reader).Shrinks := by
  refine Shrinks.peekToken.bind fun next => ?_
  split
  · exact Shrinks.drop.bind fun _ => (Shrinks.word _).bind fun _ => Shrinks.pure _
  · exact shrinks.bind fun _ => Shrinks.pure _

theorem Shrinks.chosen (choices : List (String × α)) : (chosen choices).Shrinks := by
  refine Shrinks.string.bind fun name => ?_
  split
  · exact Shrinks.pure _
  · exact Shrinks.fail _

theorem Shrinks.chosenMember (choices : List (String × α)) :
    (chosenMember choices).Shrinks := by
  refine Shrinks.peekToken.bind fun next => ?_
  split
  · exact Shrinks.failAtNext _
  · refine Shrinks.drop.bind fun _ => (Shrinks.chosen _).bind fun _ =>
      Shrinks.colon.bind fun _ => Shrinks.null.bind fun _ => Shrinks.peekToken.bind fun next => ?_
    split
    · exact Shrinks.fail _
    · exact Shrinks.drop.bind fun _ => Shrinks.pure _
    · exact Shrinks.fail _
  · exact Shrinks.failAtNext _
  · exact Shrinks.failAtNext _

theorem Shrinks.choice (choices : List (String × α)) : (choice choices).Shrinks := by
  refine Shrinks.peekToken.bind fun next => ?_
  split
  · exact Shrinks.failAtNext _
  · exact Shrinks.drop.bind fun _ => Shrinks.chosen _
  · exact Shrinks.drop.bind fun _ => Shrinks.chosenMember _
  · exact Shrinks.failAtNext _

end Reader

/-- A field of a record that is built up in `σ`. -/
structure Field (σ : Type) where
  name : String
  given : σ → Bool
  read : σ → Reader σ
  shrinks : ∀ record, (read record).Shrinks

namespace Reader

variable {σ : Type}

/-- Fails because a field comes twice.  The place is behind the blanks that follow its name, and
behind the closing bracket if one follows. -/
def repeated (name : String) : Reader α := do
  match ← peekToken with
  | some '}' => failAtNext (.repeatedField name)
  | _ => fail (.repeatedField name)

/-- Takes a member, from behind the opening mark of its name. -/
def member (fields : List (Field σ)) (record : σ) : Reader σ := do
  let name ← string
  match fields.find? fun field => field.name.toList == name with
  | none =>
      colon
      skipValue
      return record
  | some field =>
      if field.given record then repeated field.name
      else
        colon
        field.read record

theorem Shrinks.skipValue : Shrinks skipValue :=
  Shrinks.ofSkip fun _ _ read => skip_length read

theorem Shrinks.repeated (name : String) : Shrinks (repeated name : Reader α) := by
  refine Shrinks.peekToken.bind fun next => ?_
  split
  · exact Shrinks.failAtNext _
  · exact Shrinks.fail _

theorem Shrinks.member (fields : List (Field σ)) (record : σ) :
    (member fields record).Shrinks := by
  refine Shrinks.string.bind fun name => ?_
  split
  · exact Shrinks.colon.bind fun _ => Shrinks.skipValue.bind fun _ => Shrinks.pure _
  · rename_i field found
    split
    · exact Shrinks.repeated _
    · exact Shrinks.colon.bind fun _ => field.shrinks record

/-- Takes the members of an object and its closing bracket, from behind the opening mark of the
first name. -/
def members (fields : List (Field σ)) (record : σ) (text : List Char) :
    Except Failure (σ × List Char) :=
  match _read : member fields record text with
  | .error failure => .error failure
  | .ok (record, rest) =>
      match _found : rest.dropWhile isBlank with
      | [] => failAt .objectOpen [] 1
      | '}' :: behind => .ok (record, behind)
      | ',' :: more =>
          match _next : more.dropWhile isBlank with
          | [] => failAt .valueMissing [] 1
          | '"' :: name => members fields record name
          | '}' :: behind => failAt .commaBeforeEnd ('}' :: behind) 1
          | other => failAt .nameNotString other 1
      | other => failAt .noCommaOrBrace other 1
termination_by text.length
decreasing_by
  have memberShorter := Shrinks.member fields _ _ _ _ _read
  have commaShorter := length_le_of_skipBlanks _found
  have nameShorter := length_le_of_skipBlanks _next
  omega

theorem members_length {fields : List (Field σ)} {record read : σ} {text left : List Char}
    (done : members fields record text = .ok (read, left)) : left.length ≤ text.length := by
  fun_induction members fields record text with
  | case1 => cases done
  | case2 => cases done
  | case3 record text record' rest found behind closing =>
      cases done
      have memberShorter := Shrinks.member fields _ _ _ _ found
      have closingShorter := length_le_of_skipBlanks closing
      omega
  | case4 => cases done
  | case5 record text record' rest found more comma name next ih =>
      have memberShorter := Shrinks.member fields _ _ _ _ found
      have commaShorter := length_le_of_skipBlanks comma
      have nameShorter := length_le_of_skipBlanks next
      have later := ih done
      omega
  | case6 => cases done
  | case7 => cases done
  | case8 => cases done

/-- Takes the object form of a record, from behind its opening bracket. -/
def object (fields : List (Field σ)) (record : σ) : Reader σ := do
  match ← peekToken with
  | none => failAtNext .objectOpen
  | some '}' =>
      drop
      return record
  | some '"' =>
      drop
      members fields record
  | some _ => failAtNext .nameNotString

/-- Takes the closing bracket of an array that has no room for more items. -/
def closeArray (record : σ) : Reader σ := do
  match ← peekToken with
  | none => failAtNext .arrayOpen
  | some ']' =>
      drop
      return record
  | some ',' =>
      drop
      match ← peekToken with
      | some ']' => failAtNext .commaBeforeEnd
      | _ => failAtNext .textAfterEnd
  | some _ => failAtNext .textAfterEnd

/-- Takes the items of an array, one for each field, behind an item before them.  The array may
end early. -/
def laterItems (fields : List (Field σ)) (record : σ) : Reader σ :=
  match fields with
  | [] => closeArray record
  | field :: fields => do
      match ← peekToken with
      | none => failAtNext .arrayOpen
      | some ']' =>
          drop
          return record
      | some ',' =>
          drop
          match ← peekToken with
          | none => failAtNext .valueMissing
          | some ']' => failAtNext .commaBeforeEnd
          | some _ => laterItems fields (← field.read record)
      | some _ => failAtNext .noCommaOrBracket

/-- Takes the array form of a record, from behind its opening bracket. -/
def items (fields : List (Field σ)) (record : σ) : Reader σ :=
  match fields with
  | [] => closeArray record
  | field :: fields => do
      match ← peekToken with
      | none => failAtNext .arrayOpen
      | some ']' =>
          drop
          return record
      | some _ => laterItems fields (← field.read record)

/-- Takes a record, starting from the one given: an object of its fields in any order, between others
that nobody asked for, or an array of its fields in order. -/
def record (expected : String) (fields : List (Field σ)) (start : σ) : Reader σ := do
  match ← peekToken with
  | none => failAtNext .valueMissing
  | some '{' =>
      drop
      object fields start
  | some '[' =>
      drop
      items fields start
  | some _ => unexpected expected

theorem Shrinks.object (fields : List (Field σ)) (record : σ) :
    (object fields record).Shrinks := by
  refine Shrinks.peekToken.bind fun next => ?_
  split
  · exact Shrinks.failAtNext _
  · exact Shrinks.drop.bind fun _ => Shrinks.pure _
  · exact Shrinks.drop.bind fun _ => fun _ _ _ read => members_length read
  · exact Shrinks.failAtNext _

theorem Shrinks.closeArray (record : σ) : (closeArray record).Shrinks := by
  refine Shrinks.peekToken.bind fun next => ?_
  split
  · exact Shrinks.failAtNext _
  · exact Shrinks.drop.bind fun _ => Shrinks.pure _
  · refine Shrinks.drop.bind fun _ => Shrinks.peekToken.bind fun next => ?_
    split
    · exact Shrinks.failAtNext _
    · exact Shrinks.failAtNext _
  · exact Shrinks.failAtNext _

theorem Shrinks.laterItems (fields : List (Field σ)) (record : σ) :
    (laterItems fields record).Shrinks := by
  induction fields generalizing record with
  | nil => exact Shrinks.closeArray record
  | cons field fields ih =>
      refine Shrinks.peekToken.bind fun next => ?_
      split
      · exact Shrinks.failAtNext _
      · exact Shrinks.drop.bind fun _ => Shrinks.pure _
      · refine Shrinks.drop.bind fun _ => Shrinks.peekToken.bind fun next => ?_
        split
        · exact Shrinks.failAtNext _
        · exact Shrinks.failAtNext _
        · exact (field.shrinks record).bind fun _ => ih _
      · exact Shrinks.failAtNext _

theorem Shrinks.items (fields : List (Field σ)) (record : σ) :
    (items fields record).Shrinks := by
  cases fields with
  | nil => exact Shrinks.closeArray record
  | cons field fields =>
      refine Shrinks.peekToken.bind fun next => ?_
      split
      · exact Shrinks.failAtNext _
      · exact Shrinks.drop.bind fun _ => Shrinks.pure _
      · exact (field.shrinks record).bind fun _ => Shrinks.laterItems _ _

theorem Shrinks.record (expected : String) (fields : List (Field σ)) (start : σ) :
    (record expected fields start).Shrinks := by
  refine Shrinks.peekToken.bind fun next => ?_
  split
  · exact Shrinks.failAtNext _
  · exact Shrinks.drop.bind fun _ => Shrinks.object _ _
  · exact Shrinks.drop.bind fun _ => Shrinks.items _ _
  · exact Shrinks.unexpected _

def finish : Reader Unit := do
  match ← peekToken with
  | none => return ()
  | some _ => failAtNext .textAfterEnd

def run (reader : Reader α) (text : List Char) : Except Error α :=
  match (do let value ← reader; finish; return value : Reader α) text with
  | .ok (value, _) => .ok value
  | .error failure => .error (failure.locate text)

end Reader

end TokenStream.Json
