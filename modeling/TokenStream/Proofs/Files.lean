import TokenStream.Files

namespace TokenStream

/-- Text has come behind what was in a file, or a file has been made with it. -/
inductive Node.Grows : Option Node → Option Node → Prop
  | same (node : Option Node) : Grows node node
  | made (added : List Char) : Grows none (some (.file (String.ofList added).toUTF8))
  | longer (bytes : ByteArray) (added : List Char) :
      Grows (some (.file bytes)) (some (.file (bytes ++ (String.ofList added).toUTF8)))

theorem toUTF8_append (first second : List Char) :
    (String.ofList first).toUTF8 ++ (String.ofList second).toUTF8 =
      (String.ofList (first ++ second)).toUTF8 := by
  simp

theorem Node.Grows.trans {first second third : Option Node} (grows : Grows first second)
    (grows' : Grows second third) : Grows first third := by
  cases grows with
  | same => exact grows'
  | made added =>
      cases grows' with
      | same => exact .made added
      | longer _ more =>
          rw [toUTF8_append]
          exact .made (added ++ more)
  | longer bytes added =>
      cases grows' with
      | same => exact .longer bytes added
      | longer _ more =>
          rw [ByteArray.append_assoc, toUTF8_append]
          exact .longer bytes (added ++ more)

theorem bind_eq_ok_iff {first : Except ε α} {second : α → Except ε β} {value : β} :
    first >>= second = .ok value ↔ ∃ middle, first = .ok middle ∧ second middle = .ok value := by
  cases first with
  | error fault => simp [bind, Except.bind]
  | ok middle => simp [bind, Except.bind]

namespace Files

variable {files after : Files} {place : Option Place}

/-- The files have changed at no place but one, where something may have grown. -/
structure Grown (files : Files) (place : Option Place) (after : Files) : Prop where
  grows : ∀ there ∈ place, Node.Grows (files.node? there) (after.node? there)
  others : ∀ other, place ≠ some other → after.node? other = files.node? other
  here : after.here = files.here
  refusals : after.refusal? = files.refusal?

theorem Grown.refl (files : Files) (place : Option Place) : files.Grown place files where
  grows _ _ := .same _
  others _ _ := rfl
  here := rfl
  refusals := rfl

theorem Grown.trans {middle : Files} (first : files.Grown place middle)
    (second : middle.Grown place after) : files.Grown place after where
  grows there member := (first.grows there member).trans (second.grows there member)
  others other different := (second.others other different).trans (first.others other different)
  here := second.here.trans first.here
  refusals := second.refusals.trans first.refusals

theorem Grown.node_cases (grown : files.Grown place after) (there : Place) :
    after.node? there = files.node? there ∨
      (∃ bytes bytes', files.node? there = some (.file bytes) ∧
        after.node? there = some (.file bytes')) ∨
      ∃ bytes, place = some there ∧ files.node? there = none ∧
        after.node? there = some (.file bytes) := by
  by_cases here : place = some there
  · have grows := grown.grows there here
    generalize files.node? there = before at grows ⊢
    generalize after.node? there = later at grows ⊢
    cases grows with
    | same => exact .inl rfl
    | made added => exact .inr (.inr ⟨_, here, rfl, rfl⟩)
    | longer bytes added => exact .inr (.inl ⟨_, _, rfl, rfl⟩)
  · exact .inl (grown.others there here)

theorem node?_insert_same (files : Files) (there : Place) (node : Node) :
    (files.insert there node).node? there = some node :=
  if_pos rfl

theorem node?_insert_other {there other : Place} (files : Files) (node : Node)
    (different : other ≠ there) : (files.insert there node).node? other = files.node? other :=
  if_neg different

theorem grown_insert {there : Place} {node : Node}
    (grows : Node.Grows (files.node? there) (some node)) :
    files.Grown (some there) (files.insert there node) where
  grows other member := by
    cases member
    rwa [node?_insert_same]
  others other different :=
    node?_insert_other files node fun same => different (congrArg some same.symm)
  here := rfl
  refusals := rfl

theorem grown_append (files : Files) (there : Place) (text : List Char) :
    files.Grown (some there) (files.append there text) := by
  rw [append]
  split
  · rename_i bytes found
    apply grown_insert
    rw [found]
    exact .longer bytes text
  · exact .refl files _

/-- A journal can be kept in a file or on a device that is there, or in a file that is made. -/
theorem openToAppend_cases {written : String} {there : Place}
    (opened : files.openToAppend written = .ok (after, there)) :
    after = files ∧ (files.node? there).isSome = true ∨
      after = files.insert there (.file .empty) ∧ files.node? there = none := by
  rw [openToAppend] at opened
  obtain ⟨place, _, opened⟩ := bind_eq_ok_iff.mp opened
  split at opened
  · rename_i found
    obtain ⟨_, _, opened⟩ := bind_eq_ok_iff.mp opened
    cases opened
    exact .inl ⟨rfl, by rw [found]; rfl⟩
  · rename_i found
    obtain ⟨_, _, opened⟩ := bind_eq_ok_iff.mp opened
    cases opened
    exact .inl ⟨rfl, by rw [found]; rfl⟩
  · rename_i missing
    obtain ⟨_, _, opened⟩ := bind_eq_ok_iff.mp opened
    cases opened
    exact .inr ⟨rfl, missing⟩
  · cases opened
  · cases opened
  · cases opened

theorem grown_openToAppend {written : String} {there : Place}
    (opened : files.openToAppend written = .ok (after, there)) :
    files.Grown (some there) after := by
  obtain ⟨rfl, _⟩ | ⟨rfl, missing⟩ := openToAppend_cases opened
  · exact .refl _ _
  · apply grown_insert
    rw [missing]
    exact .made []

/-- Where a walk goes on to from a place. -/
def onward (files : Files) (making : Bool) (follow : Place → List String → Except FileError Place)
    (start : Place) (part : String) (rest : List String) (next : Place) : Except FileError Place :=
  if making && Path.isName part && !rest.isEmpty && rest.all (· == "") then .error .isDirectory
  else
    match files.lead next with
    | .place place => files.walkWith making follow place rest
    | .link path => follow (Path.start path start) (Path.parts path ++ rest)
    | .nothing =>
        if Path.nameLimit < part.utf8ByteSize then .error .tooLong
        else if making && rest.isEmpty then .ok next
        else .error .missing

theorem walkWith_cons (making : Bool) (follow : Place → List String → Except FileError Place)
    (start : Place) (part : String) (rest : List String) :
    files.walkWith making follow start (part :: rest) =
      files.step start part >>= files.onward making follow start part rest := by
  rw [walkWith]
  cases files.step start part <;> rfl

/-- Once something has grown, a place leads where it led, or to the file that has been made there. -/
theorem Grown.lead_cases (grown : files.Grown place after) (there : Place) :
    after.lead there = files.lead there ∨
      ∃ bytes, place = some there ∧ files.node? there = none ∧
        after.node? there = some (.file bytes) := by
  obtain same | ⟨bytes, bytes', file, longer⟩ | made := grown.node_cases there
  · exact .inl (by rw [lead, lead, same])
  · exact .inl (by rw [lead, lead, file, longer])
  · exact .inr made

theorem Grown.sink?_eq (grown : files.Grown place after) (there : Place) :
    after.sink? there = files.sink? there := by
  obtain same | ⟨bytes, bytes', file, longer⟩ | ⟨bytes, _, missing, made⟩ := grown.node_cases there
  · rw [sink?, sink?, same]
  · rw [sink?, sink?, file, longer]
  · rw [sink?, sink?, missing, made]

/-- There is no step from where nothing is, and none from the file that has been made there. -/
theorem Grown.step_cases (grown : files.Grown place after) (start : Place) (part : String) :
    after.step start part = files.step start part ∨
      place = some start ∧ files.node? start = none ∧ files.step start part = .error .missing ∧
        after.step start part = .error .notDirectory := by
  have allowed : after.permit .search start = files.permit .search start := by
    rw [permit, permit, grown.refusals]
  obtain same | ⟨bytes, bytes', file, longer⟩ | ⟨bytes, here, missing, made⟩ :=
    grown.node_cases start
  · exact .inl (by rw [step, step, same, allowed])
  · exact .inl (by rw [step, step, file, longer])
  · exact .inr ⟨here, missing, by rw [step, missing], by rw [step, made]⟩

/-- Walks that end at a place in the first files go the same way in the second. -/
structure Carries (files after : Files) (stop : Place) : Prop where
  here : after.here = files.here
  step : ∀ start part next, files.step start part = .ok next → after.step start part = .ok next
  lead : ∀ next, after.lead next = files.lead next ∨
    ∀ follow start part rest, files.onward false follow start part rest next ≠ .ok stop

theorem Carries.walkWith {stop start : Place} {parts : List String}
    {follow follow' : Place → List String → Except FileError Place}
    (carries : files.Carries after stop)
    (follows : ∀ start parts, follow start parts = .ok stop → follow' start parts = .ok stop)
    (leads : files.walkWith false follow start parts = .ok stop) :
    after.walkWith false follow' start parts = .ok stop := by
  induction parts generalizing start with
  | nil => exact leads
  | cons part rest ih =>
      rw [walkWith_cons] at leads ⊢
      obtain ⟨next, stepped, goesOn⟩ := bind_eq_ok_iff.mp leads
      refine bind_eq_ok_iff.mpr ⟨next, carries.step start part next stepped, ?_⟩
      obtain same | never := carries.lead next
      · rw [onward] at goesOn ⊢
        rw [same]
        cases found : files.lead next with
        | place there =>
            rw [found] at goesOn
            exact ih goesOn
        | link path =>
            rw [found] at goesOn
            exact follows _ _ goesOn
        | nothing =>
            rw [found] at goesOn
            exact goesOn
      · exact absurd goesOn (never follow start part rest)

theorem Carries.walk {stop start : Place} {parts : List String} {links : Nat}
    (carries : files.Carries after stop) (leads : files.walk false links start parts = .ok stop) :
    after.walk false links start parts = .ok stop := by
  induction links generalizing start parts with
  | zero => exact carries.walkWith (fun _ _ leads => leads) leads
  | succ links ih => exact carries.walkWith (fun _ _ leads => ih leads) leads

variable {written : String}

theorem Carries.locate {stop : Place} (carries : files.Carries after stop)
    (leads : files.locate false written = .ok stop) : after.locate false written = .ok stop := by
  rw [Files.locate] at leads ⊢
  split at leads
  · cases leads
  · split at leads
    · cases leads
    · rename_i filled short
      rw [if_neg filled, if_neg short, carries.here]
      exact carries.walk leads

/-- A path that leads somewhere still leads there once something has grown. -/
theorem Grown.carries (grown : files.Grown place after) (stop : Place) :
    files.Carries after stop where
  here := grown.here
  step start part next stepped := by
    obtain same | ⟨_, _, fails, _⟩ := grown.step_cases start part
    · rw [same, stepped]
    · rw [fails] at stepped
      cases stepped
  lead next := by
    obtain same | ⟨_, _, missing, _⟩ := grown.lead_cases next
    · exact .inl same
    · refine .inr fun follow start part rest leads => ?_
      have nothing : files.lead next = .nothing := by rw [Files.lead, missing]
      rw [onward, nothing] at leads
      simp only [Bool.false_and, Bool.false_eq_true, ↓reduceIte] at leads
      split at leads <;> cases leads

theorem stop_eq_of_file {follow : Place → List String → Except FileError Place} {bytes : ByteArray}
    {start stop : Place} {parts : List String} (file : files.node? start = some (.file bytes))
    (leads : files.walkWith false follow start parts = .ok stop) : stop = start := by
  cases parts with
  | nil => exact (Except.ok.inj leads).symm
  | cons part parts =>
      have blocked : files.step start part = .error .notDirectory := by rw [step, file]
      rw [walkWith_cons, blocked] at leads
      cases leads

/-- A path that does not lead to what has grown led where it leads. -/
theorem Grown.carries_back {stop : Place} (grown : files.Grown place after)
    (elsewhere : place ≠ some stop) : after.Carries files stop where
  here := grown.here.symm
  step start part next stepped := by
    obtain same | ⟨_, _, _, fails⟩ := grown.step_cases start part
    · rw [← same, stepped]
    · rw [fails] at stepped
      cases stepped
  lead next := by
    obtain same | ⟨bytes, grownHere, _, made⟩ := grown.lead_cases next
    · exact .inl same.symm
    · refine .inr fun follow start part rest leads => ?_
      have file : after.lead next = .place next := by rw [Files.lead, made]
      rw [onward, file] at leads
      have ends := stop_eq_of_file made leads
      exact elsewhere (ends ▸ grownHere)

/-- The bytes that are read from a place. -/
def bytes? (files : Files) (there : Place) : Option ByteArray :=
  match files.node? there with
  | some (.file bytes) | some (.device bytes _) => some bytes
  | _ => none

theorem readBytes_eq_ok_iff {bytes : ByteArray} :
    files.readBytes written = .ok bytes ↔
      ∃ there, files.locate false written = .ok there ∧ files.refusal? .read there = none ∧
        files.bytes? there = some bytes := by
  rw [readBytes, bind_eq_ok_iff]
  apply exists_congr
  intro there
  rw [bind_eq_ok_iff, permit, bytes?]
  cases files.refusal? .read there with
  | some fault => simp
  | none =>
      rcases files.node? there with _ | _ | _ | _ | _ | _ <;>
        simp [pure, Except.pure, throw, throwThe, MonadExceptOf.throw]

/-- What is not read from the place that has grown is read as before. -/
theorem Grown.readBytes_iff {bytes : ByteArray} (grown : files.Grown place after)
    (elsewhere : ∀ there ∈ place, after.locate false written ≠ .ok there) :
    after.readBytes written = .ok bytes ↔ files.readBytes written = .ok bytes := by
  have bytes?_eq {there : Place} (different : place ≠ some there) :
      after.bytes? there = files.bytes? there := by
    rw [bytes?, bytes?, grown.others there different]
  rw [readBytes_eq_ok_iff, readBytes_eq_ok_iff, grown.refusals]
  constructor
  · intro read
    obtain ⟨there, leads, allowed, found⟩ := read
    have different : place ≠ some there := fun same => elsewhere there same leads
    exact ⟨there, (grown.carries_back different).locate leads, allowed,
      bytes?_eq different ▸ found⟩
  · intro read
    obtain ⟨there, leads, allowed, found⟩ := read
    have leads' := (grown.carries there).locate leads
    have different : place ≠ some there := fun same => elsewhere there same leads'
    exact ⟨there, leads', allowed, (bytes?_eq different).symm ▸ found⟩

theorem Grown.readText_iff {text : List Char} (grown : files.Grown place after)
    (elsewhere : ∀ there ∈ place, after.locate false written ≠ .ok there) :
    after.readText written = .ok text ↔ files.readText written = .ok text := by
  rw [readText, readText, bind_eq_ok_iff, bind_eq_ok_iff]
  simp only [grown.readBytes_iff elsewhere]

/-- Bytes with text behind them are text when the bytes are. -/
theorem isValidUTF8_append_iff (bytes : ByteArray) (added : String) :
    (bytes ++ added.toByteArray).IsValidUTF8 ↔ bytes.IsValidUTF8 := by
  constructor
  · intro valid
    let whole : String := ⟨bytes ++ added.toByteArray, valid⟩
    let seam : String.Pos.Raw := ⟨bytes.size⟩
    have size : whole.utf8ByteSize = bytes.size + added.utf8ByteSize := by
      simp [whole, ← String.size_toByteArray]
    have within : seam ≤ whole.rawEndPos := by
      rw [String.Pos.Raw.le_iff, String.byteIdx_rawEndPos, size]
      exact Nat.le_add_right _ _
    have behind :
        whole.toByteArray.extract seam.byteIdx whole.utf8ByteSize = added.toByteArray := by
      rw [size]
      exact ByteArray.extract_append_eq_right rfl (by simp)
    have boundary : seam.IsValid whole := by
      rw [String.Pos.Raw.isValid_iff_isValidUTF8_extract_utf8ByteSize, behind]
      exact ⟨within, added.isValidUTF8⟩
    have front : whole.toByteArray.extract 0 seam.byteIdx = bytes :=
      ByteArray.extract_append_eq_left rfl
    rw [String.Pos.Raw.isValid_iff_isValidUTF8_extract_zero, front] at boundary
    exact boundary.2
  · intro valid
    exact valid.append added.isValidUTF8

theorem decodeText_append (bytes : ByteArray) (added : List Char) :
    decodeText (bytes ++ (String.ofList added).toUTF8) = (decodeText bytes).map (· ++ added) := by
  have valid := isValidUTF8_append_iff bytes (String.ofList added)
  rw [String.toUTF8_eq_toByteArray, decodeText, decodeText, String.fromUTF8?, String.fromUTF8?]
  by_cases text : bytes.IsValidUTF8
  · have whole : String.fromUTF8 (bytes ++ (String.ofList added).toByteArray) (valid.mpr text) =
        String.fromUTF8 bytes text ++ String.ofList added := rfl
    rw [dif_pos text, dif_pos (valid.mpr text), whole]
    simp [Except.map]
  · rw [dif_neg text, dif_neg (mt valid.mp text)]
    rfl

/-- Something is at the place already. -/
def Kept (files : Files) (place : Option Place) : Prop :=
  ∀ there ∈ place, (files.node? there).isSome = true

theorem Kept.node?_ne_none {there : Place} (kept : files.Kept place) (here : place = some there) :
    files.node? there ≠ none :=
  Option.isSome_iff_ne_none.mp (kept there here)

theorem Grown.lead_eq (grown : files.Grown place after) (kept : files.Kept place) :
    after.lead = files.lead := by
  funext there
  obtain same | ⟨_, here, missing, _⟩ := grown.lead_cases there
  · exact same
  · exact absurd missing (kept.node?_ne_none here)

theorem Grown.step_eq (grown : files.Grown place after) (kept : files.Kept place) :
    after.step = files.step := by
  funext start part
  obtain same | ⟨here, missing, _⟩ := grown.step_cases start part
  · exact same
  · exact absurd missing (kept.node?_ne_none here)

theorem walkWith_congr (steps : after.step = files.step) (leads : after.lead = files.lead)
    (making : Bool) (follow : Place → List String → Except FileError Place) :
    after.walkWith making follow = files.walkWith making follow := by
  funext start parts
  induction parts generalizing start with
  | nil => rfl
  | cons part rest ih =>
      have goesOn (next : Place) : after.onward making follow start part rest next =
          files.onward making follow start part rest next := by
        simp only [onward, leads, ih]
      rw [walkWith_cons, walkWith_cons, steps, funext goesOn]

theorem Grown.walk_eq (grown : files.Grown place after) (kept : files.Kept place) (making : Bool)
    (links : Nat) : after.walk making links = files.walk making links := by
  have congr := walkWith_congr (grown.step_eq kept) (grown.lead_eq kept) making
  induction links with
  | zero => exact congr _
  | succ links ih => rw [walk, walk, ih, congr]

theorem Grown.locate_eq (grown : files.Grown place after) (kept : files.Kept place) (making : Bool)
    (written : String) : after.locate making written = files.locate making written := by
  rw [Files.locate, Files.locate, grown.walk_eq kept, grown.here]

/-- More text in a file that is there changes no fault in reading. -/
theorem Grown.readText_fault (grown : files.Grown place after) (kept : files.Kept place)
    (written : String) :
    (after.readText written).map (fun _ => ()) = (files.readText written).map fun _ => () := by
  rw [readText, readText, readBytes, readBytes, grown.locate_eq kept]
  cases files.locate false written with
  | error fault => rfl
  | ok there =>
      have allowed : after.permit .read there = files.permit .read there := by
        rw [permit, permit, grown.refusals]
      simp only [bind, Except.bind, allowed]
      cases files.permit .read there with
      | error fault => rfl
      | ok =>
          by_cases here : place = some there
          · have grows := grown.grows there here
            have known := kept.node?_ne_none here
            generalize files.node? there = before at grows known ⊢
            generalize after.node? there = later at grows ⊢
            cases grows with
            | same => rfl
            | made => exact absurd rfl known
            | longer bytes added =>
                simp only [pure, Except.pure, decodeText_append]
                cases decodeText bytes <;> rfl
          · simp only [grown.others there here]

end Files

end TokenStream
