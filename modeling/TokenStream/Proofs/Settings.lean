import TokenStream.Settings.File
import TokenStream.Proofs.Json.Continuation
import TokenStream.Proofs.Json.Record

namespace TokenStream

open TokenStream.Json

namespace OutputSettings

/-- The output is a record of a format and of a truth value, either of which may be left out. -/
inductive Written : Form → OutputSettings → Prop
  | mk (binds : Bindings ["format", "show_spans"] form bindings)
      (format : AtMostOnce (Chosen OutputFormat.names) (bound "format" bindings) format?)
      (showSpans : AtMostOnce (fun form shown => form = .boolean shown)
        (bound "show_spans" bindings) showSpans?) :
      Written form { format := format?.getD .plain, showSpans := showSpans?.getD false }

end OutputSettings

namespace FileSettings

/-- The settings are a record of the output and of two levels, any of which may be left out. -/
inductive Written : Form → FileSettings → Prop
  | mk (binds : Bindings ["output", "log_level", "lexer_log_level"] form bindings)
      (output : AtMostOnce OutputSettings.Written (bound "output" bindings) output?)
      (logLevel : AtMostOnce (Nullable (Chosen LogLevel.names)) (bound "log_level" bindings) logLevel?)
      (lexerLogLevel : AtMostOnce (Nullable (Chosen LogLevel.names))
        (bound "lexer_log_level" bindings) lexerLogLevel?) :
      Written form
        { output := output?.getD default
          logLevel := logLevel?.getD none
          lexerLogLevel := lexerLogLevel?.getD none }

end FileSettings

namespace OutputSettings

def formatSlot : Slot Draft where
  field := fields.get ⟨0, by decide⟩
  Value := OutputFormat
  get draft := draft.format
  put draft format := { draft with format := some format }
  Stands := Chosen OutputFormat.names
  given_eq _ := rfl
  accepts draft := by
    have distinct : (OutputFormat.names.map (·.1)).Nodup := by decide
    exact (Reader.accepts_choice distinct).map fun format => { draft with format := some format }
  get_put _ _ := rfl

def showSpansSlot : Slot Draft where
  field := fields.get ⟨1, by decide⟩
  Value := Bool
  get draft := draft.showSpans
  put draft shown := { draft with showSpans := some shown }
  Stands form shown := form = .boolean shown
  given_eq _ := rfl
  accepts draft := by
    exact Reader.accepts_boolean.map fun shown => { draft with showSpans := some shown }
  get_put _ _ := rfl

def slots : List (Slot Draft) :=
  [formatSlot, showSpansSlot]

theorem mem_slots_iff {slot : Slot Draft} :
    slot ∈ slots ↔ slot = formatSlot ∨ slot = showSpansSlot := by
  simp [slots]

theorem apart_slots : Apart slots where
  names := by decide
  others := by
    intro slot known other known' different record value
    rcases mem_slots_iff.mp known with rfl | rfl <;> rcases mem_slots_iff.mp known' with rfl | rfl
    all_goals first | rfl | exact absurd rfl different
  whole := by
    rintro ⟨format, showSpans⟩ ⟨format', showSpans'⟩ same
    obtain rfl : format = format' := same formatSlot (mem_slots_iff.mpr (.inl rfl))
    obtain rfl : showSpans = showSpans' := same showSpansSlot (mem_slots_iff.mpr (.inr rfl))
    rfl

theorem get_start (slot : Slot Draft) (known : slot ∈ slots) : slot.get {} = none := by
  rcases mem_slots_iff.mp known with rfl | rfl <;> rfl

theorem accepts_reader : reader.Accepts Written := by
  have accepts := (accepts_record apart_slots "struct OutputConfig" get_start).map Draft.finish
  apply accepts.congr
  intro form settings
  constructor
  · rintro ⟨⟨format?, showSpans?⟩, ⟨bindings, binds, once⟩, rfl⟩
    exact .mk binds (once formatSlot (mem_slots_iff.mpr (.inl rfl)))
      (once showSpansSlot (mem_slots_iff.mpr (.inr rfl)))
  · rintro ⟨binds, format, showSpans⟩
    refine ⟨{ format := _, showSpans := _ }, ⟨_, binds, ?_⟩, rfl⟩
    intro slot known
    rcases mem_slots_iff.mp known with rfl | rfl
    · exact format
    · exact showSpans

end OutputSettings

namespace FileSettings

theorem accepts_level : level.Accepts (Nullable (Chosen LogLevel.names)) := by
  have distinct : (LogLevel.names.map (·.1)).Nodup := by decide
  apply Reader.accepts_optional (Reader.accepts_choice distinct)
  intro value named
  cases named

def outputSlot : Slot Draft where
  field := fields.get ⟨0, by decide⟩
  Value := OutputSettings
  get draft := draft.output
  put draft output := { draft with output := some output }
  Stands := OutputSettings.Written
  given_eq _ := rfl
  accepts draft := by
    exact OutputSettings.accepts_reader.map fun output => { draft with output := some output }
  get_put _ _ := rfl

def logLevelSlot : Slot Draft where
  field := fields.get ⟨1, by decide⟩
  Value := Option LogLevel
  get draft := draft.logLevel
  put draft logLevel := { draft with logLevel := some logLevel }
  Stands := Nullable (Chosen LogLevel.names)
  given_eq _ := rfl
  accepts draft := by
    exact accepts_level.map fun logLevel => { draft with logLevel := some logLevel }
  get_put _ _ := rfl

def lexerLogLevelSlot : Slot Draft where
  field := fields.get ⟨2, by decide⟩
  Value := Option LogLevel
  get draft := draft.lexerLogLevel
  put draft lexerLogLevel := { draft with lexerLogLevel := some lexerLogLevel }
  Stands := Nullable (Chosen LogLevel.names)
  given_eq _ := rfl
  accepts draft := by
    exact accepts_level.map fun lexerLogLevel => { draft with lexerLogLevel := some lexerLogLevel }
  get_put _ _ := rfl

def slots : List (Slot Draft) :=
  [outputSlot, logLevelSlot, lexerLogLevelSlot]

theorem mem_slots_iff {slot : Slot Draft} :
    slot ∈ slots ↔ slot = outputSlot ∨ slot = logLevelSlot ∨ slot = lexerLogLevelSlot := by
  simp [slots]

theorem apart_slots : Apart slots where
  names := by decide
  others := by
    intro slot known other known' different record value
    rcases mem_slots_iff.mp known with rfl | rfl | rfl <;>
      rcases mem_slots_iff.mp known' with rfl | rfl | rfl
    all_goals first | rfl | exact absurd rfl different
  whole := by
    rintro ⟨output, logLevel, lexerLogLevel⟩ ⟨output', logLevel', lexerLogLevel'⟩ same
    obtain rfl : output = output' := same outputSlot (mem_slots_iff.mpr (.inl rfl))
    obtain rfl : logLevel = logLevel' := same logLevelSlot (mem_slots_iff.mpr (.inr (.inl rfl)))
    obtain rfl : lexerLogLevel = lexerLogLevel' :=
      same lexerLogLevelSlot (mem_slots_iff.mpr (.inr (.inr rfl)))
    rfl

theorem get_start (slot : Slot Draft) (known : slot ∈ slots) : slot.get {} = none := by
  rcases mem_slots_iff.mp known with rfl | rfl | rfl <;> rfl

theorem accepts_reader : reader.Accepts Written := by
  have accepts := (accepts_record apart_slots "struct ToklexConfig" get_start).map Draft.finish
  apply accepts.congr
  intro form settings
  constructor
  · rintro ⟨⟨output?, logLevel?, lexerLogLevel?⟩, ⟨bindings, binds, once⟩, rfl⟩
    exact .mk binds (once outputSlot (mem_slots_iff.mpr (.inl rfl)))
      (once logLevelSlot (mem_slots_iff.mpr (.inr (.inl rfl))))
      (once lexerLogLevelSlot (mem_slots_iff.mpr (.inr (.inr rfl))))
  · rintro ⟨binds, output, logLevel, lexerLogLevel⟩
    refine ⟨{ output := _, logLevel := _, lexerLogLevel := _ }, ⟨_, binds, ?_⟩, rfl⟩
    intro slot known
    rcases mem_slots_iff.mp known with rfl | rfl | rfl
    · exact output
    · exact logLevel
    · exact lexerLogLevel

/-- A text is read as settings just if it is one JSON value that the settings are written as, with
nothing but blanks around it. -/
theorem ofJson_eq_ok_iff_written (text : List Char) (settings : FileSettings) :
    ofJson text = .ok settings ↔ ∃ form, Spelt.Document text form ∧ Written form settings :=
  Reader.run_eq_ok_iff accepts_reader

theorem Written.closed {form : Form} {settings : FileSettings} (written : Written form settings) :
    Spelt.Closed form := by
  intro number same
  subst same
  cases written with
  | mk binds => cases binds

theorem not_blank_of_ofJson {text : List Char} {settings : FileSettings}
    (complete : ofJson text = .ok settings) : ¬ ∀ c ∈ text, Reader.isBlank c = true := by
  intro blank
  obtain ⟨form, ⟨behind, spelt, _⟩, _⟩ := (Reader.run_eq_ok_iff accepts_reader).mp complete
  exact spelt.ne_nil (Grammar.afterBlanks_eq_nil_iff.mpr blank)

theorem isBlank_iff {c : Char} :
    Reader.isBlank c = true ↔ c = ' ' ∨ c = '\n' ∨ c = '\t' ∨ c = '\r' := by
  simp [Reader.isBlank, or_assoc]

/-- A text of settings may go on with blanks, which changes nothing, and with nothing else.  So no part
that is cut off from the end of one can hold anything but blanks, if what is left is to be read, and
one text behind another is not read. -/
theorem ofJson_append_eq_ok_iff {text : List Char} {settings : FileSettings}
    (complete : ofJson text = .ok settings) :
    (∀ more other, ofJson (text ++ more) = .ok other ↔
      (∀ c ∈ more, c = ' ' ∨ c = '\n' ∨ c = '\t' ∨ c = '\r') ∧ other = settings) ∧
    (∀ before cut, text = before ++ cut → ∀ other, ofJson before = .ok other →
      (∀ c ∈ cut, c = ' ' ∨ c = '\n' ∨ c = '\t' ∨ c = '\r') ∧ other = settings) ∧
    ∀ other, ofJson (text ++ text) ≠ .ok other := by
  have goesOn {text : List Char} {settings : FileSettings} (complete : ofJson text = .ok settings)
      {more : List Char} {other : FileSettings} : ofJson (text ++ more) = .ok other ↔
        (∀ c ∈ more, Reader.isBlank c = true) ∧ other = settings :=
    Reader.run_append_eq_ok_iff accepts_reader (fun _ _ written => written.closed) complete
  simp only [← isBlank_iff]
  refine ⟨fun more other => goesOn complete, ?_, ?_⟩
  · intro before cut split other read
    rw [split] at complete
    obtain ⟨blank, same⟩ := (goesOn read).mp complete
    exact ⟨blank, same.symm⟩
  · intro other twice
    exact not_blank_of_ofJson complete ((goesOn complete).mp twice).1

/-- An empty object goes on with a line feed, and not with another one. -/
theorem ofJson_empty_object :
    ofJson "{}".toList = .ok default ∧ ofJson ("{}".toList ++ ['\n']) = .ok default ∧
      ∀ other, ofJson ("{}".toList ++ "{}".toList) ≠ .ok other := by
  have complete : ofJson "{}".toList = .ok default := rfl
  obtain ⟨goesOn, _, once⟩ := ofJson_append_eq_ok_iff complete
  exact ⟨complete, (goesOn ['\n'] default).mpr ⟨by simp, rfl⟩, once⟩

end FileSettings

end TokenStream
