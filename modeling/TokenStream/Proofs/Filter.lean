import TokenStream.Journal.Filter

namespace TokenStream.Journal

/-! Which level decides about an event.

A filter goes by the longest of its entries that the target starts with
(`Filter.Decides.levelOf_eq`), while the levels themselves are looked up by whole
targets.  In the filter made from levels the lexer's entry is the only one with a
level of its own, and it stands for everything below the lexer's target as well.
-/

theorem Level.verbosity_injective : Function.Injective Level.verbosity := by
  intro first second same
  cases first <;> cases second <;> first | rfl | contradiction

theorem Level.records_iff {limit level : Level} :
    limit.records level = true ↔ level.verbosity ≤ limit.verbosity :=
  decide_eq_true_iff

theorem Level.eq_of_within_iff {first second : Level}
    (same : ∀ level : Level, level.verbosity ≤ first.verbosity ↔
      level.verbosity ≤ second.verbosity) : first = second :=
  verbosity_injective
    (Nat.le_antisymm ((same first).mp (Nat.le_refl _)) ((same second).mpr (Nat.le_refl _)))

namespace Filter

variable {filter : Filter} {target : String} {entry : String × Level}

/-- The target starts with the entry and with no other that is as long. -/
structure Decides (filter : Filter) (target : String) (entry : String × Level) : Prop where
  listed : entry ∈ filter.targets
  starts : entry.1.toList <+: target.toList
  longest : ∀ other ∈ filter.targets, other.1.toList <+: target.toList →
    other = entry ∨ other.1.toList.length < entry.1.toList.length

theorem mem_matching_iff :
    entry ∈ filter.matching target ↔ entry ∈ filter.targets ∧ entry.1.toList <+: target.toList := by
  rw [matching, List.mem_filter, List.isPrefixOf_iff_prefix]

theorem foldl_longer_settled {entries : List (String × Level)}
    (shorter : ∀ other ∈ entries,
      other = entry ∨ other.1.toList.length < entry.1.toList.length) :
    entries.foldl levelOf.longer (entry.1.toList, entry.2) = (entry.1.toList, entry.2) := by
  induction entries with
  | nil => rfl
  | cons other entries ih =>
      obtain ⟨first, later⟩ := List.forall_mem_cons.mp shorter
      have kept : levelOf.longer (entry.1.toList, entry.2) other = (entry.1.toList, entry.2) := by
        rcases first with rfl | below
        · exact if_pos (Nat.le_refl _)
        · exact if_neg (Nat.not_le.mpr below)
      rw [List.foldl_cons, kept, ih later]

theorem foldl_longer_of_longest {entries : List (String × Level)} {best : List Char × Level}
    (listed : entry ∈ entries)
    (shorter : ∀ other ∈ entries,
      other = entry ∨ other.1.toList.length < entry.1.toList.length)
    (behind : best.1.length ≤ entry.1.toList.length) :
    entries.foldl levelOf.longer best = (entry.1.toList, entry.2) := by
  induction entries generalizing best with
  | nil => contradiction
  | cons other entries ih =>
      obtain ⟨first, later⟩ := List.forall_mem_cons.mp shorter
      rw [List.foldl_cons]
      by_cases here : other = entry
      · subst here
        rw [levelOf.longer, if_pos behind, foldl_longer_settled later]
      · have among : entry ∈ entries := (List.mem_cons.mp listed).resolve_left (Ne.symm here)
        refine ih among later ?_
        rw [levelOf.longer]
        split
        · exact Nat.le_of_lt (first.resolve_left here)
        · exact behind

theorem Decides.levelOf_eq (decides : filter.Decides target entry) :
    filter.levelOf target = entry.2 := by
  have found : (filter.matching target).foldl levelOf.longer ([], filter.fallback) =
      (entry.1.toList, entry.2) := by
    refine foldl_longer_of_longest (mem_matching_iff.mpr ⟨decides.listed, decides.starts⟩) ?_
      (Nat.zero_le _)
    intro other member
    obtain ⟨listed, starts⟩ := mem_matching_iff.mp member
    exact decides.longest other listed starts
  rw [levelOf, found]

theorem levelOf_of_unlisted
    (unlisted : ∀ entry ∈ filter.targets, ¬ entry.1.toList <+: target.toList) :
    filter.levelOf target = filter.fallback := by
  have nothing : filter.matching target = [] := by
    apply List.eq_nil_iff_forall_not_mem.mpr
    intro entry member
    obtain ⟨listed, starts⟩ := mem_matching_iff.mp member
    exact unlisted entry listed starts
  rw [levelOf, nothing, List.foldl_nil]

end Filter

/-- The target starts with the lexer's, as that of everything in the lexer does. -/
def UnderLexer (target : String) : Prop :=
  lexerTarget.toList <+: target.toList

instance : DecidablePred UnderLexer :=
  fun target => inferInstanceAs (Decidable (lexerTarget.toList <+: target.toList))

/-- The target that speaks for the target in a filter made from levels. -/
def phaseTarget (target : String) : String :=
  if UnderLexer target then lexerTarget else target

theorem underLexer_lexerTarget : UnderLexer lexerTarget :=
  List.prefix_rfl

theorem programTarget_ne_lexerTarget : programTarget ≠ lexerTarget := by
  decide

theorem Levels.levelFor_of_ne {target : String} (levels : Levels) (other : target ≠ lexerTarget) :
    levels.levelFor target = levels.overall :=
  if_neg other

theorem Levels.levelFor_of_not_under {target : String} (levels : Levels)
    (outside : ¬ UnderLexer target) : levels.levelFor target = levels.overall := by
  apply levels.levelFor_of_ne
  rintro rfl
  exact outside underLexer_lexerTarget

namespace Filter

theorem mem_targets_ofLevels {levels : Levels} {entry : String × Level} :
    entry ∈ (ofLevels levels).targets ↔
      entry = (lexerTarget, levels.levelFor lexerTarget) ∨
        entry = (programTarget, levels.levelFor programTarget) := by
  simp [ofLevels]

theorem decides_lexerTarget {target : String} (levels : Levels) (under : UnderLexer target) :
    (ofLevels levels).Decides target (lexerTarget, levels.levelFor lexerTarget) where
  listed := mem_targets_ofLevels.mpr (.inl rfl)
  starts := under
  longest other member _ := by
    rcases mem_targets_ofLevels.mp member with rfl | rfl
    · exact .inl rfl
    · exact .inr (show programTarget.toList.length < lexerTarget.toList.length by decide)

theorem decides_programTarget {target : String} (levels : Levels) (outside : ¬ UnderLexer target)
    (starts : programTarget.toList <+: target.toList) :
    (ofLevels levels).Decides target (programTarget, levels.levelFor programTarget) where
  listed := mem_targets_ofLevels.mpr (.inr rfl)
  starts := starts
  longest other member under := by
    rcases mem_targets_ofLevels.mp member with rfl | rfl
    · exact absurd under outside
    · exact .inl rfl

theorem levelOf_ofLevels (levels : Levels) (target : String) :
    (ofLevels levels).levelOf target = levels.levelFor (phaseTarget target) := by
  by_cases under : UnderLexer target
  · rw [phaseTarget, if_pos under, (decides_lexerTarget levels under).levelOf_eq]
  · rw [phaseTarget, if_neg under, levels.levelFor_of_not_under under]
    by_cases starts : programTarget.toList <+: target.toList
    · rw [(decides_programTarget levels under starts).levelOf_eq]
      exact levels.levelFor_of_ne programTarget_ne_lexerTarget
    · apply levelOf_of_unlisted
      intro entry member
      rcases mem_targets_ofLevels.mp member with rfl | rfl
      · exact under
      · exact starts

end Filter

theorem Levels.levelFor_phaseTarget_eq_iff (levels : Levels) (target : String) :
    levels.levelFor (phaseTarget target) = levels.levelFor target ↔
      target = lexerTarget ∨ ¬ UnderLexer target ∨ levels.levelFor lexerTarget = levels.overall := by
  by_cases lexer : target = lexerTarget
  · subst lexer
    simp [phaseTarget]
  by_cases under : UnderLexer target
  · simp [phaseTarget, under, lexer, levels.levelFor_of_ne lexer]
  · simp [phaseTarget, under]

/-- The filter made from levels treats all targets below the lexer's like the lexer's own.  It keeps
the events that the level set for their target asks for, except below the lexer's target where the
lexer has another level than the rest. -/
theorem enables_iff_within_level (levels : Levels) (target : String) :
    (∀ level, (Filter.ofLevels levels).enables target level = true ↔
      level.verbosity ≤ (levels.levelFor (phaseTarget target)).verbosity) ∧
    ((∀ level, (Filter.ofLevels levels).enables target level = true ↔
        level.verbosity ≤ (levels.levelFor target).verbosity) ↔
      target = lexerTarget ∨ ¬ UnderLexer target ∨
        levels.levelFor lexerTarget = levels.overall) := by
  have enables (level : Level) : (Filter.ofLevels levels).enables target level = true ↔
      level.verbosity ≤ (levels.levelFor (phaseTarget target)).verbosity := by
    rw [Filter.enables, Filter.levelOf_ofLevels, Level.records_iff]
  refine ⟨enables, ?_⟩
  rw [← levels.levelFor_phaseTarget_eq_iff target]
  constructor
  · intro agrees
    apply Level.eq_of_within_iff
    intro level
    rw [← enables level, agrees level]
  · intro same level
    rw [enables level, same]

/-- The level set for the scanner's target is not the one that the filter goes by. -/
theorem not_enables_iff_within_level :
    ¬ ∀ (levels : Levels) (target : String) (level : Level),
      (Filter.ofLevels levels).enables target level = true ↔
        level.verbosity ≤ (levels.levelFor target).verbosity := by
  intro agrees
  have scanner := agrees { overall := .warn, lexer := some .trace } scannerTarget .trace
  revert scanner
  decide

end TokenStream.Journal
