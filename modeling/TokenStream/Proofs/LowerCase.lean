import TokenStream.Text.LowerCase

namespace TokenStream.Text

/-! Texts whose lower-case form is an ASCII word.

On ASCII the full mapping is the one of ASCII.  From beyond it leads back there in two
places only: the Kelvin sign becomes a small k, and a capital I with a dot becomes a small
i with a mark that is beyond ASCII itself.  So a word of other letters is the lower-case
form of its own spellings in ASCII and of nothing else (`lowerCase_eq_iff`).
-/

/-- A small letter of ASCII that no character beyond ASCII leads to. -/
def isPlainSmall (c : Char) : Bool :=
  c.isLower && c != 'k'

theorem isLower_iff {c : Char} : c.isLower = true ↔ 97 ≤ c.toNat ∧ c.toNat ≤ 122 := by
  change (decide _ && decide _) = true ↔ _
  rw [Bool.and_eq_true, decide_eq_true_eq, decide_eq_true_eq, ge_iff_le, UInt32.le_iff_toNat_le,
    UInt32.le_iff_toNat_le]
  rfl

theorem toLower_of_not_capital {c : Char} (other : ¬ (65 ≤ c.toNat ∧ c.toNat ≤ 90)) :
    c.toLower = c := by
  apply dif_neg
  intro capital
  exact other ⟨UInt32.le_iff_toNat_le.mp capital.1, UInt32.le_iff_toNat_le.mp capital.2⟩

theorem not_isPlainSmall_of_beyond {c : Char} (beyond : 128 ≤ c.toNat) :
    isPlainSmall c = false := by
  have other : c.isLower = false := by
    rw [Bool.eq_false_iff, ne_eq, isLower_iff]
    omega
  rw [isPlainSmall, other, Bool.false_and]

theorem toLower_of_beyond {c : Char} (beyond : 128 ≤ c.toNat) : c.toLower = c :=
  toLower_of_not_capital (by omega)

theorem toLower_of_isPlainSmall {c : Char} (plain : isPlainSmall c = true) : c.toLower = c := by
  have small := isLower_iff.mp (Bool.and_eq_true_iff.mp plain).1
  exact toLower_of_not_capital (by omega)

theorem isAlpha_of_toLower {c : Char} (plain : isPlainSmall c.toLower = true) :
    c.isAlpha = true := by
  have small := (Bool.and_eq_true_iff.mp plain).1
  apply Bool.or_eq_true_iff.mpr
  by_cases capital : 65 ≤ c.toNat ∧ c.toNat ≤ 90
  · have first : c.val ≥ 'A'.val := UInt32.le_iff_toNat_le.mpr capital.1
    have last : c.val ≤ 'Z'.val := UInt32.le_iff_toNat_le.mpr capital.2
    have upper : c.isUpper = (decide (c.val ≥ 'A'.val ∧ c.val ≤ 'Z'.val)) := rfl
    left
    rw [upper, decide_eq_true_eq]
    exact ⟨first, last⟩
  · right
    rwa [toLower_of_not_capital capital] at small

theorem smallLetter_cases (runs : List CapitalRun) (code : Nat) :
    smallLetter runs code = code ∨
      ∃ run ∈ runs, run.first ≤ code ∧ code ≤ run.last ∧
        smallLetter runs code = (code + run.shift).toNat := by
  induction runs with
  | nil => exact .inl rfl
  | cons run runs ih =>
      rw [smallLetter]
      split
      · exact .inl rfl
      · split
        · rename_i start inside
          simp only [Bool.and_eq_true, decide_eq_true_eq] at inside
          exact .inr ⟨run, List.mem_cons_self, by omega, inside.1, rfl⟩
        · obtain same | ⟨found, member, bounds⟩ := ih
          · exact .inl same
          · exact .inr ⟨found, List.mem_cons_of_mem run member, bounds⟩

/-- Whether capitals beyond ASCII have their small letters there too, or are Kelvin signs. -/
def CapitalRun.staysBeyond (run : CapitalRun) : Bool :=
  run.last < 128 || 128 ≤ run.first + run.shift || run.first == 0x212A && run.last == 0x212A

theorem smallLetter_of_beyond {code : Nat} (beyond : 128 ≤ code) :
    128 ≤ smallLetter capitalRuns code ∨ smallLetter capitalRuns code = 'k'.toNat := by
  have table : capitalRuns.all CapitalRun.staysBeyond = true := by decide +kernel
  obtain same | ⟨run, member, first, last, same⟩ := smallLetter_cases capitalRuns code
  · exact .inl (by omega)
  · have stays := List.all_eq_true.mp table run member
    simp only [CapitalRun.staysBeyond, Bool.or_eq_true, Bool.and_eq_true, decide_eq_true_eq,
      beq_iff_eq] at stays
    obtain (early | later) | ⟨kelvin, kelvin'⟩ := stays
    · omega
    · exact .inl (by omega)
    · have sign : code = 0x212A := by omega
      subst sign
      exact .inr (by decide +kernel)

theorem not_isPlainSmall_ofNat {code : Nat} (reached : 128 ≤ code ∨ code = 'k'.toNat) :
    isPlainSmall (Char.ofNat code) = false := by
  obtain beyond | same := reached
  · by_cases valid : code.isValidChar
    · have number : (Char.ofNat code).toNat = code := by
        rw [Char.ofNat, dif_pos valid]
        rfl
      exact not_isPlainSmall_of_beyond (by omega)
    · rw [Char.ofNat, dif_neg valid]
      rfl
  · subst same
    rfl

section

variable {c : Char} (before after : List Char)

theorem lowerChar_of_ascii (ascii : c.toNat < 128) : lowerChar before c after = [c.toLower] := by
  have table : ∀ code < 128, Char.ofNat (smallLetter capitalRuns code) = (Char.ofNat code).toLower := by
    decide +kernel
  have small := table c.toNat ascii
  rw [Char.ofNat_toNat] at small
  have noDot : c ≠ '\u0130' := by
    intro same
    subst same
    contradiction
  have noSigma : c ≠ 'Σ' := by
    intro same
    subst same
    contradiction
  rw [lowerChar, if_neg noDot, if_neg noSigma, small]

theorem lowerChar_of_beyond (beyond : 128 ≤ c.toNat) :
    ∃ d ∈ lowerChar before c after, isPlainSmall d = false := by
  rw [lowerChar]
  split
  · exact ⟨'\u0307', by simp, rfl⟩
  · split
    · split
      · exact ⟨_, List.mem_singleton_self _, rfl⟩
      · exact ⟨_, List.mem_singleton_self _, rfl⟩
    · exact ⟨_, List.mem_singleton_self _, not_isPlainSmall_ofNat (smallLetter_of_beyond beyond)⟩

end

theorem lowerCase_go_eq_iff {text word : List Char} (plain : ∀ c ∈ word, isPlainSmall c = true)
    (before : List Char) : lowerCase.go before text = word ↔ text.map Char.toLower = word := by
  induction text generalizing before word with
  | nil => rfl
  | cons c text ih =>
      rw [lowerCase.go, List.map_cons]
      by_cases ascii : c.toNat < 128
      · rw [lowerChar_of_ascii before text ascii]
        cases word with
        | nil => simp
        | cons d word =>
            have plain' : ∀ d ∈ word, isPlainSmall d = true :=
              fun e member => plain e (List.mem_cons_of_mem d member)
            simp [ih plain' (c :: before)]
      · -- A character beyond ASCII leaves something that is in no such word, on either side.
        have beyond := Nat.le_of_not_lt ascii
        obtain ⟨d, member, strange⟩ := lowerChar_of_beyond before text beyond
        refine iff_of_false ?_ ?_
        · intro same
          have found := plain d (same ▸ List.mem_append_left _ member)
          rw [strange] at found
          contradiction
        · intro same
          have found := plain c.toLower (same ▸ List.mem_cons_self)
          rw [toLower_of_beyond beyond, not_isPlainSmall_of_beyond beyond] at found
          contradiction

/-- The lower-case form is a word of plain letters just if the one of ASCII is. -/
theorem lowerCase_eq_iff {text word : List Char} (plain : ∀ c ∈ word, isPlainSmall c = true) :
    lowerCase text = word ↔ text.map Char.toLower = word :=
  lowerCase_go_eq_iff plain []

end TokenStream.Text
