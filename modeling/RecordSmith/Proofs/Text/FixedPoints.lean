import RecordSmith.Proofs.Text.Boundaries

/-! Snake case leaves what it made. No character that lower case writes has a lower case other
than itself, whatever stands around it, so that a second pass finds no capital, no boundary and
no sigma to choose a form for.
-/

namespace RecordSmith.Text

-----------------------------------------------------------------------------------------
-- The table of capitals
-----------------------------------------------------------------------------------------

namespace CapitalRun

/-- The code point of the lower case of the first capital. -/
def lowest (run : CapitalRun) : Nat :=
  (run.first + run.offset).toNat

/-- The code point of the lower case of the last capital. -/
def highest (run : CapitalRun) : Nat :=
  (run.last + run.offset).toNat

/-- No lower case of a capital of the run is a capital of the other run: it lies outside of it, or
between its steps of two.
-/
def clearOf (run other : CapitalRun) : Bool :=
  other.last.blt run.lowest || run.highest.blt other.first
  || (run.step == 2 || run.last == run.first)
    && other.step == 2
    && (run.lowest + other.first) % 2 == 1

/-- The run moves its capitals to characters, of which the dotted capital I is none. -/
def Lands (run : CapitalRun) : Prop :=
  run.offset ≠ 0
  ∧ 0 ≤ run.first + run.offset
  ∧ (run.highest < 0x130
    ∨ 0x130 < run.lowest ∧ run.highest < 0xD800
    ∨ 0xE000 ≤ run.lowest ∧ run.highest < 0x110000)

instance decidableLands (run : CapitalRun) : Decidable run.Lands :=
  inferInstanceAs (Decidable (_ ∧ _))

theorem holds_iff {run : CapitalRun} {code : Nat}
    : run.holds code
      ↔ (run.first ≤ code ∧ code ≤ run.last) ∧ (code - run.first) % run.step = 0 := by
  simp only [holds, Bool.and_eq_true, decide_eq_true_eq, beq_iff_eq]

variable {run other : CapitalRun} {code : Nat}

/-- The lower case lies as far from the lowest as the capital from the first. -/
theorem Lands.lower_eq (lands : run.Lands) (held : run.holds code)
    : (code + run.offset).toNat = run.lowest + (code - run.first)
      ∧ run.lowest + (code - run.first) ≤ run.highest := by
  obtain ⟨⟨low, high⟩, _⟩ := holds_iff.mp held
  have bottom := lands.2.1
  unfold lowest highest
  omega

theorem not_holds_of_clearOf (clear : run.clearOf other) (lands : run.Lands)
    (held : run.holds code)
    : ¬ other.holds (code + run.offset).toNat := by
  intro again
  obtain ⟨lower, bound⟩ := lands.lower_eq held
  rw [lower] at again
  obtain ⟨⟨low, high⟩, stepped⟩ := holds_iff.mp held
  obtain ⟨⟨otherLow, otherHigh⟩, otherStepped⟩ := holds_iff.mp again
  simp only [clearOf, Bool.or_eq_true, Bool.and_eq_true, Nat.blt_eq, beq_iff_eq] at clear
  rcases clear with (above | below) | ⟨⟨two | single, otherTwo⟩, odd⟩
  · omega
  · omega
  · rw [two] at stepped
    rw [otherTwo] at otherStepped
    omega
  · rw [otherTwo] at otherStepped
    omega

end CapitalRun

theorem capitalRuns_clear : capitalRuns.all fun run => capitalRuns.all run.clearOf := by
  decide +kernel

theorem capitalRuns_land : ∀ run ∈ capitalRuns, run.Lands := by
  decide +kernel

/-- A code point is no capital and stays, or a run that holds it moves it. -/
theorem lowerCode_cases (code : Nat)
    : (∀ run ∈ capitalRuns, ¬ run.holds code) ∧ lowerCode code = code
      ∨ ∃ run ∈ capitalRuns, run.holds code ∧ lowerCode code = (code + run.offset).toNat := by
  unfold lowerCode
  split
  · next run found =>
      have held := List.find?_some found
      exact .inr ⟨run, List.mem_of_find?_eq_some found, held, rfl⟩
  · next missing => exact .inl ⟨List.find?_eq_none.mp missing, rfl⟩

/-- A code point stays exactly when it is no capital. -/
theorem lowerCode_eq_self_iff {code : Nat}
    : lowerCode code = code ↔ ∀ run ∈ capitalRuns, ¬ run.holds code := by
  rcases lowerCode_cases code with ⟨unheld, same⟩ | ⟨run, among, held, moved⟩
  · exact ⟨fun _ => unheld, fun _ => same⟩
  · obtain ⟨moves, bottom, _⟩ := capitalRuns_land run among
    obtain ⟨⟨low, _⟩, _⟩ := CapitalRun.holds_iff.mp held
    constructor
    · intro same
      omega
    · intro unheld
      exact absurd held (unheld run among)

theorem lowerCode_lowerCode (code : Nat) : lowerCode (lowerCode code) = lowerCode code := by
  rcases lowerCode_cases code with ⟨_, same⟩ | ⟨run, among, held, moved⟩
  · rw [same, same]
  · rw [lowerCode_eq_self_iff, moved]
    intro other otherAmong
    have clear := List.all_eq_true.mp (List.all_eq_true.mp capitalRuns_clear run among) other
      otherAmong
    exact CapitalRun.not_holds_of_clearOf clear (capitalRuns_land run among) held

/-- The lower case of a character is a character, and no dotted capital I unless it was one. -/
theorem lowerCode_lands (c : Char)
    : (lowerCode c.toNat).isValidChar ∧ (lowerCode c.toNat = 0x130 → c.toNat = 0x130) := by
  rcases lowerCode_cases c.toNat with ⟨_, same⟩ | ⟨run, among, held, moved⟩
  · rw [same]
    exact ⟨c.valid, id⟩
  · have lands := capitalRuns_land run among
    obtain ⟨lower, bound⟩ := lands.lower_eq held
    have range := lands.2.2
    rw [moved, lower]
    exact ⟨by unfold Nat.isValidChar; omega, by omega⟩

-----------------------------------------------------------------------------------------
-- Lower case
-----------------------------------------------------------------------------------------

/-- Lower case leaves the character as it is, wherever it stands. -/
def IsLowered (c : Char) : Prop :=
  lowerChar c = [c]

theorem toNat_ofNat {code : Nat} (valid : code.isValidChar) : (Char.ofNat code).toNat = code := by
  rw [Char.ofNat, dif_pos valid]
  rfl

theorem isLowered_of_lowerCode {c : Char} (undotted : c ≠ 'İ') (same : lowerCode c.toNat = c.toNat)
    : IsLowered c := by
  unfold IsLowered lowerChar
  rw [if_neg undotted, same, Char.ofNat_toNat]

theorem isLowered_of_mem_lowerChar {c lower : Char} (member : lower ∈ lowerChar c)
    : IsLowered lower := by
  unfold lowerChar at member
  split at member
  · have both : IsLowered 'i' ∧ IsLowered '̇' := by
      unfold IsLowered
      decide +kernel
    simp only [List.mem_cons, List.not_mem_nil, or_false] at member
    rcases member with rfl | rfl
    · exact both.1
    · exact both.2
  · next undotted =>
      obtain ⟨valid, dotted⟩ := lowerCode_lands c
      cases List.mem_singleton.mp member
      apply isLowered_of_lowerCode
      · intro same
        have code : lowerCode c.toNat = 0x130 := by
          rw [← toNat_ofNat valid, same]
          rfl
        exact undotted (Char.toNat_inj.mp (dotted code))
      · rw [toNat_ofNat valid, lowerCode_lowerCode]

/-- All that lower case writes is lowered, by induction over the text; so are both forms of the
sigma.
-/
theorem isLowered_of_mem_lowerAfter {lower : Char} {before cs : List Char}
    (member : lower ∈ lowerAfter before cs)
    : IsLowered lower := by
  have sigmas : IsLowered 'ς' ∧ IsLowered 'σ' := by
    unfold IsLowered
    decide +kernel
  induction cs generalizing before with
  | nil => cases member
  | cons c rest ih =>
      rcases List.mem_append.mp member with here | later
      · split at here
        · cases List.mem_singleton.mp here
          unfold lowerSigma
          split
          · exact sigmas.1
          · exact sigmas.2
        · exact isLowered_of_mem_lowerChar here
      · exact ih later

/-- Lower case leaves a text of lowered characters, by induction over the text. A capital sigma is
not among them.
-/
theorem lowerAfter_of_lowered {before cs : List Char} (lowered : ∀ c ∈ cs, IsLowered c)
    : lowerAfter before cs = cs := by
  have sigma : ¬ IsLowered 'Σ' := by
    unfold IsLowered
    decide +kernel
  induction cs generalizing before with
  | nil => rfl
  | cons c rest ih =>
      obtain ⟨here, later⟩ := List.forall_mem_cons.mp lowered
      have small : c ≠ 'Σ' := fun same => sigma (same ▸ here)
      rw [lowerAfter, if_neg small, here, ih later]
      rfl

/-- A capital from A to Z is not lowered: the first run of the table moves it. -/
theorem IsLowered.not_isUpper {c : Char} (lowered : IsLowered c) : c.isUpper = false := by
  rw [Bool.eq_false_iff]
  intro capital
  have code := isUpper_iff.mp capital
  have undotted : c ≠ 'İ' := by
    intro same
    rw [same] at code
    exact absurd code (by decide)
  unfold IsLowered lowerChar at lowered
  rw [if_neg undotted, List.singleton_inj] at lowered
  have same : lowerCode c.toNat = c.toNat := by
    rw [← toNat_ofNat (lowerCode_lands c).1, lowered]
  have held : (CapitalRun.mk 0x41 0x5A 1 32).holds c.toNat :=
    CapitalRun.holds_iff.mpr ⟨code, Nat.mod_one _⟩
  exact lowerCode_eq_self_iff.mp same _ (.head _) held

-----------------------------------------------------------------------------------------
-- Snake case
-----------------------------------------------------------------------------------------

/-- A name without capitals has no boundaries, by induction over the name. -/
theorem markBoundaries_of_lowered {name : List Char} (lowered : ∀ c ∈ name, IsLowered c)
    : markBoundaries name = name := by
  rw [markBoundaries_eq_markWhere]
  induction name with
  | nil => rfl
  | cons c rest ih =>
      obtain ⟨here, later⟩ := List.forall_mem_cons.mp lowered
      have next : rest[0]?.any Char.isUpper = false := by
        cases rest with
        | nil => rfl
        | cons d more => exact (later d (.head _)).not_isUpper
      rw [markWhere_of_not_ends (by simp [endsAcronym, endsPlainWord, next]), ih later]

theorem snakeCase_eq (name : String)
    : snakeCase name = String.ofList (lowerAfter [] (markBoundaries name.toList)) := by
  rw [snakeCase, eq_markBoundaries_of_replaced (splitAcronyms_replaced name.toList)
    (splitWords_replaced (splitAcronyms name.toList))]

theorem isLowered_of_mem_snakeCase {c : Char} {name : String}
    (member : c ∈ (snakeCase name).toList)
    : IsLowered c := by
  rw [snakeCase_eq, String.toList_ofList] at member
  exact isLowered_of_mem_lowerAfter member

theorem snakeCase_of_lowered {name : String} (lowered : ∀ c ∈ name.toList, IsLowered c)
    : snakeCase name = name := by
  rw [snakeCase_eq, markBoundaries_of_lowered lowered, lowerAfter_of_lowered lowered,
    String.ofList_toList]

/-- Snake case leaves its own results, which have no character from A to Z. It leaves exactly the
names of characters that lower case leaves, be they names in snake case or not.
-/
theorem snakeCase_idempotent (name : String)
    : snakeCase (snakeCase name) = snakeCase name
      ∧ (∀ c ∈ (snakeCase name).toList, ¬ ('A' ≤ c ∧ c ≤ 'Z'))
      ∧ (snakeCase name = name ↔ ∀ c ∈ name.toList, lowerChar c = [c]) := by
  refine ⟨?_, ?_, ?_, ?_⟩
  · exact snakeCase_of_lowered fun c member => isLowered_of_mem_snakeCase member
  · intro c member range
    have capital : c.isUpper := isUpper_iff.mpr range
    cases (isLowered_of_mem_snakeCase member).not_isUpper.symm.trans capital
  · intro same c member
    rw [← same] at member
    exact isLowered_of_mem_snakeCase member
  · exact snakeCase_of_lowered

end RecordSmith.Text
