import Mathlib.Data.List.Basic
import Mathlib.Data.List.TakeWhile
import RecordSmith.Decimal.Reading

/-! The texts that are numbers, by a grammar of their own. Reading accepts exactly them, and gives
the number that the grammar says.
-/

namespace RecordSmith.Decimal

open RecordSmith.Text (hexValue? numberValue)

-----------------------------------------------------------------------------------------
-- Grammar
-----------------------------------------------------------------------------------------

/-- A sign or none. The flag tells that it is a minus. -/
inductive IsSign : Bool → List Char → Prop
  | absent : IsSign false []
  | plus : IsSign false ['+']
  | minus : IsSign true ['-']

/-- A number with its sign. -/
def signed (negative : Bool) (value : Nat) : Int :=
  if negative then -value else value

/-- The number that decimal digits stand for. -/
def digitsValue (digits : List Char) : Nat :=
  Nat.ofDigitChars 10 digits 0

/-- The characters are decimal digits. -/
def AllDigits (cs : List Char) : Prop :=
  ∀ c ∈ cs, c.isDigit

/-- The text is an integer within a signed word of 64 bits. -/
inductive IsInteger : List Char → Int → Prop
  | intro {negative : Bool} {sign digits : List Char} (isSign : IsSign negative sign)
    (filled : digits ≠ []) (allDigits : AllDigits digits)
    (fits
      : -(twoTo 63 : Int) ≤ signed negative (digitsValue digits)
        ∧ signed negative (digitsValue digits) < twoTo 63)
    : IsInteger (sign ++ digits) (signed negative (digitsValue digits))

/-- The text is a point with the digits behind it, or nothing. -/
inductive IsFraction : List Char → List Char → Prop
  | absent : IsFraction [] []
  | point {digits : List Char} (allDigits : AllDigits digits) : IsFraction ('.' :: digits) digits

/-- The text is the letter of an exponent with the exponent, or nothing. -/
inductive IsExponent : List Char → Int → Prop
  | absent : IsExponent [] 0
  | power {mark : Char} {negative : Bool} {sign digits : List Char}
    (marked : mark = 'e' ∨ mark = 'E') (isSign : IsSign negative sign) (filled : digits ≠ [])
    (allDigits : AllDigits digits)
    : IsExponent (mark :: sign ++ digits) (signed negative (digitsValue digits))

/-- The text is a decimal fraction without a sign, and the value is the double nearest to it with
the given sign.
-/
inductive IsMagnitude (negative : Bool) : List Char → Float → Prop
  | intro {whole point fraction power : List Char} {exponent : Int} (allDigits : AllDigits whole)
    (isFraction : IsFraction point fraction) (filled : whole ≠ [] ∨ fraction ≠ [])
    (isExponent : IsExponent power exponent)
    : IsMagnitude negative (whole ++ (point ++ power))
        (nearest negative (digitsValue (whole ++ fraction)) (exponent - fraction.length))

/-- A word with small letters. -/
def lowered (word : List Char) : String :=
  String.ofList (word.map Char.toLower)

/-- The text is a decimal fraction, an infinity or no number; for the last two there are words in
any letter case.
-/
inductive IsReal : List Char → Float → Prop
  | decimal {negative : Bool} {sign body : List Char} {value : Float}
    (isSign : IsSign negative sign) (isMagnitude : IsMagnitude negative body value)
    : IsReal (sign ++ body) value
  | infinite {negative : Bool} {sign word : List Char} (isSign : IsSign negative sign)
    (named : lowered word = "inf" ∨ lowered word = "infinity")
    : IsReal (sign ++ word) (if negative then -(1.0 / 0.0) else 1.0 / 0.0)
  | undefined {negative : Bool} {sign word : List Char} (isSign : IsSign negative sign)
    (named : lowered word = "nan")
    : IsReal (sign ++ word) (0.0 / 0.0)

-----------------------------------------------------------------------------------------
-- Signs and digits
-----------------------------------------------------------------------------------------

theorem isDigit_iff {c : Char} : c.isDigit ↔ 48 ≤ c.toNat ∧ c.toNat ≤ 57 := by
  change (decide (48 ≤ c.toNat) && decide (c.toNat ≤ 57)) = true ↔ _
  rw [Bool.and_eq_true, decide_eq_true_iff, decide_eq_true_iff]

/-- Nothing that begins with another character than a sign has a sign cut off. -/
theorem IsSign.splitSign_append {negative : Bool} {sign body : List Char}
    (isSign : IsSign negative sign) (unsigned : ∀ c ∈ body.head?, c ≠ '-' ∧ c ≠ '+')
    : splitSign (sign ++ body) = (negative, body) := by
  cases isSign with
  | plus | minus => rfl
  | absent =>
      cases body with
      | nil => rfl
      | cons c rest =>
          obtain ⟨notMinus, notPlus⟩ := unsigned c rfl
          simp [splitSign, notMinus, notPlus]

theorem exists_sign (cs : List Char)
    : ∃ sign, IsSign (splitSign cs).1 sign ∧ cs = sign ++ (splitSign cs).2 := by
  fun_cases splitSign cs with
  | case1 rest => exact ⟨['-'], .minus, rfl⟩
  | case2 rest => exact ⟨['+'], .plus, rfl⟩
  | case3 => exact ⟨[], .absent, rfl⟩

theorem hexValue?_of_isDigit {c : Char} (digit : c.isDigit)
    : hexValue? c = some (c.toNat - '0'.toNat) := by
  have range : '0' ≤ c ∧ c ≤ '9' := isDigit_iff.mp digit
  simp [hexValue?, range]

theorem numberValue_eq {digits : List Char} (allDigits : AllDigits digits)
    : numberValue 10 digits = digitsValue digits := by
  unfold numberValue digitsValue Nat.ofDigitChars
  apply List.foldl_ext
  intro value c member
  rw [hexValue?_of_isDigit (allDigits c member), Nat.mul_comm]
  rfl

theorem AllDigits.all {cs : List Char} : cs.all Char.isDigit ↔ AllDigits cs :=
  List.all_eq_true

theorem AllDigits.unsigned {cs : List Char} (allDigits : AllDigits cs)
    : ∀ c ∈ cs.head?, c ≠ '-' ∧ c ≠ '+' := by
  intro c first
  have code := isDigit_iff.mp (allDigits c (List.mem_of_mem_head? first))
  constructor <;> rintro rfl <;> simp at code

-----------------------------------------------------------------------------------------
-- Integers
-----------------------------------------------------------------------------------------

theorem fits_iff {value : Int}
    : (-(twoTo 63 : Int) ≤ value && value < twoTo 63) = true
      ↔ -(twoTo 63 : Int) ≤ value ∧ value < twoTo 63 := by
  rw [Bool.and_eq_true, decide_eq_true_eq, decide_eq_true_eq]

theorem integer?_of_isInteger {cs : List Char} {value : Int} (isInteger : IsInteger cs value)
    : integer? cs = some value := by
  cases isInteger with
  | @intro negative sign digits isSign filled allDigits fits =>
      have parts := isSign.splitSign_append allDigits.unsigned
      have proper : ¬ (digits.isEmpty || !digits.all Char.isDigit) := by
        simp [filled, AllDigits.all.mpr allDigits]
      simp only [integer?, parts, if_neg proper, numberValue_eq allDigits]
      exact if_pos (fits_iff.mpr fits)

theorem isInteger_of_integer? {cs : List Char} {value : Int} (read : integer? cs = some value)
    : IsInteger cs value := by
  obtain ⟨sign, isSign, whole⟩ := exists_sign cs
  rcases parts : splitSign cs with ⟨negative, digits⟩
  rw [parts] at isSign whole
  simp only [integer?, parts] at read
  split at read
  · cases read
  next proper =>
  simp only [Bool.or_eq_true, List.isEmpty_iff, Bool.not_eq_true', not_or, Bool.not_eq_false]
    at proper
  have allDigits := AllDigits.all.mp proper.2
  rw [numberValue_eq allDigits, ← signed] at read
  split at read
  · next fits =>
      obtain rfl := Option.some.inj read
      rw [whole]
      exact .intro isSign proper.1 allDigits (fits_iff.mp fits)
  · cases read

/-- Reading an integer accepts exactly the integers within a signed word. -/
theorem integer?_eq_some_iff {cs : List Char} {value : Int}
    : integer? cs = some value ↔ IsInteger cs value :=
  ⟨isInteger_of_integer?, integer?_of_isInteger⟩

-----------------------------------------------------------------------------------------
-- Doubles
-----------------------------------------------------------------------------------------

theorem exponent?_of_isExponent {cs : List Char} {power : Int}
    (isExponent : IsExponent cs power)
    : exponent? cs = some power := by
  cases isExponent with
  | absent => rfl
  | @power mark negative sign digits marked isSign filled allDigits =>
      have parts := isSign.splitSign_append allDigits.unsigned
      have proper
          : ((mark = 'e' || mark = 'E') && !digits.isEmpty && digits.all Char.isDigit)
            = true := by
        simp [marked, filled, AllDigits.all.mpr allDigits]
      simp only [List.cons_append, exponent?, parts, if_pos proper, numberValue_eq allDigits]
      rfl

theorem isExponent_of_exponent? {cs : List Char} {power : Int} (read : exponent? cs = some power)
    : IsExponent cs power := by
  cases cs with
  | nil =>
      cases read
      exact .absent
  | cons mark rest =>
      obtain ⟨sign, isSign, whole⟩ := exists_sign rest
      rcases parts : splitSign rest with ⟨negative, digits⟩
      rw [parts] at isSign whole
      simp only [exponent?, parts] at read
      split at read
      · next proper =>
          simp only [Bool.and_eq_true, Bool.or_eq_true, decide_eq_true_eq, Bool.not_eq_true',
            List.isEmpty_eq_false_iff] at proper
          obtain ⟨⟨marked, filled⟩, digitsOnly⟩ := proper
          have allDigits := AllDigits.all.mp digitsOnly
          rw [numberValue_eq allDigits] at read
          obtain rfl := Option.some.inj read
          rw [whole]
          exact .power marked isSign filled allDigits
      · cases read

theorem IsExponent.head?_eq {cs : List Char} {power : Int} (isExponent : IsExponent cs power)
    : ∀ c ∈ cs.head?, c = 'e' ∨ c = 'E' := by
  cases isExponent with
  | absent => simp
  | power marked => simpa using marked

/-- Digits are read up to the first character that is none. -/
theorem AllDigits.span {digits rest : List Char} (allDigits : AllDigits digits)
    (stops : ∀ c ∈ rest.head?, c.isDigit = false)
    : (digits ++ rest).takeWhile Char.isDigit = digits
      ∧ (digits ++ rest).dropWhile Char.isDigit = rest := by
  rw [List.takeWhile_append_of_pos allDigits, List.dropWhile_append_of_pos allDigits]
  cases rest with
  | nil => simp
  | cons c more => simp [stops c rfl]

theorem allDigits_takeWhile (cs : List Char) : AllDigits (cs.takeWhile Char.isDigit) :=
  fun _ member => List.mem_takeWhile_imp member

/-- The digits behind a point at the front of a text, and the rest of the text. -/
def splitFraction : List Char → List Char × List Char
  | '.' :: rest => (rest.takeWhile Char.isDigit, rest.dropWhile Char.isDigit)
  | rest => ([], rest)

theorem IsFraction.splitFraction_append {point fraction power : List Char}
    (isFraction : IsFraction point fraction)
    (stops : ∀ c ∈ power.head?, c ≠ '.' ∧ c.isDigit = false)
    : splitFraction (point ++ power) = (fraction, power) := by
  cases isFraction with
  | absent =>
      cases power with
      | nil => rfl
      | cons c rest => simp [splitFraction, (stops c rfl).1]
  | point allDigits =>
      obtain ⟨front, back⟩ := allDigits.span fun c first => (stops c first).2
      simp only [List.cons_append, splitFraction, front, back]

theorem exists_fraction (cs : List Char)
    : ∃ point, IsFraction point (splitFraction cs).1 ∧ cs = point ++ (splitFraction cs).2 := by
  fun_cases splitFraction cs with
  | case1 rest =>
      refine ⟨'.' :: rest.takeWhile Char.isDigit, .point (allDigits_takeWhile rest), ?_⟩
      rw [List.cons_append, List.takeWhile_append_dropWhile]
  | case2 => exact ⟨[], .absent, rfl⟩

theorem magnitude?_eq (negative : Bool) (cs : List Char)
    : magnitude? negative cs
      = let whole := cs.takeWhile Char.isDigit
        let fraction := (splitFraction (cs.dropWhile Char.isDigit)).1
        if whole.isEmpty && fraction.isEmpty then none
        else
          (exponent? (splitFraction (cs.dropWhile Char.isDigit)).2).map fun exponent =>
            nearest negative (numberValue 10 (whole ++ fraction)) (exponent - fraction.length) :=
  rfl

theorem AllDigits.append {first second : List Char} (front : AllDigits first)
    (back : AllDigits second)
    : AllDigits (first ++ second) :=
  List.forall_mem_append.mpr ⟨front, back⟩

theorem IsFraction.allDigits {point fraction : List Char} (isFraction : IsFraction point fraction)
    : AllDigits fraction := by
  cases isFraction with
  | absent => exact List.forall_mem_nil _
  | point allDigits => exact allDigits

theorem magnitude?_of_isMagnitude {negative : Bool} {cs : List Char} {value : Float}
    (isMagnitude : IsMagnitude negative cs value)
    : magnitude? negative cs = some value := by
  cases isMagnitude with
  | @intro whole point fraction power exponent allDigits isFraction filled isExponent =>
      have marks : ∀ c ∈ power.head?, c ≠ '.' ∧ c.isDigit = false := by
        intro c first
        rcases isExponent.head?_eq c first with rfl | rfl <;> decide
      have stops : ∀ c ∈ (point ++ power).head?, c.isDigit = false := by
        cases isFraction with
        | absent => exact fun c first => (marks c first).2
        | point => simp
      obtain ⟨front, back⟩ := allDigits.span stops
      have proper : ¬ (whole.isEmpty && fraction.isEmpty) := by
        simpa [Classical.or_iff_not_imp_left] using filled
      simp only [magnitude?_eq, front, back, isFraction.splitFraction_append marks, if_neg proper,
        exponent?_of_isExponent isExponent, numberValue_eq (allDigits.append isFraction.allDigits),
        Option.map_some]

theorem isMagnitude_of_magnitude? {negative : Bool} {cs : List Char} {value : Float}
    (read : magnitude? negative cs = some value)
    : IsMagnitude negative cs value := by
  obtain ⟨point, isFraction, rest⟩ := exists_fraction (cs.dropWhile Char.isDigit)
  have allDigits := allDigits_takeWhile cs
  simp only [magnitude?_eq] at read
  split at read
  · cases read
  next proper =>
  obtain ⟨exponent, power, result⟩ := Option.map_eq_some_iff.mp read
  rw [numberValue_eq (allDigits.append isFraction.allDigits)] at result
  have whole : cs = cs.takeWhile Char.isDigit
      ++ (point ++ (splitFraction (cs.dropWhile Char.isDigit)).2) := by
    rw [← rest, List.takeWhile_append_dropWhile]
  rw [whole, ← result]
  exact .intro allDigits isFraction (by simpa [Classical.or_iff_not_imp_left] using proper)
    (isExponent_of_exponent? power)

-----------------------------------------------------------------------------------------
-- Words
-----------------------------------------------------------------------------------------

/-- A decimal fraction begins with a digit or a point. -/
theorem IsMagnitude.exists_head {negative : Bool} {cs : List Char} {value : Float}
    (isMagnitude : IsMagnitude negative cs value)
    : ∃ c rest, cs = c :: rest ∧ (c.isDigit ∨ c = '.') := by
  cases isMagnitude with
  | @intro whole point fraction power exponent allDigits isFraction filled isExponent =>
      cases whole with
      | cons c rest => exact ⟨c, _, rfl, .inl (allDigits c (.head _))⟩
      | nil =>
          cases isFraction with
          | absent => simp at filled
          | point => exact ⟨'.', _, rfl, .inr rfl⟩

theorem toLower_eq {c : Char} (low : c.toNat < 65) : c.toLower = c := by
  have noCapital : ¬ (c.val ≥ 'A'.val ∧ c.val ≤ 'Z'.val) := by
    intro capital
    have high : 65 ≤ c.toNat := capital.1
    omega
  unfold Char.toLower
  exact dif_neg noCapital

/-- A word begins with a letter, in whatever letter case it is. -/
theorem high_of_lowered {cs : List Char} {word : String} (named : lowered cs = word)
    (high : ∀ c ∈ word.toList.head?, 65 ≤ c.toNat)
    : ∀ c ∈ cs.head?, 65 ≤ c.toNat := by
  subst named
  cases cs with
  | nil => simp
  | cons c rest =>
      intro first member
      cases member
      refine Nat.le_of_not_lt fun low => ?_
      have letter := high c.toLower (by simp [lowered])
      rw [toLower_eq low] at letter
      omega

theorem high_of_word {cs : List Char}
    (named : lowered cs = "inf" ∨ lowered cs = "infinity" ∨ lowered cs = "nan")
    : ∀ c ∈ cs.head?, 65 ≤ c.toNat := by
  rcases named with same | same | same
  all_goals
    apply high_of_lowered same
    intro c first
    cases first
    decide

theorem unsigned_of_word {cs : List Char}
    (named : lowered cs = "inf" ∨ lowered cs = "infinity" ∨ lowered cs = "nan")
    : ∀ c ∈ cs.head?, c ≠ '-' ∧ c ≠ '+' := by
  intro c first
  have code := high_of_word named c first
  constructor <;> rintro rfl <;> simp at code

namespace IsMagnitude

variable {negative : Bool} {cs : List Char} {value : Float}

theorem unsigned (isMagnitude : IsMagnitude negative cs value)
    : ∀ c ∈ cs.head?, c ≠ '-' ∧ c ≠ '+' := by
  obtain ⟨c, rest, rfl, digit | rfl⟩ := isMagnitude.exists_head
  · have code := isDigit_iff.mp digit
    intro first member
    cases member
    constructor <;> rintro rfl <;> simp at code
  · simp

/-- A decimal fraction is none of the words. -/
theorem not_word (isMagnitude : IsMagnitude negative cs value)
    : ¬ (lowered cs = "inf" ∨ lowered cs = "infinity" ∨ lowered cs = "nan") := by
  intro named
  have letters := high_of_word named
  obtain ⟨c, rest, rfl, digit | rfl⟩ := isMagnitude.exists_head
  · have code := isDigit_iff.mp digit
    have letter := letters c rfl
    omega
  · simp at letters

end IsMagnitude

theorem double?_eq {cs body : List Char} {negative : Bool}
    (parts : splitSign cs = (negative, body))
    : double? cs
      = if lowered body = "inf" ∨ lowered body = "infinity" then
          some (if negative then -(1.0 / 0.0) else 1.0 / 0.0)
        else if lowered body = "nan" then some (0.0 / 0.0)
        else magnitude? negative body := by
  simp only [double?, parts, Bool.or_eq_true, decide_eq_true_eq]
  rfl

theorem double?_of_isReal {cs : List Char} {value : Float} (isReal : IsReal cs value)
    : double? cs = some value := by
  cases isReal with
  | decimal isSign isMagnitude =>
      have noWord := isMagnitude.not_word
      rw [double?_eq (isSign.splitSign_append isMagnitude.unsigned),
        if_neg fun infinite => noWord (infinite.imp_right .inl),
        if_neg fun undefined => noWord (.inr (.inr undefined)),
        magnitude?_of_isMagnitude isMagnitude]
  | infinite isSign named =>
      have unsigned := unsigned_of_word (named.imp_right .inl)
      rw [double?_eq (isSign.splitSign_append unsigned), if_pos named]
  | undefined isSign named =>
      have unsigned := unsigned_of_word (.inr (.inr named))
      rw [double?_eq (isSign.splitSign_append unsigned), named, if_neg (by decide), if_pos rfl]

theorem isReal_of_double? {cs : List Char} {value : Float} (read : double? cs = some value)
    : IsReal cs value := by
  obtain ⟨sign, isSign, whole⟩ := exists_sign cs
  rcases parts : splitSign cs with ⟨negative, body⟩
  rw [parts] at isSign whole
  rw [double?_eq parts] at read
  rw [whole]
  split at read
  · next named =>
      cases read
      exact .infinite isSign named
  · split at read
    · next named =>
        cases read
        exact .undefined isSign named
    · exact .decimal isSign (isMagnitude_of_magnitude? read)

/-- Reading a double accepts exactly the texts of doubles. -/
theorem double?_eq_some_iff {cs : List Char} {value : Float}
    : double? cs = some value ↔ IsReal cs value :=
  ⟨isReal_of_double?, double?_of_isReal⟩

end RecordSmith.Decimal
