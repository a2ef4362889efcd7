import RecordSmith.Text.SnakeCase

/-! Where snake case puts underscores. It replaces the matches of two patterns one after the
other, from left to right and without overlaps, and a match takes in letters on both sides of its
underscore. No boundary between words gets lost by that, and none is marked twice: both passes
together put one underscore at every boundary of the name as it was given.
-/

namespace RecordSmith.Text

-----------------------------------------------------------------------------------------
-- Boundaries of a name and matches of patterns
-----------------------------------------------------------------------------------------

/-- A word ends at this place of the name. Either two capitals stand here and a small letter
follows them, or a small letter or a digit stands here and a capital follows it.
-/
def endsWordAt (name : List Char) (place : Nat) : Bool :=
  (name[place]?.any Char.isUpper && name[place + 1]?.any Char.isUpper
    && name[place + 2]?.any Char.isLower)
  || (name[place]?.any endsWord && name[place + 1]?.any Char.isUpper)

/-- The name with an underscore behind every character at which a word ends. -/
def markBoundaries (name : List Char) : List Char :=
  name.zipIdx.flatMap fun (c, place) => if endsWordAt name place then [c, '_'] else [c]

/-- The text is rewritten by an underscore between the two groups of each match of a pattern.
A match is taken where one begins, with the longest first group there is, and the search for the
next one goes on behind it.
-/
inductive Replaced (pattern : List Char → List Char → Prop) : List Char → List Char → Prop
  | done : Replaced pattern [] []
  | skip {c : Char} {rest written : List Char}
    (unmatched : ∀ first second after,
      c :: rest = first ++ second ++ after → ¬ pattern first second)
    (later : Replaced pattern rest written)
    : Replaced pattern (c :: rest) (c :: written)
  | replace {first second rest written : List Char} (matched : pattern first second)
    (longest : ∀ other otherSecond after,
      first ++ second ++ rest = other ++ otherSecond ++ after → pattern other otherSecond
      → other.length ≤ first.length)
    (later : Replaced pattern rest written)
    : Replaced pattern (first ++ second ++ rest) (first ++ '_' :: second ++ written)

/-- One or more capitals, then a capital and a small letter. -/
def IsAcronymEnd (first second : List Char) : Prop :=
  first ≠ []
  ∧ (∀ c ∈ first, c.isUpper)
  ∧ ∃ capital small, second = [capital, small] ∧ capital.isUpper ∧ small.isLower

/-- A small letter or a digit, then a capital. -/
def IsWordEnd (first second : List Char) : Prop :=
  ∃ c capital, first = [c] ∧ second = [capital] ∧ endsWord c ∧ capital.isUpper

-----------------------------------------------------------------------------------------
-- Kinds of characters
-----------------------------------------------------------------------------------------

theorem isUpper_iff {c : Char} : c.isUpper ↔ 65 ≤ c.toNat ∧ c.toNat ≤ 90 := by
  change decide (65 ≤ c.toNat ∧ c.toNat ≤ 90) = true ↔ _
  rw [decide_eq_true_iff]

theorem isLower_iff {c : Char} : c.isLower ↔ 97 ≤ c.toNat ∧ c.toNat ≤ 122 := by
  change (decide (97 ≤ c.toNat) && decide (c.toNat ≤ 122)) = true ↔ _
  rw [Bool.and_eq_true, decide_eq_true_iff, decide_eq_true_iff]

theorem not_isUpper_of_isLower {c : Char} (small : c.isLower) : c.isUpper = false := by
  rw [Bool.eq_false_iff]
  intro capital
  have low := isLower_iff.mp small
  have high := isUpper_iff.mp capital
  omega

theorem not_isLower_of_isUpper {c : Char} (capital : c.isUpper) : c.isLower = false := by
  rw [Bool.eq_false_iff]
  intro small
  rw [not_isUpper_of_isLower small] at capital
  cases capital

/-- A capital does not end a word: no range of digits holds one. -/
theorem not_endsWord_of_isUpper {c : Char} (capital : c.isUpper) : endsWord c = false := by
  have outside : ∀ range ∈ decimalDigitRanges, range.last < 65 ∨ 90 < range.first := by
    decide
  have noDigit : isDecimalDigit c = false := by
    rw [Bool.eq_false_iff]
    intro digit
    obtain ⟨range, among, low, high⟩ := inRanges_iff.mp digit
    have code := isUpper_iff.mp capital
    rcases outside range among with before | behind
    · omega
    · omega
  rw [endsWord, not_isLower_of_isUpper capital, noDigit, Bool.or_self]

-----------------------------------------------------------------------------------------
-- Underscores by what follows
-----------------------------------------------------------------------------------------

/-- Puts an underscore behind every character that ends something, as seen from what follows. -/
def markWhere (ends : Char → List Char → Bool) : List Char → List Char
  | [] => []
  | c :: rest =>
      if ends c rest then c :: '_' :: markWhere ends rest else c :: markWhere ends rest

/-- The character is a capital, and another capital and a small letter follow. -/
def endsAcronym (c : Char) (rest : List Char) : Bool :=
  c.isUpper && rest[0]?.any Char.isUpper && rest[1]?.any Char.isLower

/-- The character is a small letter or a digit, and a capital follows. -/
def endsPlainWord (c : Char) (rest : List Char) : Bool :=
  endsWord c && rest[0]?.any Char.isUpper

theorem head?_markWhere (ends : Char → List Char → Bool) (name : List Char)
    : (markWhere ends name).head? = name.head? := by
  cases name with
  | nil => rfl
  | cons c rest =>
      rw [markWhere]
      split
      · rfl
      · rfl

theorem markWhere_of_ends {ends : Char → List Char → Bool} {c : Char} {rest : List Char}
    (here : ends c rest = true)
    : markWhere ends (c :: rest) = c :: '_' :: markWhere ends rest := by
  rw [markWhere, if_pos here]

theorem markWhere_of_not_ends {ends : Char → List Char → Bool} {c : Char} {rest : List Char}
    (nothing : ends c rest = false)
    : markWhere ends (c :: rest) = c :: markWhere ends rest := by
  rw [markWhere, nothing]
  rfl

/-- Marking words in a name whose acronyms are marked is marking both at once, by induction over
the name. Neither the underscores nor what stands before one can end a word.
-/
theorem markWhere_markWhere (name : List Char)
    : markWhere endsPlainWord (markWhere endsAcronym name)
      = markWhere (fun c rest => endsAcronym c rest || endsPlainWord c rest) name := by
  induction name with
  | nil => rfl
  | cons c rest ih =>
      have sameHead : (markWhere endsAcronym rest)[0]? = rest[0]? := by
        rw [← List.head?_eq_getElem?, ← List.head?_eq_getElem?, head?_markWhere]
      by_cases acronym : endsAcronym c rest
      · have capital : c.isUpper := by
          simp only [endsAcronym, Bool.and_eq_true] at acronym
          exact acronym.1.1
        have here : endsPlainWord c ('_' :: markWhere endsAcronym rest) = false := by
          simp [endsPlainWord, not_endsWord_of_isUpper capital]
        have underscore : endsPlainWord '_' (markWhere endsAcronym rest) = false := by
          have none : endsWord '_' = false := by decide
          simp [endsPlainWord, none]
        rw [markWhere_of_ends acronym, markWhere_of_not_ends here,
          markWhere_of_not_ends underscore, ih, markWhere_of_ends (by simp [acronym])]
      · have same : endsPlainWord c (markWhere endsAcronym rest) = endsPlainWord c rest := by
          rw [endsPlainWord, endsPlainWord, sameHead]
        have acronym : endsAcronym c rest = false := by simpa using acronym
        rw [markWhere_of_not_ends acronym]
        cases word : endsPlainWord c rest with
        | true =>
            rw [markWhere_of_ends (same.trans word), ih,
              markWhere_of_ends (by simp [acronym, word])]
        | false =>
            rw [markWhere_of_not_ends (same.trans word), ih,
              markWhere_of_not_ends (by simp [acronym, word])]

/-- The boundaries of a name can be told from what follows, by induction over the name. -/
theorem markBoundaries_eq_markWhere (name : List Char)
    : markBoundaries name
      = markWhere (fun c rest => endsAcronym c rest || endsPlainWord c rest) name := by
  induction name with
  | nil => rfl
  | cons c rest ih =>
      have here : endsWordAt (c :: rest) 0
          = (endsAcronym c rest || endsPlainWord c rest) := by
        simp [endsWordAt, endsAcronym, endsPlainWord]
      have behind (place : Nat) : endsWordAt (c :: rest) (place + 1) = endsWordAt rest place := by
        simp [endsWordAt]
      rw [markWhere, ← ih, markBoundaries, List.zipIdx_cons, List.flatMap_cons,
        List.zipIdx_succ, List.flatMap_map]
      simp only [here, behind]
      rw [← markBoundaries]
      split
      · rfl
      · rfl

-----------------------------------------------------------------------------------------
-- Replacing marks every boundary
-----------------------------------------------------------------------------------------

/-- A match of the acronym pattern holds one boundary, before its last capital, by induction over
the capitals in front of it.
-/
theorem IsAcronymEnd.markWhere_append {first second : List Char}
    (matched : IsAcronymEnd first second) (rest : List Char)
    : markWhere endsAcronym (first ++ second ++ rest)
      = first ++ '_' :: second ++ markWhere endsAcronym rest := by
  obtain ⟨nonempty, capitals, capital, small, rfl, isCapital, isSmall⟩ := matched
  have notCapital := not_isUpper_of_isLower isSmall
  induction first with
  | nil => exact absurd rfl nonempty
  | cons c more ih =>
      have here := capitals c (.head _)
      cases more with
      | nil =>
          have ends : endsAcronym c (capital :: small :: rest) := by
            simp [endsAcronym, here, isCapital, isSmall]
          have inside : endsAcronym capital (small :: rest) = false := by
            simp [endsAcronym, notCapital]
          have behind : endsAcronym small rest = false := by
            simp [endsAcronym, notCapital]
          simp only [List.cons_append, List.nil_append]
          rw [markWhere_of_ends ends, markWhere_of_not_ends inside, markWhere_of_not_ends behind]
      | cons next later =>
          have goesOn : endsAcronym c (next :: later ++ [capital, small] ++ rest) = false := by
            cases later with
            | nil => simp [endsAcronym, not_isLower_of_isUpper isCapital]
            | cons third _ =>
                have isThird := capitals third (.tail _ (.tail _ (.head _)))
                simp [endsAcronym, not_isLower_of_isUpper isThird]
          have behind := ih (by simp) fun d among => capitals d (.tail _ among)
          simp only [List.cons_append] at goesOn behind ⊢
          rw [markWhere_of_not_ends goesOn, behind]

/-- Replacing the matches of the acronym pattern marks all ends of acronyms. -/
theorem Replaced.eq_markWhere_acronym {name written : List Char}
    (replaced : Replaced IsAcronymEnd name written)
    : written = markWhere endsAcronym name := by
  induction replaced with
  | done => rfl
  | @skip c rest written unmatched _ ih =>
      have nothing : endsAcronym c rest = false := by
        rw [Bool.eq_false_iff]
        intro ends
        simp only [endsAcronym, Bool.and_eq_true, Option.any_eq_true] at ends
        obtain ⟨⟨isCapital, capital, second, nextCapital⟩, small, third, isSmall⟩ := ends
        match rest, second, third with
        | _ :: _ :: after, rfl, rfl =>
            exact unmatched [c] [capital, small] after rfl
              ⟨by simp, by simpa using isCapital, capital, small, rfl, nextCapital, isSmall⟩
      rw [markWhere_of_not_ends nothing, ← ih]
  | replace matched _ _ ih => rw [matched.markWhere_append, ← ih]

/-- Replacing the matches of the word pattern marks all ends of plain words. -/
theorem Replaced.eq_markWhere_word {name written : List Char}
    (replaced : Replaced IsWordEnd name written)
    : written = markWhere endsPlainWord name := by
  induction replaced with
  | done => rfl
  | @skip c rest written unmatched _ ih =>
      have nothing : endsPlainWord c rest = false := by
        rw [Bool.eq_false_iff]
        intro ends
        simp only [endsPlainWord, Bool.and_eq_true, Option.any_eq_true] at ends
        obtain ⟨isEnd, capital, next, isCapital⟩ := ends
        match rest, next with
        | _ :: after, rfl =>
            exact unmatched [c] [capital] after rfl ⟨c, capital, rfl, rfl, isEnd, isCapital⟩
      rw [markWhere_of_not_ends nothing, ← ih]
  | @replace first second rest written matched _ _ ih =>
      obtain ⟨c, capital, rfl, rfl, isEnd, isCapital⟩ := matched
      have here : endsPlainWord c (capital :: rest) := by
        simp [endsPlainWord, isEnd, isCapital]
      have behind : endsPlainWord capital rest = false := by
        simp [endsPlainWord, not_endsWord_of_isUpper isCapital]
      simp only [List.cons_append, List.nil_append]
      rw [markWhere_of_ends here, markWhere_of_not_ends behind, ← ih]

-----------------------------------------------------------------------------------------
-- Both passes replace matches
-----------------------------------------------------------------------------------------

section

variable {run rest : List Char}

theorem takeWhile_isUpper_append (capitals : ∀ c ∈ run, c.isUpper)
    (stops : ∀ c ∈ rest.head?, c.isUpper = false)
    : (run ++ rest).takeWhile Char.isUpper = run := by
  have nothing : rest.takeWhile Char.isUpper = [] := by
    cases rest with
    | nil => rfl
    | cons c more =>
        rw [List.takeWhile_cons, stops c rfl]
        rfl
  rw [List.takeWhile_append_of_pos capitals, nothing, List.append_nil]

/-- A match that begins with a run of capitals takes in the whole run and one small letter
behind it, wherever its first group ends.
-/
theorem IsAcronymEnd.spans_run {first second after : List Char}
    (matched : IsAcronymEnd first second) (capitals : ∀ c ∈ run, c.isUpper)
    (stops : ∀ c ∈ rest.head?, c.isUpper = false)
    (same : run ++ rest = first ++ second ++ after)
    : ∃ last small,
        run = first ++ [last]
        ∧ second = [last, small]
        ∧ rest = small :: after
        ∧ small.isLower := by
  obtain ⟨_, firstCapitals, capital, small, rfl, isCapital, isSmall⟩ := matched
  have regrouped : run ++ rest = (first ++ [capital]) ++ small :: after := by
    simpa using same
  have allCapitals : ∀ c ∈ first ++ [capital], c.isUpper := by
    intro c member
    rcases List.mem_append.mp member with inFirst | last
    · exact firstCapitals c inFirst
    · cases List.mem_singleton.mp last
      exact isCapital
  have smallStops : ∀ c ∈ (small :: after).head?, c.isUpper = false := by
    simpa using not_isUpper_of_isLower isSmall
  have whole : run = first ++ [capital] :=
    calc run
        = (run ++ rest).takeWhile Char.isUpper := (takeWhile_isUpper_append capitals stops).symm
      _ = first ++ [capital] := by
          rw [regrouped, takeWhile_isUpper_append allCapitals smallStops]
  subst whole
  exact ⟨capital, small, rfl, rfl, List.append_cancel_left regrouped, isSmall⟩

/-- A run of capitals is left as it is when it is too short or no small letter follows, by
induction over the run.
-/
theorem Replaced.skip_run {written : List Char} (capitals : ∀ c ∈ run, c.isUpper)
    (stops : ∀ c ∈ rest.head?, c.isUpper = false)
    (whole : run.length < 2 ∨ startsSmall rest = false)
    (later : Replaced IsAcronymEnd rest written)
    : Replaced IsAcronymEnd (run ++ rest) (run ++ written) := by
  induction run with
  | nil => exact later
  | cons c more ih =>
      refine .skip ?_ (ih (fun d among => capitals d (.tail _ among)) ?_)
      · intro first second after same matched
        obtain ⟨last, small, spanned, _, begins, isSmall⟩ :=
          matched.spans_run capitals stops same
        rcases whole with short | plain
        · have filled : 0 < first.length := List.length_pos_iff.mpr matched.1
          rw [spanned, List.length_append, List.length_singleton] at short
          omega
        · rw [begins, startsSmall, isSmall] at plain
          cases plain
      · rcases whole with short | plain
        · rw [List.length_cons] at short
          exact .inl (by omega)
        · exact .inr plain

/-- A run of two or more capitals is split before its last one when a small letter follows. The
match there is the only one, so that it has the longest first group.
-/
theorem Replaced.split_run {last small : Char} {written : List Char} (filled : run ≠ [])
    (capitals : ∀ c ∈ run ++ [last], c.isUpper) (isSmall : small.isLower)
    (later : Replaced IsAcronymEnd rest written)
    : Replaced IsAcronymEnd (run ++ [last, small] ++ rest)
        (run ++ '_' :: [last, small] ++ written) := by
  have matched : IsAcronymEnd run [last, small] :=
    ⟨filled, fun c among => capitals c (List.mem_append_left _ among), last, small, rfl,
      capitals last (by simp), isSmall⟩
  refine .replace matched ?_ later
  intro other otherSecond after same otherMatched
  have regrouped : (run ++ [last]) ++ small :: rest = other ++ otherSecond ++ after := by
    simpa using same
  have stops : ∀ c ∈ (small :: rest).head?, c.isUpper = false := by
    simpa using not_isUpper_of_isLower isSmall
  obtain ⟨_, _, spanned, _⟩ := otherMatched.spans_run capitals stops regrouped
  have lengths := congrArg List.length spanned
  simp only [List.length_append, List.length_singleton] at lengths
  omega

theorem splitRun_of_whole (whole : run.length < 2 ∨ startsSmall rest = false)
    : splitRun rest run = run.reverse := by
  match run, whole with
  | [], _ => rfl
  | [_], _ => rfl
  | _ :: _ :: _, .inl short =>
      simp only [List.length_cons] at short
      omega
  | _ :: _ :: _, .inr plain => simp [splitRun, plain]

end

/-- Reading on behind a run of capitals, the first pass replaces matches of the acronym pattern in
the run and in what follows, by induction over what follows.
-/
theorem splitAcronymsFrom_replaced {run : List Char} (capitals : ∀ c ∈ run, c.isUpper)
    (name : List Char)
    : Replaced IsAcronymEnd (run.reverse ++ name) (splitAcronymsFrom run name) := by
  have reversed {run : List Char} (capitals : ∀ c ∈ run, c.isUpper)
      : ∀ c ∈ run.reverse, c.isUpper :=
    fun c member => capitals c (List.mem_reverse.mp member)
  induction name generalizing run with
  | nil =>
      have unsplit : splitAcronymsFrom run [] = run.reverse ++ [] := by
        rw [splitAcronymsFrom, splitRun_of_whole (.inr rfl), List.append_nil]
      rw [unsplit]
      exact .skip_run (reversed capitals) (by simp) (.inr rfl) .done
  | cons c rest ih =>
      rw [splitAcronymsFrom]
      split
      · next capital =>
          have grown : ∀ d ∈ c :: run, d.isUpper := by
            intro d member
            rcases List.mem_cons.mp member with rfl | before
            · exact capital
            · exact capitals d before
          simpa using ih grown
      · next plain =>
          have notCapital : c.isUpper = false := by simpa using plain
          have noRun : ∀ d ∈ ([] : List Char), d.isUpper := by simp
          have later : Replaced IsAcronymEnd rest (splitAcronymsFrom [] rest) := ih noRun
          have stops : ∀ d ∈ (c :: rest).head?, d.isUpper = false := by simpa using notCapital
          -- The run ends before `c`, which belongs to the match if there is one, and else is
          -- passed over like the run.
          by_cases whole : run.length < 2 ∨ startsSmall (c :: rest) = false
          · rw [splitRun_of_whole whole]
            refine .skip_run (reversed capitals) stops (by simpa using whole) (.skip ?_ later)
            intro first second after same matched
            obtain ⟨_, _, nothing, _⟩ := matched.spans_run noRun stops same
            simp at nothing
          · match run, capitals, whole with
            | [], _, short => simp at short
            | [_], _, short => simp at short
            | last :: before :: earlier, capitals, long =>
                have small : c.isLower := by simpa [startsSmall] using long
                have inOrder : ∀ d ∈ (before :: earlier).reverse ++ [last], d.isUpper := by
                  simpa using reversed capitals
                simpa [splitRun, startsSmall, small]
                  using Replaced.split_run (by simp) inOrder small later

theorem splitAcronyms_replaced (name : List Char)
    : Replaced IsAcronymEnd name (splitAcronyms name) := by
  have noRun : ∀ c ∈ ([] : List Char), c.isUpper := by simp
  exact splitAcronymsFrom_replaced noRun name

theorem splitWords_cons {c : Char} (unended : endsWord c = false) (rest : List Char)
    : splitWords (c :: rest) = c :: splitWords rest := by
  cases rest with
  | nil => rfl
  | cons d more => simp [splitWords, unended]

/-- The second pass replaces matches of the word pattern. The capital of a match can be read
again, since no match begins with it.
-/
theorem splitWords_replaced (name : List Char)
    : Replaced IsWordEnd name (splitWords name) := by
  match name with
  | [] => exact .done
  | [c] =>
      refine .skip ?_ .done
      intro first second after same matched
      obtain ⟨_, _, rfl, rfl, _⟩ := matched
      simp at same
  | c :: d :: rest =>
      rw [splitWords]
      split
      · next boundary =>
          obtain ⟨ends, capital⟩ := Bool.and_eq_true_iff.mp boundary
          have matched : IsWordEnd [c] [d] := ⟨c, d, rfl, rfl, ends, capital⟩
          have replaced := Replaced.replace matched ?_ (splitWords_replaced rest)
          · rw [splitWords_cons (not_endsWord_of_isUpper capital)]
            exact replaced
          · intro other otherSecond after _ otherMatched
            obtain ⟨_, _, rfl, rfl, _⟩ := otherMatched
            exact Nat.le_refl _
      · next inside =>
          refine .skip ?_ (splitWords_replaced (d :: rest))
          intro first second after same matched
          obtain ⟨_, _, rfl, rfl, ends, capital⟩ := matched
          cases same
          exact inside (by simp [ends, capital])

-----------------------------------------------------------------------------------------
-- Snake case
-----------------------------------------------------------------------------------------

/-- What both passes leave is the name with its boundaries marked. -/
theorem eq_markBoundaries_of_replaced {name split written : List Char}
    (first : Replaced IsAcronymEnd name split) (second : Replaced IsWordEnd split written)
    : written = markBoundaries name := by
  rw [second.eq_markWhere_word, first.eq_markWhere_acronym, markWhere_markWhere,
    markBoundaries_eq_markWhere]

/-- Replacing the matches of both patterns, one pattern after the other, has one result, and this
is the name with an underscore at each of its boundaries. Snake case is its lower case.
-/
theorem snakeCase_at_boundaries (name : String)
    : (∀ written,
        (∃ split,
          Replaced IsAcronymEnd name.toList split ∧ Replaced IsWordEnd split written)
        ↔ written = markBoundaries name.toList)
      ∧ snakeCase name = lowerCase (String.ofList (markBoundaries name.toList)) := by
  have first := splitAcronyms_replaced name.toList
  have second := splitWords_replaced (splitAcronyms name.toList)
  have both := eq_markBoundaries_of_replaced first second
  refine ⟨?_, ?_⟩
  · intro written
    constructor
    · intro passes
      obtain ⟨split, toSplit, toWritten⟩ := passes
      exact eq_markBoundaries_of_replaced toSplit toWritten
    · intro same
      rw [same, ← both]
      exact ⟨_, first, second⟩
  · rw [snakeCase, lowerCase, both, String.toList_ofList]

end RecordSmith.Text
