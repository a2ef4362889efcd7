import RecordSmith.Proofs.Text.Blocks

/-! Lines of a program, which end at line feeds and at carriage returns, too. A text that is made of
joined lines has further lines of this kind behind its carriage returns.
-/

namespace RecordSmith.Text

-----------------------------------------------------------------------------------------
-- Cutting behind line feeds and carriage returns
-----------------------------------------------------------------------------------------

theorem fullLinesOf_feed (rest : List Char)
    : fullLinesOf ('\n' :: rest) = ['\n'] :: fullLinesOf rest := by
  rw [fullLinesOf]

theorem fullLinesOf_return {rest : List Char} (alone : rest.head? ≠ some '\n')
    : fullLinesOf ('\r' :: rest) = ['\r'] :: fullLinesOf rest := by
  rw [fullLinesOf]
  rintro more rfl
  exact alone rfl

theorem fullLinesOf_other {c : Char} (notFeed : c ≠ '\n') (notReturn : c ≠ '\r')
    (rest : List Char)
    : fullLinesOf (c :: rest) = consFirst c (fullLinesOf rest) := by
  rw [fullLinesOf]
  · intro _ same
    exact absurd same notReturn
  · exact notFeed
  · exact notReturn

theorem exists_fullLinesOf_cons (c : Char) (rest : List Char)
    : ∃ line more, fullLinesOf (c :: rest) = (c :: line) :: more := by
  unfold fullLinesOf
  split
  · next same => cases same
  · next same =>
      cases same
      exact ⟨['\n'], _, rfl⟩
  · next same =>
      cases same
      exact ⟨[], _, rfl⟩
  · next same =>
      cases same
      exact ⟨[], _, rfl⟩
  · next same =>
      cases same
      cases fullLinesOf rest <;> exact ⟨_, _, rfl⟩

-----------------------------------------------------------------------------------------
-- Lines that begin with a number sign
-----------------------------------------------------------------------------------------

/-- The text begins with a number sign, unless it is empty. -/
def Marked (cs : List Char) : Prop :=
  ∀ c ∈ cs.head?, c = '#'

/-- Each line of the text behind the first begins with a number sign. -/
def LaterMarked (cs : List Char) : Prop :=
  ∀ line ∈ (fullLinesOf cs).tail, line.head? = some '#'

theorem forall_fullLinesOf_iff {cs : List Char}
    : (∀ line ∈ fullLinesOf cs, line.head? = some '#') ↔ Marked cs ∧ LaterMarked cs := by
  cases cs with
  | nil => simp [fullLinesOf, Marked, LaterMarked]
  | cons c rest =>
      obtain ⟨line, more, lines⟩ := exists_fullLinesOf_cons c rest
      simp [Marked, LaterMarked, lines]

theorem laterMarked_other {c : Char} (notFeed : c ≠ '\n') (notReturn : c ≠ '\r')
    (rest : List Char)
    : LaterMarked (c :: rest) ↔ LaterMarked rest := by
  unfold LaterMarked
  rw [fullLinesOf_other notFeed notReturn]
  cases fullLinesOf rest <;> rfl

theorem laterMarked_feed (rest : List Char)
    : LaterMarked ('\n' :: rest) ↔ Marked rest ∧ LaterMarked rest := by
  rw [← forall_fullLinesOf_iff, LaterMarked, fullLinesOf_feed, List.tail_cons]

theorem laterMarked_return {rest : List Char} (alone : rest.head? ≠ some '\n')
    : LaterMarked ('\r' :: rest) ↔ Marked rest ∧ LaterMarked rest := by
  rw [← forall_fullLinesOf_iff, LaterMarked, fullLinesOf_return alone, List.tail_cons]

/-- Without line feeds, a line begins behind each carriage return. -/
theorem laterMarked_iff {cs : List Char} (single : '\n' ∉ cs)
    : LaterMarked cs ↔ ∀ after, '\r' :: after <:+ cs → Marked after := by
  induction cs with
  | nil => simp [LaterMarked, fullLinesOf]
  | cons c rest ih =>
      have notFeed : c ≠ '\n' := fun same => single (same ▸ .head _)
      have later := ih fun member => single (.tail _ member)
      simp only [List.suffix_cons_iff, List.cons.injEq]
      by_cases isReturn : c = '\r'
      · subst isReturn
        have alone : rest.head? ≠ some '\n' := fun feed => single (.tail _ (List.mem_of_head? feed))
        rw [laterMarked_return alone, later]
        constructor
        · rintro ⟨first, others⟩ after (⟨_, rfl⟩ | behind)
          · exact first
          · exact others after behind
        · intro marked
          exact ⟨marked rest (.inl ⟨rfl, rfl⟩), fun after behind => marked after (.inr behind)⟩
      · rw [laterMarked_other notFeed isReturn, later]
        constructor
        · rintro others after (⟨same, _⟩ | behind)
          · exact absurd same.symm isReturn
          · exact others after behind
        · exact fun marked after behind => marked after (.inr behind)

/-- A line feed begins a line, when no carriage return stands before it. -/
theorem laterMarked_append_feed {line : List Char} (single : '\n' ∉ line)
    (ends : line.getLast? ≠ some '\r') (rest : List Char)
    : LaterMarked (line ++ '\n' :: rest) ↔ LaterMarked line ∧ Marked rest ∧ LaterMarked rest := by
  induction line with
  | nil =>
      rw [List.nil_append, laterMarked_feed]
      simp [LaterMarked, fullLinesOf]
  | cons c line ih =>
      have notFeed : c ≠ '\n' := fun same => single (same ▸ .head _)
      have lineSingle : '\n' ∉ line := fun member => single (.tail _ member)
      have later : line.getLast? ≠ some '\r' := by
        intro last
        apply ends
        rw [List.getLast?_cons, last]
        rfl
      by_cases isReturn : c = '\r'
      · subst isReturn
        have filled : line ≠ [] := by
          rintro rfl
          exact ends rfl
        have alone : line.head? ≠ some '\n' := fun feed => lineSingle (List.mem_of_head? feed)
        have front : (line ++ '\n' :: rest).head? = line.head? :=
          List.head?_append_of_ne_nil line filled
        rw [List.cons_append, laterMarked_return alone, laterMarked_return (front ▸ alone),
          ih lineSingle later, Marked, front, ← Marked, and_assoc]
      · rw [List.cons_append, laterMarked_other notFeed isReturn,
          laterMarked_other notFeed isReturn, ih lineSingle later]

theorem Trimmed.getLast?_ne_return {line : String} (trimmed : Trimmed line)
    : line.toList.getLast? ≠ some '\r' := by
  intro last
  have solid := trimmed '\r' last
  revert solid
  decide

/-- Joined lines are marked exactly when each of them is, by induction over the lines. -/
theorem marked_join_iff {lines : List String} (sound : ∀ line ∈ lines, IsLine line)
    : Marked (join "\n" lines).toList ∧ LaterMarked (join "\n" lines).toList
      ↔ ∀ line ∈ lines, Marked line.toList ∧ LaterMarked line.toList := by
  induction lines with
  | nil => simp [join, Marked, LaterMarked, fullLinesOf]
  | cons line rest ih =>
      obtain ⟨isLine, others⟩ := List.forall_mem_cons.mp sound
      cases rest with
      | nil => simp [join]
      | cons next rest =>
          have filled : line.toList ≠ [] := by simpa using isLine.nonempty
          have joined : (join "\n" (line :: next :: rest)).toList
              = line.toList ++ '\n' :: (join "\n" (next :: rest)).toList := by
            simp [join]
          have front : (line.toList ++ '\n' :: (join "\n" (next :: rest)).toList).head?
              = line.toList.head? :=
            List.head?_append_of_ne_nil line.toList filled
          rw [joined, laterMarked_append_feed isLine.single isLine.trimmed.getLast?_ne_return,
            ih others, Marked, front, ← Marked, List.forall_mem_cons (a := line), and_assoc]

theorem forall_fullLines_iff {text : String}
    : (∀ line ∈ fullLines text, line.toList.head? = some '#')
      ↔ Marked text.toList ∧ LaterMarked text.toList := by
  rw [← forall_fullLinesOf_iff]
  simp [fullLines]

end RecordSmith.Text
