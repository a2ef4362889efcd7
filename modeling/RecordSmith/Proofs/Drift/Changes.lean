import Mathlib.Data.List.DropRight
import RecordSmith.Drift.Report
import RecordSmith.Proofs.Drift.Compaction
import RecordSmith.Proofs.Drift.Comparison

/-! The changes of a report are those of an edit script between the lines of the two texts, each
shown as its sign and its line, and there are none exactly when the texts are in sync.
-/

namespace RecordSmith.Drift

-----------------------------------------------------------------------------------------
-- The sides of a script
-----------------------------------------------------------------------------------------

@[simp] theorem before_append (first second : List Edit)
    : before (first ++ second) = before first ++ before second := by
  simp [before]

@[simp] theorem after_append (first second : List Edit)
    : after (first ++ second) = after first ++ after second := by
  simp [after]

/-- Edits of one change are in the first sequence unless they add. -/
theorem before_edits (change : Change) (lines : List String)
    : before (edits change lines) = if change = .add then [] else lines := by
  induction lines with
  | nil => simp [before, edits]
  | cons line rest ih => cases change <;> simp_all [before, edits]

theorem after_edits (change : Change) (lines : List String)
    : after (edits change lines) = if change = .drop then [] else lines := by
  induction lines with
  | nil => simp [after, edits]
  | cons line rest ih => cases change <;> simp_all [after, edits]

/-- The script of some runs starts with the lines that wait to be dropped and goes on with the
first sequence of the runs, by induction over the runs.
-/
theorem before_settle (dropped added : List String) (runs : List Run)
    : before (settle dropped added runs) = dropped ++ runs.flatMap Run.before := by
  fun_induction settle dropped added runs with
  | case1 dropped added => simp [before_edits]
  | case2 dropped added lines rest ih => simp [before_edits, ih, Run.before]
  | case3 dropped added lines rest ih => simp [ih, Run.before]
  | case4 dropped added lines rest ih => simp [ih, Run.before]

/-- The script of some runs starts with the lines that wait to be added and goes on with the
second sequence of the runs.
-/
theorem after_settle (dropped added : List String) (runs : List Run)
    : after (settle dropped added runs) = added ++ runs.flatMap Run.after := by
  fun_induction settle dropped added runs with
  | case1 dropped added => simp [after_edits]
  | case2 dropped added lines rest ih => simp [after_edits, ih, Run.after]
  | case3 dropped added lines rest ih => simp [ih, Run.after]
  | case4 dropped added lines rest ih => simp [ih, Run.after]

/-- An edit script between two sequences of lines: the sequences are divided where searches from
both ends meet, in the cells of all searches before; dropped runs and then added runs are
compacted to the end; and the lines of the runs are listed.
-/
def LineScript (old new : List String) (script : List Edit) : Prop :=
  ∃ runs searched dropped added,
    Divides (.none old.length new.length) old new (runs, searched)
    ∧ Compacts .drop [] runs dropped
    ∧ Compacts .add [] dropped added
    ∧ script = settle [] [] added

/-- An edit script leads from the first sequence to the second. -/
theorem LineScript.sides {old new : List String} {script : List Edit}
    (lineScript : LineScript old new script)
    : before script = old ∧ after script = new := by
  obtain ⟨runs, searched, dropped, added, divides, drops, adds, rfl⟩ := lineScript
  have sides := (adds.sameSides.trans drops.sameSides).trans divides.sameSides
  constructor
  · rw [before_settle, sides.before, before_replaceAll, List.nil_append]
  · rw [after_settle, sides.after, after_replaceAll, List.nil_append]

/-- The script between two texts is one between their lines. -/
theorem script_lineScript (stored generated : String)
    : LineScript (Text.fullLines stored) (Text.fullLines generated)
        (script stored generated) := by
  obtain ⟨searched, divides⟩ :=
    compare_divides (Text.fullLines stored) (Text.fullLines generated)
  exact ⟨_, searched, _, _, divides, compactFrom_stepBound (by decide) _,
    compactFrom_stepBound (by decide) _, rfl⟩

-----------------------------------------------------------------------------------------
-- Shown changes
-----------------------------------------------------------------------------------------

/-- A line is shown as a sign, then the line without the line feeds that end it. -/
def Signed (sign : Char) (line shown : String) : Prop :=
  ∃ text feeds,
    shown.toList = sign :: text
    ∧ line.toList = text ++ List.replicate feeds '\n'
    ∧ text.getLast? ≠ some '\n'

/-- The changes of a script are shown in its order: dropped lines with a minus sign, added lines
with a plus sign, and kept lines not at all.
-/
inductive Shows : List Edit → List String → Prop where
  | nil : Shows [] []
  | keep {script : List Edit} {changes : List String} (line : String)
      (later : Shows script changes)
    : Shows (⟨.keep, line⟩ :: script) changes
  | drop {script : List Edit} {changes : List String} {line shown : String}
      (signed : Signed '-' line shown) (later : Shows script changes)
    : Shows (⟨.drop, line⟩ :: script) (shown :: changes)
  | add {script : List Edit} {changes : List String} {line shown : String}
      (signed : Signed '+' line shown) (later : Shows script changes)
    : Shows (⟨.add, line⟩ :: script) (shown :: changes)

/-- The lines without those that changes show with a sign, each taken out where it stands.
Changes with another sign are passed over.
-/
inductive Leaves (sign : Char) : List String → List String → List String → Prop where
  | nil : Leaves sign [] [] []
  | keep {lines changes left : List String} (line : String)
      (later : Leaves sign lines changes left)
    : Leaves sign (line :: lines) changes (line :: left)
  | take {lines changes left : List String} {line shown : String}
      (signed : Signed sign line shown) (later : Leaves sign lines changes left)
    : Leaves sign (line :: lines) (shown :: changes) left
  | pass {lines changes left : List String} {shown : String}
      (other : shown.toList.head? ≠ some sign) (later : Leaves sign lines changes left)
    : Leaves sign lines (shown :: changes) left

/-- The lines that both sequences of a script have. -/
def kept (script : List Edit) : List String :=
  (script.filter (·.change = .keep)).map Edit.line

theorem signed_dropLineFeeds {sign : Char} {line shown : String}
    (begins : shown.toList = sign :: (dropLineFeeds line).toList)
    : Signed sign line shown := by
  let isFeed (c : Char) : Bool := c = '\n'
  have text : (dropLineFeeds line).toList = line.toList.rdropWhile isFeed :=
    String.toList_ofList
  have feeds
      : line.toList.rtakeWhile isFeed
        = List.replicate (line.toList.rtakeWhile isFeed).length '\n' := by
    apply List.eq_replicate_of_mem
    intro c member
    simpa [isFeed] using List.mem_rtakeWhile_imp member
  refine ⟨line.toList.rdropWhile isFeed, (line.toList.rtakeWhile isFeed).length, ?_, ?_, ?_⟩
  · rw [begins, text]
  · rw [← feeds, List.rdropWhile_append_rtakeWhile]
  · intro last
    have filled : line.toList.rdropWhile isFeed ≠ [] := by
      intro empty
      simp [empty] at last
    apply List.rdropWhile_last_not isFeed line.toList filled
    rw [List.getLast?_eq_some_getLast filled] at last
    simpa [isFeed] using last

theorem Signed.head? {sign : Char} {line shown : String} (signed : Signed sign line shown)
    : shown.toList.head? = some sign := by
  obtain ⟨text, feeds, begins, -⟩ := signed
  rw [begins, List.head?_cons]

/-- The changes that a report gives of a script are shown as they should be, by induction over
the script.
-/
theorem shows_filterMap_shown? (script : List Edit)
    : Shows script (script.filterMap Edit.shown?) := by
  induction script with
  | nil => exact .nil
  | cons edit rest ih =>
      obtain ⟨change, line⟩ := edit
      cases change with
      | keep => exact .keep line ih
      | drop => exact .drop (signed_dropLineFeeds String.toList_append) ih
      | add => exact .add (signed_dropLineFeeds String.toList_append) ih

/-- A script of which nothing is shown has the same sequence on both sides, by induction over the
script.
-/
theorem Shows.before_eq_after {script : List Edit} (showing : Shows script [])
    : before script = after script := by
  induction script with
  | nil => rfl
  | cons edit rest ih =>
      cases showing with
      | keep line later => exact congrArg (line :: ·) (ih later)

/-- Without the lines that are shown as dropped, the first sequence is what both have. -/
theorem Shows.leaves_before {script : List Edit} {changes : List String}
    (showing : Shows script changes)
    : Leaves '-' (before script) changes (kept script) := by
  induction showing with
  | nil => exact .nil
  | keep line _ ih => exact .keep line ih
  | drop signed _ ih => exact .take signed ih
  | add signed _ ih => exact .pass (by simp [signed.head?]) ih

/-- Without the lines that are shown as added, the second sequence is what both have. -/
theorem Shows.leaves_after {script : List Edit} {changes : List String}
    (showing : Shows script changes)
    : Leaves '+' (after script) changes (kept script) := by
  induction showing with
  | nil => exact .nil
  | keep line _ ih => exact .keep line ih
  | drop signed _ ih => exact .pass (by simp [signed.head?]) ih
  | add signed _ ih => exact .take signed ih

-----------------------------------------------------------------------------------------
-- Lines of a text
-----------------------------------------------------------------------------------------

/-- A text is cut after each carriage return with line feed, each line feed, and each carriage
return that no line feed follows. What follows the last cut is a line unless it is empty.
-/
inductive Cuts : List Char → List (List Char) → Prop where
  | nothing : Cuts [] []
  | remainder {line : List Char} (filled : line ≠ []) (inLine : ∀ c ∈ line, c ≠ '\n' ∧ c ≠ '\r')
    : Cuts line [line]
  | ended {line ending text : List Char} {lines : List (List Char)}
      (inLine : ∀ c ∈ line, c ≠ '\n' ∧ c ≠ '\r')
      (ends : ending = ['\r', '\n'] ∨ ending = ['\n']
        ∨ ending = ['\r'] ∧ text.head? ≠ some '\n')
      (later : Cuts text lines)
    : Cuts (line ++ ending ++ text) ((line ++ ending) :: lines)

/-- A character that ends no line belongs to the first line. -/
theorem Cuts.consFirst {c : Char} {text : List Char} {lines : List (List Char)}
    (inLine : c ≠ '\n' ∧ c ≠ '\r') (cuts : Cuts text lines)
    : Cuts (c :: text) (Text.consFirst c lines) := by
  cases cuts with
  | nothing => exact .remainder (by simp) (by simpa using inLine)
  | remainder _ others =>
      exact .remainder (by simp) (List.forall_mem_cons.mpr ⟨inLine, others⟩)
  | ended others ends later =>
      exact .ended (List.forall_mem_cons.mpr ⟨inLine, others⟩) ends later

theorem Cuts.atOnce {ending text : List Char} {lines : List (List Char)}
    (ends : ending = ['\r', '\n'] ∨ ending = ['\n']
      ∨ ending = ['\r'] ∧ text.head? ≠ some '\n')
    (later : Cuts text lines)
    : Cuts (ending ++ text) (ending :: lines) :=
  .ended (List.forall_mem_nil _) ends later

/-- A text is cut into its lines, by induction over the text. -/
theorem cuts_fullLinesOf (text : List Char) : Cuts text (Text.fullLinesOf text) := by
  fun_induction Text.fullLinesOf text with
  | case1 => exact .nothing
  | case2 rest ih => exact .atOnce (.inl rfl) ih
  | case3 rest ih => exact .atOnce (.inr (.inl rfl)) ih
  | case4 rest alone ih =>
      refine .atOnce (.inr (.inr ⟨rfl, ?_⟩)) ih
      intro feed
      obtain ⟨more, rfl⟩ := List.head?_eq_some_iff.mp feed
      exact alone more rfl
  | case5 c rest _ notFeed notReturn ih =>
      exact ih.consFirst ⟨notFeed, notReturn⟩

/-- A text is cut into these lines, each with what ends it. -/
def CutsInto (text : String) (lines : List String) : Prop :=
  Cuts text.toList (lines.map String.toList)

theorem cutsInto_fullLines (text : String) : CutsInto text (Text.fullLines text) := by
  unfold CutsInto Text.fullLines
  simpa [Function.comp_def] using cuts_fullLinesOf text.toList

/-- The lines make up the text, by induction over the cuts. -/
theorem Cuts.flatten_eq {text : List Char} {lines : List (List Char)} (cuts : Cuts text lines)
    : lines.flatten = text := by
  induction cuts with
  | nothing => rfl
  | remainder filled inLine => exact List.flatten_singleton
  | ended inLine ends later ih => rw [List.flatten_cons, ih]

/-- Texts with the same lines are the same text. -/
theorem fullLines_injective {text other : String}
    (same : Text.fullLines text = Text.fullLines other)
    : text = other := by
  have joined (text : String)
      : ((Text.fullLines text).map String.toList).flatten = text.toList :=
    Cuts.flatten_eq (cutsInto_fullLines text)
  apply String.toList_injective
  rw [← joined text, same, joined other]

-----------------------------------------------------------------------------------------
-- Reports
-----------------------------------------------------------------------------------------

theorem report_inSync_iff {stored generated : String}
    : (report stored generated).inSync
      ↔ Checksum.ofText stored = Checksum.ofText generated :=
  decide_eq_true_iff

theorem report_changes_of_inSync {stored generated : String}
    (sync : Checksum.ofText stored = Checksum.ofText generated)
    : (report stored generated).changes = [] := by
  simp only [report, if_pos sync]

/-- The changes of texts that are out of sync are those of their script. -/
theorem report_shows {stored generated : String}
    (drift : Checksum.ofText stored ≠ Checksum.ofText generated)
    : Shows (script stored generated) (report stored generated).changes := by
  simp only [report, if_neg drift]
  exact shows_filterMap_shown? _

/-- Texts out of sync have changes. Witness: a script without changes has the same lines on
both sides, and these make up the texts.
-/
theorem report_changes_ne_nil {stored generated : String}
    (drift : Checksum.ofText stored ≠ Checksum.ofText generated)
    : (report stored generated).changes ≠ [] := by
  intro unchanged
  have showing := report_shows drift
  rw [unchanged] at showing
  obtain ⟨first, second⟩ := (script_lineScript stored generated).sides
  have sameLines := showing.before_eq_after
  rw [first, second] at sameLines
  exact drift (congrArg Checksum.ofText (fullLines_injective sameLines))

/-- A report shows changes exactly when the texts are out of sync. Then a script of a comparison
by division and compaction leads from the lines of the stored text to those of the generated one,
and the report shows its dropped and its added lines in order, each as its sign and the line
without the line feeds that end it. Without the lines that are shown as dropped the stored text
has the same lines as the generated text without those that are shown as added.
-/
theorem report_changes_by_script (stored generated : String)
    : ((report stored generated).changes = [] ↔ (report stored generated).inSync)
      ∧ CutsInto stored (Text.fullLines stored)
      ∧ CutsInto generated (Text.fullLines generated)
      ∧ ((report stored generated).inSync = false
        → ∃ script,
            LineScript (Text.fullLines stored) (Text.fullLines generated) script
            ∧ before script = Text.fullLines stored
            ∧ after script = Text.fullLines generated
            ∧ Shows script (report stored generated).changes
            ∧ Leaves '-' (Text.fullLines stored) (report stored generated).changes (kept script)
            ∧ Leaves '+' (Text.fullLines generated) (report stored generated).changes
                (kept script)) := by
  refine ⟨?_, cutsInto_fullLines stored, cutsInto_fullLines generated, ?_⟩
  · rw [report_inSync_iff]
    constructor
    · intro unchanged
      exact Classical.byContradiction fun drift => report_changes_ne_nil drift unchanged
    · exact report_changes_of_inSync
  · intro outOfSync
    have drift : Checksum.ofText stored ≠ Checksum.ofText generated := by
      intro sync
      simp [report_inSync_iff.mpr sync] at outOfSync
    have lineScript := script_lineScript stored generated
    obtain ⟨first, second⟩ := lineScript.sides
    have showing := report_shows drift
    refine ⟨script stored generated, lineScript, first, second, showing, ?_, ?_⟩
    · rw [← first]
      exact showing.leaves_before
    · rw [← second]
      exact showing.leaves_after

/-- Texts whose lines end in each way: a line at the front is dropped, one is added between two
that are kept, and the last is replaced. Only line feeds are left out where the changes are shown.
-/
theorem report_changes_by_script_replaced
    : (report "a\n\nb\r\n\rc" "\nb\r\nd\r\n\re\r").inSync = false
      ∧ (report "a\n\nb\r\n\rc" "\nb\r\nd\r\n\re\r").changes
        = ["-a", "+d\r", "-c", "+e\r"]
      ∧ ∃ script,
          before script = ["a\n", "\n", "b\r\n", "\r", "c"]
          ∧ after script = ["\n", "b\r\n", "d\r\n", "\r", "e\r"]
          ∧ Shows script ["-a", "+d\r", "-c", "+e\r"]
          ∧ Leaves '-' ["a\n", "\n", "b\r\n", "\r", "c"] ["-a", "+d\r", "-c", "+e\r"]
              (kept script)
          ∧ Leaves '+' ["\n", "b\r\n", "d\r\n", "\r", "e\r"] ["-a", "+d\r", "-c", "+e\r"]
              (kept script) := by
  have outOfSync
      : (report "a\n\nb\r\n\rc" "\nb\r\nd\r\n\re\r").inSync = false := by
    decide +kernel
  have changes
      : (report "a\n\nb\r\n\rc" "\nb\r\nd\r\n\re\r").changes
        = ["-a", "+d\r", "-c", "+e\r"] := by
    decide +kernel
  have storedLines
      : Text.fullLines "a\n\nb\r\n\rc" = ["a\n", "\n", "b\r\n", "\r", "c"] := by
    decide +kernel
  have generatedLines
      : Text.fullLines "\nb\r\nd\r\n\re\r" = ["\n", "b\r\n", "d\r\n", "\r", "e\r"] := by
    decide +kernel
  obtain ⟨-, -, -, drifted⟩ :=
    report_changes_by_script "a\n\nb\r\n\rc" "\nb\r\nd\r\n\re\r"
  obtain ⟨script, -, first, second, showing, leftOfStored, leftOfGenerated⟩ :=
    drifted outOfSync
  rw [storedLines] at first leftOfStored
  rw [generatedLines] at second leftOfGenerated
  rw [changes] at showing leftOfStored leftOfGenerated
  exact ⟨outOfSync, changes, script, first, second, showing, leftOfStored, leftOfGenerated⟩

end RecordSmith.Drift
