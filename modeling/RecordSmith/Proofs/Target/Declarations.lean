import Mathlib.Logic.Function.Basic
import RecordSmith.Proofs.Text.Blocks
import RecordSmith.Target.Rendering

/-! A declaration tells its name and its fields apart, whatever texts they are. The name is
followed by an equals sign, and behind it equals signs stand only inside of literals. A text that
closes all its literals when it is read from outside of one cannot do so when it is read from
inside, so the name ends at one place only. The literals are then read off one by one.
-/

namespace RecordSmith

-----------------------------------------------------------------------------------------
-- Reading through literals
-----------------------------------------------------------------------------------------

/-- Where a reader of literals stands: outside of all, inside of one, or behind a backslash. -/
inductive Quoting where
  | outside
  | inside
  | escaped
deriving Repr, DecidableEq

/-- Reads one character. Backslashes and equals signs may not stand outside of literals. -/
def Quoting.step : Quoting → Char → Option Quoting
  | .outside, c =>
      if c = '"' then some .inside
      else if c = '\\' || c = '=' then none
      else some .outside
  | .inside, c =>
      if c = '"' then some .outside
      else if c = '\\' then some .escaped
      else some .inside
  | .escaped, _ => some .inside

/-- Reads a text. -/
def Quoting.run (state : Quoting) (cs : List Char) : Option Quoting :=
  cs.foldlM Quoting.step state

/-- Read from outside of literals, the text opens and closes its own. -/
def Closed (cs : List Char) : Prop :=
  Quoting.outside.run cs = some .outside

instance (cs : List Char) : Decidable (Closed cs) :=
  inferInstanceAs (Decidable (_ = _))

@[simp] theorem Quoting.run_nil (state : Quoting) : state.run [] = some state := rfl

theorem Quoting.run_cons (state : Quoting) (c : Char) (rest : List Char)
    : state.run (c :: rest) = (state.step c).bind (·.run rest) := by
  simp only [Quoting.run, List.foldlM_cons]
  rfl

theorem Quoting.run_append (state : Quoting) (front back : List Char)
    : state.run (front ++ back) = (state.run front).bind (·.run back) := by
  simp only [Quoting.run, List.foldlM_append]
  rfl

theorem Closed.append {front back : List Char} (first : Closed front) (second : Closed back)
    : Closed (front ++ back) := by
  rw [Closed, Quoting.run_append, first]
  exact second

/-- A character that means the same to the reader outside and inside of literals. -/
def IsNeutral (c : Char) : Prop :=
  c ≠ '"' ∧ c ≠ '\\' ∧ c ≠ '='

theorem closed_of_neutral {cs : List Char} (neutral : ∀ c ∈ cs, IsNeutral c) : Closed cs := by
  induction cs with
  | nil => rfl
  | cons c rest ih =>
      obtain ⟨quote, backslash, equals⟩ := neutral c (.head _)
      have later := ih fun d among => neutral d (.tail _ among)
      simpa [Closed, Quoting.run_cons, Quoting.step, quote, backslash, equals] using later

theorem run_inside_of_neutral {cs : List Char} (neutral : ∀ c ∈ cs, IsNeutral c)
    : Quoting.inside.run cs = some .inside := by
  induction cs with
  | nil => rfl
  | cons c rest ih =>
      obtain ⟨quote, backslash, _⟩ := neutral c (.head _)
      have later := ih fun d among => neutral d (.tail _ among)
      simpa [Quoting.run_cons, Quoting.step, quote, backslash] using later

/-- What closes its literals from outside does not do so from inside, by induction over the
text. Each quote swaps the two readers, and the one outside refuses a backslash.
-/
theorem Closed.not_from_inside {cs : List Char} (closed : Closed cs)
    : Quoting.inside.run cs ≠ some .outside := by
  induction cs with
  | nil => simp
  | cons c rest ih =>
      intro fromInside
      rw [Closed, Quoting.run_cons] at closed
      rw [Quoting.run_cons] at fromInside
      by_cases quote : c = '"'
      · subst quote
        exact ih fromInside closed
      · by_cases refused : c = '\\' ∨ c = '='
        · simp [Quoting.step, quote, refused] at closed
        · obtain ⟨backslash, equals⟩ := not_or.mp refused
          simp only [Quoting.step, quote, backslash, equals, if_false, Bool.or_self,
            decide_false, Bool.false_eq_true, Option.bind_some] at closed fromInside
          exact ih closed fromInside

/-- An equals sign behind a blank cannot be moved to the right across a text that is closed. -/
theorem equals_not_moved {more moved tail otherTail : List Char}
    (neutral : ∀ c ∈ more, IsNeutral c) (closed : Closed tail) (otherClosed : Closed otherTail)
    (same : ' ' :: '=' :: (more ++ tail) = moved ++ ' ' :: '=' :: (more ++ otherTail))
    : moved = [] := by
  cases moved with
  | nil => rfl
  | cons blank moved =>
      cases moved with
      | nil => simp at same
      | cons equals moved =>
          simp only [List.cons_append, List.cons.injEq] at same
          have whole := (closed_of_neutral neutral).append closed
          rw [same.2.2, Closed, Quoting.run_append] at whole
          have tailInside : Quoting.inside.run (more ++ otherTail) ≠ some .outside := by
            rw [Quoting.run_append, run_inside_of_neutral neutral]
            exact otherClosed.not_from_inside
          cases state : Quoting.outside.run moved with
          | none => simp [state] at whole
          | some reached =>
              cases reached with
              | outside => simp [state, Quoting.run_cons, Quoting.step] at whole
              | inside | escaped =>
                  refine absurd ?_ tailInside
                  simpa [state, Quoting.run_cons, Quoting.step] using whole

theorem name_tail_inj {more name other tail otherTail : List Char}
    (neutral : ∀ c ∈ more, IsNeutral c) (closed : Closed tail) (otherClosed : Closed otherTail)
    (same : name ++ ' ' :: '=' :: (more ++ tail)
      = other ++ ' ' :: '=' :: (more ++ otherTail))
    : name = other ∧ tail = otherTail := by
  rcases List.append_eq_append_iff.mp same with ⟨moved, rfl, rest⟩ | ⟨moved, rfl, rest⟩
  · cases equals_not_moved neutral closed otherClosed rest
    simpa using rest
  · cases equals_not_moved neutral otherClosed closed rest
    simpa using rest.symm

-----------------------------------------------------------------------------------------
-- Literals
-----------------------------------------------------------------------------------------

theorem run_escapeQuotes (cs : List Char)
    : Quoting.inside.run (Text.escapeQuotes cs) = some .inside := by
  induction cs with
  | nil => rfl
  | cons c rest ih =>
      unfold Text.escapeQuotes
      split
      · simpa [Quoting.run_cons, Quoting.step] using ih
      · next plain =>
          simp only [Bool.or_eq_true, decide_eq_true_eq, not_or] at plain
          simpa [Quoting.run_cons, Quoting.step, plain] using ih

theorem closed_quoted (text : String) : Closed (Text.quoted text).toList := by
  rw [Closed, Text.quoted, String.toList_ofList, List.cons_append, Quoting.run_cons]
  simp [Quoting.step, Quoting.run_append, run_escapeQuotes, Quoting.run_cons]

/-- The end of an escaped text is its first quote without a backslash. -/
theorem escapeQuotes_inj {first second rest otherRest : List Char}
    (same : Text.escapeQuotes first ++ '"' :: rest
      = Text.escapeQuotes second ++ '"' :: otherRest)
    : first = second ∧ rest = otherRest := by
  induction first generalizing second with
  | nil =>
      cases second with
      | nil => simpa [Text.escapeQuotes] using same
      | cons d second => grind [Text.escapeQuotes]
  | cons c first ih =>
      cases second with
      | nil => grind [Text.escapeQuotes]
      | cons d second => grind [Text.escapeQuotes]

/-- Followed by nothing or by a comma, a literal can be read off in one way only. -/
structure ReadsOff (literal : String → String) : Prop where
  nonempty : ∀ text, literal text ≠ ""
  inj : ∀ first second rest otherRest,
    (∀ c ∈ rest.head?, c = ',')
    → (∀ c ∈ otherRest.head?, c = ',')
    → (literal first).toList ++ rest = (literal second).toList ++ otherRest
    → first = second ∧ rest = otherRest

theorem quoted_readsOff : ReadsOff Text.quoted := by
  constructor
  · intro text empty
    simpa [Text.quoted] using congrArg String.toList empty
  · intro first second rest otherRest _ _ same
    simp only [Text.quoted, String.toList_ofList, List.cons_append, List.append_assoc,
      List.nil_append, List.cons.injEq, true_and] at same
    obtain ⟨texts, rests⟩ := escapeQuotes_inj same
    exact ⟨String.toList_inj.mp texts, rests⟩

/-- A plain symbol ends where a character follows that no symbol contains. -/
theorem plain_inj {first second rest otherRest : List Char}
    (firstPlain : ∀ c ∈ first, Ruby.continuesSymbol c)
    (secondPlain : ∀ c ∈ second, Ruby.continuesSymbol c)
    (stops : ∀ c ∈ rest.head?, c = ',') (otherStops : ∀ c ∈ otherRest.head?, c = ',')
    (same : first ++ rest = second ++ otherRest)
    : first = second ∧ rest = otherRest := by
  have ends : ∀ tail : List Char, (∀ c ∈ tail.head?, c = ',')
      → tail.takeWhile Ruby.continuesSymbol = [] := by
    intro tail comma
    cases tail with
    | nil => rfl
    | cons c tail =>
        cases comma c rfl
        rfl
  have taken := congrArg (List.takeWhile Ruby.continuesSymbol) same
  rw [List.takeWhile_append_of_pos firstPlain, List.takeWhile_append_of_pos secondPlain,
    ends rest stops, ends otherRest otherStops, List.append_nil, List.append_nil] at taken
  subst taken
  exact ⟨rfl, List.append_cancel_left same⟩

theorem Ruby.continuesSymbol_of_isPlain {name : String} (plain : Ruby.isPlain name)
    : ∀ c ∈ name.toList, Ruby.continuesSymbol c := by
  unfold Ruby.isPlain at plain
  split at plain
  · cases plain
  · next first rest chars =>
      rw [chars]
      exact List.all_eq_true.mp (Bool.and_eq_true_iff.mp plain).2

theorem Ruby.plain_ne_quoted {name text : String} (plain : Ruby.isPlain name)
    (rest otherRest : List Char)
    : name.toList ++ rest ≠ (Text.quoted text).toList ++ otherRest := by
  intro same
  unfold Ruby.isPlain at plain
  split at plain
  · cases plain
  · next first more chars =>
      have starts := (Bool.and_eq_true_iff.mp plain).1
      simp only [chars, Text.quoted, String.toList_ofList, List.cons_append,
        List.cons.injEq] at same
      rw [same.1] at starts
      revert starts
      decide

theorem Ruby.symbol_readsOff : ReadsOff Ruby.symbol := by
  constructor
  · intro text
    unfold Ruby.symbol
    split <;> simp
  · intro first second rest otherRest stops otherStops same
    unfold Ruby.symbol at same
    split at same <;> split at same
    all_goals
      simp only [String.toList_append, List.append_assoc, List.append_cancel_left_eq] at same
    · next plain otherPlain =>
        obtain ⟨names, rests⟩ := plain_inj (Ruby.continuesSymbol_of_isPlain plain)
          (Ruby.continuesSymbol_of_isPlain otherPlain) stops otherStops same
        exact ⟨String.toList_inj.mp names, rests⟩
    · next plain _ => exact absurd same (Ruby.plain_ne_quoted plain rest otherRest)
    · next _ otherPlain =>
        exact absurd same.symm (Ruby.plain_ne_quoted otherPlain otherRest rest)
    · exact quoted_readsOff.inj first second rest otherRest stops otherStops same

theorem exists_join_map_cons (literal : String → String) (field : String)
    (fields : List String)
    : ∃ rest,
        (Text.join ", " ((field :: fields).map literal)).toList
          = (literal field).toList ++ rest
        ∧ (∀ c ∈ rest.head?, c = ',')
        ∧ (fields = [] ∧ rest = []
          ∨ fields ≠ [] ∧ rest = ", ".toList ++ (Text.join ", " (fields.map literal)).toList) := by
  cases fields with
  | nil => exact ⟨[], by simp [Text.join], by simp, .inl ⟨rfl, rfl⟩⟩
  | cons next fields =>
      refine ⟨_, ?_, ?_, .inr ⟨by simp, rfl⟩⟩
      · simp [Text.join]
      · intro c first
        cases first
        rfl

/-- Literals with commas between them are read off one after the other. -/
theorem ReadsOff.join_inj {literal : String → String} (readsOff : ReadsOff literal)
    {fields others : List String}
    (same : Text.join ", " (fields.map literal) = Text.join ", " (others.map literal))
    : fields = others := by
  have filled : ∀ field fields, Text.join ", " ((field :: fields).map literal) ≠ "" := by
    intro field fields empty
    obtain ⟨rest, chars, _⟩ := exists_join_map_cons literal field fields
    rw [empty] at chars
    exact readsOff.nonempty field (by simpa using (List.append_eq_nil_iff.mp chars.symm).1)
  induction fields generalizing others with
  | nil =>
      cases others with
      | nil => rfl
      | cons other others => exact absurd same.symm (filled other others)
  | cons field fields ih =>
      cases others with
      | nil => exact absurd same (filled field fields)
      | cons other others =>
          obtain ⟨rest, chars, stops, shape⟩ := exists_join_map_cons literal field fields
          obtain ⟨otherRest, otherChars, otherStops, otherShape⟩ :=
            exists_join_map_cons literal other others
          rw [same, otherChars] at chars
          obtain ⟨rfl, rests⟩ := readsOff.inj _ _ _ _ otherStops stops chars
          rcases shape with ⟨rfl, rfl⟩ | ⟨_, rfl⟩
          · rcases otherShape with ⟨rfl, _⟩ | ⟨_, rfl⟩
            · rfl
            · simp at rests
          · rcases otherShape with ⟨_, rfl⟩ | ⟨_, rfl⟩
            · simp at rests
            · have texts := String.toList_inj.mp (List.append_cancel_left rests)
              rw [ih texts.symm]

-----------------------------------------------------------------------------------------
-- Declarations
-----------------------------------------------------------------------------------------

/-- What a declaration says behind its name and the equals sign, up to its arguments. -/
def Target.keyword : Target → String
  | .ruby => " Data.define"
  | .python => " namedtuple("

/-- The arguments of a declaration. -/
def Target.arguments : Target → String → List String → String
  | .ruby, _, [] => ""
  | .ruby, _, fields => "(" ++ Text.join ", " (fields.map Ruby.symbol) ++ ")"
  | .python, name, fields =>
      Text.quoted name ++ ", [" ++ Text.join ", " (fields.map Text.quoted) ++ "])"

theorem Target.declaration_eq (target : Target) (name : String) (fields : List String)
    : target.declaration name fields
      = name ++ (" =" ++ (target.keyword ++ target.arguments name fields)) := by
  cases target with
  | ruby =>
      have bare : " = Data.define" = " =" ++ " Data.define" := rfl
      have opened : " = Data.define(" = " =" ++ (" Data.define" ++ "(") := rfl
      cases fields with
      | nil => simp [Target.declaration, Ruby.declaration, Target.keyword, Target.arguments, bare]
      | cons field fields =>
          simp only [Target.declaration, Ruby.declaration, Target.keyword, Target.arguments,
            opened, String.append_assoc]
  | python =>
      have opened : " = namedtuple(" = " =" ++ " namedtuple(" := rfl
      simp only [Target.declaration, Python.declaration, Target.keyword, Target.arguments,
        opened, String.append_assoc]

theorem Target.neutral_keyword (target : Target) : ∀ c ∈ target.keyword.toList, IsNeutral c := by
  cases target <;> simp [keyword, IsNeutral]

theorem closed_join {parts : List String} (closed : ∀ part ∈ parts, Closed part.toList)
    : Closed (Text.join ", " parts).toList := by
  induction parts with
  | nil => rfl
  | cons part rest ih =>
      have later := ih fun other among => closed other (.tail _ among)
      cases rest with
      | nil => exact closed part (.head _)
      | cons next rest =>
          rw [Text.join_cons (by simp), String.toList_append, String.toList_append]
          exact ((closed part (.head _)).append (by decide)).append later

theorem Ruby.closed_symbol (field : String) : Closed (Ruby.symbol field).toList := by
  unfold Ruby.symbol
  split
  · next plain =>
      rw [String.toList_append]
      refine Closed.append (by decide) (closed_of_neutral ?_)
      intro c among
      have continues := Ruby.continuesSymbol_of_isPlain plain c among
      refine ⟨?_, ?_, ?_⟩ <;> rintro rfl <;> revert continues <;> decide
  · rw [String.toList_append]
    exact Closed.append (by decide) (closed_quoted field)

theorem closed_join_map {literal : String → String} {fields : List String}
    (closed : ∀ field, Closed (literal field).toList)
    : Closed (Text.join ", " (fields.map literal)).toList := by
  apply closed_join
  intro part member
  obtain ⟨field, _, rfl⟩ := List.mem_map.mp member
  exact closed field

theorem Target.closed_arguments (target : Target) (name : String) (fields : List String)
    : Closed (target.arguments name fields).toList := by
  unfold Target.arguments
  split
  · rfl
  · rw [String.toList_append, String.toList_append]
    exact (Closed.append (by decide) (closed_join_map Ruby.closed_symbol)).append (by decide)
  · simp only [String.toList_append]
    exact (((closed_quoted name).append (by decide)).append
      (closed_join_map closed_quoted)).append (by decide)

theorem Target.arguments_inj {target : Target} {name : String} {fields others : List String}
    (same : target.arguments name fields = target.arguments name others)
    : fields = others := by
  cases target with
  | ruby =>
      cases fields with
      | nil =>
          cases others with
          | nil => rfl
          | cons other others => simp [Target.arguments] at same
      | cons field fields =>
          cases others with
          | nil => simp [Target.arguments] at same
          | cons other others =>
              simp only [Target.arguments, String.append_left_inj, String.append_right_inj] at same
              exact Ruby.symbol_readsOff.join_inj same
  | python =>
      simp only [Target.arguments, String.append_left_inj, String.append_right_inj] at same
      exact quoted_readsOff.join_inj same

/-- The name of a declaration ends at one place only. -/
theorem Target.name_eq_of_declaration_eq {target : Target} {name other : String}
    {fields others : List String}
    (same : target.declaration name fields = target.declaration other others)
    : name = other := by
  have chars := congrArg String.toList same
  simp only [Target.declaration_eq, String.toList_append] at chars
  obtain ⟨names, _⟩ := name_tail_inj target.neutral_keyword
    (target.closed_arguments name fields) (target.closed_arguments other others) chars
  exact String.toList_inj.mp names

/-- Behind the same name, a declaration tells its fields. -/
theorem Target.fields_eq_of_declaration_eq {target : Target} {name : String}
    {fields others : List String}
    (same : target.declaration name fields = target.declaration name others)
    : fields = others := by
  simp only [Target.declaration_eq, String.append_right_inj] at same
  exact Target.arguments_inj same

/-- A declaration tells its name and its fields, in every target. -/
theorem Target.declaration_injective2 (target : Target)
    : Function.Injective2 target.declaration := by
  intro name other fields others same
  cases Target.name_eq_of_declaration_eq same
  exact ⟨rfl, Target.fields_eq_of_declaration_eq same⟩

/-- A name that imitates a declaration up to the quote of a field: read from the name's end, the
text goes on as the declaration of the other name does inside of its field.
-/
theorem Target.declaration_injective2_imitation
    : Target.ruby.declaration "A" ["b = Data.define(:c)"]
      ≠ Target.ruby.declaration "A = Data.define(:\"b" ["c"] := by
  intro same
  obtain ⟨names, _⟩ := Target.declaration_injective2 .ruby same
  revert names
  decide

end RecordSmith
