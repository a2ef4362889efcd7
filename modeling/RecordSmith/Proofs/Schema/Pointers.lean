import Mathlib.Data.List.Infix
import RecordSmith.Schema.Reference

/-! Pointers to definitions. Undoing the escapes of a segment in two passes is the same as reading
it once from left to right, so that an escaped name is always read back.
-/

namespace RecordSmith.Reference

-----------------------------------------------------------------------------------------
-- Replacing pairs
-----------------------------------------------------------------------------------------

section

variable {first second replacement : Char}

theorem replacePair_pair (rest : List Char)
    : replacePair first second replacement (first :: second :: rest)
      = replacement :: replacePair first second replacement rest := by
  simp [replacePair]

/-- A character that does not begin the pair stays. -/
theorem replacePair_cons {c : Char} {rest : List Char}
    (apart : c = first → rest.head? ≠ some second)
    : replacePair first second replacement (c :: rest)
      = c :: replacePair first second replacement rest := by
  cases rest with
  | nil => rfl
  | cons next rest =>
      have other : ¬(decide (c = first) && decide (next = second)) = true := by
        simpa using apart
      rw [replacePair, if_neg other]

theorem head?_replacePair {c : Char} {cs : List Char}
    (begins : (replacePair first second replacement cs).head? = some c)
    : c = replacement ∨ cs.head? = some c := by
  fun_cases replacePair first second replacement cs with
  | case1 a b rest pair =>
      rw [replacePair, if_pos pair] at begins
      exact .inl (Option.some.inj begins).symm
  | case2 a b rest apart =>
      rw [replacePair, if_neg apart] at begins
      exact .inr begins
  | case3 short notLong =>
      rw [replacePair] at begins
      · exact .inr begins
      · exact notLong

end

-----------------------------------------------------------------------------------------
-- Segments
-----------------------------------------------------------------------------------------

/-- Reads a segment once from left to right: an escape stands for its character, and every other
character for itself.
-/
def readSegment : List Char → List Char
  | [] => []
  | '~' :: '1' :: rest => '/' :: readSegment rest
  | '~' :: '0' :: rest => '~' :: readSegment rest
  | c :: rest => c :: readSegment rest

/-- The first pass makes no escape of a tilde and breaks none, by induction over the single pass.
What it puts in is a slash, and the two escapes differ in their second character.
-/
theorem unescape_eq_readSegment (segment : List Char)
    : unescape segment = readSegment segment := by
  fun_induction readSegment segment with
  | case1 => rfl
  | case2 rest ih =>
      rw [unescape, replacePair_pair, replacePair_cons (by simp), ← unescape, ih]
  | case3 rest ih =>
      have kept : replacePair '~' '1' '/' ('~' :: '0' :: rest)
          = '~' :: '0' :: replacePair '~' '1' '/' rest := by
        rw [replacePair_cons (by simp), replacePair_cons (by simp)]
      rw [unescape, kept, replacePair_pair, ← unescape, ih]
  | case4 c rest notSlash notTilde ih =>
      have kept : replacePair '~' '1' '/' (c :: rest) = c :: replacePair '~' '1' '/' rest := by
        apply replacePair_cons
        intro tilde next
        obtain ⟨more, rfl⟩ := List.head?_eq_some_iff.mp next
        exact notSlash more tilde rfl
      have keptAgain : c = '~' → (replacePair '~' '1' '/' rest).head? ≠ some '0' := by
        intro tilde next
        rcases head?_replacePair next with same | before
        · cases same
        · obtain ⟨more, rfl⟩ := List.head?_eq_some_iff.mp before
          exact notTilde more tilde rfl
      rw [unescape, kept, replacePair_cons keptAgain, ← unescape, ih]

/-- A character as segments have it: a tilde and a slash are escaped. -/
def escapeChar (c : Char) : List Char :=
  if c = '~' then ['~', '0'] else if c = '/' then ['~', '1'] else [c]

/-- The segment that stands for a name. -/
def escape (name : List Char) : List Char :=
  name.flatMap escapeChar

theorem readSegment_escapeChar (c : Char) (rest : List Char)
    : readSegment (escapeChar c ++ rest) = c :: readSegment rest := by
  unfold escapeChar
  split
  · next tilde =>
      subst tilde
      rfl
  · next notTilde =>
      split
      · next slash =>
          subst slash
          rfl
      · rw [List.singleton_append, readSegment]
        · exact fun _ tilde => absurd tilde notTilde
        · exact fun _ tilde => absurd tilde notTilde

theorem readSegment_escape (name : List Char) : readSegment (escape name) = name := by
  induction name with
  | nil => rfl
  | cons c rest ih => rw [escape, List.flatMap_cons, readSegment_escapeChar, ← escape, ih]

theorem slash_not_mem_escape (name : List Char) : '/' ∉ escape name := by
  intro member
  obtain ⟨c, _, inside⟩ := List.mem_flatMap.mp member
  unfold escapeChar at inside
  grind

theorem escape_ne_nil {name : List Char} (some : name ≠ []) : escape name ≠ [] := by
  intro empty
  have back := readSegment_escape name
  rw [empty] at back
  exact some back.symm

-----------------------------------------------------------------------------------------
-- Pointers
-----------------------------------------------------------------------------------------

/-- The pointer leads to the segment: one of the two roots, and behind it something that is not
empty and has no slash.
-/
def LeadsTo (pointer segment : String) : Prop :=
  (pointer = "#/definitions/" ++ segment ∨ pointer = "#/$defs/" ++ segment)
  ∧ segment ≠ ""
  ∧ '/' ∉ segment.toList

theorem segment?_eq_some_iff {pointer segment : List Char}
    : segment? pointer = some segment
      ↔ pointer = "#/definitions/".toList ++ segment
        ∨ pointer = "#/$defs/".toList ++ segment := by
  have behind (root : List Char)
      : root.isPrefixOf? pointer = some segment ↔ pointer = root ++ segment := by
    rw [List.isPrefixOf?_eq_some_iff_append_eq, eq_comm]
  rw [← behind, ← behind, segment?, roots, List.findSome?_cons, List.findSome?_singleton]
  cases found : "#/definitions/".toList.isPrefixOf? pointer with
  | none => simp
  | some rest =>
      -- No pointer begins with both roots.
      have other : "#/$defs/".toList.isPrefixOf? pointer = none := by
        rw [← List.isPrefixOf?_eq_some_iff_append_eq.mp found]
        rfl
      rw [other]
      simp

theorem target?_of_leadsTo {pointer segment : String} (leads : LeadsTo pointer segment)
    : (Reference.mk pointer).target? = some (String.ofList (readSegment segment.toList)) := by
  obtain ⟨begins, some, whole⟩ := leads
  have found : segment? pointer.toList = .some segment.toList := by
    rw [segment?_eq_some_iff, ← String.toList_append, ← String.toList_append]
    exact begins.imp (congrArg _) (congrArg _)
  simp [target?, found, some, whole, unescape_eq_readSegment]

theorem leadsTo_of_target? {pointer name : String}
    (named : (Reference.mk pointer).target? = some name)
    : ∃ segment, LeadsTo pointer segment := by
  unfold target? at named
  split at named
  · cases named
  · next segment found =>
      split at named
      · cases named
      · next whole =>
          refine ⟨String.ofList segment, ?_, by simpa using whole⟩
          exact (segment?_eq_some_iff.mp found).imp
            (fun begins => String.toList_injective (begins.trans (by simp)))
            (fun begins => String.toList_injective (begins.trans (by simp)))

/-- The reference to a name behind a root. -/
def toName (root name : String) : Reference :=
  ⟨root ++ String.ofList (escape name.toList)⟩

theorem leadsTo_toName {root name : String} (some : name ≠ "")
    (isRoot : root = "#/definitions/" ∨ root = "#/$defs/")
    : LeadsTo (toName root name).pointer (String.ofList (escape name.toList)) := by
  refine ⟨?_, ?_, ?_⟩
  · rcases isRoot with rfl | rfl
    · exact .inl rfl
    · exact .inr rfl
  · have held : escape name.toList ≠ [] := escape_ne_nil (by simpa using some)
    simpa using held
  · simpa using slash_not_mem_escape name.toList

theorem target?_toName {root name : String} (some : name ≠ "")
    (isRoot : root = "#/definitions/" ∨ root = "#/$defs/")
    : (toName root name).target? = .some name := by
  have named := target?_of_leadsTo (leadsTo_toName some isRoot)
  rwa [String.toList_ofList, readSegment_escape, String.ofList_toList] at named

/-- A pointer names a definition exactly when it leads to a segment. The name is what one pass over
the segment reads, so that each name but the empty one is named by its escaped form behind both of
the roots.
-/
theorem target?_exactly_leadsTo
    : (∀ name,
        name ≠ ""
        → (toName "#/definitions/" name).target? = some name
          ∧ (toName "#/$defs/" name).target? = some name)
      ∧ ∀ pointer,
          ((Reference.mk pointer).target?.isSome ↔ ∃ segment, LeadsTo pointer segment)
          ∧ ∀ segment,
              LeadsTo pointer segment
              → (Reference.mk pointer).target?
                = some (String.ofList (readSegment segment.toList)) := by
  refine ⟨?_, ?_⟩
  · intro name some
    exact ⟨target?_toName some (.inl rfl), target?_toName some (.inr rfl)⟩
  · intro pointer
    refine ⟨?_, fun segment leads => target?_of_leadsTo leads⟩
    constructor
    · intro named
      obtain ⟨name, found⟩ := Option.isSome_iff_exists.mp named
      exact leadsTo_of_target? found
    · intro leads
      obtain ⟨segment, leads⟩ := leads
      rw [target?_of_leadsTo leads]
      rfl

/-- A name full of escapes is read back, an escaped tilde makes no escape with what follows it, and
an unfinished escape stands for itself.
-/
theorem target?_exactly_leadsTo_tildes
    : (toName "#/$defs/" "~1/~0~").pointer = "#/$defs/~01~1~00~0"
      ∧ (toName "#/$defs/" "~1/~0~").target? = some "~1/~0~"
      ∧ LeadsTo "#/definitions/~~01~2~" "~~01~2~"
      ∧ (Reference.mk "#/definitions/~~01~2~").target? = some "~~1~2~" := by
  obtain ⟨names, pointers⟩ := target?_exactly_leadsTo
  have leads : LeadsTo "#/definitions/~~01~2~" "~~01~2~" :=
    ⟨.inl (by decide), by decide, by decide⟩
  exact ⟨by decide, (names _ (by decide)).2, leads, (pointers _).2 _ leads⟩

end RecordSmith.Reference
