import RecordSmith.Proofs.Schema.Loading
import RecordSmith.Proofs.Text.Blocks

/-! Violations are where they are said to be. The text of a path is cut at its slashes, each part
is followed from the value that was read, and what is reached is of the kind that was found.
-/

namespace RecordSmith

-----------------------------------------------------------------------------------------
-- Texts of paths
-----------------------------------------------------------------------------------------

/-- The number that a text of decimal digits stands for; other texts stand for none. -/
def decimal? (text : String) : Option Nat :=
  if text ≠ "" ∧ text.toList.all Char.isDigit then some (Nat.ofDigitChars 10 text.toList 0)
  else none

/-- The segments of the text of a path. A slash alone has none, and every other path has a slash
in front of each.
-/
def segments? (pathText : String) : Option (List String) :=
  match pathText.toList with
  | ['/'] => some []
  | '/' :: rest => some ((rest.splitOn '/').map String.ofList)
  | _ => none

/-- Follows segments into a value, where `last` is the segment that was followed before them. They
are keys of objects, and below a composition list they are decimal indices of its array.
-/
def Json.follow (last : String) : List String → Json → Option Json
  | [], value => some value
  | segment :: rest, .object members =>
      (Entries.find? segment members).bind (Json.follow segment rest)
  | segment :: rest, .array items =>
      if last = "allOf" then
        ((decimal? segment).bind (items[·]?)).bind (Json.follow segment rest)
      else none
  | _ :: _, _ => none

/-- The part of a value that the text of a path leads to. -/
def Json.locate? (pathText : String) (value : Json) : Option Json :=
  (segments? pathText).bind fun segments => value.follow "" segments

/-- A segment as paths have it: not empty and without a slash. -/
def IsSegment (segment : String) : Prop :=
  segment ≠ "" ∧ '/' ∉ segment.toList

theorem toString_toList (index : Nat) : (toString index).toList = Nat.toDigits 10 index := by
  rw [Nat.toString_eq_ofList_toDigits, String.toList_ofList]

theorem toString_ne_empty (index : Nat) : toString index ≠ "" := by
  intro empty
  have digits := toString_toList index
  rw [empty] at digits
  exact Nat.toDigits_ne_nil digits.symm

theorem isDigit_of_mem_toString {index : Nat} {c : Char} (member : c ∈ (toString index).toList)
    : c.isDigit := by
  rw [toString_toList] at member
  exact Nat.isDigit_of_mem_toDigits (by decide) (by decide) member

theorem isSegment_index (index : Nat) : IsSegment (toString index) := by
  refine ⟨toString_ne_empty index, ?_⟩
  intro slash
  cases isDigit_of_mem_toString slash

theorem decimal?_toString (index : Nat) : decimal? (toString index) = some index := by
  have digits : (toString index).toList.all Char.isDigit := by
    rw [List.all_eq_true]
    intro c member
    exact isDigit_of_mem_toString member
  rw [decimal?, if_pos ⟨toString_ne_empty index, digits⟩, toString_toList,
    Nat.ofDigitChars_ten_toDigits]

theorem segments?_of_slash {pathText : String} {rest : List Char} (some : rest ≠ [])
    (chars : pathText.toList = '/' :: rest)
    : segments? pathText = .some ((rest.splitOn '/').map String.ofList) := by
  cases rest with
  | nil => exact absurd rfl some
  | cons c rest => simp [segments?, chars]

/-- Cutting the text of a path gives back its segments. Only the path of the value itself reads
as a slash alone.
-/
theorem segments?_pathText {fault : Malformed}
    (segments : ∀ segment ∈ fault.path, IsSegment segment)
    : segments? fault.pathText = some fault.path := by
  have chars : fault.pathText.toList = '/' :: (Text.join "/" fault.path).toList :=
    String.toList_append
  cases path : fault.path with
  | nil =>
      rw [path] at chars
      simp [segments?, chars, Text.join]
  | cons first rest =>
      rw [path] at chars segments
      have filled : (Text.join "/" (first :: rest)).toList ≠ [] := by
        obtain ⟨behind, same⟩ := Text.exists_join_cons "/" first rest
        have held := (segments first (.head _)).1
        simp [same, held]
      rw [segments?_of_slash filled chars]
      exact congrArg some
        (Text.map_splitOn_join rfl (by simp) fun segment among => (segments segment among).2)

-----------------------------------------------------------------------------------------
-- Places of violations
-----------------------------------------------------------------------------------------

/-- The violation is real: its path goes on from that of the value by segments that lead to a
part of the kind that was found, which is not the expected one.
-/
def Malformed.IsReal (path : List String) (value : Json) (fault : Malformed) : Prop :=
  ∃ tail part,
    fault.path = path ++ tail
    ∧ (∀ segment ∈ tail, IsSegment segment)
    ∧ (∀ last, value.follow last tail = some part)
    ∧ part.kind = fault.found
    ∧ fault.found ≠ fault.expected

section

variable {path : List String} {value held : Json} {fault : Malformed}

theorem Malformed.isReal_of_mem_misfit {expected : Json.Kind}
    (member : fault ∈ misfit path expected value)
    : fault.IsReal path value := by
  rw [misfit] at member
  split at member
  · cases member
  · next other =>
      cases List.mem_singleton.mp member
      exact ⟨[], value, by simp, by simp, fun _ => rfl, rfl, other⟩

theorem Json.follow_of_get? {key : String} (found : value.get? key = some held)
    (last : String) (tail : List String)
    : value.follow last (key :: tail) = held.follow key tail := by
  cases value with
  | object members =>
      rw [Json.get?] at found
      rw [Json.follow, found, Option.bind_some]
  | null | bool | number | string | array => cases found

/-- A violation of a part is one of the value that holds the part. -/
theorem Malformed.IsReal.of_part {key : String} (found : value.get? key = some held)
    (isSegment : IsSegment key) (real : fault.IsReal (path ++ [key]) held)
    : fault.IsReal path value := by
  obtain ⟨tail, part, along, segments, reached, kinds⟩ := real
  refine ⟨key :: tail, part, by simp [along], ?_, ?_, kinds⟩
  · exact List.forall_mem_cons.mpr ⟨isSegment, segments⟩
  · intro last
    rw [Json.follow_of_get? found]
    exact reached key

theorem Malformed.isReal_of_mem_partMisfit {key : String} {expected : Json.Kind}
    (isSegment : IsSegment key) (member : fault ∈ partMisfit path key expected value)
    : fault.IsReal path value := by
  obtain ⟨held, found, wrong⟩ := List.mem_flatMap.mp member
  exact (isReal_of_mem_misfit wrong).of_part (Option.mem_toList.mp found) isSegment

/-- A violation of an item is one of the value that holds the composition list. -/
theorem Malformed.IsReal.of_item {index : Nat} {item : Json}
    (found : value.get? "allOf" = some held) (listed : held.items[index]? = some item)
    (real : fault.IsReal (path ++ ["allOf"] ++ [toString index]) item)
    : fault.IsReal path value := by
  obtain ⟨tail, part, along, segments, reached, kinds⟩ := real
  refine ⟨"allOf" :: toString index :: tail, part, by simp [along], ?_, ?_, kinds⟩
  · simp only [List.forall_mem_cons]
    exact ⟨⟨by decide, by decide⟩, isSegment_index index, segments⟩
  · intro last
    rw [Json.follow_of_get? found]
    cases held with
    | array items =>
        rw [Json.items] at listed
        rw [Json.follow, if_pos rfl, decimal?_toString, Option.bind_some, listed,
          Option.bind_some]
        exact reached (toString index)
    | null | bool | number | string | object => simp [Json.items] at listed

end

mutual

/-- All violations of a value are real, by induction over the nesting. -/
theorem Json.isReal_of_mem_violations (path : List String) (value : Json) {fault : Malformed}
    (member : fault ∈ value.violations path)
    : fault.IsReal path value := by
  rw [Json.violations_eq] at member
  simp only [List.mem_append] at member
  rcases member with (((own | description) | properties) | list) | inItems
  · exact Malformed.isReal_of_mem_misfit own
  · exact Malformed.isReal_of_mem_partMisfit ⟨by decide, by decide⟩ description
  · exact Malformed.isReal_of_mem_partMisfit ⟨by decide, by decide⟩ properties
  · exact Malformed.isReal_of_mem_partMisfit ⟨by decide, by decide⟩ list
  · obtain ⟨held, found, among⟩ := List.mem_flatMap.mp inItems
    have listed := Option.mem_toList.mp found
    have smaller := Json.sizeOf_items_lt listed
    obtain ⟨index, item, here, real⟩ :=
      Json.isReal_of_mem_itemViolations (path ++ ["allOf"]) 0 held.items among
    rw [Nat.zero_add] at real
    exact real.of_item listed here
termination_by 2 * sizeOf value

theorem Json.isReal_of_mem_itemViolations (path : List String) (first : Nat)
    (items : List Json) {fault : Malformed}
    (member : fault ∈ Json.itemViolations path first items)
    : ∃ index item,
        items[index]? = some item
        ∧ fault.IsReal (path ++ [toString (first + index)]) item := by
  match items with
  | [] =>
      rw [Json.itemViolations] at member
      cases member
  | item :: rest =>
      rw [Json.itemViolations, List.mem_append] at member
      rcases member with here | later
      · exact ⟨0, item, rfl, Json.isReal_of_mem_memberViolations _ item here⟩
      · obtain ⟨index, other, listed, real⟩ :=
          Json.isReal_of_mem_itemViolations path (first + 1) rest later
        refine ⟨index + 1, other, listed, ?_⟩
        rwa [Nat.add_right_comm] at real
termination_by 2 * sizeOf items

theorem Json.isReal_of_mem_memberViolations (path : List String) (value : Json)
    {fault : Malformed} (member : fault ∈ Json.memberViolations path value)
    : fault.IsReal path value := by
  rw [Json.memberViolations] at member
  split at member
  · next pointer refers =>
      exact (Malformed.isReal_of_mem_misfit member).of_part refers ⟨by decide, by decide⟩
  · exact Json.isReal_of_mem_violations path value member
termination_by 2 * sizeOf value + 1

end

theorem Json.Kind.phrase_injective : Function.Injective Json.Kind.phrase := by
  intro kind other same
  cases kind <;> cases other <;> simp_all [Json.Kind.phrase]

/-- When a value cannot be read as a definition, the path that is told leads to a part of it,
which is of the kind that is told to be found and not of the kind that is told to be expected.
-/
theorem Definition.ofJson_fault_located (value : Json) (fault : Malformed)
    (failed : Definition.ofJson value = .error fault)
    : ∃ part,
        value.locate? fault.pathText = some part
        ∧ part.kind = fault.found
        ∧ fault.found.phrase ≠ fault.expected.phrase := by
  have first := Definition.ofJson_eq_error_iff.mp failed
  obtain ⟨tail, part, along, segments, reached, found, wrong⟩ :=
    Json.isReal_of_mem_violations [] value (List.mem_of_head? first)
  rw [List.nil_append] at along
  refine ⟨part, ?_, found, fun same => wrong (Json.Kind.phrase_injective same)⟩
  rw [Json.locate?, segments?_pathText (along ▸ segments), Option.bind_some, along]
  exact reached ""

/-- The eleventh member of a composition list nests a member whose pointer is no string. -/
def deepFault : Json :=
  .object
    [("allOf",
      .array
        (List.replicate 10 (.object [])
          ++ [.object [("allOf", .array [.object [("$ref", .array [])]])]]))]

theorem Definition.ofJson_fault_located_deepFault
    : ∃ fault part,
        Definition.ofJson deepFault = .error fault
        ∧ fault.message
          = "expected a string at `/allOf/10/allOf/0/$ref`, found an array"
        ∧ deepFault.locate? "/allOf/10/allOf/0/$ref" = some part
        ∧ part.kind = .array := by
  have failed : Definition.ofJson deepFault
      = .error ⟨["allOf", "10", "allOf", "0", "$ref"], .string, .array⟩ := by
    rw [Definition.ofJson_eq_error_iff]
    decide +kernel
  obtain ⟨part, located, kind, _⟩ := Definition.ofJson_fault_located deepFault _ failed
  exact ⟨_, part, failed, by decide, located, kind⟩

end RecordSmith
