import RecordSmith.Json.Fault
import RecordSmith.Text.Digit

/-! Reading JSON strings. -/

namespace RecordSmith.Json

open RecordSmith.Text

/-- The value of four hexadecimal digits. -/
def hexUnit? (a b c d : Char) : Option Nat := do
  let a ← hexValue? a
  let b ← hexValue? b
  let c ← hexValue? c
  let d ← hexValue? d
  return ((a * 16 + b) * 16 + c) * 16 + d

/-- Reads four hexadecimal digits. The digits are looked for among the next four bytes. -/
def readUnit (limit : Nat) (cs : List Char) (h : cs.length ≤ limit)
    : Except Fault (Parsed Nat limit) :=
  if utf8Length cs < 4 then .error (.atEnd .endInString)
  else
    match cs, h with
    | a :: b :: c :: d :: rest, h =>
        match hexUnit? a b c d with
        | some unit => .ok ⟨unit, rest, by simp at h; omega⟩
        | none => .error ⟨.invalidEscape, a :: b :: c :: d :: rest, 4⟩
    | short, _ => .error ⟨.invalidEscape, short, 4⟩

/-- The first half of a pair of units that stands for one character. -/
def isLeadingUnit (unit : Nat) : Bool :=
  0xD800 ≤ unit && unit ≤ 0xDBFF

/-- The second half of such a pair. -/
def isTrailingUnit (unit : Nat) : Bool :=
  0xDC00 ≤ unit && unit ≤ 0xDFFF

/-- Reads the second half of a pair whose first half was read. -/
def readTrailing (limit : Nat) (leading : Nat) (cs : List Char) (h : cs.length ≤ limit)
    : Except Fault (Parsed Char limit) :=
  match cs, h with
  | [], _ => .error (.atEnd .endInString)
  | ['\\'], _ => .error (.atEnd .endInString)
  | '\\' :: 'u' :: rest, h => do
      let unit ← readUnit limit rest (by simp at h; omega)
      if isTrailingUnit unit.value then
        let code := (leading - 0xD800) * 0x400 + (unit.value - 0xDC00) + 0x10000
        .ok ⟨Char.ofNat code, unit.rest, unit.shorter⟩
      else .error (.before .loneSurrogate unit.rest)
  | '\\' :: rest, _ => .error (.atNext .unfinishedSurrogate rest)
  | rest, _ => .error (.atNext .unfinishedSurrogate rest)

/-- Reads the part of an escape that follows the backslash. -/
def readEscape (limit : Nat) (cs : List Char) (h : cs.length ≤ limit)
    : Except Fault (Parsed Char limit) :=
  match cs, h with
  | [], _ => .error (.atEnd .endInString)
  | c :: rest, h =>
      have fits : rest.length < limit := h
      match c with
      | '"' => .ok ⟨'"', rest, fits⟩
      | '\\' => .ok ⟨'\\', rest, fits⟩
      | '/' => .ok ⟨'/', rest, fits⟩
      | 'b' => .ok ⟨'\x08', rest, fits⟩
      | 'f' => .ok ⟨'\x0c', rest, fits⟩
      | 'n' => .ok ⟨'\n', rest, fits⟩
      | 'r' => .ok ⟨'\r', rest, fits⟩
      | 't' => .ok ⟨'\t', rest, fits⟩
      | 'u' => do
          let unit ← readUnit limit rest (length_le_of_lt fits)
          if isTrailingUnit unit.value then .error (.before .loneSurrogate unit.rest)
          else if isLeadingUnit unit.value then
            readTrailing limit unit.value unit.rest (by have := unit.shorter; omega)
          else .ok ⟨Char.ofNat unit.value, unit.rest, unit.shorter⟩
      | _ => .error (.atNext .invalidEscape (c :: rest))

/-- Reads a string up to its closing quote. The characters read so far stand last first. -/
def readString (limit : Nat) (done : List Char) (cs : List Char) (h : cs.length ≤ limit)
    : Except Fault (Parsed String limit) :=
  match cs, h with
  | [], _ => .error (.atEnd .endInString)
  | c :: rest, h =>
      have fits : rest.length < limit := h
      if c = '"' then .ok ⟨String.ofList done.reverse, rest, fits⟩
      else if c = '\\' then
        match readEscape rest.length rest (Nat.le_refl _) with
        | .error fault => .error fault
        | .ok escape =>
            have := escape.shorter
            readString limit (escape.value :: done) escape.rest (escape.rest_le fits)
      else if c.toNat < 0x20 then .error (.atNext .controlCharacter (c :: rest))
      else readString limit (c :: done) rest (length_le_of_lt fits)
termination_by cs.length

end RecordSmith.Json
