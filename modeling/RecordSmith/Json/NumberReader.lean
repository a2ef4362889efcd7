import RecordSmith.Json.Fault
import RecordSmith.Json.Number

/-! Reading JSON numbers. -/

namespace RecordSmith.Json

open RecordSmith.Text

/-- A double, or the fault that it is too large. -/
def finite (negative : Bool) (significand : Nat) (exponent : Int) (rest : List Char)
    : Except Fault Number :=
  match double? negative significand exponent with
  | some value => .ok (.real value)
  | none => .error (.before .numberOutOfRange rest)

/-- Reads the digits of an exponent up to 31 bits; the rest starts after the first digit that
no longer fits, if there is one.
-/
def exponentDigits (value : Nat) : List Char → Except (List Char) (Nat × List Char)
  | [] => .ok (value, [])
  | c :: rest =>
      if c.isDigit then
        if value * 10 + digitValue c ≥ Decimal.twoTo 31 then .error rest
        else exponentDigits (value * 10 + digitValue c) rest
      else .ok (value, c :: rest)

/-- The rest after the digits of an exponent is no longer than they and it were. -/
theorem length_exponentDigits {value result : Nat} {cs rest : List Char}
    (h : exponentDigits value cs = .ok (result, rest))
    : rest.length ≤ cs.length := by
  induction cs generalizing value with
  | nil => simp [exponentDigits] at h; simp [h.2.symm]
  | cons c more ih =>
      unfold exponentDigits at h
      split at h
      · split at h
        · cases h
        · have := ih h
          simp
          omega
      · cases h
        simp

/-- Reads an exponent after its letter, and finishes the number. -/
def readExponent (limit : Nat) (negative : Bool) (significand : Nat) (start : Int)
    (cs : List Char) (h : cs.length < limit)
    : Except Fault (Parsed Number limit) :=
  let downward := cs.head? = some '-'
  let signed := downward || cs.head? = some '+'
  let digits := if signed then cs.tail else cs
  have fits : digits.length < limit := by
    have : cs.tail.length ≤ cs.length := by simp
    simp only [digits]
    split <;> omega
  match digits, fits with
  | [], _ => .error (.atEnd .endInValue)
  | c :: rest, fits =>
      if c.isDigit then
        match held : exponentDigits 0 (c :: rest) with
        | .ok (exponent, after) => do
            let total : Int := if downward then start - exponent else start + exponent
            let value ← finite negative significand total after
            .ok ⟨value, after, by have := length_exponentDigits held; omega⟩
        | .error after =>
            if significand ≠ 0 && !downward then .error (.before .numberOutOfRange after)
            else
              .ok ⟨.real (if negative then -0.0 else 0.0), (c :: rest).dropWhile Char.isDigit,
                Nat.lt_of_le_of_lt (length_dropWhile_le _ _) fits⟩
      else .error (.atNext .invalidNumber (c :: rest))

/-- The letter that starts an exponent. -/
def isExponentMark (c : Char) : Bool :=
  c = 'e' || c = 'E'

/-- Reads the digits after a decimal point, and finishes the number. The exponent counts the
digits before the point that no longer fitted.
-/
def readFraction (limit : Nat) (negative : Bool) (significand : Nat) (dropped : Nat)
    (cs : List Char) (h : cs.length < limit)
    : Except Fault (Parsed Number limit) :=
  let digits := wordDigits significand (cs.takeWhile Char.isDigit)
  let exponent : Int := dropped - digits.taken
  match cs.head?.map Char.isDigit with
  | none => .error (.atEnd .endInValue)
  | some false => .error (.atNext .invalidNumber cs)
  | some true =>
      have fits : (cs.dropWhile Char.isDigit).length < limit :=
        Nat.lt_of_le_of_lt (length_dropWhile_le _ _) h
      match cs.dropWhile Char.isDigit, fits with
      | [], fits => do
          let value ← finite negative digits.value exponent []
          .ok ⟨value, [], fits⟩
      | c :: rest, fits =>
          if isExponentMark c then
            readExponent limit negative digits.value exponent rest (by simp at fits; omega)
          else do
            let value ← finite negative digits.value exponent (c :: rest)
            .ok ⟨value, c :: rest, fits⟩

/-- Reads a number after its sign. -/
def readNumber (limit : Nat) (negative : Bool) (cs : List Char) (h : cs.length ≤ limit)
    : Except Fault (Parsed Number limit) :=
  match cs, h with
  | [], _ => .error (.atEnd .endInValue)
  | c :: more, h =>
      if !c.isDigit then .error (.atNext .invalidNumber (c :: more))
      else if c = '0' && (more.head?.map Char.isDigit).getD false then
        .error (.atNext .invalidNumber more)
      else
        let digits := wordDigits 0 ((c :: more).takeWhile Char.isDigit)
        have fits : (more.dropWhile Char.isDigit).length < limit := by
          have := length_dropWhile_le Char.isDigit more
          simp at h
          omega
        match more.dropWhile Char.isDigit, fits with
        | [], fits => do
            let value ← plain digits []
            .ok ⟨value, [], fits⟩
        | d :: rest, fits =>
            if d = '.' then
              readFraction limit negative digits.value digits.dropped rest
                (by simp at fits; omega)
            else if isExponentMark d then
              readExponent limit negative digits.value digits.dropped rest
                (by simp at fits; omega)
            else do
              let value ← plain digits (d :: rest)
              .ok ⟨value, d :: rest, fits⟩
where
  plain (digits : Digits) (rest : List Char) : Except Fault Number :=
    if digits.dropped = 0 then .ok (.ofWord negative digits.value)
    else finite negative digits.value digits.dropped rest

end RecordSmith.Json
