import RecordSmith.Text.CharRange

/-! White space, and texts without white space at their end. -/

namespace RecordSmith.Text

/-- The code points of the Unicode property White_Space. -/
def blankRanges : List CharRange :=
  [⟨0x09, 0x0D⟩, ⟨0x20, 0x20⟩, ⟨0x85, 0x85⟩, ⟨0xA0, 0xA0⟩, ⟨0x1680, 0x1680⟩,
    ⟨0x2000, 0x200A⟩, ⟨0x2028, 0x2029⟩, ⟨0x202F, 0x202F⟩, ⟨0x205F, 0x205F⟩,
    ⟨0x3000, 0x3000⟩]

/-- A white space character of any script. -/
def isBlank (c : Char) : Bool :=
  inRanges blankRanges c

/-- The characters without the white space that ends them. -/
def trimEndChars (cs : List Char) : List Char :=
  (cs.reverse.dropWhile isBlank).reverse

/-- The text without the white space that ends it. -/
def trimEnd (text : String) : String :=
  String.ofList (trimEndChars text.toList)

end RecordSmith.Text
