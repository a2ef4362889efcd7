import RecordSmith.Checksum.Sha256

/-! Checksums by which two texts are told apart. -/

namespace RecordSmith

/-- A checksum as it is stored and shown. -/
structure Checksum where
  text : String
deriving Repr, DecidableEq

namespace Checksum

/-- The checksum of a text: the SHA-256 of its bytes in hexadecimal. -/
def ofText (content : String) : Checksum :=
  ⟨Sha256.hexDigest content.toUTF8.toList⟩

/-- The content has this checksum. -/
def matchesText (checksum : Checksum) (content : String) : Bool :=
  ofText content = checksum

end Checksum

end RecordSmith
