/-!
The bytes of an open file, which may be written to at any offset.
-/

namespace SeedSync

abbrev Content := Array UInt8

namespace Content

def zeros (length : Nat) : Content := Array.replicate length 0

/-- Writes bytes in the place of those from `offset` on. A gap behind the end of the file is
filled with zeros. -/
def writeAt (file : Content) (offset : Nat) : List UInt8 → Content
  | [] => file
  | b :: bs =>
    let file :=
      if _h : offset < file.size then file.set offset b
      else (file ++ zeros (offset - file.size)).push b
    writeAt file (offset + 1) bs

end Content

end SeedSync
