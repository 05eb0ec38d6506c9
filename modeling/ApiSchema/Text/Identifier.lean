import ApiSchema.Text.IdentifierRanges

/-! Identifier characters: letters, digits and the underscore in ASCII, the Unicode properties
XID_Start and XID_Continue above it. -/

namespace ApiSchema.Text

def inRanges (ranges : Array (Nat × Nat)) (n : Nat) : Bool :=
  ranges.any fun range => range.1 ≤ n && n ≤ range.2

def isIdentifierStart (c : Char) : Bool :=
  if c.toNat < 0x80 then c.isAlpha || c = '_' else inRanges identifierStartRanges c.toNat

def isIdentifierPart (c : Char) : Bool :=
  if c.toNat < 0x80 then c.isAlphanum || c = '_' else inRanges identifierPartRanges c.toNat

end ApiSchema.Text
