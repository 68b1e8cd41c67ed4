/-!
# White space

The Unicode property `White_Space`: twenty-five characters, among them the line feed. They
separate tokens and belong to none.
-/

namespace PayoffLexer.Unicode

def isWhiteSpaceCode (code : Nat) : Bool :=
  (0x09 ≤ code && code ≤ 0x0D) || code == 0x20 || code == 0x85 || code == 0xA0 || code == 0x1680
    || (0x2000 ≤ code && code ≤ 0x200A) || code == 0x2028 || code == 0x2029 || code == 0x202F
    || code == 0x205F || code == 0x3000

def isWhiteSpace (c : Char) : Bool :=
  isWhiteSpaceCode c.toNat

end PayoffLexer.Unicode
