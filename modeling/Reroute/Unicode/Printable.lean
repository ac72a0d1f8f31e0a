import Reroute.Unicode.Property

set_option autoImplicit false

namespace Reroute

namespace Unicode

/-- The characters that have no glyph of their own: controls, separators but for the plain space,
unassigned and private characters, and those that extend the character before them. -/
def hiddenSet : CharSet :=
  ((categoryUnion ["cc", "cf", "co", "cn", "zl", "zp", "zs"]).diff (.ofChar ' ')).union
    graphemeExtendSet

end Unicode

namespace Text

def codeEscape (c : Char) : Text :=
  ['\\', 'u', '\x7b'] ++ Nat.toDigits 16 c.toNat ++ ['\x7d']

def quotedChar (c : Char) : Text :=
  if c = '\x00' then ['\\', '0']
  else if c = '\t' then ['\\', 't']
  else if c = '\r' then ['\\', 'r']
  else if c = '\n' then ['\\', 'n']
  else if c = '\\' ∨ c = '\x22' then ['\\', c]
  else if Unicode.hiddenSet.contains c then codeEscape c
  else [c]

def quoted (t : Text) : Text :=
  '\x22' :: t.flatMap quotedChar ++ ['\x22']

end Text

end Reroute
