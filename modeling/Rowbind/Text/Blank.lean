import Rowbind.Text.CodeRun

/-!
# Blank characters

The characters with the Unicode property *White_Space*: the ASCII controls from tab to carriage
return, the space, and the spaces and separators of other scripts. The zero-width space and the
byte order mark are not among them.
-/

namespace Rowbind.Text

/-- All blank code points, ascending. -/
def blankRuns : List CodeRun := [
    ⟨0x9, 0xD, 1⟩, ⟨0x20, 0x20, 1⟩,
    ⟨0x85, 0x85, 1⟩, ⟨0xA0, 0xA0, 1⟩, ⟨0x1680, 0x1680, 1⟩, ⟨0x2000, 0x200A, 1⟩,
    ⟨0x2028, 0x2029, 1⟩, ⟨0x202F, 0x202F, 1⟩, ⟨0x205F, 0x205F, 1⟩, ⟨0x3000, 0x3000, 1⟩]

/-- **Whether a character is blank.** -/
def isBlank (c : Char) : Bool :=
  inRuns blankRuns c.toNat

end Rowbind.Text
