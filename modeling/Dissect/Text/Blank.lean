/-!
# Blanks and letter case

Header fields, request lines and extension parameters are cut at blanks. A blank is a character
of Unicode's `White_Space` property: the controls `U+0009`-`U+000D`, the space, `U+0085`, the
no-break space, the Ogham space mark, the spaces `U+2000`-`U+200A`, the line and paragraph
separators, the narrow no-break space, the medium mathematical space and the ideographic space.
Letter case is folded only for ASCII letters, so `Ü` keeps its case.
-/

set_option autoImplicit false

namespace Dissect.Text

/-- Whether a character is blank (`White_Space`). -/
def isBlank (c : Char) : Bool :=
  let n := c.toNat
  (0x09 ≤ n && n ≤ 0x0D) || n == 0x20 || n == 0x85 || n == 0xA0 || n == 0x1680 ||
    (0x2000 ≤ n && n ≤ 0x200A) || n == 0x2028 || n == 0x2029 || n == 0x202F ||
    n == 0x205F || n == 0x3000

def trim (s : String) : String :=
  String.ofList (((s.toList.dropWhile isBlank).reverse.dropWhile isBlank).reverse)

def words (s : String) : List String :=
  ((s.toList.splitBy (fun a b => isBlank a == isBlank b)).filter
    (fun run => !run.all isBlank)).map String.ofList

def lowerAscii (c : Char) : Char :=
  if 'A' ≤ c ∧ c ≤ 'Z' then Char.ofNat (c.toNat + 32) else c

def toLowerAscii (s : String) : String := String.ofList (s.toList.map lowerAscii)

def eqIgnoreAsciiCase (a b : String) : Bool :=
  a.toList.map lowerAscii == b.toList.map lowerAscii

def preview (n : Nat) (s : String) : String :=
  if s.length > n then String.ofList (s.toList.take n) ++ "..." else s

theorem isBlank_space : isBlank ' ' = true := rfl

theorem lowerAscii_eq_of_not_upper (c : Char) (h : ¬('A' ≤ c ∧ c ≤ 'Z')) : lowerAscii c = c := by
  simp [lowerAscii, h]

end Dissect.Text
