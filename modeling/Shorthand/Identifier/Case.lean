import Shorthand.Text.Lowercase

/-! Spellings of a name: words run together with capitals, the same with a small first letter, and
small letters with hyphens between the words. -/
namespace Shorthand.Identifier

/-- Hyphens, underscores and blanks stand between the words of a name. -/
def isSeparator (c : Char) : Bool := c == '-' || c == '_' || Text.isBlank c

/-- ASCII letters and digits and the dollar sign are kept, all else is dropped. -/
def isKept (c : Char) : Bool := c.isAlphanum || c == '$'

/-- Make the first letter a capital; the characters of a name are ASCII. -/
def capitalize : Text → Text
  | [] => []
  | c :: s => c.toUpper :: s

/-- Make the first letter a small one; the characters of a name are ASCII. -/
def decapitalize : Text → Text
  | [] => []
  | c :: s => c.toLower :: s

/-- Words run together, each with a capital: `user-profile` becomes `UserProfile`. -/
def pascal (s : Text) : Text :=
  (s.splitOnP isSeparator).flatMap fun word => capitalize (word.filter isKept)

/-- Words run together, each but the first with a capital: `user-profile` becomes
`userProfile`. -/
def camel (s : Text) : Text := decapitalize (pascal s)

/-- Put a hyphen between a small letter or digit and a capital right after it. -/
def hyphenate : Text → Text
  | [] => []
  | [c] => [c]
  | c :: d :: s =>
    if (c.isLower || c.isDigit) && d.isUpper then c :: '-' :: hyphenate (d :: s)
    else c :: hyphenate (d :: s)

/-- Put one hyphen in place of each run of underscores and blanks; `inside` says that such a run
is under way. -/
def hyphenateGaps (inside : Bool) : Text → Text
  | [] => []
  | c :: s =>
    if c == '_' || Text.isBlank c then
      if inside then hyphenateGaps true s else '-' :: hyphenateGaps true s
    else c :: hyphenateGaps false s

/-- Small letters with hyphens between words: `UserProfile` becomes `user-profile`. -/
def kebab (s : Text) : Text := Text.lower (hyphenateGaps false (hyphenate s))

end Shorthand.Identifier
