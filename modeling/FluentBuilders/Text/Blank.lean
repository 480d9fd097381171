/-!
Blank characters, and the two operations on them: trimming a text and closing up or dropping the
blanks inside it.
-/

namespace FluentBuilders.Text

/-- The blanks: white space of ASCII with its four separators, next line, no-break space and the
spaces and separators beyond Latin 1. -/
def isBlank (c : Char) : Bool :=
  let n := c.toNat
  (0x09 ≤ n && n ≤ 0x0D) || (0x1C ≤ n && n ≤ 0x20) || n = 0x85 || n = 0xA0 || n = 0x1680 ||
    (0x2000 ≤ n && n ≤ 0x200A) || n = 0x2028 || n = 0x2029 || n = 0x202F || n = 0x205F || n = 0x3000

/-- Core's white space is blank. -/
theorem isBlank_of_isWhitespace {c : Char} (h : c.isWhitespace = true) : isBlank c = true := by
  simp only [Char.isWhitespace, Bool.or_eq_true, decide_eq_true_eq] at h
  rcases h with ((h | h) | h) | h <;> subst h <;> decide

/-- The characters without those at both ends that `drop` says. -/
def trimWhile (drop : Char → Bool) (cs : List Char) : List Char :=
  ((cs.dropWhile drop).reverse.dropWhile drop).reverse

/-- The characters without the blanks at both ends. -/
def trimChars (cs : List Char) : List Char := trimWhile isBlank cs

/-- A text without the blanks at both ends. -/
def trim (s : String) : String := String.ofList (trimChars s.toList)

/-- Whether a text holds nothing but blanks. -/
def isAllBlank (s : String) : Bool := s.toList.all isBlank

/-- Every run of blanks becomes one space; `inRun` says that the character before was a blank. -/
def collapseChars (inRun : Bool) : List Char → List Char
  | [] => []
  | c :: rest =>
    if isBlank c then
      if inRun then collapseChars true rest else ' ' :: collapseChars true rest
    else c :: collapseChars false rest

/-- A text on one line: every run of blanks becomes one space, and none is left at the ends. -/
def collapse (s : String) : String := String.ofList (trimChars (collapseChars false s.toList))

/-- A text without any blank. -/
def dropBlanks (s : String) : String := String.ofList (s.toList.filter fun c => !isBlank c)

end FluentBuilders.Text
