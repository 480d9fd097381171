import FluentBuilders.Text.Word.Table

/-!
Characters of words: letters and digits of any script, and the underscore.
-/

namespace FluentBuilders.Text

/-- Whether a character belongs to a word. -/
def isWordChar (c : Char) : Bool :=
  if c.toNat < 128 then c.isAlphanum || c = '_' else wordTable.contains c

/-- Whether the characters start with the given ones. -/
def startsWith : List Char → List Char → Bool
  | [], _ => true
  | _ :: _, [] => false
  | c :: cs, d :: ds => c = d && startsWith cs ds

/-- Whether the characters start with the given word, and the word ends there. -/
def startsWithWord (w : List Char) (cs : List Char) : Bool :=
  startsWith w cs &&
    match cs.drop w.length with
    | [] => true
    | c :: _ => !isWordChar c

end FluentBuilders.Text
