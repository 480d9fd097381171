import FluentBuilders.Text.LowerCase.Table

/-!
Lower-casing of whole texts. Every character has a lower-case form of one or two characters that
depends on the character alone, except the capital sigma: it becomes the final sigma at the end of a
word and the plain one elsewhere.
-/

namespace FluentBuilders.Text

/-- Whether a character has case and is not passed over when looking for the end of a word. -/
def isCased (c : Char) : Bool :=
  if c.toNat < 128 then c.isAlpha else casedTable.contains c

/-- Whether a character is passed over when looking for the end of a word. -/
def isIgnorable (c : Char) : Bool :=
  if c.toNat < 128 then c = '\'' || c = '.' || c = ':' || c = '^' || c = '`'
  else ignorableTable.contains c

/-- The lower-case form of a character other than the capital sigma. The capital i with a dot keeps
its dot apart. -/
def lowerChar (c : Char) : List Char :=
  if c.toNat < 128 then [c.toLower]
  else if c = 'İ' then ['i', Char.ofNat 0x307]
  else
    match lowerRanges.find? fun r => r.contains c.toNat with
    | some r => [Char.ofNat (c.toNat + r.shift).toNat]
    | none => [c]

/-- Whether the nearest character that is not passed over has case. -/
def nearestIsCased (cs : List Char) : Bool :=
  match cs.dropWhile isIgnorable with
  | [] => false
  | c :: _ => isCased c

/-- Lower-cases the characters, with those already passed in `before`, nearest first. -/
def lowerFrom (before : List Char) : List Char → List Char
  | [] => []
  | c :: rest =>
    let form :=
      if c = 'Σ' then
        if nearestIsCased before && !nearestIsCased rest then ['ς'] else ['σ']
      else lowerChar c
    form ++ lowerFrom (c :: before) rest

/-- The lower-case form of a text. -/
def lowerCase (s : String) : String := String.ofList (lowerFrom [] s.toList)

end FluentBuilders.Text
