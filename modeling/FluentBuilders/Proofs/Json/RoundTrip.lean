import FluentBuilders.Proofs.Json.Text

/-!
Values that are printed and read back. Numbers are left out: manifests hold none.

1. `ordered`: a value with its members in the order in which they are printed.
2. `Tidy`: values without numbers, with different keys in each object.
3. The reader on brackets, and past white space.
4. `value_pretty`: the reader gives back what was printed; and with it `read?_pretty`.
5. `get?_ordered`: members are found under their keys in any order.
6. What is printed holds no return.
-/

namespace FluentBuilders

open Text

namespace Json

/-! ## 1. Ordered values -/

mutual
/-- The value with the members of each object in the order of their keys. -/
def ordered : Json → Json
  | .list items => .list (orderedItems items)
  | .object members => .object (sortMembers (orderedMembers members))
  | j => j

/-- The items of a list, each ordered. -/
def orderedItems : List Json → List Json
  | [] => []
  | j :: rest => ordered j :: orderedItems rest

/-- The members of an object, each value ordered. -/
def orderedMembers : List (String × Json) → List (String × Json)
  | [] => []
  | (key, j) :: rest => (key, ordered j) :: orderedMembers rest
end

theorem orderedItems_eq (items : List Json) : orderedItems items = items.map ordered := by
  induction items with
  | nil => rfl
  | cons j rest ih => exact congrArg (ordered j :: ·) ih

theorem orderedMembers_eq (members : List (String × Json)) :
    orderedMembers members = members.map fun m => (m.1, ordered m.2) := by
  induction members with
  | nil => rfl
  | cons m rest ih => exact congrArg ((m.1, ordered m.2) :: ·) ih

theorem prettyItems_eq (indent : Nat) (items : List Json) :
    prettyItems indent items = items.map (prettyChars indent) := by
  induction items with
  | nil => rfl
  | cons j rest ih => exact congrArg (prettyChars indent j :: ·) ih

theorem prettyMembers_eq (indent : Nat) (members : List (String × Json)) :
    prettyMembers indent members = members.map fun m => (m.1, prettyChars indent m.2) := by
  induction members with
  | nil => rfl
  | cons m rest ih => exact congrArg ((m.1, prettyChars indent m.2) :: ·) ih

/-- Sorting looks at keys alone. -/
theorem sortMembers_map {α β : Type} (f : α → β) (members : List (String × α)) :
    sortMembers (members.map fun m => (m.1, f m.2)) =
      (sortMembers members).map fun m => (m.1, f m.2) := by
  have hplace : ∀ (m : String × α) (l : List (String × α)),
      placeItem (fun a b : String × β => decide (a.1 ≤ b.1)) (m.1, f m.2)
          (l.map fun m => (m.1, f m.2)) =
        (placeItem (fun a b : String × α => decide (a.1 ≤ b.1)) m l).map fun m => (m.1, f m.2) := by
    intro m l
    induction l with
    | nil => rfl
    | cons n rest ih =>
      rw [List.map_cons, placeItem, placeItem, ih]
      split <;> rfl
  unfold sortMembers sortByKey
  induction members with
  | nil => rfl
  | cons m rest ih =>
    rw [List.map_cons, sortItems, ih, hplace]
    rfl

theorem sortMembers_perm {α : Type} (members : List (String × α)) :
    (sortMembers members).Perm members :=
  sortByKey_perm ..

/-! ## 2. Tidy values -/

/-- Values without numbers, with at most `depth` filled brackets inside each other and different keys
in each object. -/
inductive Tidy : Nat → Json → Prop
  | null (depth : Nat) : Tidy depth .null
  | bool (depth : Nat) (b : Bool) : Tidy depth (.bool b)
  | text (depth : Nat) (s : String) : Tidy depth (.text s)
  | list {depth : Nat} {items : List Json} : (∀ j ∈ items, Tidy depth j) →
    Tidy (depth + 1) (.list items)
  | object {depth : Nat} {members : List (String × Json)} : (members.map (·.1)).Nodup →
    (∀ m ∈ members, Tidy depth m.2) → Tidy (depth + 1) (.object members)

/-! ## 3. The reader -/

variable {fuel depth : Nat} {cs rest after : List Char} {j : Json}

theorem skipSpace_append {space : List Char} (hspace : ∀ c ∈ space, isSpace c = true)
    (cs : List Char) : skipSpace (space ++ cs) = skipSpace cs := by
  unfold skipSpace
  induction space with
  | nil => rfl
  | cons c rest ih =>
    rw [List.cons_append, List.dropWhile_cons, if_pos (hspace c List.mem_cons_self)]
    exact ih fun d hd => hspace d (List.mem_cons_of_mem _ hd)

theorem skipSpace_cons {c : Char} (hc : isSpace c = false) (cs : List Char) :
    skipSpace (c :: cs) = c :: cs :=
  List.dropWhile_cons_of_neg (by simp [hc])

theorem skipSpace_skipSpace (cs : List Char) : skipSpace (skipSpace cs) = skipSpace cs := by
  unfold skipSpace
  induction cs with
  | nil => rfl
  | cons c rest ih =>
    rw [List.dropWhile_cons]
    split
    · exact ih
    · next hc => rw [List.dropWhile_cons, if_neg hc]

theorem value_skipSpace (fuel depth : Nat) (cs : List Char) :
    value fuel depth (skipSpace cs) = value fuel depth cs := by
  cases fuel with
  | zero => rfl
  | succ fuel => rw [value, value, skipSpace_skipSpace]

theorem items_skipSpace (fuel depth : Nat) (cs : List Char) :
    items fuel depth (skipSpace cs) = items fuel depth cs := by
  cases fuel with
  | zero => rfl
  | succ fuel => rw [items, items, value_skipSpace]

theorem members_skipSpace (fuel depth : Nat) (cs : List Char) :
    members fuel depth (skipSpace cs) = members fuel depth cs := by
  cases fuel with
  | zero => rfl
  | succ fuel => rw [members, members, skipSpace_skipSpace]

theorem value_list {js : List Json} (h : skipSpace cs = '[' :: rest)
    (hinner : ∀ more, skipSpace rest ≠ ']' :: more)
    (hitems : items fuel depth rest = some (js, after)) :
    value (fuel + 1) (depth + 1) cs = some (.list js, after) := by
  rw [value, h]
  split
  · next heq =>
    obtain rfl := (List.cons.inj heq).2
    split
    · next more hmore => exact absurd hmore (hinner more)
    · dsimp only
      rw [items_skipSpace, hitems]
  · next heq => exact absurd (List.cons.inj heq).1 (by decide)
  · next hlist _ => exact absurd rfl (hlist rest)

theorem value_object {ms : List (String × Json)} (h : skipSpace cs = '\x7b' :: rest)
    (hinner : ∀ more, skipSpace rest ≠ '\x7d' :: more)
    (hmembers : members fuel depth rest = some (ms, after)) :
    value (fuel + 1) (depth + 1) cs = some (.object ms, after) := by
  rw [value, h]
  split
  · next heq => exact absurd (List.cons.inj heq).1 (by decide)
  · next heq =>
    obtain rfl := (List.cons.inj heq).2
    split
    · next more hmore => exact absurd hmore (hinner more)
    · dsimp only
      rw [members_skipSpace, hmembers]
  · next hobject => exact absurd rfl (hobject rest)

theorem value_scalar {c : Char} (h : skipSpace cs = c :: rest) (hlist : c ≠ '[')
    (hobject : c ≠ '\x7b') : value (fuel + 1) depth cs = scalar (c :: rest) := by
  rw [value, h]
  split
  · next heq => exact absurd (List.cons.inj heq).1 hlist
  · next heq => exact absurd (List.cons.inj heq).1 hobject
  · rfl

theorem items_last (hvalue : value fuel depth cs = some (j, rest))
    (hrest : skipSpace rest = ']' :: after) :
    items (fuel + 1) depth cs = some ([j], after) := by
  rw [items, hvalue]
  dsimp only
  rw [hrest]
  rfl

theorem items_more {more : List Char} {js : List Json}
    (hvalue : value fuel depth cs = some (j, rest)) (hrest : skipSpace rest = ',' :: more)
    (hmore : items fuel depth more = some (js, after)) :
    items (fuel + 1) depth cs = some (j :: js, after) := by
  rw [items, hvalue]
  dsimp only
  rw [hrest]
  simp only [hmore]

theorem escapeText_append (key : String) (tail : List Char) :
    escapeText key ++ tail = '"' :: (key.toList.flatMap escapeChar ++ '"' :: tail) := by
  simp [escapeText]

theorem members_last {key : String} {body : List Char}
    (hkey : skipSpace cs = escapeText key ++ ':' :: body)
    (hvalue : value fuel depth body = some (j, rest)) (hrest : skipSpace rest = '\x7d' :: after) :
    members (fuel + 1) depth cs = some ([(key, j)], after) := by
  have hcolon : skipSpace (':' :: body) = ':' :: body := skipSpace_cons rfl _
  rw [members, hkey, escapeText_append]
  simp only [textBody_escape, hcolon, hvalue, hrest]

theorem members_more {key : String} {body more : List Char} {ms : List (String × Json)}
    (hkey : skipSpace cs = escapeText key ++ ':' :: body)
    (hvalue : value fuel depth body = some (j, rest)) (hrest : skipSpace rest = ',' :: more)
    (hmore : members fuel depth more = some (ms, after)) :
    members (fuel + 1) depth cs = some ((key, j) :: ms, after) := by
  have hcolon : skipSpace (':' :: body) = ':' :: body := skipSpace_cons rfl _
  rw [members, hkey, escapeText_append]
  simp only [textBody_escape, hcolon, hvalue, hrest, hmore]

/-! ## 4. Reading what was printed -/

/-- Wherever its printed form stands, white space before it or not, a value is read back, ordered. -/
def Reads (depth : Nat) (j : Json) : Prop :=
  ∀ (fuel d indent : Nat) (space rest : List Char), depth ≤ d → (∀ c ∈ space, isSpace c = true) →
    2 * (prettyChars indent j).length ≤ fuel →
    value fuel d (space ++ (prettyChars indent j ++ rest)) = some (j.ordered, rest)

/-- Lines with commas between them, each `indent` deep. -/
def layLines (indent : Nat) (lines : List (List Char)) : List Char :=
  List.intercalate [',', '\n'] (lines.map (List.replicate indent ' ' ++ ·))

theorem bracketLines_eq (opening closing : Char) (indent : Nat) {lines : List (List Char)}
    (h : lines ≠ []) :
    bracketLines opening closing indent lines =
      opening :: '\n' :: (layLines (indent + 2) lines ++
        '\n' :: (List.replicate indent ' ' ++ [closing])) := by
  unfold bracketLines layLines
  rw [if_neg (by simpa using h)]

theorem layLines_singleton (indent : Nat) (line : List Char) :
    layLines indent [line] = List.replicate indent ' ' ++ line := by
  simp [layLines]

theorem layLines_cons (indent : Nat) (line next : List Char) (lines : List (List Char)) :
    layLines indent (line :: next :: lines) =
      List.replicate indent ' ' ++ line ++ ',' :: '\n' :: layLines indent (next :: lines) := by
  simp [layLines]

theorem isSpace_lineFeed : ∀ c ∈ ['\n'], isSpace c = true := List.forall_mem_singleton.mpr rfl

theorem isSpace_pad {space : List Char} (hspace : ∀ c ∈ space, isSpace c = true) (indent : Nat) :
    ∀ c ∈ space ++ List.replicate indent ' ', isSpace c = true := by
  intro c hc
  rcases List.mem_append.mp hc with hc | hc
  · exact hspace c hc
  · rw [List.eq_of_mem_replicate hc]
    rfl

theorem items_lines {js : List Json} (hne : js ≠ []) (h : ∀ j ∈ js, Reads depth j) {d : Nat}
    (hd : depth ≤ d) (indent : Nat) {space tail : List Char}
    (hspace : ∀ c ∈ space, isSpace c = true) (htail : skipSpace tail = ']' :: after)
    (hfuel : 2 * (layLines indent (js.map (prettyChars indent))).length + 1 ≤ fuel) :
    items fuel d (space ++ (layLines indent (js.map (prettyChars indent)) ++ tail)) =
      some (js.map ordered, after) := by
  induction js generalizing fuel space with
  | nil => exact absurd rfl hne
  | cons j more ih =>
    obtain ⟨fuel, rfl⟩ : ∃ n, fuel = n + 1 := ⟨fuel - 1, by omega⟩
    have hpad := isSpace_pad hspace indent
    cases more with
    | nil =>
      rw [List.map_singleton, layLines_singleton, List.length_append] at hfuel
      rw [List.map_singleton, layLines_singleton, List.append_assoc, ← List.append_assoc space]
      exact items_last (h j List.mem_cons_self fuel d indent _ tail hd hpad (by omega)) htail
    | cons k more =>
      rw [List.map_cons, List.map_cons, layLines_cons, ← List.map_cons, List.length_append,
        List.length_append, List.length_cons, List.length_cons] at hfuel
      rw [List.map_cons, List.map_cons, layLines_cons, ← List.map_cons, List.append_assoc,
        List.append_assoc, ← List.append_assoc space]
      refine items_more (h j List.mem_cons_self fuel d indent _ _ hd hpad (by omega))
        (skipSpace_cons rfl _) ?_
      exact ih (List.cons_ne_nil k more) (fun j hj => h j (List.mem_cons_of_mem _ hj))
        isSpace_lineFeed (by omega)

/-- A member as it stands on its line. -/
def memberLine (indent : Nat) (m : String × Json) : List Char :=
  escapeText m.1 ++ ':' :: ' ' :: prettyChars indent m.2

theorem members_lines {ms : List (String × Json)} (hne : ms ≠ [])
    (h : ∀ m ∈ ms, Reads depth m.2) {d : Nat} (hd : depth ≤ d) (indent : Nat)
    {space tail : List Char} (hspace : ∀ c ∈ space, isSpace c = true)
    (htail : skipSpace tail = '\x7d' :: after)
    (hfuel : 2 * (layLines indent (ms.map (memberLine indent))).length + 1 ≤ fuel) :
    members fuel d (space ++ (layLines indent (ms.map (memberLine indent)) ++ tail)) =
      some (ms.map fun m => (m.1, ordered m.2), after) := by
  induction ms generalizing fuel space with
  | nil => exact absurd rfl hne
  | cons m more ih =>
    obtain ⟨fuel, rfl⟩ : ∃ n, fuel = n + 1 := ⟨fuel - 1, by omega⟩
    have hpad := isSpace_pad hspace indent
    have hvalue : 2 * (prettyChars indent m.2).length ≤ fuel → ∀ tail,
        value fuel d (' ' :: prettyChars indent m.2 ++ tail) = some (m.2.ordered, tail) := by
      intro hlength tail
      exact h m List.mem_cons_self fuel d indent [' '] tail hd (List.forall_mem_singleton.mpr rfl) hlength
    have hkey : ∀ tail, skipSpace (space ++ (List.replicate indent ' ' ++ memberLine indent m ++ tail)) =
        escapeText m.1 ++ ':' :: (' ' :: prettyChars indent m.2 ++ tail) := by
      intro tail
      rw [List.append_assoc, ← List.append_assoc space, skipSpace_append hpad]
      unfold memberLine
      rw [List.append_assoc]
      exact skipSpace_cons rfl _
    cases more with
    | nil =>
      rw [List.map_singleton, layLines_singleton, List.length_append, memberLine,
        List.length_append, List.length_cons, List.length_cons] at hfuel
      rw [List.map_singleton, layLines_singleton]
      exact members_last (hkey tail) (hvalue (by omega) tail) htail
    | cons n more =>
      rw [List.map_cons, List.map_cons, layLines_cons, ← List.map_cons, List.length_append,
        List.length_append, memberLine, List.length_append, List.length_cons, List.length_cons,
        List.length_cons, List.length_cons] at hfuel
      rw [List.map_cons, List.map_cons, layLines_cons, ← List.map_cons,
        List.append_assoc (List.replicate indent ' ' ++ memberLine indent m)]
      refine members_more (hkey _) (hvalue (by omega) _) (skipSpace_cons rfl _) ?_
      exact ih (List.cons_ne_nil n more) (fun m hm => h m (List.mem_cons_of_mem _ hm))
        isSpace_lineFeed (by omega)

/-- How a value starts: not with white space, and not with the end of a list. -/
theorem Tidy.head (h : Tidy depth j) (indent : Nat) :
    ∃ c more, prettyChars indent j = c :: more ∧ isSpace c = false ∧ c ≠ ']' := by
  have hbracket : ∀ (opening closing : Char) (lines : List (List Char)),
      ∃ more, bracketLines opening closing indent lines = opening :: more := by
    intro opening closing lines
    unfold bracketLines
    split
    · exact ⟨_, rfl⟩
    · exact ⟨_, rfl⟩
  cases h with
  | null => exact ⟨'n', _, rfl, rfl, by decide⟩
  | bool _ b =>
    cases b with
    | true => exact ⟨'t', _, rfl, rfl, by decide⟩
    | false => exact ⟨'f', _, rfl, rfl, by decide⟩
  | text s => exact ⟨'"', _, rfl, rfl, by decide⟩
  | list =>
    obtain ⟨more, hmore⟩ := hbracket '[' ']' _
    exact ⟨'[', more, hmore, rfl, by decide⟩
  | object =>
    obtain ⟨more, hmore⟩ := hbracket '\x7b' '\x7d' _
    exact ⟨'\x7b', more, hmore, rfl, by decide⟩

theorem skipSpace_lines (indent : Nat) {line : List Char} {c : Char} {more tail : List Char}
    (hline : line = c :: more) (lines : List (List Char)) (hc : isSpace c = false) :
    ∃ after, skipSpace ('\n' :: (layLines indent (line :: lines) ++ tail)) = c :: after := by
  have hpad := isSpace_pad isSpace_lineFeed indent
  subst hline
  cases lines with
  | nil =>
    refine ⟨more ++ tail, ?_⟩
    have hskip := skipSpace_append hpad (c :: more ++ tail)
    rw [layLines_singleton]
    simpa [skipSpace_cons hc] using hskip
  | cons next lines =>
    refine ⟨more ++ (',' :: '\n' :: layLines indent (next :: lines) ++ tail), ?_⟩
    have hskip := skipSpace_append hpad
      (c :: more ++ (',' :: '\n' :: layLines indent (next :: lines) ++ tail))
    rw [layLines_cons]
    simpa [skipSpace_cons hc] using hskip

theorem skipSpace_closing (indent : Nat) {closing : Char} (hclosing : isSpace closing = false)
    (rest : List Char) :
    skipSpace ('\n' :: (List.replicate indent ' ' ++ [closing]) ++ rest) = closing :: rest := by
  have hpad := isSpace_pad isSpace_lineFeed indent
  have hskip := skipSpace_append hpad (closing :: rest)
  simpa [skipSpace_cons hclosing] using hskip

theorem Reads.text (depth : Nat) (s : String) : Reads depth (.text s) := by
  intro fuel d indent space rest _ hspace hfuel
  obtain ⟨fuel, rfl⟩ : ∃ n, fuel = n + 1 :=
    ⟨fuel - 1, by simp [prettyChars, escapeText] at hfuel; omega⟩
  have hstart : skipSpace (space ++ (prettyChars indent (.text s) ++ rest)) =
      '"' :: (s.toList.flatMap escapeChar ++ '"' :: rest) := by
    rw [skipSpace_append hspace]
    simp only [prettyChars, escapeText, List.cons_append, List.append_assoc, List.nil_append]
    exact skipSpace_cons rfl _
  rw [value_scalar hstart (by decide) (by decide)]
  show (textBody (s.toList.flatMap escapeChar ++ '"' :: rest)).map
    (fun x => (Json.text x.1, x.2)) = _
  rw [textBody_escape]
  rfl

theorem Reads.list {js : List Json} (h : ∀ j ∈ js, Tidy depth j) (ih : ∀ j ∈ js, Reads depth j) :
    Reads (depth + 1) (.list js) := by
  intro fuel d indent space rest hd hspace hfuel
  obtain ⟨d, rfl⟩ : ∃ n, d = n + 1 := ⟨d - 1, by omega⟩
  rw [prettyChars, prettyItems_eq] at hfuel ⊢
  rw [ordered, orderedItems_eq]
  cases js with
  | nil =>
    obtain ⟨fuel, rfl⟩ : ∃ n, fuel = n + 1 := ⟨fuel - 1, by simp [bracketLines] at hfuel; omega⟩
    rw [value, skipSpace_append hspace]
    rfl
  | cons j more =>
    rw [bracketLines_eq _ _ _ (by simp)] at hfuel ⊢
    simp only [List.length_cons, List.length_append] at hfuel
    obtain ⟨fuel, rfl⟩ : ∃ n, fuel = n + 1 := ⟨fuel - 1, by omega⟩
    obtain ⟨c, head, hhead, hc, hclosing⟩ := (h j List.mem_cons_self).head (indent + 2)
    rw [List.cons_append, List.cons_append, List.append_assoc]
    refine value_list ((skipSpace_append hspace _).trans (skipSpace_cons rfl _)) ?_ ?_
    · intro more' hmore
      obtain ⟨after, hafter⟩ := skipSpace_lines (indent + 2) hhead
        (more.map (prettyChars (indent + 2))) hc
      rw [List.map_cons, hafter] at hmore
      exact hclosing (List.cons.inj hmore).1
    · exact items_lines (List.cons_ne_nil j more) ih (by omega) (indent + 2)
        isSpace_lineFeed (skipSpace_closing indent rfl rest) (by omega)

theorem Reads.object {ms : List (String × Json)} (ih : ∀ m ∈ ms, Reads depth m.2) :
    Reads (depth + 1) (.object ms) := by
  intro fuel d indent space rest hd hspace hfuel
  obtain ⟨d, rfl⟩ : ∃ n, d = n + 1 := ⟨d - 1, by omega⟩
  have hlines : (sortMembers (prettyMembers (indent + 2) ms)).map
      (fun m => escapeText m.1 ++ ':' :: ' ' :: m.2) =
        (sortMembers ms).map (memberLine (indent + 2)) := by
    rw [prettyMembers_eq, sortMembers_map, List.map_map]
    rfl
  rw [prettyChars, hlines] at hfuel ⊢
  rw [ordered, orderedMembers_eq, sortMembers_map]
  have ih : ∀ m ∈ sortMembers ms, Reads depth m.2 := fun m hm =>
    ih m ((sortMembers_perm ms).mem_iff.mp hm)
  generalize sortMembers ms = ms at hfuel ih
  cases ms with
  | nil =>
    obtain ⟨fuel, rfl⟩ : ∃ n, fuel = n + 1 := ⟨fuel - 1, by simp [bracketLines] at hfuel; omega⟩
    rw [value, skipSpace_append hspace]
    rfl
  | cons m more =>
    rw [bracketLines_eq _ _ _ (by simp)] at hfuel ⊢
    simp only [List.length_cons, List.length_append] at hfuel
    obtain ⟨fuel, rfl⟩ : ∃ n, fuel = n + 1 := ⟨fuel - 1, by omega⟩
    rw [List.cons_append, List.cons_append, List.append_assoc]
    refine value_object ((skipSpace_append hspace _).trans (skipSpace_cons rfl _)) ?_ ?_
    · intro more' hmore
      obtain ⟨after, hafter⟩ := skipSpace_lines (indent + 2)
        (show memberLine (indent + 2) m = '"' :: _ from rfl) (more.map (memberLine (indent + 2))) rfl
      rw [List.map_cons, hafter] at hmore
      exact absurd (List.cons.inj hmore).1 (by decide)
    · exact members_lines (List.cons_ne_nil m more) ih (by omega) (indent + 2)
        isSpace_lineFeed (skipSpace_closing indent rfl rest) (by omega)

/-- Every tidy value is read back as it was printed. -/
theorem Tidy.reads (h : Tidy depth j) : Reads depth j := by
  induction h with
  | null depth =>
    intro fuel d indent space rest _ hspace hfuel
    obtain ⟨fuel, rfl⟩ : ∃ n, fuel = n + 1 := ⟨fuel - 1, by simp [prettyChars] at hfuel; omega⟩
    rw [value_scalar (skipSpace_append hspace _) (by decide) (by decide)]
    rfl
  | bool depth b =>
    intro fuel d indent space rest _ hspace hfuel
    obtain ⟨fuel, rfl⟩ : ∃ n, fuel = n + 1 :=
      ⟨fuel - 1, by cases b <;> simp [prettyChars] at hfuel <;> omega⟩
    cases b with
    | true =>
      rw [value_scalar (skipSpace_append hspace _) (by decide) (by decide)]
      rfl
    | false =>
      rw [value_scalar (skipSpace_append hspace _) (by decide) (by decide)]
      rfl
  | text depth s => exact .text depth s
  | list h ih => exact .list h ih
  | object _ _ ih => exact .object ih

/-- A tidy value that was printed into a text of its own is read back. -/
theorem read?_pretty (h : Tidy maxDepth j) : read? (j.pretty ++ "\n") = some j.ordered := by
  have hvalue := h.reads (2 * (j.pretty ++ "\n").toList.length + 1) maxDepth 0 [] ['\n']
    (Nat.le_refl _) (by simp) (by simp [pretty]; omega)
  rw [List.nil_append] at hvalue
  unfold read? readWithin
  dsimp only
  rw [show (j.pretty ++ "\n").toList = prettyChars 0 j ++ ['\n'] by simp [pretty]] at hvalue ⊢
  rw [hvalue]
  rfl

/-! ## 5. Members -/

theorem lookup_eq_none_iff (key : String) (members : List (String × Json)) :
    lookup key members = none ↔ key ∉ members.map (·.1) := by
  induction members with
  | nil => simp [lookup]
  | cons m rest ih =>
    obtain ⟨k, v⟩ := m
    unfold lookup
    rw [List.map_cons, List.mem_cons, not_or, ← ih]
    cases lookup key rest with
    | none => by_cases hk : k = key <;> simp [hk, Ne.symm]
    | some w => simp

/-- Under different keys, a member is found wherever it stands. -/
theorem lookup_iff {members : List (String × Json)} (hkeys : (members.map (·.1)).Nodup)
    {key : String} {v : Json} : lookup key members = some v ↔ (key, v) ∈ members := by
  induction members with
  | nil => simp [lookup]
  | cons m rest ih =>
    obtain ⟨k, w⟩ := m
    obtain ⟨hk, hrest⟩ := List.nodup_cons.mp hkeys
    unfold lookup
    rw [List.mem_cons, ← ih hrest]
    cases hlookup : lookup key rest with
    | none =>
      by_cases hkey : k = key
      · simp [hkey, eq_comm]
      · simp [hkey, Ne.symm hkey]
    | some u =>
      have hne : key ≠ k := by
        rintro rfl
        rw [(lookup_eq_none_iff _ _).mpr hk] at hlookup
        cases hlookup
      simp [hne]

theorem get?_ordered {members : List (String × Json)} (hkeys : (members.map (·.1)).Nodup)
    {key : String} {v : Json} (h : (key, v) ∈ members) :
    (Json.object members).ordered.get? key = some v.ordered := by
  rw [ordered, orderedMembers_eq]
  refine (lookup_iff ?_).mpr ?_
  · rw [((sortMembers_perm _).map _).nodup_iff, List.map_map]
    exact hkeys
  · rw [(sortMembers_perm _).mem_iff]
    exact List.mem_map_of_mem (f := fun m : String × Json => (m.1, ordered m.2)) h

/-! ## 6. Line ends -/

theorem mem_bracketLines {opening closing c : Char} {indent : Nat} {lines : List (List Char)}
    (h : c ∈ bracketLines opening closing indent lines) :
    c ∈ [opening, closing, ',', '\n', ' '] ∨ ∃ line ∈ lines, c ∈ line := by
  by_cases hlines : lines = []
  · subst hlines
    exact .inl (List.mem_append_left [',', '\n', ' '] h)
  · have hlay : ∀ lines, c ∈ layLines (indent + 2) lines →
        c ∈ [',', '\n', ' '] ∨ ∃ line ∈ lines, c ∈ line := by
      intro lines h
      induction lines with
      | nil => cases h
      | cons line rest ih =>
        cases rest with
        | nil =>
          rw [layLines_singleton, List.mem_append, List.mem_replicate] at h
          rcases h with ⟨-, rfl⟩ | h
          · simp
          · exact .inr ⟨line, List.mem_cons_self, h⟩
        | cons next rest =>
          rw [layLines_cons, List.mem_append, List.mem_append, List.mem_replicate, List.mem_cons,
            List.mem_cons] at h
          rcases h with (⟨-, rfl⟩ | h) | rfl | rfl | h
          · simp
          · exact .inr ⟨line, List.mem_cons_self, h⟩
          · simp
          · simp
          · exact (ih h).imp_right fun ⟨l, hl, hc⟩ => ⟨l, List.mem_cons_of_mem _ hl, hc⟩
    rw [bracketLines_eq _ _ _ hlines, List.mem_cons, List.mem_cons, List.mem_append, List.mem_cons,
      List.mem_append, List.mem_replicate, List.mem_singleton] at h
    rcases h with rfl | rfl | h | rfl | ⟨-, rfl⟩ | rfl
    · simp
    · simp
    · exact (hlay lines h).imp_left (List.mem_append_right [opening, closing])
    · simp
    · simp
    · simp

/-- No line of a printed value holds a return. -/
theorem Tidy.return_not_mem (h : Tidy depth j) (indent : Nat) : '\r' ∉ prettyChars indent j := by
  induction h generalizing indent with
  | null => exact show '\r' ∉ "null".toList by decide
  | bool _ b =>
    cases b with
    | true => exact show '\r' ∉ "true".toList by decide
    | false => exact show '\r' ∉ "false".toList by decide
  | text _ s => exact return_not_mem_escapeText s
  | list _ ih =>
    intro hmem
    rw [prettyChars, prettyItems_eq] at hmem
    rcases mem_bracketLines hmem with hmem | ⟨line, hline, hmem⟩
    · exact absurd hmem (by decide)
    · obtain ⟨j, hj, rfl⟩ := List.mem_map.mp hline
      exact ih j hj (indent + 2) hmem
  | object _ _ ih =>
    intro hmem
    rw [prettyChars, prettyMembers_eq, sortMembers_map, List.map_map] at hmem
    rcases mem_bracketLines hmem with hmem | ⟨line, hline, hmem⟩
    · exact absurd hmem (by decide)
    · obtain ⟨m, hm, rfl⟩ := List.mem_map.mp hline
      have hm := (sortMembers_perm _).mem_iff.mp hm
      rw [Function.comp_apply, List.mem_append, List.mem_cons, List.mem_cons] at hmem
      rcases hmem with hmem | hmem | hmem | hmem
      · exact return_not_mem_escapeText m.1 hmem
      · exact absurd hmem (by decide)
      · exact absurd hmem (by decide)
      · exact ih m hm (indent + 2) hmem

end Json

end FluentBuilders
