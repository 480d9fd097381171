import Mathlib.Data.List.Basic
import FluentBuilders.Proofs.BuilderText.Lines
import FluentBuilders.Proofs.Text.Dotted

/-!
What a builder was made of, read back from the lines of its text.

1. `Role`: what a line does for a property, and with which names. `Role.of?` reads it from the line.
2. `rolesOf_lines`: a text has, in the order of the properties, one setter for each, one check and one
   argument, all with the property's name; no other line looks like one of these.
3. `ofText?`: the blueprint that a text was rendered from.
4. `render_decodes`: the lines of a text tell what it was made of, so different blueprints have
   different texts. `generated_decodes`: so do those of all builders that are made from sources.
-/

namespace FluentBuilders

open Text

/-! ## 1. Roles of lines -/

/-- What a line does for a property. -/
inductive Role
  /-- Starts the method that sets it; `rest` is all that follows the word for the value. -/
  | setter (name rest : String)
  /-- Keeps the value under a key. -/
  | stored (key : String)
  /-- Asks whether there is a value under a key. -/
  | check (key : String)
  /-- Reports a missing value. -/
  | raised (key : String)
  /-- Passes a value on under a keyword. -/
  | argument (keyword key : String)
  deriving DecidableEq, Repr

/-- The name between the start of a line and a mark, and the rest from the mark on. -/
def named? (start : String) (mark : Char) (line : List Char) : Option (String × List Char) :=
  (line.dropPrefix? start.toList).map fun rest =>
    (String.ofList (rest.takeWhile (· != mark)), rest.dropWhile (· != mark))

/-- The key between the start of a line and a double quote, if the line ends after it as told. -/
def key? (start ending : String) (line : List Char) : Option String :=
  (named? start '\"' line).bind fun found => if found.2 = ending.toList then some found.1 else none

namespace Role

/-- The methods that take no value set nothing. -/
def setter? (line : List Char) : Option Role :=
  (named? "    def " '(' line).bind fun found =>
    (found.2.dropPrefix? "(self, value: ".toList).map fun rest =>
      .setter found.1 (String.ofList rest)

def stored? (line : List Char) : Option Role :=
  (key? "        self._values[\"" "\"] = value" line).map .stored

def check? (line : List Char) : Option Role :=
  (key? "        if self._values.get(\"" "\") is None:" line).map .check

def raised? (line : List Char) : Option Role :=
  (key? "            raise MissingRequiredField(\"" "\")" line).map .raised

def argument? (line : List Char) : Option Role :=
  (named? "            " '=' line).bind fun found =>
    (key? "=self._values[\"" "\"]," found.2).map (.argument found.1)

/-- What a line does for a property, if it does anything. No line has two roles, since each role has a
start or an end of its own. -/
def of? (line : List Char) : Option Role :=
  (setter? line).or <| (stored? line).or <| (check? line).or <| (argument? line).or (raised? line)

end Role

section Reading

variable {start ending name : String} {mark : Char} {line rest : List Char}

theorem named?_line (hmark : mark ∉ name.toList)
    (hline : line = start.toList ++ (name.toList ++ mark :: rest)) :
    named? start mark line = some (name, mark :: rest) := by
  have hplain : ∀ c ∈ name.toList, (c != mark) = true := by
    intro c hc
    rw [bne_iff_ne]
    rintro rfl
    exact hmark hc
  unfold named?
  rw [hline, List.dropPrefix?_append_of_beq _ (beq_self_eq_true _), Option.map_some,
    List.takeWhile_append_of_pos hplain, List.dropWhile_append_of_pos hplain]
  simp

theorem key?_line (hmark : '\"' ∉ name.toList) (hending : ending.toList = '\"' :: rest)
    (hline : line = start.toList ++ (name.toList ++ ending.toList)) :
    key? start ending line = some name := by
  rw [hending] at hline
  unfold key?
  rw [named?_line hmark hline]
  exact if_pos hending.symm

theorem named?_none (h : line.dropPrefix? start.toList = none) (mark : Char) :
    named? start mark line = none := by
  rw [named?, h, Option.map_none]

theorem key?_none (h : line.dropPrefix? start.toList = none) (ending : String) :
    key? start ending line = none := by
  rw [key?, named?_none h, Option.bind_none]

end Reading

/-! ## 2. The lines of a text -/

namespace Role

/-- How lines start that do something for a property; methods and arguments apart. -/
def starts : List String :=
  ["        self._values[\"", "        if self._values.get(\"",
    "            raise MissingRequiredField(\"", "            "]

section Lines

variable {line rest : List Char} {name : String}

theorem keys_none (h : ∀ start ∈ starts, line.dropPrefix? start.toList = none) :
    of? line = setter? line := by
  simp only [starts, List.forall_mem_cons] at h
  obtain ⟨hstored, hcheck, hraised, hargument, -⟩ := h
  rw [of?, stored?, check?, raised?, argument?, key?_none hstored, key?_none hcheck,
    key?_none hraised, named?_none hargument]
  exact Option.or_none

/-- A line that starts like none with a role has none. -/
theorem of?_none (h : ∀ start ∈ "    def " :: starts, line.dropPrefix? start.toList = none) :
    of? line = none := by
  obtain ⟨hsetter, hstarts⟩ := List.forall_mem_cons.mp h
  rw [keys_none hstarts, setter?, named?_none hsetter, Option.bind_none]

/-- A line that starts with no space has no role. -/
theorem of?_unindented (h : line.head? ≠ some ' ') : of? line = none := by
  refine of?_none ?_
  cases line with
  | nil => simp [starts, List.dropPrefix?]
  | cons c rest =>
    have hc : c ≠ ' ' := fun heq => h (congrArg some heq)
    simp [starts, List.dropPrefix?, hc]

theorem of?_method (name : String) (rest : List Char) (h : '(' ∉ name.toList)
    (hline : line = "    def ".toList ++ (name.toList ++ '(' :: rest)) :
    of? line = (('(' :: rest).dropPrefix? "(self, value: ".toList).map fun after =>
      .setter name (String.ofList after) := by
  have hstarts : ∀ start ∈ starts, line.dropPrefix? start.toList = none := by
    rw [hline]
    simp [starts, List.dropPrefix?]
  rw [keys_none hstarts, setter?, named?_line h hline, Option.bind_some]

theorem of?_stored (h : '\"' ∉ name.toList)
    (hline : line = "        self._values[\"".toList ++ (name.toList ++ "\"] = value".toList)) :
    of? line = some (.stored name) := by
  have hsetter : line.dropPrefix? "    def ".toList = none := by
    rw [hline]
    simp [List.dropPrefix?]
  rw [of?, setter?, named?_none hsetter, stored?, key?_line h rfl hline]
  rfl

theorem of?_check (h : '\"' ∉ name.toList)
    (hline : line = "        if self._values.get(\"".toList ++ (name.toList ++ "\") is None:".toList)) :
    of? line = some (.check name) := by
  have hsetter : line.dropPrefix? "    def ".toList = none := by
    rw [hline]
    simp [List.dropPrefix?]
  have hstored : line.dropPrefix? "        self._values[\"".toList = none := by
    rw [hline]
    simp [List.dropPrefix?]
  rw [of?, setter?, named?_none hsetter, stored?, key?_none hstored, check?, key?_line h rfl hline]
  rfl

/-- A line three steps in is an argument or a report. -/
theorem of?_deep (hline : line = "            ".toList ++ rest) :
    of? line = (argument? line).or (raised? line) := by
  have hsetter : line.dropPrefix? "    def ".toList = none := by
    rw [hline]
    simp [List.dropPrefix?]
  have hstored : line.dropPrefix? "        self._values[\"".toList = none := by
    rw [hline]
    simp [List.dropPrefix?]
  have hcheck : line.dropPrefix? "        if self._values.get(\"".toList = none := by
    rw [hline]
    simp [List.dropPrefix?]
  rw [of?, setter?, named?_none hsetter, stored?, key?_none hstored, check?, key?_none hcheck]
  rfl

theorem of?_argument (h : '=' ∉ name.toList) {key : String} (hkey : '\"' ∉ key.toList)
    (hline : line = "            ".toList ++
      (name.toList ++ '=' :: ("self._values[\"".toList ++ (key.toList ++ "\"],".toList)))) :
    of? line = some (.argument name key) := by
  have hpassed : key? "=self._values[\"" "\"],"
      ('=' :: ("self._values[\"".toList ++ (key.toList ++ "\"],".toList))) = some key :=
    key?_line hkey rfl (by simp)
  rw [of?_deep hline, argument?, named?_line h hline, Option.bind_some, hpassed]
  rfl

/-- An argument has its mark somewhere. -/
theorem argument?_none (h : '=' ∉ line) : argument? line = none := by
  unfold argument? named?
  cases hdrop : line.dropPrefix? "            ".toList with
  | none => rfl
  | some rest =>
    obtain ⟨front, rfl, -⟩ := List.dropPrefix?_eq_some_iff.mp hdrop
    have hall : rest.dropWhile (· != '=') = [] := by
      refine List.dropWhile_eq_nil_iff.mpr fun c hc => ?_
      rw [bne_iff_ne]
      rintro rfl
      exact h (List.mem_append_right _ hc)
    rw [Option.map_some, Option.bind_some, hall, key?_none (by simp [List.dropPrefix?]), Option.map_none]

theorem of?_raised (h : '\"' ∉ name.toList) (hassign : '=' ∉ name.toList)
    (hline : line = "            raise MissingRequiredField(\"".toList ++
      (name.toList ++ "\")".toList)) :
    of? line = some (.raised name) := by
  have hdeep : line = "            ".toList ++
      ("raise MissingRequiredField(\"".toList ++ (name.toList ++ "\")".toList)) := by
    rw [hline]
    simp
  have hargument : argument? line = none := argument?_none (by simp [hline, hassign])
  rw [of?_deep hdeep, hargument, raised?, key?_line h rfl hline]
  rfl

end Lines

end Role

/-- What the lines of a property's method do. -/
def Property.setterRoles (builder : String) (p : Property) : List Role :=
  [.setter p.name (p.type ++ ") -> " ++ builder ++ ":"), .stored p.name]

/-- What the lines do that make sure of a property's value. -/
def Property.checkRoles (p : Property) : List Role := [.check p.name, .raised p.name]

/-- What the line does that passes a property's value on. -/
def Property.argumentRole (p : Property) : Role := .argument p.name p.name

namespace Blueprint

/-- What the lines of a text do for the properties: each is set, then each is checked, then each is
passed on, all under their own names. -/
def roles (b : Blueprint) : List Role :=
  b.properties.flatMap (Property.setterRoles (builderTypeName b.name)) ++
    b.properties.flatMap Property.checkRoles ++ b.properties.map Property.argumentRole

/-- The roles of lines. -/
def rolesOf (lines : List String) : List Role := lines.filterMap fun line => Role.of? line.toList

section Sections

variable {b : Blueprint} {p : Property}

theorem rolesOf_append (lines lines' : List String) :
    rolesOf (lines ++ lines') = rolesOf lines ++ rolesOf lines' :=
  List.filterMap_append

theorem rolesOf_cons_none {line : String} (h : Role.of? line.toList = none) (rest : List String) :
    rolesOf (line :: rest) = rolesOf rest :=
  List.filterMap_cons_none h

theorem rolesOf_cons_some {line : String} {role : Role} (h : Role.of? line.toList = some role)
    (rest : List String) : rolesOf (line :: rest) = role :: rolesOf rest :=
  List.filterMap_cons_some h

theorem rolesOf_none {lines : List String}
    (h : ∀ line ∈ lines, ∀ start ∈ "    def " :: Role.starts,
      line.toList.dropPrefix? start.toList = none) : rolesOf lines = [] :=
  List.filterMap_eq_nil_iff.mpr fun line hline => Role.of?_none (h line hline)

theorem rolesOf_flatMap {lines : Property → List String} {roles : Property → List Role}
    {properties : List Property} (h : ∀ p ∈ properties, rolesOf (lines p) = roles p) :
    rolesOf (properties.flatMap lines) = properties.flatMap roles := by
  unfold rolesOf at *
  rw [List.filterMap_flatMap]
  exact List.flatMap_congr h

theorem of?_empty : Role.of? "".toList = none := Role.of?_unindented (by simp)

/-- Names of properties have no marks of the text. -/
theorem mark_not_mem (h : isIdentifier p.name = true) {c : Char} (hc : isNameChar c = false) :
    c ∉ p.name.toList := fun hmem => by
  rw [isNameChar_of_isIdentifier h c hmem] at hc
  cases hc

theorem rolesOf_header (b : Blueprint) : rolesOf b.header = [] := by
  have hhead : ∀ line ∈ b.header, line.toList.head? ≠ some ' ' := by
    unfold header
    split <;> simp [generatedHeader]
  exact List.filterMap_eq_nil_iff.mpr fun line hline => Role.of?_unindented (hhead line hline)

theorem rolesOf_classHead (b : Blueprint) : rolesOf b.classHead = [] :=
  rolesOf_none (by simp [Role.starts, classHead, step, List.dropPrefix?])

theorem rolesOf_constructor : rolesOf ("" :: constructor) = [] := by
  have hmethod : Role.of? (step ++ "def __init__(self) -> None:").toList = none := by
    rw [Role.of?_method "__init__" "self) -> None:".toList (by simp) (by simp [step])]
    simp [List.dropPrefix?]
  rw [constructor, rolesOf_cons_none of?_empty, rolesOf_cons_none hmethod]
  exact rolesOf_none (by simp [Role.starts, step, valueStore, List.dropPrefix?])

theorem rolesOf_setter (builder : String) (h : isIdentifier p.name = true) :
    rolesOf ("" :: setter builder p) = p.setterRoles builder := by
  have hmethod : Role.of? (step ++ "def " ++ p.name ++ "(self, value: " ++ p.type ++ ") -> " ++
      builder ++ ":").toList =
      some (.setter p.name (p.type ++ ") -> " ++ builder ++ ":")) := by
    rw [Role.of?_method p.name ("self, value: ".toList ++
        (p.type ++ ") -> " ++ builder ++ ":").toList) (mark_not_mem h (by decide)) (by simp [step]),
      show '(' :: ("self, value: ".toList ++ (p.type ++ ") -> " ++ builder ++ ":").toList) =
        "(self, value: ".toList ++ (p.type ++ ") -> " ++ builder ++ ":").toList by simp,
      List.dropPrefix?_append_of_beq _ (beq_self_eq_true _), Option.map_some, String.ofList_toList]
  have hstored : Role.of? (step ++ step ++ "self." ++ valueStore ++ "[\"" ++ p.name ++
      "\"] = value").toList = some (.stored p.name) :=
    Role.of?_stored (mark_not_mem h (by decide)) (by simp [step, valueStore])
  have hreturn : Role.of? (step ++ step ++ "return self").toList = none :=
    Role.of?_none (by simp [Role.starts, step, List.dropPrefix?])
  rw [setter, rolesOf_cons_none of?_empty, rolesOf_cons_some hmethod, rolesOf_cons_some hstored,
    rolesOf_cons_none hreturn]
  rfl

theorem rolesOf_check (h : isIdentifier p.name = true) : rolesOf (check p) = p.checkRoles := by
  have hcheck : Role.of? (step ++ step ++ "if self." ++ valueStore ++ ".get(\"" ++ p.name ++
      "\") is None:").toList = some (.check p.name) :=
    Role.of?_check (mark_not_mem h (by decide)) (by simp [step, valueStore])
  have hraised : Role.of? (step ++ step ++ step ++ "raise MissingRequiredField(\"" ++ p.name ++
      "\")").toList = some (.raised p.name) :=
    Role.of?_raised (mark_not_mem h (by decide)) (mark_not_mem h (by decide)) (by simp [step])
  rw [check, rolesOf_cons_some hcheck, rolesOf_cons_some hraised]
  rfl

theorem of?_argument (h : isIdentifier p.name = true) :
    Role.of? (argument p).toList = some p.argumentRole :=
  Role.of?_argument (mark_not_mem h (by decide)) (mark_not_mem h (by decide))
    (by simp [argument, step, valueStore])

theorem rolesOf_build (h : b.Usable) : rolesOf ("" :: b.build) =
    b.properties.flatMap Property.checkRoles ++ b.properties.map Property.argumentRole := by
  have hmethod : Role.of? (step ++ "def build(self) -> " ++ b.name ++ ":").toList = none := by
    rw [Role.of?_method "build" ("self) -> " ++ b.name ++ ":").toList (by simp) (by simp [step])]
    simp [List.dropPrefix?]
  rw [build, rolesOf_cons_none of?_empty, rolesOf_cons_none hmethod]
  split
  · next hnone =>
    rw [List.isEmpty_iff.mp hnone]
    exact rolesOf_none (by simp [Role.starts, step, List.dropPrefix?])
  · have hcall : Role.of? (step ++ step ++ "return " ++ b.name ++ "(").toList = none :=
      Role.of?_none (by simp [Role.starts, step, List.dropPrefix?])
    have hclose : rolesOf [step ++ step ++ ")"] = [] :=
      rolesOf_none (by simp [Role.starts, step, List.dropPrefix?])
    have harguments : rolesOf (b.properties.map argument) =
        b.properties.map Property.argumentRole := by
      rw [rolesOf, List.filterMap_map, ← List.filterMap_eq_map]
      exact List.filterMap_congr fun p hp => of?_argument (h.properties p hp).1
    rw [rolesOf_append, rolesOf_flatMap fun p hp => rolesOf_check (h.properties p hp).1,
      rolesOf_cons_none hcall, rolesOf_append, hclose, List.append_nil, harguments]

/-- What the lines of a usable blueprint do for its properties. -/
theorem rolesOf_lines (h : b.Usable) : rolesOf b.lines = b.roles := by
  have hblank : rolesOf ["", ""] = [] := by
    rw [rolesOf_cons_none of?_empty, rolesOf_cons_none of?_empty]
    rfl
  have hconstructor : rolesOf (if b.properties.isEmpty then [] else "" :: constructor) = [] := by
    split
    · rfl
    · exact rolesOf_constructor
  have hsetters := rolesOf_flatMap fun p hp =>
    rolesOf_setter (builderTypeName b.name) (h.properties p hp).1
  unfold lines roles
  rw [rolesOf_append, rolesOf_append, rolesOf_append, rolesOf_append, rolesOf_append, rolesOf_header,
    hblank, rolesOf_classHead, hconstructor, hsetters, rolesOf_build h]
  simp only [List.nil_append, List.append_assoc]

end Sections

/-! ## 3. Reading a text -/

/-- The property that a line sets in a builder. -/
def propertyOf? (builder : String) : Role → Option Property
  | .setter name rest =>
    (rest.toList.dropSuffix? (") -> " ++ builder ++ ":").toList).map fun type =>
      ⟨name, String.ofList type⟩
  | _ => none

/-- The blueprint that a text was rendered from: the first line names the module and the class, the
second one the package, and the setters the properties. -/
def ofText? (s : String) : Option Blueprint :=
  match splitChars '\n' s.toList with
  | title :: package :: rest =>
    (title.dropPrefix? (generatedHeader ++ " " ++ generatorVersion ++ " from ").toList).bind fun named =>
      (named.dropSuffix? ". Do not edit.".toList).bind fun named =>
        (package.dropPrefix? "# namespace: ".toList).map fun package =>
          let place := splitLast (String.ofList named)
          { name := place.2
            package := String.ofList package
            properties :=
              (rest.filterMap Role.of?).filterMap (propertyOf? (builderTypeName place.2))
            sourceModule := some place.1 }
  | _ => none

section Text

variable {b : Blueprint} {s : String}

theorem propertyOf?_setter (builder : String) (p : Property) :
    (p.setterRoles builder).filterMap (propertyOf? builder) = [p] := by
  have hsetter : propertyOf? builder (.setter p.name (p.type ++ ") -> " ++ builder ++ ":")) =
      some p := by
    have hdrop : (p.type ++ ") -> " ++ builder ++ ":").toList.dropSuffix?
        (") -> " ++ builder ++ ":").toList = some p.type.toList :=
      List.dropSuffix?_eq_some_iff.mpr ⟨_, by simp, beq_self_eq_true _⟩
    rw [propertyOf?, hdrop, Option.map_some, String.ofList_toList]
  rw [Property.setterRoles, List.filterMap_cons_some hsetter]
  rfl

/-- The setters of a text name its properties. -/
theorem propertyOf?_roles (b : Blueprint) :
    b.roles.filterMap (propertyOf? (builderTypeName b.name)) = b.properties := by
  have hsetters : (b.properties.flatMap (Property.setterRoles (builderTypeName b.name))).filterMap
      (propertyOf? (builderTypeName b.name)) = b.properties := by
    rw [List.filterMap_flatMap, List.flatMap_congr fun p _ => propertyOf?_setter _ p]
    exact List.flatMap_singleton' _
  have hchecks : (b.properties.flatMap Property.checkRoles).filterMap
      (propertyOf? (builderTypeName b.name)) = [] := by
    rw [List.filterMap_flatMap]
    exact List.flatMap_eq_nil_iff.mpr fun p _ => rfl
  have harguments : (b.properties.map Property.argumentRole).filterMap
      (propertyOf? (builderTypeName b.name)) = [] := by
    rw [List.filterMap_map]
    exact List.filterMap_eq_nil_iff.mpr fun p _ => rfl
  rw [roles, List.filterMap_append, List.filterMap_append, hsetters, hchecks, harguments,
    List.append_nil, List.append_nil]

/-- The roles of the lines of a text. -/
theorem roles_text (h : b.Usable) (htypes : ∀ p ∈ b.properties, Lacks '\n' p.type) :
    (splitChars '\n' b.text.toList).filterMap Role.of? = b.roles := by
  rw [splitChars_text h htypes, List.filterMap_append, List.filterMap_map]
  exact (congrArg (· ++ _) (rolesOf_lines h)).trans (List.append_nil _)

/-- The title of a text. -/
def title (b : Blueprint) : String :=
  generatedHeader ++ " " ++ generatorVersion ++ " from " ++ b.origin ++ "." ++ b.name ++ ". Do not edit."

theorem ofText?_text (h : b.Usable) (htypes : ∀ p ∈ b.properties, Lacks '\n' p.type) :
    ofText? b.text = some b.settled := by
  obtain ⟨more, hlines⟩ : ∃ more, b.lines = b.title :: ("# namespace: " ++ b.package) :: more :=
    ⟨_, rfl⟩
  have htitle : Role.of? b.title.toList = none :=
    Role.of?_unindented (by simp [title, generatedHeader])
  have hpackage : Role.of? ("# namespace: " ++ b.package).toList = none :=
    Role.of?_unindented (by simp)
  have hroles := roles_text h htypes
  have hsplit := splitChars_text h htypes
  rw [hlines, List.map_cons, List.map_cons, List.cons_append, List.cons_append] at hsplit
  rw [hsplit, List.filterMap_cons_none htitle, List.filterMap_cons_none hpackage] at hroles
  have hnamed : b.title.toList.dropPrefix?
      (generatedHeader ++ " " ++ generatorVersion ++ " from ").toList =
      some (b.origin ++ "." ++ b.name ++ ". Do not edit.").toList :=
    List.dropPrefix?_eq_some_iff.mpr ⟨_, by simp [title], beq_self_eq_true _⟩
  have hplace : (b.origin ++ "." ++ b.name ++ ". Do not edit.").toList.dropSuffix?
      ". Do not edit.".toList = some (b.origin ++ "." ++ b.name).toList :=
    List.dropSuffix?_eq_some_iff.mpr ⟨_, String.toList_append, beq_self_eq_true _⟩
  have hspace : ("# namespace: " ++ b.package).toList.dropPrefix? "# namespace: ".toList =
      some b.package.toList :=
    List.dropPrefix?_eq_some_iff.mpr ⟨_, String.toList_append, beq_self_eq_true _⟩
  unfold ofText?
  rw [hsplit]
  dsimp only
  rw [hnamed, Option.bind_some, hplace, Option.bind_some, hspace, Option.map_some,
    String.ofList_toList, splitLast_append (isPart_of_isIdentifier h.name).dot_not_mem]
  dsimp only
  rw [String.ofList_toList, hroles, propertyOf?_roles]
  rfl

end Text

/-! ## 4. Texts tell their blueprints -/

/-- The last line of a text closes a call. -/
theorem lines_end (b : Blueprint) : ∃ front last, b.lines = front ++ [last ++ ")"] := by
  obtain ⟨last, hlast⟩ : ∃ last, b.build.getLast? = some (last ++ ")") := by
    unfold build
    split
    · have hcall : step ++ step ++ "return " ++ b.name ++ "()" =
          step ++ step ++ "return " ++ b.name ++ "(" ++ ")" := String.toList_injective (by simp)
      exact ⟨_, congrArg some hcall⟩
    · exact ⟨step ++ step, by simp [List.getLast?_cons]⟩
  obtain ⟨front, hfront⟩ := List.getLast?_eq_some_iff.mp hlast
  unfold lines
  rw [hfront, ← List.cons_append, ← List.append_assoc]
  exact ⟨_, last, rfl⟩

/-- The last line feed of a text is the only one behind its last line. -/
theorem text_end (b : Blueprint) :
    ∃ body, b.text = body ++ "\n" ∧ body.toList.getLast? ≠ some '\n' := by
  obtain ⟨front, last, hlines⟩ := b.lines_end
  refine ⟨String.ofList (spread front) ++ last ++ ")", String.toList_injective ?_, by simp⟩
  rw [text_toList, hlines]
  simp [spread]

theorem render_ok {b : Blueprint} {s : String} (h : b.render = .ok s) : b.Usable ∧ s = b.text := by
  unfold render at h
  split at h
  · cases h
  · next hfault =>
    cases h
    exact ⟨usable hfault, rfl⟩

/-- The text of a blueprint whose types are each on one line ends in one line feed. Its lines set,
check and pass on each property under its name, in order. All of the blueprint is read back from it, so
that no other one has the same text. -/
theorem render_decodes {b : Blueprint} {s : String} (h : b.render = .ok s)
    (htypes : ∀ p ∈ b.properties, Lacks '\n' p.type) :
    (∃ body, s = body ++ "\n" ∧ body.toList.getLast? ≠ some '\n') ∧
    (splitChars '\n' s.toList).filterMap Role.of? = b.roles ∧
    ofText? s = some b.settled ∧
    ∀ b' : Blueprint, (∀ p ∈ b'.properties, Lacks '\n' p.type) → b'.render = .ok s →
      b'.settled = b.settled := by
  obtain ⟨husable, rfl⟩ := render_ok h
  refine ⟨b.text_end, roles_text husable htypes, ofText?_text husable htypes, fun b' htypes' h' => ?_⟩
  obtain ⟨husable', htext⟩ := render_ok h'
  have hread := ofText?_text husable' htypes'
  rw [← htext, ofText?_text husable htypes] at hread
  exact (Option.some.inj hread).symm

/-- A blueprint with a type that ends like the line it stands on. -/
def mimic : Blueprint := ⟨"Foo", "p", [⟨"x", "int) -> FooBuilder:"⟩, ⟨"y", "int"⟩], none⟩

/-- Such a type is told from the end of its line. -/
theorem render_decodes_mimic : ∃ s, mimic.render = .ok s ∧
    (∀ p ∈ mimic.properties, Lacks '\n' p.type) ∧
    ofText? s = some { mimic with sourceModule := some "p" } := by
  have hrender : mimic.render = .ok mimic.text := by
    rw [render, show mimic.fault? = none by decide +kernel]
  have htypes : ∀ p ∈ mimic.properties, Lacks '\n' p.type := by decide
  exact ⟨_, hrender, htypes, (render_decodes hrender htypes).2.2.1⟩

end Blueprint

/-- What a builder of a sound registry was made of is told by its text: no annotation of a source goes
beyond its line. -/
theorem Registry.Sound.generated_decodes {g : Registry} (hg : g.Sound) {d : Declaration}
    {a : Artifact} (h : generate g.resolver d = .ok a) :
    ∃ properties, d.exposed g.resolver = .ok properties ∧
      Blueprint.ofText? a.text = some (d.blueprint properties) := by
  obtain ⟨properties, hexposed, hfault, htext⟩ := generate_blueprint h
  refine ⟨properties, hexposed, ?_⟩
  rw [htext]
  exact Blueprint.ofText?_text (Blueprint.usable hfault)
    (hg.type_lacks hexposed (by decide) (by decide))

end FluentBuilders
