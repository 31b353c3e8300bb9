import Formulary.Proofs.Json.Line

namespace Formulary

/-! # Indentation of dumps

A dump further inside is the same dump with more blanks behind each of its line
feeds.  All of these line feeds belong to the layout: a string or a name is quoted
without one, so that containers alone decide how many lines there are.
-/

namespace Text

/-- A text with so many blanks behind each of its line feeds. -/
def indent (count : Nat) (text : Text) : Text :=
  text.flatMap fun point => if point = .scalar '\n' then Json.newLine count else [point]

variable {count : Nat} {text other : Text}

@[simp] theorem indent_nil : indent count [] = [] := rfl

@[simp] theorem indent_append :
    indent count (text ++ other) = indent count text ++ indent count other :=
  List.flatMap_append

theorem indent_cons {point : CodePoint} (stays : point ≠ .scalar '\n') :
    indent count (point :: text) = point :: indent count text := by
  rw [indent, List.flatMap_cons, if_neg stays, List.singleton_append, ← indent]

theorem indent_of_notMem (oneLine : .scalar '\n' ∉ text) : indent count text = text := by
  induction text with
  | nil => rfl
  | cons point text ih =>
      obtain ⟨here, later⟩ := not_or.mp (mt List.mem_cons.mpr oneLine)
      rw [indent_cons (Ne.symm here), ih later]

theorem PrintableAscii.lineFeed_notMem (printable : text.PrintableAscii) :
    .scalar '\n' ∉ text := by
  intro listed
  exact absurd (printable _ listed).1 (by decide)

end Text

theorem Number.browser_printable (number : Number) : number.browser.PrintableAscii := by
  have floats (value : Binary64) : (floatBrowser value).PrintableAscii := by
    cases value with
    | nan => decide
    | infinity negative => cases negative <;> decide
    | finite negative rank =>
        have mark : Layout.browser.wholeMark.PrintableAscii := by decide
        rw [floatBrowser]
        split
        · decide
        · exact Layout.write_printable mark _
  cases number with
  | float value => exact floats value
  | int value =>
      rw [browser]
      split
      · exact Numeral.ofInt_printable value
      · split <;> exact floats _

namespace Json

variable {depth count : Nat}

@[simp] theorem indent_newLine : (newLine depth).indent count = newLine (depth + count) := by
  have blanks : Text.indent count (List.replicate depth (.scalar ' ')) =
      List.replicate depth (.scalar ' ') := by
    refine Text.indent_of_notMem fun listed => ?_
    cases List.eq_of_mem_replicate listed
  rw [newLine, Text.indent, List.flatMap_cons, if_pos rfl, ← Text.indent, blanks, newLine, newLine,
    List.cons_append, List.replicate_append_replicate, Nat.add_comm]

/-! ## What is on one line -/

theorem lineFeed_notMem_escape (point : CodePoint) : .scalar '\n' ∉ escape point := by
  unfold escape
  cases short : shortEscape? point with
  | some escaped =>
      unfold shortEscape? at short
      split at short <;> cases short <;> decide
  | none =>
      dsimp only
      split
      · exact (unicodeEscape_printable point.value).lineFeed_notMem
      · rw [List.mem_singleton]
        intro same
        rw [← same] at short
        cases short

theorem lineFeed_notMem_quoted (text : Text) : .scalar '\n' ∉ quoted text := by
  have inside : .scalar '\n' ∉ text.flatMap escape := by
    intro listed
    obtain ⟨point, _, here⟩ := List.mem_flatMap.mp listed
    exact lineFeed_notMem_escape point here
  simp [quoted, inside]

theorem lineFeed_notMem_dumpNumber (number : Number) : .scalar '\n' ∉ dumpNumber number := by
  have shown := number.browser_printable.lineFeed_notMem
  have null : CodePoint.scalar '\n' ∉ Text.ofString "null" := by decide
  unfold dumpNumber
  split
  · exact shown
  · exact null
  · split
    · exact shown
    · exact null

/-! ## Shifting a dump -/

/-- What stands around the values of a dump. -/
theorem indent_marks (count : Nat) :
    Text.indent count ": " = ": " ∧ Text.indent count "]" = "]" ∧
      Text.indent count "\x7d" = "\x7d" :=
  ⟨rfl, rfl, rfl⟩

mutual

theorem dump_add (depth count : Nat) (value : Json) :
    dump (depth + count) value = (dump depth value).indent count :=
  match value with
  | null | bool true | bool false | array [] | object [] => rfl
  | number value => (Text.indent_of_notMem (lineFeed_notMem_dumpNumber value)).symm
  | string text => (Text.indent_of_notMem (lineFeed_notMem_quoted text)).symm
  | array (item :: rest) => by
      have inside := Nat.add_right_comm depth count 1
      have bracket : CodePoint.scalar '[' ≠ .scalar '\n' := by decide
      simp only [dump, inside, dump_add (depth + 1) count item, dumpItems_add (depth + 1) count rest,
        List.cons_append, Text.indent_cons bracket, Text.indent_append, indent_newLine,
        indent_marks count]
  | object ((name, value) :: rest) => by
      have inside := Nat.add_right_comm depth count 1
      have brace : CodePoint.scalar '{' ≠ .scalar '\n' := by decide
      simp only [dump, inside, dump_add (depth + 1) count value,
        dumpMembers_add (depth + 1) count rest, List.cons_append, Text.indent_cons brace,
        Text.indent_append, indent_newLine, indent_marks count,
        Text.indent_of_notMem (lineFeed_notMem_quoted name)]

theorem dumpItems_add (depth count : Nat) (items : List Json) :
    dumpItems (depth + count) items = (dumpItems depth items).indent count :=
  match items with
  | [] => rfl
  | item :: rest => by
      have comma : CodePoint.scalar ',' ≠ .scalar '\n' := by decide
      simp only [dumpItems, dump_add depth count item, dumpItems_add depth count rest,
        List.cons_append, Text.indent_cons comma, Text.indent_append, indent_newLine]

theorem dumpMembers_add (depth count : Nat) (members : List (Text × Json)) :
    dumpMembers (depth + count) members = (dumpMembers depth members).indent count :=
  match members with
  | [] => rfl
  | (name, value) :: rest => by
      have comma : CodePoint.scalar ',' ≠ .scalar '\n' := by decide
      simp only [dumpMembers, dump_add depth count value, dumpMembers_add depth count rest,
        List.cons_append, Text.indent_cons comma, Text.indent_append, indent_newLine,
        indent_marks count, Text.indent_of_notMem (lineFeed_notMem_quoted name)]

end

/-! ## Values inside containers -/

/-- A container with a place in it for one more value. -/
inductive Layer where
  | item (before after : List Json)
  | member (before : Fields) (name : Text) (after : Fields)

def Layer.enclose : Layer → Json → Json
  | item before after, value => array (before ++ value :: after)
  | member before name after, value => object (before ++ (name, value) :: after)

/-- A value inside containers, the outermost of them first. -/
def within (layers : List Layer) (value : Json) : Json :=
  layers.foldr Layer.enclose value

theorem dumpItems_append (before after : List Json) :
    dumpItems depth (before ++ after) = dumpItems depth before ++ dumpItems depth after := by
  induction before with
  | nil => rfl
  | cons item before ih => simp [dumpItems, ih]

theorem dumpMembers_append (before after : Fields) :
    dumpMembers depth (before ++ after) =
      dumpMembers depth before ++ dumpMembers depth after := by
  induction before with
  | nil => rfl
  | cons member before ih => simp [dumpMembers, ih]

/-- What is written around a value in a container does not depend on the value. -/
theorem dump_enclose (depth : Nat) (layer : Layer) : ∃ front back : Text, ∀ value,
    dump depth (layer.enclose value) = front ++ dump (depth + 1) value ++ back := by
  cases layer with
  | item before after =>
      cases before with
      | nil => exact ⟨.scalar '[' :: newLine (depth + 1), dumpItems (depth + 1) after ++
          newLine depth ++ "]", fun value => by simp [Layer.enclose, dump]⟩
      | cons first before =>
          refine ⟨.scalar '[' :: newLine (depth + 1) ++ dump (depth + 1) first ++
            dumpItems (depth + 1) before ++ .scalar ',' :: newLine (depth + 1),
            dumpItems (depth + 1) after ++ newLine depth ++ "]", fun value => ?_⟩
          simp [Layer.enclose, dump, dumpItems_append, dumpItems]
  | member before name after =>
      cases before with
      | nil => exact ⟨.scalar '{' :: newLine (depth + 1) ++ quoted name ++ ": ",
          dumpMembers (depth + 1) after ++ newLine depth ++ "\x7d",
          fun value => by simp [Layer.enclose, dump]⟩
      | cons first before =>
          refine ⟨.scalar '{' :: newLine (depth + 1) ++ quoted first.1 ++ ": " ++
            dump (depth + 1) first.2 ++ dumpMembers (depth + 1) before ++
            .scalar ',' :: newLine (depth + 1) ++ quoted name ++ ": ",
            dumpMembers (depth + 1) after ++ newLine depth ++ "\x7d", fun value => ?_⟩
          simp [Layer.enclose, dump, dumpMembers_append, dumpMembers]

/-- The dump of a value inside containers is the dump of the value alone, shifted
by their number, between two texts that do not depend on the value. -/
theorem dump_within (depth : Nat) (layers : List Layer) : ∃ front back : Text, ∀ value,
    dump depth (within layers value) =
      front ++ (dump 0 value).indent (depth + layers.length) ++ back := by
  induction layers generalizing depth with
  | nil =>
      refine ⟨[], [], fun value => ?_⟩
      rw [← dump_add, within, List.foldr_nil, List.length_nil, Nat.zero_add, Nat.add_zero,
        List.nil_append, List.append_nil]
  | cons layer layers ih =>
      obtain ⟨front, back, inside⟩ := ih (depth + 1)
      obtain ⟨outerFront, outerBack, around⟩ := dump_enclose depth layer
      refine ⟨outerFront ++ front, back ++ outerBack, fun value => ?_⟩
      have enclosed : within (layer :: layers) value = layer.enclose (within layers value) := rfl
      have deeper : depth + (layers.length + 1) = depth + 1 + layers.length := by omega
      rw [enclosed, around, inside, List.length_cons, deeper]
      simp only [List.append_assoc]

/-! ## Line feeds of the layout -/

mutual

/-- The lines of a dump behind its first one: each item and each member starts a
line, and so does the bracket behind the last of them. -/
def furtherLines : Json → Nat
  | array (item :: rest) => furtherLines item + furtherLinesOfItems rest + 2
  | object ((_, value) :: rest) => furtherLines value + furtherLinesOfMembers rest + 2
  | _ => 0

def furtherLinesOfItems : List Json → Nat
  | [] => 0
  | item :: rest => furtherLines item + furtherLinesOfItems rest + 1

def furtherLinesOfMembers : List (Text × Json) → Nat
  | [] => 0
  | (_, value) :: rest => furtherLines value + furtherLinesOfMembers rest + 1

end

theorem count_newLine (depth : Nat) : (newLine depth).count (.scalar '\n') = 1 := by
  simp [newLine, List.count_replicate]

theorem count_quoted (text : Text) : (quoted text).count (.scalar '\n') = 0 :=
  List.count_eq_zero.mpr (lineFeed_notMem_quoted text)

theorem count_marks :
    (Text.ofString ": ").count (.scalar '\n') = 0 ∧ (Text.ofString "]").count (.scalar '\n') = 0 ∧
      (Text.ofString "\x7d").count (.scalar '\n') = 0 := by
  decide

mutual

theorem count_dump (depth : Nat) (value : Json) :
    (dump depth value).count (.scalar '\n') = value.furtherLines :=
  match value with
  | null | bool true | bool false | array [] | object [] => rfl
  | number value => List.count_eq_zero.mpr (lineFeed_notMem_dumpNumber value)
  | string text => count_quoted text
  | array (item :: rest) => by
      have bracket : CodePoint.scalar '[' ≠ .scalar '\n' := by decide
      simp only [dump, furtherLines, List.cons_append, List.count_append,
        List.count_cons_of_ne bracket, count_newLine, count_marks, count_dump (depth + 1) item,
        count_dumpItems (depth + 1) rest]
      omega
  | object ((name, value) :: rest) => by
      have brace : CodePoint.scalar '{' ≠ .scalar '\n' := by decide
      simp only [dump, furtherLines, List.cons_append, List.count_append,
        List.count_cons_of_ne brace, count_newLine, count_marks, count_quoted,
        count_dump (depth + 1) value, count_dumpMembers (depth + 1) rest]
      omega

theorem count_dumpItems (depth : Nat) (items : List Json) :
    (dumpItems depth items).count (.scalar '\n') = furtherLinesOfItems items :=
  match items with
  | [] => rfl
  | item :: rest => by
      have comma : CodePoint.scalar ',' ≠ .scalar '\n' := by decide
      simp only [dumpItems, furtherLinesOfItems, List.cons_append, List.count_append,
        List.count_cons_of_ne comma, count_newLine, count_dump depth item,
        count_dumpItems depth rest]
      omega

theorem count_dumpMembers (depth : Nat) (members : List (Text × Json)) :
    (dumpMembers depth members).count (.scalar '\n') = furtherLinesOfMembers members :=
  match members with
  | [] => rfl
  | (name, value) :: rest => by
      have comma : CodePoint.scalar ',' ≠ .scalar '\n' := by decide
      simp only [dumpMembers, furtherLinesOfMembers, List.cons_append, List.count_append,
        List.count_cons_of_ne comma, count_newLine, count_marks, count_quoted,
        count_dump depth value, count_dumpMembers depth rest]
      omega

end

/-- A dump further inside is the dump with blanks behind its line feeds, so that a
value in containers is written as it is alone, shifted by their number.  Each line
feed of a dump starts an item, a member or a closing bracket, and none of them
stands in a string, a name or a number. -/
theorem dump_indent (depth count : Nat) (value : Json) (layers : List Layer) :
    dump (depth + count) value = (dump depth value).indent count ∧
    (∃ front back : Text, ∀ inner,
      dump depth (within layers inner) =
        front ++ (dump 0 inner).indent (depth + layers.length) ++ back) ∧
    (dump depth value).count (.scalar '\n') = value.furtherLines ∧
    (∀ text, .scalar '\n' ∉ quoted text) ∧ ∀ number, .scalar '\n' ∉ dumpNumber number :=
  ⟨dump_add depth count value, dump_within depth layers, count_dump depth value,
    lineFeed_notMem_quoted, lineFeed_notMem_dumpNumber⟩

example : dump 1 (.array [.string "a\nb", .object [("c", .null)]]) =
    "[\n  \"a\\nb\",\n  \x7b\n   \"c\": null\n  \x7d\n ]" := by
  decide +kernel

end Json

end Formulary
