import Formulary.Store.Loading
import Formulary.Proofs.Number.Comparison
import Formulary.Proofs.Outcome

namespace Formulary

/-! # Columns

What the columns of a table require of its rows, and what is wrong with a table
that does not meet them: the first row that does not fit, and in this row a
missing column before one of the wrong kind.  Reading rows decides just that.
-/

/-- The item at this index is bad, and all items in front of it are good. -/
structure FirstAt {α : Type} (good : α → Prop) (items : List α) (index : Nat) (item : α) :
    Prop where
  found : items[index]? = some item
  bad : ¬ good item
  before : ∀ earlier other, earlier < index → items[earlier]? = some other → good other

namespace FirstAt

variable {α : Type} {good : α → Prop} {items : List α} {index : Nat} {first item : α}

theorem head (bad : ¬ good first) : FirstAt good (first :: items) 0 first :=
  ⟨rfl, bad, fun _ _ earlier => absurd earlier (Nat.not_lt_zero _)⟩

theorem cons (fine : good first) (later : FirstAt good items index item) :
    FirstAt good (first :: items) (index + 1) item := by
  refine ⟨later.found, later.bad, fun earlier other before found => ?_⟩
  cases earlier with
  | zero =>
      cases found
      exact fine
  | succ earlier => exact later.before earlier other (Nat.lt_of_succ_lt_succ before) found

theorem not_all (firstAt : FirstAt good items index item) : ¬ ∀ other ∈ items, good other :=
  fun all => firstAt.bad (all item (List.mem_of_getElem? firstAt.found))

theorem of_find? {isBad : α → Bool} (found : items.find? isBad = some item) :
    ∃ index, FirstAt (isBad · = false) items index item := by
  induction items with
  | nil => cases found
  | cons first items ih =>
      cases test : isBad first with
      | true =>
          rw [List.find?_cons_of_pos test, Option.some.injEq] at found
          exact ⟨0, found ▸ .head (by simp [test])⟩
      | false =>
          rw [List.find?_cons_of_neg (by simp [test])] at found
          obtain ⟨index, later⟩ := ih found
          exact ⟨index + 1, later.cons test⟩

theorem imp {other : α → Prop} (same : ∀ item, good item ↔ other item)
    (firstAt : FirstAt good items index item) : FirstAt other items index item :=
  ⟨firstAt.found, fun fine => firstAt.bad ((same item).mpr fine),
    fun earlier before lower found => (same before).mp (firstAt.before earlier before lower found)⟩

theorem unique {other : Nat} {otherItem : α} (firstAt : FirstAt good items index item)
    (otherFirst : FirstAt good items other otherItem) : item = otherItem := by
  rcases Nat.lt_trichotomy index other with before | same | before
  · exact absurd (otherFirst.before index item before firstAt.found) firstAt.bad
  · subst same
    exact Option.some.inj (firstAt.found.symm.trans otherFirst.found)
  · exact absurd (firstAt.before other otherItem before otherFirst.found) otherFirst.bad

end FirstAt

/-! ## What columns require -/

inductive ColumnKind.Admits : ColumnKind → Json → Prop where
  | int (value : Int) : Admits .integer (.number (.int value))
  | whole {negative : Bool} {rank : Fin Binary64.infinityRank} {value : Int}
      (same : Binary64.signedUnits negative rank = value * Binary64.one) :
      Admits .integer (.number (.float (.finite negative rank)))
  | string (value : Text) : Admits .string (.string value)
  | number (value : Number) : Admits .number (.number value)

namespace Columns

def Holds (fields : Fields) (column : Text × ColumnKind) : Prop :=
  ∃ value, fields.get? column.1 = some value ∧ column.2.Admits value

def RowFits (columns : Columns) (row : Json) : Prop :=
  ∃ fields, row = .object fields ∧ ∀ column ∈ columns, Holds fields column

def Fits (columns : Columns) (table : Json) : Prop :=
  ∃ rows, table = .array rows ∧ ∀ row ∈ rows, columns.RowFits row

/-- What is wrong with a row, and where: at the row, or at one of its columns. -/
inductive RowFlaw (columns : Columns) (index : Nat) :
    Json → (location : Text) → TableFlaw → Prop where
  | notObject {row : Json} (other : ∀ fields, row ≠ .object fields) :
      RowFlaw columns index row (Numeral.ofNat index) (.notObject index row)
  | missing {fields : Fields} {place : Nat} {name : Text}
      (first : FirstAt (fun name => fields.get? name ≠ none) columns.names place name) :
      RowFlaw columns index (.object fields) (Numeral.ofNat index) (.missing index name)
  | wrongKind {fields : Fields} {place : Nat} {name : Text} {kind : ColumnKind} {value : Json}
      (complete : ∀ name ∈ columns.names, fields.get? name ≠ none)
      (first : FirstAt (Holds fields) columns place (name, kind))
      (found : fields.get? name = some value) :
      RowFlaw columns index (.object fields) (Numeral.ofNat index ++ "/" ++ name)
        (.wrongKind index name kind value)

/-- What is wrong with a table: it is no array, or its first row that does not fit. -/
inductive FlawOf (columns : Columns) : Json → (location : Text) → TableFlaw → Prop where
  | notArray {table : Json} (other : ∀ rows, table ≠ .array rows) :
      FlawOf columns table "<root>" (.notArray table)
  | row {rows : List Json} {index : Nat} {row : Json} {location : Text} {flaw : TableFlaw}
      (first : FirstAt columns.RowFits rows index row)
      (flawed : columns.RowFlaw index row location flaw) :
      FlawOf columns (.array rows) location flaw

variable {columns : Columns} {index : Nat} {row table : Json} {location : Text} {flaw : TableFlaw}

theorem FlawOf.not_fits (flawed : columns.FlawOf table location flaw) : ¬ columns.Fits table := by
  rintro ⟨rows, rfl, all⟩
  cases flawed with
  | notArray other => exact other rows rfl
  | row first _ => exact first.not_all all

theorem RowFlaw.not_fits (flawed : columns.RowFlaw index row location flaw) :
    ¬ columns.RowFits row := by
  rintro ⟨fields, rfl, all⟩
  cases flawed with
  | notObject other => exact other fields rfl
  | missing first =>
      obtain ⟨column, listed, same⟩ := List.mem_map.mp (List.mem_of_getElem? first.found)
      obtain ⟨value, found, _⟩ := all column listed
      exact first.bad (by rw [← same, found]; exact Option.some_ne_none value)
  | wrongKind _ first _ => exact first.not_all all

end Columns

/-! ## Reading rows -/

namespace Table

variable {columns : Columns} {fields : Fields} {name : Text} {value : Json}

theorem isInteger_iff {value : Number} :
    isInteger value = true ↔ ColumnKind.Admits .integer (.number value) := by
  cases value with
  | int value => exact iff_of_true rfl (.int value)
  | float value =>
      cases value with
      | nan => exact iff_of_false (by decide) nofun
      | infinity negative => exact iff_of_false nofun nofun
      | finite negative rank =>
          rw [isInteger, Option.isSome_iff_exists]
          constructor
          · rintro ⟨whole, same⟩
            exact .whole (Binary64.toInt?_finite.mp same)
          · intro admits
            cases admits with
            | whole same => exact ⟨_, Binary64.toInt?_finite.mpr same⟩

theorem checkColumn_verdict (kind : ColumnKind) (row : Nat)
    (found : fields.get? name = some value) :
    (kind.Admits value ∧ checkColumn row fields (name, kind) = .ok ()) ∨
      (¬ kind.Admits value ∧
        checkColumn row fields (name, kind) = .error (.wrongKind row name kind value)) := by
  cases kind with
  | integer =>
      simp only [checkColumn, identifier, found, Option.getD_some]
      cases value with
      | number value =>
          rw [← isInteger_iff]
          cases integral : isInteger value <;> simp [integral, Except.map]
      | _ => exact .inr ⟨fun admits => (by cases admits), rfl⟩
  | string =>
      simp only [checkColumn, string, found, Option.getD_some]
      cases value with
      | string value => exact .inl ⟨.string value, rfl⟩
      | _ => exact .inr ⟨fun admits => (by cases admits), rfl⟩
  | number =>
      simp only [checkColumn, number, found, Option.getD_some]
      cases value with
      | number value => exact .inl ⟨.number value, rfl⟩
      | _ => exact .inr ⟨fun admits => (by cases admits), rfl⟩

theorem checkColumns_verdict (row : Nat)
    (complete : ∀ name ∈ columns.names, fields.get? name ≠ none) :
    ((∀ column ∈ columns, Columns.Holds fields column) ∧
        checkColumns row fields columns = .ok ()) ∨
      ∃ place name kind value, FirstAt (Columns.Holds fields) columns place (name, kind) ∧
        fields.get? name = some value ∧
        checkColumns row fields columns = .error (.wrongKind row name kind value) := by
  induction columns with
  | nil => exact .inl ⟨nofun, rfl⟩
  | cons column columns ih =>
      obtain ⟨name, kind⟩ := column
      obtain ⟨here, later⟩ := List.forall_mem_cons.mp complete
      obtain ⟨value, found⟩ := Option.ne_none_iff_exists'.mp here
      rw [checkColumns]
      rcases checkColumn_verdict kind row found with
        ⟨admits, passed⟩ | ⟨refused, failed⟩
      · have fine : Columns.Holds fields (name, kind) := ⟨value, found, admits⟩
        rw [passed]
        rcases ih later with ⟨all, checked⟩ | ⟨place, other, otherKind, wrong, first, same, checked⟩
        · exact .inl ⟨List.forall_mem_cons.mpr ⟨fine, all⟩, checked⟩
        · exact .inr ⟨_, other, otherKind, wrong, first.cons fine, same, checked⟩
      · have unfit : ¬ Columns.Holds fields (name, kind) := by
          rintro ⟨other, same, admits⟩
          cases found.symm.trans same
          exact refused admits
        rw [failed]
        exact .inr ⟨0, name, kind, value, .head unfit, found, rfl⟩

theorem fieldsOf_verdict (columns : Columns) (row : Nat) (found : Json) :
    (∃ fields : Fields, found = .object fields ∧ (∀ name ∈ columns.names, fields.get? name ≠ none) ∧
        fieldsOf columns.names row found = .ok fields) ∨
      ∃ flaw, columns.RowFlaw row found (Numeral.ofNat row) flaw ∧
        fieldsOf columns.names row found = .error flaw := by
  cases found with
  | object fields =>
      cases absent : columns.names.find? fun name => (Fields.get? name fields).isNone with
      | none =>
          refine .inl ⟨fields, rfl, fun name listed missing => ?_, by simp only [fieldsOf, absent]⟩
          have present := List.find?_eq_none.mp absent name listed
          simp [missing] at present
      | some name =>
          obtain ⟨place, first⟩ := FirstAt.of_find? absent
          have missing : FirstAt (Fields.get? · fields ≠ none) columns.names place name :=
            first.imp fun name => Option.isNone_eq_false_iff.trans Option.isSome_iff_ne_none
          exact .inr ⟨_, .missing missing, by simp only [fieldsOf, absent]⟩
  | _ => exact .inr ⟨_, .notObject nofun, rfl⟩

theorem checkRow_verdict (columns : Columns) (row : Nat) (found : Json) :
    (columns.RowFits found ∧ checkRow columns row found = .ok ()) ∨
      ∃ location flaw, columns.RowFlaw row found location flaw ∧
        checkRow columns row found = .error flaw := by
  rcases fieldsOf_verdict columns row found with
    ⟨fields, rfl, complete, read⟩ | ⟨flaw, flawed, failed⟩
  · rw [checkRow, read]
    rcases checkColumns_verdict row complete with
      ⟨all, checked⟩ | ⟨place, name, kind, value, first, present, checked⟩
    · exact .inl ⟨⟨fields, rfl, all⟩, checked⟩
    · exact .inr ⟨_, _, .wrongKind complete first present, checked⟩
  · rw [checkRow, failed]
    exact .inr ⟨_, flaw, flawed, rfl⟩

variable {α : Type} {read : Nat → Json → Except TableFlaw α}

theorem read_verdict
    (checks : ∀ row found, Except.forget (read row found) = checkRow columns row found)
    (row : Nat) (found : Json) :
    (columns.RowFits found ∧ ∃ value, read row found = .ok value) ∨
      ∃ location flaw, columns.RowFlaw row found location flaw ∧ read row found = .error flaw := by
  rcases checkRow_verdict columns row found with ⟨fits, checked⟩ | ⟨location, flaw, flawed, checked⟩
  · rw [← checks] at checked
    exact .inl ⟨fits, Except.forget_eq_ok_iff.mp checked⟩
  · rw [← checks] at checked
    exact .inr ⟨location, flaw, flawed, Except.forget_eq_error_iff.mp checked⟩

theorem rowsFrom_verdict
    (checks : ∀ row found, Except.forget (read row found) = checkRow columns row found)
    (start : Nat) (items : List Json) :
    ((∀ row ∈ items, columns.RowFits row) ∧ ∃ values, rowsFrom read start items = .ok values) ∨
      ∃ index row location flaw, FirstAt columns.RowFits items index row ∧
        columns.RowFlaw (start + index) row location flaw ∧
        rowsFrom read start items = .error flaw := by
  induction items generalizing start with
  | nil => exact .inl ⟨nofun, [], rfl⟩
  | cons found items ih =>
      rw [rowsFrom]
      rcases read_verdict checks start found with
        ⟨fits, value, here⟩ | ⟨location, flaw, flawed, here⟩
      · rw [here]
        rcases ih (start + 1) with
          ⟨all, values, later⟩ | ⟨index, row, location, flaw, first, flawed, later⟩
        · exact .inl ⟨List.forall_mem_cons.mpr ⟨fits, all⟩, value :: values, by rw [later]; rfl⟩
        · rw [Nat.add_assoc, Nat.add_comm 1] at flawed
          exact .inr ⟨_, row, location, flaw, first.cons fits, flawed, by rw [later]; rfl⟩
      · rw [here]
        exact .inr ⟨0, found, location, flaw, .head flawed.not_fits, flawed, rfl⟩

theorem rows_verdict
    (checks : ∀ row found, Except.forget (read row found) = checkRow columns row found)
    (table : Json) :
    (columns.Fits table ∧ ∃ values, rows read table = .ok values) ∨
      ∃ location flaw, columns.FlawOf table location flaw ∧ rows read table = .error flaw := by
  cases table with
  | array items =>
      rcases rowsFrom_verdict checks 0 items with
        ⟨all, values, found⟩ | ⟨index, row, location, flaw, first, flawed, found⟩
      · exact .inl ⟨⟨items, rfl, all⟩, values, found⟩
      · rw [Nat.zero_add] at flawed
        exact .inr ⟨location, flaw, .row first flawed, found⟩
  | _ => exact .inr ⟨_, _, .notArray nofun, rfl⟩

end Table

/-! ## The three tables -/

inductive TableName where
  | securities
  | attributes
  | facts
deriving DecidableEq, Repr

namespace TableName

open Table

/-- The tables in the order in which they are loaded. -/
def all : List TableName := [securities, attributes, facts]

def file : TableName → Text
  | securities => Store.securitiesFile
  | attributes => Store.attributesFile
  | facts => Store.factsFile

def columns : TableName → Columns
  | securities => [(idName, .integer), (symbolName, .string)]
  | attributes => [(idName, .integer), (nameName, .string)]
  | facts => [(securityIdName, .integer), (attributeIdName, .integer), (valueName, .number)]

def Row : TableName → Type
  | securities => Security
  | attributes => Attribute
  | facts => Fact

def read : (name : TableName) → Nat → Json → Except TableFlaw name.Row
  | securities => securityRow
  | attributes => attributeRow
  | facts => factRow

theorem forget_securityRow (row : Nat) (found : Json) :
    Except.forget (securityRow row found) = checkRow securities.columns row found := by
  simp only [securityRow, columns, checkRow, checkColumns, checkColumn, Except.forget_bind,
    Except.map_bind]
  rfl

theorem forget_attributeRow (row : Nat) (found : Json) :
    Except.forget (attributeRow row found) = checkRow attributes.columns row found := by
  simp only [attributeRow, columns, checkRow, checkColumns, checkColumn, Except.forget_bind,
    Except.map_bind]
  rfl

theorem forget_factRow (row : Nat) (found : Json) :
    Except.forget (factRow row found) = checkRow facts.columns row found := by
  simp only [factRow, columns, checkRow, checkColumns, checkColumn, Except.forget_bind,
    Except.map_bind]
  rfl

theorem forget_read (name : TableName) (row : Nat) (found : Json) :
    Except.forget (name.read row found) = checkRow name.columns row found := by
  cases name with
  | securities => exact forget_securityRow row found
  | attributes => exact forget_attributeRow row found
  | facts => exact forget_factRow row found

end TableName

end Formulary
