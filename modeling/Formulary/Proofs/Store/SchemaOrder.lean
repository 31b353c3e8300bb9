import Formulary.Proofs.Store.Columns

namespace Formulary

/-! # The order of a schema

Columns are a schema: an array of objects that require the columns, whose values
have certain kinds.  A table may violate it in many places, which are ordered by
row, by keyword and by column.  A validator raises the first violation, and this
is the flaw of the table.
-/

/-- A place in the order of a schema.  The keywords of a row count from zero: its
type, what it requires, and the types of its properties. -/
structure SchemaPlace where
  row : Nat
  keyword : Nat
  column : Nat

namespace SchemaPlace

def Before (first second : SchemaPlace) : Prop :=
  first.row < second.row ∨ first.row = second.row ∧
    (first.keyword < second.keyword ∨ first.keyword = second.keyword ∧
      first.column < second.column)

end SchemaPlace

namespace Columns

inductive Violates (columns : Columns) : Json → SchemaPlace → TableFlaw → Prop where
  | root {table : Json} (other : ∀ rows, table ≠ .array rows) :
      Violates columns table ⟨0, 0, 0⟩ (.notArray table)
  | type {rows : List Json} {index : Nat} {row : Json} (listed : rows[index]? = some row)
      (other : ∀ fields, row ≠ .object fields) :
      Violates columns (.array rows) ⟨index, 0, 0⟩ (.notObject index row)
  | required {rows : List Json} {index column : Nat} {fields : Fields} {name : Text}
      (listed : rows[index]? = some (.object fields))
      (named : columns.names[column]? = some name) (absent : fields.get? name = none) :
      Violates columns (.array rows) ⟨index, 1, column⟩ (.missing index name)
  | property {rows : List Json} {index column : Nat} {fields : Fields} {name : Text}
      {kind : ColumnKind} {value : Json} (listed : rows[index]? = some (.object fields))
      (declared : columns[column]? = some (name, kind)) (found : fields.get? name = some value)
      (refused : ¬ kind.Admits value) :
      Violates columns (.array rows) ⟨index, 2, column⟩ (.wrongKind index name kind value)

/-- A violation in front of which there is none. -/
structure ViolatesFirst (columns : Columns) (table : Json) (place : SchemaPlace)
    (flaw : TableFlaw) : Prop where
  violates : columns.Violates table place flaw
  first : ∀ earlier other, columns.Violates table earlier other → ¬ earlier.Before place

variable {columns : Columns} {rows : List Json} {index : Nat} {row table : Json}
  {place : SchemaPlace} {location : Text} {flaw : TableFlaw}

theorem Violates.row_not_fits (violates : columns.Violates (.array rows) place flaw) :
    ∃ row, rows[place.row]? = some row ∧ ¬ columns.RowFits row := by
  cases violates with
  | root other => exact absurd rfl (other rows)
  | type listed other =>
      exact ⟨_, listed, fun ⟨fields, same, _⟩ => other fields same⟩
  | required listed named absent =>
      refine ⟨_, listed, ?_⟩
      rintro ⟨fields, same, all⟩
      cases same
      obtain ⟨column, declared, rfl⟩ := List.mem_map.mp (List.mem_of_getElem? named)
      obtain ⟨value, found, _⟩ := all column declared
      cases absent.symm.trans found
  | property listed declared found refused =>
      refine ⟨_, listed, ?_⟩
      rintro ⟨fields, same, all⟩
      cases same
      obtain ⟨value, present, admits⟩ := all _ (List.mem_of_getElem? declared)
      cases found.symm.trans present
      exact refused admits

theorem Fits.not_violates (fits : columns.Fits table) (place : SchemaPlace) (flaw : TableFlaw) :
    ¬ columns.Violates table place flaw := by
  obtain ⟨rows, rfl, all⟩ := fits
  intro violates
  obtain ⟨row, listed, unfit⟩ := violates.row_not_fits
  exact unfit (all row (List.mem_of_getElem? listed))

theorem violates_of_not_rowFits (listed : rows[index]? = some row) (unfit : ¬ columns.RowFits row) :
    ∃ keyword column flaw, columns.Violates (.array rows) ⟨index, keyword, column⟩ flaw := by
  cases row with
  | object fields =>
      by_cases complete : ∀ name ∈ columns.names, Fields.get? name fields ≠ none
      · have wrong : ∃ column ∈ columns, ¬ Holds fields column := by
          by_contra none
          push Not at none
          exact unfit ⟨fields, rfl, none⟩
        obtain ⟨⟨name, kind⟩, declared, refused⟩ := wrong
        obtain ⟨value, found⟩ :=
          Option.ne_none_iff_exists'.mp (complete name (List.mem_map_of_mem declared))
        obtain ⟨column, declared⟩ := List.mem_iff_getElem?.mp declared
        exact ⟨2, column, _, .property listed declared found fun admits =>
          refused ⟨value, found, admits⟩⟩
      · push Not at complete
        obtain ⟨name, named, absent⟩ := complete
        obtain ⟨column, named⟩ := List.mem_iff_getElem?.mp named
        exact ⟨1, column, _, .required listed named absent⟩
  | _ => exact ⟨0, 0, _, .type listed nofun⟩

theorem fits_of_not_violates (sound : ∀ place flaw, ¬ columns.Violates table place flaw) :
    columns.Fits table := by
  cases table with
  | array rows =>
      refine ⟨rows, rfl, fun row listed => ?_⟩
      by_contra unfit
      obtain ⟨index, listed⟩ := List.mem_iff_getElem?.mp listed
      obtain ⟨keyword, column, flaw, violates⟩ := violates_of_not_rowFits listed unfit
      exact sound _ _ violates
  | _ => exact absurd (.root nofun) (sound _ _)

/-- Rows in front of the first violation fit. -/
theorem ViolatesFirst.rows_before (first : columns.ViolatesFirst (.array rows) place flaw)
    {earlier : Nat} (before : earlier < place.row) (listed : rows[earlier]? = some row) :
    columns.RowFits row := by
  by_contra unfit
  obtain ⟨keyword, column, other, violates⟩ := violates_of_not_rowFits listed unfit
  exact first.first _ _ violates (.inl before)

/-- The first violation is the flaw of the table. -/
theorem ViolatesFirst.flawOf (first : columns.ViolatesFirst table place flaw) :
    columns.FlawOf table flaw.location flaw := by
  have unfit {rows : List Json} (same : table = .array rows) :
      ∃ row, rows[place.row]? = some row ∧ ¬ columns.RowFits row :=
    (same ▸ first.violates).row_not_fits
  cases first.violates with
  | root other => exact .notArray other
  | @type rows index row listed other =>
      refine .row ⟨listed, ?_, fun _ _ before found => first.rows_before before found⟩
        (.notObject other)
      exact fun ⟨fields, same, _⟩ => other fields same
  | @required rows index column fields name listed named absent =>
      obtain ⟨row, found, bad⟩ := unfit rfl
      cases listed.symm.trans found
      have present : FirstAt (fun name => fields.get? name ≠ none) columns.names column name := by
        refine ⟨named, not_not.mpr absent, fun earlier other before named absent => ?_⟩
        exact first.first _ _ (.required listed named absent) (.inr ⟨rfl, .inr ⟨rfl, before⟩⟩)
      exact .row ⟨listed, bad, fun _ _ before found => first.rows_before before found⟩
        (.missing present)
  | @property rows index column fields name kind value listed declared found refused =>
      obtain ⟨row, same, bad⟩ := unfit rfl
      cases listed.symm.trans same
      have complete : ∀ name ∈ columns.names, fields.get? name ≠ none := by
        intro name named absent
        obtain ⟨column, named⟩ := List.mem_iff_getElem?.mp named
        exact first.first _ _ (.required listed named absent) (.inr ⟨rfl, .inl Nat.one_lt_two⟩)
      have wrong : FirstAt (Holds fields) columns column (name, kind) := by
        refine ⟨declared, ?_, fun earlier other before declared => ?_⟩
        · rintro ⟨other, same, admits⟩
          cases found.symm.trans same
          exact refused admits
        · obtain ⟨otherName, otherKind⟩ := other
          obtain ⟨otherValue, present⟩ := Option.ne_none_iff_exists'.mp
            (complete otherName (List.mem_map_of_mem (List.mem_of_getElem? declared)))
          by_contra bad
          exact first.first _ _
            (.property listed declared present fun admits => bad ⟨otherValue, present, admits⟩)
            (.inr ⟨rfl, .inr ⟨rfl, before⟩⟩)
      exact .row ⟨listed, bad, fun _ _ before found => first.rows_before before found⟩
        (.wrongKind complete wrong found)

/-- The flaw of a table is its first violation. -/
theorem FlawOf.violatesFirst (flawed : columns.FlawOf table location flaw) :
    ∃ place, columns.ViolatesFirst table place flaw := by
  cases flawed with
  | notArray other =>
      refine ⟨_, .root other, fun earlier violation _ before => ?_⟩
      simp [SchemaPlace.Before] at before
  | @row rows index row _ _ first flawed =>
      have inside {earlier : SchemaPlace} {other : TableFlaw}
          (violates : columns.Violates (.array rows) earlier other) : ¬ earlier.row < index := by
        intro before
        obtain ⟨earlierRow, listed, unfit⟩ := violates.row_not_fits
        exact unfit (first.before _ _ before listed)
      cases flawed with
      | notObject other =>
          refine ⟨_, .type first.found other, fun earlier violation violates before => ?_⟩
          refine inside violates ?_
          simpa [SchemaPlace.Before] using before
      | missing missing =>
          refine ⟨_, .required first.found missing.found (not_not.mp missing.bad),
            fun earlier violation violates before => ?_⟩
          rcases before with before | ⟨same, later⟩
          · exact inside violates before
          · cases violates with
            | root other => exact other rows rfl
            | type listed other =>
                cases same
                cases first.found.symm.trans listed
                exact other _ rfl
            | required listed named absent =>
                cases same
                cases first.found.symm.trans listed
                rcases later with later | ⟨_, later⟩
                · exact absurd later (Nat.lt_irrefl _)
                · exact missing.before _ _ later named absent
            | property => simp at later
      | wrongKind complete wrong found =>
          have refused : ¬ ColumnKind.Admits _ _ := fun admits => wrong.bad ⟨_, found, admits⟩
          refine ⟨_, .property first.found wrong.found found refused,
            fun earlier violation violates before => ?_⟩
          rcases before with before | ⟨same, later⟩
          · exact inside violates before
          · cases violates with
            | root other => exact other rows rfl
            | type listed other =>
                cases same
                cases first.found.symm.trans listed
                exact other _ rfl
            | required listed named absent =>
                cases same
                cases first.found.symm.trans listed
                exact complete _ (List.mem_of_getElem? named) absent
            | property listed declared present refused =>
                cases same
                cases first.found.symm.trans listed
                rcases later with later | ⟨_, later⟩
                · exact absurd later (Nat.lt_irrefl _)
                · obtain ⟨value, holds, admits⟩ := wrong.before _ _ later declared
                  cases present.symm.trans holds
                  exact refused admits

end Columns

/-! ## Validators -/

/-- A validator of tables: where it accepts a table nothing is violated, and
where it does not, it raises the first violation. -/
structure SchemaValidator where
  flaw? : Store.Validator
  accepts : ∀ {columns : Columns} {table : Json}, flaw? columns table = none →
    ∀ place flaw, ¬ columns.Violates table place flaw
  raises : ∀ {columns : Columns} {table : Json} {flaw : TableFlaw},
    flaw? columns table = some flaw → ∃ place, columns.ViolatesFirst table place flaw

namespace SchemaValidator

theorem verdict (validator : SchemaValidator) (columns : Columns) (table : Json) :
    (columns.Fits table ∧ validator.flaw? columns table = none) ∨
      ∃ flaw, columns.FlawOf table flaw.location flaw ∧
        validator.flaw? columns table = some flaw := by
  cases raised : validator.flaw? columns table with
  | none => exact .inl ⟨Columns.fits_of_not_violates (validator.accepts raised), rfl⟩
  | some flaw =>
      obtain ⟨place, first⟩ := validator.raises raised
      exact .inr ⟨flaw, first.flawOf, rfl⟩

end SchemaValidator

namespace Table

theorem firstFlaw?_verdict (columns : Columns) (table : Json) :
    (columns.Fits table ∧ firstFlaw? columns table = none) ∨
      ∃ location flaw, columns.FlawOf table location flaw ∧
        firstFlaw? columns table = some flaw := by
  have checks (row : Nat) (found : Json) :
      Except.forget (checkRow columns row found) = checkRow columns row found := by
    cases checkRow columns row found <;> rfl
  rw [firstFlaw?]
  rcases rows_verdict checks table with ⟨fits, values, read⟩ | ⟨location, flaw, flawed, failed⟩
  · exact .inl ⟨fits, by rw [read]⟩
  · exact .inr ⟨location, flaw, flawed, by rw [failed]⟩

end Table

/-- The validator that reads tables row by row. -/
def SchemaValidator.rowByRow : SchemaValidator where
  flaw? := Table.firstFlaw?
  accepts := by
    intro columns table accepted
    rcases Table.firstFlaw?_verdict columns table with ⟨fits, _⟩ | ⟨_, _, _, raised⟩
    · exact fits.not_violates
    · cases accepted.symm.trans raised
  raises := by
    intro columns table flaw raised
    rcases Table.firstFlaw?_verdict columns table with ⟨_, accepted⟩ | ⟨_, _, flawed, other⟩
    · cases accepted.symm.trans raised
    · cases raised.symm.trans other
      exact flawed.violatesFirst

end Formulary
