import Formulary.Proofs.CommandLine.StoreChoice
import Formulary.Proofs.Store.Scan

namespace Formulary

/-! # What a loaded store holds

Loading turns the rows of the three tables into the rows of the store one by one
and in their order.  What a row has beyond its columns is kept beside them, and
the store finds the row that a search of the tables would find.
-/

namespace Fields

variable {name : Text} {fields known : Fields}

/-- Members that are known, and the others as they stand among the members. -/
structure DivideInto (fields known extra : Fields) : Prop where
  others : extra = fields.filter fun member => member.1 ∉ known.names
  rebuilt (name : Text) : get? name (known ++ extra) = get? name fields

theorem divideInto_without (held : ∀ member ∈ known, get? member.1 fields = some member.2) :
    fields.DivideInto known (fields.without known.names) where
  others := by simp [without]
  rebuilt name := by
    rw [get?_append, get?_without]
    cases found : get? name known with
    | some value => rw [Option.some_or, held (name, value) (mem_of_get? found)]
    | none => rw [Option.none_or, if_neg (get?_eq_none_iff.mp found)]

theorem DivideInto.get?_of_known {extra : Fields} {value : Json}
    (divided : fields.DivideInto known extra) (found : get? name known = some value) :
    get? name fields = some value := by
  rw [← divided.rebuilt, get?_append, found, Option.some_or]

end Fields

/-! ## Rows of the tables and of the store -/

namespace Json

open Table

def column? (column : Text) : Json → Option Json
  | object fields => Fields.get? column fields
  | _ => none

/-- Does a row hold this text in this column? -/
def hasText (column text : Text) (row : Json) : Bool :=
  match row.column? column with
  | some (string value) => value = text
  | _ => false

/-- Does a row hold this identifier in this column? -/
def hasId (column : Text) (id : Id) (row : Json) : Bool :=
  match row.column? column with
  | some (number value) => (Id.number value).equal id
  | _ => false

def joins (attributeId securityId : Id) (row : Json) : Bool :=
  row.hasId attributeIdName attributeId && row.hasId securityIdName securityId

end Json

section Rows

open Table

inductive Security.IsOf : Json → Security → Prop where
  | row {fields extra : Fields} {id : Number} {symbol : Text}
      (divided : fields.DivideInto [(idName, .number id), (symbolName, .string symbol)] extra) :
      IsOf (.object fields) ⟨.number id, symbol, extra⟩

inductive Attribute.IsOf : Json → Attribute → Prop where
  | row {fields extra : Fields} {id : Number} {name : Text}
      (divided : fields.DivideInto [(idName, .number id), (nameName, .string name)] extra) :
      IsOf (.object fields) ⟨.number id, name, extra⟩

inductive Fact.IsOf : Json → Fact → Prop where
  | row {fields : Fields} {securityId attributeId value : Number}
      (ofSecurity : fields.get? securityIdName = some (.number securityId))
      (ofAttribute : fields.get? attributeIdName = some (.number attributeId))
      (held : fields.get? valueName = some (.number value)) :
      IsOf (.object fields) ⟨.number securityId, .number attributeId, value⟩

variable {row : Json}

theorem Security.IsOf.hasText {security : Security} (same : security.IsOf row) (symbol : Text) :
    row.hasText symbolName symbol = decide (security.symbol = symbol) := by
  obtain @⟨fields, _, _, own, divided⟩ := same
  have held : fields.get? symbolName = some (.string own) := divided.get?_of_known rfl
  simp only [Json.hasText, Json.column?, held]

theorem Attribute.IsOf.hasText {found : Attribute} (same : found.IsOf row) (name : Text) :
    row.hasText nameName name = decide (found.name = name) := by
  obtain @⟨fields, _, _, own, divided⟩ := same
  have held : fields.get? nameName = some (.string own) := divided.get?_of_known rfl
  simp only [Json.hasText, Json.column?, held]

theorem Fact.IsOf.joins {fact : Fact} (same : fact.IsOf row) (attributeId securityId : Id) :
    row.joins attributeId securityId = fact.joins attributeId securityId := by
  obtain ⟨ofSecurity, ofAttribute, held⟩ := same
  simp only [Json.joins, Json.hasId, Json.column?, ofSecurity, ofAttribute, Fact.joins]

end Rows

/-! ## Reading rows -/

namespace Table

variable {number : Nat} {found : Json} {fields : Fields} {column : Text}

theorem fieldsOf_eq_ok {columns : List Text} (read : fieldsOf columns number found = .ok fields) :
    found = .object fields := by
  cases found with
  | object members =>
      rw [fieldsOf] at read
      split at read
      · cases read
      · cases read
        rfl
  | _ => cases read

theorem get?_of_getD {value : Json} (held : (fields.get? column).getD .null = value)
    (present : value ≠ .null) : fields.get? column = some value := by
  cases found : fields.get? column with
  | none => exact absurd (by rw [← held, found, Option.getD_none]) present
  | some other => rw [← held, found, Option.getD_some]

theorem identifier_eq_ok {id : Id} (read : identifier number fields column = .ok id) :
    ∃ value, id = .number value ∧ fields.get? column = some (.number value) := by
  rw [identifier] at read
  split at read
  · rename_i value held
    split at read
    · cases read
      exact ⟨value, rfl, get?_of_getD held (by simp)⟩
    · cases read
  · cases read

theorem string_eq_ok {text : Text} (read : string number fields column = .ok text) :
    fields.get? column = some (.string text) := by
  rw [string] at read
  split at read
  · rename_i held
    cases read
    exact get?_of_getD held (by simp)
  · cases read

theorem number_eq_ok {value : Number} (read : Table.number number fields column = .ok value) :
    fields.get? column = some (.number value) := by
  rw [Table.number] at read
  split at read
  · rename_i held
    cases read
    exact get?_of_getD held (by simp)
  · cases read

/-- An identifier and a string in their columns leave the other members. -/
theorem divideInto_of_columns {id : Id} {text : Text}
    (first : identifier number fields idName = .ok id)
    (second : string number fields column = .ok text) :
    ∃ value, id = .number value ∧
      fields.DivideInto [(idName, .number value), (column, .string text)]
        (fields.without [idName, column]) := by
  obtain ⟨value, rfl, held⟩ := identifier_eq_ok first
  refine ⟨value, rfl, Fields.divideInto_without ?_⟩
  simp only [List.forall_mem_cons, List.not_mem_nil, false_imp_iff, implies_true, and_true]
  exact ⟨held, string_eq_ok second⟩

theorem securityRow_isOf {row : Security} (read : securityRow number found = .ok row) :
    row.IsOf found := by
  obtain ⟨fields, members, read⟩ := Except.bind_eq_ok_iff.mp read
  obtain ⟨id, first, read⟩ := Except.bind_eq_ok_iff.mp read
  obtain ⟨symbol, second, read⟩ := Except.bind_eq_ok_iff.mp read
  cases read
  cases fieldsOf_eq_ok members
  obtain ⟨value, rfl, divided⟩ := divideInto_of_columns first second
  exact .row divided

theorem attributeRow_isOf {row : Attribute} (read : attributeRow number found = .ok row) :
    row.IsOf found := by
  obtain ⟨fields, members, read⟩ := Except.bind_eq_ok_iff.mp read
  obtain ⟨id, first, read⟩ := Except.bind_eq_ok_iff.mp read
  obtain ⟨name, second, read⟩ := Except.bind_eq_ok_iff.mp read
  cases read
  cases fieldsOf_eq_ok members
  obtain ⟨value, rfl, divided⟩ := divideInto_of_columns first second
  exact .row divided

theorem factRow_isOf {row : Fact} (read : factRow number found = .ok row) : row.IsOf found := by
  obtain ⟨fields, members, read⟩ := Except.bind_eq_ok_iff.mp read
  obtain ⟨securityId, first, read⟩ := Except.bind_eq_ok_iff.mp read
  obtain ⟨attributeId, second, read⟩ := Except.bind_eq_ok_iff.mp read
  obtain ⟨value, third, read⟩ := Except.bind_eq_ok_iff.mp read
  cases read
  cases fieldsOf_eq_ok members
  obtain ⟨securityNumber, rfl, ofSecurity⟩ := identifier_eq_ok first
  obtain ⟨attributeNumber, rfl, ofAttribute⟩ := identifier_eq_ok second
  exact .row ofSecurity ofAttribute (number_eq_ok third)

variable {α : Type} {read : Nat → Json → Except TableFlaw α} {relation : Json → α → Prop}

theorem forall₂_of_rowsFrom
    (each : ∀ {number found value}, read number found = .ok value → relation found value)
    {start : Nat} {items : List Json} {values : List α}
    (all : rowsFrom read start items = .ok values) : List.Forall₂ relation items values := by
  induction items generalizing start values with
  | nil =>
      cases all
      exact .nil
  | cons found rest ih =>
      obtain ⟨value, first, all⟩ := Except.bind_eq_ok_iff.mp all
      obtain ⟨others, later, all⟩ := Except.bind_eq_ok_iff.mp all
      cases all
      exact .cons (each first) (ih later)

/-- Two searches side by side, where the rows match and so do the tests. -/
theorem find?_of_forall₂ {items : List Json} {values : List α} {wantedItem : Json → Bool}
    {wanted : α → Bool} (same : List.Forall₂ relation items values)
    (agree : ∀ {item value}, relation item value → wantedItem item = wanted value) :
    Option.Rel relation (items.find? wantedItem) (values.find? wanted) := by
  induction same with
  | nil => exact .none
  | cons first rest ih =>
      rw [List.find?_cons, List.find?_cons, agree first]
      split
      · exact .some first
      · exact ih

end Table

/-! ## Loading -/

variable {tree : Tree} {directory : Path}

namespace TableName

variable {name : TableName}

def IsOf : (name : TableName) → Json → name.Row → Prop
  | securities => Security.IsOf
  | attributes => Attribute.IsOf
  | facts => Fact.IsOf

theorem read_isOf {number : Nat} {found : Json} {value : name.Row}
    (read : name.read number found = .ok value) : name.IsOf found value := by
  cases name with
  | securities => exact Table.securityRow_isOf read
  | attributes => exact Table.attributeRow_isOf read
  | facts => exact Table.factRow_isOf read

theorem load_isOf {values : List name.Row} (loaded : name.load tree directory = .ok values) :
    ∃ rows, name.Holds tree directory (.array rows) ∧ List.Forall₂ name.IsOf rows values := by
  obtain ⟨table, holds⟩ := holds_of_loads ⟨values, loaded⟩
  have read := rows_of_loadWith holds loaded
  cases table with
  | array items =>
      refine ⟨items, holds, Table.forall₂_of_rowsFrom ?_ read⟩
      exact read_isOf
  | _ => cases read

end TableName

namespace Store

open Table

/-- The rows of a store are those of three tables, and its look-ups are searches
of the tables from their first rows. -/
structure Mirrors (store : Store) (rows : TableName → List Json) : Prop where
  securities : List.Forall₂ Security.IsOf (rows .securities) store.securities
  attributes : List.Forall₂ Attribute.IsOf (rows .attributes) store.attributes
  facts : List.Forall₂ Fact.IsOf (rows .facts) store.facts
  security? (symbol : Text) :
    Option.Rel Security.IsOf ((rows .securities).find? (Json.hasText symbolName symbol))
      (store.security? symbol)
  attribute? (name : Text) :
    Option.Rel Attribute.IsOf ((rows .attributes).find? (Json.hasText nameName name))
      (store.attribute? name)
  fact? (attributeId securityId : Id) :
    Option.Rel Fact.IsOf ((rows .facts).find? (Json.joins attributeId securityId))
      (store.fact? attributeId securityId)

theorem mirrors_store {rows : TableName → List Json} (tables : Tables)
    (securities : List.Forall₂ Security.IsOf (rows .securities) tables.securities)
    (attributes : List.Forall₂ Attribute.IsOf (rows .attributes) tables.attributes)
    (facts : List.Forall₂ Fact.IsOf (rows .facts) tables.facts) : tables.store.Mirrors rows where
  securities := securities
  attributes := attributes
  facts := facts
  security? symbol := by
    rw [Tables.store_security?]
    exact find?_of_forall₂ securities (·.hasText symbol)
  attribute? name := by
    rw [Tables.store_attribute?]
    exact find?_of_forall₂ attributes (·.hasText name)
  fact? attributeId securityId := by
    rw [Tables.store_fact?]
    exact find?_of_forall₂ facts (·.joins attributeId securityId)

/-- A store that was loaded mirrors the tables in its directory. -/
theorem load_mirrors {store : Store} (loaded : load tree directory = .ok store) :
    ∃ rows : TableName → List Json,
      (∀ name : TableName, name.Holds tree directory (.array (rows name))) ∧
      store.Mirrors rows := by
  by_cases isDirectory : tree directory = .directory
  · rw [load_of_directory isDirectory] at loaded
    obtain ⟨securities, ofSecurities, loaded⟩ := Except.bind_eq_ok_iff.mp loaded
    obtain ⟨attributes, ofAttributes, loaded⟩ := Except.bind_eq_ok_iff.mp loaded
    obtain ⟨facts, ofFacts, loaded⟩ := Except.bind_eq_ok_iff.mp loaded
    cases loaded
    obtain ⟨securityRows, holdsSecurities, sameSecurities⟩ := TableName.load_isOf ofSecurities
    obtain ⟨attributeRows, holdsAttributes, sameAttributes⟩ := TableName.load_isOf ofAttributes
    obtain ⟨factRows, holdsFacts, sameFacts⟩ := TableName.load_isOf ofFacts
    refine ⟨fun | .securities => securityRows | .attributes => attributeRows | .facts => factRows,
      fun name => ?_,
      mirrors_store ⟨securities, attributes, facts⟩ sameSecurities sameAttributes sameFacts⟩
    cases name with
    | securities => exact holdsSecurities
    | attributes => exact holdsAttributes
    | facts => exact holdsFacts
  · rw [load_of_no_directory isDirectory] at loaded
    split at loaded <;> cases loaded

/-- A symbol and a pair of identifiers occur twice, and a row has more than its columns. -/
def doubledTexts : TableName → Text
  | .securities => "[\x7b\"id\": 1, \"sector\": \"Tech\", \"symbol\": \"ABC\", " ++
    "\"rank\": [2]\x7d, \x7b\"symbol\": \"ABC\", \"id\": 2.0\x7d]"
  | .attributes => "[\x7b\"id\": 1, \"name\": \"price\"\x7d]"
  | .facts => "[\x7b\"security_id\": 1, \"attribute_id\": 1, \"value\": 2.5\x7d, " ++
    "\x7b\"value\": 3, \"security_id\": 1.0, \"attribute_id\": 1\x7d]"

/-- The symbol of each security and what else its row names. -/
def doubledRows : List (Text × List Text) := [("ABC", ["sector", "rank"]), ("ABC", [])]

theorem load_mirrors_doubled :
    ∃ store, load (Tree.ofTexts doubledTexts) ⟨.root, []⟩ = .ok store ∧
      (store.securities.map fun row => (row.symbol, row.extra.names)) = doubledRows ∧
      store.facts.length = 2 ∧
      ∃ rows : TableName → List Json,
        (∀ name : TableName,
          name.Holds (Tree.ofTexts doubledTexts) ⟨.root, []⟩ (.array (rows name))) ∧
        store.Mirrors rows := by
  have shown : (match load (Tree.ofTexts doubledTexts) ⟨.root, []⟩ with
      | .ok store =>
        some (store.securities.map fun row => (row.symbol, row.extra.names), store.facts.length)
      | .error _ => none : Option (List (Text × List Text) × Nat)) =
        some (doubledRows, 2) := by
    decide +kernel
  cases loaded : load (Tree.ofTexts doubledTexts) ⟨.root, []⟩ with
  | error error => simp [loaded] at shown
  | ok store =>
      simp only [loaded, Option.some.injEq, Prod.mk.injEq] at shown
      exact ⟨store, rfl, shown.1, shown.2, load_mirrors loaded⟩

end Store

end Formulary
