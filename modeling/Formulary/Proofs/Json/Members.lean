import Mathlib.Data.List.Perm.Subperm
import Formulary.Json
import Formulary.Proofs.Text.Order

namespace Formulary

/-! # Members of objects

What looking a member up says about the names of an object, how deep the value
of a member is nested, and which name is the least one beyond those known.
-/

namespace Fields

variable {name : Text} {value : Json} {fields : Fields}

theorem get?_eq_none_iff : get? name fields = none ↔ name ∉ fields.names := by
  induction fields with
  | nil => simp [get?, names]
  | cons head rest ih =>
      obtain ⟨key, old⟩ := head
      simp only [get?, names, List.map_cons, List.mem_cons, not_or]
      split
      · rename_i same
        simp [same]
      · rename_i different
        rw [ih]
        exact ⟨fun absent => ⟨fun same => different same.symm, absent⟩, And.right⟩

theorem mem_names_iff : name ∈ fields.names ↔ ∃ value, get? name fields = some value := by
  rw [← Option.isSome_iff_exists, ← Option.ne_none_iff_isSome, ne_eq, get?_eq_none_iff, not_not]

theorem mem_names_of_get? (found : get? name fields = some value) : name ∈ fields.names :=
  mem_names_iff.mpr ⟨value, found⟩

theorem mem_of_get? (found : get? name fields = some value) :
    (name, value) ∈ fields := by
  induction fields with
  | nil => cases found
  | cons head rest ih =>
      obtain ⟨key, first⟩ := head
      rw [get?] at found
      split at found
      · rename_i same
        cases found
        rw [same]
        exact List.mem_cons_self
      · exact List.mem_cons_of_mem _ (ih found)

theorem get?_append {others : Fields} :
    get? name (fields ++ others) = (get? name fields).or (get? name others) := by
  induction fields with
  | nil => simp [get?]
  | cons head rest ih =>
      obtain ⟨key, value⟩ := head
      rw [List.cons_append, get?, get?, ih]
      split <;> simp

theorem get?_without (names : List Text) :
    get? name (fields.without names) = if name ∈ names then none else get? name fields := by
  induction fields with
  | nil => simp [without, get?]
  | cons head rest ih =>
      obtain ⟨key, value⟩ := head
      by_cases sought : key = name
      · subst sought
        by_cases listed : key ∈ names
        · rw [if_pos listed] at ih ⊢
          simpa [without, listed] using ih
        · simp [without, listed, get?]
      · have skipped : get? name (without names ((key, value) :: rest)) =
            get? name (without names rest) := by
          by_cases listed : key ∈ names <;> simp [without, listed, get?, sought]
        rw [skipped, ih, get?, if_neg sought]

@[simp] theorem length_names : fields.names.length = fields.length := by
  simp [names]

/-- An object with a member for each of some names has exactly these members
if it has as many. -/
theorem names_perm_iff {known : List Text} (distinct : known.Nodup) :
    fields.names.Perm known ↔
      fields.length = known.length ∧ ∀ name ∈ known, ∃ value, get? name fields = some value := by
  constructor
  · intro exactly
    refine ⟨by rw [← length_names, exactly.length_eq], fun name member => ?_⟩
    exact mem_names_iff.mp (exactly.mem_iff.mpr member)
  · intro given
    obtain ⟨length, found⟩ := given
    have within : known ⊆ fields.names := fun name member => mem_names_iff.mpr (found name member)
    exact ((distinct.subperm within).perm_of_length_le (by simp [length])).symm

theorem mem_names_without {known : List Text} :
    name ∈ (fields.without known).names ↔ name ∈ fields.names ∧ name ∉ known := by
  simp [without, names]

theorem exists_extra {known : List Text} (distinct : fields.names.Nodup)
    (more : known.length < fields.length) : ∃ name ∈ fields.names, name ∉ known := by
  by_contra none
  have within : fields.names ⊆ known := by
    intro name member
    by_contra unknown
    exact none ⟨name, member, unknown⟩
  have atMost := (distinct.subperm within).length_le
  rw [length_names] at atMost
  omega

theorem leastExtra?_exists {known : List Text} (distinct : fields.names.Nodup)
    (more : known.length < fields.length) : ∃ least, fields.leastExtra? known = some least := by
  cases found : fields.leastExtra? known with
  | some least => exact ⟨least, rfl⟩
  | none =>
      obtain ⟨name, member, unknown⟩ := exists_extra distinct more
      have extra := mem_names_without.mpr ⟨member, unknown⟩
      rw [Text.least?_eq_none.mp found] at extra
      cases extra

theorem leastExtra?_eq_some {known : List Text} {least : Text}
    (found : fields.leastExtra? known = some least) :
    (least ∈ fields.names ∧ least ∉ known) ∧
      ∀ name ∈ fields.names, name ∉ known → Text.AtMost least name := by
  obtain ⟨member, minimal⟩ := Text.least?_eq_some found
  refine ⟨mem_names_without.mp member, fun name inside unknown => ?_⟩
  exact minimal name (mem_names_without.mpr ⟨inside, unknown⟩)

/-- The least extra name does not depend on the order of the members. -/
theorem leastExtra?_perm {known : List Text} {others : Fields}
    (same : fields.names.Perm others.names) :
    fields.leastExtra? known = others.leastExtra? known := by
  have filtered (fields : Fields) :
      (fields.without known).names = fields.names.filter fun name => !known.contains name := by
    simp only [without, names, List.filter_map]
    rfl
  rw [leastExtra?, leastExtra?, filtered, filtered]
  exact Text.least?_perm (same.filter _)

theorem get?_insert (other : Text) :
    get? other (fields.insert name value) =
      if name = other then some value else get? other fields := by
  induction fields with
  | nil => rfl
  | cons head rest ih =>
      obtain ⟨key, old⟩ := head
      by_cases here : key = name
      · subst here
        rw [insert, if_pos rfl, get?, get?]
        split <;> rfl
      · rw [insert, if_neg here, get?, get?, ih]
        by_cases sought : name = other
        · subst sought
          rw [if_neg here, if_pos rfl, if_pos rfl]
        · rw [if_neg sought, if_neg sought]

@[simp] theorem get?_insert_self : get? name (fields.insert name value) = some value := by
  rw [get?_insert, if_pos rfl]

theorem get?_insert_of_ne {other : Text} (different : name ≠ other) :
    get? other (fields.insert name value) = get? other fields := by
  rw [get?_insert, if_neg different]

theorem insert_of_notMem (absent : name ∉ fields.names) :
    fields.insert name value = fields ++ [(name, value)] := by
  induction fields with
  | nil => rfl
  | cons head rest ih =>
      obtain ⟨key, old⟩ := head
      simp only [names, List.map_cons, List.mem_cons, not_or] at absent
      rw [insert, if_neg (Ne.symm absent.1), ih absent.2, List.cons_append]

theorem foldl_insert {members : List (Text × Json)} (distinct : (names (fields ++ members)).Nodup) :
    members.foldl (fun fields member => fields.insert member.1 member.2) fields =
      fields ++ members := by
  induction members generalizing fields with
  | nil => simp
  | cons member rest ih =>
      have shifted : fields ++ member :: rest = fields ++ [member] ++ rest := by simp
      have absent : member.1 ∉ fields.names := by
        simp only [names, List.map_append, List.map_cons, List.nodup_append] at distinct
        intro listed
        exact distinct.2.2 _ listed _ (List.mem_cons_self ..) rfl
      rw [shifted] at distinct ⊢
      rw [List.foldl_cons, insert_of_notMem absent]
      exact ih distinct

/-- Members of different names are set in their order. -/
theorem ofMembers_of_nodup (distinct : fields.names.Nodup) : ofMembers fields = fields :=
  foldl_insert distinct

theorem nesting_le (found : get? name fields = some value) :
    value.nesting ≤ Json.nestingOfFields fields := by
  induction fields with
  | nil => simp [get?] at found
  | cons head rest ih =>
      obtain ⟨key, old⟩ := head
      simp only [get?] at found
      simp only [Json.nestingOfFields]
      split at found
      · cases found
        exact Nat.le_max_left _ _
      · exact Nat.le_trans (ih found) (Nat.le_max_right _ _)

/-- Members that are nested less deeply than the members of the same names make
an object that is nested less deeply. -/
theorem nesting_mono {others : Fields} (distinct : others.names.Nodup)
    (within : others.names ⊆ fields.names)
    (bounded : ∀ name value other, get? name fields = some value → get? name others = some other →
      other.nesting ≤ value.nesting) :
    Json.nestingOfFields others ≤ Json.nestingOfFields fields := by
  induction others with
  | nil => exact Nat.zero_le _
  | cons head rest ih =>
      obtain ⟨key, old⟩ := head
      have unique := List.nodup_cons.mp distinct
      have first : old.nesting ≤ Json.nestingOfFields fields := by
        obtain ⟨value, found⟩ := mem_names_iff.mp (within (List.mem_cons_self ..))
        exact Nat.le_trans (bounded key value old found (by simp [get?])) (nesting_le found)
      refine Nat.max_le.mpr ⟨first, ih unique.2 (List.subset_of_cons_subset within) ?_⟩
      intro name value other found later
      have different : key ≠ name := by
        rintro rfl
        exact unique.1 (mem_names_of_get? later)
      exact bounded name value other found (by rw [get?, if_neg different, later])

end Fields

namespace Json

theorem nesting_lt {name : Text} {value : Json} {fields : Fields}
    (found : Fields.get? name fields = some value) : value.nesting < (object fields).nesting := by
  have bound := Fields.nesting_le found
  simp only [nesting]
  omega

mutual

/-- Arrays directly inside each other are containers around each other. -/
theorem arrayNesting_le_nesting : ∀ value : Json, value.arrayNesting ≤ value.nesting
  | array items => by
      have inside := arrayNestingOfItems_le_nestingOfItems items
      simp only [arrayNesting, nesting]
      omega
  | null | bool _ | number _ | string _ | object _ => by simp [arrayNesting]

theorem arrayNestingOfItems_le_nestingOfItems :
    ∀ items : List Json, arrayNestingOfItems items ≤ nestingOfItems items
  | [] => by simp [arrayNestingOfItems]
  | item :: rest => by
      have first := arrayNesting_le_nesting item
      have others := arrayNestingOfItems_le_nestingOfItems rest
      simp only [arrayNestingOfItems, nestingOfItems]
      omega

end

end Json

end Formulary
