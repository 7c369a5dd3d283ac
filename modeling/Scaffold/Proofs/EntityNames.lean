import Mathlib.Data.List.Basic
import Scaffold.Command.Project
import Scaffold.Proofs.ManifestFaults

/-!
# Where entity names come from

The entity of a target is given by an option, derived from the name of a table that an option
selects, given by a manifest, or derived from the name of a table that a manifest lists. Selecting
tables by options checks both kinds of names, and accepting a manifest checks the given ones. The
names that are derived for listed tables are checked nowhere, so the entities of the targets are
identifiers exactly when tables are selected by options or these names happen to be identifiers.
-/

namespace Scaffold

open Identifier (isIdentifier pascalCase)

/-! ## Listed tables -/

namespace Manifest

/-- A manifest that was accepted has no fault. -/
theorem fault?_eq_none_of_parse
    {fileName source : Text}
    {manifest : Manifest}
    (accepted : parse fileName source = .ok manifest) :
    fault? source manifest = none := by
  rw [parse] at accepted
  split at accepted
  · cases accepted
  next found read =>
    rw [validate] at accepted
    cases faults : fault? source found with
    | some fault =>
      rw [faults] at accepted
      cases accepted
    | none =>
      rw [faults] at accepted
      cases accepted
      exact faults

/-- The entities that an accepted manifest gives are identifiers. -/
theorem isIdentifier_of_parse
    {fileName source : Text}
    {manifest : Manifest}
    (accepted : parse fileName source = .ok manifest) :
    ∀ table ∈ manifest.tables,
      ∀ entity, table.entity = some entity → isIdentifier entity = true :=
  ((fault?_eq_none_iff source manifest).mp (fault?_eq_none_of_parse accepted)).tables.identified

/-- The targets of an accepted manifest have identifiers for entities exactly when every name that
is derived is one. -/
theorem targets_named_iff
    {fileName source : Text}
    {manifest : Manifest}
    (accepted : parse fileName source = .ok manifest) :
    (∀ target ∈ manifest.targets, isIdentifier target.entity = true) ↔
      ∀ table ∈ manifest.tables,
        table.entity = none → isIdentifier (pascalCase table.name) = true := by
  rw [targets, List.forall_mem_map]
  apply forall₂_congr
  intro table isMember
  have given := isIdentifier_of_parse accepted table isMember
  rw [ListedTable.target, ListedTable.entityName]
  cases entity : table.entity with
  | none => simp
  | some name => simpa [entity] using given name entity

end Manifest

/-! ## Selected tables -/

namespace SelectionOptions

/-- The entity of a selected table is an identifier, whether it is given or derived. -/
theorem isIdentifier_of_targetOf
    {table : Text}
    {entity : Option Text}
    {target : Target}
    (selected : targetOf table entity = .ok target) :
    isIdentifier target.entity = true := by
  rw [targetOf] at selected
  split at selected
  next named =>
    cases selected
    exact named
  · cases selected

theorem isIdentifier_of_targetsOf
    {tables entities : List Text}
    {targets : List Target}
    (selected : targetsOf tables entities = .ok targets) :
    ∀ target ∈ targets, isIdentifier target.entity = true := by
  induction tables generalizing entities targets with
  | nil =>
    cases selected
    exact fun target isMember => nomatch isMember
  | cons table tables hypothesis =>
    rw [targetsOf] at selected
    cases first : targetOf table entities.head? with
    | error error =>
      rw [first] at selected
      cases selected
    | ok target =>
      rw [first] at selected
      cases rest : targetsOf tables entities.tail with
      | error error =>
        rw [rest] at selected
        cases selected
      | ok others =>
        rw [rest] at selected
        cases selected
        exact List.forall_mem_cons.mpr ⟨isIdentifier_of_targetOf first, hypothesis rest⟩

/-- Without a selected table the targets are the default ones. -/
theorem targets_eq_defaults
    {options : SelectionOptions}
    {defaults targets : List Target}
    (unselected : options.tables = [])
    (selected : options.targets defaults = .ok targets) :
    targets = defaults := by
  rw [SelectionOptions.targets, unselected] at selected
  simp only [List.isEmpty_nil, if_true] at selected
  split at selected
  · exact (Except.ok.inj selected).symm
  · cases selected

/-- With a selected table the entities are identifiers. -/
theorem isIdentifier_of_selected
    {options : SelectionOptions}
    {defaults targets : List Target}
    (given : options.tables ≠ [])
    (selected : options.targets defaults = .ok targets) :
    ∀ target ∈ targets, isIdentifier target.entity = true := by
  rw [SelectionOptions.targets, if_neg (mt List.isEmpty_iff.mp given)] at selected
  split at selected
  · cases selected
  · exact isIdentifier_of_targetsOf selected

end SelectionOptions

/-! ## Targets -/

/--
The targets of an accepted manifest and a selection have identifiers for entities exactly when
tables are selected by options, or every listed table without an entity has a name that gives one.
-/
theorem entities_are_identifiers_iff
    {fileName source : Text}
    {manifest : Manifest}
    (accepted : Manifest.parse fileName source = .ok manifest)
    {options : SelectionOptions}
    {targets : List Target}
    (selected : options.targets manifest.targets = .ok targets) :
    (∀ target ∈ targets, isIdentifier target.entity = true) ↔
      options.tables ≠ [] ∨
        ∀ table ∈ manifest.tables,
          table.entity = none → isIdentifier (pascalCase table.name) = true := by
  by_cases unselected : options.tables = []
  · rw [SelectionOptions.targets_eq_defaults unselected selected,
      Manifest.targets_named_iff accepted, unselected]
    simp
  · exact iff_of_true (SelectionOptions.isIdentifier_of_selected unselected selected)
      (Or.inl unselected)

/-- The text of a manifest that ends in these entries for tables. -/
def listing (entries : String) : Text :=
  ("[project]\nmigration = \"schema.sql\"\ntemplates = \"templates\"\n" ++ entries).toList

/-- The manifest of such a text. -/
def listingOf (tables : List ListedTable) : Manifest where
  root := Path.of "."
  migration := Path.of "schema.sql"
  templates := Path.of "templates"
  directories := ByCategory.constant none
  skipped := ByCategory.constant false
  overwrites := true
  strict := false
  tables := tables

/-- A table that is listed under its qualified name, without an entity, is accepted and gives an
entity with a dot in it. -/
theorem qualified_table_has_no_identifier :
    Manifest.parse Manifest.fileName (listing "[[tables]]\nname = \"public.users\"\n") =
        .ok (listingOf [⟨"public.users".toList, none⟩]) ∧
      SelectionOptions.targets ⟨[], []⟩ (listingOf [⟨"public.users".toList, none⟩]).targets =
        .ok [⟨"public.users".toList, "Public.users".toList⟩] ∧
      isIdentifier "Public.users".toList = false := by
  decide +kernel

/-- A table without an entity, and one that is listed under its qualified name with an entity. -/
def ordersAndUsers : Manifest :=
  listingOf [⟨"order_items".toList, none⟩, ⟨"public.users".toList, some "User".toList⟩]

/-- The text of that manifest. -/
def ordersAndUsersText : Text :=
  listing
    ("[[tables]]\nname = \"order_items\"\n" ++
      "[[tables]]\nname = \"public.users\"\nentity = \"User\"\n")

theorem qualified_table_with_entity :
    Manifest.parse Manifest.fileName ordersAndUsersText = .ok ordersAndUsers ∧
      SelectionOptions.targets ⟨[], []⟩ ordersAndUsers.targets =
        .ok
          [⟨"order_items".toList, "OrderItems".toList⟩, ⟨"public.users".toList, "User".toList⟩] ∧
      isIdentifier "OrderItems".toList = true ∧
      isIdentifier "User".toList = true := by
  have accepted :
      Manifest.parse Manifest.fileName ordersAndUsersText = .ok ordersAndUsers := by
    decide +kernel
  have selected :
      SelectionOptions.targets ⟨[], []⟩ ordersAndUsers.targets =
        .ok
          [⟨"order_items".toList, "OrderItems".toList⟩,
            ⟨"public.users".toList, "User".toList⟩] := by
    decide +kernel
  have derived :
      ∀ table ∈ ordersAndUsers.tables,
        table.entity = none → isIdentifier (pascalCase table.name) = true := by
    decide +kernel
  have named := (entities_are_identifiers_iff accepted selected).mpr (Or.inr derived)
  exact ⟨accepted, selected, named _ List.mem_cons_self, named _ (List.mem_of_getLast? rfl)⟩

end Scaffold
