import ColumnStore.Proofs.Column.Spelling
import ColumnStore.Proofs.Table.Removal
import ColumnStore.Proofs.Text.Fold

/-!
# Any spelling of a column will do

A call looks its names up by their folds. So two calls with the same folds find the same columns and
check the same things in the same order, and what is left of a difference is the spelling of a name
that a fault tells or that a column is given.
-/

namespace ColumnStore

open Text (SameName)

namespace Table

variable {t : Table} {name name' : String} {names names' : List String}

theorem position_respelled (t : Table) (same : SameName name name') :
    SameUpToSpelling Eq (t.position name) (t.position name') := by
  rw [position, position, position?_of_fold same]
  cases t.position? name' with
  | some i => exact .answered rfl
  | none =>
    refine .refused ?_
    simp only [Fault.folded, same.folded_eq]

theorem column_respelled (t : Table) (same : SameName name name') :
    SameUpToSpelling Eq (t.column name) (t.column name') := by
  have found : t.column? name = t.column? name' := by
    rw [column?_eq, column?_eq, position?_of_fold same]
  rw [column, column, found]
  cases t.column? name' with
  | some c => exact .answered rfl
  | none =>
    refine .refused ?_
    simp only [Fault.folded, same.folded_eq]

theorem checkName_respelled (same : SameName name name') :
    SameUpToSpelling Eq (checkName .column name) (checkName .column name') := by
  rw [checkName, checkName, Text.isValidName_of_fold same]
  split
  · exact .answered rfl
  · refine .refused ?_
    simp only [Fault.folded, same.folded_eq]

theorem positions_respelled (t : Table) (spelled : List.Forall₂ SameName names names') :
    SameUpToSpelling Eq (names.mapM t.position) (names'.mapM t.position) :=
  .mapM_eq spelled fun _ _ same => t.position_respelled same

theorem columnMismatch_respelled (t : Table) (spelled : List.Forall₂ SameName names names') :
    (Fault.columnMismatch t.name t.columnNames names).folded =
      (Fault.columnMismatch t.name t.columnNames names').folded := by
  simp only [Fault.folded, map_folded_eq spelled]

/-! ## Rows -/

variable {given given' : List String} {literals : List Literal} {assigned : List (Nat × Literal)}
  {α : Type}

theorem all_isNamed_respelled (columns : List Column) (spelled : List.Forall₂ SameName names names') :
    ((columns.zip names).all fun (c, name) => c.definition.isNamed name) =
      (columns.zip names').all fun (c, name) => c.definition.isNamed name := by
  induction spelled generalizing columns with
  | nil => rfl
  | @cons name name' _ _ same _ ih =>
    cases columns with
    | nil => rfl
    | cons c columns =>
      have first : c.definition.isNamed name = c.definition.isNamed name' :=
        Column.Definition.Respelled.isNamed ⟨rfl, rfl, rfl⟩ same
      simp only [List.zip_cons_cons, List.all_cons, ih, first]

/-- Two outcomes with the same answer up to spelling and the same state but for the given pairs. -/
def Parallel (pairs : List (String × String)) (o o' : Outcome Fault Table α) : Prop :=
  SameUpToSpelling Eq o.answer o'.answer ∧ o.state.DiffersIn pairs o'.state

variable {pairs : List (String × String)} {o o' : Outcome Fault Table Unit}

theorem DiffersIn.refl (pairs : List (String × String)) (t : Table) : t.DiffersIn pairs t where
  name := rfl
  rowCount := rfl
  columns := List.forall₂_same.mpr fun _ _ => .inl rfl

/-- A name that is introduced with one spelling makes no difference. -/
theorem DiffersIn.eq {t' : Table} (h : t.DiffersIn (names.zip names) t') : t = t' := by
  have same : t.columns = t'.columns := by
    rw [← List.forall₂_eq_eq_eq]
    refine h.columns.imp fun c c' related => ?_
    rcases related with rfl | ⟨pair, member, bears, rfl⟩
    · rfl
    · have equal : pair.1 = pair.2 := by
        obtain ⟨i, inside, rfl⟩ := List.mem_iff_getElem.mp member
        rw [List.getElem_zip]
      rw [← equal, ← bears]
      rfl
  cases t
  cases t'
  simpa using ⟨h.name, same, h.rowCount⟩

theorem Parallel.refl (pairs : List (String × String)) (o : Outcome Fault Table α) :
    Parallel pairs o o :=
  ⟨.refl _, .refl pairs _⟩

theorem Parallel.refused {e e' : Fault} (same : e.folded = e'.folded) :
    Parallel pairs (⟨.error e, t⟩ : Outcome Fault Table α) ⟨.error e', t⟩ :=
  ⟨.refused same, .refl pairs t⟩

theorem Parallel.done (h : Parallel pairs o o') :
    Parallel pairs (Call.perform.done o) (Call.perform.done o') :=
  ⟨h.1.map fun _ _ _ => rfl, h.2⟩

theorem parallel_commit {made made' : Except Fault Table}
    (h : SameUpToSpelling (DiffersIn pairs) made made') :
    Parallel pairs (.commit t made) (.commit t made') := by
  cases h with
  | answered related => exact ⟨.answered rfl, related⟩
  | refused same => exact .refused same

/-- What is made by looking names up alone is the same. -/
theorem parallel_commit_eq {made made' : Except Fault Table} (h : SameUpToSpelling Eq made made') :
    Parallel pairs (.commit t made) (.commit t made') :=
  parallel_commit (h.imp fun t _ same => same ▸ .refl pairs t)

theorem insertRow_respelled (t : Table) (literals : List Literal)
    (spelled : List.Forall₂ SameName names names') :
    Parallel pairs (t.insertRow names literals) (t.insertRow names' literals) := by
  simp only [insertRow, all_isNamed_respelled t.columns spelled, spelled.length_eq]
  split
  · exact .refl _ _
  · split
    · exact .refused (columnMismatch_respelled t spelled)
    · exact .refl _ _

theorem assign_respelled (t : Table) (spelled : List.Forall₂ SameName names names')
    (rest : List.Forall₂ SameName given given') :
    SameUpToSpelling Eq (t.assign names assigned (given.zip literals))
      (t.assign names' assigned (given'.zip literals)) := by
  induction rest generalizing literals assigned with
  | nil => exact .answered rfl
  | cons same _ ih =>
    cases literals with
    | nil => exact .answered rfl
    | cons literal literals =>
      rw [List.zip_cons_cons, List.zip_cons_cons, assign_cons, assign_cons]
      refine (t.position_respelled same).bind fun i _ found => ?_
      subst found
      exact .guard (columnMismatch_respelled t spelled) fun _ => ih

theorem insert_respelled (t : Table) (literals : List Literal)
    (spelled : List.Forall₂ SameName names names') :
    Parallel pairs (t.insert names literals) (t.insert names' literals) := by
  rw [insert, insert, spelled.length_eq]
  split
  · exact .refl _ _
  · have assigning : SameUpToSpelling Eq (t.assign names [] (names.zip literals))
        (t.assign names' [] (names'.zip literals)) := t.assign_respelled spelled spelled
    generalize t.assign names [] (names.zip literals) = x at assigning ⊢
    generalize t.assign names' [] (names'.zip literals) = y at assigning ⊢
    cases assigning with
    | answered same => exact same ▸ .refl _ _
    | refused same => exact .refused same

/-! ## New columns -/

variable {new new' taken taken' definitions definitions' : List Column.Definition}

theorem any_isNamed_respelled (spelled : List.Forall₂ Column.Definition.Respelled taken taken')
    (same : SameName name name') :
    taken.any (·.isNamed name) = taken'.any (·.isNamed name') := by
  induction spelled with
  | nil => rfl
  | cons first _ ih => simp only [List.any_cons, first.isNamed same, ih]

theorem checkEach_respelled (joined : List.Forall₂ Column.Definition.Respelled taken taken')
    (spelled : List.Forall₂ Column.Definition.Respelled new new') :
    SameUpToSpelling Eq (checkEach taken new) (checkEach taken' new') := by
  induction spelled generalizing taken taken' with
  | nil => exact .answered rfl
  | @cons d d' _ _ first _ ih =>
    have clash : (Fault.alreadyExists .column d.name).folded =
        (Fault.alreadyExists .column d'.name).folded := by
      simp only [Fault.folded, first.name.folded_eq]
    have later := ih (List.rel_append joined (.cons first .nil))
    rw [checkEach, checkEach]
    refine (checkName_respelled first.name).bind fun _ _ _ => ?_
    rw [← first.type]
    refine (SameUpToSpelling.refl d.type.check).bind fun _ _ _ => ?_
    rw [any_isNamed_respelled joined first.name, ← first.default]
    cases d.default with
    | none => exact .guard clash fun _ => later
    | some value => exact (first.check value).bind fun _ _ _ => .guard clash fun _ => later

theorem checkNewColumns_respelled (existing : List Column.Definition) (table : String)
    (spelled : List.Forall₂ Column.Definition.Respelled new new') :
    SameUpToSpelling Eq (checkNewColumns existing new table)
      (checkNewColumns existing new' table) := by
  have kept : List.Forall₂ Column.Definition.Respelled existing existing :=
    List.forall₂_same.mpr fun _ _ => ⟨rfl, rfl, rfl⟩
  cases spelled with
  | nil => exact .refl _
  | cons first others => exact checkEach_respelled kept (.cons first others)

theorem columnWithDefault_respelled {d d' : Column.Definition} (h : d.Respelled d') (count : Nat)
    (literal : Literal) :
    SameUpToSpelling (Column.Twins d.name d'.name) (columnWithDefault count d literal)
      (columnWithDefault count d' literal) := by
  refine (h.convert literal).bind fun value _ same => ?_
  subst same
  have preset : Column.Definition.Respelled { d with default := some value }
      { d' with default := some value } := ⟨h.name, h.type, rfl⟩
  exact Column.filled_respelled preset count value

/-- The names that two lists of definitions have in the same place. -/
def namePairs (new new' : List Column.Definition) : List (String × String) :=
  (new.map (·.name)).zip (new'.map (·.name))

theorem forall₂_namePairs (spelled : List.Forall₂ Column.Definition.Respelled new new') :
    List.Forall₂ (fun d d' => d.Respelled d' ∧ (d.name, d'.name) ∈ namePairs new new') new new' := by
  obtain ⟨length, each⟩ := List.forall₂_iff_zip.mp spelled
  refine List.forall₂_iff_zip.mpr ⟨length, fun {d d'} member => ⟨each member, ?_⟩⟩
  rw [namePairs, List.zip_map]
  exact List.mem_map_of_mem member

theorem forall₂_zip_same {γ δ ε : Type} {P : γ → δ → Prop} {as : List γ} {bs : List δ}
    (paired : List.Forall₂ P as bs) (cs : List ε) :
    List.Forall₂ (fun a b => P a.1 b.1 ∧ a.2 = b.2) (as.zip cs) (bs.zip cs) := by
  induction paired generalizing cs with
  | nil => exact .nil
  | cons first _ ih =>
    cases cs with
    | nil => exact .nil
    | cons c cs => exact .cons ⟨first, rfl⟩ (ih cs)

/-- Columns that are put behind those of a table. -/
theorem differsIn_append {added added' : List Column}
    (twins : List.Forall₂ (fun c c' => ∃ pair ∈ pairs, Column.Twins pair.1 pair.2 c c') added
      added') :
    DiffersIn pairs { t with columns := t.columns ++ added }
      { t with columns := t.columns ++ added' } where
  name := rfl
  rowCount := rfl
  columns := List.rel_append (DiffersIn.refl pairs t).columns (twins.imp fun _ _ => .inr)

theorem addColumns_respelled (t : Table) (defaults : Option (List Literal))
    (spelled : List.Forall₂ Column.Definition.Respelled new new') :
    SameUpToSpelling (DiffersIn (namePairs new new')) (t.addColumns new defaults)
      (t.addColumns new' defaults) := by
  have paired := forall₂_namePairs spelled
  rw [addColumns, addColumns]
  refine (checkNewColumns_respelled t.definitions t.name spelled).bind fun _ _ _ => ?_
  cases defaults with
  | none =>
    refine (SameUpToSpelling.mapM paired fun d d' h => ?_).bind fun _ _ twins =>
      .answered (differsIn_append twins)
    have zero : d.zeroValue = d'.zeroValue := by
      rw [Column.Definition.zeroValue, Column.Definition.zeroValue, h.1.type]
    rw [zero]
    exact (Column.filled_respelled h.1 t.rowCount d'.zeroValue).imp fun _ _ twins =>
      ⟨_, h.2, twins⟩
  | some literals =>
    dsimp only
    rw [spelled.length_eq]
    refine .guard rfl fun _ => ?_
    refine (SameUpToSpelling.mapM (forall₂_zip_same paired literals) ?_).bind fun _ _ twins =>
      .answered (differsIn_append twins)
    rintro ⟨d, literal⟩ ⟨d', _⟩ ⟨h, rfl⟩
    exact (columnWithDefault_respelled h.1 t.rowCount literal).imp fun _ _ twins =>
      ⟨_, h.2, twins⟩

/-! ## Columns that stay, go or change -/

theorem removeColumns_respelled (t : Table) (spelled : List.Forall₂ SameName names names') :
    SameUpToSpelling Eq (t.removeColumns names) (t.removeColumns names') :=
  (t.positions_respelled spelled).bind fun _ _ same => same ▸ .refl _

theorem renameColumn_respelled {old old' new new' : String} (t : Table)
    (spelled : SameName old old') (given : SameName new new') :
    SameUpToSpelling (DiffersIn [(new, new')]) (t.renameColumn old new)
      (t.renameColumn old' new') := by
  refine (t.position_respelled spelled).bind fun i _ same => ?_
  subst same
  refine (checkName_respelled given).bind fun _ _ _ => ?_
  rw [position?_of_fold given]
  refine .guard ?_ fun _ => .answered ⟨rfl, rfl, ?_⟩
  · simp only [Fault.folded, given.folded_eq]
  · refine List.forall₂_iff_get.mpr ⟨by simp, fun j inside _ => ?_⟩
    simp only [List.get_eq_getElem, List.getElem_modify]
    split
    · exact .inr ⟨(new, new'), by simp, rfl, rfl⟩
    · exact .inl rfl

theorem modifiedColumn_respelled {d d' : Column.Definition} (t : Table) (h : d.Respelled d') :
    SameUpToSpelling Eq (t.modifiedColumn d) (t.modifiedColumn d') := by
  rw [modifiedColumn, modifiedColumn, ← h.type]
  refine (SameUpToSpelling.refl d.type.check).bind fun _ _ _ => ?_
  exact (t.column_respelled h.name).bind fun _ _ same => same ▸ .refl _

theorem modifyColumns_respelled (t : Table)
    (spelled : List.Forall₂ Column.Definition.Respelled definitions definitions') :
    SameUpToSpelling Eq (t.modifyColumns definitions) (t.modifyColumns definitions') := by
  have names : List.Forall₂ SameName (definitions.map (·.name)) (definitions'.map (·.name)) := by
    rw [List.forall₂_map_left_iff, List.forall₂_map_right_iff]
    exact spelled.imp fun _ _ h => h.name
  refine (t.positions_respelled names).bind fun targets _ same => ?_
  subst same
  refine .guard (columnMismatch_respelled t names) fun _ => ?_
  refine (SameUpToSpelling.mapM_eq spelled fun _ _ h => t.modifiedColumn_respelled h).bind ?_
  exact fun _ _ same => same ▸ .refl _

theorem setDefault_respelled (t : Table) (literal : Literal) (spelled : SameName name name') :
    SameUpToSpelling Eq (t.setDefault name literal) (t.setDefault name' literal) := by
  refine (t.position_respelled spelled).bind fun i _ same => ?_
  subst same
  refine (t.column_respelled spelled).bind fun c _ same => ?_
  subst same
  refine .guard ?_ fun _ => .refl _
  simp only [Fault.folded, spelled.folded_eq]

theorem dropDefault_respelled (t : Table) (spelled : SameName name name') :
    SameUpToSpelling Eq (t.dropDefault name) (t.dropDefault name') := by
  refine (t.position_respelled spelled).bind fun i _ same => ?_
  subst same
  exact (t.column_respelled spelled).bind fun c _ same => same ▸ .refl _

/-! ## Calls -/

theorem parallel_perform (t : Table) {call call' : Call} (h : call.Respelled call') :
    Parallel (call.introduced.zip call'.introduced) (call.perform t) (call'.perform t) := by
  cases h with
  | same call => exact .refl _ _
  | insertRow literals spelled => exact (t.insertRow_respelled literals spelled).done
  | insert literals spelled => exact (t.insert_respelled literals spelled).done
  | select spelled =>
    have columns := SameUpToSpelling.mapM_eq spelled fun _ _ same => t.column_respelled same
    have results := columns.map fun _ _ same => congrArg t.project same
    exact ⟨results.map fun _ _ same => congrArg some same, .refl _ t⟩
  | addColumns defaults spelled =>
    exact (parallel_commit (t.addColumns_respelled defaults spelled)).done
  | removeColumns spelled => exact (parallel_commit_eq (t.removeColumns_respelled spelled)).done
  | renameColumn spelled given =>
    exact (parallel_commit (t.renameColumn_respelled spelled given)).done
  | modifyColumns spelled => exact (parallel_commit_eq (t.modifyColumns_respelled spelled)).done
  | setDefault literal spelled =>
    exact (parallel_commit_eq (t.setDefault_respelled literal spelled)).done
  | dropDefault spelled => exact (parallel_commit_eq (t.dropDefault_respelled spelled)).done

/-- On any table, two calls that differ in the spelling of columns have the same answer, or are both
refused for one fault that may repeat the spelling. If they give columns the same names they leave
the same table, and else tables that differ in the spelling of the given names alone. -/
theorem spelling_makes_no_difference (t : Table) {call call' : Call} (same : call.Respelled call') :
    let o := call.perform t
    let o' := call'.perform t
    SameUpToSpelling Eq o.answer o'.answer ∧
      (call.introduced = call'.introduced → o.state = o'.state) ∧
      o.state.DiffersIn (call.introduced.zip call'.introduced) o'.state := by
  intro o o'
  obtain ⟨answers, states⟩ := t.parallel_perform same
  refine ⟨answers, fun given => ?_, states⟩
  rw [given] at states
  exact states.eq

/-- A row, a new name and a refusal, under names whose fold is longer than they are. -/
theorem spelling_makes_no_difference_dotted_capital :
    let t := ofDefinitions "items" [⟨"İd", .integer, none⟩, ⟨"Été", .varchar 5, none⟩]
    let insertion := Call.insert ["ÉTÉ", "İD"] [.string "juin", .number 7]
    let insertion' := Call.insert ["été", "i\u0307d"] [.string "juin", .number 7]
    let renamed := Call.renameColumn "İD" "Clé"
    let renamed' := Call.renameColumn "i\u0307D" "CLÉ"
    let doubled := Call.modifyColumns [⟨"İD", .integer, none⟩, ⟨"id", .integer, none⟩]
    let doubled' := Call.modifyColumns [⟨"i\u0307d", .integer, none⟩, ⟨"ID", .integer, none⟩]
    (insertion.Respelled insertion' ∧ renamed.Respelled renamed' ∧ doubled.Respelled doubled') ∧
      (insertion.perform t).state = (insertion'.perform t).state ∧
      (insertion.perform t).answer = .ok none ∧
      (renamed.perform t).state.DiffersIn [("Clé", "CLÉ")] (renamed'.perform t).state ∧
      (renamed'.perform t).state.columnNames = ["CLÉ", "Été"] ∧
      SameUpToSpelling Eq (doubled.perform t).answer (doubled'.perform t).answer ∧
      (doubled'.perform t).answer = .error (.notFound .column "ID") := by
  intro t insertion insertion' renamed renamed' doubled doubled'
  have first : insertion.Respelled insertion' :=
    .insert _ (.cons (by decide +kernel) (.cons (by decide +kernel) .nil))
  have second : renamed.Respelled renamed' :=
    .renameColumn (by decide +kernel) (by decide +kernel)
  have third : doubled.Respelled doubled' :=
    .modifyColumns (.cons ⟨by decide +kernel, rfl, rfl⟩ (.cons ⟨by decide +kernel, rfl, rfl⟩ .nil))
  refine ⟨⟨first, second, third⟩, ?_, by decide +kernel, ?_, by decide +kernel, ?_,
    by decide +kernel⟩
  · exact (spelling_makes_no_difference t first).2.1 rfl
  · exact (spelling_makes_no_difference t second).2.2
  · exact (spelling_makes_no_difference t third).1

end Table

end ColumnStore
