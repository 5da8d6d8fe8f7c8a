import GridFilter.Proofs.Condition.Step
import GridFilter.Proofs.Digest.Digits
import GridFilter.Proofs.Grid.Labels

/-!
# An id names one condition

A column filter gives its conditions out by their ids, so it matters that no two of them have the
same.  `ColumnFilter.distinct_run` says that this holds whatever is done to a filter: however often
it reads an expression, and whatever repetitions the expression has, and whatever conditions are
added, removed, cleared and edited in between.

The digest plays no part in it.  `ColumnFilter.Step` has the function that ids are made by as a
parameter, and all that is asked of it is that its answers have sixteen characters, which those of
the digest have (`Digest.length_hex16`); it may give every criterion the same.  What tells the
conditions apart is the number behind a label that was given before (`nodup_map_fst_labelled`).
-/

namespace GridFilter.ColumnFilter

open Relation (ReflTransGen)

variable {hash : List UInt8 → String} {settings : FilterSettings} {filter next : ColumnFilter}

/-- The ids of a filter's conditions, in order. -/
def ids (filter : ColumnFilter) : List String :=
  filter.conditions.map Condition.id

/-! ## Operations -/

/-- The column's conditions as an expression gives them, when ids are made by `hash`. -/
def hydrated (hash : List UInt8 → String) (settings : FilterSettings) (column : Column)
    (expression : FilterExpression) (first : Nat) : ColumnFilter where
  column := column
  conditions :=
    ((labelled (fun criterion => hash (criterion.idBytes column.name))
      (column.criteria settings expression)).zipIdx first).map
      fun ((id, criterion), handle) => Condition.hydrated handle id column criterion

/-- The ids of the library are made by the digest. -/
lemma ofExpression_eq_hydrated (settings : FilterSettings) (column : Column)
    (expression : FilterExpression) (first : Nat) :
    ofExpression settings column expression first =
      hydrated Digest.hex16 settings column expression first := rfl

/-- One operation on a filter whose ids are made by `hash`. -/
inductive Step (hash : List UInt8 → String) (settings : FilterSettings) (filter : ColumnFilter) :
    ColumnFilter → Prop where
  /-- The conditions are made anew from an expression. -/
  | rebuild (expression : FilterExpression) (first : Nat) :
      Step hash settings filter (hydrated hash settings filter.column expression first)
  /-- A condition is added under an id that is not in use. -/
  | add (handle : Nat) (id : String) (hnew : id ∉ filter.ids) :
      Step hash settings filter (filter.add (Condition.fresh handle id filter.column))
  | remove (id : String) : Step hash settings filter (filter.remove id)
  | clear : Step hash settings filter filter.clear
  /-- Conditions are edited, read and loaded. -/
  | edit (change : Condition → Condition)
      (hchange : ∀ condition, ReflTransGen Condition.Step condition (change condition)) :
      Step hash settings filter { filter with conditions := filter.conditions.map change }

/-! ## No id twice -/

lemma ids_hydrated (hash : List UInt8 → String) (settings : FilterSettings) (column : Column)
    (expression : FilterExpression) (first : Nat) :
    (hydrated hash settings column expression first).ids =
      (labelled (fun criterion => hash (Criterion.idBytes column.name criterion))
        (column.criteria settings expression)).map Prod.fst := by
  have hids : ∀ items : List (String × Criterion),
      ((items.zipIdx first).map fun item =>
        Condition.hydrated item.2 item.1.1 column item.1.2).map Condition.id =
          items.map Prod.fst := by
    intro items
    have hitems := congrArg (List.map Prod.fst) (List.zipIdx_map_fst first items)
    rwa [List.map_map] at hitems ⊢
  exact hids _

lemma ids_remove_sublist (filter : ColumnFilter) (id : String) :
    (filter.remove id).ids.Sublist filter.ids :=
  List.eraseP_sublist.map Condition.id

/-- Every operation leaves the ids different. -/
lemma Step.nodup_ids (h : Step hash settings filter next)
    (hhash : ∀ bytes, (hash bytes).length = 16) (hnodup : filter.ids.Nodup) : next.ids.Nodup := by
  cases h with
  | rebuild expression first =>
      rw [ids_hydrated]
      exact nodup_map_fst_labelled _ (fun criterion => hhash _) _
  | add handle id hnew =>
      have hids : (filter.add (Condition.fresh handle id filter.column)).ids = filter.ids ++ [id] :=
        List.map_append
      rw [hids, List.nodup_append]
      refine ⟨hnodup, List.nodup_singleton id, ?_⟩
      rintro used hused _ hother rfl
      exact hnew (List.mem_singleton.mp hother ▸ hused)
  | remove id => exact hnodup.sublist (ids_remove_sublist filter id)
  | clear => exact List.nodup_nil
  | edit change hchange =>
      have hids : (filter.conditions.map change).map Condition.id = filter.ids := by
        rw [List.map_map]
        exact List.map_congr_left fun condition _ =>
          (Condition.identity_of_steps (hchange condition)).id
      rw [ids, hids]
      exact hnodup

lemma nodup_ids_run (hhash : ∀ bytes, (hash bytes).length = 16)
    (hrun : ReflTransGen (Step hash settings) filter next) (hnodup : filter.ids.Nodup) :
    next.ids.Nodup := by
  induction hrun with
  | refl => exact hnodup
  | tail _ hstep ih => exact hstep.nodup_ids hhash ih

/-! ## What an id finds and removes -/

lemma of_condition?_eq_some {id : String} {condition : Condition}
    (h : filter.condition? id = some condition) :
    condition ∈ filter.conditions ∧ condition.id = id := by
  have hid : (condition.id == id) = true := by simpa only using List.find?_some h
  exact ⟨List.mem_of_find?_eq_some h, beq_iff_eq.mp hid⟩

/-- When no id is there twice, an id finds the condition that has it. -/
lemma condition?_eq_some_iff (hnodup : filter.ids.Nodup) {id : String} {condition : Condition} :
    filter.condition? id = some condition ↔ condition ∈ filter.conditions ∧ condition.id = id := by
  constructor
  · exact of_condition?_eq_some
  · rintro ⟨hmem, rfl⟩
    obtain ⟨found, hfound⟩ : ∃ found, filter.condition? condition.id = some found := by
      rw [← Option.isSome_iff_exists, condition?, List.find?_isSome]
      exact ⟨condition, hmem, beq_self_eq_true _⟩
    obtain ⟨hfoundMem, hid⟩ := of_condition?_eq_some hfound
    rw [hfound, List.inj_on_of_nodup_map hnodup hfoundMem hmem hid]

/-- When no id is there twice, removing the id of a condition takes out that condition alone. -/
lemma conditions_remove (hnodup : filter.ids.Nodup) {before after : List Condition}
    {condition : Condition} (hconditions : filter.conditions = before ++ condition :: after) :
    (filter.remove condition.id).conditions = before ++ after := by
  have hbefore : ∀ other ∈ before, ¬(other.id == condition.id) = true := by
    intro other hmem hsame
    rw [ids, hconditions, List.map_append, List.nodup_append] at hnodup
    exact hnodup.2.2 other.id (List.mem_map_of_mem hmem) condition.id
      (List.mem_map_of_mem List.mem_cons_self) (beq_iff_eq.mp hsame)
  show filter.conditions.eraseP _ = _
  rw [hconditions, List.eraseP_append_right _ hbefore, List.eraseP_cons, beq_self_eq_true]
  rfl

/-- Whatever was done to a column filter, its conditions have different ids, so that an id finds the
one condition that has it, and removing an id takes out that condition and leaves the others in
order. -/
theorem distinct_run (hhash : ∀ bytes, (hash bytes).length = 16) {column : Column}
    (hrun : ReflTransGen (Step hash settings) { column := column } filter) :
    filter.ids.Nodup ∧
      (∀ id condition, filter.condition? id = some condition ↔
        condition ∈ filter.conditions ∧ condition.id = id) ∧
      ∀ before condition after, filter.conditions = before ++ condition :: after →
        (filter.remove condition.id).conditions = before ++ after := by
  have hnodup : filter.ids.Nodup := nodup_ids_run hhash hrun List.nodup_nil
  refine ⟨hnodup, fun id condition => condition?_eq_some_iff hnodup, ?_⟩
  intro before condition after hconditions
  exact conditions_remove hnodup hconditions

/-- Ids are different though they are all made alike, and also when they are made by the digest of
entries that repeat each other. -/
theorem distinct_run_collisions :
    let name : Column := ⟨"name", .text, {}⟩
    let alike : List UInt8 → String := fun _ => "0123456789abcdef"
    let report : FilterExpression :=
      { conditions := [⟨"name", none, .equal, .scalar "a"⟩, ⟨"name", none, .equal, .scalar "b"⟩,
          ⟨"name", none, .like, .scalar "%a%"⟩] }
    let again : FilterExpression :=
      { conditions := [⟨"name", none, .equal, .scalar "a"⟩, ⟨"name", none, .equal, .scalar "a"⟩] }
    let filter := ((hydrated alike {} name report 0).add (.fresh 3 "new" name)).remove
      "0123456789abcdef-1"
    (∀ bytes, (alike bytes).length = 16) ∧ ReflTransGen (Step alike {}) { column := name } filter ∧
      filter.ids = ["0123456789abcdef", "0123456789abcdef-2", "new"] ∧ filter.ids.Nodup ∧
      filter.condition? "new" = some (.fresh 3 "new" name) ∧
      (ofExpression {} name again 4).ids.Nodup := by
  intro name alike report again filter
  have hlength : ∀ bytes, (alike bytes).length = 16 := by
    intro bytes
    show "0123456789abcdef".length = 16
    decide
  have hrun : ReflTransGen (Step alike {}) { column := name } filter := by
    refine .tail (.tail (.tail .refl (.rebuild report 0)) (.add 3 "new" ?_)) (.remove _)
    decide +kernel
  obtain ⟨hnodup, hfinds, -⟩ := distinct_run hlength hrun
  have hagain := distinct_run Digest.length_hex16
    (.tail .refl (.rebuild again 4) : ReflTransGen (Step Digest.hex16 {}) { column := name } _)
  refine ⟨hlength, hrun, by decide +kernel, hnodup, ?_, hagain.1⟩
  refine (hfinds "new" (.fresh 3 "new" name)).mpr ⟨?_, rfl⟩
  refine (List.mem_eraseP_of_neg (by decide)).mpr ?_
  exact List.mem_append_right _ (List.mem_singleton_self _)

end GridFilter.ColumnFilter
