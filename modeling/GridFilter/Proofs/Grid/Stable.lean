import GridFilter.Proofs.Criterion.Display
import GridFilter.Proofs.Grid.Distinct

/-!
# Ids that stay

The id of a condition that is read from an expression is made of its criterion, so one would expect
it to be the same in every expression that has the criterion once.  It is not.  The bytes of an id
tell a criterion only up to the display of its value, and a criterion that looks like one before it
is given a number (`ColumnFilter.id_moves`).

`ColumnFilter.id_eq_iff` says what holds: the id is the same in two expressions exactly if in both
the same number of criteria that look like the criterion stand before it.  Where the values are
plain none does, and the id stays.

That the digest is free of collisions is asked for the criteria that the column reads from the two
expressions only.  It could not be asked for all, because there are more criteria than digests.
-/

namespace GridFilter

variable {settings : FilterSettings} {column : Column} {expression other : FilterExpression}
  {criterion : Criterion}

/-- How many of the criteria that a column reads before a given one look like it. -/
def Column.lookalikesBefore (column : Column) (settings : FilterSettings)
    (expression : FilterExpression) (criterion : Criterion) : Nat :=
  ((column.criteria settings expression).takeWhile fun earlier => earlier ≠ criterion).countP
    fun earlier => earlier.LooksLike criterion

/-- Of the criteria that a column reads from an expression, only those that look like the given one
have the digest of its id. -/
def Column.ClearDigest (column : Column) (settings : FilterSettings)
    (expression : FilterExpression) (criterion : Criterion) : Prop :=
  ∀ earlier ∈ column.criteria settings expression,
    earlier.id column.name = criterion.id column.name →
      earlier.idBytes column.name = criterion.idBytes column.name

instance : Decidable (column.ClearDigest settings expression criterion) :=
  inferInstanceAs (Decidable (∀ earlier ∈ column.criteria settings expression, _ → _))

/-- A criterion that is read once has criteria before it and behind it that are others. -/
lemma exists_append_of_count_eq_one {criteria : List Criterion} (h : criteria.count criterion = 1) :
    ∃ before after, criteria = before ++ criterion :: after ∧ criterion ∉ before ∧
      criterion ∉ after ∧ criteria.takeWhile (fun earlier => earlier ≠ criterion) = before := by
  have hmem : criterion ∈ criteria := List.count_pos_iff.mp (by omega)
  obtain ⟨before, after, rfl, hbefore⟩ := List.eq_append_cons_of_mem hmem
  refine ⟨before, after, rfl, hbefore, ?_, ?_⟩
  · rw [List.count_append, List.count_cons_self] at h
    exact List.count_eq_zero.mp (by omega)
  · rw [List.takeWhile_append_of_pos]
    · simp
    · intro earlier hearlier
      exact decide_eq_true (ne_of_mem_of_not_mem hearlier hbefore)

namespace ColumnFilter

/-- The condition of a criterion that a column reads once, and its id. -/
lemma exists_condition_of_count_eq_one
    (hone : (column.criteria settings expression).count criterion = 1)
    (hclear : column.ClearDigest settings expression criterion) (first : Nat) :
    ∃ condition, (ofExpression settings column expression first).conditions.filter
          (fun condition => condition.criterion = criterion) = [condition] ∧
      condition.id = numbered (criterion.id column.name)
        (column.lookalikesBefore settings expression criterion) := by
  obtain ⟨before, after, hcriteria, hbefore, hafter, htake⟩ := exists_append_of_count_eq_one hone
  have hsame : (ofExpression settings column expression first).criteria =
      column.criteria settings expression := criteria_ofExpression expression first
  rw [ColumnFilter.criteria, hcriteria] at hsame
  obtain ⟨earlier, rest, hconditions, hearlier, hrest⟩ := List.map_eq_append_iff.mp hsame
  obtain ⟨condition, later, rfl, hcondition, hlater⟩ := List.map_eq_cons_iff.mp hrest
  refine ⟨condition, ?_, ?_⟩
  · have hnone : ∀ conditions : List Condition, criterion ∉ conditions.map Condition.criterion →
        conditions.filter (fun condition => condition.criterion = criterion) = [] := by
      intro conditions hnot
      refine List.filter_eq_nil_iff.mpr fun found hfound hcriterion => hnot ?_
      exact List.mem_map.mpr ⟨found, hfound, of_decide_eq_true hcriterion⟩
    rw [hconditions, List.filter_append, List.filter_cons, if_pos (decide_eq_true hcondition),
      hnone earlier (hearlier ▸ hbefore), hnone later (hlater ▸ hafter), List.nil_append]
  · -- The ids stand in the order of the criteria.
    have hids := ids_hydrated Digest.hex16 settings column expression first
    obtain ⟨given, hgiven⟩ := labelled_append_cons (Criterion.id column.name) before criterion after
    rw [← ofExpression_eq_hydrated, ids, hconditions, hcriteria] at hids
    change _ = (labelled (Criterion.id column.name) (before ++ criterion :: after)).map _ at hids
    rw [hgiven, List.map_append, List.map_append, List.map_cons, List.map_cons] at hids
    have hlength : (earlier.map Condition.id).length =
        ((labelled (Criterion.id column.name) before).map Prod.fst).length := by
      have hlabels := congrArg List.length (map_snd_labelled (Criterion.id column.name) before)
      rw [List.length_map] at hlabels
      rw [List.length_map, List.length_map, hlabels, ← hearlier, List.length_map]
    obtain ⟨-, hid⟩ := List.append_inj hids hlength
    rw [(List.cons.inj hid).1, Column.lookalikesBefore, htake]
    -- The digests that coincide are those of the criteria that look like the given one.
    refine congrArg (numbered _) ?_
    rw [List.count, List.countP_map]
    refine List.countP_congr fun found hfound => ?_
    rw [Function.comp_apply, beq_iff_eq, decide_eq_true_iff, ← Criterion.idBytes_eq_iff]
    constructor
    · refine hclear found ?_
      rw [hcriteria]
      exact List.mem_append_left _ hfound
    · intro hbytes
      rw [Criterion.id, hbytes, Criterion.id]

/-- Among plain values nothing looks like a criterion but itself. -/
lemma lookalikesBefore_eq_zero
    (hone : (column.criteria settings expression).count criterion = 1)
    (hplain : ∀ found ∈ column.criteria settings expression,
      found.operator = criterion.operator → found.wire.Plain) :
    column.lookalikesBefore settings expression criterion = 0 := by
  obtain ⟨before, after, hcriteria, hbefore, -, htake⟩ := exists_append_of_count_eq_one hone
  rw [Column.lookalikesBefore, htake, List.countP_eq_zero]
  intro found hfound hlooks
  rw [decide_eq_true_iff] at hlooks
  rw [hcriteria] at hplain
  have hsame := hlooks.eq (hplain found (List.mem_append_left _ hfound) hlooks.operator)
    (hplain criterion (by simp) rfl)
  exact hbefore (hsame ▸ hfound)

/-- A criterion that a column reads once from each of two expressions has one condition in each, and
the two have the same id exactly if in both expressions the same number of criteria that look like
it stand before it; so they have it when the values under its operator are plain. -/
theorem id_eq_iff (hone : (column.criteria settings expression).count criterion = 1)
    (hagain : (column.criteria settings other).count criterion = 1)
    (hclear : column.ClearDigest settings expression criterion)
    (hclearAgain : column.ClearDigest settings other criterion) (first next : Nat) :
    ∃ condition again,
      (ofExpression settings column expression first).conditions.filter
          (fun condition => condition.criterion = criterion) = [condition] ∧
        (ofExpression settings column other next).conditions.filter
          (fun condition => condition.criterion = criterion) = [again] ∧
        (condition.id = again.id ↔
          column.lookalikesBefore settings expression criterion =
            column.lookalikesBefore settings other criterion) ∧
        ((∀ found ∈ column.criteria settings expression ++ column.criteria settings other,
            found.operator = criterion.operator → found.wire.Plain) →
          condition.id = again.id) := by
  obtain ⟨condition, hcondition, hid⟩ := exists_condition_of_count_eq_one hone hclear first
  obtain ⟨again, hfound, hagainId⟩ := exists_condition_of_count_eq_one hagain hclearAgain next
  refine ⟨condition, again, hcondition, hfound, ⟨?_, ?_⟩, ?_⟩
  · intro hsame
    rw [hid, hagainId] at hsame
    exact (numbered_inj rfl hsame).2
  · intro hcount
    rw [hid, hagainId, hcount]
  · intro hplain
    rw [hid, hagainId,
      lookalikesBefore_eq_zero hone fun found hmem => hplain found (List.mem_append_left _ hmem),
      lookalikesBefore_eq_zero hagain fun found hmem => hplain found (List.mem_append_right _ hmem)]

/-- A condition keeps its id though others stand before it, with the value under another operator,
without a value, and with the value in a list. -/
theorem id_eq_iff_others :
    let name : Column := ⟨"name", .text, {}⟩
    let criterion : Criterion := ⟨.equal, .scalar "Ada"⟩
    let expression : FilterExpression := { conditions := [⟨"name", none, .equal, .scalar "Ada"⟩] }
    let other : FilterExpression :=
      { conditions := [⟨"name", none, .doesNotEqual, .scalar "Ada"⟩, ⟨"name", none, .equal, .null⟩,
          ⟨"name", none, .equal, .list [some "Ada"]⟩, ⟨"name", none, .equal, .scalar "Ada"⟩] }
    (name.criteria {} expression).count criterion = 1 ∧
      (name.criteria {} other).count criterion = 1 ∧
      name.ClearDigest {} expression criterion ∧ name.ClearDigest {} other criterion ∧
      (∀ found ∈ name.criteria {} expression ++ name.criteria {} other, found.wire.Plain) ∧
      ∃ condition again,
        (ofExpression {} name expression 0).conditions.filter
            (fun condition => condition.criterion = criterion) = [condition] ∧
          (ofExpression {} name other 1).conditions.filter
            (fun condition => condition.criterion = criterion) = [again] ∧
          condition.id = again.id := by
  intro name criterion expression other
  have hone : (name.criteria {} expression).count criterion = 1 := by decide +kernel
  have hagain : (name.criteria {} other).count criterion = 1 := by decide +kernel
  have hclear : name.ClearDigest {} expression criterion := by decide +kernel
  have hclearAgain : name.ClearDigest {} other criterion := by decide +kernel
  have hplain : ∀ found ∈ name.criteria {} expression ++ name.criteria {} other,
      found.wire.Plain := by decide +kernel
  obtain ⟨condition, again, hcondition, hfound, -, hsame⟩ :=
    id_eq_iff hone hagain hclear hclearAgain 0 1
  exact ⟨hone, hagain, hclear, hclearAgain, hplain, condition, again, hcondition, hfound,
    hsame fun found hmem _ => hplain found hmem⟩

/-- The id of the condition of a value moves when a condition without a value stands before it,
which looks like the text `null`; the digest has no part in it. -/
theorem id_moves :
    let name : Column := ⟨"name", .text, {}⟩
    let criterion : Criterion := ⟨.equal, .scalar "null"⟩
    let expression : FilterExpression := { conditions := [⟨"name", none, .equal, .scalar "null"⟩] }
    let other : FilterExpression :=
      { conditions := [⟨"name", none, .equal, .null⟩, ⟨"name", none, .equal, .scalar "null"⟩] }
    let idsOf : FilterExpression → List String := fun expression =>
      ((ofExpression {} name expression 0).conditions.filter
        fun condition => condition.criterion = criterion).map Condition.id
    (name.criteria {} expression).count criterion = 1 ∧
      (name.criteria {} other).count criterion = 1 ∧
      name.ClearDigest {} expression criterion ∧ name.ClearDigest {} other criterion ∧
      idsOf expression = ["405fc8be2984b26a"] ∧ idsOf other = ["405fc8be2984b26a-1"] := by
  intro name criterion expression other idsOf
  refine ⟨?_, ?_, ?_, ?_, ?_, ?_⟩ <;> decide +kernel

end ColumnFilter

end GridFilter
