import GridFilter.Proofs.Column.Claims
import GridFilter.Proofs.Session.Accounting

/-!
# Who owns an entry of the dataset

An entry becomes a condition of the columns that claim it.  Were there two of them, the entry would
be sent twice and an editor could change one copy only.  `Grid.Unambiguous` says when that can
happen: with a pattern, between a column with a name shadow and a column without one that is called
like the shadow.  Such a pattern may be meant for either column, and nothing in the entry tells
which.  Every other entry has at most one owner.

That two columns cannot claim one entry otherwise is a fact about names
(`Column.shadow_of_both_claim`).  It needs their names to be different, and this is what a run adds:
a column is opened only once (`Session.Sound`).
-/

namespace GridFilter

namespace Grid

variable {grid : Grid} {entry : ConditionExpression}

/-- The open columns that claim an entry. -/
def claimants (grid : Grid) (entry : ConditionExpression) : List ColumnFilter :=
  grid.filters.filter (·.claims grid.settings entry)

/-- The open columns that read a condition from an entry. -/
def readers (grid : Grid) (entry : ConditionExpression) : List ColumnFilter :=
  grid.filters.filter fun filter => (filter.column.criterion? grid.settings entry).isSome

/-- No entry has two owners, name shadows apart. -/
structure Unambiguous (grid : Grid) : Prop where
  /-- Open columns have different names. -/
  names : (grid.columns.map Column.name).Nodup
  /-- Two open columns claim one entry only with a pattern, and only when one of them has a name
  shadow that the other is called like; the suffix of shadows is then not empty. -/
  shared : grid.filters.Pairwise fun filter other => ∀ entry,
    filter.claims grid.settings entry = true → other.claims grid.settings entry = true →
      entry.operator.isPattern = true ∧ grid.settings.nameSuffix ≠ "" ∧
        (filter.column.ShadowedBy grid.settings other.column ∨
          other.column.ShadowedBy grid.settings filter.column)
  /-- In every other case at most one open column claims the entry and at most one reads it. -/
  single : ∀ entry,
    (entry.operator.isPattern = true → ∀ filter ∈ grid.claimants entry,
      ∀ other ∈ grid.claimants entry, ¬ filter.column.ShadowedBy grid.settings other.column) →
      (grid.claimants entry).length ≤ 1 ∧ (grid.readers entry).length ≤ 1

/-- Columns of different names have a shadow between them only if the suffix is not empty. -/
lemma nameSuffix_ne_empty {settings : FilterSettings} {column other : Column}
    (hne : column.name ≠ other.name) (h : column.ShadowedBy settings other) :
    settings.nameSuffix ≠ "" := by
  intro hempty
  have hname := h.2.2
  rw [hempty, String.append_empty] at hname
  exact hne hname.symm

/-- In an orderly grid, two columns claim one entry only across a name shadow. -/
lemma Orderly.shared (h : grid.Orderly) :
    grid.filters.Pairwise fun filter other => ∀ entry,
      filter.claims grid.settings entry = true → other.claims grid.settings entry = true →
        entry.operator.isPattern = true ∧ grid.settings.nameSuffix ≠ "" ∧
          (filter.column.ShadowedBy grid.settings other.column ∨
            other.column.ShadowedBy grid.settings filter.column) := by
  have hnames : grid.filters.Pairwise fun filter other =>
      filter.column.name ≠ other.column.name := by
    have hnodup := h.names
    unfold List.Nodup at hnodup
    rwa [columns, List.map_map, List.pairwise_map] at hnodup
  refine hnames.imp ?_
  intro filter other hne entry hfilter hother
  obtain ⟨hpattern, hshadow⟩ := Column.shadow_of_both_claim hne hfilter hother
  refine ⟨hpattern, ?_, hshadow⟩
  rcases hshadow with hforth | hback
  · exact nameSuffix_ne_empty hne hforth
  · exact nameSuffix_ne_empty hne.symm hback

/-- What a column reads it claims. -/
lemma length_readers_le (grid : Grid) (entry : ConditionExpression) :
    (grid.readers entry).length ≤ (grid.claimants entry).length := by
  unfold readers claimants
  rw [← List.countP_eq_length_filter, ← List.countP_eq_length_filter]
  apply List.countP_mono_left
  intro filter _ hreads
  obtain ⟨criterion, hcriterion⟩ := Option.isSome_iff_exists.mp hreads
  exact (Column.criterion?_eq_some_iff.mp hcriterion).1

/-- An orderly grid is unambiguous. -/
lemma Orderly.unambiguous (h : grid.Orderly) : grid.Unambiguous where
  names := h.names
  shared := h.shared
  single := by
    intro entry hapart
    have hclaims : ∀ filter ∈ grid.claimants entry, filter.claims grid.settings entry = true :=
      fun filter hmem => (List.mem_filter.mp hmem).2
    have hshared : (grid.claimants entry).Pairwise _ := h.shared.sublist List.filter_sublist
    have hclaimants : (grid.claimants entry).length ≤ 1 := by
      cases hlist : grid.claimants entry with
      | nil => simp
      | cons first others =>
          cases others with
          | nil => simp
          | cons second rest =>
              -- Two claimants stand in a relation that was excluded.
              have hfirst : first ∈ grid.claimants entry := by simp [hlist]
              have hsecond : second ∈ grid.claimants entry := by simp [hlist]
              rw [hlist] at hshared
              obtain ⟨hpattern, -, hshadow⟩ :=
                (List.pairwise_cons.mp hshared).1 second List.mem_cons_self entry
                  (hclaims first hfirst) (hclaims second hsecond)
              rcases hshadow with hforth | hback
              · exact absurd hforth (hapart hpattern first hfirst second hsecond)
              · exact absurd hback (hapart hpattern second hsecond first hfirst)
    have hreaders := grid.length_readers_le entry
    exact ⟨hclaimants, by omega⟩

end Grid

namespace Workspace

/-- Whatever was done with a grid, no entry has two owners, name shadows apart. -/
theorem unambiguous_gridAfter (settings : FilterSettings) (actions : List Action) :
    (gridAfter settings actions).Unambiguous :=
  (sound_run settings actions).orderly.unambiguous

/-- A pattern on `ownername` belongs to the references in `owner` as well as to the text column of
that name, and both read it. -/
example :
    let owner : Column := ⟨"owner", .owner, {}⟩
    let ownername : Column := ⟨"ownername", .text, {}⟩
    ((gridAfter {} [.openColumn owner, .openColumn ownername]).readers
      ⟨"ownername", none, .like, .scalar "A%"⟩).map ColumnFilter.column = [owner, ownername] := by
  decide +kernel

end Workspace

end GridFilter
