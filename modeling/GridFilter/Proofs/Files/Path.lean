import GridFilter.Files.Path
import GridFilter.Proofs.Text.Affix

/-!
# Where a user's path leads

`Path.expand` gives an absolute path for every text, provided that the working directory is absolute
(`Path.isAbsolute_expand`).  A path that starts with `~/` is meant to lie in the home directory, and
the names along it are those of the home directory and then those that follow, `..` among them.

That holds as long as one slash follows the tilde.  What stands behind a second one is an absolute
path by itself, and an absolute path takes the place of the directory that it is joined to, so
nothing of the home directory is left (`Path.expand_leaves_home`).  `Path.names_expand` says both.
-/

namespace GridFilter.Path

variable {base rest path home work : String}

/-! ## The names along a path -/

/-- A slash separates names, however many there are. -/
lemma names_append_slash (base rest : String) :
    names (base ++ "/" ++ rest) = names base ++ names rest := by
  have hslash : (base ++ "/" ++ rest).toList = base.toList ++ '/' :: rest.toList := by
    rw [String.toList_append, String.toList_append, List.append_assoc]
    rfl
  rw [names, parts, hslash, List.splitOn_append_cons_self, List.map_append, List.filter_append]
  rfl

lemma names_empty : names "" = [] := by
  decide

/-! ## Joining -/

lemma isAbsolute_append (h : isAbsolute base = true) (rest : String) :
    isAbsolute (base ++ rest) = true := by
  rw [isAbsolute, beq_iff_eq, List.head?_eq_some_iff] at h
  obtain ⟨tail, htail⟩ := h
  rw [isAbsolute, String.toList_append, htail]
  rfl

lemma ne_empty_of_isAbsolute (h : isAbsolute path = true) : path ≠ "" := by
  rintro rfl
  exact absurd h (by decide)

lemma join_of_isAbsolute (h : isAbsolute rest = true) (base : String) : join base rest = rest := by
  rw [join, h, Bool.true_or, if_pos rfl]

/-- A relative path is put behind the directory, with a slash between them. -/
lemma join_cases (hbase : isAbsolute base = true) (hrest : isAbsolute rest = false) :
    join base rest = base ++ "/" ++ rest ∨
      ∃ before, base = before ++ "/" ∧ join base rest = before ++ "/" ++ rest := by
  have hkept : (isAbsolute rest || base == "") = false := by
    rw [hrest, Bool.false_or, beq_eq_false_iff_ne]
    exact ne_empty_of_isAbsolute hbase
  rw [join, hkept, if_neg Bool.false_ne_true]
  split
  · next hslash =>
      obtain ⟨before, hbefore⟩ := List.getLast?_eq_some_iff.mp (beq_iff_eq.mp hslash)
      have hsplit : base = String.ofList before ++ "/" := by
        rw [← String.toList_inj, String.toList_append, String.toList_ofList, hbefore]
        rfl
      exact .inr ⟨String.ofList before, hsplit, by rw [← hsplit]⟩
  · exact .inl rfl

lemma isAbsolute_join (hbase : isAbsolute base = true) (rest : String) :
    isAbsolute (join base rest) = true := by
  cases hrest : isAbsolute rest with
  | true => rw [join_of_isAbsolute hrest, hrest]
  | false =>
      rcases join_cases hbase hrest with hjoin | ⟨before, hbefore, hjoin⟩
      · rw [hjoin, String.append_assoc]
        exact isAbsolute_append hbase _
      · rw [hjoin, ← hbefore]
        exact isAbsolute_append hbase _

/-- What a relative path is joined to stands in front, as it is written. -/
lemma prefix_join (hbase : isAbsolute base = true) (hrest : isAbsolute rest = false) :
    base.toList <+: (join base rest).toList := by
  rcases join_cases hbase hrest with hjoin | ⟨before, hbefore, hjoin⟩
  · rw [hjoin, String.append_assoc, String.toList_append]
    exact List.prefix_append _ _
  · rw [hjoin, ← hbefore, String.toList_append]
    exact List.prefix_append _ _

/-- The names of a relative path follow those of the directory. -/
lemma names_join (hbase : isAbsolute base = true) (hrest : isAbsolute rest = false) :
    names (join base rest) = names base ++ names rest := by
  rcases join_cases hbase hrest with hjoin | ⟨before, rfl, hjoin⟩
  · rw [hjoin, names_append_slash]
  · have hbefore : names (before ++ "/") = names before := by
      rw [← String.append_empty (s := before ++ "/"), names_append_slash, names_empty,
        List.append_nil]
    rw [hjoin, names_append_slash, hbefore]

/-! ## Expanding -/

/-- From an absolute working directory every path leads to an absolute one. -/
lemma isAbsolute_expand (directories : Directories) (hwork : isAbsolute directories.work = true)
    (path : String) : isAbsolute (expand directories path) = true := by
  unfold expand
  dsimp only
  split
  · exact hwork
  · split
    · next habsolute => exact habsolute
    · exact isAbsolute_join hwork _

/-- Behind a tilde and a slash a path is joined to the home directory. -/
lemma expand_of_tilde (hhome : isAbsolute home = true) (hpath : Text.trim path = "~/" ++ rest) :
    expand ⟨some home, work⟩ path = join home rest := by
  have hlong : ("~/" ++ rest).toList = '~' :: '/' :: rest.toList := by
    rw [String.toList_append]
    rfl
  have hne : ∀ short : String, short.toList.length < 2 → ("~/" ++ rest == short) = false := by
    intro short hshort
    rw [beq_eq_false_iff_ne]
    rintro rfl
    rw [hlong, List.length_cons, List.length_cons] at hshort
    omega
  have hexpanded : expandHome (some home) ("~/" ++ rest) = join home rest := by
    rw [expandHome, hne "~" (by decide), if_neg Bool.false_ne_true,
      Text.withoutLead?_eq_some_iff.mpr rfl]
  rw [expand, hpath, hne "" (by decide), if_neg Bool.false_ne_true, hexpanded,
    if_pos (isAbsolute_join hhome rest)]

/-- Every path leads to an absolute one.  Behind a tilde and one slash it leads from the home
directory on, which is kept as it is written.  Behind a second slash the home directory is left out,
so the names are as they should be only for a home directory without names. -/
theorem names_expand (hhome : isAbsolute home = true) (hwork : isAbsolute work = true)
    (path : String) :
    isAbsolute (expand ⟨some home, work⟩ path) = true ∧
      ∀ rest, Text.trim path = "~/" ++ rest →
        (isAbsolute rest = false → home.toList <+: (expand ⟨some home, work⟩ path).toList) ∧
        (isAbsolute rest = true → expand ⟨some home, work⟩ path = rest) ∧
        (names (expand ⟨some home, work⟩ path) = names home ++ names rest ↔
          isAbsolute rest = false ∨ names home = []) := by
  refine ⟨isAbsolute_expand ⟨some home, work⟩ hwork path, fun rest hpath => ?_⟩
  rw [expand_of_tilde hhome hpath]
  refine ⟨prefix_join hhome, fun hrest => join_of_isAbsolute hrest home, ?_⟩
  cases hrest : isAbsolute rest with
  | false => exact iff_of_true (names_join hhome hrest) (.inl rfl)
  | true =>
      rw [join_of_isAbsolute hrest, List.self_eq_append_left]
      exact (or_iff_right Bool.noConfusion).symm

/-- A path that goes up again is kept as it is written, and so is the slash at the end of the home
directory. -/
theorem names_expand_upward :
    let home := "/home/ada/"
    isAbsolute home = true ∧ isAbsolute "/work" = true ∧
      Text.trim "  ~/notes/../tabula.json" = "~/" ++ "notes/../tabula.json" ∧
      home.toList <+: (expand ⟨some home, "/work"⟩ "  ~/notes/../tabula.json").toList ∧
      names (expand ⟨some home, "/work"⟩ "  ~/notes/../tabula.json") =
        ["home", "ada", "notes", "..", "tabula.json"] := by
  intro home
  have hhome : isAbsolute home = true := by decide
  have hwork : isAbsolute "/work" = true := by decide
  have hpath : Text.trim "  ~/notes/../tabula.json" = "~/" ++ "notes/../tabula.json" := by
    decide +kernel
  have hrelative : isAbsolute "notes/../tabula.json" = false := by decide
  obtain ⟨-, hall⟩ := names_expand hhome hwork "  ~/notes/../tabula.json"
  obtain ⟨hkept, -, hnames⟩ := hall _ hpath
  refine ⟨hhome, hwork, hpath, hkept hrelative, ?_⟩
  rw [hnames.mpr (.inl hrelative)]
  decide +kernel

/-- Behind a second slash a path leads out of the home directory. -/
theorem expand_leaves_home :
    let home := "/home/ada"
    Text.trim "~//etc/passwd" = "~/" ++ "/etc/passwd" ∧
      expand ⟨some home, "/work"⟩ "~//etc/passwd" = "/etc/passwd" ∧
      ¬ names home <+: names (expand ⟨some home, "/work"⟩ "~//etc/passwd") ∧
      names (expand ⟨some home, "/work"⟩ "~//etc/passwd") ≠
        names home ++ names "/etc/passwd" := by
  decide +kernel

end GridFilter.Path
