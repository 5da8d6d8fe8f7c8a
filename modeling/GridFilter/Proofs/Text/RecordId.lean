import GridFilter.Proofs.Text.Blank
import GridFilter.RecordId

/-!
# Laws of record ids

Taking the normal form of an id twice may give another id than taking it once.  Blanks are cut off
before braces are, and each once, so that braces around blanks leave an id with blank ends, and
further braces inside the blanks leave braces.  An id *settles* when its normal form is its own
normal form.

What one more layer takes away no further layer brings back, so it makes no difference to settling
through how many layers an id goes (`normal_thrice_iff`).

Only blanks inside the braces keep an id from settling (`settles_of_no_blank`).  A GUID has none, so
what validation takes for the id of a record settles (`settles_of_isGuid`).  Its normal form is a
GUID again, one without braces (`plainGuid_normal`).
-/

namespace GridFilter.RecordId

/-- The normal form of an id is its own normal form. -/
def Settles (id : String) : Prop :=
  normal (normal id) = normal id

instance (id : String) : Decidable (Settles id) :=
  inferInstanceAs (Decidable (normal (normal id) = normal id))

lemma Settles.normal {id : String} (h : Settles id) : Settles (normal id) := by
  unfold Settles at h ⊢
  rw [h, h]

/-! ## Letters -/

lemma toLower_cases (c : Char) :
    c.toLower = c ∨ 65 ≤ c.toNat ∧ c.toNat ≤ 90 ∧ c.toLower.toNat = c.toNat + 32 := by
  unfold Char.toLower
  split
  · next hupper =>
      obtain ⟨hlow, hhigh⟩ := hupper
      have hfrom : 65 ≤ c.toNat := by simpa [UInt32.le_iff_toNat_le] using hlow
      have hto : c.toNat ≤ 90 := by simpa [UInt32.le_iff_toNat_le] using hhigh
      have hval : c.val.toNat = c.toNat := rfl
      have hshift : ('a'.val - 'A'.val).toNat = 32 := rfl
      refine .inr ⟨hfrom, hto, ?_⟩
      rw [Char.toNat_mk, UInt32.toNat_add]
      omega
  · exact .inl rfl

/-- A question about characters that no letter of either case answers with yes is not changed by
the case. -/
lemma eq_toLower {p : Char → Bool} (h : ∀ c, 65 ≤ c.toNat → c.toNat ≤ 122 → p c = false)
    (c : Char) : p c.toLower = p c := by
  rcases toLower_cases c with hsame | ⟨hlow, hhigh, hshift⟩
  · rw [hsame]
  · rw [h c hlow (by omega), h c.toLower (by omega) (by omega)]

lemma isBlank_toLower (c : Char) : Text.isBlank c.toLower = Text.isBlank c := by
  refine eq_toLower ?_ c
  intro c hlow hhigh
  exact Text.isBlank_of_visible (by omega) (by omega)

lemma beq_toLower {brace : Char} (h : 122 < brace.toNat) (c : Char) :
    (c.toLower == brace) = (c == brace) := by
  refine eq_toLower (p := (· == brace)) ?_ c
  intro c hlow hhigh
  rw [beq_eq_false_iff_ne]
  rintro rfl
  omega

/-! ## The steps of normalising -/

@[simp] lemma lowered_lowered (s : List Char) : lowered (lowered s) = lowered s := by
  unfold lowered
  rw [List.map_map]
  refine List.map_congr_left fun c _ => ?_
  rcases toLower_cases c with hsame | ⟨hlow, hhigh, hshift⟩
  · rw [Function.comp_apply, hsame, hsame]
  · rcases toLower_cases c.toLower with hsame | ⟨hagain, hagainHigh, -⟩
    · exact hsame
    · omega

@[simp] lemma stripBraces_stripBraces (s : List Char) :
    stripBraces (stripBraces s) = stripBraces s := by
  unfold stripBraces
  rw [Text.dropWhile_dropEnd, Text.dropEnd_dropEnd]

lemma stripBraces_lowered (s : List Char) : stripBraces (lowered s) = lowered (stripBraces s) := by
  have hopen : (· == '{') ∘ Char.toLower = (· == '{') :=
    funext fun c => beq_toLower (by decide) c
  have hclose : (· == '}') ∘ Char.toLower = (· == '}') :=
    funext fun c => beq_toLower (by decide) c
  unfold stripBraces lowered Text.dropEnd
  rw [List.dropWhile_map, hopen, ← List.map_reverse, List.dropWhile_map, hclose, List.map_reverse]

lemma mem_of_mem_stripBraces {s : List Char} {c : Char} (h : c ∈ stripBraces s) : c ∈ s := by
  unfold stripBraces Text.dropEnd at h
  rw [List.mem_reverse] at h
  have hdropped := List.mem_reverse.mp ((List.dropWhile_suffix _).mem h)
  exact (List.dropWhile_suffix _).mem hdropped

/-! ## Ids that settle -/

/-- An id settles when it has no blanks, its ends apart. -/
theorem settles_of_no_blank {id : String}
    (h : ∀ c ∈ Text.trimEnds id.toList, Text.isBlank c = false) : Settles id := by
  have hinside : ∀ c ∈ lowered (stripBraces (Text.trimEnds id.toList)),
      Text.isBlank c = false := by
    intro c hmem
    obtain ⟨upper, hupper, rfl⟩ := List.mem_map.mp hmem
    rw [isBlank_toLower]
    exact h upper (mem_of_mem_stripBraces hupper)
  unfold Settles normal normalChars
  rw [String.toList_ofList, Text.trimEnds_eq_self hinside, stripBraces_lowered,
    stripBraces_stripBraces, lowered_lowered]

lemma dropEnd_sublist (p : Char → Bool) (s : List Char) : (Text.dropEnd p s).Sublist s := by
  have hreversed := (List.dropWhile_sublist p (l := s.reverse)).reverse
  rwa [List.reverse_reverse] at hreversed

/-- Nothing but the case of letters is ever put in the place of what an id has. -/
lemma stripBraces_trimEnds_sublist (s : List Char) :
    (stripBraces (Text.trimEnds s)).Sublist s := by
  have htrimmed : (Text.trimEnds s).Sublist s :=
    (dropEnd_sublist _ _).trans (List.dropWhile_sublist _)
  exact ((dropEnd_sublist _ _).trans (List.dropWhile_sublist _)).trans htrimmed

lemma length_normalChars_le (s : List Char) : (normalChars s).length ≤ s.length := by
  rw [normalChars, lowered, List.length_map]
  exact (stripBraces_trimEnds_sublist s).length_le

/-- An id in normal form that is as long as the normal form of that is left as it is. -/
lemma normalChars_eq_self {s : List Char} (hlength : s.length ≤ (normalChars s).length)
    (hlowered : lowered s = s) : normalChars s = s := by
  rw [normalChars, lowered, List.length_map] at hlength
  rw [normalChars, (stripBraces_trimEnds_sublist s).eq_of_length_le hlength, hlowered]

/-- Two more layers leave the normal form of an id as it is exactly if one does. -/
theorem normal_thrice_iff {id : String} :
    normal (normal (normal id)) = normal id ↔ Settles id := by
  constructor
  · intro hthrice
    have hchars : normalChars (normalChars (normalChars id.toList)) = normalChars id.toList := by
      have hlists := congrArg String.toList hthrice
      simpa [normal] using hlists
    have hback := length_normalChars_le (normalChars (normalChars id.toList))
    rw [hchars] at hback
    have hsame := normalChars_eq_self hback (lowered_lowered _)
    rw [Settles, normal, normal, String.toList_ofList, hsame]
  · intro hsettles
    rw [Settles] at hsettles
    rw [hsettles, hsettles]

/-! ## GUIDs -/

/-- The characters of which a GUID is made, its braces apart: hyphens, digits, colons and letters. -/
def InGuid (c : Char) : Prop :=
  c.toNat = 45 ∨ 48 ≤ c.toNat ∧ c.toNat ≤ 58 ∨ 65 ≤ c.toNat ∧ c.toNat ≤ 90 ∨
    97 ≤ c.toNat ∧ c.toNat ≤ 122

lemma InGuid.isBlank {c : Char} (h : InGuid c) : Text.isBlank c = false := by
  unfold InGuid at h
  exact Text.isBlank_of_visible (by omega) (by omega)

lemma InGuid.ne {c mark : Char} (h : InGuid c) (hmark : ¬ InGuid mark) : c ≠ mark := by
  rintro rfl
  exact hmark h

instance (c : Char) : Decidable (InGuid c) :=
  inferInstanceAs (Decidable (_ ∨ _ ∧ _ ∨ _ ∧ _ ∨ _ ∧ _))

lemma isHexDigit_iff {c : Char} : isHexDigit c = true ↔
    48 ≤ c.toNat ∧ c.toNat ≤ 57 ∨ 97 ≤ c.toNat ∧ c.toNat ≤ 102 ∨
      65 ≤ c.toNat ∧ c.toNat ≤ 70 := by
  have hlower : 'a'.toNat = 97 ∧ 'f'.toNat = 102 := ⟨rfl, rfl⟩
  have hupper : 'A'.toNat = 65 ∧ 'F'.toNat = 70 := ⟨rfl, rfl⟩
  simp only [isHexDigit, Bool.or_eq_true, Bool.and_eq_true, decide_eq_true_eq,
    Char.isDigit_iff_toNat, Char.le_def, UInt32.le_iff_toNat_le, Char.toNat_val, hlower, hupper]
  have hdigits : '0'.toNat = 48 ∧ '9'.toNat = 57 := ⟨rfl, rfl⟩
  omega

lemma inGuid_of_isHexDigit {c : Char} (h : isHexDigit c = true) : InGuid c := by
  rw [isHexDigit_iff] at h
  unfold InGuid
  omega

lemma inGuid_of_isCompact {s : List Char} (h : isCompact s = true) : ∀ c ∈ s, InGuid c := by
  unfold isCompact at h
  rw [Bool.and_eq_true, List.all_eq_true] at h
  intro c hmem
  exact inGuid_of_isHexDigit (h.2 c hmem)

lemma inGuid_of_isHyphenated {s : List Char} (h : isHyphenated s = true) : ∀ c ∈ s, InGuid c := by
  unfold isHyphenated at h
  rw [Bool.and_eq_true, List.all_eq_true] at h
  intro c hmem
  obtain ⟨index, hindex⟩ := List.mem_iff_getElem?.mp hmem
  have hentry := h.2 (c, index) (List.mk_mem_zipIdx_iff_getElem?.mpr hindex)
  split at hentry
  · have hhyphen : c = '-' := by simpa using hentry
    rw [hhyphen]
    decide
  · exact inGuid_of_isHexDigit hentry

/-- The forms of a GUID without braces. -/
inductive PlainGuid (s : List Char) : Prop where
  | compact (h : isCompact s = true)
  | hyphenated (h : isHyphenated s = true)
  | afterScheme (hscheme : lowered (s.take scheme.length) = scheme)
      (h : isHyphenated (s.drop scheme.length) = true)

lemma PlainGuid.isGuid {s : List Char} (h : PlainGuid s) : isGuid s = true := by
  unfold RecordId.isGuid
  cases h with
  | compact h => simp [h]
  | hyphenated h => simp [h]
  | afterScheme hscheme h => simp [hscheme, h]

lemma PlainGuid.inGuid {s : List Char} (h : PlainGuid s) : ∀ c ∈ s, InGuid c := by
  cases h with
  | compact h => exact inGuid_of_isCompact h
  | hyphenated h => exact inGuid_of_isHyphenated h
  | afterScheme hscheme h =>
      intro c hmem
      rw [← List.take_append_drop scheme.length s, List.mem_append] at hmem
      rcases hmem with hfront | hback
      · have hletter : c.toLower ∈ scheme := by
          rw [← hscheme]
          exact List.mem_map_of_mem hfront
        have hletters : (scheme.all fun letter => decide (InGuid letter)) = true := by decide
        have hlower : InGuid c.toLower :=
          of_decide_eq_true (List.all_eq_true.mp hletters c.toLower hletter)
        rcases toLower_cases c with hsame | ⟨hlow, hhigh, -⟩
        · rwa [hsame] at hlower
        · unfold InGuid
          omega
      · exact inGuid_of_isHyphenated h c hback

/-- Only the hyphenated form may stand in braces. -/
lemma isGuid_cases {s : List Char} (h : isGuid s = true) :
    PlainGuid s ∨ ∃ inner, s = '{' :: (inner ++ ['}']) ∧ isHyphenated inner = true := by
  unfold isGuid at h
  simp only [Bool.or_eq_true, Bool.and_eq_true, beq_iff_eq] at h
  rcases h with ((hcompact | hhyphenated) | ⟨⟨hopen, hclose⟩, hinside⟩) | ⟨hscheme, hafter⟩
  · exact .inl (.compact hcompact)
  · exact .inl (.hyphenated hhyphenated)
  · obtain ⟨rest, rfl⟩ := List.head?_eq_some_iff.mp hopen
    rw [List.drop_one, List.tail_cons] at hinside
    have hne : rest ≠ [] := by
      rintro rfl
      exact absurd hinside (by decide)
    rw [List.getLast?_cons_of_ne_nil hne, List.getLast?_eq_some_getLast hne,
      Option.some_inj] at hclose
    refine .inr ⟨rest.dropLast, ?_, hinside⟩
    rw [← hclose, List.dropLast_append_getLast hne]
  · exact .inl (.afterScheme hscheme hafter)

lemma isBlank_of_isGuid {s : List Char} (h : isGuid s = true) :
    ∀ c ∈ s, Text.isBlank c = false := by
  intro c hmem
  rcases isGuid_cases h with hplain | ⟨inner, rfl, hinner⟩
  · exact (hplain.inGuid c hmem).isBlank
  · simp only [List.mem_cons, List.mem_append, List.not_mem_nil, or_false] at hmem
    rcases hmem with rfl | hinside | rfl
    · decide
    · exact (inGuid_of_isHyphenated hinner c hinside).isBlank
    · decide

/-- What names a record, blank ends apart, settles. -/
theorem settles_of_isGuid {id : String} (h : isGuid (Text.trimEnds id.toList) = true) :
    Settles id :=
  settles_of_no_blank (isBlank_of_isGuid h)

/-! ### The normal form of a GUID -/

/-- Braces come off around what has none. -/
lemma stripBraces_braced {inner : List Char} (h : ∀ c ∈ inner, InGuid c) :
    stripBraces ('{' :: (inner ++ ['}'])) = inner := by
  have hopen : ∀ c ∈ inner, (c == '{') = false :=
    fun c hmem => beq_eq_false_iff_ne.mpr ((h c hmem).ne (by decide))
  have hclose : ∀ c ∈ inner, (c == '}') = false :=
    fun c hmem => beq_eq_false_iff_ne.mpr ((h c hmem).ne (by decide))
  have hfront : (inner ++ ['}']).dropWhile (· == '{') = inner ++ ['}'] := by
    refine Text.dropWhile_eq_self fun c hmem => ?_
    rcases List.mem_append.mp hmem with hinside | hlast
    · exact hopen c hinside
    · rw [List.mem_singleton.mp hlast]
      decide
  unfold stripBraces
  rw [List.dropWhile_cons_of_pos (by decide), hfront, Text.dropEnd_eq_rdropWhile,
    List.rdropWhile_concat_pos _ _ _ (by decide), ← Text.dropEnd_eq_rdropWhile,
    Text.dropEnd_eq_self hclose]

lemma stripBraces_eq_self {s : List Char} (h : ∀ c ∈ s, InGuid c) : stripBraces s = s := by
  unfold stripBraces
  rw [Text.dropWhile_eq_self fun c hmem => beq_eq_false_iff_ne.mpr ((h c hmem).ne (by decide)),
    Text.dropEnd_eq_self fun c hmem => beq_eq_false_iff_ne.mpr ((h c hmem).ne (by decide))]

/-! ### Bare ids -/

lemma mem_of_mem_bareChars {s : List Char} {c : Char} (h : c ∈ bareChars s) : c ∈ s :=
  (List.dropWhile_sublist _).subset ((dropEnd_sublist _ _).subset h)

lemma bareChars_eq_self {s : List Char} (h : ∀ c ∈ s, InGuid c) : bareChars s = s := by
  have hinside : ∀ c ∈ s, isBrace c = false := by
    intro c hmem
    have hopen : c ≠ '{' := (h c hmem).ne (by decide)
    have hclose : c ≠ '}' := (h c hmem).ne (by decide)
    simp [isBrace, hopen, hclose]
  rw [bareChars, Text.dropWhile_eq_self hinside, Text.dropEnd_eq_self hinside]

/-- A pair of braces around an id makes no difference, whatever the id. -/
lemma bareChars_cons_append_brace (s : List Char) : bareChars ('{' :: (s ++ ['}'])) = bareChars s := by
  rw [bareChars, bareChars, List.dropWhile_cons_of_pos (by decide), List.dropWhile_append]
  split
  · next hnone =>
      rw [List.isEmpty_iff.mp hnone]
      rfl
  · rw [Text.dropEnd_eq_rdropWhile, List.rdropWhile_concat_pos _ _ _ (by decide),
      Text.dropEnd_eq_rdropWhile]

/-- The id in a pair of braces. -/
def braced (id : String) : String :=
  "\x7b" ++ id ++ "\x7d"

lemma bareChars_braced (id : String) : bareChars (braced id).toList = bareChars id.toList := by
  have hchars : (braced id).toList = '{' :: (id.toList ++ ['}']) := by simp [braced]
  rw [hchars, bareChars_cons_append_brace]

/-! ### The case of a GUID -/

lemma isHexDigit_toLower {c : Char} (h : isHexDigit c = true) : isHexDigit c.toLower = true := by
  rcases toLower_cases c with hsame | ⟨hlow, hhigh, hshift⟩
  · rwa [hsame]
  · rw [isHexDigit_iff] at h ⊢
    omega

lemma isCompact_lowered {s : List Char} (h : isCompact s = true) :
    isCompact (lowered s) = true := by
  unfold isCompact lowered at *
  rw [Bool.and_eq_true, List.all_eq_true] at h
  rw [Bool.and_eq_true, List.length_map, List.all_map, List.all_eq_true]
  exact ⟨h.1, fun c hmem => isHexDigit_toLower (h.2 c hmem)⟩

lemma isHyphenated_lowered {s : List Char} (h : isHyphenated s = true) :
    isHyphenated (lowered s) = true := by
  unfold isHyphenated lowered at *
  rw [Bool.and_eq_true, List.all_eq_true] at h
  rw [Bool.and_eq_true, List.length_map, List.zipIdx_map, List.all_map, List.all_eq_true]
  refine ⟨h.1, fun entry hmem => ?_⟩
  have hentry := h.2 entry hmem
  -- The places of the hyphens are the same, and a hyphen has no case.
  show (if entry.2 == 8 || entry.2 == 13 || entry.2 == 18 || entry.2 == 23
    then entry.1.toLower == '-' else isHexDigit entry.1.toLower) = true
  split at hentry
  · next hplace =>
      have hhyphen : entry.1 = '-' := by simpa using hentry
      rw [if_pos hplace, hhyphen]
      decide
  · next hplace =>
      rw [if_neg hplace]
      exact isHexDigit_toLower hentry

lemma PlainGuid.lowered {s : List Char} (h : PlainGuid s) : PlainGuid (lowered s) := by
  cases h with
  | compact h => exact .compact (isCompact_lowered h)
  | hyphenated h => exact .hyphenated (isHyphenated_lowered h)
  | afterScheme hscheme h =>
      have htake : (RecordId.lowered s).take scheme.length =
          RecordId.lowered (s.take scheme.length) := List.map_take.symm
      have hdrop : (RecordId.lowered s).drop scheme.length =
          RecordId.lowered (s.drop scheme.length) := List.map_drop.symm
      refine .afterScheme ?_ ?_
      · rw [htake, lowered_lowered, hscheme]
      · rw [hdrop]
        exact isHyphenated_lowered h

/-- The normal form of a GUID is a GUID without braces. -/
theorem plainGuid_normal {id : String} (h : isGuid (Text.trimEnds id.toList) = true) :
    PlainGuid (normal id).toList := by
  rw [normal, String.toList_ofList, normalChars]
  rcases isGuid_cases h with hplain | ⟨inner, hbraced, hinner⟩
  · rw [stripBraces_eq_self hplain.inGuid]
    exact hplain.lowered
  · rw [hbraced, stripBraces_braced (inGuid_of_isHyphenated hinner)]
    exact .hyphenated (isHyphenated_lowered hinner)

/-- The normal form of a GUID is one too, and has no blank ends. -/
lemma isGuid_normal {id : String} (h : isGuid (Text.trimEnds id.toList) = true) :
    isGuid (Text.trimEnds (normal id).toList) = true := by
  have hplain := plainGuid_normal h
  rw [Text.trimEnds_eq_self fun c hmem => (hplain.inGuid c hmem).isBlank]
  exact hplain.isGuid

end GridFilter.RecordId
