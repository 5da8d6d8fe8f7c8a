import GridFilter.Grid.ColumnFilter
import GridFilter.Proofs.Criterion.Canonical

/-!
# What an id is made of

The id of a criterion on a column is made of the column's name, the code of the operator and the
display of the value, one behind the other.  The name is that of the column and a code has two
bytes, so these bytes tell the operator and the display of the value, and no more
(`Criterion.idBytes_eq_iff`).

A display does not tell the value.  No value and the text `null` are displayed alike, and so are a
gap in a list and that text, a list of two texts and a list of one text with a comma in it, and a
list and a text in brackets.  `WireValue.Plain` leaves these out, and plain values are displayed
alike only when they are the same (`WireValue.Plain.display_inj`).
-/

namespace GridFilter

/-! ## Bytes -/

/-- The bytes of an array from one place on, behind those that were taken before. -/
lemma toListLoop_eq (bytes : ByteArray) (place : Nat) (taken : List UInt8) :
    ByteArray.toList.loop bytes place taken =
      taken.reverse ++ bytes.data.toList.drop place := by
  fun_induction ByteArray.toList.loop bytes place taken with
  | case1 place taken hlt ih =>
      have hplace : place < bytes.data.toList.length := hlt
      rw [ih, List.reverse_cons, List.append_assoc, List.singleton_append,
        List.drop_eq_getElem_cons hplace]
      congr 2
      exact (getElem!_pos bytes.data place hlt)
  | case2 place taken hge =>
      have hplace : bytes.data.toList.length ≤ place := Nat.le_of_not_lt hge
      rw [List.drop_eq_nil_of_le hplace, List.append_nil]

/-- A text is told by its bytes. -/
lemma toUTF8_toList_inj {text other : String} (h : text.toUTF8.toList = other.toUTF8.toList) :
    text = other := by
  rw [ByteArray.toList, ByteArray.toList, toListLoop_eq, toListLoop_eq] at h
  exact String.toByteArray_inj.mp (ByteArray.ext (Array.toList_inj.mp (by simpa using h)))

/-- An operator is told by the bytes of its code. -/
lemma codeBytes_inj {operator other : Operator}
    (h : codeBytes operator.code = codeBytes other.code) : operator = other := by
  have hbytes : ∀ code : Nat,
      (codeBytes code).map UInt8.toNat = [code % 256, code / 256 % 256] := by
    intro code
    simp [codeBytes]
  have hcodes := congrArg (List.map UInt8.toNat) h
  rw [hbytes, hbytes, List.cons.injEq, List.cons.injEq] at hcodes
  have hle := operator.code_le
  have hotherLe := other.code_le
  have hsame : operator.code = other.code := by omega
  rw [← Option.some_inj, ← Operator.ofCode?_code operator, hsame, Operator.ofCode?_code]

namespace Criterion

/-- Two criteria with the same operator whose values are displayed alike. -/
structure LooksLike (criterion other : Criterion) : Prop where
  operator : criterion.operator = other.operator
  display : criterion.wire.display = other.wire.display

instance (criterion other : Criterion) : Decidable (LooksLike criterion other) :=
  decidable_of_iff
    (criterion.operator = other.operator ∧ criterion.wire.display = other.wire.display)
    ⟨fun h => ⟨h.1, h.2⟩, fun h => ⟨h.operator, h.display⟩⟩

/-- The bytes of an id tell the operator and the display of the value, and nothing else. -/
lemma idBytes_eq_iff {name : String} {criterion other : Criterion} :
    criterion.idBytes name = other.idBytes name ↔ criterion.LooksLike other := by
  constructor
  · intro h
    rw [idBytes, idBytes, List.append_assoc, List.append_assoc, List.append_cancel_left_eq] at h
    obtain ⟨hcode, hdisplay⟩ := List.append_inj h rfl
    exact ⟨codeBytes_inj hcode, toUTF8_toList_inj hdisplay⟩
  · intro h
    rw [idBytes, idBytes, h.operator, h.display]

end Criterion

/-! ## Displays -/

namespace WireValue

/-- A text that is displayed neither like no value nor like a list. -/
def PlainText (text : String) : Prop :=
  text ≠ "null" ∧ ¬(text.toList.head? = some '[' ∧ text.toList.getLast? = some ']')

/-- An item of a list that is a gap, or a text that is displayed as one item that is no gap. -/
def PlainItem : Option String → Prop
  | none => True
  | some text => text ≠ "null" ∧ ',' ∉ text.toList

/-- Values that can be told from their display. -/
def Plain : WireValue → Prop
  | .null => True
  | .scalar text => PlainText text
  | .list items => items ≠ [some ""] ∧ ∀ item ∈ items, PlainItem item

instance : DecidablePred PlainText :=
  fun _ => inferInstanceAs (Decidable (_ ∧ _))

instance : DecidablePred PlainItem
  | none => .isTrue trivial
  | some _ => inferInstanceAs (Decidable (_ ∧ _))

instance : DecidablePred Plain
  | .null => .isTrue trivial
  | .scalar text => inferInstanceAs (Decidable (PlainText text))
  | .list _ => inferInstanceAs (Decidable (_ ∧ _))

lemma toList_display_list (items : List (Option String)) :
    (list items).display.toList =
      '[' :: ([','].intercalate ((items.map displayItem).map String.toList) ++ [']']) := by
  simp [display, String.toList_intercalate]

lemma bracketed_display_list (items : List (Option String)) :
    (list items).display.toList.head? = some '[' ∧
      (list items).display.toList.getLast? = some ']' := by
  rw [toList_display_list]
  exact ⟨rfl, by rw [← List.cons_append, List.getLast?_concat]⟩

/-- The list of a value's display is told by the texts of its items. -/
lemma Plain.items_inj {items others : List (Option String)} (h : (list items).Plain)
    (hothers : (list others).Plain) (hdisplay : (list items).display = (list others).display) :
    items = others := by
  have hno : ∀ list : List (Option String), (WireValue.list list).Plain →
      ∀ text ∈ list.map displayItem, ',' ∉ text.toList := by
    intro list hplain text hmem
    obtain ⟨item, hitem, rfl⟩ := List.mem_map.mp hmem
    cases item with
    | none => decide
    | some text => exact (hplain.2 _ hitem).2
  have hblank : ∀ list : List (Option String), (WireValue.list list).Plain →
      list.map displayItem ≠ [""] := by
    intro list hplain hsingle
    obtain ⟨item, rfl, hitem⟩ := List.map_eq_singleton_iff.mp hsingle
    cases item with
    | none => exact absurd hitem (by decide)
    | some text => exact hplain.1 (by rw [show text = "" from hitem])
  have hchars := congrArg String.toList hdisplay
  rw [toList_display_list, toList_display_list, List.cons.injEq,
    List.append_cancel_right_eq] at hchars
  have htexts := Text.joined_inj (hno items h) (hno others hothers) (hblank items h)
    (hblank others hothers) hchars.2
  -- A gap is displayed as no plain text is.
  have hitem : ∀ item ∈ items, ∀ other ∈ others, displayItem item = displayItem other →
      item = other := by
    intro item hmem other hother hsame
    cases item with
    | none =>
        cases other with
        | none => rfl
        | some text => exact absurd hsame.symm (hothers.2 _ hother).1
    | some text =>
        cases other with
        | none => exact absurd hsame (h.2 _ hmem).1
        | some otherText => exact congrArg some hsame
  refine List.ext_getElem (by simpa using congrArg List.length htexts) fun place hplace hother => ?_
  refine hitem _ (List.getElem_mem hplace) _ (List.getElem_mem hother) ?_
  simpa [hplace, hother] using congrArg (fun texts => texts[place]?) htexts

/-- Plain values are displayed alike only when they are the same. -/
theorem Plain.display_inj {wire other : WireValue} (h : wire.Plain) (hother : other.Plain)
    (hdisplay : wire.display = other.display) : wire = other := by
  cases wire with
  | null =>
      cases other with
      | null => rfl
      | scalar text => exact absurd hdisplay.symm hother.1
      | list items =>
          have hhead := (bracketed_display_list items).1
          rw [← hdisplay] at hhead
          exact absurd hhead (by decide)
  | scalar text =>
      cases other with
      | null => exact absurd hdisplay h.1
      | scalar otherText => exact congrArg scalar hdisplay
      | list items =>
          have hends := bracketed_display_list items
          rw [← hdisplay] at hends
          exact absurd hends h.2
  | list items =>
      cases other with
      | null =>
          have hhead := (bracketed_display_list items).1
          rw [hdisplay] at hhead
          exact absurd hhead (by decide)
      | scalar text =>
          have hends := bracketed_display_list items
          rw [hdisplay] at hends
          exact absurd hends hother.2
      | list others => rw [h.items_inj hother hdisplay]

end WireValue

/-- Criteria with plain values look alike only when they are the same. -/
lemma Criterion.LooksLike.eq {criterion other : Criterion} (h : criterion.LooksLike other)
    (hplain : criterion.wire.Plain) (hother : other.wire.Plain) : criterion = other := by
  obtain ⟨operator, wire⟩ := criterion
  obtain ⟨otherOperator, otherWire⟩ := other
  rw [Criterion.mk.injEq]
  exact ⟨h.operator, hplain.display_inj hother h.display⟩

end GridFilter
