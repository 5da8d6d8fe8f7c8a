/-!
# Associations

Finite maps as lists of pairs.  `put` replaces the value of a key in its place or adds the pair at
the end, so keys keep the order of their first arrival and the last value written is the one found.
-/

namespace GridFilter

/-- A finite map, in order of first arrival. -/
abbrev Association (κ α : Type) := List (κ × α)

namespace Association

variable {κ α : Type} [DecidableEq κ]

/-- The value of a key. -/
def get? : Association κ α → κ → Option α
  | [], _ => none
  | (other, value) :: rest, key => if other = key then some value else get? rest key

/-- Is the key present? -/
def has (map : Association κ α) (key : κ) : Bool :=
  (map.get? key).isSome

/-- Gives a key a value. -/
def put : Association κ α → κ → α → Association κ α
  | [], key, value => [(key, value)]
  | (other, old) :: rest, key, value =>
    if other = key then (key, value) :: rest else (other, old) :: put rest key value

/-- Gives a key a value unless it has one. -/
def putNew (map : Association κ α) (key : κ) (value : α) : Association κ α :=
  if map.has key then map else map.put key value

@[simp]
theorem get?_nil (key : κ) : get? ([] : Association κ α) key = none := rfl

/-- After a key was given a value, that value is found under it and nothing else has changed. -/
@[simp]
theorem get?_put (map : Association κ α) (key other : κ) (value : α) :
    (map.put key value).get? other = if key = other then some value else map.get? other := by
  induction map with
  | nil => simp [put, get?]
  | cons pair rest ih =>
    obtain ⟨name, old⟩ := pair
    by_cases same : name = key
    · subst same
      by_cases found : name = other <;> simp [put, get?, found]
    · by_cases found : name = other
      · subst found
        simp [put, get?, same, Ne.symm same]
      · simp [put, get?, same, found, ih]

end Association

end GridFilter
