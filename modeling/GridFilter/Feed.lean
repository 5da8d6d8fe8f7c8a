/-!
# Feeds

A feed holds what a subscriber has not read yet.  It keeps the latest sixty-four items; of those
that had to go only the number is known.
-/

namespace GridFilter

/-- How many items a feed keeps. -/
def Feed.capacity : Nat := 64

/-- The items a subscriber has not read, and the number of those that were lost. -/
structure Feed (α : Type) where
  unread : List α := []
  lost : Nat := 0
  deriving DecidableEq, Repr

namespace Feed

variable {α : Type}

/-- Adds an item; when the feed is full, the oldest one is lost. -/
def push (feed : Feed α) (item : α) : Feed α :=
  let unread := feed.unread ++ [item]
  if unread.length ≤ capacity then { feed with unread := unread }
  else { unread := unread.tail, lost := feed.lost + 1 }

/-- Adds items in order. -/
def pushAll (feed : Feed α) (items : List α) : Feed α :=
  items.foldl push feed

end Feed

end GridFilter
