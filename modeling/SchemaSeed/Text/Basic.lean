/-! Text is a list of characters, so that positions and lengths count code
points and every function on it can recurse on the list. -/

namespace SchemaSeed

abbrev Text := List Char

instance : Coe String Text := ⟨String.toList⟩

namespace Text

/-- The parts in order, with `separator` between neighbours. -/
def join (separator : Text) (parts : List Text) : Text :=
  List.intercalate separator parts

@[simp] theorem join_nil (separator : Text) : join separator [] = [] := rfl

@[simp] theorem join_singleton (separator part : Text) : join separator [part] = part := by
  simp [join, List.intercalate]

@[simp] theorem join_cons_cons (separator first second : Text) (rest : List Text) :
    join separator (first :: second :: rest) =
      first ++ separator ++ join separator (second :: rest) := by
  simp [join, List.intercalate]

/-- What is left of `text` once `front` is taken off its start, if it starts so. -/
def after? : (front text : Text) → Option Text
  | [], text => some text
  | _ :: _, [] => none
  | expected :: front, found :: text =>
      if expected = found then after? front text else none

theorem after?_eq_some_iff {front text rest : Text} :
    after? front text = some rest ↔ text = front ++ rest := by
  induction front generalizing text with
  | nil => simp [after?]
  | cons expected front induction =>
      cases text with
      | nil => simp [after?]
      | cons found text =>
          by_cases equal : expected = found
          · simp [after?, equal, induction]
          · simp [after?, equal, Ne.symm equal]

def startsWith (text front : Text) : Bool :=
  (after? front text).isSome

/-- Whether `part` occurs anywhere in `text`. -/
def contains (part : Text) : Text → Bool
  | [] => part.isEmpty
  | character :: rest => startsWith (character :: rest) part || contains part rest

/-- The text from position `start` up to, not including, position `stop`. -/
def slice (text : Text) (start stop : Nat) : Text :=
  (text.drop start).take (stop - start)

/-- `text` without the characters of `unwanted` at either end. -/
def trim (unwanted : Char → Bool) (text : Text) : Text :=
  ((text.dropWhile unwanted).reverse.dropWhile unwanted).reverse

end Text

end SchemaSeed
