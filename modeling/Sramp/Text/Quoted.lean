/-!
# Single-quoted text

A text is quoted by writing a quote mark at both ends and doubling every quote
mark inside.  Query literals, plan text and statements share this form.
-/

namespace Sramp.Text

/-- The mark that delimits quoted text. -/
def quoteMark : Char := '\x27'

/-- Every quote mark is written twice and every other character once. -/
def doubled : List Char → List Char
  | [] => []
  | c :: rest =>
      if c = quoteMark then quoteMark :: quoteMark :: doubled rest
      else c :: doubled rest

@[simp] theorem doubled_nil : doubled [] = [] := rfl

@[simp] theorem doubled_append (left right : List Char) :
    doubled (left ++ right) = doubled left ++ doubled right := by
  induction left with
  | nil => rfl
  | cons c rest ih =>
      simp only [List.cons_append, doubled]
      split <;> simp [ih]

/-- A text between quote marks, its own quote marks doubled. -/
def quoted (text : String) : String :=
  "'" ++ String.ofList (doubled text.toList) ++ "'"

end Sramp.Text
