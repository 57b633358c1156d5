import TableGateway.Value

/-!
# Statements

A statement is a text with placeholders and the values for them, in order. Statements are put together from pieces,
and the values of the pieces come in the order of the pieces.

- **`params_join`**: joining concatenates the values.
-/

namespace TableGateway

structure Statement where
  sql : String
  params : List Value := []

namespace Statement

/-- Are there values to pass? -/
def hasParams (s : Statement) : Bool := !s.params.isEmpty

/-- The pieces with a text between each two. -/
def join (between : String) (pieces : List Statement) : Statement where
  sql := between.intercalate (pieces.map sql)
  params := pieces.flatMap params

/-- The pieces that are not empty, with a space between each two. -/
def inWords (pieces : List Statement) : Statement where
  sql := " ".intercalate ((pieces.map sql).filter (!·.isEmpty))
  params := pieces.flatMap params

/-- A statement between two texts. -/
def within (before after : String) (s : Statement) : Statement where
  sql := before ++ s.sql ++ after
  params := s.params

@[simp] theorem params_join (between : String) (pieces : List Statement) :
    (join between pieces).params = pieces.flatMap params := rfl

@[simp] theorem params_inWords (pieces : List Statement) : (inWords pieces).params = pieces.flatMap params := rfl

@[simp] theorem params_within (before after : String) (s : Statement) : (within before after s).params = s.params := rfl

end Statement

end TableGateway
