namespace Nomen

class Vocabulary (α : Type) where
  all : List α
  word : α → String

namespace Vocabulary

variable {α : Type} [Vocabulary α]

def ofWord? (text : String) : Option α :=
  (all : List α).find? fun a => word a == text

variable (α) in
def words : List String :=
  (all : List α).map word

end Vocabulary

end Nomen
