/-!
Replacing every occurrence of a token in a text, from the left and without overlap.
-/

namespace ExtractionPrompt.Text

/-- `skipped` counts the characters ahead that belong to an occurrence already replaced. -/
def substituteFrom (token body : List Char) (skipped : Nat) : List Char → List Char
  | [] => []
  | c :: rest =>
    match skipped with
    | n + 1 => substituteFrom token body n rest
    | 0 =>
      if token.isPrefixOf (c :: rest) then body ++ substituteFrom token body (token.length - 1) rest
      else c :: substituteFrom token body 0 rest

/-- A text without the token is left as it is. -/
theorem substituteFrom_of_not_infix (token body s : List Char) (absent : ¬ token <:+: s) :
    substituteFrom token body 0 s = s := by
  induction s with
  | nil => rfl
  | cons c rest ih =>
    have here : token.isPrefixOf (c :: rest) = false := by
      rw [Bool.eq_false_iff]
      exact fun h => absent (List.isPrefixOf_iff_prefix.1 h).isInfix
    rw [substituteFrom, here]
    simp [ih fun h => absent (List.infix_cons h)]

/-- The token is not empty. -/
def substitute (token body s : String) : String :=
  String.ofList (substituteFrom token.toList body.toList 0 s.toList)

end ExtractionPrompt.Text
