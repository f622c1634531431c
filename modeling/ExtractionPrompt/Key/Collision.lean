/-!
Keys that more than one field uses.  A shared key collapses into one property of the output
template, so collisions are reported, though they are no error.
-/

namespace ExtractionPrompt

structure Collision where
  key : String
  fieldIndices : List Nat
  deriving DecidableEq, Repr

namespace Collision

/-- What a walk over the keys has found: the first place of every key, and the collisions in the
order of their second uses. -/
structure Walk where
  firstUses : List (String × Nat)
  collisions : List Collision

def extend (key : String) (index : Nat) (collisions : List Collision) : List Collision :=
  collisions.map fun c =>
    if c.key = key then { c with fieldIndices := c.fieldIndices ++ [index] } else c

def Walk.step (w : Walk) (key : String) (index : Nat) : Walk :=
  match w.firstUses.lookup key with
  | none => { w with firstUses := w.firstUses ++ [(key, index)] }
  | some first =>
    if w.collisions.any (·.key == key) then { w with collisions := extend key index w.collisions }
    else { w with collisions := w.collisions ++ [⟨key, [first, index]⟩] }

def walk (w : Walk) (index : Nat) : List String → Walk
  | [] => w
  | key :: rest => walk (w.step key index) (index + 1) rest

def find (keys : List String) : List Collision := (walk ⟨[], []⟩ 0 keys).collisions

end Collision

end ExtractionPrompt
