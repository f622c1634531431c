import ExtractionPrompt.Json.Reader

/-!
Passing over a JSON value without reading it.  The grammar is that of the reader, but nothing is
interpreted: nesting has no limit, a number may be of any size, and an escaped surrogate may stand
alone.
-/

namespace ExtractionPrompt.Json

def skipString? : Nat → List Char → Option (List Char)
  | _, [] => none
  | 0, _ => none
  | _ + 1, '"' :: rest => some rest
  | fuel + 1, '\\' :: 'u' :: rest => do
    let (_, rest) ← (hexUnit rest).toOption
    skipString? fuel rest
  | fuel + 1, '\\' :: c :: rest =>
    if ['"', '\\', '/', 'b', 'f', 'n', 'r', 't'].contains c then skipString? fuel rest else none
  | fuel + 1, c :: rest => if c.toNat < 0x20 then none else skipString? fuel rest

def skipNumber? (s : List Char) : Option (List Char) :=
  let s := match s with
    | '-' :: rest => rest
    | s => s
  (numeral s).toOption.map Prod.snd

mutual

def skipValue? (fuel : Nat) (s : List Char) : Option (List Char) :=
  match fuel with
  | 0 => none
  | fuel + 1 =>
    match skipBlank s with
    | 'n' :: 'u' :: 'l' :: 'l' :: rest => some rest
    | 't' :: 'r' :: 'u' :: 'e' :: rest => some rest
    | 'f' :: 'a' :: 'l' :: 's' :: 'e' :: rest => some rest
    | '"' :: rest => skipString? rest.length rest
    | '[' :: rest =>
      match skipBlank rest with
      | ']' :: rest => some rest
      | rest => skipItems? fuel rest
    | '{' :: rest =>
      match skipBlank rest with
      | '}' :: rest => some rest
      | rest => skipProperties? fuel rest
    | rest => skipNumber? rest

def skipItems? (fuel : Nat) (s : List Char) : Option (List Char) :=
  match fuel with
  | 0 => none
  | fuel + 1 => do
    let rest ← skipValue? fuel s
    match skipBlank rest with
    | ',' :: rest => skipItems? fuel rest
    | ']' :: rest => some rest
    | _ => none

def skipProperties? (fuel : Nat) (s : List Char) : Option (List Char) :=
  match fuel with
  | 0 => none
  | fuel + 1 =>
    match skipBlank s with
    | '"' :: rest => do
      let rest ← skipString? rest.length rest
      match skipBlank rest with
      | ':' :: rest => do
        let rest ← skipValue? fuel rest
        match skipBlank rest with
        | ',' :: rest => skipProperties? fuel rest
        | '}' :: rest => some rest
        | _ => none
      | _ => none
    | _ => none

end

end ExtractionPrompt.Json
