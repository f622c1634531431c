import ExtractionPrompt.Text.Pieces

/-!
Media types, as far as it takes to tell JSON from anything else.  A content type that does not parse
as a whole, its parameters included, is not JSON.
-/

namespace ExtractionPrompt.Http

def isTokenChar (c : Char) : Bool := c.isAlphanum || "!#$%&'*+-.^_`|~".toList.contains c

/-- Printable ASCII, the characters a header's text may have. -/
def isVisible (c : Char) : Bool := 0x20 ≤ c.toNat && c.toNat < 0x7F

/-- The text after the closing quote of a quoted value; the value has at least one character. -/
def afterQuoted? : List Char → Option (List Char)
  | [] => none
  | _ :: rest => (Text.cutAt '"' rest).2

/-- Whether the text after a semicolon is a list of parameters, which may be empty. -/
def areParameters (fuel : Nat) (s : List Char) : Bool :=
  match fuel with
  | 0 => false
  | fuel + 1 =>
    let s := s.dropWhile (· == ' ')
    let name := s.takeWhile isTokenChar
    if s.isEmpty then true
    else if name.isEmpty then false
    else
      match s.drop name.length with
      | '=' :: '"' :: quoted =>
        match afterQuoted? quoted with
        | none => false
        | some rest =>
          match rest.dropWhile (· == ' ') with
          | [] => true
          | ';' :: rest => areParameters fuel rest
          | _ => false
      | '=' :: rest =>
        let value := rest.takeWhile isTokenChar
        match rest.drop value.length with
        | [] => true
        | ';' :: rest => !value.isEmpty && areParameters fuel rest
        | _ => false
      | _ => false

/-- The part of a subtype before its last plus sign, and the suffix after it.  A leading plus sign
does not count. -/
def splitSuffix (subtype : List Char) : List Char × Option (List Char) :=
  match Text.cutAt '+' subtype.reverse with
  | (_, none) => (subtype, none)
  | (_, some []) => (subtype, none)
  | (suffix, some rest) => (rest.reverse, some suffix.reverse)

/-- `application/json`, or any `application` type with the suffix `json`, in any case. -/
def isJsonType (contentType : String) : Bool :=
  let s := contentType.toList
  let kind := s.takeWhile isTokenChar
  match s.drop kind.length with
  | '/' :: rest =>
    let subtype := rest.takeWhile isTokenChar
    let parameters := match rest.drop subtype.length with
      | [] => true
      | ';' :: rest => areParameters (rest.length + 1) rest
      | _ => false
    let (base, suffix) := splitSuffix (subtype.map Char.toLower)
    s.all isVisible && parameters && kind.map Char.toLower == "application".toList &&
      (base == "json".toList || suffix == some "json".toList)
  | _ => false

end ExtractionPrompt.Http
