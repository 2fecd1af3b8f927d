/-!
# Media types

A media type is a type and a subtype of tokens, and then parameters. Letters of either case are
the same. A subtype may have a suffix behind its last plus sign.
-/

namespace CustomFields.Http

/-- A media type, without its parameters. -/
structure MediaType where
  type : String
  /-- Without the suffix. -/
  subtype : String
  suffix : Option String
deriving DecidableEq, Repr

namespace MediaType

/-- A character of a name of a type. -/
def isTokenChar (c : Char) : Bool :=
  c.isAlphanum || "!#$%&'+-.^_\x60|~".toList.contains c

/-- A character between quotes; a quote may be one if it comes first. -/
def isQuotedChar (c : Char) : Bool :=
  c.toNat > 0x1F && c.toNat < 0x7F

mutual

/-- Whether a text is a list of parameters behind a separator. -/
def areParameters : Nat → List Char → Bool
  | 0, _ => false
  | _ + 1, [] => true
  | fuel + 1, cs =>
    let (name, rest) := (cs.dropWhile (· == ' ')).span isTokenChar
    match rest with
    | [] => name.isEmpty
    | '=' :: rest => !name.isEmpty && isParameterValue fuel rest
    | _ => false

/-- Whether a text is the value of a parameter, and then more of them. -/
def isParameterValue : Nat → List Char → Bool
  | 0, _ => false
  | fuel + 1, '"' :: first :: rest =>
    isQuotedChar first &&
      match rest.dropWhile (fun c => isQuotedChar c && c != '"') with
      | '"' :: rest =>
        match rest.dropWhile (· == ' ') with
        | [] => true
        | ';' :: rest => areParameters fuel rest
        | _ => false
      | _ => false
  | fuel + 1, cs =>
    let (value, rest) := cs.span isTokenChar
    match rest with
    | [] => true
    | ';' :: rest => !value.isEmpty && areParameters fuel rest
    | _ => false

end

/-- Splits a subtype at its last plus sign. -/
def splitSuffix (cs : List Char) : List Char × Option (List Char) :=
  let (suffix, rest) := cs.reverse.span (· != '+')
  match rest with
  | _ :: before@(_ :: _) => (before.reverse, some suffix.reverse)
  | _ => (cs, none)

/-- The media type that a text is. -/
def parse? (s : String) : Option MediaType := do
  let lower (cs : List Char) : String := .ofList (cs.map Char.toLower)
  let (type, rest) := s.toList.span isTokenChar
  let '/' :: rest := rest | none
  let (subtype, rest) := rest.span isTokenChar
  if type.isEmpty || subtype.isEmpty then none
  match rest with
  | [] => pure ()
  | c :: rest =>
    if !(c == ';' || c == ' ') || !areParameters (rest.length + 1) rest then none
  let (subtype, suffix) := splitSuffix subtype
  return ⟨lower type, lower subtype, suffix.map lower⟩

/-- Whether bodies of the type are JSON texts. -/
def isJson (t : MediaType) : Bool :=
  t.type == "application" && (t.subtype == "json" || t.suffix == some "json")

end MediaType

end CustomFields.Http
