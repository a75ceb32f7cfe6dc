import HttpExchange.Charset.Label
import HttpExchange.Http.Header
import HttpExchange.Text.Span

/-! Media types: `type/subtype`, or `type/subtype+suffix`, and parameters after
semicolons. The scanner goes over the text once and notes where the parts lie.
All text that it accepts is ASCII outside quoted values, and header text is
ASCII throughout, so offsets count characters. -/

namespace HttpExchange

/-- Where the name and the value of a parameter lie, the value without its
quotes. -/
structure MediaParameter where
  name : Span
  value : Span
  deriving DecidableEq, Repr

namespace MediaParameter

/-- How far a parameter has been read: what is under way, and since which
offset. -/
inductive Phase where
  | name (start : Nat)
  | value (name : Span) (start : Nat)
  | quoted (name : Span) (start : Nat)
  | afterQuote (whole : MediaParameter)
  deriving DecidableEq, Repr

/-- Whether the character may stand between quotes. -/
def isQuotable (c : Char) : Bool :=
  31 < c.toNat && c.toNat ≠ 127

/-- The parameters of a text whose first character lies at `offset`; `none` if
it is malformed. One space is passed over wherever a name could begin. A value
may be empty only at the end of the text. Between quotes a quote ends the value
unless it is its first character; there are no escapes. -/
def scan : Phase → Nat → Text → Option (List MediaParameter)
  | .name start, offset, [] => if start = offset then some [] else none
  | .name start, offset, c :: rest =>
    if c = ' ' ∧ start = offset then scan (.name (offset + 1)) (offset + 1) rest
    else if Text.isTokenChar c then scan (.name start) (offset + 1) rest
    else if c = '=' ∧ start < offset then
      scan (.value ⟨start, offset⟩ (offset + 1)) (offset + 1) rest
    else none
  | .value name start, offset, [] => some [⟨name, ⟨start, offset⟩⟩]
  | .value name start, offset, c :: rest =>
    if c = '"' ∧ start = offset then
      scan (.quoted name (offset + 1)) (offset + 1) rest
    else if Text.isTokenChar c then scan (.value name start) (offset + 1) rest
    else if c = ';' ∧ start < offset then
      (scan (.name (offset + 1)) (offset + 1) rest).map
        (⟨name, ⟨start, offset⟩⟩ :: ·)
    else none
  | .quoted _ _, _, [] => none
  | .quoted name start, offset, c :: rest =>
    if c = '"' ∧ start < offset then
      scan (.afterQuote ⟨name, ⟨start, offset⟩⟩) (offset + 1) rest
    else if isQuotable c then scan (.quoted name start) (offset + 1) rest
    else none
  | .afterQuote whole, _, [] => some [whole]
  | .afterQuote whole, offset, c :: rest =>
    if c = ';' then
      (scan (.name (offset + 1)) (offset + 1) rest).map (whole :: ·)
    else if c = ' ' then scan (.afterQuote whole) (offset + 1) rest
    else none

end MediaParameter

/-- A media type: its text in normal form, its parts, and its parameters. -/
structure MediaType where
  text : Text
  essence : Text
  type : Text
  subtype : Text
  suffix : Option Text
  parameters : List (Text × Text)
  deriving DecidableEq, Repr

namespace MediaType

/-- The name `charset`. -/
def charsetName : Text :=
  ['c', 'h', 'a', 'r', 's', 'e', 't']

/-- The label `utf-8`. -/
def utf8Label : Text :=
  ['u', 't', 'f', '-', '8']

/-- The parameters of a media type, as they are kept: none at all, the common
`charset=utf-8` alone, or a list. -/
inductive Parameters where
  | none
  | utf8
  | listed (list : List MediaParameter)
  deriving DecidableEq, Repr

/-- Whether the parameter is `charset=utf-8` in any case, with a single space
between the semicolon at offset `semicolon` and its name. -/
def isUtf8 (t : Text) (semicolon : Nat) (p : MediaParameter) : Bool :=
  p.name.start = semicolon + 2 &&
    Text.lowerAscii (t.slice p.name) = charsetName &&
    Text.lowerAscii (t.slice p.value) = utf8Label

/-- The parameters in the form in which they are kept. If others follow
`charset=utf-8`, its parts are taken to lie where they lie without quotes. -/
def Parameters.of (t : Text) (semicolon : Nat) :
    List MediaParameter → Parameters
  | [] => .none
  | p :: rest =>
    if isUtf8 t semicolon p then
      if rest.isEmpty then .utf8
      else
        .listed (⟨⟨semicolon + 2, semicolon + 9⟩,
          ⟨semicolon + 10, semicolon + 15⟩⟩ :: rest)
    else .listed (p :: rest)

/-- The text with the piece at a span in lower case. -/
def lowerAt (t : Text) (s : Span) : Text :=
  t.take s.start ++ Text.lowerAscii (t.slice s) ++ t.drop s.stop

/-- The text with a parameter in normal form: the name in lower case, and the
value too if it names a charset. -/
def lowerParameter (t : Text) (p : MediaParameter) : Text :=
  let t := lowerAt t p.name
  if t.slice p.name = charsetName then lowerAt t p.value else t

/-- A media type from its text in normal form. -/
def ofText (t essence : Text) (parameters : List (Text × Text)) : MediaType :=
  let (type, rest) := (Text.cut? '/' essence).getD (essence, [])
  let plus := rest.drop 1
  match Text.cutAtLast? ['+'] plus with
  | some (before, after) =>
    ⟨t, essence, type, rest.take 1 ++ before, some after, parameters⟩
  | none => ⟨t, essence, type, rest, none, parameters⟩

/-- The media type that a text describes; `none` if it is malformed. A `;` or
`+` at the very start of the subtype has no meaning of its own, and a `;` there
is malformed. -/
def parse? (t : Text) : Option MediaType :=
  match Text.cut? '/' t with
  | none => none
  | some (type, rest) =>
    if type.isEmpty || !type.all Text.isTokenChar then none
    else
      let subtype := rest.takeWhile Text.isTokenChar
      let essence := type ++ '/' :: subtype
      let semicolon := essence.length
      match rest.drop subtype.length with
      | [] => some (ofText (Text.lowerAscii t) (Text.lowerAscii t) [])
      | c :: after =>
        if c ≠ ';' ∨ subtype = [] then none
        else
          (MediaParameter.scan (.name (semicolon + 1)) (semicolon + 1) after).map
            fun found =>
              let essence := Text.lowerAscii essence
              match Parameters.of t semicolon found with
              | .none => ofText essence essence []
              | .utf8 =>
                ofText (Text.lowerAscii t) essence [(charsetName, utf8Label)]
              | .listed list =>
                let head := lowerAt t ⟨0, semicolon⟩
                let normal := list.foldl lowerParameter head
                ofText normal essence (list.map fun p =>
                  (normal.slice p.name, normal.slice p.value))

/-- The charset that the first parameter `charset` names. -/
def charset? (m : MediaType) : Option Charset :=
  (m.parameters.lookup charsetName).bind Charset.ofLabel?

end MediaType

namespace Response

/-- The media type of the content. -/
def mediaType? (r : Response) : Option MediaType :=
  r.contentType?.bind MediaType.parse?

/-- The charset that the content type names. -/
def charset? (r : Response) : Option Charset :=
  r.mediaType?.bind MediaType.charset?

end Response

end HttpExchange
