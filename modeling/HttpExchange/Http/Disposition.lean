import HttpExchange.Charset.Label
import HttpExchange.Http.Header
import HttpExchange.Percent.Decode
import HttpExchange.Text.Blank

/-! File names in `Content-Disposition`. The name is looked for in three places,
and the first that has one that is not blank decides: the quoted form
`param="value"`, all that follows the last `param=`, and the extended form
`param*=charset'language'value`. Of what is found only the last component
counts, so that a header can name a file and no more. -/

namespace HttpExchange.Disposition

/-- The text without white space around it, unless that is nothing. -/
def unlessBlank? (t : Text) : Option Text :=
  if (Text.trim t).isEmpty then none else some (Text.trim t)

/-- The text up to the first quote, if there is one on the same line. -/
def untilQuote? : Text → Option Text
  | [] => none
  | c :: rest =>
    if c = '"' then some []
    else if c = '\n' then none
    else (untilQuote? rest).map (c :: ·)

/-- The text between `opening`, which is not empty, and the next quote on the
same line, at the leftmost place where there is such a text. -/
def between? (opening : Text) : Text → Option Text
  | [] => none
  | c :: rest =>
    if opening.isPrefixOf (c :: rest) then
      match untilQuote? ((c :: rest).drop opening.length) with
      | some value => some value
      | none => between? opening rest
    else between? opening rest

/-- The value in quotes. -/
def quoted? (header param : Text) : Option Text :=
  (between? (param ++ ['=', '"']) header).bind unlessBlank?

/-- The text without one quote at its start and one at its end. -/
def unquote (t : Text) : Text :=
  let t := match t with
    | '"' :: rest => rest
    | other => other
  if t.getLast? = some '"' then t.dropLast else t

/-- All that follows the last `param=`, without white space and quotes around
it. -/
def trailing? (header param : Text) : Option Text :=
  match Text.cutAtLast? (param ++ ['=']) header with
  | some (_, value) => unlessBlank? (unquote (Text.trim value))
  | none => none

/-- The value of the first `param*=`, up to the next semicolon. It is decoded in
the charset that it names, or in UTF-8 if it names none. -/
def extended? (header param : Text) : Option Text :=
  match Text.cutAt? (param ++ ['*', '=']) header with
  | none => none
  | some (_, rest) =>
    let value := Text.trimBy (· = '"')
      (Text.trim (((Text.cut? ';' rest).map Prod.fst).getD rest))
    match Text.cut? '\'' value with
    | none => none
    | some (label, rest) =>
      match Text.cut? '\'' rest with
      | none => none
      | some (_, encoded) =>
        let cs := (Charset.ofLabel? (Text.trim label)).getD .utf8
        unlessBlank? (cs.decode (Percent.decode encoded))

/-- A character that separates the components of a name. -/
def isSeparator (c : Char) : Bool :=
  c = '/' || c = '\\'

/-- The text after the last separator. -/
def lastComponent (name : Text) : Text :=
  (name.reverse.takeWhile fun c => !isSeparator c).reverse

/-- The last component of a name, unless it names no file. -/
def safeName? (name : Text) : Option Text :=
  let component := Text.trim (lastComponent name)
  if component = [] ∨ component = ['.'] ∨ component = ['.', '.'] then none
  else some component

/-- The file name that a header gives under a parameter. -/
def fileName? (header param : Text) : Option Text :=
  ((quoted? header param).or
    ((trailing? header param).or (extended? header param))).bind safeName?

end HttpExchange.Disposition

namespace HttpExchange.Response

/-- The parameter that names a file. -/
def fileNameParameter : Text :=
  "filename".toList

/-- The file name that the response gives under a parameter. -/
def fileName? (r : Response) (param : Option Text) : Option Text :=
  (r.header? "content-disposition".toList).bind fun header =>
    Disposition.fileName? header (param.getD fileNameParameter)

end HttpExchange.Response
