import HttpExchange.Io.Kind

/-! Input and output errors. Besides its kind an error has a text: the
description of the kind, a message of its own, the text of another error that
it wraps, or what the operating system says. -/

namespace HttpExchange

/-- An input or output error. -/
inductive IoError where
  /-- An error that says no more than its kind. -/
  | bare (kind : ErrorKind)
  | message (kind : ErrorKind) (text : Text)
  /-- An error of some kind that wraps another. -/
  | wrapped (kind : ErrorKind) (inner : IoError)
  /-- An error that the operating system numbers. -/
  | system (errno : Nat)
  deriving DecidableEq, Inhabited, Repr

namespace IoError

def kind : IoError → ErrorKind
  | bare k => k
  | message k _ => k
  | wrapped k _ => k
  | system n => .ofErrno n

def text : IoError → Text
  | bare k => k.description.toList
  | message _ t => t
  | wrapped _ inner => inner.text
  | system n =>
    (errnoText n).toList ++ " (os error ".toList ++ Text.ofNat n ++ [')']

/-- The error that an error wraps directly. -/
def inner? : IoError → Option IoError
  | wrapped _ inner => some inner
  | _ => none

/-- Whether the error says that a stream ended before its time: by its kind, by
the kind of the error that it wraps directly, or by the words "premature EOF" in
its text. -/
def saysEarlyEnd (e : IoError) : Bool :=
  e.kind = .unexpectedEof
    || (e.inner?.any fun inner => inner.kind = .unexpectedEof)
    || Text.hasInfix "premature eof".toList (Text.lowerAscii e.text)

end IoError

end HttpExchange
