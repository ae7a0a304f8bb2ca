import NftExchange.Decimal.Digits
import NftExchange.Text.Alphanumeric
import NftExchange.Text.Blank

/-!
# Log filters

A log filter is a list of directives with commas between them. A directive names a level up to
which events are kept, or a target, or both as in `net=debug`; levels are words in letters of
either case or numbers. Behind a target, or in place of it, a span may stand in brackets, with
fields in braces. Empty directives do not count.
-/

namespace NftExchange.LogFilter

/-- The words for levels, from none to all. -/
def levels : List String := ["off", "error", "warn", "info", "debug", "trace"]

/-- A text with its ASCII letters in lower case. -/
def lowered (text : String) : String := String.ofList (text.toList.map Char.toLower)

/-- Whether a text is a level: a word, or its index. -/
def isLevel (text : String) : Bool :=
  levels.contains (lowered text)
    || (Decimal.parseSigned? (Bytes.ofText text)).any (· < levels.length)

/-- Whether a character can be the first one of a target. -/
def startsTarget (c : Char) : Bool := Text.isAlphanumeric c || ['-', ':', '_'].contains c

/-- Whether a character ends a target. -/
def endsTarget (c : Char) : Bool := c == '=' || c == '['

/-- What follows the span whose opening bracket is taken, if it is closed. Of the fields only the
whole is looked at. -/
def afterSpan? (cs : List Char) : Option (List Char) :=
  match cs.dropWhile fun c => c != ']' && c != '\x7b' with
  | ']' :: rest => some rest
  | _ :: fields =>
    match fields.takeWhile (· != '\x7d'), fields.dropWhile (· != '\x7d') with
    | _ :: _, _ :: ']' :: rest => some rest
    | _, _ => none
  | [] => none

/-- What a directive says behind its target and its span, if these are well-formed: nothing, or an
equals sign and a level. -/
def afterTarget? (cs : List Char) : Option (List Char) :=
  match cs with
  | [] => none
  | '[' :: cs => afterSpan? cs
  | c :: cs =>
    if startsTarget c then
      match cs.dropWhile fun c => !endsTarget c with
      | '[' :: cs => afterSpan? cs
      | rest => some rest
    else none

/-- Whether a text is a directive. There may be blanks around it only if it ends without a level
of its own. -/
def isDirective (cs : List Char) : Bool :=
  let directive := (Text.trimmed (String.ofList cs)).toList
  match afterTarget? directive with
  | some [] => true
  | some ('=' :: level) =>
    cs == directive && (level.isEmpty || isLevel (String.ofList level))
  | _ => false

/-- The texts between commas. -/
def entries : List Char → List (List Char)
  | [] => [[]]
  | c :: cs =>
    if c = ',' then [] :: entries cs
    else
      match entries cs with
      | [] => [[c]]
      | entry :: rest => (c :: entry) :: rest

/-- Whether a text is a filter. -/
def isValid (text : String) : Bool :=
  (entries text.toList).all fun entry => entry.isEmpty || isDirective entry

end NftExchange.LogFilter
