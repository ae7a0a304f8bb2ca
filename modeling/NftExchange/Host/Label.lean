import NftExchange.Host.Mapping
import NftExchange.Text.Composed
import NftExchange.Text.Direction
import NftExchange.Text.Joining
import NftExchange.Text.Punycode

/-!
# Host names

The labels of a host name as its user reads them. A name is mapped, split at its dots and composed;
a label in ASCII form is then replaced by the label that it stands for. `labels?` refuses a name
with a label that nobody could type back: with characters that are not allowed, with marks or
joiners that have nothing to act on, or in directions that do not fit together.
-/

namespace NftExchange.Host

/-- Whether a character cannot be part of a host name because it has another use in a URL. -/
def isForbidden (c : Char) : Bool :=
  c.toNat ≤ 0x20 || c.toNat == 0x7f || "#%/:<>?@[\\]^|".toList.contains c

/-- Whether a character is ASCII. -/
def isAscii (c : Char) : Bool := c.toNat < 0x80

/-- How many characters a label beyond ASCII may have. -/
def labelLimit : Nat := 1000

/-- How many characters the ASCII form of a label may have. -/
def formLimit : Nat := 2000

/-- Whether a label may be part of a host name. -/
def isLabel (label : List Char) : Bool :=
  !label.any isForbidden && !label.head?.any Text.isMark && Text.joinersFit label
    && (label.all isAscii || label.length ≤ labelLimit)

/-- Whether a label is written as it is read: with characters that stand for themselves, in the
composed form. -/
def isSettled (label : List Char) : Bool :=
  label.all (fun c => mapped? c == some [c]) && Text.composed label == label

/-- What marks the ASCII form of a label. -/
def formMark : List Char := "xn--".toList

/-- The label that a mapped label stands for. -/
def label? (text : List Char) : Option (List Char) := do
  let label ←
    if formMark.isPrefixOf text then
      let form := text.drop formMark.length
      if form.length ≤ formLimit ∧ form.all isAscii then
        (Text.Punycode.decode? form).filter isSettled
      else none
    else some text
  if isLabel label then some label else none

/-- Whether labels keep apart from one another in whatever direction they are written. -/
def directionsFit (labels : List (List Char)) : Bool :=
  !labels.any (·.any Text.isRightward) || labels.all Text.keepsDirection

/-- The labels of a host name. -/
def labels? (name : List Char) : Option (List (List Char)) := do
  let mapped ← name.mapM mapped?
  let labels ← (Text.parts (· == '.') mapped.flatten).mapM fun text => label? (Text.composed text)
  if directionsFit labels then some labels else none

end NftExchange.Host
