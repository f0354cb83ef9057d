import NplLifecycle.Domain.Direction
import NplLifecycle.Domain.Folding
import NplLifecycle.Domain.Joiner
import NplLifecycle.Domain.Punycode

/-!
# Domain names

A domain name is a row of labels with dots between them.  It is written in ASCII, folded and
composed, with `xn--` in front of each label that stands for one with other characters.
`toAscii?` gives the one written form of a name, and nothing if a label may not stand in a name.
-/

namespace NplLifecycle.Domain

/-- What stands in front of a label that stands for one with characters beyond ASCII. -/
def aceMark : List Char := "xn--".toList

/-- How many characters a label may have that is to be written in ASCII. -/
def longestLabel : Nat := 1000

/-- How many characters the written form of such a label may have. -/
def longestWritten : Nat := 2000

/-- The label that a written one stands for, itself or another one; nothing if it should stand for
another and does not, or if that other one is not composed, or has no need to be written so. -/
def labelOf? (written : List Char) : Option (List Char) :=
  if aceMark.isPrefixOf written then
    let digits := written.drop aceMark.length
    if longestWritten < digits.length ∨ ! digits.all Punycode.isAscii then none
    else
      (Punycode.decode? digits).filter fun label =>
        ! label.all Punycode.isAscii && Text.compose label == label &&
          ! aceMark.isPrefixOf label
  else if longestLabel < written.length ∧ ! written.all Punycode.isAscii then none
  else some written

def isLabel (label : List Char) : Bool :=
  label.all (fun c => isFolded c && ! isDelimiter c) && ! label.head?.any Text.isMark &&
    joinersFit [] label

def writeLabel (label : List Char) : List Char :=
  if label.all Punycode.isAscii then label else aceMark ++ Punycode.encode label

/-- A name in ASCII; nothing if it is none. -/
def toAscii? (name : List Char) : Option (List Char) :=
  (name.mapM fold?).bind fun folded =>
    ((Text.pieces '.' (Text.compose folded.flatten)).mapM labelOf?).bind fun labels =>
      if labels.all isLabel && (! labels.any runsRightToLeft || labels.all holdsTogether) then
        some (['.'].intercalate (labels.map writeLabel))
      else none

end NplLifecycle.Domain
