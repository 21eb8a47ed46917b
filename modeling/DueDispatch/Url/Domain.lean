import DueDispatch.Text.Composition
import DueDispatch.Text.Direction
import DueDispatch.Text.Folding
import DueDispatch.Text.Joining
import DueDispatch.Text.Percent
import DueDispatch.Text.Punycode
import DueDispatch.Url.Basic

/-!
# DueDispatch — domain names

The host of a web address is a domain name, which may hold characters beyond
ASCII and may be percent-encoded. `Domain.read` gives the name as it is looked
up: small letters for capitals, plain characters for their other forms, and
nothing for characters that are not seen. Of the other forms those are replaced
that can make a name an address of figures.

A name is refused if it holds a character that no domain may hold, if one of its
labels is not written as labels are (`readLabel`), or if it is written from
right to left somewhere and not in one direction in each label.
-/

namespace DueDispatch.Url.Domain

/-- The ASCII characters, apart from controls and the space, that no domain
holds. -/
def forbiddenMarks : List Char :=
  ['%', '#', '/', ':', '<', '>', '?', '@', '[', '\\', ']', '^', '|']

/-- The runs of visible characters that no domain holds: forms of forbidden
marks, and characters that only describe others. -/
def forbiddenRuns : Array (Nat × Nat) := #[
  (0xa8, 0xa8), (0xaf, 0xaf), (0xb4, 0xb4), (0xb8, 0xb8), (0x2d8, 0x2dd), (0x37a, 0x37a),
  (0x384, 0x385), (0x1fbd, 0x1fbd), (0x1fbf, 0x1fc1), (0x1fcd, 0x1fcf), (0x1fdd, 0x1fdf),
  (0x1fed, 0x1fee), (0x1ffd, 0x1ffe), (0x2017, 0x2017), (0x2024, 0x2026), (0x203e, 0x203e),
  (0x2047, 0x2049), (0x2100, 0x2101), (0x2105, 0x2106), (0x2488, 0x249b), (0x2a74, 0x2a74),
  (0x2ff0, 0x2fff), (0x309b, 0x309c), (0x31ef, 0x31ef), (0x33c2, 0x33c2), (0x33c7, 0x33c7),
  (0x33d8, 0x33d8), (0xfc5e, 0xfc63), (0xfdfa, 0xfdfb), (0xfe12, 0xfe13), (0xfe16, 0xfe16),
  (0xfe19, 0xfe19), (0xfe30, 0xfe30), (0xfe47, 0xfe4c), (0xfe52, 0xfe52), (0xfe55, 0xfe56),
  (0xfe5f, 0xfe5f), (0xfe64, 0xfe65), (0xfe68, 0xfe68), (0xfe6a, 0xfe6b), (0xfe70, 0xfe70),
  (0xfe72, 0xfe72), (0xfe74, 0xfe74), (0xfe76, 0xfe76), (0xfe78, 0xfe78), (0xfe7a, 0xfe7a),
  (0xfe7c, 0xfe7c), (0xfe7e, 0xfe7e), (0xff03, 0xff03), (0xff05, 0xff05), (0xff0f, 0xff0f),
  (0xff1a, 0xff1a), (0xff1c, 0xff1c), (0xff1e, 0xff20), (0xff3b, 0xff3e), (0xff5c, 0xff5c),
  (0xffe3, 0xffe3), (0xfffc, 0xfffd), (0x1f100, 0x1f100)]

/-- The runs of characters that a domain does not need. -/
def idleRuns : Array (Nat × Nat) := #[
  (0xad, 0xad), (0x34f, 0x34f), (0x115f, 0x1160), (0x17b4, 0x17b5), (0x180b, 0x180f),
  (0x200b, 0x200b), (0x2060, 0x2064), (0x206a, 0x206f), (0x3164, 0x3164), (0xfe00, 0xfe0f),
  (0xfeff, 0xfeff), (0xffa0, 0xffa0), (0x1bca0, 0x1bca3), (0x1d173, 0x1d17a), (0xe0100, 0xe01ef)]

/-- The runs of other forms of ASCII characters and of two marks: the first one,
the last one, and what the first one is a form of. -/
def plainRuns : Array (Nat × Nat × Char) := #[
  (0xaa, 0xaa, 'a'), (0xb2, 0xb3, '2'), (0xb9, 0xb9, '1'), (0x2e3, 0x2e3, 'x'),
  (0x1d2c, 0x1d2c, 'a'), (0x1d2e, 0x1d2e, 'b'), (0x1d30, 0x1d31, 'd'), (0x1d43, 0x1d43, 'a'),
  (0x1d47, 0x1d47, 'b'), (0x1d48, 0x1d49, 'd'), (0x1d9c, 0x1d9c, 'c'), (0x1da0, 0x1da0, 'f'),
  (0x2070, 0x2070, '0'), (0x2074, 0x2079, '4'), (0x2080, 0x2089, '0'), (0x2090, 0x2090, 'a'),
  (0x2091, 0x2091, 'e'), (0x2093, 0x2093, 'x'), (0x2102, 0x2102, 'c'), (0x212c, 0x212d, 'b'),
  (0x212f, 0x212f, 'e'), (0x2130, 0x2131, 'e'), (0x2145, 0x2145, 'd'), (0x2146, 0x2147, 'd'),
  (0x2169, 0x2169, 'x'), (0x216d, 0x216e, 'c'), (0x2179, 0x2179, 'x'), (0x217d, 0x217e, 'c'),
  (0x2460, 0x2468, '1'), (0x24b6, 0x24cf, 'a'), (0x24d0, 0x24e9, 'a'), (0x24ea, 0x24ea, '0'),
  (0x3002, 0x3002, '.'), (0xa7f2, 0xa7f2, 'c'), (0xa7f3, 0xa7f3, 'f'), (0xff06, 0xff0e, '&'),
  (0xff10, 0xff19, '0'), (0xff21, 0xff3a, 'a'), (0xff3f, 0xff5b, '_'), (0xff61, 0xff61, '.'),
  (0xff9e, 0xff9f, '\u3099'),
  (0x1ccd6, 0x1ccef, 'a'), (0x1ccf0, 0x1ccf9, '0'), (0x1d400, 0x1d419, 'a'),
  (0x1d41a, 0x1d433, 'a'), (0x1d434, 0x1d44d, 'a'), (0x1d44e, 0x1d454, 'a'),
  (0x1d456, 0x1d467, 'i'), (0x1d468, 0x1d481, 'a'), (0x1d482, 0x1d49b, 'a'),
  (0x1d49c, 0x1d49c, 'a'), (0x1d49e, 0x1d49f, 'c'), (0x1d4ae, 0x1d4b5, 's'),
  (0x1d4b6, 0x1d4b9, 'a'), (0x1d4bb, 0x1d4bb, 'f'), (0x1d4c5, 0x1d4cf, 'p'),
  (0x1d4d0, 0x1d4e9, 'a'), (0x1d4ea, 0x1d503, 'a'), (0x1d504, 0x1d505, 'a'),
  (0x1d507, 0x1d50a, 'd'), (0x1d516, 0x1d51c, 's'), (0x1d51e, 0x1d537, 'a'),
  (0x1d538, 0x1d539, 'a'), (0x1d53b, 0x1d53e, 'd'), (0x1d54a, 0x1d550, 's'),
  (0x1d552, 0x1d56b, 'a'), (0x1d56c, 0x1d585, 'a'), (0x1d586, 0x1d59f, 'a'),
  (0x1d5a0, 0x1d5b9, 'a'), (0x1d5ba, 0x1d5d3, 'a'), (0x1d5d4, 0x1d5ed, 'a'),
  (0x1d5ee, 0x1d607, 'a'), (0x1d608, 0x1d621, 'a'), (0x1d622, 0x1d63b, 'a'),
  (0x1d63c, 0x1d655, 'a'), (0x1d656, 0x1d66f, 'a'), (0x1d670, 0x1d689, 'a'),
  (0x1d68a, 0x1d6a3, 'a'), (0x1d7ce, 0x1d7d7, '0'), (0x1d7d8, 0x1d7e1, '0'),
  (0x1d7e2, 0x1d7eb, '0'), (0x1d7ec, 0x1d7f5, '0'), (0x1d7f6, 0x1d7ff, '0'),
  (0x1f12b, 0x1f12b, 'c'), (0x1f130, 0x1f149, 'a'), (0x1fbf0, 0x1fbf9, '0')]

/-- Whether no domain may hold a character. -/
def isForbidden (c : Char) : Bool :=
  c ≤ ' ' || forbiddenMarks.contains c || Text.isEmptyChar c || Text.isListed forbiddenRuns c

/-- What a character stands for. -/
def fold (c : Char) : List Char :=
  if c ≤ '\x7f' then [c.toLower]
  else if Text.isListed idleRuns c then []
  else
    match plainRuns.find? fun (first, last, _) => first ≤ c.toNat && c.toNat ≤ last with
    | some (first, _, plain) => [Char.ofNat (plain.toNat + (c.toNat - first))]
    | none => [c]

/-- The most characters in a label that is not in ASCII. -/
def maxLabel : Nat := 1000

/-- The most characters in a label in Punycode, without its beginning. -/
def maxPunycode : Nat := 2000

/-- Whether a character is in ASCII. -/
def isAscii (c : Char) : Bool := c ≤ '\x7f'

/-- Whether a label begins with a character that can begin one, and its joiners
mean something. An empty label passes. -/
def isLabel (label : List Char) : Bool :=
  !label.head?.any Text.isMark && Text.joinersFit [] label &&
    (label.all isAscii || label.length ≤ maxLabel)

/-- Whether a label can be written in Punycode: nothing in it stands for
something else. -/
def isEncodable (label : List Char) : Bool :=
  label.all (fun c => !isForbidden c && !Text.isForm c) && Text.isComposed label && isLabel label

/-- The label that a text writes. One that begins with a mark of Punycode is in
ASCII and ends in a figure of it. -/
def readLabel (label : List Char) : Option (List Char) :=
  match label with
  | 'x' :: 'n' :: '-' :: '-' :: rest =>
    if rest.all isAscii && rest.getLast?.any (· != '-') && rest.length ≤ maxPunycode then
      (Text.Punycode.decode rest).filter isEncodable
    else none
  | _ => if isLabel (Text.ordered label) then some label else none

/-- Whether the labels of a domain fit each other: if one is written from right
to left, each keeps to its direction. -/
def directionsFit (labels : List (List Char)) : Bool :=
  !labels.any (·.any fun c => (Text.Direction.of c).isRightward) || labels.all Text.isDirected

/-- The domain that the text of a host names. -/
def read (host : List Char) : Option (List Char) :=
  let bytes := Text.percentDecode host
  let cs := Text.lossyChars bytes
  let domain := cs.flatMap fold
  if Text.isUtf8 bytes && !cs.any isForbidden then
    ((pieces '.' domain).mapM readLabel).bind fun labels =>
      if directionsFit labels then some domain else none
  else none

end DueDispatch.Url.Domain
