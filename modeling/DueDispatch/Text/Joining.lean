import DueDispatch.Text.Combining
import DueDispatch.Text.Mark

/-!
# DueDispatch — joiners

Two characters that are not seen change how their neighbours are joined. They
mean something only after a mark that takes the vowel from a letter, and the one
that keeps letters apart also between letters that would join.
-/

namespace DueDispatch.Text

/-- The runs of letters that join with the next one. -/
def joinNextRuns : Array (Nat × Nat) := #[
  (0x620, 0x620), (0x626, 0x626), (0x628, 0x628), (0x62a, 0x62e), (0x633, 0x63f), (0x641, 0x647),
  (0x649, 0x64a), (0x66e, 0x66f), (0x679, 0x687), (0x69a, 0x6bf), (0x6c1, 0x6c2), (0x6cc, 0x6cc),
  (0x6ce, 0x6ce), (0x6d0, 0x6d1), (0x6fa, 0x6fc), (0x6ff, 0x6ff), (0x712, 0x714), (0x71a, 0x71d),
  (0x71f, 0x727), (0x729, 0x729), (0x72b, 0x72b), (0x72d, 0x72e), (0x74e, 0x758), (0x75c, 0x76a),
  (0x76d, 0x770), (0x772, 0x772), (0x775, 0x777), (0x77a, 0x77f), (0x7ca, 0x7ea), (0x841, 0x845),
  (0x848, 0x848), (0x84a, 0x853), (0x855, 0x855), (0x860, 0x860), (0x862, 0x865), (0x868, 0x868),
  (0x886, 0x886), (0x889, 0x88d), (0x8a0, 0x8a9), (0x8af, 0x8b0), (0x8b3, 0x8b8), (0x8ba, 0x8c8),
  (0x1807, 0x1807), (0x1820, 0x1878), (0x1887, 0x18a8), (0x18aa, 0x18aa), (0xa840, 0xa872),
  (0x10ac0, 0x10ac4), (0x10acd, 0x10acd), (0x10ad3, 0x10adc), (0x10ade, 0x10ae0),
  (0x10aeb, 0x10aee), (0x10b80, 0x10b80), (0x10b82, 0x10b82), (0x10b86, 0x10b88),
  (0x10b8a, 0x10b8b), (0x10b8d, 0x10b8d), (0x10b90, 0x10b90), (0x10bad, 0x10bae),
  (0x10d00, 0x10d21), (0x10d23, 0x10d23), (0x10f30, 0x10f32), (0x10f34, 0x10f44),
  (0x10f51, 0x10f53), (0x10f70, 0x10f73), (0x10f76, 0x10f81), (0x10fb0, 0x10fb0),
  (0x10fb2, 0x10fb3), (0x10fb8, 0x10fb8), (0x10fbb, 0x10fbc), (0x10fbe, 0x10fbf),
  (0x10fc1, 0x10fc1), (0x10fc4, 0x10fc4), (0x10fca, 0x10fcb), (0x1e922, 0x1e943)]

/-- The runs of letters that join with the one before. -/
def joinPreviousRuns : Array (Nat × Nat) := #[
  (0x620, 0x620), (0x622, 0x63f), (0x641, 0x64a), (0x66e, 0x66f), (0x671, 0x673), (0x679, 0x6d3),
  (0x6d5, 0x6d5), (0x6ee, 0x6ef), (0x6fa, 0x6fc), (0x6ff, 0x6ff), (0x710, 0x710), (0x712, 0x72f),
  (0x74d, 0x77f), (0x7ca, 0x7ea), (0x840, 0x858), (0x860, 0x860), (0x862, 0x865), (0x867, 0x882),
  (0x886, 0x886), (0x889, 0x88e), (0x8a0, 0x8ac), (0x8ae, 0x8c8), (0x1807, 0x1807),
  (0x1820, 0x1878), (0x1887, 0x18a8), (0x18aa, 0x18aa), (0xa840, 0xa871), (0x10ac0, 0x10ac5),
  (0x10ac7, 0x10ac7), (0x10ac9, 0x10aca), (0x10ace, 0x10ad6), (0x10ad8, 0x10ae1),
  (0x10ae4, 0x10ae4), (0x10aeb, 0x10aef), (0x10b80, 0x10b91), (0x10ba9, 0x10bae),
  (0x10d01, 0x10d23), (0x10f30, 0x10f44), (0x10f51, 0x10f54), (0x10f70, 0x10f81),
  (0x10fb0, 0x10fb0), (0x10fb2, 0x10fb6), (0x10fb8, 0x10fbf), (0x10fc1, 0x10fc4),
  (0x10fc9, 0x10fca), (0x1e922, 0x1e943)]

/-- Whether the next letter, marks left aside, is among the listed ones. -/
def meets (runs : Array (Nat × Nat)) (cs : List Char) : Bool :=
  (cs.dropWhile isNonspacingMark).head?.any (isListed runs)

/-- Whether a joiner means something between what is `before` it, the nearest
first, and what is `after` it. -/
def joinerFits (c : Char) (before after : List Char) : Bool :=
  before.head?.any (combiningClass · == vowelKillerClass) ||
    c == '\u200c' && meets joinNextRuns before && meets joinPreviousRuns after

/-- Whether all joiners mean something. `before` is what precedes, the nearest
first. -/
def joinersFit (before : List Char) : List Char → Bool
  | [] => true
  | c :: rest => (!isJoiner c || joinerFits c before rest) && joinersFit (c :: before) rest

end DueDispatch.Text
