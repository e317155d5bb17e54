import SeedSync.Text.Composition
import SeedSync.Text.Mark
import SeedSync.Text.Table
import SeedSync.Url.Folding

/-!
Letters that are written in one stroke with their neighbours, and where a joiner, which has no
shape of its own, makes a difference between them.
-/

namespace SeedSync.Joining

/-- The neighbour with which a letter can be joined. -/
inductive Side
  | previous
  | next
  | either
  deriving DecidableEq, Repr

/-- Intervals of letters that can be joined. What no name holds may lie in any interval. -/
def intervals : Array (Nat × Nat × Side) :=
  #[(0x620, 0x620, .either), (0x622, 0x625, .previous), (0x626, 0x626, .either),
    (0x627, 0x627, .previous), (0x628, 0x628, .either), (0x629, 0x629, .previous),
    (0x62A, 0x62E, .either), (0x62F, 0x632, .previous), (0x633, 0x63F, .either),
    (0x641, 0x647, .either), (0x648, 0x648, .previous), (0x649, 0x64A, .either),
    (0x66E, 0x66F, .either), (0x671, 0x673, .previous), (0x679, 0x687, .either),
    (0x688, 0x699, .previous), (0x69A, 0x6BF, .either), (0x6C0, 0x6C0, .previous),
    (0x6C1, 0x6C2, .either), (0x6C3, 0x6CB, .previous), (0x6CC, 0x6CC, .either),
    (0x6CD, 0x6CD, .previous), (0x6CE, 0x6CE, .either), (0x6CF, 0x6CF, .previous),
    (0x6D0, 0x6D1, .either), (0x6D2, 0x6D3, .previous), (0x6D5, 0x6D5, .previous),
    (0x6EE, 0x6EF, .previous), (0x6FA, 0x6FC, .either), (0x6FF, 0x6FF, .either),
    (0x710, 0x710, .previous), (0x712, 0x714, .either), (0x715, 0x719, .previous),
    (0x71A, 0x71D, .either), (0x71E, 0x71E, .previous), (0x71F, 0x727, .either),
    (0x728, 0x728, .previous), (0x729, 0x729, .either), (0x72A, 0x72A, .previous),
    (0x72B, 0x72B, .either), (0x72C, 0x72C, .previous), (0x72D, 0x72E, .either),
    (0x72F, 0x74D, .previous), (0x74E, 0x758, .either), (0x759, 0x75B, .previous),
    (0x75C, 0x76A, .either), (0x76B, 0x76C, .previous), (0x76D, 0x770, .either),
    (0x771, 0x771, .previous), (0x772, 0x772, .either), (0x773, 0x774, .previous),
    (0x775, 0x777, .either), (0x778, 0x779, .previous), (0x77A, 0x77F, .either),
    (0x7CA, 0x7EA, .either), (0x840, 0x840, .previous), (0x841, 0x845, .either),
    (0x846, 0x847, .previous), (0x848, 0x848, .either), (0x849, 0x849, .previous),
    (0x84A, 0x853, .either), (0x854, 0x854, .previous), (0x855, 0x855, .either),
    (0x856, 0x858, .previous), (0x860, 0x860, .either), (0x862, 0x865, .either),
    (0x867, 0x867, .previous), (0x868, 0x868, .either), (0x869, 0x882, .previous),
    (0x886, 0x886, .either), (0x889, 0x88D, .either), (0x88E, 0x88E, .previous),
    (0x88F, 0x8A9, .either), (0x8AA, 0x8AC, .previous), (0x8AE, 0x8AE, .previous),
    (0x8AF, 0x8B0, .either), (0x8B1, 0x8B2, .previous), (0x8B3, 0x8B8, .either),
    (0x8B9, 0x8B9, .previous), (0x8BA, 0x8C8, .either), (0x1807, 0x1807, .either),
    (0x1820, 0x1878, .either), (0x1887, 0x18AA, .either), (0xA840, 0xA871, .either),
    (0xA872, 0xA872, .next), (0x10AC0, 0x10AC4, .either), (0x10AC5, 0x10AC5, .previous),
    (0x10AC7, 0x10AC7, .previous), (0x10AC9, 0x10ACA, .previous), (0x10ACD, 0x10ACD, .next),
    (0x10ACE, 0x10AD2, .previous), (0x10AD3, 0x10AD6, .either), (0x10AD7, 0x10AD7, .next),
    (0x10AD8, 0x10ADC, .either), (0x10ADD, 0x10ADD, .previous), (0x10ADE, 0x10AE0, .either),
    (0x10AE1, 0x10AE1, .previous), (0x10AE4, 0x10AE4, .previous), (0x10AEB, 0x10AEE, .either),
    (0x10AEF, 0x10AEF, .previous), (0x10B80, 0x10B80, .either), (0x10B81, 0x10B81, .previous),
    (0x10B82, 0x10B82, .either), (0x10B83, 0x10B85, .previous), (0x10B86, 0x10B88, .either),
    (0x10B89, 0x10B89, .previous), (0x10B8A, 0x10B8B, .either), (0x10B8C, 0x10B8C, .previous),
    (0x10B8D, 0x10B8D, .either), (0x10B8E, 0x10B8F, .previous), (0x10B90, 0x10B90, .either),
    (0x10B91, 0x10B91, .previous), (0x10BA9, 0x10BAC, .previous), (0x10BAD, 0x10BAE, .either),
    (0x10D00, 0x10D00, .next), (0x10D01, 0x10D21, .either), (0x10D22, 0x10D22, .previous),
    (0x10D23, 0x10D23, .either), (0x10EC2, 0x10EC2, .previous), (0x10EC3, 0x10EC4, .either),
    (0x10EC6, 0x10EC7, .either), (0x10F30, 0x10F32, .either), (0x10F33, 0x10F33, .previous),
    (0x10F34, 0x10F44, .either), (0x10F51, 0x10F53, .either), (0x10F54, 0x10F54, .previous),
    (0x10F70, 0x10F73, .either), (0x10F74, 0x10F75, .previous), (0x10F76, 0x10F81, .either),
    (0x10FB0, 0x10FB0, .either), (0x10FB2, 0x10FB3, .either), (0x10FB4, 0x10FB6, .previous),
    (0x10FB8, 0x10FB8, .either), (0x10FB9, 0x10FBA, .previous), (0x10FBB, 0x10FBC, .either),
    (0x10FBD, 0x10FBD, .previous), (0x10FBE, 0x10FBF, .either), (0x10FC1, 0x10FC1, .either),
    (0x10FC2, 0x10FC3, .previous), (0x10FC4, 0x10FC4, .either), (0x10FC9, 0x10FC9, .previous),
    (0x10FCA, 0x10FCA, .either), (0x10FCB, 0x10FCB, .next), (0x1E922, 0x1E943, .either)]

def side? (c : Char) : Option Side :=
  match Table.floor? intervals Prod.fst c.toNat with
  | some (_, last, side) => if c.toNat ≤ last && !Mark.isNonspacing c then some side else none
  | none => none

/-- Characters across which letters are joined. -/
def isTransparent (c : Char) : Bool := Mark.isNonspacing c || c.toNat == 0x1E94B

/-- The sign of a script that takes the vowel from the letter before it. -/
def isVirama (c : Char) : Bool := Composition.classOf c == 9

/-- Whether the first letter of a text, marks apart, can be joined on the side `side`. -/
def reaches (side : Side) (cs : List Char) : Bool :=
  match ((cs.dropWhile isTransparent).head?).bind side? with
  | some s => s == side || s == .either
  | none => false

/-- Whether a joiner may stand between two texts, the first of which has its last character first:
behind such a sign, or, to keep them apart, between letters that would be joined. -/
def mayStand (before : List Char) (joiner : Char) (after : List Char) : Bool :=
  before.head?.any isVirama ||
    (joiner == '\u200c' && reaches .next before && reaches .previous after)

/-- Whether all joiners behind a text, which has its last character first, may stand. -/
def allStand (before : List Char) : List Char → Bool
  | [] => true
  | c :: after =>
    (!Folding.isJoiner c || mayStand before c after) && allStand (c :: before) after

end SeedSync.Joining
