import ReviewDesk.Text.Combining
import ReviewDesk.Text.Composition

/-!
# Joined letters

In cursive scripts a letter joins its neighbours.  A joiner that takes no room may stand
in a name only after a mark that takes the vowel from a letter, or, if it keeps letters
apart, between two letters that would join.
-/

namespace ReviewDesk
namespace Label

open Text

inductive Join where
  | none
  | preceding
  | following
  | both
  | passed
  deriving DecidableEq

def joinRuns : List (Nat × Nat × Join) :=
  [(0x620, 0x620, .both), (0x622, 0x625, .preceding), (0x626, 0x626, .both),
    (0x627, 0x627, .preceding), (0x628, 0x628, .both), (0x629, 0x629, .preceding),
    (0x62A, 0x62E, .both), (0x62F, 0x632, .preceding), (0x633, 0x647, .both),
    (0x648, 0x648, .preceding), (0x649, 0x64A, .both), (0x66E, 0x66F, .both),
    (0x671, 0x673, .preceding), (0x679, 0x687, .both), (0x688, 0x699, .preceding),
    (0x69A, 0x6BF, .both), (0x6C0, 0x6C0, .preceding), (0x6C1, 0x6C2, .both),
    (0x6C3, 0x6CB, .preceding), (0x6CC, 0x6CC, .both), (0x6CD, 0x6CD, .preceding),
    (0x6CE, 0x6CE, .both), (0x6CF, 0x6CF, .preceding), (0x6D0, 0x6D1, .both),
    (0x6D2, 0x6D5, .preceding), (0x6EE, 0x6EF, .preceding), (0x6FA, 0x6FC, .both),
    (0x6FF, 0x6FF, .both), (0x710, 0x710, .preceding), (0x712, 0x714, .both),
    (0x715, 0x719, .preceding), (0x71A, 0x71D, .both), (0x71E, 0x71E, .preceding),
    (0x71F, 0x727, .both), (0x728, 0x728, .preceding), (0x729, 0x729, .both),
    (0x72A, 0x72A, .preceding), (0x72B, 0x72B, .both), (0x72C, 0x72C, .preceding),
    (0x72D, 0x72E, .both), (0x72F, 0x74D, .preceding), (0x74E, 0x758, .both),
    (0x759, 0x75B, .preceding), (0x75C, 0x76A, .both), (0x76B, 0x76C, .preceding),
    (0x76D, 0x770, .both), (0x771, 0x771, .preceding), (0x772, 0x772, .both),
    (0x773, 0x774, .preceding), (0x775, 0x777, .both), (0x778, 0x779, .preceding),
    (0x77A, 0x77F, .both), (0x7CA, 0x7EA, .both), (0x840, 0x840, .preceding),
    (0x841, 0x845, .both), (0x846, 0x847, .preceding), (0x848, 0x848, .both),
    (0x849, 0x849, .preceding), (0x84A, 0x853, .both), (0x854, 0x854, .preceding),
    (0x855, 0x855, .both), (0x856, 0x858, .preceding), (0x860, 0x860, .both),
    (0x862, 0x865, .both), (0x867, 0x867, .preceding), (0x868, 0x868, .both),
    (0x869, 0x882, .preceding), (0x886, 0x886, .both), (0x889, 0x88D, .both),
    (0x88E, 0x88E, .preceding), (0x8A0, 0x8A9, .both), (0x8AA, 0x8AC, .preceding),
    (0x8AE, 0x8AE, .preceding), (0x8AF, 0x8B0, .both), (0x8B1, 0x8B2, .preceding),
    (0x8B3, 0x8B8, .both), (0x8B9, 0x8B9, .preceding), (0x8BA, 0x8C8, .both),
    (0xCBF, 0xCBF, .passed), (0xCC6, 0xCC6, .passed), (0x1820, 0x1878, .both),
    (0x1887, 0x18AA, .both), (0xA840, 0xA871, .both), (0xA872, 0xA872, .following),
    (0x10AC0, 0x10AC4, .both), (0x10AC5, 0x10AC5, .preceding), (0x10AC7, 0x10ACA, .preceding),
    (0x10ACD, 0x10ACD, .following), (0x10ACE, 0x10AD2, .preceding), (0x10AD3, 0x10AD6, .both),
    (0x10AD7, 0x10AD7, .following), (0x10AD8, 0x10ADC, .both), (0x10ADD, 0x10ADD, .preceding),
    (0x10ADE, 0x10AE0, .both), (0x10AE1, 0x10AE1, .preceding), (0x10AE4, 0x10AE4, .preceding),
    (0x10B80, 0x10B80, .both), (0x10B81, 0x10B81, .preceding), (0x10B82, 0x10B82, .both),
    (0x10B83, 0x10B85, .preceding), (0x10B86, 0x10B88, .both), (0x10B89, 0x10B89, .preceding),
    (0x10B8A, 0x10B8B, .both), (0x10B8C, 0x10B8C, .preceding), (0x10B8D, 0x10B8D, .both),
    (0x10B8E, 0x10B8F, .preceding), (0x10B90, 0x10B90, .both), (0x10B91, 0x10B91, .preceding),
    (0x10D00, 0x10D00, .following), (0x10D01, 0x10D21, .both), (0x10D22, 0x10D22, .preceding),
    (0x10D23, 0x10D23, .both), (0x10F30, 0x10F32, .both), (0x10F33, 0x10F33, .preceding),
    (0x10F34, 0x10F44, .both), (0x10F70, 0x10F73, .both), (0x10F74, 0x10F75, .preceding),
    (0x10F76, 0x10FB0, .both), (0x10FB2, 0x10FB3, .both), (0x10FB4, 0x10FB6, .preceding),
    (0x10FB8, 0x10FB8, .both), (0x10FB9, 0x10FBA, .preceding), (0x10FBB, 0x10FBC, .both),
    (0x10FBD, 0x10FBD, .preceding), (0x10FBE, 0x10FBF, .both), (0x10FC1, 0x10FC1, .both),
    (0x10FC2, 0x10FC3, .preceding), (0x10FC4, 0x10FC4, .both), (0x1171E, 0x1171E, .none),
    (0x11A07, 0x11A08, .passed), (0x11C3F, 0x11C3F, .passed), (0x1E922, 0x1E943, .both),
    (0x1E94B, 0x1E94B, .passed)]

def join (c : Char) : Join :=
  match joinRuns.find? fun (first, last, _) => first ≤ c.toNat && c.toNat ≤ last with
  | some (_, _, j) => j
  | none => if isPlainMark c then .passed else .none

def vowelKiller : Nat := 9

def follows (before : List Char) : Bool :=
  match before with
  | c :: _ => markClass c == vowelKiller
  | [] => false

def nearest (cs : List Char) : Join :=
  ((cs.map join).find? (· ≠ .passed)).getD .none

def separates (before after : List Char) : Bool :=
  (nearest before = .following || nearest before = .both) &&
    (nearest after = .preceding || nearest after = .both)

def zeroWidthNonJoiner : Char := Char.ofNat 0x200C
def zeroWidthJoiner : Char := Char.ofNat 0x200D

def fitsJoiner (c : Char) (before after : List Char) : Bool :=
  follows before || (c == zeroWidthNonJoiner && separates before after)

end Label
end ReviewDesk
