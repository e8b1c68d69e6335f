import ReviewDesk.Text.Runs

/-!
# Signs of certain scripts

A few signs may stand in a name only beside letters of their own script.
-/

namespace ReviewDesk
namespace Label

open Text

def greekRuns : Runs :=
  [(0x371, 0x3E1), (0x3F3, 0x3FC), (0x1D26, 0x1D2A), (0x1F00, 0x1FF6), (0xAB65, 0xAB65)]

def hebrewRuns : Runs :=
  [(0x591, 0x5F4), (0xFB1E, 0xFB1E)]

def japaneseRuns : Runs :=
  [(0x3005, 0x3005), (0x3007, 0x3007), (0x3041, 0x3096), (0x309D, 0x30FA), (0x30FD, 0x30FE),
    (0x31F0, 0x9FFF), (0xFA0E, 0xFA29), (0x16FE3, 0x16FE3), (0x16FF0, 0x16FF1),
    (0x1AFF0, 0x1B167), (0x20000, 0x3134A)]

def middleDot : Char := Char.ofNat 0xB7
def greekNumeralSign : Char := Char.ofNat 0x375
def hebrewMarks : List Char := [Char.ofNat 0x5F3, Char.ofNat 0x5F4]
def katakanaDot : Char := Char.ofNat 0x30FB

def isArabicDigit (c : Char) : Bool :=
  0x660 ≤ c.toNat && c.toNat ≤ 0x669

def isPersianDigit (c : Char) : Bool :=
  0x6F0 ≤ c.toNat && c.toNat ≤ 0x6F9

def fitsSign (c : Char) (before after : List Char) : Bool :=
  if c == middleDot then before.head? == some 'l' && after.head? == some 'l'
  else if c == greekNumeralSign then after.head?.any greekRuns.has
  else if hebrewMarks.contains c then before.head?.any hebrewRuns.has
  else if c == katakanaDot then (before ++ after).any japaneseRuns.has
  else if isArabicDigit c then !(before ++ after).any isPersianDigit
  else if isPersianDigit c then !(before ++ after).any isArabicDigit
  else false

end Label
end ReviewDesk
