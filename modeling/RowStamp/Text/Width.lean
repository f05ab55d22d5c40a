import RowStamp.Text.Runs

/-!
The number of terminal columns that a text takes: wide East Asian characters take two, combining
marks and invisible format characters none.
-/

set_option autoImplicit false
set_option relaxedAutoImplicit false

namespace RowStamp.Text

private def wideChanges : List Nat := Runs.ofLines [
  "3cw 2o 3i2 2 d 2 5a 4 3 1 2 1 eh 2 l 2 1e c 17 1 j 1 d 1 8 2 h 2 5 2 8 1 5 1 l 1 7 2 1 1",
  "4 1 2 1 7 1 4 2 s 1 z 1 1 1 4 3 1 1 1p 3 o 1 e 1 nv 2 1f 1 4 1 mi q 1 2h c 5y q c 4 1r 2",
  "2e 2 2v 5 17 1 2m 1 2c c 1b 1 14 8 5f4 1s h3h 3 1j wp t hv 8mc 6l8 e8 ls a m z 1 j 1 4",
  "45 2o 3j 7 m49 5 b 2 e 5p2 16 v 2p 37 6pp 4 1 7 1 2 1 83 19 3 h 4 8 b0 c20 1 5m 1 5a 1 2",
  "a 2t 3 d 18 4 9 7 2 e 6 4a x c 9 1 1y 1 m c 17 4 5 c h 3 1 3 1z 1 1 1 57 2 1r d 4 1 o i",
  "1 q 2 d 1 2e 2d 1c 1y 6 1 3 3 2 4 3 4 b 2 7 9 6b c 4 1 7v 1b 1 a 1 55 34 d 3 b 3 1l 1 1",
  "4 g 2 c 4 a zr 1eke 2 1eke"]

private def zeroWidthChanges : List Nat := Runs.ofLines [
  "lc 34 7n 7 7b 19 1 1 1 2 1 2 1 1 20 b 1c l g 1 2t 7 2 6 2 2 1 4 z 1 u r 2j b 1m 9 9 1 o",
  "4 1 9 1 3 1 5 17 3 1n 9 16 o 1 w 1j 1 1 1 4 8 4 1 3 7 a 2 t 1 1m 1 1 1 2 4 8 1 9 1 a 2 q",
  "1 2 2 1l 1 4 2 4 2 2 3 3 1 u 2 3 1 b 2 1l 1 4 5 1 2 4 1 k 2 m 6 1 1 1m 1 1 2 1 4 8 1 7 3",
  "a 2 u 1 1n 1 1 1 c 1 9 1 14 1 3 1 1j 1 1 3 5 3 1 4 7 2 b 2 t 1 1m 1 2 2 1 1 3 3 1 4 7 2",
  "b 2 s 2 1l 2 1 1 2 4 8 1 9 1 a 2 t 1 20 1 4 1 2 3 1 1 8 1 29 1 2 7 c 8 2q 1 2 9 b 7 21 2",
  "r 1 1 1 1 1 1j e 1 5 1 2 5 b 1 10 9 1 2u 4 1 6 1 2 2 2 p 2 4 3 g 4 d 1 2 2 6 1 f 1 5d 4h",
  "9p 3 qa 4 s 3 t 2 u 2 1s 2 1 7 8 1 2 b 9 1 19 3 1 1 39 2 y 1 3a 3 4 2 9 1 6 3 63 2 2 1",
  "1m 1 1 7 1 1 1 1 2 8 6 a 2 1 1c 1a 2 c k 4 1c a 4 3 12 9 c 2 w 4 2 6 1k 1 1 2 3 1 1 5 1k",
  "8 2 2 48 3 1 d 1 7 4 1 6 1 3 2 5i 1s ej 5 q 5 1d 5 1 a 2o x 2da 3 3x 1 2o w fe 6 2x 2 5l",
  "1 n4a 4 1 a w 2 28 2 7k 1 3 1 4 1 p 2 5 1 47 2 q i d 1 12 8 p b 1 1 18 3 1c 1 2 4 2 2 2",
  "1 10 1 1v 6 2 2 2 2 c 1 8 1 1b 1 1f 1 1 3 2 2 5 2 1 1 16 2 8 1 6m 1 2 1 4 1 fn4 1 kh g g",
  "g 5r 1 4e 2 2h 3 e9 1 6a 1 45 5 1ae 3 1 2 5 4 14 3 4 1 4l 2 fx 4 1t 5 8t 2 25 6 1y b 1d",
  "4 3f 1 1i f 15 1 2 2 a 3 1d 4 2 2 2 1 4 1 a 1 1e 3 10 5 1 8 1q 1 c 2 1g 9 1 1 8 4 2 1 2n",
  "3 2 4 6 1 2 1 4d 1 3 8 l 2 1l 2 1 1 1 1 c 1 9 1 e 7 3 5 1v 1 2 6 1 1 2 1 1 3 4 3 1 1 e 2",
  "2d 8 2 3 1 1 n 1 29 1 2 6 1 1 2 1 1 2 1 2 6j 1 2 4 6 2 1 2 r 2 2d 8 2 1 1 2 2y 1 1 1 2 8",
  "2t 3 2 4 1 5 77 9 1 2 6t 1 a 4 4 1 40 4 2 2 4 1 w a 14 6 2 4 8 1 9 6 2 3 1a d 1 2 5i 1 1",
  "3 1 1 5l 7 1 6 1 1 2a m 2 7 1 2 1 2 3e 6 3 1 1 2 1 7 1 1 20 2 3 1 1 1 9n 2 b 2 1g 5 5 3",
  "n 1 445 9 7 1 6 f 8ug c 3 3 1xc 5 1n 7 t4 1 1r 4 29 1 b 2 f57 2 1 4 3mk 1a 2 n f2 5 3 m",
  "2 7 u 4 44 3 1iz 1j 4 1e 8 1 e 1 m 5 1 f 11s 7 1 h 2 7 1 2 1 5 2s 1 4g 7 af 1 1p 4 e4 4",
  "72 2 6r 1 2 1 7 2 5 1 d6 7 31 7 gzau 1 u 2o 3k 6o"]

def charWidth (c : Char) : Nat :=
  if c.toNat < 128 then 1
  else if Runs.mem zeroWidthChanges c.toNat then 0
  else if Runs.mem wideChanges c.toNat then 2
  else 1

def width (s : String) : Nat := (s.toList.map charWidth).foldl (· + ·) 0

end RowStamp.Text
