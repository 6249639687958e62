/-!
# Direction and joining

* `bidiClasses` : the characters of the directional classes, by their short names;
* `joiningTypes` : how letters join, by the short names of the types.

A set of characters is written as numbers in base 36, digits then lower-case letters: for each range
the distance from the end of the previous one and the number of characters after its first. Lines are
read one after the other.
-/

namespace Schemata.Unicode

/-- The directional classes other than left to right. -/
def bidiClasses : List (String × List String) := [
  ("R",
    ["14u 0 1 0 2 0 2 0 9 q 4 5 cr 16 9 1 4 0 3 n 4 0 9 0 3 0 7 e 1 o 5 0 4og 0 179p 0 1 9 1 c",
     "1 4 1 0 1 1 1 1 1 9 2i8 5 2 0 1 17 1 1 3 0 2 m 1 1z 8 8 1c i 1 1 5 w 4 p 5 0 1s 1j 4 j 2",
     "1a f 3 1 2 1 s a 8 7 8 7 1r w 10 6 b 9 1h a l 2 q 5 p 7 3 c 6 28 20 1j 1e d 1e 7 5 ao 15",
     "3 0 2 1 26 13 20 h 4 3 12 r k m 16o9 5g 2 8 1c 1v 7 0 4 9 4 1"]),
  ("AL",
    ["16w 0 2 0 1 0 d 1b y 2 1 2s f 1 7 1 a j 1 1 1 t t 2g b 0 4u a 5 u h 15 1bwm 36 g a2 i 1r",
     "2 1h 14 c 37 4 1 3q 2rn z ek l b 8 17o7 1v 24 1o 5e 3 1 q 1 1 1 0 2 0 1 9 1 3 1 0 1 0 6 0",
     "4 0 1 0 1 0 1 2 1 1 1 0 2 0 1 0 1 0 1 0 1 0 1 1 1 0 2 3 1 6 1 3 1 3 1 0 1 9 1 g 5 2 1 4 1",
     "g"]),
  ("AN",
    ["16o 5 2i 9 1 1 34 0 c2 1 28 0 1ff1 9 86 u"]),
  ("EN",
    ["1c 9 3c 1 5 0 186 9 512 0 3 5 6 9 se j 175g 9 qv q 161e 1d 4xs a 25h 9"]),
  ("ES",
    ["17 0 1 0 6do 1 e 1 au 0 16vq 0 mw 1 4n 0 1 0"]),
  ("CS",
    ["18 0 1 1 a 0 2t 0 12j 0 55u 0 k 0 17uz 0 1 0 2 0 52 0 1 1 a 0"]),
  ("ET",
    ["z 2 3g 3 a 1 yl 0 3d 1 2n 0 p3 1 7 0 6t 0 7b 0 g5 0 1wb 0 1n8 4 2z w 31 0 6c 0 qhw 1 h0l",
     "0 9 1 48 2 62 1 3 1 6ba 3 12ji 0"]),
  ("ON",
    ["x 1 3 4 g 5 q 5 q 3 y 0 4 3 1 1 1 1 4 0 1 2 2 4 n 0 v 0 ch 1 7 d 2 d 5 8 1 g 38 1 8 0 5 1",
     "1 0 32 0 b7 0 2 1 3b 1 6 1 5q 0 a 0 7g 3 s9 5 1 0 3h 6 jf 3 uq 9 2u 0 ii 1 9f 9 6 a 8l 0",
     "3 1 48 x 14t 0 1 2 b 2 d 2 d 2 d 1 h n d e 1 p t 2 d 2 35 1 1 3 1 1 a 0 1 2 5 5 1 0 1 0 1",
     "0 g 1 4 4 5 3 2 f 15 2 4 3l 2 81 1x p 1 40 p a l 13 2q ch 1 9e 74 hf 2 v 1 2w 6d 5 e 6 74",
     "2l y p 1 2g c 5x q b 5 3 3 o f 0 5 1 5 2 2j 1 3 0 2i 0 5g z 1l 1 1d f s 2 1e e c 3 4n 3",
     "2r 1 v 0 534 1r h3k 1i 92 2 2r 0 a 1 3k x 2u 0 4f 3 20 3 ky 1 g5u h 3j 0 19 2 g 9 m v 1 0",
     "2 0 1 8 1 1 2 2 1 0 2 0 45 1 3 4 g 5 q 5 q a 3g 2 3 6 a 4 77 0 1q 24 3 c 3 0 1ha 0 ex 6",
     "102 j 16i c 1uw 7 4 g fsg 0 jd2 1 l 1t 3 0 56 2e p0 0 1l 0 1l 0 1l 0 1l 0 4ks 1 7i 17 4",
     "2r c e 2 e 1 e 1 10 l 4 v 0 1m 5 1p 0 4y 5 4a rb 4 g 3 c 3 3a 4 2m 6 b 4 0 f b 4 1j 8 9 6",
     "13 8 t 2 1 26 9f c d 2 c 3 8 7 19 1 6 8 d 4 8 7 8 7 42 1 1i"]),
  ("BN",
    ["0 8 5 d 2r 5 1 p d 0 4m8 0 1ks 2 2a 4 5 5 17yn 0 11gg 3 43z 7 h406 0 u 2n"]),
  ("NSM",
    ["lc 33 7n 6 7b 18 1 0 1 1 1 1 1 0 20 a 1c k g 0 2t 6 2 5 2 1 1 3 z 0 u q 2j a 1m 8 9 0 o 3",
     "1 8 1 2 1 4 17 2 1o 7 16 n 1 v 1j 0 1 0 4 7 4 0 3 6 a 1 t 0 1m 0 4 3 8 0 k 1 q 0 2 1 1l 0",
     "4 1 4 1 2 2 3 0 u 1 3 0 b 1 1l 0 4 4 1 1 4 0 k 1 m 5 1 0 1m 0 2 0 1 3 8 0 7 1 b 1 u 0 1p",
     "0 c 0 1e 0 3 0 1j 0 1 2 5 2 1 3 7 1 b 1 t 0 1m 0 f 1 k 1 s 1 1l 1 4 3 8 0 k 1 t 0 20 0 7",
     "2 1 0 2i 0 2 6 c 7 2q 0 2 8 b 6 21 1 r 0 1 0 1 0 1j d 1 4 1 1 5 a 1 z 9 0 2u 3 1 5 1 1 2",
     "1 p 1 4 2 g 3 d 0 2 1 6 0 f 0 jj 2 qa 2 t 1 u 1 u 1 1s 1 1 6 8 0 2 a 9 0 19 2 1 0 39 1 y",
     "0 3a 2 4 1 9 0 6 2 63 1 2 0 1m 0 1 6 1 0 1 0 2 7 6 9 2 0 1c u 1d 3 1c 0 1 4 1 0 5 0 14 8",
     "c 1 w 3 2 1 1 2 1k 0 1 1 3 0 1 2 1m 7 2 1 48 2 1 c 1 6 4 0 6 0 3 1 5i 1r k0 w 2da 2 3x 0",
     "2o v fe 3 2z 1 n9w 3 1 9 w 1 28 1 7k 0 3 0 4 0 p 1 5 0 47 1 q h d 0 12 7 p a 1a 2 1c 0 2",
     "3 2 1 13 0 1v 5 2 1 2 1 c 0 8 0 1b 0 1f 0 1 2 2 1 5 1 1 0 16 1 8 0 6m 0 2 0 4 0 fn4 0 kh",
     "f g f r1 0 6a 0 45 4 1ae 2 1 1 5 3 14 2 4 0 4l 1 fx 3 ar 1 28 2 1y a 1d 3 3f 0 1i e 15 0",
     "2 1 a 2 1d 3 2 1 7 0 1p 2 10 4 1 7 1q 0 c 1 1g 8 a 3 2 0 2n 2 2 0 1 1 6 0 2 0 4d 0 3 7 l",
     "1 1l 1 3 0 11 6 3 4 5f 7 2 2 1 0 n 0 2c 5 1 0 4 1 1 1 6m 3 6 1 1 1 r 1 2d 7 2 0 1 1 2y 0",
     "1 0 2 5 1 0 2t 2 2 3 1 4 77 8 1 1 74 1 1 0 4 0 40 3 2 1 4 0 w 5 2 1 14 5 2 3 8 0 9 5 2 2",
     "1a c 1 1 ba 6 1 5 2c l 2 6 1 1 1 1 3e 5 3 0 1 1 1 6 1 0 20 1 3 0 1 0 9n 1 b 1 1g 4 5 0 1",
     "0 459 0 6 e asa 4 1n 6 t4 0 1r 3 29 0 f5k 1 3mp 19 2 m f4 2 h 7 2 6 u 3 44 2 1iz 1i 4 1d",
     "8 0 e 0 m 4 1 e 11s 6 1 g 2 6 1 1 1 4 2s 0 4g 6 af 0 1p 3 e4 3 rk 6 31 6 gzhx 6n"])]

/-- The joining types other than none. -/
def joiningTypes : List (String × List String) := [
  ("L",
    ["x9u 0 jfe 0 9 0 fc 0 ju 0"]),
  ("T",
    ["4t 0 gi 33 7n 6 7b 18 1 0 1 1 1 1 1 0 20 a 1 0 1a k g 0 2t 6 2 5 2 1 1 3 x 0 1 0 u q 2j a",
     "1m 8 9 0 o 3 1 8 1 2 1 4 17 2 1o 7 16 n 1 v 1j 0 1 0 4 7 4 0 3 6 a 1 t 0 1m 0 4 3 8 0 k 1",
     "q 0 2 1 1l 0 4 1 4 1 2 2 3 0 u 1 3 0 b 1 1l 0 4 4 1 1 4 0 k 1 m 5 1 0 1m 0 2 0 1 3 8 0 7",
     "1 b 1 u 0 1p 0 c 0 1e 0 3 0 1j 0 1 2 5 2 1 3 7 1 b 1 t 0 1m 0 2 0 6 0 5 1 k 1 s 1 1l 1 4",
     "3 8 0 k 1 t 0 20 0 7 2 1 0 2i 0 2 6 c 7 2q 0 2 8 b 6 21 1 r 0 1 0 1 0 1j d 1 4 1 1 5 a 1",
     "z 9 0 2u 3 1 5 1 1 2 1 p 1 4 2 g 3 d 0 2 1 6 0 f 0 jj 2 qa 2 t 1 u 1 u 1 1s 1 1 6 8 0 2 a",
     "9 0 19 2 1 0 39 1 y 0 3a 2 4 1 9 0 6 2 63 1 2 0 1m 0 1 6 1 0 1 0 2 7 6 9 2 0 1c u 1d 3 1c",
     "0 1 4 1 0 5 0 14 8 c 1 w 3 2 1 1 2 1k 0 1 1 3 0 1 2 1m 7 2 1 48 2 1 c 1 6 4 0 6 0 3 1 5i",
     "1r ej 0 2 1 q 4 1d 4 5 5 2o w 2da 2 3x 0 2o v fe 3 2z 1 n9w 3 1 9 w 1 28 1 7k 0 3 0 4 0 p",
     "1 5 0 47 1 q h d 0 12 7 p a 1a 2 1c 0 2 3 2 1 13 0 1v 5 2 1 2 1 c 0 8 0 1b 0 1f 0 1 2 2 1",
     "5 1 1 0 16 1 8 0 6m 0 2 0 4 0 fn4 0 kh f g f 5r 0 6x 2 e9 0 6a 0 45 4 1ae 2 1 1 5 3 14 2",
     "4 0 4l 1 fx 3 ar 1 28 2 1y a 1d 3 3f 0 1i e 15 0 2 1 a 2 1d 3 2 1 7 0 1p 2 10 4 1 7 1q 0",
     "c 1 1g 8 a 3 2 0 2n 2 2 0 1 1 6 0 2 0 4d 0 3 7 l 1 1l 1 3 0 11 6 3 4 5f 7 2 2 1 0 n 0 2c",
     "5 1 0 4 1 1 1 6m 3 6 1 1 1 r 1 2d 7 2 0 1 1 2y 0 1 0 2 5 1 0 2t 2 2 3 1 4 77 8 1 1 74 1 1",
     "0 4 0 40 3 2 1 4 0 w 9 14 5 2 3 8 0 9 5 2 2 1a c 1 1 ba 6 1 5 1 0 2a l 2 6 1 1 1 1 3e 5 3",
     "0 1 1 1 6 1 0 20 1 3 0 1 0 9n 1 b 1 1g 4 5 0 1 0 44t g 6 e asa 4 1n 6 t4 0 1r 3 29 0 f5k",
     "1 1 3 3mk 19 2 m f4 2 9 f 2 6 u 3 44 2 1iz 1i 4 1d 8 0 e 0 m 4 1 e 11s 6 1 g 2 6 1 1 1 4",
     "2s 0 4g 6 af 0 1p 3 e4 3 rk 6 31 7 gzat 0 u 2n 3k 6n"]),
  ("D",
    ["17k 0 5 0 1 0 1 4 4 c 1 6 1 1 z 1 8 f i 11 1 1 9 0 1 0 1 1 14 2 2 0 i 2 5 3 1 8 1 0 1 0 1",
     "1 v a 3 e 2 3 1 0 2 2 2 5 22 w 2e 4 2 0 1 9 1 0 a 0 1 3 2 0 t 0 2 4 i 9 5 1 2 5 1 e 30e 0",
     "o 2g e x 1 0 sd1 1d jf2 4 e 3 1 4 1 2 a 3 41 0 1 0 3 2 1 1 1 0 2 0 s 1 9e w 1 0 ek 2 1 g",
     "c 2 s 3 2 b 1a 0 1 1 4 0 2 1 1 1 1 0 2 0 5 0 16wl 1v"]),
  ("R",
    ["17m 3 1 0 1 0 5 3 l 0 14 2 1 2 g h 12 0 2 8 1 0 1 0 2 1 1 0 o 1 w 0 4 4 4 0 9 0 1 0 1 0 2",
     "0 t 0 b 2 f 1 4 0 1 1 3 1 5i 0 5 1 1 0 a 0 1 2 e 0 1 1 5 i b 0 r 2 1 0 2 1 6 0 1eyz 0 1 0",
     "1 1 3 4 a 0 3 0 2 0 a 0 41 0 1 2 3 0 2 0 1 1 1 0 n 3 ad 0 eo 0 w 0 v 1 1q 2 2 1 2 0 4 1 5",
     "0"])]

end Schemata.Unicode
