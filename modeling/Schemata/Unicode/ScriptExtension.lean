/-!
# Script extensions

* `scriptExtensions` : the characters used with each script, shared ones included.

A set of characters is written as numbers in base 36, digits then lower-case letters: for each range
the distance from the end of the previous one and the number of characters after its first. Lines are
read one after the other.
-/

namespace Schemata.Unicode

/-- The script extensions by the long names of the scripts. -/
def scriptExtensions : List (String × List String) := [
  ("Adlam",
    ["17j 0 w 0 55a 0 2r5 0 2fge 23 4 9 4 1"]),
  ("Ahom",
    ["1j40 q 2 e 4 m"]),
  ("Anatolian_Hieroglyphs",
    ["1s00 g6"]),
  ("Arabic",
    ["16o 4 1 5y 1 x 28 1b 6o x 5 22 1 s 4lr 0 2r5 0 14i6 hr w f 34 4 1 3q rn r 290 u 1v 5 8 8",
     "x 5 181s 3 1 q 1 1 1 0 2 0 1 9 1 3 1 0 1 0 6 0 4 0 1 0 1 0 1 2 1 1 1 0 2 0 1 0 1 0 1 0 1",
     "0 1 1 1 0 2 3 1 6 1 3 1 3 1 0 1 9 1 g 5 2 1 4 1 g 1g 1"]),
  ("Armenian",
    ["lk 0 fc 11 2 1d 2 2 1chv 4"]),
  ("Avestan",
    ["53 0 8zc 1 17m6 1h 3 6"]),
  ("Balinese",
    ["5c0 24 1 1d"]),
  ("Bamum",
    ["www 2f 124o fs"]),
  ("Bassa_Vah",
    ["1zo0 t 2 5"]),
  ("Batak",
    ["5hc 1f 8 3"]),
  ("Bengali",
    ["jg 0 1as 1 h 1 q 3 1 7 2 1 2 l 1 6 1 0 3 3 2 8 2 1 2 3 8 0 4 1 1 4 2 o 3pt 0 1 0 2 1 1 0",
     "8 0 8 0 2 0 4 0 2 2 rnd 0"]),
  ("Beria_Erfe",
    ["20f4 o 2 o"]),
  ("Bhaiksuki",
    ["1k3k 8 1 18 1 d a s"]),
  ("Bopomofo",
    ["jr 0 1 2 d 0 g 1 8wl 2 4 9 1 c a 3 2 0 6 0 5f 0 9 16 34 v 14ed 1 7u 4"]),
  ("Brahmi",
    ["1hq8 25 4 z 9 0"]),
  ("Braille",
    ["7wg 73"]),
  ("Buginese",
    ["54w r 2 1 sdr 0"]),
  ("Buhid",
    ["4l1 1 9 j"]),
  ("Canadian_Aboriginal",
    ["3y8 hr fk 1x 1ewq f"]),
  ("Carian",
    ["53 0 68y 0 2 0 2qb 0 15ym 1c"]),
  ("Caucasian_Albanian",
    ["lg 0 18 0 18 0 1exd 1f b 0"]),
  ("Chakma",
    ["1ye 9 18w 9 1epi 1g 1 h"]),
  ("Cham",
    ["xkw 1i 9 d 2 9 2 3"]),
  ("Cherokee",
    ["lc 2 1 0 6 1 m 1 b 1 38u 2d 2 5 twy 27"]),
  ("Chorasmian",
    ["1ho0 r"]),
  ("Common",
    ["0 1s q 5 q 1a 1 b 1 1 1 4 n 0 v 0 ch 2 1 9 1 0 3 0 1 8 1 0 1 5 5 4 2 j 3i 0 6 0 1 0 hp 0",
     "5z 0 ec 0 124 0 b9 3 36v b 2 w 1 u 1 9 1 1 1 6 1 a 3 a 1 e h x 1q 11 1 2 2 5 1 q 1 g 15 2",
     "4 ih m a l pr 74 hf 2 3t e8 m 1 n 2 9 1 3 1 0 1 p bm 0 3 0 d 0 d 0 l 0 ep n v 0 1d e c 3",
     "4h 9 5 2n v 0 534 1r hl4 p 2u 2 r4 0 e 1 gbo 9 m k 2 b 1 i 1 3 43 0 1 v q 5 q 5 3j 6 1 6",
     "a 4 b6 c 1f 18 13wj 70 3 c3 6 m f g 2n 37 1o 6t a 12 2 1p 3 g 8 1 7 t 4 1o 5x j c j c 2e",
     "r 6 3r 2c 1 1y 1 1 2 0 2 1 2 3 1 b 1 0 1 6 1 1s 1 3 2 7 1 6 1 r 1 3 1 4 1 0 3 6 1 9f 2 83",
     "2 1d 41d 1v 24 1o jm 17 4 2r c e 2 e 1 e 1 10 a 4t 1k p 1 1 d 17 4 8 n 5 4a rc 3 g 3 c 3",
     "61 6 b 4 0 f b 4 1j 8 9 6 13 8 t 2 b 4 1 e 8 13 9j 8 d 2 c 3 a 3 1k 1 0 4 f 2 b 4 9 7 42",
     "1 2u gvly 0 u 2n"]),
  ("Coptic",
    ["53 0 g8 0 3 1 1 0 30 1 30 d 80g 37 5 6 7r 0 1614 r"]),
  ("Cuneiform",
    ["1kw0 pl 2u 32 1 4 b 5f"]),
  ("Cypriot",
    ["1erk 2 4 18 3 8 1c0 5 2 0 1 17 1 1 3 0 2 0"]),
  ("Cypro_Minoan",
    ["1erk 1 972 2q"]),
  ("Cyrillic",
    ["jg 0 1v 2 1 0 1 0 1 0 2 0 5 0 6m 8f 4ls a 4g 0 24 0 3j 0 353 v 1v 0 np8 2n ham 1 18n4 1p",
     "x 0"]),
  ("Deseret",
    ["1fcw 27"]),
  ("Devanagari",
    ["jg 0 18j 2a 2 16 3tc 12 1 1 s6 0 qpr 9 4m v mio 9"]),
  ("Dives_Akuru",
    ["1ji8 6 2 0 2 7 1 1 1 t 1 1 2 b 9 9"]),
  ("Dogra",
    ["1us b vcw 9 m2u 1n"]),
  ("Duployan",
    ["53 0 gf 1 1 0 o 1 8if 0 26kj 2y 5 c 3 8 7 9 2 7"]),
  ("Egyptian_Hieroglyphs",
    ["1o1s ut a 32y"]),
  ("Elbasan",
    ["53 0 gd 0 1eyi 13"]),
  ("Elymaic",
    ["1hpc m"]),
  ("Ethiopic",
    ["lq 0 2y9 20 1 3 2 6 1 0 1 3 2 14 1 3 2 w 1 3 2 6 1 0 1 3 2 e 1 1k 1 3 2 1u 2 v 3 p 546 m",
     "9 6 1 6 1 6 1 6 1 6 1 6 1 6 1 6 opu 5 2 5 2 5 9 6 1 6 1qk1 6 1 3 1 1 1 e"]),
  ("Garay",
    ["170 0 e 0 3 0 1fz4 11 3 s 8 1"]),
  ("Georgian",
    ["53 0 y9 0 26u 11 1 0 5 0 2 1b 2a8 16 2 2 pm 0 2hx 11 1 0 5 0 77 0"]),
  ("Glagolitic",
    ["53 0 gb 0 1 0 am 0 2 0 75 0 29d 0 31a 0 2at 2n df 0 nqj 0 1pxs 6 1 g 2 6 1 1 1 4"]),
  ("Gothic",
    ["53 0 gc 1 2 0 14 0 1eke q"]),
  ("Grantha",
    ["1u9 1 h 1 hs d 3bw 0 1 1 u 2 3 1 s6 0 1btb 3 1 7 2 1 2 l 1 6 1 1 1 4 1 9 2 1 2 2 2 0 6 0",
     "5 6 2 6 3 4 2fv 1 1 0"]),
  ("Greek",
    ["53 0 g8 1 2 0 1 0 1 0 a 0 1a 0 2 0 16 7 2 3 1 0 4 0 1 0 1 2 1 0 1 j 1 1q e f 4yu 4 1e 4 4",
     "4 2c 2 8u l 2 5 2 11 2 5 2 7 1 0 1 0 1 0 1 u 2 1g 1 e 1 d 2 5 1 i 2 2 1 8 2m 0 5k 0 rb2 0",
     "gyi 26 h 0 155r 1x"]),
  ("Gujarati",
    ["1u9 1 h 1 7v 2 1 8 1 2 1 l 1 6 1 1 1 4 2 9 1 2 1 2 2 0 f 3 2 b 7 6 v1s 9"]),
  ("Gunjala_Gondi",
    ["53 0 1po 1 1iii 5 1 1 1 10 1 1 1 5 7 9"]),
  ("Gurmukhi",
    ["1u9 1 h 1 4b 2 1 5 4 1 2 l 1 6 1 1 1 1 1 1 2 0 1 4 4 1 2 2 3 0 7 3 1 0 7 g v5l 9"]),
  ("Gurung_Khema",
    ["1ut 0 1vve 1l"]),
  ("Han",
    ["53 0 91k p 1 2g c 5x q f 1 2 1 c 1 c 1 c 2 0 6 8 57 0 44 f w 11 9 0 1c 13 1k 1c f b 1f 0",
     "2g o a 4 2o u 1 533 1s g73 1ds 7 g6w a5 2 2x ob 1 7u 4 m7w 1 c 6 jmx h 63i 1 2pa wyn w",
     "3dp 2 4gd 2 5rk f h9 1wi f1 15u 3t6 5 6jt"]),
  ("Hangul",
    ["3cw 73 5xd 2 4 9 1 c e 2 6 0 5f 0 1h 2l 35 u 1t u nhd s hv 8mb c m 4 1c 7k9 1 7u 4 1m u 3",
     "5 2 5 2 5 2 2"]),
  ("Hanifi_Rohingya",
    ["170 0 e 0 3 0 w 0 43 0 1fsb 13 8 9"]),
  ("Hanunoo",
    ["4kg m"]),
  ("Hatran",
    ["1gbk i 1 1 5 4"]),
  ("Hebrew",
    ["lj 1 i0 1i 8 q 4 5 1cfc p 1 4 1 0 1 1 1 1 1 9"]),
  ("Hiragana",
    ["9hd 2 4 9 1 c g 5 1 0 4 1 3 2d 2 7 2i 1 14js 1 7u 4 a 0 19 1 yu9 7y i 0 t 2 crx 0"]),
  ("Imperial_Aramaic",
    ["1g74 l 1 8"]),
  ("Inherited",
    ["lr 0 2 0 1 e 3 6 2 0 2 f 1 1 1 h 1 4 1 3 168 1 3ff 19 2 b k6 1h 1 0 1 4 ek 1 5e v 17o0 f",
     "g d r3 0 14hu 19 2 m f4 2 h 7 2 6 u 3 h45u 6n"]),
  ("Inscriptional_Pahlavi",
    ["1gtc i 5 7"]),
  ("Inscriptional_Parthian",
    ["1gsg l 2 7"]),
  ("Javanese",
    ["xhc 25 1 a 4 1"]),
  ("Kaithi",
    ["1uu 9 79d 0 o3i 9 kli 1u a 0"]),
  ("Kannada",
    ["1u9 1 h 1 m2 c 1 2 1 m 1 9 1 4 2 8 1 2 1 3 7 1 5 2 1 3 2 9 1 2 34s 0 1 1 6 0 n 0 1 0 ri3 5"]),
  ("Katakana",
    ["lh 0 t 0 8v1 2 4 9 1 c g 5 1 0 4 1 2j 3 3 2n 6o f 5s 1a 1 2f 1431 1 7u 1q yts 3 1 6 1 1 1",
     "0 7z 2 1e 0 e 3"]),
  ("Kawi",
    ["1kow g 1 14 3 s"]),
  ("Kayah_Li",
    ["xds 1b"]),
  ("Kharoshthi",
    ["1gjk 3 1 1 5 7 1 2 1 s 2 2 4 9 7 8"]),
  ("Khitan_Small_Script",
    ["20o4 0 5cr d1 15 0"]),
  ("Khmer",
    ["4n4 2l 2 9 6 9 di v"]),
  ("Khojki",
    ["25i 9 v28 9 kw6 h 1 1a"]),
  ("Khudawadi",
    ["1us 1 vd6 9 l12 1m 5 9"]),
  ("Kirat_Rai",
    ["205c 1l"]),
  ("Lao",
    ["2v5 1 1 0 1 4 1 n 1 0 1 m 2 4 1 0 1 6 1 9 2 3"]),
  ("Latin",
    ["1t p 6 p 1b 0 c 0 2 0 5 m 1 u 1 cg 3 0 a 0 1 2 1 0 9 0 1 0 6 4 r e 1 1 1 0 f 2 7 1 1 1 12",
     "0 5 0 4 c 7p 1 y2 1 1ig 0 2dg 11 6 1c 5 3 5 c 1 1x 1l 0 7 73 8f 0 1t 0 d 0 g c 2b 0 1l 1",
     "6 0 r 0 h 14 253 v bb 0 nvs 7 q 2t 3 29 k e 8e 0 e9 16 1 8 1 3 fpy 6 t6 p 6 p 1lx 5 1 15",
     "1 8 16it u 6 5"]),
  ("Lepcha",
    ["5j4 1j 3 e 3 2"]),
  ("Limbu",
    ["1ut 0 32y u 1 b 4 b 4 0 3 b"]),
  ("Linear_A",
    ["1err 18 y4 8m 9 l a 7"]),
  ("Linear_B",
    ["1ekg b 1 p 1 i 1 1 1 e 2 d y 3e 5 2 4 18 3 8"]),
  ("Lisu",
    ["jg 0 g 0 8xo 1 n2c 1b o8g 0"]),
  ("Lycian",
    ["6e2 0 18o5 s"]),
  ("Lydian",
    ["53 0 8zd 0 178u p 5 0"]),
  ("Mahajani",
    ["53 0 1po b vcw 9 kra 12"]),
  ("Makasar",
    ["1ko0 o"]),
  ("Malayalam",
    ["1u9 1 h 1 pm c 1 2 1 1e 1 2 1 5 4 f 2 p 316 0 n 0 ri5 2"]),
  ("Mandaic",
    ["18g 0 e7 r 2 0"]),
  ("Manichaean",
    ["18g 0 1fgf 12 4 b"]),
  ("Marchen",
    ["1k6o v 2 l 1 d"]),
  ("Masaram_Gondi",
    ["1us 1 1ifu 6 1 1 1 17 3 0 1 1 1 8 8 9"]),
  ("Medefaidrin",
    ["20cg 2i"]),
  ("Meetei_Mayek",
    ["xr4 m 5l 19 2 9"]),
  ("Mende_Kikakui",
    ["2oe8 5g 2 f"]),
  ("Meroitic_Cursive",
    ["1ggw n 4 j 2 19"]),
  ("Meroitic_Hieroglyphs",
    ["6e5 0 1a1u v"]),
  ("Miao",
    ["20hs 22 4 1k 7 g"]),
  ("Modi",
    ["x80 9 lom 1w b 9"]),
  ("Mongolian",
    ["4qo p 6 2g 7 16 1hg 0 34h 1 5 3 19hw c"]),
  ("Mro",
    ["1zk0 u 1 9 4 1"]),
  ("Multani",
    ["21y 9 1g5s 6 1 0 1 3 1 e 1 a"]),
  ("Myanmar",
    ["35s 4f u4u 0 4x u 2p v le8 j"]),
  ("Nabataean",
    ["1g8w u 8 8"]),
  ("Nag_Mundari",
    ["2nrk 15"]),
  ("Nandinagari",
    ["1u9 0 i 1 ow 9 35l 0 8 0 7 0 rhx 5 mei 7 2 19 2 a"]),
  ("New_Tai_Lue",
    ["51c 17 4 p 6 a 3 1"]),
  ("Newa",
    ["1u9 1 3uq 0 1 1 9 0 6 0 1 0 1 0 1csy 2j 1 4"]),
  ("Nko",
    ["170 0 e 0 3 0 bk 1m 2 2 1cfy 1"]),
  ("Nushu",
    ["20o1 0 cy6 az"]),
  ("Nyiakeng_Puachue_Hmong",
    ["2n0g 18 3 d 2 9 4 1"]),
  ("Ogham",
    ["4g0 s"]),
  ("Ol_Chiki",
    ["5lc 1b"]),
  ("Ol_Onal",
    ["1us 1 2m3u 16 4 0"]),
  ("Old_Hungarian",
    ["6e2 0 2 0 2qb 0 f 0 17we 1e d 1e 7 5"]),
  ("Old_Italic",
    ["1f5s z 9 2"]),
  ("Old_North_Arabian",
    ["1gn4 v"]),
  ("Old_Permic",
    ["53 0 g8 0 5 2 a 0 a7 0 1ebw 16"]),
  ("Old_Persian",
    ["1fa8 z 4 d"]),
  ("Old_Sogdian",
    ["1hj4 13"]),
  ("Old_South_Arabian",
    ["1gm8 v"]),
  ("Old_Turkic",
    ["6e2 0 2qd 0 17tb 20"]),
  ("Old_Uyghur",
    ["18g 0 1fht 0 vx p"]),
  ("Oriya",
    ["1u9 1 h 1 bf 2 1 7 2 1 2 l 1 6 1 1 1 4 2 8 2 1 2 2 7 2 4 1 1 4 2 h 3fm 0 n 0"]),
  ("Osage",
    ["ld 0 2 0 6 0 24 0 1etz z 4 z"]),
  ("Osmanya",
    ["1fgg t 2 9"]),
  ("Pahawh_Hmong",
    ["1zpc 1x a 9 1 6 1 k 5 i"]),
  ("Palmyrene",
    ["1g80 v"]),
  ("Pau_Cin_Hau",
    ["1juo 1k"]),
  ("Phags_Pa",
    ["4qq 1 1 0 1m1 0 34i 0 nr1 1j"]),
  ("Phoenician",
    ["1gcg r 3 0"]),
  ("Psalter_Pahlavi",
    ["18g 0 1flr h 7 3 c 6"]),
  ("Rejang",
    ["xf4 z b 0"]),
  ("Runic",
    ["4gw 2g"]),
  ("Samaritan",
    ["1kw 19 2 e 7hu 0"]),
  ("Saurashtra",
    ["xa8 1x 8 b"]),
  ("Sharada",
    ["1u9 0 3ut 0 1 0 2 1 2 0 9 0 2 0 ria 5 2 0 ksn 2n 1vk 7"]),
  ("Shavian",
    ["53 0 1fa0 1b"]),
  ("Siddham",
    ["1itc 1h 2 11"]),
  ("Sidetic",
    ["1ge8 p"]),
  ("SignWriting",
    ["2l8g i3 f 4 1 e"]),
  ("Sinhala",
    ["1us 1 t7 2 1 h 3 n 1 8 1 0 2 6 3 0 4 5 1 0 1 7 6 9 2 2 2yl 0 1cdq j"]),
  ("Sogdian",
    ["18g 0 1gbz 15"]),
  ("Sora_Sompeng",
    ["1hw0 o 7 9"]),
  ("Soyombo",
    ["1jrk 2a"]),
  ("Sundanese",
    ["5fk 1r 74 7"]),
  ("Sunuwar",
    ["lc 1 1 0 9 0 2 0 s 0 3 0 1jf2 x e 9"]),
  ("Syloti_Nagri",
    ["1us 1 3k 9 v80 18"]),
  ("Syriac",
    ["lf 1 2 1 1 0 o 2 7 1 1 1 ka 0 e 1 2 0 w 0 a a q 0 3z d 1 1n 2 2 7k a 499 0 1 0"]),
  ("Tagalog",
    ["4jk l 9 0 l 1"]),
  ("Tagbanwa",
    ["4l1 1 15 c 1 2 1 1"]),
  ("Tai_Le",
    ["lc 1 5 1 3 0 2lv 9 1s6 t 2 4"]),
  ("Tai_Tham",
    ["55s 1q 1 s 2 a 6 9 6 d"]),
  ("Tai_Viet",
    ["xog 1u o 4"]),
  ("Tai_Yo",
    ["2o5c u 1 l 8 1"]),
  ("Takri",
    ["1us 1 vd6 9 ls6 1l 6 9"]),
  ("Tamil",
    ["1u9 1 h 1 f0 1 1 5 3 2 1 3 3 1 1 0 1 1 3 1 3 2 3 b 4 4 3 2 1 3 2 0 6 0 e k 3bz 0 ro8 0",
     "ky5 0 1 0 1j 1 2gz 1d d 0"]),
  ("Tangsa",
    ["1zlc 26 1 9"]),
  ("Tangut",
    ["9gw f dr 0 1qsw 0 v 5bz e8 u 2p 36"]),
  ("Telugu",
    ["1u9 1 h 1 ii c 1 2 1 m 1 f 2 8 1 2 1 3 7 1 1 2 1 1 2 3 2 9 7 8 385 1 1 0 1 0 n 0"]),
  ("Thaana",
    ["170 0 e 1 2 0 1s 9 7q 1d 1cn4 0 a 0"]),
  ("Thai",
    ["jg 0 q 0 17 0 19 0 24v 1l 5 r"]),
  ("Tibetan",
    ["2yo 1z 1 z 4 12 1 z 1 e 1 6 4 1 6ct 3"]),
  ("Tifinagh",
    ["le 0 1 0 1 3 p 0 8b0 1j 7 1 e 0"]),
  ("Tirhuta",
    ["1u9 1 h 1 3u7 0 c 0 f 0 ri5 9 ldy 1z 8 9"]),
  ("Todhri",
    ["ld 0 2 0 2 0 9 0 1 0 22 0 1f1d 1f"]),
  ("Tolong_Siki",
    ["1kfk 17 4 9"]),
  ("Toto",
    ["jg 0 2ms3 u"]),
  ("Tulu_Tigalari",
    ["2jq 9 35u 0 1 0 ri3 5 57 0 l1q 9 1 0 2 0 1 11 1 9 1 0 2 0 1 3 1 9 1 1 8 1"]),
  ("Ugaritic",
    ["1f9c t 1 0"]),
  ("Vai",
    ["wlc 8b"]),
  ("Vithkuqi",
    ["1fn4 a 1 e 1 6 1 1 1 a 1 e 1 6 1 1"]),
  ("Wancho",
    ["2ncw 1l 5 0"]),
  ("Warang_Citi",
    ["1jfk 2a c 0"]),
  ("Yezidi",
    ["170 0 e 0 3 0 1s 9 1g5y 15 1 2 2 1"]),
  ("Yi",
    ["9hd 1 5 9 2 7 67 0 lxg wc 3 1i hwa 4"]),
  ("Zanabazar_Square",
    ["1jpc 1z"])]

end Schemata.Unicode
