import RowStamp.Text.Runs

/-!
The scripts of characters, by the name of the script in lower case without underscores.
-/

set_option autoImplicit false
set_option relaxedAutoImplicit false

namespace RowStamp.Text

private def scriptLines : List (String × List String) := [
  ("adlam", [
    "2olc 24 4 a 4 2"]),
  ("ahom", [
    "1j40 r 2 f 4 n"]),
  ("anatolianhieroglyphs", [
    "1s00 g7"]),
  ("arabic", [
    "16o 5 1 6 1 e 1 3 1 w 1 a b q 1 30 1 y 28 1c 6o y 5 23 1 t 1bv4 dq 2 40 w g 34 5 1 3r",
    "31f v 1v 6 8 9 x 6 181s 4 1 r 1 2 1 1 2 1 1 a 1 4 1 1 1 1 6 1 4 1 1 1 1 1 1 3 1 2 1 1 2",
    "1 1 1 1 1 1 1 1 1 1 2 1 1 2 4 1 7 1 4 1 4 1 1 1 a 1 h 5 3 1 5 1 h 1g 2"]),
  ("armenian", [
    "10x 12 2 1e 2 3 1chv 5"]),
  ("avestan", [
    "1gqo 1i 3 7"]),
  ("balinese", [
    "5c0 25 1 1e"]),
  ("bamum", [
    "www 2g 124o ft"]),
  ("bassavah", [
    "1zo0 u 2 6"]),
  ("batak", [
    "5hc 1g 8 4"]),
  ("bengali", [
    "1vk 4 1 8 2 2 2 m 1 7 1 1 3 4 2 9 2 2 2 4 8 1 4 2 1 5 2 p"]),
  ("bhaiksuki", [
    "1k3k 9 1 19 1 e a t"]),
  ("bopomofo", [
    "kq 2 93t 17 34 w"]),
  ("brahmi", [
    "1hq8 26 4 10 9 1"]),
  ("braille", [
    "7wg 74"]),
  ("buginese", [
    "54w s 2 2"]),
  ("buhid", [
    "4lc k"]),
  ("canadianaboriginal", [
    "3y8 hs fk 1y 1ewq g"]),
  ("carian", [
    "1f34 1d"]),
  ("caucasianalbanian", [
    "1flc 1g b 1"]),
  ("chakma", [
    "1hxc 1h 1 i"]),
  ("cham", [
    "xkw 1j 9 e 2 a 2 4"]),
  ("cherokee", [
    "3vk 2e 2 6 twy 28"]),
  ("chorasmian", [
    "1ho0 s"]),
  ("common", [
    "0 1t q 6 q 1b 1 f 1 5 n 1 v 1 ch 13 5 5 2 k 38 1 9 1 6 1 1 1 hp 1 6 1 e 1 3 1 w 1 4c 1",
    "ec 1 3l 2 yh 1 b9 4 82 1 167 3 1z 2 5n 2 1 1 y5 1 d 1 7 4 1 6 1 3 2 1 lh c 2 2f 1 b 3 b",
    "1 f h y 1q 12 1 3 2 6 1 r 1 h 15 3 4 ii m b l ps 74 hg 2 3u e8 2m b6 l 1 1 1 p f 8 4 4",
    "2j 2 3 1 2i 2 43 g w 12 9 1 1c 1s v 29 1b 1 2g 4o 534 1s hkw y 2u 3 4l a 6s 1 4g 1 az 1",
    "e 2 g5u 2 5s a m z 1 j 1 4 43 1 1 w q 6 q b a 1 19 2 1s 7 1 7 a 5 76 3 4 19 3 9 28 d 1f",
    "19 6c r 10o4 4 318 71 3 c4 6 n f h 2n 38 1o 6u a 13 2 1q 3 h 8 2 7 u 4 1p 5x k c k c 2f",
    "9 p 3r 2d 1 1z 1 2 2 1 2 2 2 4 1 c 1 1 1 7 1 1t 1 4 2 8 1 7 1 s 1 4 1 5 1 1 3 7 1 9g 2",
    "84 2 1e 41d 1w 24 1p jm 18 4 2s c f 2 f 1 f 1 11 a 4u 1k q 1 2 d 18 4 9 7 2 e 6 4a rd 3",
    "h 3 d 3 62 6 c 4 1 f c 4 1k 8 a 6 14 8 u 2 c 4 2 e 9 13 9k 8 e 2 d 3 b 3 1l 1 1 4 g 2 c",
    "4 a 7 43 1 2v gvly 1 u 2o"]),
  ("coptic", [
    "rm e 80g 38 5 7"]),
  ("cuneiform", [
    "1kw0 pm 2u 33 1 5 b 5g"]),
  ("cypriot", [
    "1g5c 6 2 1 1 18 1 2 3 1 2 1"]),
  ("cyprominoan", [
    "1nyo 2r"]),
  ("cyrillic", [
    "sg 3p 2 4p 4ls b 4g 1 24 1 38n w nr4 2o ham 2 18n4 1q x 1"]),
  ("deseret", [
    "1fcw 28"]),
  ("devanagari", [
    "1s0 29 4 f 2 q vhc w mio a"]),
  ("divesakuru", [
    "1ji8 7 2 1 2 8 1 2 1 u 1 2 2 c 9 a"]),
  ("dogra", [
    "1jb4 1o"]),
  ("duployan", [
    "2fpc 2z 5 d 3 9 7 a 2 4"]),
  ("egyptianhieroglyphs", [
    "1o1s uu a 32z"]),
  ("elbasan", [
    "1fk0 14"]),
  ("elymaic", [
    "1hpc n"]),
  ("ethiopic", [
    "3k0 21 1 4 2 7 1 1 1 4 2 15 1 4 2 x 1 4 2 7 1 1 1 4 2 f 1 1l 1 4 2 1v 2 w 3 q 546 n 9 7",
    "1 7 1 7 1 7 1 7 1 7 1 7 1 7 opu 6 2 6 2 6 9 7 1 7 1qk1 7 1 4 1 2 1 f"]),
  ("georgian", [
    "3a8 12 1 1 5 1 2 17 1 4 2a8 17 2 3 37k 12 1 1 5 1"]),
  ("glagolitic", [
    "8ow 2o 2e1s 7 1 h 2 7 1 2 1 5"]),
  ("gothic", [
    "1f74 r"]),
  ("grantha", [
    "1ibk 4 1 8 2 2 2 m 1 7 1 2 1 5 2 9 2 2 2 3 2 1 6 1 5 7 2 7 3 5"]),
  ("greek", [
    "og 4 1 3 2 4 1 1 4 1 1 1 1 3 1 1 1 k 1 1r e g 4yu 5 1e 5 4 5 2c 1 8w m 2 6 2 12 2 6 2 8",
    "1 1 1 1 1 1 1 v 2 1h 1 f 1 e 2 6 1 j 2 3 1 9 87 1 rb2 1 gyi 27 h 1 155r 1y"]),
  ("gujarati", [
    "22p 3 1 9 1 3 1 m 1 7 1 2 1 5 2 a 1 3 1 3 2 1 f 4 2 c 7 7"]),
  ("gunjalagondi", [
    "1kdc 6 1 2 1 11 1 2 1 6 7 a"]),
  ("gurmukhi", [
    "1z5 3 1 6 4 2 2 m 1 7 1 2 1 2 1 2 2 1 1 5 4 2 2 3 3 1 7 4 1 1 7 h"]),
  ("han", [
    "96o q 1 2h c 5y 1b 1 1 1 p 9 e 4 qs 534 1s g74 hkw a6 2 2y n48 2 c 7 sg9 wyo w 3dq 2 4ge",
    "2 5rl f ha 1wi f2 15u 3t7 5 6ju"]),
  ("hangul", [
    "3cw 74 5ym 2 75 2m 35 v 1t v nhd t hv 8mc c n 4 1d 7tw v 3 6 2 6 2 6 2 3"]),
  ("hanifirohingya", [
    "1h4w 14 8 a"]),
  ("hanunoo", [
    "4kg l"]),
  ("hatran", [
    "1gbk j 1 2 5 5"]),
  ("hebrew", [
    "13l 1j 8 r 4 6 1cfc q 1 5 1 1 1 2 1 2 1 a"]),
  ("hiragana", [
    "9j5 2e 6 3 23q9 7z i 1 t 3 crx 1"]),
  ("imperialaramaic", [
    "1g74 m 1 9"]),
  ("inherited", [
    "lc 34 7p 2 ck b q 1 kg 4 3ff 1a 2 c dg 3 1 d 1 7 4 1 6 1 3 2 5i 1s ek 2 5e x 309 4 2z 2",
    "14kl g g e r3 1 6a 1 38a 1 1138 1a 2 n f4 3 h 8 2 7 u 4 h45u 6o"]),
  ("inscriptionalpahlavi", [
    "1gtc j 5 8"]),
  ("inscriptionalparthian", [
    "1gsg m 2 8"]),
  ("javanese", [
    "xhc 26 2 a 4 2"]),
  ("kaithi", [
    "1hts 1v a 1"]),
  ("kannada", [
    "2gw d 1 3 1 n 1 a 1 5 2 9 1 3 1 4 7 2 5 3 1 4 2 a 1 3"]),
  ("katakana", [
    "9lt 2i 2 3 6o g 5s 1b 1 2g 14b2 a 1 19 ytu 4 1 7 1 2 1 1 7z 3 1e 1 e 4"]),
  ("kayahli", [
    "xds 1a 1 1"]),
  ("kharoshthi", [
    "1gjk 4 1 2 5 8 1 3 1 t 2 3 4 a 7 9"]),
  ("khmer", [
    "4n4 2m 2 a 6 a di w"]),
  ("lao", [
    "2v5 2 1 1 1 5 1 o 1 1 1 n 2 5 1 1 1 7 1 a 2 4"]),
  ("latin", [
    "1t q 6 q 1b 1 f 1 5 n 1 v 1 ch 13 5 55n 12 6 1d 5 4 5 d 1 1y 1t 74 a9 1 d 1 g d 3x 2 6 1",
    "r 1 h 15 253 w o82 2u 3 2a k f mo 17 1 9 1 4 fpy 7 t6 q 6 q 1lx 6 1 16 1 9 16it v 6 6"]),
  ("lepcha", [
    "5j4 1k 3 f 3 3"]),
  ("limbu", [
    "4xs v 1 c 4 c 4 1 3 c"]),
  ("lineara", [
    "1fr4 8n 9 m a 8"]),
  ("linearb", [
    "1ekg c 1 q 1 j 1 2 1 f 2 e y 3f"]),
  ("lisu", [
    "wk0 1c o8g 1"]),
  ("lycian", [
    "1f28 t"]),
  ("lydian", [
    "1gdc q 5 1"]),
  ("malayalam", [
    "2kg d 1 3 1 1f 1 3 1 6 4 g 2 q"]),
  ("mandaic", [
    "1mo s 2 1"]),
  ("mongolian", [
    "4qo 2 2 1 1 k 6 2h 7 17 1e45 d"]),
  ("myanmar", [
    "35s 4g u9s v 2p w le8 k"]),
  ("nko", [
    "1j4 1n 2 3"]),
  ("ogham", [
    "4g0 t"]),
  ("oriya", [
    "269 3 1 8 2 2 2 m 1 7 1 2 1 5 2 9 2 2 2 3 7 3 4 2 1 5 2 i"]),
  ("runic", [
    "4gw 23 3 b"]),
  ("samaritan", [
    "1kw 1a 2 f"]),
  ("sinhala", [
    "2o1 3 1 i 3 o 1 9 1 1 2 7 3 1 4 6 1 1 1 8 6 a 2 3 1fcc k"]),
  ("syriac", [
    "1ds e 1 1o 2 3 7k b"]),
  ("tagalog", [
    "4jk m 9 1"]),
  ("taile", [
    "500 u 2 5"]),
  ("tamil", [
    "29u 2 1 6 3 3 1 4 3 2 1 1 1 2 3 2 3 3 3 c 4 5 3 3 1 4 2 1 6 1 e l 1ih1 1e d 1"]),
  ("telugu", [
    "2dc d 1 3 1 n 1 g 2 9 1 3 1 4 7 2 1 3 1 2 2 4 2 a 7 9"]),
  ("thaana", [
    "1hc 1e"]),
  ("thai", [
    "2rl 1m 5 s"]),
  ("tibetan", [
    "2yo 20 1 10 4 13 1 10 1 f 1 7 4 2"]),
  ("tifinagh", [
    "8xc 1k 7 2 e 1"]),
  ("ugaritic", [
    "1f9c u 1 1"]),
  ("vai", [
    "wlc 8c"]),
  ("yi", [
    "vls wd 3 1j"])]

def scriptChanges? (name : String) : Option (List Nat) :=
  (scriptLines.lookup name).map Runs.ofLines

end RowStamp.Text
