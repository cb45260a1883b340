import ClassFields.Unicode.Ranges

/-!
# Scripts

The characters of each script, and, where they differ, the characters of its script extensions:
those that a text in the script uses.
-/

namespace ClassFields.Unicode

/-- The characters of one script, under the names it is known by. -/
structure Script where
  names : List String
  own : Ranges
  extended : Ranges

namespace Script

/-- A script from its names, its characters and, where they differ, those of its extensions. -/
def ofLines (names own : List String) (extended : Option (List String)) : Script where
  names
  own := .ofLines own
  extended := .ofLines (extended.getD own)

/-- All scripts. -/
def all : List Script :=
  [ofLines ["adlm", "adlam"]
      ["125184 76 4 10 4 2"]
      (some
      ["1567 1 32 1 123583 76 4 10 4 2"]),
   ofLines ["aghb", "caucasianalbanian"]
      ["66864 52 11 1"]
      none,
   ofLines ["ahom"]
      ["71424 27 2 15 4 23"]
      none,
   ofLines ["arab", "arabic"]
      ["1536 5 1 6 1 14 1 3 1 32 1 10 11 26 1 108 1 34 80 48 240 31 1 2 5 75 1 29 62032 115 16",
       "363 2 80 2 54 7 1 32 16 112 5 1 135 3939 31 67 3 55 4 57088 4 1 27 1 2 1 1 2 1 1 10 1",
       "4 1 1 1 1 6 1 4 1 1 1 1 1 1 3 1 2 1 1 2 1 1 1 1 1 1 1 1 1 1 2 1 1 2 4 1 7 1 4 1 4 1 1",
       "1 10 1 17 5 3 1 5 1 17 52 2"]
      (some
      ["1536 5 1 215 1 34 80 48 240 31 1 2 5 75 1 29 62032 115 16 445 2 54 7 1 32 16 112 5 1",
       "135 995 28 2916 31 67 3 55 4 57088 4 1 27 1 2 1 1 2 1 1 10 1 4 1 1 1 1 6 1 4 1 1 1 1 1",
       "1 3 1 2 1 1 2 1 1 1 1 1 1 1 1 1 1 2 1 1 2 4 1 7 1 4 1 4 1 1 1 10 1 17 5 3 1 5 1 17 52",
       "2"]),
   ofLines ["armi", "imperialaramaic"]
      ["67648 22 1 9"]
      none,
   ofLines ["armn", "armenian"]
      ["1329 38 2 50 2 3 62851 5"]
      none,
   ofLines ["avst", "avestan"]
      ["68352 54 3 7"]
      none,
   ofLines ["bali", "balinese"]
      ["6912 77 1 50"]
      none,
   ofLines ["bamu", "bamum"]
      ["42656 88 49416 569"]
      none,
   ofLines ["bass", "bassavah"]
      ["92880 30 2 6"]
      none,
   ofLines ["batk", "batak"]
      ["7104 52 8 4"]
      none,
   ofLines ["beng", "bengali"]
      ["2432 4 1 8 2 2 2 22 1 7 1 1 3 4 2 9 2 2 2 4 8 1 4 2 1 5 2 25"]
      (some
      ["2385 2 17 2 26 4 1 8 2 2 2 22 1 7 1 1 3 4 2 9 2 2 2 4 8 1 4 2 1 5 2 25 4817 1 1 1 2 2",
       "1 1 8 1 8 1 2 1 4 1 2 3 35833 1"]),
   ofLines ["bhks", "bhaiksuki"]
      ["72704 9 1 45 1 14 10 29"]
      none,
   ofLines ["bopo", "bopomofo"]
      ["746 2 11801 43 112 32"]
      (some
      ["746 2 11541 3 4 10 1 13 10 4 2 1 6 1 195 1 9 43 112 32 52357 2 282 5"]),
   ofLines ["brah", "brahmi"]
      ["69632 78 4 36 9 1"]
      none,
   ofLines ["brai", "braille"]
      ["10240 256"]
      none,
   ofLines ["bugi", "buginese"]
      ["6656 28 2 2"]
      (some
      ["6656 28 2 2 36783 1"]),
   ofLines ["buhd", "buhid"]
      ["5952 20"]
      (some
      ["5941 2 9 20"]),
   ofLines ["cakm", "chakma"]
      ["69888 53 1 18"]
      (some
      ["2534 10 1616 10 65718 53 1 18"]),
   ofLines ["cans", "canadianaboriginal"]
      ["5120 640 560 70 65978 16"]
      none,
   ofLines ["cari", "carian"]
      ["66208 49"]
      none,
   ofLines ["cham"]
      ["43520 55 9 14 2 10 2 4"]
      none,
   ofLines ["cher", "cherokee"]
      ["5024 86 2 6 38770 80"]
      none,
   ofLines ["chrs", "chorasmian"]
      ["69552 28"]
      none,
   ofLines ["copt", "coptic", "qaac"]
      ["994 14 10384 116 5 7"]
      (some
      ["994 14 10384 116 5 7 54752 28"]),
   ofLines ["cpmn", "cyprominoan"]
      ["77712 99"]
      (some
      ["65792 2 11918 99"]),
   ofLines ["cprt", "cypriot"]
      ["67584 6 2 1 1 44 1 2 3 1 2 1"]
      (some
      ["65792 3 4 45 3 9 1728 6 2 1 1 44 1 2 3 1 2 1"]),
   ofLines ["cyrl", "cyrillic"]
      ["1024 133 2 169 5968 11 160 1 76 1 4199 32 30784 96 22414 2 57856 62 33 1"]
      (some
      ["1024 304 5968 11 160 1 76 1 127 1 4071 32 67 1 30716 96 22414 2 57856 62 33 1"]),
   ofLines ["deva", "devanagari"]
      ["2304 81 4 15 2 26 40800 32 29184 10"]
      (some
      ["2304 83 2 43 4944 39 1 2 1014 1 34623 10 166 32 29184 10"]),
   ofLines ["diak", "divesakuru"]
      ["71936 7 2 1 2 8 1 2 1 30 1 2 2 12 9 10"]
      none,
   ofLines ["dogr", "dogra"]
      ["71680 60"]
      (some
      ["2404 12 40640 10 28614 60"]),
   ofLines ["dsrt", "deseret"]
      ["66560 80"]
      none,
   ofLines ["dupl", "duployan"]
      ["113664 107 5 13 3 9 7 10 2 4"]
      (some
      ["113664 107 5 13 3 9 7 10 2 8"]),
   ofLines ["egyp", "egyptianhieroglyphs"]
      ["77824 1110 10 3995"]
      none,
   ofLines ["elba", "elbasan"]
      ["66816 40"]
      none,
   ofLines ["elym", "elymaic"]
      ["69600 23"]
      none,
   ofLines ["ethi", "ethiopic"]
      ["4608 73 1 4 2 7 1 1 1 4 2 41 1 4 2 33 1 4 2 7 1 1 1 4 2 15 1 57 1 4 2 67 2 32 3 26",
       "6630 23 9 7 1 7 1 7 1 7 1 7 1 7 1 7 1 7 32034 6 2 6 2 6 9 7 1 7 81073 7 1 4 1 2 1 15"]
      none,
   ofLines ["geor", "georgian"]
      ["4256 38 1 1 5 1 2 43 1 4 2960 43 2 3 4160 38 1 1 5 1"]
      (some
      ["4256 38 1 1 5 1 2 48 2960 43 2 3 4160 38 1 1 5 1"]),
   ofLines ["glag", "glagolitic"]
      ["11264 96 111520 7 1 17 2 7 1 2 1 5"]
      (some
      ["1156 1 2 1 10104 96 483 1 30763 1 80272 7 1 17 2 7 1 2 1 5"]),
   ofLines ["gong", "gunjalagondi"]
      ["73056 6 1 2 1 37 1 2 1 6 7 10"]
      (some
      ["2404 2 70650 6 1 2 1 37 1 2 1 6 7 10"]),
   ofLines ["gonm", "masaramgondi"]
      ["72960 7 1 2 1 44 3 1 1 2 1 9 8 10"]
      (some
      ["2404 2 70554 7 1 2 1 44 3 1 1 2 1 9 8 10"]),
   ofLines ["goth", "gothic"]
      ["66352 27"]
      none,
   ofLines ["gran", "grantha"]
      ["70400 4 1 8 2 2 2 22 1 7 1 2 1 5 2 9 2 2 2 3 2 1 6 1 5 7 2 7 3 5"]
      (some
      ["2385 2 17 2 640 14 4316 1 1 2 30 3 3 2 1014 1 61967 4 1 8 2 2 2 22 1 7 1 2 1 5 1 10 2",
       "2 2 3 2 1 6 1 5 7 2 7 3 5 3163 2 1 1"]),
   ofLines ["grek", "greek"]
      ["880 4 1 3 2 4 1 1 4 1 1 1 1 3 1 1 1 20 1 63 14 16 6438 5 50 5 4 5 84 1 320 22 2 6 2 38",
       "2 6 2 8 1 1 1 1 1 1 1 31 2 53 1 15 1 14 2 6 1 19 2 3 1 9 295 1 35390 1 21978 79 17 1",
       "53343 70"]
      (some
      ["834 1 2 1 42 4 1 3 2 4 1 1 4 1 1 1 1 3 1 1 1 20 1 63 14 16 6438 5 50 5 4 5 84 3 318 22",
       "2 6 2 38 2 6 2 8 1 1 1 1 1 1 1 31 2 53 1 15 1 14 2 6 1 19 2 3 1 9 295 1 35390 1 21978",
       "79 17 1 53343 70"]),
   ofLines ["gujr", "gujarati"]
      ["2689 3 1 9 1 3 1 22 1 7 1 2 1 5 2 10 1 3 1 3 2 1 15 4 2 12 7 7"]
      (some
      ["2385 2 17 2 283 3 1 9 1 3 1 22 1 7 1 2 1 5 2 10 1 3 1 3 2 1 15 4 2 12 7 7 40240 10"]),
   ofLines ["guru", "gurmukhi"]
      ["2561 3 1 6 4 2 2 22 1 7 1 2 1 2 1 2 2 1 1 5 4 2 2 3 3 1 7 4 1 1 7 17"]
      (some
      ["2385 2 17 2 155 3 1 6 4 2 2 22 1 7 1 2 1 2 1 2 2 1 1 5 4 2 2 3 3 1 7 4 1 1 7 17 40377",
       "10"]),
   ofLines ["hang", "hangul"]
      ["4352 256 7726 2 257 94 113 31 65 31 30433 29 643 11172 12 23 4 49 10148 31 3 6 2 6 2 6",
       "2 3"]
      (some
      ["4352 256 7681 3 4 10 1 13 14 3 6 1 195 1 53 94 113 31 65 31 30433 29 643 11172 12 23 4",
       "49 9801 2 282 5 58 31 3 6 2 6 2 6 2 3"]),
   ofLines ["hani", "han"]
      ["11904 26 1 89 12 214 47 1 1 1 25 9 14 4 964 6592 64 20992 22784 366 2 106 29960 2 12 2",
       "36878 42720 32 4154 6 222 2 5762 14 7473 15 622 2466 542 1506 4939 5 4192"]
      (some
      ["11904 26 1 89 12 214 43 3 1 13 1 13 1 13 2 1 6 9 187 1 148 16 32 36 60 40 56 49 15 12",
       "51 1 88 25 10 5 96 31 1 6592 64 20992 1792 8 20984 366 2 106 875 2 282 5 28796 2 12 2",
       "25454 18 7902 2 3502 42720 32 4154 6 222 2 5762 14 7473 15 622 2466 542 1506 4939 5",
       "4192"]),
   ofLines ["hano", "hanunoo"]
      ["5920 21"]
      (some
      ["5920 23"]),
   ofLines ["hatr", "hatran"]
      ["67808 19 1 2 5 5"]
      none,
   ofLines ["hebr", "hebrew"]
      ["1425 55 8 27 4 6 62760 26 1 5 1 1 1 2 1 2 1 10"]
      none,
   ofLines ["hira", "hiragana"]
      ["12353 86 6 3 98145 287 18 1 29 3 16557 1"]
      (some
      ["12289 3 4 10 1 13 16 6 1 1 4 2 3 86 2 8 90 2 52552 2 282 5 10 1 45 2 45153 287 18 1 29",
       "3 16557 1"]),
   ofLines ["hluw", "anatolianhieroglyphs"]
      ["82944 583"]
      none,
   ofLines ["hmng", "pahawhhmong"]
      ["92928 70 10 10 1 7 1 21 5 19"]
      none,
   ofLines ["hmnp", "nyiakengpuachuehmong"]
      ["123136 45 3 14 2 10 4 2"]
      none,
   ofLines [""]
      [""]
      none,
   ofLines ["hung", "oldhungarian"]
      ["68736 51 13 51 7 6"]
      none,
   ofLines ["ital", "olditalic"]
      ["66304 36 9 3"]
      none,
   ofLines ["java", "javanese"]
      ["43392 78 2 10 4 2"]
      (some
      ["43392 78 1 11 4 2"]),
   ofLines ["kali", "kayahli"]
      ["43264 46 1 1"]
      (some
      ["43264 48"]),
   ofLines ["kana", "katakana"]
      ["12449 90 2 3 240 16 208 47 1 88 52238 10 1 45 45138 4 1 7 1 2 1 1 287 3 50 1 14 4"]
      (some
      ["12289 3 4 10 1 13 16 6 1 1 4 2 91 4 3 96 240 16 208 47 1 88 51949 2 282 63 45136 4 1 7",
       "1 2 1 1 287 3 50 1 14 4"]),
   ofLines ["kawi"]
      ["73472 17 1 41 3 29"]
      none,
   ofLines ["khar", "kharoshthi"]
      ["68096 4 1 2 5 8 1 3 1 29 2 3 4 10 7 9"]
      none,
   ofLines ["khmr", "khmer"]
      ["6016 94 2 10 6 10 486 32"]
      none,
   ofLines ["khoj", "khojki"]
      ["70144 18 1 47"]
      (some
      ["2790 10 40256 10 27078 18 1 47"]),
   ofLines ["kits", "khitansmallscript"]
      ["94180 1 6939 470 41 1"]
      none,
   ofLines ["knda", "kannada"]
      ["3200 13 1 3 1 23 1 10 1 5 2 9 1 3 1 4 7 2 6 2 1 4 2 10 1 3"]
      (some
      ["2385 2 17 2 794 13 1 3 1 23 1 10 1 5 2 9 1 3 1 4 7 2 6 2 1 4 2 10 1 3 4060 1 1 1 7 1",
       "23 1 1 1 35643 6"]),
   ofLines ["kthi", "kaithi"]
      ["69760 67 10 1"]
      (some
      ["2406 10 40640 10 26694 67 10 1"]),
   ofLines ["lana", "taitham"]
      ["6688 63 1 29 2 11 6 10 6 14"]
      none,
   ofLines ["laoo", "lao"]
      ["3713 2 1 1 1 5 1 24 1 1 1 23 2 5 1 1 1 7 1 10 2 4"]
      none,
   ofLines ["latn", "latin"]
      ["65 26 6 26 47 1 15 1 5 23 1 31 1 449 39 5 6683 38 6 49 5 4 5 13 1 70 65 256 369 1 13 1",
       "16 13 141 2 6 1 27 1 17 41 2775 32 31394 102 3 67 2 2 1 1 1 8 21 14 816 43 1 9 1 4",
       "20374 7 1050 26 6 26 2085 6 1 42 1 9 55109 31 6 6"]
      (some
      ["65 26 6 26 47 1 15 1 5 23 1 31 1 449 39 5 126 13 277 2 1226 2 1960 1 3076 38 6 49 5 4",
       "5 13 1 70 65 256 303 1 65 1 13 1 16 13 83 1 57 2 6 1 27 1 17 41 2775 32 31360 8 26 102",
       "3 67 2 2 1 1 1 8 21 14 302 1 513 43 1 9 1 4 20374 7 1050 26 6 26 2085 6 1 42 1 9 55109",
       "31 6 6"]),
   ofLines ["lepc", "lepcha"]
      ["7168 56 3 15 3 3"]
      none,
   ofLines ["limb", "limbu"]
      ["6400 31 1 12 4 12 4 1 3 12"]
      (some
      ["2405 1 3994 31 1 12 4 12 4 1 3 12"]),
   ofLines ["lina", "lineara"]
      ["67072 311 9 22 10 8"]
      (some
      ["65799 45 1228 311 9 22 10 8"]),
   ofLines ["linb", "linearb"]
      ["65536 12 1 26 1 19 1 2 1 15 2 14 34 123"]
      (some
      ["65536 12 1 26 1 19 1 2 1 15 2 14 34 123 5 3 4 45 3 9"]),
   ofLines ["lisu"]
      ["42192 48 31408 1"]
      none,
   ofLines ["lyci", "lycian"]
      ["66176 29"]
      none,
   ofLines ["lydi", "lydian"]
      ["67872 26 5 1"]
      none,
   ofLines ["mahj", "mahajani"]
      ["69968 39"]
      (some
      ["2404 12 40640 10 26902 39"]),
   ofLines ["maka", "makasar"]
      ["73440 25"]
      none,
   ofLines ["mand", "mandaic"]
      ["2112 28 2 1"]
      (some
      ["1600 1 511 28 2 1"]),
   ofLines ["mani", "manichaean"]
      ["68288 39 4 12"]
      (some
      ["1600 1 66687 39 4 12"]),
   ofLines ["marc", "marchen"]
      ["72816 32 2 22 1 14"]
      none,
   ofLines ["medf", "medefaidrin"]
      ["93760 91"]
      none,
   ofLines ["mend", "mendekikakui"]
      ["124928 197 2 16"]
      none,
   ofLines ["merc", "meroiticcursive"]
      ["68000 24 4 20 2 46"]
      none,
   ofLines ["mero", "meroitichieroglyphs"]
      ["67968 32"]
      none,
   ofLines ["mlym", "malayalam"]
      ["3328 13 1 3 1 51 1 3 1 6 4 16 2 26"]
      (some
      ["2385 2 17 2 922 13 1 3 1 51 1 3 1 6 4 16 2 26 3930 1 35669 3"]),
   ofLines ["modi"]
      ["71168 69 11 10"]
      (some
      ["43056 10 28102 69 11 10"]),
   ofLines ["mong", "mongolian"]
      ["6144 2 2 1 1 20 6 89 7 43 64949 13"]
      (some
      ["6144 26 6 89 7 43 1924 1 63024 13"]),
   ofLines ["mroo", "mro"]
      ["92736 31 1 10 4 2"]
      none,
   ofLines ["mtei", "meeteimayek"]
      ["43744 23 201 46 2 10"]
      none,
   ofLines ["mult", "multani"]
      ["70272 7 1 1 1 4 1 15 1 11"]
      (some
      ["2662 10 67600 7 1 1 1 4 1 15 1 11"]),
   ofLines ["mymr", "myanmar"]
      ["4096 160 39232 31 97 32 27728 20"]
      (some
      ["4096 160 39054 1 177 31 97 32 27728 20"]),
   ofLines ["nagm", "nagmundari"]
      ["124112 42"]
      none,
   ofLines ["nand", "nandinagari"]
      ["72096 8 2 46 2 11"]
      (some
      ["2404 2 896 10 4089 1 8 1 7 1 35637 6 29034 8 2 46 2 11"]),
   ofLines ["narb", "oldnortharabian"]
      ["68224 32"]
      none,
   ofLines ["nbat", "nabataean"]
      ["67712 31 8 9"]
      none,
   ofLines ["newa"]
      ["70656 92 1 5"]
      none,
   ofLines ["nkoo", "nko"]
      ["1984 59 2 3"]
      (some
      ["1548 1 14 1 3 1 416 59 2 3 62782 2"]),
   ofLines ["nshu", "nushu"]
      ["94177 1 16782 396"]
      none,
   ofLines ["ogam", "ogham"]
      ["5760 29"]
      none,
   ofLines ["olck", "olchiki"]
      ["7248 48"]
      none,
   ofLines ["orkh", "oldturkic"]
      ["68608 73"]
      none,
   ofLines ["orya", "oriya"]
      ["2817 3 1 8 2 2 2 22 1 7 1 2 1 5 2 9 2 2 2 3 7 3 4 2 1 5 2 18"]
      (some
      ["2385 2 17 2 411 3 1 8 2 2 2 22 1 7 1 2 1 5 2 9 2 2 2 3 7 3 4 2 1 5 2 18 4450 1 23 1"]),
   ofLines ["osge", "osage"]
      ["66736 36 4 36"]
      none,
   ofLines ["osma", "osmanya"]
      ["66688 30 2 10"]
      none,
   ofLines ["ougr", "olduyghur"]
      ["69488 26"]
      (some
      ["1600 1 66737 1 1149 26"]),
   ofLines ["palm", "palmyrene"]
      ["67680 32"]
      none,
   ofLines ["pauc", "paucinhau"]
      ["72384 57"]
      none,
   ofLines ["perm", "oldpermic"]
      ["66384 43"]
      (some
      ["1155 1 65228 43"]),
   ofLines ["phag", "phagspa"]
      ["43072 56"]
      (some
      ["6146 2 1 1 36922 56"]),
   ofLines ["phli", "inscriptionalpahlavi"]
      ["68448 19 5 8"]
      none,
   ofLines ["phlp", "psalterpahlavi"]
      ["68480 18 7 4 12 7"]
      (some
      ["1600 1 66879 18 7 4 12 7"]),
   ofLines ["phnx", "phoenician"]
      ["67840 28 3 1"]
      none,
   ofLines ["plrd", "miao"]
      ["93952 75 4 57 7 17"]
      none,
   ofLines ["prti", "inscriptionalparthian"]
      ["68416 22 2 8"]
      none,
   ofLines ["rjng", "rejang"]
      ["43312 36 11 1"]
      none,
   ofLines ["rohg", "hanifirohingya"]
      ["68864 40 8 10"]
      (some
      ["1548 1 14 1 3 1 32 1 147 1 67115 40 8 10"]),
   ofLines ["runr", "runic"]
      ["5792 75 3 11"]
      none,
   ofLines ["samr", "samaritan"]
      ["2048 46 2 15"]
      none,
   ofLines ["sarb", "oldsoutharabian"]
      ["68192 32"]
      none,
   ofLines ["saur", "saurashtra"]
      ["43136 70 8 12"]
      none,
   ofLines ["sgnw", "signwriting"]
      ["120832 652 15 5 1 15"]
      none,
   ofLines ["shaw", "shavian"]
      ["66640 48"]
      none,
   ofLines ["shrd", "sharada"]
      ["70016 96"]
      (some
      ["2385 1 4997 1 1 1 2 2 2 1 62623 96"]),
   ofLines ["sidd", "siddham"]
      ["71040 54 2 38"]
      none,
   ofLines ["sind", "khudawadi"]
      ["70320 59 5 10"]
      (some
      ["2404 2 40650 10 27254 59 5 10"]),
   ofLines ["sinh", "sinhala"]
      ["3457 3 1 18 3 24 1 9 1 1 2 7 3 1 4 6 1 1 1 8 6 10 2 3 66540 20"]
      (some
      ["2404 2 1051 3 1 18 3 24 1 9 1 1 2 7 3 1 4 6 1 1 1 8 6 10 2 3 66540 20"]),
   ofLines ["sogd", "sogdian"]
      ["69424 42"]
      (some
      ["1600 1 67823 42"]),
   ofLines ["sogo", "oldsogdian"]
      ["69376 40"]
      none,
   ofLines ["sora", "sorasompeng"]
      ["69840 25 7 10"]
      none,
   ofLines ["soyo", "soyombo"]
      ["72272 83"]
      none,
   ofLines ["sund", "sundanese"]
      ["7040 64 256 8"]
      none,
   ofLines ["sylo", "sylotinagri"]
      ["43008 45"]
      (some
      ["2404 2 128 10 40464 45"]),
   ofLines ["syrc", "syriac"]
      ["1792 14 1 60 2 3 272 11"]
      (some
      ["1548 1 14 2 2 1 32 1 10 11 26 1 143 14 1 60 2 3 272 11 5517 1 1 1"]),
   ofLines ["tagb", "tagbanwa"]
      ["5984 13 1 3 1 2"]
      (some
      ["5941 2 41 13 1 3 1 2"]),
   ofLines ["takr", "takri"]
      ["71296 58 6 10"]
      (some
      ["2404 2 40650 10 28230 58 6 10"]),
   ofLines ["tale", "taile"]
      ["6480 30 2 5"]
      (some
      ["4160 10 2310 30 2 5"]),
   ofLines ["talu", "newtailue"]
      ["6528 44 4 26 6 11 3 2"]
      none,
   ofLines ["taml", "tamil"]
      ["2946 2 1 6 3 3 1 4 3 2 1 1 1 2 3 2 3 3 3 12 4 5 3 3 1 4 2 1 6 1 14 21 70597 50 13 1"]
      (some
      ["2385 2 17 2 540 2 1 6 3 3 1 4 3 2 1 1 1 2 3 2 3 3 3 12 4 5 3 3 1 4 2 1 6 1 14 21 4319",
       "1 35864 1 27149 1 1 1 55 2 3203 50 13 1"]),
   ofLines ["tang", "tangut"]
      ["94176 1 31 6136 8 768 512 9"]
      none,
   ofLines ["tavt", "taiviet"]
      ["43648 67 24 5"]
      none,
   ofLines ["telu", "telugu"]
      ["3072 13 1 3 1 23 1 16 2 9 1 3 1 4 7 2 1 3 2 1 2 4 2 10 7 9"]
      (some
      ["2385 2 17 2 666 13 1 3 1 23 1 16 2 9 1 3 1 4 7 2 1 3 2 1 2 4 2 10 7 9 4186 1 23 1"]),
   ofLines ["tfng", "tifinagh"]
      ["11568 56 7 2 14 1"]
      none,
   ofLines ["tglg", "tagalog"]
      ["5888 22 9 1"]
      (some
      ["5888 22 9 1 21 2"]),
   ofLines ["thaa", "thaana"]
      ["1920 50"]
      (some
      ["1548 1 14 2 2 1 64 10 278 50 63040 1 10 1"]),
   ofLines ["thai"]
      ["3585 58 5 28"]
      none,
   ofLines ["tibt", "tibetan"]
      ["3840 72 1 36 4 39 1 36 1 15 1 7 4 2"]
      none,
   ofLines ["tirh", "tirhuta"]
      ["70784 72 8 10"]
      (some
      ["2385 2 17 2 5004 1 35645 10 27718 72 8 10"]),
   ofLines ["tnsa", "tangsa"]
      ["92784 79 1 10"]
      none,
   ofLines ["toto"]
      ["123536 31"]
      none,
   ofLines ["ugar", "ugaritic"]
      ["66432 30 1 1"]
      none,
   ofLines ["vaii", "vai"]
      ["42240 300"]
      none,
   ofLines ["vith", "vithkuqi"]
      ["66928 11 1 15 1 7 1 2 1 11 1 15 1 7 1 2"]
      none,
   ofLines ["wara", "warangciti"]
      ["71840 83 12 1"]
      none,
   ofLines ["wcho", "wancho"]
      ["123584 58 5 1"]
      none,
   ofLines ["xpeo", "oldpersian"]
      ["66464 36 4 14"]
      none,
   ofLines ["xsux", "cuneiform"]
      ["73728 922 102 111 1 5 11 196"]
      none,
   ofLines ["yezi", "yezidi"]
      ["69248 42 1 3 2 2"]
      (some
      ["1548 1 14 1 3 1 64 10 67606 42 1 3 2 2"]),
   ofLines ["yiii", "yi"]
      ["40960 1165 3 55"]
      (some
      ["12289 2 5 10 2 8 223 1 28420 1165 3 55 23194 5"]),
   ofLines ["zanb", "zanabazarsquare"]
      ["72192 72"]
      none,
   ofLines ["zinh", "inherited", "qaai"]
      ["768 112 277 2 452 11 26 1 736 4 4443 31 513 3 1 13 1 7 4 1 6 1 3 2 198 64 524 2 194 33",
       "3897 4 107 2 52581 16 16 14 975 1 226 1 4186 1 48068 46 2 23 544 3 17 8 2 7 30 4",
       "798546 240"]
      (some
      ["768 66 1 2 1 29 1520 2 4443 31 755 54 1 1 1 5 524 2 194 32 56592 16 16 14 975 1 52482",
       "46 2 23 544 3 17 8 2 7 30 4 798546 240"]),
   ofLines ["zyyy", "common"]
      ["0 65 26 6 26 47 1 15 1 5 23 1 31 1 449 39 5 5 2 20 116 1 9 1 6 1 1 1 637 1 6 1 14 1 3",
       "1 32 1 156 1 516 1 129 2 1241 1 405 4 290 1 1519 3 71 2 203 2 1 1 1229 1 13 1 7 4 1 6",
       "1 3 2 1 773 12 2 87 1 11 3 11 1 15 17 33 63 38 1 3 2 6 1 27 1 17 41 3 4 666 22 11 21",
       "928 256 628 2 32 1 105 512 94 402 21 1 1 1 25 15 8 4 4 91 2 3 1 90 2 147 16 32 38 9 1",
       "48 64 31 81 47 1 88 168 6592 64 22784 34 102 3 165 10 244 1 160 1 395 1 14 2 20946 2",
       "208 10 22 35 1 19 1 4 147 1 1 32 26 6 26 11 10 1 45 2 64 7 1 7 10 5 258 3 4 45 3 9 80",
       "13 51 45 228 27 47524 4 3932 250 6 436 156 116 60 246 10 39 2 62 3 17 8 2 7 30 4 61",
       "213 20 12 20 12 87 9 25 135 85 1 71 1 2 2 1 2 2 2 4 1 12 1 1 1 7 1 65 1 4 2 8 1 7 1 28",
       "1 4 1 5 1 1 3 7 1 340 2 292 2 50 5233 68 76 61 706 44 4 100 12 15 2 15 1 15 1 37 10",
       "174 56 26 1 2 13 44 4 9 7 2 14 6 154 984 4 17 3 13 3 119 4 95 6 12 4 1 15 12 4 56 8 10",
       "6 40 8 30 2 12 4 2 62 340 12 14 2 13 3 10 5 56 7 15 2 11 6 9 7 147 1 102 787463 1 30",
       "96"]
      (some
      ["0 65 26 6 26 47 1 15 1 5 23 1 31 1 449 39 5 5 2 20 116 1 9 1 6 1 1 1 637 1 215 1 516 1",
       "1372 1 405 4 1810 3 2322 12 2 33 1 53 1 11 3 11 1 15 17 33 63 38 1 3 2 6 1 27 1 17 41",
       "3 4 666 22 11 21 928 256 628 2 32 1 105 512 67 1 26 402 17 3 1 13 1 13 1 21 1 429 2 9",
       "1 88 24 31 1 49 15 12 4 161 10 5 96 31 1 6592 64 22792 26 102 3 976 1 14 2 21156 10 22",
       "21 2 12 1 19 1 4 147 1 1 32 26 6 26 6 127 7 1 7 10 5 402 13 51 45 51715 250 6 436 156",
       "116 60 246 10 39 2 62 3 17 8 2 7 30 4 61 213 20 12 20 12 87 27 7 135 85 1 71 1 2 2 1 2",
       "2 2 4 1 12 1 1 1 7 1 65 1 4 2 8 1 7 1 28 1 4 1 5 1 1 3 7 1 340 2 292 2 50 5233 68 76",
       "61 706 44 4 100 12 15 2 15 1 15 1 37 10 174 56 26 1 2 13 44 4 9 23 6 154 984 4 17 3 13",
       "3 119 4 95 6 12 4 1 15 12 4 56 8 10 6 40 8 30 2 12 4 2 62 340 12 14 2 13 3 10 5 56 7",
       "15 2 11 6 9 7 147 1 102 787463 1 30 96"]),
   ofLines ["gara", "garay"]
      ["68928 38 3 29 8 2"]
      none,
   ofLines ["todr", "todhri"]
      ["67008 52"]
      none,
   ofLines ["tutg", "tulutigalari"]
      ["70528 10 1 1 2 1 1 38 1 10 1 1 2 1 1 4 1 10 1 2 8 2"]
      none,
   ofLines ["sunu", "sunuwar"]
      ["72640 34 14 10"]
      none,
   ofLines ["gukh", "gurungkhema"]
      ["90368 58"]
      none,
   ofLines ["krai", "kiratrai"]
      ["93504 58"]
      none,
   ofLines ["onao", "olonal"]
      ["124368 43 4 1"]
      none]

end Script

end ClassFields.Unicode
