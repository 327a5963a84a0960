import ChartLint.Text.CodeText

/-!
# Writing systems

The characters of each writing system, by the property *Script* of the Unicode character database,
edition 16.  Names are written without blanks, underscores and hyphens, in lower case.
-/

namespace ChartLint.Text

/-- The names of each writing system, and the codes of its characters. -/
def writingSystems : List (List String × List String) :=
  [(["adlam", "adlm"],
    ["1E900+4B 5+9 5+1"]),
   (["ahom"],
    ["11700+1A 3+E 5+16"]),
   (["anatolianhieroglyphs", "hluw"],
    ["14400+246"]),
   (["arabic", "arab"],
    ["600+4 2+5 2+D 2+2 2+1F 2+9 C+19 2+6B 2+21 51+2F F1+1E 2+1 6+4A 2+1C F251+72 11+16A 3+4F",
     "3+35 8 21+F 71+4 2+86 F64+1E 44+2 38+3 DF01+3 2+1A 2+1 2 3 2+9 2+3 2 2 7 5 2 2 2+2 2+1 2",
     "3 2 2 2 2 2+1 2 3+3 2+6 2+3 2+3 2 2+9 2+10 6+2 2+4 2+10 35+1"]),
   (["armenian", "armn"],
    ["531+25 3+31 3+2 F584+4"]),
   (["avestan", "avst"],
    ["10B00+35 4+6"]),
   (["balinese", "bali"],
    ["1B00+4C 2+31"]),
   (["bamum", "bamu"],
    ["A6A0+57 C109+238"]),
   (["bassavah", "bass"],
    ["16AD0+1D 3+5"]),
   (["batak", "batk"],
    ["1BC0+33 9+3"]),
   (["bengali", "beng"],
    ["980+3 2+7 3+1 3+15 2+6 2 4+3 3+8 3+1 3+3 9 5+1 2+4 3+18"]),
   (["bhaiksuki", "bhks"],
    ["11C00+8 2+2C 2+D B+1C"]),
   (["bopomofo", "bopo"],
    ["2EA+1 2E1A+2A 71+1F"]),
   (["brahmi", "brah"],
    ["11000+4D 5+23 A"]),
   (["braille", "brai"],
    ["2800+FF"]),
   (["buginese", "bugi"],
    ["1A00+1B 3+1"]),
   (["buhid", "buhd"],
    ["1740+13"]),
   (["canadianaboriginal", "cans"],
    ["1400+27F 231+45 101BB+F"]),
   (["carian", "cari"],
    ["102A0+30"]),
   (["caucasianalbanian", "aghb"],
    ["10530+33 C"]),
   (["chakma", "cakm"],
    ["11100+34 2+11"]),
   (["cham"],
    ["AA00+36 A+D 3+9 3+3"]),
   (["cherokee", "cher"],
    ["13A0+55 3+5 9773+4F"]),
   (["chorasmian", "chrs"],
    ["10FB0+1B"]),
   (["common", "zyyy"],
    ["0+40 1B+5 1B+2E 2+E 2+4 18 20 1C2+26 6+4 3+13 75 A 7 2 27E 7 F 4 21 9D 205 82+1 4DA 196+3",
     "123 5F0+2 48+1 CC+1 2 4CE E 8+3 2+5 2+2 3 306+B 3+56 2+A 4+A 2+E 12+20 40+25 2+2 3+5 2+1A",
     "2+10 2A+2 5+299 17+A 16+39F 101+273 3+1F 2+68 201+5D 193+14 2 2+18 10+7 5+3 5C+1 4 5B+1",
     "94+F 21+25 A 31+3F 20+50 30 59+A7 19C1+3F 5901+21 67+2 A6+9 F5 A1 18C F+1 51D3+1 D1+9",
     "17+22 2+12 2+3 94 2+1F 1B+5 1B+A B 2E+1 41+6 2+6 B+4 103+2 5+2C 4+8 51+C 34+2C E5+1A",
     "B9A5+3 F5D+F9 7+1B3 9D+73 3D+F5 B+26 3+3D 4+10 9+1 8+1D 5+3C D6+13 D+13 D+56 A+18 88+54",
     "2+46 2+1 3 3+1 3+3 2+B 2 2+6 2+40 2+3 3+7 2+6 2+1B 2+3 2+4 2 4+6 2+153 3+123 3+31 1472+43",
     "4D+3C 2C3+2B 5+63 D+E 3+E 2+E 2+24 B+AD 39+19 2+1 E+2B 5+8 8+1 F+5 9B+3D7 5+10 4+C 4+76",
     "5+5E 7+B 5 10+B 5+37 9+9 7+27 9+1D 3+B 5+1 3F+153 D+D 3+C 4+9 6+37 8+E 3+A 7+8 8+92 2+65",
     "C0408 1F+5F"]),
   (["coptic", "copt", "qaac"],
    ["3E2+D 2891+73 6+6"]),
   (["cuneiform", "xsux"],
    ["12000+399 67+6E 2+4 C+C3"]),
   (["cypriot", "cprt"],
    ["10800+5 3 2+2B 2+1 4 3"]),
   (["cyprominoan", "cpmn"],
    ["12F90+62"]),
   (["cyrillic", "cyrl"],
    ["400+84 3+A8 1751+A A1 4D 1068+1F 7841+5F 578F+1 E201+3D 22"]),
   (["deseret", "dsrt"],
    ["10400+4F"]),
   (["devanagari", "deva"],
    ["900+50 5+E 3+19 9F61+1F 7201+9"]),
   (["divesakuru", "diak"],
    ["11900+6 3 3+7 2+1 2+1D 2+1 3+B A+9"]),
   (["dogra", "dogr"],
    ["11800+3B"]),
   (["duployan", "dupl"],
    ["1BC00+6A 6+C 4+8 8+9 3+3"]),
   (["egyptianhieroglyphs", "egyp"],
    ["13000+455 B+F9A"]),
   (["elbasan", "elba"],
    ["10500+27"]),
   (["elymaic", "elym"],
    ["10FE0+16"]),
   (["ethiopic", "ethi"],
    ["1200+48 2+3 3+6 2 2+3 3+28 2+3 3+20 2+3 3+6 2 2+3 3+E 2+38 2+3 3+42 3+1F 4+19 19E7+16 A+6",
     "2+6 2+6 2+6 2+6 2+6 2+6 2+6 7D23+5 3+5 3+5 A+6 2+6 13CB2+6 2+3 2+1 2+E"]),
   (["garay", "gara"],
    ["10D40+25 4+1C 9+1"]),
   (["georgian", "geor"],
    ["10A0+25 2 6 3+2A 2+3 B91+2A 3+2 1041+25 2 6"]),
   (["glagolitic", "glag"],
    ["2C00+5F 1B3A1+6 2+10 3+6 2+1 2+4"]),
   (["gothic", "goth"],
    ["10330+1A"]),
   (["grantha", "gran"],
    ["11300+3 2+7 3+1 3+15 2+6 2+1 2+4 3+8 3+1 3+2 3 7 6+6 3+6 4+4"]),
   (["greek", "grek"],
    ["370+3 2+2 3+3 2 5 2 2+2 2 2+13 2+3E F+F 1927+4 33+4 5+4 55 141+15 3+5 3+25 3+5 3+7 2 2 2",
     "2+1E 3+34 2+E 2+D 3+5 2+12 3+2 2+8 128 8A3F 55DB+4E 12 D060+45"]),
   (["gujarati", "gujr"],
    ["A81+2 2+8 2+2 2+15 2+6 2+1 2+4 3+9 2+2 2+2 3 10+3 3+B 8+6"]),
   (["gunjalagondi", "gong"],
    ["11D60+5 2+1 2+24 2+1 2+5 8+9"]),
   (["gurmukhi", "guru"],
    ["A01+2 2+5 5+1 3+15 2+6 2+1 2+1 2+1 3 2+4 5+1 3+2 4 8+3 2 8+10"]),
   (["gurungkhema", "gukh"],
    ["16100+39"]),
   (["han", "hani"],
    ["2E80+19 2+58 D+D5 30 2 1A+8 F+3 3C5+19BF 41+51FF 5901+16D 3+69 7509+1 D+1 900F+A6DF",
     "21+1039 7+DD 3+1681 F+1D30 10+26D 9A3+21D 5E3+134A 6+105F"]),
   (["hangul", "hang"],
    ["1100+FF 1E2F+1 102+5D 72+1E 42+1E 76E2+1C 284+2BA3 D+16 5+30 27A5+1E 4+5 3+5 3+5 3+2"]),
   (["hanifirohingya", "rohg"],
    ["10D00+27 9+9"]),
   (["hanunoo", "hano"],
    ["1720+14"]),
   (["hatran", "hatr"],
    ["108E0+12 2+1 6+4"]),
   (["hebrew", "hebr"],
    ["591+36 9+1A 5+5 F529+19 2+4 2 2+1 2+1 2+9"]),
   (["hiragana", "hira"],
    ["3041+55 7+2 17F62+11E 13 1E+2 40AE"]),
   (["imperialaramaic", "armi"],
    ["10840+15 2+8"]),
   (["inherited", "zinh", "qaai"],
    ["300+6F 116+1 1C5+A 1B 2E1+3 115C+1E 202+2 2+C 2+6 5 7 4+1 C7+3F 20D+1 C3+20 F3A+3 6C+1",
     "CD66+F 11+D 3D0 E3 105B BBC5+2D 3+16 221+2 12+7 3+6 1F+3 C2F53+EF"]),
   (["inscriptionalpahlavi", "phli"],
    ["10B60+12 6+7"]),
   (["inscriptionalparthian", "prti"],
    ["10B40+15 3+7"]),
   (["javanese", "java"],
    ["A980+4D 3+9 5+1"]),
   (["kaithi", "kthi"],
    ["11080+42 B"]),
   (["kannada", "knda"],
    ["C80+C 2+2 2+16 2+9 2+4 3+8 2+2 2+3 8+1 7+1 2+3 3+9 2+2"]),
   (["katakana", "kana"],
    ["30A1+59 3+2 F1+F D1+2E 2+57 CC0F+9 2+2C B053+3 2+6 2+1 2 120+2 33 F+3"]),
   (["kawi"],
    ["11F00+10 2+28 4+1C"]),
   (["kayahli", "kali"],
    ["A900+2D 2"]),
   (["kharoshthi", "khar"],
    ["10A00+3 2+1 6+7 2+2 2+1C 3+2 5+9 8+8"]),
   (["khitansmallscript", "kits"],
    ["16FE4 1B1C+1D5 2A"]),
   (["khmer", "khmr"],
    ["1780+5D 3+9 7+9 1E7+1F"]),
   (["khojki", "khoj"],
    ["11200+11 2+2E"]),
   (["khudawadi", "sind"],
    ["112B0+3A 6+9"]),
   (["kiratrai", "krai"],
    ["16D40+39"]),
   (["lao", "laoo"],
    ["E81+1 2 2+4 2+17 2 2+16 3+4 2 2+6 2+9 3+3"]),
   (["latin", "latn"],
    ["41+19 7+19 30 10 6+16 2+1E 2+1C0 28+4 1A1C+25 7+30 6+3 6+C 2+45 42+FF 172 E 11+C 8E+1 7",
     "1C 12+28 AD8+1F 7AA3+65 4+42 3+1 2 2+7 16+D 331+2A 2+8 2+3 4F97+6 41B+19 7+19 826+5 2+29",
     "2+8 D746+1E 7+5"]),
   (["lepcha", "lepc"],
    ["1C00+37 4+E 4+2"]),
   (["limbu", "limb"],
    ["1900+1E 2+B 5+B 5 4+B"]),
   (["lineara", "lina"],
    ["10600+136 A+15 B+7"]),
   (["linearb", "linb"],
    ["10000+B 2+19 2+12 2+1 2+E 3+D 23+7A"]),
   (["lisu"],
    ["A4D0+2F 7AB1"]),
   (["lycian", "lyci"],
    ["10280+1C"]),
   (["lydian", "lydi"],
    ["10920+19 6"]),
   (["mahajani", "mahj"],
    ["11150+26"]),
   (["makasar", "maka"],
    ["11EE0+18"]),
   (["malayalam", "mlym"],
    ["D00+C 2+2 2+32 2+2 2+5 5+F 3+19"]),
   (["mandaic", "mand"],
    ["840+1B 3"]),
   (["manichaean", "mani"],
    ["10AC0+26 5+B"]),
   (["marchen", "marc"],
    ["11C70+1F 3+15 2+D"]),
   (["masaramgondi", "gonm"],
    ["11D00+6 2+1 2+2B 4 2+1 2+8 9+9"]),
   (["medefaidrin", "medf"],
    ["16E40+5A"]),
   (["meeteimayek", "mtei"],
    ["AAE0+16 CA+2D 3+9"]),
   (["mendekikakui", "mend"],
    ["1E800+C4 3+F"]),
   (["meroiticcursive", "merc"],
    ["109A0+17 5+13 3+2D"]),
   (["meroitichieroglyphs", "mero"],
    ["10980+1F"]),
   (["miao", "plrd"],
    ["16F00+4A 5+38 8+10"]),
   (["modi"],
    ["11600+44 C+9"]),
   (["mongolian", "mong"],
    ["1800+1 3 2+13 7+58 8+2A FDB6+C"]),
   (["mro", "mroo"],
    ["16A40+1E 2+9 5+1"]),
   (["multani", "mult"],
    ["11280+6 2 2+3 2+E 2+A"]),
   (["myanmar", "mymr"],
    ["1000+9F 9941+1E 62+1F 6C51+13"]),
   (["nabataean", "nbat"],
    ["10880+1E 9+8"]),
   (["nagmundari", "nagm"],
    ["1E4D0+29"]),
   (["nandinagari", "nand"],
    ["119A0+7 3+2D 3+A"]),
   (["newtailue", "talu"],
    ["1980+2B 5+19 7+A 4+1"]),
   (["newa"],
    ["11400+5B 2+4"]),
   (["nko", "nkoo"],
    ["7C0+3A 3+2"]),
   (["nushu", "nshu"],
    ["16FE1 418F+18B"]),
   (["nyiakengpuachuehmong", "hmnp"],
    ["1E100+2C 4+D 3+9 5+1"]),
   (["ogham", "ogam"],
    ["1680+1C"]),
   (["olchiki", "olck"],
    ["1C50+2F"]),
   (["olonal", "onao"],
    ["1E5D0+2A 5"]),
   (["oldhungarian", "hung"],
    ["10C80+32 E+32 8+5"]),
   (["olditalic", "ital"],
    ["10300+23 A+2"]),
   (["oldnortharabian", "narb"],
    ["10A80+1F"]),
   (["oldpermic", "perm"],
    ["10350+2A"]),
   (["oldpersian", "xpeo"],
    ["103A0+23 5+D"]),
   (["oldsogdian", "sogo"],
    ["10F00+27"]),
   (["oldsoutharabian", "sarb"],
    ["10A60+1F"]),
   (["oldturkic", "orkh"],
    ["10C00+48"]),
   (["olduyghur", "ougr"],
    ["10F70+19"]),
   (["oriya", "orya"],
    ["B01+2 2+7 3+1 3+15 2+6 2+1 2+4 3+8 3+1 3+2 8+2 5+1 2+4 3+11"]),
   (["osage", "osge"],
    ["104B0+23 5+23"]),
   (["osmanya", "osma"],
    ["10480+1D 3+9"]),
   (["pahawhhmong", "hmng"],
    ["16B00+45 B+9 2+6 2+14 6+12"]),
   (["palmyrene", "palm"],
    ["10860+1F"]),
   (["paucinhau", "pauc"],
    ["11AC0+38"]),
   (["phagspa", "phag"],
    ["A840+37"]),
   (["phoenician", "phnx"],
    ["10900+1B 4"]),
   (["psalterpahlavi", "phlp"],
    ["10B80+11 8+3 D+6"]),
   (["rejang", "rjng"],
    ["A930+23 C"]),
   (["runic", "runr"],
    ["16A0+4A 4+A"]),
   (["samaritan", "samr"],
    ["800+2D 3+E"]),
   (["saurashtra", "saur"],
    ["A880+45 9+B"]),
   (["sharada", "shrd"],
    ["11180+5F"]),
   (["shavian", "shaw"],
    ["10450+2F"]),
   (["siddham", "sidd"],
    ["11580+35 3+25"]),
   (["signwriting", "sgnw"],
    ["1D800+28B 10+4 2+E"]),
   (["sinhala", "sinh"],
    ["D81+2 2+11 4+17 2+8 2 3+6 4 5+5 2 2+7 7+9 3+2 103ED+13"]),
   (["sogdian", "sogd"],
    ["10F30+29"]),
   (["sorasompeng", "sora"],
    ["110D0+18 8+9"]),
   (["soyombo", "soyo"],
    ["11A50+52"]),
   (["sundanese", "sund"],
    ["1B80+3F 101+7"]),
   (["sunuwar", "sunu"],
    ["11BC0+21 F+9"]),
   (["sylotinagri", "sylo"],
    ["A800+2C"]),
   (["syriac", "syrc"],
    ["700+D 2+3B 3+2 111+A"]),
   (["tagalog", "tglg"],
    ["1700+15 A"]),
   (["tagbanwa", "tagb"],
    ["1760+C 2+2 2+1"]),
   (["taile", "tale"],
    ["1950+1D 3+4"]),
   (["taitham", "lana"],
    ["1A20+3E 2+1C 3+A 7+9 7+D"]),
   (["taiviet", "tavt"],
    ["AA80+42 19+4"]),
   (["takri", "takr"],
    ["11680+39 7+9"]),
   (["tamil", "taml"],
    ["B82+1 2+5 4+2 2+3 4+1 2 2+1 4+1 4+2 4+B 5+4 4+2 2+3 3 7 F+14 113C6+31 E"]),
   (["tangsa", "tnsa"],
    ["16A70+4E 2+9"]),
   (["tangut", "tang"],
    ["16FE0 20+17F7 9+2FF 201+8"]),
   (["telugu", "telu"],
    ["C00+C 2+2 2+16 2+F 3+8 2+2 2+3 8+1 2+2 3 3+3 3+9 8+8"]),
   (["thaana", "thaa"],
    ["780+31"]),
   (["thai"],
    ["E01+39 6+1B"]),
   (["tibetan", "tibt"],
    ["F00+47 2+23 5+26 2+23 2+E 2+6 5+1"]),
   (["tifinagh", "tfng"],
    ["2D30+37 8+1 F"]),
   (["tirhuta", "tirh"],
    ["11480+47 9+9"]),
   (["todhri", "todr"],
    ["105C0+33"]),
   (["toto"],
    ["1E290+1E"]),
   (["tulutigalari", "tutg"],
    ["11380+9 2 3 2+25 2+9 2 3 2+3 2+9 2+1 9+1"]),
   (["ugaritic", "ugar"],
    ["10380+1D 2"]),
   (["vai", "vaii"],
    ["A500+12B"]),
   (["vithkuqi", "vith"],
    ["10570+A 2+E 2+6 2+1 2+A 2+E 2+6 2+1"]),
   (["wancho", "wcho"],
    ["1E2C0+39 6"]),
   (["warangciti", "wara"],
    ["118A0+52 D"]),
   (["yezidi", "yezi"],
    ["10E80+29 2+2 3+1"]),
   (["yi", "yiii"],
    ["A000+48C 4+36"]),
   (["zanabazarsquare", "zanb"],
    ["11A00+47"])]

end ChartLint.Text
