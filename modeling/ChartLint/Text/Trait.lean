import ChartLint.Text.CodeText

/-!
# Traits of characters

Properties of the Unicode character database, edition 16, that a character has or has not.  Most of
them follow general categories with few exceptions, so a trait is given by categories, by the codes
that are added to them and by the codes that are removed.  Names are written without blanks,
underscores and hyphens, in lower case.
-/

namespace ChartLint.Text

/-- A property that a character has or has not. -/
structure Trait where
  /-- Its names. -/
  names : List String
  /-- Categories whose characters have it. -/
  categories : List String
  /-- Further codes that have it. -/
  added : List String
  /-- Codes of the categories that do not have it. -/
  removed : List String

/-- The traits. -/
def traits : List Trait :=
  [{ names := ["alphabetic", "alpha"]
     categories := ["Lu", "Ll", "Lt", "Lm", "Lo", "Nl"]
     added := ["345 1E+C 241+D 2 2+1 2+1 2 49+A 31+C 2+6 11 66+6 5+3 3+1 5 24 1F+F 67+A 66+1 4+8 2+2 2+3",
      "6B 3D+B 4+6 7+13 37+1 3+E 2+1 6+2 B+1 1E+2 3B+6 3+1 3+1 B B+1 1E+2 3B+4 5+1 3+1 5 1F+1 4",
      "C+2 3B+7 2+2 2+1 16+1 17+2 5+2 3B+6 3+1 3+1 A+1 B+1 1F 3C+4 4+2 2+2 B 29+4 3A+6 2+2 2+2",
      "9+1 C+1 1E+2 3B+6 2+2 2+2 9+1 C+1 10 D+3 3B+6 2+2 2+2 B B+1 1E+2 4C+5 2 2+7 13+1 3E 3+6",
      "13 64 3+5 2+1 11 A4+12 A+A 2+23 6F+B 2 3+3 18+3 5+2 2+2 3+6 4+3 E+B 2 B+3 675+1 1F+1",
      "1F+1 1F+1 43+12 BD+1 23 77+B 5+8 DF+4 3A+9 3+13 4B+1 C+2 32+4 31+E 3D+2 1F+8 3+1 3A+A",
      "33+12 19D+21 6C2+33 8F7+1F 7875+7 23+1 163 9 18+4 59+1 33+F 2 3A 27+4 1D+B 2E+3 31+B 26",
      "44+D D 9+1 2E+2 33 2+2 3+1 6 2D+4 6 EE+7 4F34 858+4 687+2 2+1 6+3 315+3 42 142+1 50",
      "104+2 36+D 2E+1 C+2 2E+8 A 3E+2 25+B 13+1 3A+2 31+C F+1 5D+8 3 7 3 9E+9 18+3 3B+6 3+1",
      "3+1 B B+1 55+8 2 3 2+3 2+1 68+C 2+2 6B+11 EE+6 3+6 1E+1 53+E 2 6B+A 68+D 102+C F8+5 2+1",
      "3+1 4 2 8F+6 3+5 5 1D+9 2B+4 2+3 13+A 2F+D 198+7 2+6 54+15 2+D 7B+5 4 2+1 2+2 2 4 43+4",
      "2+1 2+3 15D+3 A+1 2 31+6 4+2 41DE+10 E21 2+36 8+3 5E+1 4CAD 2362+6 2+10 3+6 2+1 2+4 65",
      "8B8 7E9+19 7+19 7+19"]
     removed := [] },
   { names := ["lowercase", "lower"]
     categories := ["Ll"]
     added := ["AA 10 1F6+8 8+1 1F+4 61 35 D82 C30+3E E 23+24 2B2 E 11+C D4+F 351+19 793+1 7A1F+1 D3",
      "82+2 4+1 363+3 A 5C17 3+2 2+29 2+8 D876+3D"]
     removed := [] },
   { names := ["uppercase", "upper"]
     categories := ["Lu"]
     added := ["2160+F 347+19 1CC61+19 7+19 7+19"]
     removed := [] },
   { names := ["cased"]
     categories := ["Lu", "Ll", "Lt"]
     added := ["AA 10 1F6+8 8+1 1F+4 61 35 D82 C30+3E E 23+24 2B2 E 11+C C4+1F 337+33 793+1 7A1F+1 D3",
      "82+2 4+1 363+3 A 5C17 3+2 2+29 2+8 D876+3D 10C3+19 7+19 7+19"]
     removed := [] },
   { names := ["caseignorable", "ci"]
     categories := ["Mn", "Me", "Cf", "Lm", "Sk"]
     added := ["27 7 C 7D 2D0 1D8 95 1A24+1 B 3 DDEC 3F 3 B2 7 C"]
     removed := [] },
   { names := ["math"]
     categories := ["Sm"]
     added := ["5E 372+2 3 1B+1 3+1 1C21 1C+2 C 21+3 19+1 F+1 42+C 5 4+1 5+4 13 5 3+9 2 4+4 7 4+1 3+1",
      "2+2 2+5 4+3 6+4 4C+4 3+3 2+1 2+1 2 2+4 3+1 5+1 5+11 3+1 2 2+6 2 7+1 123+3 A9+1 2 19 12",
      "1BE+1 D+8 6+4 6+1 3+1 4+4 F 2 3+5 19+1 3A 2 1E+3 A+1 157+1 20+9 194+15 40+3 21+1 D464 2",
      "5 D4 2 D4C2+54 2+46 2+1 3 3+1 3+3 2+B 2 2+6 2+40 2+3 3+7 2+6 2+1B 2+3 2+4 2 4+6 2+153",
      "3+18 2+18 2+1E 2+18 2+1E 2+18 2+1E 2+18 2+1E 2+18 2+7 3+31 1601+3 2+1A 2+1 2 3 2+9 2+3 2",
      "2 7 5 2 2 2+2 2+1 2 3 2 2 2 2 2+1 2 3+3 2+6 2+3 2+3 2 2+9 2+10 6+2 2+4 2+10"]
     removed := [] },
   { names := ["idstart", "ids"]
     categories := ["Lu", "Ll", "Lt", "Lm", "Lo", "Nl"]
     added := ["1885+1 892 16 F6D+1"]
     removed := ["2E2F"] },
   { names := ["idcontinue", "idc"]
     categories := ["Lu", "Ll", "Lt", "Lm", "Lo", "Nl", "Mn", "Mc", "Nd", "Pc"]
     added := ["B7 2D0 FE2+8 669 632+1 10B 16 F6D+1 5F CE6A"]
     removed := ["2E2F"] },
   { names := ["xidstart", "xids"]
     categories := ["Lu", "Ll", "Lt", "Lm", "Lo", "Nl"]
     added := ["1885+1 892 16"]
     removed := ["37A AB9 80 1F7C CE2F+5 197+1 75 2 2 2 2 2 2 2 120+1"] },
   { names := ["xidcontinue", "xidc"]
     categories := ["Lu", "Ll", "Lt", "Lm", "Lo", "Nl", "Mn", "Mc", "Nd", "Pc"]
     added := ["B7 2D0 FE2+8 669 632+1 10B 16 FCD CE6A"]
     removed := ["37A 2AB5 CE2F+5 197+1 75 2 2 2 2 2 2 2"] },
   { names := ["graphemeextend", "grext"]
     categories := ["Mn", "Me"]
     added := ["9BE 19 167 19 67 19 E9 2 5+1 2+1 A+1 68 19 78 10 936 1F 401 6 2 6+1 66 48+1 419 1022+1",
      "7924 6D 55DE+1 1221 75 109 F A 61 A 3 2+2 6 E1 D F2 107 27A D 604 50AF+1 6174+1 7+5",
      "C2EAE+5F"]
     removed := [] },
   { names := ["dash"]
     categories := ["Pd"]
     added := ["2053 28 10 187"]
     removed := [] },
   { names := ["asciihexdigit", "ahex"]
     categories := []
     added := ["30+9 8+5 1B+5"]
     removed := [] },
   { names := ["hexdigit", "hex"]
     categories := []
     added := ["30+9 8+5 1B+5 FEAA+9 8+5 1B+5"]
     removed := [] },
   { names := ["ideographic", "ideo"]
     categories := []
     added := ["3006+1 1A+8 F+2 3C6+19BF 41+51FF 5901+16D 3+69 750B 1C+17F7 9+4D5 2A+9 2468+18B",
      "4D05+A6DF 21+1039 7+DD 3+1681 F+1D30 10+26D 9A3+21D 5E3+134A 6+105F"]
     removed := [] },
   { names := ["unifiedideograph", "uideo"]
     categories := []
     added := ["3400+19BF 41+51FF 5A0F+1 2 2+1 B 2 2+1 3+2 105D7+A6DF 21+1039 7+DD 3+1681 F+1D30 10+26D",
      "11A3+134A 6+105F"]
     removed := [] },
   { names := ["radical"]
     categories := []
     added := ["2E80+19 2+58 D+D5"]
     removed := [] },
   { names := ["emoji"]
     categories := []
     added := ["23 7 6+9 70 5 1F8E D D9 17 5B+5 10+1 170+1 D A7 1A+A 5+2 C8 E8+1 B A 3B+3 2+4 A 3 3+1 3",
      "5 3 2+1 3 4 4+1 9+2 6 2 6+B C+1 3 2+1 2 13 3+1 13+5 2 2+1 4+1 6 3+1 5+1 C+1 6+1 3 6+1 2",
      "2+1 15+1 6+5 2+3 3 5 3 3+5 2 3 2 2 7 4 7 B+1 10 3 5 2 5+2 2 C+1 31+2 A F F 175+1 1D0+2",
      "14+1 34 5 4DB D 25A 2 1BD6B CB A1+1 D+1 F 3+9 4C+19 2+1 18 15 3+8 16+1 AF+21 3+6F 3+1",
      "2+2 3+52 3+2 2+106 2+3E C+5 2+17 8+1 3+7 D 3+3 3 5+1 E+1 3 9+1 A 6+2 D+2 9+2 3 2 5 7 4",
      "7+55 31+45 6+7 3+2 5+9 4 2+1 4 3+9 E4+B 5 11C+2E 2+9 2+B8 71+C 4+9 6+37 8+E 3+A 7+8"]
     removed := [] },
   { names := ["emojipresentation", "epres"]
     categories := []
     added := ["231A+1 CE+3 4 3 20A+1 16+1 33+B 2C 14 E 9+1 12+1 6+1 9 6 16 8+1 2 5 3 8 5+1 1D 24 2 5+2",
      "2 3E+2 19 F 35C+1 34 5 1C4AF CB BF 3+9 4C+19 2 19 15 3+4 2+2 16+1 AF+20 D+8 2+45 2+15",
      "D+2A 5+4 D+10 4 4+46 2 2+BA 3+3E E+3 2+17 13 1B+1 E 57+54 31+45 7 4+2 3+2 5+3 C+1 8+8",
      "E4+B 5 11C+2E 2+9 2+B8 71+C 4+9 6+37 8+E 3+A 7+8"]
     removed := [] },
   { names := ["emojimodifier", "emod"]
     categories := []
     added := ["1F3FB+4"]
     removed := [] },
   { names := ["emojimodifierbase", "ebase"]
     categories := []
     added := ["261D DC 11+3 1CC78 3D+2 3 3+2 76+1 3+A 16+12 4 5+2 2+2 8 2 19 CA+1 5 16 5+1 AF+2 4+4 54",
      "11+2 A C 240 3 9+7 7 A+9 3+2 39 3E+1 2+1 2 12+2 2+C E6+2 2B+8"]
     removed := [] },
   { names := ["emojicomponent", "ecomp"]
     categories := []
     added := ["23 7 6+9 1FD4 D6 DD2C F3D7+19 1FC+4 5B1+3 C066D+5F"]
     removed := [] },
   { names := ["regionalindicator", "ri"]
     categories := []
     added := ["1F1E6+19"]
     removed := [] },
   { names := ["variationselector", "vs"]
     categories := []
     added := ["180B+2 2 E5F1+F D02F1+EF"]
     removed := [] },
   { names := ["quotationmark", "qmark"]
     categories := []
     added := ["22 5 84 10 1F5D+7 1A+1 E08 1CA+3 E+2 CE22+3 BE 5 5B+1"]
     removed := [] },
   { names := ["diacritic", "dia"]
     categories := []
     added := ["5E 2 48 7 5 3+1 1F8+9E 2+7 6+5 12+1 5 A+1 FE+4 D2 38+2C 2 2+1 2+1 2 84+7 5+1 87+1 5+1",
      "4+2 44+1A 5C+A 3B+A 23+1 7F+7 2A+9 11+1B 3E 11 4+3 1D 4B 11 6F 11 6F 11 30+2 3D 11 8 78",
      "6F 11 6F 11 6E+1 11 7D 70 D+5 2 6C E+4 4C+1 1C 2 2 5+1 43+2 2+1 3F 71 2+1 29+1 5+4 1A+6",
      "2 B+1 2C2+2 3B5+1 1F 95+A A 15C+2 125 15+7 3 31+E 3+A 69 10 27+8 37+1 3B C+1 43+1 41+5",
      "53+18 5 7 3+2 33+3E 31+23 6+B 26+A 1BE 2+2 C+2 E+2 E+2 E+1 CF1+2 13E 1FB+5 6A+3 60 7573",
      "D+1 2 1D+1 53+1 F+21 67+2 6E+1 D 26 98 1C+11 3A+3 25 60 D 25 96+2 42+3 34 65+4 A+2 81+1",
      "4F31 302+F 10F 2 30 2E+1 44 2FD 4A0+5 2+29 2+8 27E+2 5 A6+1 23C+5 27 1B+4 190+2 47+A",
      "32+3 C1 2A 49+1 79+1 3F 4D A+2 69+1 B3+1 51+1 11 19+6 4+4 5A+2 2+1 E+1 60 4 7C+1 FC+1 7F",
      "77+1 74 10E+1 103+1 5 9D 54 13 52 1A6 103 2+1 52 1AA+1 18 14ED+E 2CDA 9C1+4 3C+6 235+1",
      "223+10 51+1 3FFF+3 2+6 2+1 1F02+2D 3+16 221+2 4+5 9+7 3+6 1F+3 E83+3D C3+6 178 3E+3",
      "2FF+1 2E1+6 6E+2 2+2"]
     removed := [] },
   { names := ["extender", "ext"]
     categories := []
     added := ["B7 219+1 36F 1BA 277 8A 5A 2F1 80 944 39 264 18F 45 138A 2C+4 68+1 5E+2 6F17 5F7 3C3 17",
      "8A 6D 16+1 547C 811+1 5CC 1C 5 4C8 126 75+1 1F3+2 4D0 50AA+1 49D+1 2 7159+1 4B2 355+2"]
     removed := [] },
   { names := ["joincontrol", "joinc"]
     categories := []
     added := ["200C+1"]
     removed := [] },
   { names := ["bidicontrol", "bidic"]
     categories := []
     added := ["61C 19F2+1 1B+4 38+3"]
     removed := [] },
   { names := ["bidimirrored", "bidim"]
     categories := []
     added := ["28+1 13 2 1D 2 1E 2 2E 10 E7F+3 75E+1 99D+1 B+1 37+1 F+1 B2 C1+3 4+5 4 4+1 4+3 2+3 2 2",
      "5+8 6 2+11 6+3 A+1 2 2+7 2+1F 3+3 6 A+1 3+12 6+1 A+4 3+1 5+17 3+F 9+3 15+1 8+1 43E+D 4B",
      "3+3 2+1 2+2 6+3 6+2 4+D 194+15 3+5 2+D 9 8+5 4 5+4 2+1 3+4 5 2+2 3+1 B+5 3+1 D+12 2+3 3",
      "2 3 2+3 6+1 7+2 19+1 C+1 5+3 2+1 3+1 5+2A 3+7 2+27 6 2 4+4 6+2 5 4+4 2 101 204+3 4+1 2+1",
      "F+1 3+9 2C+7 1AC+9 3+7 CE3E+5 6+1 A3+1 13 2 1D 2 1E 2 2+1 2+1 D778 3A 3A 3A 3A"]
     removed := [] },
   { names := ["noncharactercodepoint", "nchar"]
     categories := []
     added := ["FDD0+1F 20F+1 FFFF+1 FFFF+1 FFFF+1 FFFF+1 FFFF+1 FFFF+1 FFFF+1 FFFF+1 FFFF+1 FFFF+1",
      "FFFF+1 FFFF+1 FFFF+1 FFFF+1 FFFF+1 FFFF+1"]
     removed := [] },
   { names := ["defaultignorablecodepoint", "di"]
     categories := []
     added := ["AD 2A2 2CD B43+1 654+1 56+4 7FC+4 1B+4 32+F 10F5 CC9C+F F0 A1 50+8 BCA8+3 14D0+7",
      "C2E86+FFF"]
     removed := [] },
   { names := ["deprecated", "dep"]
     categories := []
     added := ["149 52A 904 2 82A+1 8C6+5 2BA+1 DDCD7"]
     removed := [] },
   { names := ["logicalorderexception", "loe"]
     categories := []
     added := ["E40+4 7C+4 AF1+2 3 90FB+1 3 2+1"]
     removed := [] },
   { names := ["softdotted", "sd"]
     categories := []
     added := ["69+1 C5 11A 1F 35 15 141 63 2 190A 34 E 4 85 9E 1A6 D7+1 B33 1A7A6+1 33+1 33+1 33+1 33+1",
      "33+1 33+1 33+1 33+1 33+1 33+1 33+1 33+1 887 132+1 1B"]
     removed := [] },
   { names := ["sentenceterminal", "sterm"]
     categories := []
     added := ["21 D 11 54A 94+2 B5 2C+2 F7 3E 2 4+1 126+1 6E5+1 317 5+1 306 C7+1 9E+1 2E 6 13B+1 163+3",
      "A3+1 B+1 3+1 1E+2 BC+1 42+1 3A5 18+1 A+2 CB0+2 133 E 17+1 1AE 74FD 10F+1 E4 4 17F+1 57+1",
      "60 99+1 94+2 91+1 FA 5227 3+1 3C 4+1 AA D 11 42 AF5+1 4FE+4 2D+3 BE+1 76+3 80+2 82+1 7",
      "11+1 59+1 2+1 6D 12B+1 76+1 176+1 6+E 6A+1 FA+2 206 2 FC+1 58+1 1A5+1 2B5+1 4B+1 4B2A+1",
      "86 42+1 C 22A+1 129 4E07 1DE9"]
     removed := [] },
   { names := ["terminalpunctuation", "term"]
     categories := []
     added := ["21 B 2 C+1 4 33F 9 202 3A 49 F 2+2 B5 2C+A 2 EC+1 37+5 2+7 20 106+1 4F5+1 AD 5+5 138+1",
      "316+7 306 7D+2 48+1 9E+2 4 28+3 3+1 13B+1 163+3 A3+1 B+1 2+2 1E+2 BC+4 3F+1 3A5 18+1 A+2",
      "CB0+2 133 E 5 B 2+1 4+1 1AD+1 74FC+1 10E+2 E4+4 17F+1 57+1 60 98+2 94+2 80 11+1 FA 5227",
      "3+1 3A+2 2+3 AA B 2 C+1 4 42 3 43B 31 487 C8 137+1 99+5 45+5 5A+3 3B9+4 2D+3 BE+6 71+3",
      "80+2 82+1 7 11+1 59+4 6D 12B+1 76+2 D+1 167+3 4+E 6A+1 FA+2 206 2 FC+1 58+1 5+1 19F+2 2E",
      "286+1 4B+1 52C+4 45FA+1 86 42+2 B 22A+1 128+1 4E07 1DE8+3"]
     removed := [] },
   { names := ["patternsyntax", "patsyn"]
     categories := []
     added := ["21+E B+6 1B+3 2 1B+3 23+6 2 2+1 2 2+1 5 5 4 18 20 1F19+17 9+E 3+12 2+9 132+2CF A1+275",
      "1F+401 2+68 201+7F 182+2 5+18 10 CD0E+1 106+1"]
     removed := [] },
   { names := ["patternwhitespace", "patws"]
     categories := []
     added := ["9+4 13 65 1F89+1 19+1"]
     removed := [] },
   { names := ["idsbinaryoperator", "idsb"]
     categories := []
     added := ["2FF0+1 3+9 1F2"]
     removed := [] },
   { names := ["idstrinaryoperator", "idst"]
     categories := []
     added := ["2FF2+1"]
     removed := [] }]

end ChartLint.Text
