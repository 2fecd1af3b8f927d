import CustomFields.Unicode.Category

/-!
# Properties

The binary properties of the character database, each as a union of general categories, a few
code points that the property adds to them, and a few that it leaves out.
-/

namespace CustomFields.Unicode

/-- A property: its long name, its short one, and how it differs from some categories. Only the
binary properties are of this form. The age of a character, and the breaks of graphemes, words and
sentences, have tables of their own, which are left out, so that a pattern with one of them is
refused. -/
structure Property where
  name : String
  shortName : String
  categories : List Category
  added : String
  removed : String

namespace Property

/-- The code points that have a property. -/
def codePoints (p : Property) : CodePoints :=
  let base := CodePoints.ofRanges (p.categories.flatMap fun c => c.codePoints.ranges)
  (base.union (.ofText p.added)).diff (.ofText p.removed)

/-- Hexadecimal digits of the ASCII range. -/
def asciiHexDigit : Property where
  name := "ASCII_Hex_Digit"
  shortName := "AHex"
  categories := []
  added := "30-39 41-46 61-66"
  removed := ""

/-- Letters, and marks and numbers that go with them. -/
def alphabetic : Property where
  name := "Alphabetic"
  shortName := "Alpha"
  categories :=
    [.uppercaseLetter, .lowercaseLetter, .titlecaseLetter, .modifierLetter, .otherLetter,
      .nonspacingMark, .spacingMark, .enclosingMark, .letterNumber]
  added := "24B6-24E9 1F130-1F149 1F150-1F169 1F170-1F189"
  removed :=
    "300-344 346-36F 483-489 591-5AF 658 6DF-6E0 6EA-6EC 740-74A 7EB-7F3 7FD 818-819 82D " ++
    "859-85B 898-89F 8CA-8D3 8E0-8E1 8EA-8EF 93C 94D 951-954 9BC 9CD 9FE A3C A4D ABC ACD " ++
    "AFD-AFF B3C B4D B55 BCD C3C C4D CBC CCD D3B-D3C D4D DCA E47-E4C E4E EBA EC8-ECC ECE " ++
    "F18-F19 F35-F39/2 F3E-F3F F84 F86-F87 FC6 1037 1039-103A 135D-135F 1714-1715 1734 " ++
    "17B4-17B5 17C9-17D3 17DD 180B-180D 180F 1939-193B 1A60 1A75-1A7C 1A7F 1AB0-1ABE 1AC1-1ACB " ++
    "1B34 1B44 1B6B-1B73 1BAA-1BAB 1BE6 1BF2-1BF3 1C37 1CD0-1CD2 1CD4-1CE8 1CED 1CF4 1CF7-1CF9 " ++
    "1DC0-1DE6 1DF5-1DFF 20D0-20F0 2CEF-2CF1 2D7F 302A-302F 3099-309A A66F-A672 A67C-A67D " ++
    "A6F0-A6F1 A806 A82C A8C4 A8E0-A8F1 A92B-A92D A953 A9B3 A9C0 AABF AAC1 AAF6 ABEC-ABED " ++
    "FE00-FE0F FE20-FE2F 101FD 102E0 10A38-10A3A 10A3F 10AE5-10AE6 10EFD-10EFF 10F46-10F50 " ++
    "10F82-10F85 11046 11070 1107F 110B9-110BA 11133-11134 11173 111C0 111C9-111CC 11235-11236 " ++
    "112E9-112EA 1133B-1133C 1134D 11366-1136C 11370-11374 11442 11446 1145E 114C2-114C3 " ++
    "115BF-115C0 1163F 116B6-116B7 1172B 11839-1183A 1193D-1193E 11943 119E0 11A33-11A34 11A47 " ++
    "11A98-11A99 11C3F 11D42 11D44-11D45 11D97 11F41-11F42 13440 13447-13455 16AF0-16AF4 " ++
    "16B30-16B36 16FE4 1BC9D 1CF00-1CF2D 1CF30-1CF46 1D165-1D169 1D16D-1D172 1D17B-1D182 " ++
    "1D185-1D18B 1D1AA-1D1AD 1D242-1D244 1DA00-1DA36 1DA3B-1DA6C 1DA75 1DA84 1DA9B-1DA9F " ++
    "1DAA1-1DAAF 1E130-1E136 1E2AE 1E2EC-1E2EF 1E4EC-1E4EF 1E8D0-1E8D6 1E944-1E946 1E948-1E94A " ++
    "E0100-E01EF"

/-- Marks that steer the direction of writing. -/
def bidiControl : Property where
  name := "Bidi_Control"
  shortName := "Bidi_C"
  categories := []
  added := "61C 200E-200F 202A-202E 2066-2069"
  removed := ""

/-- Characters that are mirrored where text runs from right to left. -/
def bidiMirrored : Property where
  name := "Bidi_Mirrored"
  shortName := "Bidi_M"
  categories := [.openPunctuation, .closePunctuation, .initialPunctuation, .finalPunctuation]
  added :=
    "3C 3E 2140 2201-2204 2208-220D 2211 2215-2216 221A-221D 221F-2222 2224 2226 222B-2233 " ++
    "2239 223B-224C 2252-2255 225F-2260 2262 2264-226B 226E-228C 228F-2292 2298 22A2-22A3 " ++
    "22A6-22B8 22BE-22BF 22C9-22CD 22D0-22D1 22D6-22ED 22F0-22FF 2320-2321 27C0 27C3-27C4 " ++
    "27C8-27C9 27CB-27CD 27D3-27D6 27DC-27DE 27E2-27E5 299B-29A0 29A2-29AF 29B8 29C0-29C5 29C9 " ++
    "29CE-29D2 29D4-29D5 29DC 29E1 29E3-29E5 29E8-29E9 29F4-29F9 2A0A-2A1C 2A1E-2A21 2A24 2A26 " ++
    "2A29 2A2B-2A2E 2A34-2A35 2A3C-2A3E 2A57-2A58 2A64-2A65 2A6A-2A6D 2A6F-2A70 2A73-2A74 " ++
    "2A79-2AA3 2AA6-2AAD 2AAF-2AD6 2ADC 2ADE 2AE2-2AE6 2AEC-2AEE 2AF3 2AF7-2AFB 2AFD 2BFE " ++
    "FE64-FE65 FF1C FF1E 1D6DB 1D715 1D74F 1D789 1D7C3"
  removed := "2018-201F 2E42 301D-301F FD3E-FD3F FE17-FE18 FE35-FE44 FE47-FE48"

/-- Characters that are skipped where the case of a word is looked at. -/
def caseIgnorable : Property where
  name := "Case_Ignorable"
  shortName := "CI"
  categories := [.modifierLetter, .nonspacingMark, .enclosingMark, .modifierSymbol, .format]
  added := "27 2E 3A B7 387 55F 5F4 2018-2019 2024 2027 FE13 FE52 FE55 FF07 FF0E FF1A"
  removed := ""

/-- Characters that are of some case. -/
def cased : Property where
  name := "Cased"
  shortName := "Cased"
  categories := [.uppercaseLetter, .lowercaseLetter, .titlecaseLetter]
  added :=
    "AA BA 2B0-2B8 2C0-2C1 2E0-2E4 345 37A 10FC 1D2C-1D6A 1D78 1D9B-1DBF 2071 207F 2090-209C " ++
    "2160-217F 24B6-24E9 2C7C-2C7D A69C-A69D A770 A7F2-A7F4 A7F8-A7F9 AB5C-AB5F AB69 10780 " ++
    "10783-10785 10787-107B0 107B2-107BA 1E030-1E06D 1F130-1F149 1F150-1F169 1F170-1F189"
  removed := ""

/-- Characters that case folding replaces. -/
def changesWhenCasefolded : Property where
  name := "Changes_When_Casefolded"
  shortName := "CWCF"
  categories := [.uppercaseLetter, .titlecaseLetter]
  added :=
    "B5 DF 149 17F 345 3C2 3D0-3D1 3D5-3D6 3F0-3F1 3F5 587 13F8-13FD 1C80-1C88 1E9A-1E9B " ++
    "1F80-1F87 1F90-1F97 1FA0-1FA7 1FB2-1FB4 1FB7 1FC2-1FC4 1FC7 1FF2-1FF4 1FF7 2160-216F " ++
    "24B6-24CF AB70-ABBF FB00-FB06 FB13-FB17"
  removed :=
    "3D2-3D4 13A0-13F5 2102 2107 210B-210D 2110-2112 2115 2119-211D 2124 2128 212C-212D " ++
    "2130-2131 2133 213E-213F 2145 1D400-1D419 1D434-1D44D 1D468-1D481 1D49C 1D49E-1D49F 1D4A2 " ++
    "1D4A5-1D4A6 1D4A9-1D4AC 1D4AE-1D4B5 1D4D0-1D4E9 1D504-1D505 1D507-1D50A 1D50D-1D514 " ++
    "1D516-1D51C 1D538-1D539 1D53B-1D53E 1D540-1D544 1D546 1D54A-1D550 1D56C-1D585 1D5A0-1D5B9 " ++
    "1D5D4-1D5ED 1D608-1D621 1D63C-1D655 1D670-1D689 1D6A8-1D6C0 1D6E2-1D6FA 1D71C-1D734 " ++
    "1D756-1D76E 1D790-1D7A8 1D7CA"

/-- Characters that some change of case replaces. -/
def changesWhenCasemapped : Property where
  name := "Changes_When_Casemapped"
  shortName := "CWCM"
  categories := [.uppercaseLetter, .lowercaseLetter, .titlecaseLetter]
  added := "345 2160-217F 24B6-24E9"
  removed :=
    "138 18D 19B 1AA-1AB 1BA 1BE 221 234-239 255 258 25A 25D-25F 262 264 267 26D-26E 270 " ++
    "273-274 276-27C 27E-27F 281 284-286 28D-291 293 295-29C 29F-2AF 3D2-3D4 3FC 560 588 " ++
    "1D00-1D2B 1D6B-1D77 1D7A-1D7C 1D7E-1D8D 1D8F-1D9A 1E9C-1E9D 1E9F 2102 2107 210A-2113 2115 " ++
    "2119-211D 2124 2128 212C-212D 212F-2131 2133-2134 2139 213C-213F 2145-2149 2C71 2C74 " ++
    "2C77-2C7B 2CE4 A730-A731 A771-A778 A78E A795 A7AF A7D3 A7D5 A7FA AB30-AB52 AB54-AB5A " ++
    "AB60-AB68 1D400-1D454 1D456-1D49C 1D49E-1D49F 1D4A2 1D4A5-1D4A6 1D4A9-1D4AC 1D4AE-1D4B9 " ++
    "1D4BB 1D4BD-1D4C3 1D4C5-1D505 1D507-1D50A 1D50D-1D514 1D516-1D51C 1D51E-1D539 1D53B-1D53E " ++
    "1D540-1D544 1D546 1D54A-1D550 1D552-1D6A5 1D6A8-1D6C0 1D6C2-1D6DA 1D6DC-1D6FA 1D6FC-1D714 " ++
    "1D716-1D734 1D736-1D74E 1D750-1D76E 1D770-1D788 1D78A-1D7A8 1D7AA-1D7C2 1D7C4-1D7CB " ++
    "1DF00-1DF09 1DF0B-1DF1E 1DF25-1DF2A"

/-- Characters that have a lower case of their own. -/
def changesWhenLowercased : Property where
  name := "Changes_When_Lowercased"
  shortName := "CWL"
  categories := [.uppercaseLetter, .titlecaseLetter]
  added := "2160-216F 24B6-24CF"
  removed :=
    "3D2-3D4 2102 2107 210B-210D 2110-2112 2115 2119-211D 2124 2128 212C-212D 2130-2131 2133 " ++
    "213E-213F 2145 1D400-1D419 1D434-1D44D 1D468-1D481 1D49C 1D49E-1D49F 1D4A2 1D4A5-1D4A6 " ++
    "1D4A9-1D4AC 1D4AE-1D4B5 1D4D0-1D4E9 1D504-1D505 1D507-1D50A 1D50D-1D514 1D516-1D51C " ++
    "1D538-1D539 1D53B-1D53E 1D540-1D544 1D546 1D54A-1D550 1D56C-1D585 1D5A0-1D5B9 1D5D4-1D5ED " ++
    "1D608-1D621 1D63C-1D655 1D670-1D689 1D6A8-1D6C0 1D6E2-1D6FA 1D71C-1D734 1D756-1D76E " ++
    "1D790-1D7A8 1D7CA"

/-- Characters that have a title case of their own. -/
def changesWhenTitlecased : Property where
  name := "Changes_When_Titlecased"
  shortName := "CWT"
  categories := [.lowercaseLetter]
  added := "1C4 1C7 1CA 1F1 345 2170-217F 24D0-24E9"
  removed :=
    "138 18D 19B 1AA-1AB 1BA 1BE 221 234-239 255 258 25A 25D-25F 262 264 267 26D-26E 270 " ++
    "273-274 276-27C 27E-27F 281 284-286 28D-291 293 295-29C 29F-2AF 3FC 560 588 10D0-10FA " ++
    "10FD-10FF 1D00-1D2B 1D6B-1D77 1D7A-1D7C 1D7E-1D8D 1D8F-1D9A 1E9C-1E9D 1E9F 210A 210E-210F " ++
    "2113 212F 2134 2139 213C-213D 2146-2149 2C71 2C74 2C77-2C7B 2CE4 A730-A731 A771-A778 A78E " ++
    "A795 A7AF A7D3 A7D5 A7FA AB30-AB52 AB54-AB5A AB60-AB68 1D41A-1D433 1D44E-1D454 " ++
    "1D456-1D467 1D482-1D49B 1D4B6-1D4B9 1D4BB 1D4BD-1D4C3 1D4C5-1D4CF 1D4EA-1D503 1D51E-1D537 " ++
    "1D552-1D56B 1D586-1D59F 1D5BA-1D5D3 1D5EE-1D607 1D622-1D63B 1D656-1D66F 1D68A-1D6A5 " ++
    "1D6C2-1D6DA 1D6DC-1D6E1 1D6FC-1D714 1D716-1D71B 1D736-1D74E 1D750-1D755 1D770-1D788 " ++
    "1D78A-1D78F 1D7AA-1D7C2 1D7C4-1D7C9 1D7CB 1DF00-1DF09 1DF0B-1DF1E 1DF25-1DF2A"

/-- Characters that have an upper case of their own. -/
def changesWhenUppercased : Property where
  name := "Changes_When_Uppercased"
  shortName := "CWU"
  categories := [.lowercaseLetter, .titlecaseLetter]
  added := "345 2170-217F 24D0-24E9"
  removed :=
    "138 18D 19B 1AA-1AB 1BA 1BE 221 234-239 255 258 25A 25D-25F 262 264 267 26D-26E 270 " ++
    "273-274 276-27C 27E-27F 281 284-286 28D-291 293 295-29C 29F-2AF 3FC 560 588 1D00-1D2B " ++
    "1D6B-1D77 1D7A-1D7C 1D7E-1D8D 1D8F-1D9A 1E9C-1E9D 1E9F 210A 210E-210F 2113 212F 2134 2139 " ++
    "213C-213D 2146-2149 2C71 2C74 2C77-2C7B 2CE4 A730-A731 A771-A778 A78E A795 A7AF A7D3 A7D5 " ++
    "A7FA AB30-AB52 AB54-AB5A AB60-AB68 1D41A-1D433 1D44E-1D454 1D456-1D467 1D482-1D49B " ++
    "1D4B6-1D4B9 1D4BB 1D4BD-1D4C3 1D4C5-1D4CF 1D4EA-1D503 1D51E-1D537 1D552-1D56B 1D586-1D59F " ++
    "1D5BA-1D5D3 1D5EE-1D607 1D622-1D63B 1D656-1D66F 1D68A-1D6A5 1D6C2-1D6DA 1D6DC-1D6E1 " ++
    "1D6FC-1D714 1D716-1D71B 1D736-1D74E 1D750-1D755 1D770-1D788 1D78A-1D78F 1D7AA-1D7C2 " ++
    "1D7C4-1D7C9 1D7CB 1DF00-1DF09 1DF0B-1DF1E 1DF25-1DF2A"

/-- Dashes and minus signs. -/
def dash : Property where
  name := "Dash"
  shortName := "Dash"
  categories := [.dashPunctuation]
  added := "2053 207B 208B 2212"
  removed := ""

/-- Code points that are not shown where they are not known. -/
def defaultIgnorableCodePoint : Property where
  name := "Default_Ignorable_Code_Point"
  shortName := "DI"
  categories := []
  added :=
    "AD 34F 61C 115F-1160 17B4-17B5 180B-180F 200B-200F 202A-202E 2060-206F 3164 FE00-FE0F " ++
    "FEFF FFA0 FFF0-FFF8 1BCA0-1BCA3 1D173-1D17A E0000-E0FFF"
  removed := ""

/-- Characters that are not to be used any more. -/
def deprecated : Property where
  name := "Deprecated"
  shortName := "Dep"
  categories := []
  added := "149 673 F77 F79 17A3-17A4 206A-206F 2329-232A E0001"
  removed := ""

/-- Marks that change the sound or the meaning of a character. -/
def diacritic : Property where
  name := "Diacritic"
  shortName := "Dia"
  categories := [.modifierSymbol]
  added :=
    "B7 2B0-2C1 2C6-2D1 2E0-2E4 2EC 2EE 300-34E 350-357 35D-362 374 37A 483-487 559 591-5A1 " ++
    "5A3-5BD 5BF 5C1-5C2 5C4 64B-652 657-658 6DF-6E0 6E5-6E6 6EA-6EC 730-74A 7A6-7B0 7EB-7F5 " ++
    "818-819 898-89F 8C9-8D2 8E3-8FE 93C 94D 951-954 971 9BC 9CD A3C A4D ABC ACD AFD-AFF B3C " ++
    "B4D B55 BCD C3C C4D CBC CCD D3B-D3C D4D DCA E47-E4C E4E EBA EC8-ECC F18-F19 F35-F39/2 " ++
    "F3E-F3F F82-F84 F86-F87 FC6 1037 1039-103A 1063-1064 1069-106D 1087-108D 108F 109A-109B " ++
    "135D-135F 1714-1715 17C9-17D3 17DD 1939-193B 1A75-1A7C 1A7F 1AB0-1ABE 1AC1-1ACB 1B34 1B44 " ++
    "1B6B-1B73 1BAA-1BAB 1C36-1C37 1C78-1C7D 1CD0-1CE8 1CED 1CF4 1CF7-1CF9 1D2C-1D6A 1DC4-1DCF " ++
    "1DF5-1DFF 2CEF-2CF1 2E2F 302A-302F 3099-309A 30FC A66F A67C-A67D A67F A69C-A69D A6F0-A6F1 " ++
    "A717-A71F A788 A7F8-A7F9 A8C4 A8E0-A8F1 A92B-A92E A953 A9B3 A9C0 A9E5 AA7B-AA7D AABF-AAC2 " ++
    "AAF6 AB5C-AB5F AB69 ABEC-ABED FB1E FE20-FE2F FF70 FF9E-FF9F 102E0 10780-10785 10787-107B0 " ++
    "107B2-107BA 10AE5-10AE6 10D22-10D27 10EFD-10EFF 10F46-10F50 10F82-10F85 11046 11070 " ++
    "110B9-110BA 11133-11134 11173 111C0 111CA-111CC 11235-11236 112E9-112EA 1133C 1134D " ++
    "11366-1136C 11370-11374 11442 11446 114C2-114C3 115BF-115C0 1163F 116B6-116B7 1172B " ++
    "11839-1183A 1193D-1193E 11943 119E0 11A34 11A47 11A99 11C3F 11D42 11D44-11D45 11D97 " ++
    "13447-13455 16AF0-16AF4 16B30-16B36 16F8F-16F9F 16FF0-16FF1 1AFF0-1AFF3 1AFF5-1AFFB " ++
    "1AFFD-1AFFE 1CF00-1CF2D 1CF30-1CF46 1D167-1D169 1D16D-1D172 1D17B-1D182 1D185-1D18B " ++
    "1D1AA-1D1AD 1E030-1E06D 1E130-1E136 1E2AE 1E2EC-1E2EF 1E8D0-1E8D6 1E944-1E946 1E948-1E94A"
  removed := "888 FBB2-FBC2 1F3FB-1F3FF"

/-- Emoji, and the characters that they are made of. -/
def emoji : Property where
  name := "Emoji"
  shortName := "Emoji"
  categories := []
  added :=
    "23 2A 30-39 A9 AE 203C 2049 2122 2139 2194-2199 21A9-21AA 231A-231B 2328 23CF 23E9-23F3 " ++
    "23F8-23FA 24C2 25AA-25AB 25B6 25C0 25FB-25FE 2600-2604 260E 2611 2614-2615 2618 261D 2620 " ++
    "2622-2623 2626 262A 262E-262F 2638-263A 2640 2642 2648-2653 265F-2660 2663 2665-2666 2668 " ++
    "267B 267E-267F 2692-2697 2699 269B-269C 26A0-26A1 26A7 26AA-26AB 26B0-26B1 26BD-26BE " ++
    "26C4-26C5 26C8 26CE-26CF 26D1 26D3-26D4 26E9-26EA 26F0-26F5 26F7-26FA 26FD 2702 2705 " ++
    "2708-270D 270F 2712-2716/2 271D 2721 2728 2733-2734 2744 2747 274C 274E 2753-2755 2757 " ++
    "2763-2764 2795-2797 27A1 27B0 27BF 2934-2935 2B05-2B07 2B1B-2B1C 2B50 2B55 3030 303D 3297 " ++
    "3299 1F004 1F0CF 1F170-1F171 1F17E-1F17F 1F18E 1F191-1F19A 1F1E6-1F1FF 1F201-1F202 1F21A " ++
    "1F22F 1F232-1F23A 1F250-1F251 1F300-1F321 1F324-1F393 1F396-1F397 1F399-1F39B 1F39E-1F3F0 " ++
    "1F3F3-1F3F5 1F3F7-1F4FD 1F4FF-1F53D 1F549-1F54E 1F550-1F567 1F56F-1F570 1F573-1F57A 1F587 " ++
    "1F58A-1F58D 1F590 1F595-1F596 1F5A4-1F5A5 1F5A8 1F5B1-1F5B2 1F5BC 1F5C2-1F5C4 1F5D1-1F5D3 " ++
    "1F5DC-1F5DE 1F5E1 1F5E3 1F5E8 1F5EF 1F5F3 1F5FA-1F64F 1F680-1F6C5 1F6CB-1F6D2 1F6D5-1F6D7 " ++
    "1F6DC-1F6E5 1F6E9 1F6EB-1F6EC 1F6F0 1F6F3-1F6FC 1F7E0-1F7EB 1F7F0 1F90C-1F93A 1F93C-1F945 " ++
    "1F947-1F9FF 1FA70-1FA7C 1FA80-1FA88 1FA90-1FABD 1FABF-1FAC5 1FACE-1FADB 1FAE0-1FAE8 " ++
    "1FAF0-1FAF8"
  removed := ""

/-- Parts of emoji. -/
def emojiComponent : Property where
  name := "Emoji_Component"
  shortName := "EComp"
  categories := []
  added := "23 2A 30-39 200D 20E3 FE0F 1F1E6-1F1FF 1F3FB-1F3FF 1F9B0-1F9B3 E0020-E007F"
  removed := ""

/-- Tones of skin. -/
def emojiModifier : Property where
  name := "Emoji_Modifier"
  shortName := "EMod"
  categories := []
  added := "1F3FB-1F3FF"
  removed := ""

/-- Emoji that take a tone of skin. -/
def emojiModifierBase : Property where
  name := "Emoji_Modifier_Base"
  shortName := "EBase"
  categories := []
  added :=
    "261D 26F9 270A-270D 1F385 1F3C2-1F3C4 1F3C7 1F3CA-1F3CC 1F442-1F443 1F446-1F450 " ++
    "1F466-1F478 1F47C 1F481-1F483 1F485-1F487 1F48F 1F491 1F4AA 1F574-1F575 1F57A 1F590 " ++
    "1F595-1F596 1F645-1F647 1F64B-1F64F 1F6A3 1F6B4-1F6B6 1F6C0 1F6CC 1F90C 1F90F 1F918-1F91F " ++
    "1F926 1F930-1F939 1F93C-1F93E 1F977 1F9B5-1F9B6 1F9B8-1F9B9 1F9BB 1F9CD-1F9CF 1F9D1-1F9DD " ++
    "1FAC3-1FAC5 1FAF0-1FAF8"
  removed := ""

/-- Characters that are shown as emoji by default. -/
def emojiPresentation : Property where
  name := "Emoji_Presentation"
  shortName := "EPres"
  categories := []
  added :=
    "231A-231B 23E9-23EC 23F0 23F3 25FD-25FE 2614-2615 2648-2653 267F 2693 26A1 26AA-26AB " ++
    "26BD-26BE 26C4-26C5 26CE 26D4 26EA 26F2-26F3 26F5 26FA 26FD 2705 270A-270B 2728 274C 274E " ++
    "2753-2755 2757 2795-2797 27B0 27BF 2B1B-2B1C 2B50 2B55 1F004 1F0CF 1F18E 1F191-1F19A " ++
    "1F1E6-1F1FF 1F201 1F21A 1F22F 1F232-1F236 1F238-1F23A 1F250-1F251 1F300-1F320 1F32D-1F335 " ++
    "1F337-1F37C 1F37E-1F393 1F3A0-1F3CA 1F3CF-1F3D3 1F3E0-1F3F0 1F3F4 1F3F8-1F43E 1F440 " ++
    "1F442-1F4FC 1F4FF-1F53D 1F54B-1F54E 1F550-1F567 1F57A 1F595-1F596 1F5A4 1F5FB-1F64F " ++
    "1F680-1F6C5 1F6CC 1F6D0-1F6D2 1F6D5-1F6D7 1F6DC-1F6DF 1F6EB-1F6EC 1F6F4-1F6FC 1F7E0-1F7EB " ++
    "1F7F0 1F90C-1F93A 1F93C-1F945 1F947-1F9FF 1FA70-1FA7C 1FA80-1FA88 1FA90-1FABD 1FABF-1FAC5 " ++
    "1FACE-1FADB 1FAE0-1FAE8 1FAF0-1FAF8"
  removed := ""

/-- Pictures, those included that are kept free for later ones. -/
def extendedPictographic : Property where
  name := "Extended_Pictographic"
  shortName := "ExtPict"
  categories := []
  added :=
    "A9 AE 203C 2049 2122 2139 2194-2199 21A9-21AA 231A-231B 2328 2388 23CF 23E9-23F3 " ++
    "23F8-23FA 24C2 25AA-25AB 25B6 25C0 25FB-25FE 2600-2605 2607-2612 2614-2685 2690-2705 " ++
    "2708-2712 2714 2716 271D 2721 2728 2733-2734 2744 2747 274C 274E 2753-2755 2757 2763-2767 " ++
    "2795-2797 27A1 27B0 27BF 2934-2935 2B05-2B07 2B1B-2B1C 2B50 2B55 3030 303D 3297 3299 " ++
    "1F000-1F0FF 1F10D-1F10F 1F12F 1F16C-1F171 1F17E-1F17F 1F18E 1F191-1F19A 1F1AD-1F1E5 " ++
    "1F201-1F20F 1F21A 1F22F 1F232-1F23A 1F23C-1F23F 1F249-1F3FA 1F400-1F53D 1F546-1F64F " ++
    "1F680-1F6FF 1F774-1F77F 1F7D5-1F7FF 1F80C-1F80F 1F848-1F84F 1F85A-1F85F 1F888-1F88F " ++
    "1F8AE-1F8FF 1F90C-1F93A 1F93C-1F945 1F947-1FAFF 1FC00-1FFFD"
  removed := ""

/-- Characters that lengthen or repeat the one before. -/
def extender : Property where
  name := "Extender"
  shortName := "Ext"
  categories := []
  added :=
    "B7 2D0-2D1 640 7FA B55 E46 EC6 180A 1843 1AA7 1C36 1C7B 3005 3031-3035 309D-309E " ++
    "30FC-30FE A015 A60C A9CF A9E6 AA70 AADD AAF3-AAF4 FF70 10781-10782 1135D 115C6-115C8 " ++
    "11A98 16B42-16B43 16FE0-16FE1 16FE3 1E13C-1E13D 1E944-1E946"
  removed := ""

/-- Characters that can start what is seen as one character. -/
def graphemeBase : Property where
  name := "Grapheme_Base"
  shortName := "Gr_Base"
  categories :=
    [.uppercaseLetter, .lowercaseLetter, .titlecaseLetter, .modifierLetter, .otherLetter,
      .spacingMark, .decimalNumber, .letterNumber, .otherNumber, .connectorPunctuation,
      .dashPunctuation, .openPunctuation, .closePunctuation, .initialPunctuation, .finalPunctuation,
      .otherPunctuation, .mathSymbol, .currencySymbol, .modifierSymbol, .otherSymbol,
      .spaceSeparator]
  added := ""
  removed :=
    "9BE 9D7 B3E B57 BBE BD7 CC2 CD5-CD6 D3E D57 DCF DDF 1B35 302E-302F FF9E-FF9F 1133E 11357 " ++
    "114B0 114BD 115AF 11930 1D165 1D16E-1D172"

/-- Marks that go on what is seen as one character. -/
def graphemeExtend : Property where
  name := "Grapheme_Extend"
  shortName := "Gr_Ext"
  categories := [.nonspacingMark, .enclosingMark]
  added :=
    "9BE 9D7 B3E B57 BBE BD7 CC2 CD5-CD6 D3E D57 DCF DDF 1B35 200C 302E-302F FF9E-FF9F 1133E " ++
    "11357 114B0 114BD 115AF 11930 1D165 1D16E-1D172 E0020-E007F"
  removed := ""

/-- Hexadecimal digits, those of full width included. -/
def hexDigit : Property where
  name := "Hex_Digit"
  shortName := "Hex"
  categories := []
  added := "30-39 41-46 61-66 FF10-FF19 FF21-FF26 FF41-FF46"
  removed := ""

/-- Operators that describe an ideograph by two parts. -/
def idsBinaryOperator : Property where
  name := "IDS_Binary_Operator"
  shortName := "IDSB"
  categories := []
  added := "2FF0-2FF1 2FF4-2FFB"
  removed := ""

/-- Operators that describe an ideograph by three parts. -/
def idsTrinaryOperator : Property where
  name := "IDS_Trinary_Operator"
  shortName := "IDST"
  categories := []
  added := "2FF2-2FF3"
  removed := ""

/-- Characters of identifiers. -/
def idContinue : Property where
  name := "ID_Continue"
  shortName := "IDC"
  categories :=
    [.uppercaseLetter, .lowercaseLetter, .titlecaseLetter, .modifierLetter, .otherLetter,
      .nonspacingMark, .spacingMark, .decimalNumber, .letterNumber, .connectorPunctuation]
  added := "B7 387 1369-1371 19DA 2118 212E 309B-309C"
  removed := "2E2F"

/-- Characters that identifiers start with. -/
def idStart : Property where
  name := "ID_Start"
  shortName := "IDS"
  categories :=
    [.uppercaseLetter, .lowercaseLetter, .titlecaseLetter, .modifierLetter, .otherLetter,
      .letterNumber]
  added := "1885-1886 2118 212E 309B-309C"
  removed := "2E2F"

/-- Ideographs. -/
def ideographic : Property where
  name := "Ideographic"
  shortName := "Ideo"
  categories := []
  added :=
    "3006-3007 3021-3029 3038-303A 3400-4DBF 4E00-9FFF F900-FA6D FA70-FAD9 16FE4 17000-187F7 " ++
    "18800-18CD5 18D00-18D08 1B170-1B2FB 20000-2A6DF 2A700-2B739 2B740-2B81D 2B820-2CEA1 " ++
    "2CEB0-2EBE0 2F800-2FA1D 30000-3134A 31350-323AF"
  removed := ""

/-- Marks that join characters or keep them apart. -/
def joinControl : Property where
  name := "Join_Control"
  shortName := "Join_C"
  categories := []
  added := "200C-200D"
  removed := ""

/-- Vowels that stand in front of what they are spoken behind. -/
def logicalOrderException : Property where
  name := "Logical_Order_Exception"
  shortName := "LOE"
  categories := []
  added := "E40-E44 EC0-EC4 19B5-19B7 19BA AAB5-AAB6 AAB9 AABB-AABC"
  removed := ""

/-- Letters and marks of lower case. -/
def lowercase : Property where
  name := "Lowercase"
  shortName := "Lower"
  categories := [.lowercaseLetter]
  added :=
    "AA BA 2B0-2B8 2C0-2C1 2E0-2E4 345 37A 10FC 1D2C-1D6A 1D78 1D9B-1DBF 2071 207F 2090-209C " ++
    "2170-217F 24D0-24E9 2C7C-2C7D A69C-A69D A770 A7F2-A7F4 A7F8-A7F9 AB5C-AB5F AB69 10780 " ++
    "10783-10785 10787-107B0 107B2-107BA 1E030-1E06D"
  removed := ""

/-- Characters of formulas. -/
def math : Property where
  name := "Math"
  shortName := "Math"
  categories := [.mathSymbol]
  added :=
    "5E 3D0-3D2 3D5 3F0-3F1 3F4-3F5 2016 2032-2034 2040 2061-2064 207D-207E 208D-208E " ++
    "20D0-20DC 20E1 20E5-20E6 20EB-20EF 2102 2107 210A-2113 2115 2119-211D 2124 2128-2129 " ++
    "212C-212D 212F-2131 2133-2138 213C-213F 2145-2149 2195-2199 219C-219F 21A1-21A2 21A4-21A5 " ++
    "21A7 21A9-21AD 21B0-21B1 21B6-21B7 21BC-21CD 21D0-21D1 21D3 21D5-21DB 21DD 21E4-21E5 " ++
    "2308-230B 23B4-23B5 23B7 23D0 23E2 25A0-25A1 25AE-25B6 25BC-25C0 25C6-25C7 25CA-25CB " ++
    "25CF-25D3 25E2 25E4 25E7-25EC 2605-2606 2640 2642 2660-2663 266D-266E 27C5-27C6 27E6-27EF " ++
    "2983-2998 29D8-29DB 29FC-29FD FE61 FE63 FE68 FF3C FF3E 1D400-1D454 1D456-1D49C " ++
    "1D49E-1D49F 1D4A2 1D4A5-1D4A6 1D4A9-1D4AC 1D4AE-1D4B9 1D4BB 1D4BD-1D4C3 1D4C5-1D505 " ++
    "1D507-1D50A 1D50D-1D514 1D516-1D51C 1D51E-1D539 1D53B-1D53E 1D540-1D544 1D546 1D54A-1D550 " ++
    "1D552-1D6A5 1D6A8-1D6C0 1D6C2-1D6DA 1D6DC-1D6FA 1D6FC-1D714 1D716-1D734 1D736-1D74E " ++
    "1D750-1D76E 1D770-1D788 1D78A-1D7A8 1D7AA-1D7C2 1D7C4-1D7CB 1D7CE-1D7FF 1EE00-1EE03 " ++
    "1EE05-1EE1F 1EE21-1EE22 1EE24 1EE27 1EE29-1EE32 1EE34-1EE37 1EE39 1EE3B 1EE42 " ++
    "1EE47-1EE4B/2 1EE4D-1EE4F 1EE51-1EE52 1EE54 1EE57-1EE5F/2 1EE61-1EE62 1EE64 1EE67-1EE6A " ++
    "1EE6C-1EE72 1EE74-1EE77 1EE79-1EE7C 1EE7E 1EE80-1EE89 1EE8B-1EE9B 1EEA1-1EEA3 1EEA5-1EEA9 " ++
    "1EEAB-1EEBB"
  removed := ""

/-- Code points that will never be characters. -/
def noncharacterCodePoint : Property where
  name := "Noncharacter_Code_Point"
  shortName := "NChar"
  categories := []
  added :=
    "FDD0-FDEF FFFE-FFFF 1FFFE-1FFFF 2FFFE-2FFFF 3FFFE-3FFFF 4FFFE-4FFFF 5FFFE-5FFFF " ++
    "6FFFE-6FFFF 7FFFE-7FFFF 8FFFE-8FFFF 9FFFE-9FFFF AFFFE-AFFFF BFFFE-BFFFF CFFFE-CFFFF " ++
    "DFFFE-DFFFF EFFFE-EFFFF FFFFE-FFFFF 10FFFE-10FFFF"
  removed := ""

/-- Characters that the syntax of patterns may use. -/
def patternSyntax : Property where
  name := "Pattern_Syntax"
  shortName := "Pat_Syn"
  categories := [.openPunctuation, .closePunctuation, .initialPunctuation, .finalPunctuation]
  added :=
    "21-27 2A-2F 3A-40 5C-60/2 7C 7E A1-A7 A9 AC AE B0-B1 B6 BF D7 F7 2010-2017 2020-2027 " ++
    "2030-2038 203B-203E 2041-2044 2047-2053 2055-205E 2190-2307 230C-2328 232B-245F 2500-2767 " ++
    "2794-27C4 27C7-27E5 27F0-2982 2999-29D7 29DC-29FB 29FE-2BFF 2E00-2E01 2E06-2E08 2E0B " ++
    "2E0E-2E1B 2E1E-2E1F 2E2A-2E41 2E43-2E54 2E5D-2E7F 3001-3003 3012-3013 301C 3020 3030 " ++
    "FE45-FE46"
  removed :=
    "F3A-F3D 169B-169C 207D-207E 208D-208E FE17-FE18 FE35-FE44 FE47-FE48 FE59-FE5E FF08-FF09 " ++
    "FF3B FF3D FF5B FF5D FF5F-FF60 FF62-FF63"

/-- White space of the syntax of patterns. -/
def patternWhiteSpace : Property where
  name := "Pattern_White_Space"
  shortName := "Pat_WS"
  categories := [.lineSeparator, .paragraphSeparator]
  added := "9-D 20 85 200E-200F"
  removed := ""

/-- Marks that stand in front of a row of digits and enclose them. -/
def prependedConcatenationMark : Property where
  name := "Prepended_Concatenation_Mark"
  shortName := "PCM"
  categories := []
  added := "600-605 6DD 70F 890-891 8E2 110BD 110CD"
  removed := ""

/-- Quotation marks. -/
def quotationMark : Property where
  name := "Quotation_Mark"
  shortName := "QMark"
  categories := []
  added := "22 27 AB BB 2018-201F 2039-203A 2E42 300C-300F 301D-301F FE41-FE44 FF02 FF07 FF62-FF63"
  removed := ""

/-- Radicals of ideographs. -/
def radical : Property where
  name := "Radical"
  shortName := "Radical"
  categories := []
  added := "2E80-2E99 2E9B-2EF3 2F00-2FD5"
  removed := ""

/-- Letters of which flags are made. -/
def regionalIndicator : Property where
  name := "Regional_Indicator"
  shortName := "RI"
  categories := []
  added := "1F1E6-1F1FF"
  removed := ""

/-- Characters that end a sentence. -/
def sentenceTerminal : Property where
  name := "Sentence_Terminal"
  shortName := "STerm"
  categories := []
  added :=
    "21 2E 3F 589 61D-61F 6D4 700-702 7F9 837 839 83D-83E 964-965 104A-104B 1362 1367-1368 " ++
    "166E 1735-1736 1803 1809 1944-1945 1AA8-1AAB 1B5A-1B5B 1B5E-1B5F 1B7D-1B7E 1C3B-1C3C " ++
    "1C7E-1C7F 203C-203D 2047-2049 2E2E 2E3C 2E53-2E54 3002 A4FF A60E-A60F A6F3 A6F7 A876-A877 " ++
    "A8CE-A8CF A92F A9C8-A9C9 AA5D-AA5F AAF0-AAF1 ABEB FE52 FE56-FE57 FF01 FF0E FF1F FF61 " ++
    "10A56-10A57 10F55-10F59 10F86-10F89 11047-11048 110BE-110C1 11141-11143 111C5-111C6 111CD " ++
    "111DE-111DF 11238-11239 1123B-1123C 112A9 1144B-1144C 115C2-115C3 115C9-115D7 11641-11642 " ++
    "1173C-1173E 11944 11946 11A42-11A43 11A9B-11A9C 11C41-11C42 11EF7-11EF8 11F43-11F44 " ++
    "16A6E-16A6F 16AF5 16B37-16B38 16B44 16E98 1BC9F 1DA88"
  removed := ""

/-- Characters whose dot goes when a mark stands above them. -/
def softDotted : Property where
  name := "Soft_Dotted"
  shortName := "SD"
  categories := []
  added :=
    "69-6A 12F 249 268 29D 2B2 3F3 456 458 1D62 1D96 1DA4 1DA8 1E2D 1ECB 2071 2148-2149 2C7C " ++
    "1D422-1D423 1D456-1D457 1D48A-1D48B 1D4BE-1D4BF 1D4F2-1D4F3 1D526-1D527 1D55A-1D55B " ++
    "1D58E-1D58F 1D5C2-1D5C3 1D5F6-1D5F7 1D62A-1D62B 1D65E-1D65F 1D692-1D693 1DF1A 1E04C-1E04D " ++
    "1E068"
  removed := ""

/-- Punctuation that ends a unit of text. -/
def terminalPunctuation : Property where
  name := "Terminal_Punctuation"
  shortName := "Term"
  categories := []
  added :=
    "21 2C 2E 3A-3B 3F 37E 387 589 5C3 60C 61B 61D-61F 6D4 700-70A 70C 7F8-7F9 830-83E 85E " ++
    "964-965 E5A-E5B F08 F0D-F12 104A-104B 1361-1368 166E 16EB-16ED 1735-1736 17D4-17D6 17DA " ++
    "1802-1805 1808-1809 1944-1945 1AA8-1AAB 1B5A-1B5B 1B5D-1B5F 1B7D-1B7E 1C3B-1C3F 1C7E-1C7F " ++
    "203C-203D 2047-2049 2E2E 2E3C 2E41 2E4C 2E4E-2E4F 2E53-2E54 3001-3002 A4FE-A4FF A60D-A60F " ++
    "A6F3-A6F7 A876-A877 A8CE-A8CF A92F A9C7-A9C9 AA5D-AA5F AADF AAF0-AAF1 ABEB FE50-FE52 " ++
    "FE54-FE57 FF01 FF0C FF0E FF1A-FF1B FF1F FF61 FF64 1039F 103D0 10857 1091F 10A56-10A57 " ++
    "10AF0-10AF5 10B3A-10B3F 10B99-10B9C 10F55-10F59 10F86-10F89 11047-1104D 110BE-110C1 " ++
    "11141-11143 111C5-111C6 111CD 111DE-111DF 11238-1123C 112A9 1144B-1144D 1145A-1145B " ++
    "115C2-115C5 115C9-115D7 11641-11642 1173C-1173E 11944 11946 11A42-11A43 11A9B-11A9C " ++
    "11AA1-11AA2 11C41-11C43 11C71 11EF7-11EF8 11F43-11F44 12470-12474 16A6E-16A6F 16AF5 " ++
    "16B37-16B39 16B44 16E97-16E98 1BC9F 1DA87-1DA8A"
  removed := ""

/-- Ideographs of the unified repertoire. -/
def unifiedIdeograph : Property where
  name := "Unified_Ideograph"
  shortName := "UIdeo"
  categories := []
  added :=
    "3400-4DBF 4E00-9FFF FA0E-FA0F FA11 FA13-FA14 FA1F FA21 FA23-FA24 FA27-FA29 20000-2A6DF " ++
    "2A700-2B739 2B740-2B81D 2B820-2CEA1 2CEB0-2EBE0 30000-3134A 31350-323AF"
  removed := ""

/-- Letters and marks of upper case. -/
def uppercase : Property where
  name := "Uppercase"
  shortName := "Upper"
  categories := [.uppercaseLetter]
  added := "2160-216F 24B6-24CF 1F130-1F149 1F150-1F169 1F170-1F189"
  removed := ""

/-- Marks that choose a variant of the character before. -/
def variationSelector : Property where
  name := "Variation_Selector"
  shortName := "VS"
  categories := []
  added := "180B-180D 180F FE00-FE0F E0100-E01EF"
  removed := ""

/-- White space. -/
def whiteSpace : Property where
  name := "White_Space"
  shortName := "WSpace"
  categories := [.spaceSeparator, .lineSeparator, .paragraphSeparator]
  added := "9-D 85"
  removed := ""

/-- Characters of identifiers, closed under normalization. -/
def xidContinue : Property where
  name := "XID_Continue"
  shortName := "XIDC"
  categories :=
    [.uppercaseLetter, .lowercaseLetter, .titlecaseLetter, .modifierLetter, .otherLetter,
      .nonspacingMark, .spacingMark, .decimalNumber, .letterNumber, .connectorPunctuation]
  added := "B7 387 1369-1371 19DA 2118 212E"
  removed := "37A 2E2F FC5E-FC63 FDFA-FDFB FE70-FE7E/2"

/-- Characters that identifiers start with, closed under normalization. -/
def xidStart : Property where
  name := "XID_Start"
  shortName := "XIDS"
  categories :=
    [.uppercaseLetter, .lowercaseLetter, .titlecaseLetter, .modifierLetter, .otherLetter,
      .letterNumber]
  added := "1885-1886 2118 212E"
  removed := "37A E33 EB3 2E2F FC5E-FC63 FDFA-FDFB FE70-FE7E/2 FF9E-FF9F"

/-- All properties of this module. -/
def all : List Property :=
  [asciiHexDigit, alphabetic, bidiControl, bidiMirrored, caseIgnorable, cased,
    changesWhenCasefolded, changesWhenCasemapped, changesWhenLowercased, changesWhenTitlecased,
    changesWhenUppercased, dash, defaultIgnorableCodePoint, deprecated, diacritic, emoji,
    emojiComponent, emojiModifier, emojiModifierBase, emojiPresentation, extendedPictographic,
    extender, graphemeBase, graphemeExtend, hexDigit, idsBinaryOperator, idsTrinaryOperator,
    idContinue, idStart, ideographic, joinControl, logicalOrderException, lowercase, math,
    noncharacterCodePoint, patternSyntax, patternWhiteSpace, prependedConcatenationMark,
    quotationMark, radical, regionalIndicator, sentenceTerminal, softDotted, terminalPunctuation,
    unifiedIdeograph, uppercase, variationSelector, whiteSpace, xidContinue, xidStart]

end Property

end CustomFields.Unicode
