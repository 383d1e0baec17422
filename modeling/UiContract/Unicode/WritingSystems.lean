import UiContract.CharSet

/-!
The characters of the writing systems whose short names come first in the alphabet.
-/
namespace UiContract.Unicode

def earlyWritingSystems : List (List String × CharSet) :=
  [(["adlm", "adlam"],
     ⟨[(0x1E900, 0x1E94B), (0x1E950, 0x1E959), (0x1E95E, 0x1E95F)]⟩),
   (["aghb", "caucasianalbanian"],
     ⟨[(0x10530, 0x10563), (0x1056F, 0x1056F)]⟩),
   (["ahom"],
     ⟨[(0x11700, 0x1171A), (0x1171D, 0x1172B), (0x11730, 0x11746)]⟩),
   (["arab", "arabic"],
     ⟨[(0x600, 0x604), (0x606, 0x60B), (0x60D, 0x61A), (0x61C, 0x61E), (0x620, 0x63F),
       (0x641, 0x64A), (0x656, 0x66F), (0x671, 0x6DC), (0x6DE, 0x6FF), (0x750, 0x77F),
       (0x870, 0x88E), (0x890, 0x891), (0x898, 0x8E1), (0x8E3, 0x8FF), (0xFB50, 0xFBC2),
       (0xFBD3, 0xFD3D), (0xFD40, 0xFD8F), (0xFD92, 0xFDC7), (0xFDCF, 0xFDCF), (0xFDF0, 0xFDFF),
       (0xFE70, 0xFE74), (0xFE76, 0xFEFC), (0x10E60, 0x10E7E), (0x10EFD, 0x10EFF),
       (0x1EE00, 0x1EE03), (0x1EE05, 0x1EE1F), (0x1EE21, 0x1EE22), (0x1EE24, 0x1EE24),
       (0x1EE27, 0x1EE27), (0x1EE29, 0x1EE32), (0x1EE34, 0x1EE37), (0x1EE39, 0x1EE39),
       (0x1EE3B, 0x1EE3B), (0x1EE42, 0x1EE42), (0x1EE47, 0x1EE47), (0x1EE49, 0x1EE49),
       (0x1EE4B, 0x1EE4B), (0x1EE4D, 0x1EE4F), (0x1EE51, 0x1EE52), (0x1EE54, 0x1EE54),
       (0x1EE57, 0x1EE57), (0x1EE59, 0x1EE59), (0x1EE5B, 0x1EE5B), (0x1EE5D, 0x1EE5D),
       (0x1EE5F, 0x1EE5F), (0x1EE61, 0x1EE62), (0x1EE64, 0x1EE64), (0x1EE67, 0x1EE6A),
       (0x1EE6C, 0x1EE72), (0x1EE74, 0x1EE77), (0x1EE79, 0x1EE7C), (0x1EE7E, 0x1EE7E),
       (0x1EE80, 0x1EE89), (0x1EE8B, 0x1EE9B), (0x1EEA1, 0x1EEA3), (0x1EEA5, 0x1EEA9),
       (0x1EEAB, 0x1EEBB), (0x1EEF0, 0x1EEF1)]⟩),
   (["armi", "imperialaramaic"],
     ⟨[(0x10840, 0x10855), (0x10857, 0x1085F)]⟩),
   (["armn", "armenian"],
     ⟨[(0x531, 0x556), (0x559, 0x58A), (0x58D, 0x58F), (0xFB13, 0xFB17)]⟩),
   (["avst", "avestan"],
     ⟨[(0x10B00, 0x10B35), (0x10B39, 0x10B3F)]⟩),
   (["bali", "balinese"],
     ⟨[(0x1B00, 0x1B4C), (0x1B50, 0x1B7E)]⟩),
   (["bamu", "bamum"],
     ⟨[(0xA6A0, 0xA6F7), (0x16800, 0x16A38)]⟩),
   (["bass", "bassavah"],
     ⟨[(0x16AD0, 0x16AED), (0x16AF0, 0x16AF5)]⟩),
   (["batk", "batak"],
     ⟨[(0x1BC0, 0x1BF3), (0x1BFC, 0x1BFF)]⟩),
   (["beng", "bengali"],
     ⟨[(0x980, 0x983), (0x985, 0x98C), (0x98F, 0x990), (0x993, 0x9A8), (0x9AA, 0x9B0),
       (0x9B2, 0x9B2), (0x9B6, 0x9B9), (0x9BC, 0x9C4), (0x9C7, 0x9C8), (0x9CB, 0x9CE),
       (0x9D7, 0x9D7), (0x9DC, 0x9DD), (0x9DF, 0x9E3), (0x9E6, 0x9FE)]⟩),
   (["bhks", "bhaiksuki"],
     ⟨[(0x11C00, 0x11C08), (0x11C0A, 0x11C36), (0x11C38, 0x11C45), (0x11C50, 0x11C6C)]⟩),
   (["bopo", "bopomofo"],
     ⟨[(0x2EA, 0x2EB), (0x3105, 0x312F), (0x31A0, 0x31BF)]⟩),
   (["brah", "brahmi"],
     ⟨[(0x11000, 0x1104D), (0x11052, 0x11075), (0x1107F, 0x1107F)]⟩),
   (["brai", "braille"],
     ⟨[(0x2800, 0x28FF)]⟩),
   (["bugi", "buginese"],
     ⟨[(0x1A00, 0x1A1B), (0x1A1E, 0x1A1F)]⟩),
   (["buhd", "buhid"],
     ⟨[(0x1740, 0x1753)]⟩),
   (["cakm", "chakma"],
     ⟨[(0x11100, 0x11134), (0x11136, 0x11147)]⟩),
   (["cans", "canadianaboriginal"],
     ⟨[(0x1400, 0x167F), (0x18B0, 0x18F5), (0x11AB0, 0x11ABF)]⟩),
   (["cari", "carian"],
     ⟨[(0x102A0, 0x102D0)]⟩),
   (["cham"],
     ⟨[(0xAA00, 0xAA36), (0xAA40, 0xAA4D), (0xAA50, 0xAA59), (0xAA5C, 0xAA5F)]⟩),
   (["cher", "cherokee"],
     ⟨[(0x13A0, 0x13F5), (0x13F8, 0x13FD), (0xAB70, 0xABBF)]⟩),
   (["chrs", "chorasmian"],
     ⟨[(0x10FB0, 0x10FCB)]⟩),
   (["copt", "coptic", "qaac"],
     ⟨[(0x3E2, 0x3EF), (0x2C80, 0x2CF3), (0x2CF9, 0x2CFF)]⟩),
   (["cpmn", "cyprominoan"],
     ⟨[(0x12F90, 0x12FF2)]⟩),
   (["cprt", "cypriot"],
     ⟨[(0x10800, 0x10805), (0x10808, 0x10808), (0x1080A, 0x10835), (0x10837, 0x10838),
       (0x1083C, 0x1083C), (0x1083F, 0x1083F)]⟩),
   (["cyrl", "cyrillic"],
     ⟨[(0x400, 0x484), (0x487, 0x52F), (0x1C80, 0x1C88), (0x1D2B, 0x1D2B), (0x1D78, 0x1D78),
       (0x2DE0, 0x2DFF), (0xA640, 0xA69F), (0xFE2E, 0xFE2F), (0x1E030, 0x1E06D), (0x1E08F, 0x1E08F)]⟩),
   (["deva", "devanagari"],
     ⟨[(0x900, 0x950), (0x955, 0x963), (0x966, 0x97F), (0xA8E0, 0xA8FF), (0x11B00, 0x11B09)]⟩),
   (["diak", "divesakuru"],
     ⟨[(0x11900, 0x11906), (0x11909, 0x11909), (0x1190C, 0x11913), (0x11915, 0x11916),
       (0x11918, 0x11935), (0x11937, 0x11938), (0x1193B, 0x11946), (0x11950, 0x11959)]⟩),
   (["dogr", "dogra"],
     ⟨[(0x11800, 0x1183B)]⟩),
   (["dsrt", "deseret"],
     ⟨[(0x10400, 0x1044F)]⟩),
   (["dupl", "duployan"],
     ⟨[(0x1BC00, 0x1BC6A), (0x1BC70, 0x1BC7C), (0x1BC80, 0x1BC88), (0x1BC90, 0x1BC99),
       (0x1BC9C, 0x1BC9F)]⟩),
   (["egyp", "egyptianhieroglyphs"],
     ⟨[(0x13000, 0x13455)]⟩),
   (["elba", "elbasan"],
     ⟨[(0x10500, 0x10527)]⟩),
   (["elym", "elymaic"],
     ⟨[(0x10FE0, 0x10FF6)]⟩),
   (["ethi", "ethiopic"],
     ⟨[(0x1200, 0x1248), (0x124A, 0x124D), (0x1250, 0x1256), (0x1258, 0x1258), (0x125A, 0x125D),
       (0x1260, 0x1288), (0x128A, 0x128D), (0x1290, 0x12B0), (0x12B2, 0x12B5), (0x12B8, 0x12BE),
       (0x12C0, 0x12C0), (0x12C2, 0x12C5), (0x12C8, 0x12D6), (0x12D8, 0x1310), (0x1312, 0x1315),
       (0x1318, 0x135A), (0x135D, 0x137C), (0x1380, 0x1399), (0x2D80, 0x2D96), (0x2DA0, 0x2DA6),
       (0x2DA8, 0x2DAE), (0x2DB0, 0x2DB6), (0x2DB8, 0x2DBE), (0x2DC0, 0x2DC6), (0x2DC8, 0x2DCE),
       (0x2DD0, 0x2DD6), (0x2DD8, 0x2DDE), (0xAB01, 0xAB06), (0xAB09, 0xAB0E), (0xAB11, 0xAB16),
       (0xAB20, 0xAB26), (0xAB28, 0xAB2E), (0x1E7E0, 0x1E7E6), (0x1E7E8, 0x1E7EB),
       (0x1E7ED, 0x1E7EE), (0x1E7F0, 0x1E7FE)]⟩),
   (["geor", "georgian"],
     ⟨[(0x10A0, 0x10C5), (0x10C7, 0x10C7), (0x10CD, 0x10CD), (0x10D0, 0x10FA), (0x10FC, 0x10FF),
       (0x1C90, 0x1CBA), (0x1CBD, 0x1CBF), (0x2D00, 0x2D25), (0x2D27, 0x2D27), (0x2D2D, 0x2D2D)]⟩),
   (["glag", "glagolitic"],
     ⟨[(0x2C00, 0x2C5F), (0x1E000, 0x1E006), (0x1E008, 0x1E018), (0x1E01B, 0x1E021),
       (0x1E023, 0x1E024), (0x1E026, 0x1E02A)]⟩),
   (["gong", "gunjalagondi"],
     ⟨[(0x11D60, 0x11D65), (0x11D67, 0x11D68), (0x11D6A, 0x11D8E), (0x11D90, 0x11D91),
       (0x11D93, 0x11D98), (0x11DA0, 0x11DA9)]⟩),
   (["gonm", "masaramgondi"],
     ⟨[(0x11D00, 0x11D06), (0x11D08, 0x11D09), (0x11D0B, 0x11D36), (0x11D3A, 0x11D3A),
       (0x11D3C, 0x11D3D), (0x11D3F, 0x11D47), (0x11D50, 0x11D59)]⟩),
   (["goth", "gothic"],
     ⟨[(0x10330, 0x1034A)]⟩),
   (["gran", "grantha"],
     ⟨[(0x11300, 0x11303), (0x11305, 0x1130C), (0x1130F, 0x11310), (0x11313, 0x11328),
       (0x1132A, 0x11330), (0x11332, 0x11333), (0x11335, 0x11339), (0x1133C, 0x11344),
       (0x11347, 0x11348), (0x1134B, 0x1134D), (0x11350, 0x11350), (0x11357, 0x11357),
       (0x1135D, 0x11363), (0x11366, 0x1136C), (0x11370, 0x11374)]⟩),
   (["grek", "greek"],
     ⟨[(0x370, 0x373), (0x375, 0x377), (0x37A, 0x37D), (0x37F, 0x37F), (0x384, 0x384),
       (0x386, 0x386), (0x388, 0x38A), (0x38C, 0x38C), (0x38E, 0x3A1), (0x3A3, 0x3E1),
       (0x3F0, 0x3FF), (0x1D26, 0x1D2A), (0x1D5D, 0x1D61), (0x1D66, 0x1D6A), (0x1DBF, 0x1DBF),
       (0x1F00, 0x1F15), (0x1F18, 0x1F1D), (0x1F20, 0x1F45), (0x1F48, 0x1F4D), (0x1F50, 0x1F57),
       (0x1F59, 0x1F59), (0x1F5B, 0x1F5B), (0x1F5D, 0x1F5D), (0x1F5F, 0x1F7D), (0x1F80, 0x1FB4),
       (0x1FB6, 0x1FC4), (0x1FC6, 0x1FD3), (0x1FD6, 0x1FDB), (0x1FDD, 0x1FEF), (0x1FF2, 0x1FF4),
       (0x1FF6, 0x1FFE), (0x2126, 0x2126), (0xAB65, 0xAB65), (0x10140, 0x1018E),
       (0x101A0, 0x101A0), (0x1D200, 0x1D245)]⟩),
   (["gujr", "gujarati"],
     ⟨[(0xA81, 0xA83), (0xA85, 0xA8D), (0xA8F, 0xA91), (0xA93, 0xAA8), (0xAAA, 0xAB0),
       (0xAB2, 0xAB3), (0xAB5, 0xAB9), (0xABC, 0xAC5), (0xAC7, 0xAC9), (0xACB, 0xACD),
       (0xAD0, 0xAD0), (0xAE0, 0xAE3), (0xAE6, 0xAF1), (0xAF9, 0xAFF)]⟩),
   (["guru", "gurmukhi"],
     ⟨[(0xA01, 0xA03), (0xA05, 0xA0A), (0xA0F, 0xA10), (0xA13, 0xA28), (0xA2A, 0xA30),
       (0xA32, 0xA33), (0xA35, 0xA36), (0xA38, 0xA39), (0xA3C, 0xA3C), (0xA3E, 0xA42),
       (0xA47, 0xA48), (0xA4B, 0xA4D), (0xA51, 0xA51), (0xA59, 0xA5C), (0xA5E, 0xA5E),
       (0xA66, 0xA76)]⟩),
   (["hang", "hangul"],
     ⟨[(0x1100, 0x11FF), (0x302E, 0x302F), (0x3131, 0x318E), (0x3200, 0x321E), (0x3260, 0x327E),
       (0xA960, 0xA97C), (0xAC00, 0xD7A3), (0xD7B0, 0xD7C6), (0xD7CB, 0xD7FB), (0xFFA0, 0xFFBE),
       (0xFFC2, 0xFFC7), (0xFFCA, 0xFFCF), (0xFFD2, 0xFFD7), (0xFFDA, 0xFFDC)]⟩),
   (["hani", "han"],
     ⟨[(0x2E80, 0x2E99), (0x2E9B, 0x2EF3), (0x2F00, 0x2FD5), (0x3005, 0x3005), (0x3007, 0x3007),
       (0x3021, 0x3029), (0x3038, 0x303B), (0x3400, 0x4DBF), (0x4E00, 0x9FFF), (0xF900, 0xFA6D),
       (0xFA70, 0xFAD9), (0x16FE2, 0x16FE3), (0x16FF0, 0x16FF1), (0x20000, 0x2A6DF),
       (0x2A700, 0x2B739), (0x2B740, 0x2B81D), (0x2B820, 0x2CEA1), (0x2CEB0, 0x2EBE0),
       (0x2F800, 0x2FA1D), (0x30000, 0x3134A), (0x31350, 0x323AF)]⟩),
   (["hano", "hanunoo"],
     ⟨[(0x1720, 0x1734)]⟩),
   (["hatr", "hatran"],
     ⟨[(0x108E0, 0x108F2), (0x108F4, 0x108F5), (0x108FB, 0x108FF)]⟩),
   (["hebr", "hebrew"],
     ⟨[(0x591, 0x5C7), (0x5D0, 0x5EA), (0x5EF, 0x5F4), (0xFB1D, 0xFB36), (0xFB38, 0xFB3C),
       (0xFB3E, 0xFB3E), (0xFB40, 0xFB41), (0xFB43, 0xFB44), (0xFB46, 0xFB4F)]⟩),
   (["hira", "hiragana"],
     ⟨[(0x3041, 0x3096), (0x309D, 0x309F), (0x1B001, 0x1B11F), (0x1B132, 0x1B132),
       (0x1B150, 0x1B152), (0x1F200, 0x1F200)]⟩),
   (["hluw", "anatolianhieroglyphs"],
     ⟨[(0x14400, 0x14646)]⟩),
   (["hmng", "pahawhhmong"],
     ⟨[(0x16B00, 0x16B45), (0x16B50, 0x16B59), (0x16B5B, 0x16B61), (0x16B63, 0x16B77),
       (0x16B7D, 0x16B8F)]⟩),
   (["hmnp", "nyiakengpuachuehmong"],
     ⟨[(0x1E100, 0x1E12C), (0x1E130, 0x1E13D), (0x1E140, 0x1E149), (0x1E14E, 0x1E14F)]⟩),
   (["hung", "oldhungarian"],
     ⟨[(0x10C80, 0x10CB2), (0x10CC0, 0x10CF2), (0x10CFA, 0x10CFF)]⟩),
   (["ital", "olditalic"],
     ⟨[(0x10300, 0x10323), (0x1032D, 0x1032F)]⟩),
   (["java", "javanese"],
     ⟨[(0xA980, 0xA9CD), (0xA9D0, 0xA9D9), (0xA9DE, 0xA9DF)]⟩),
   (["kali", "kayahli"],
     ⟨[(0xA900, 0xA92D), (0xA92F, 0xA92F)]⟩),
   (["kana", "katakana"],
     ⟨[(0x30A1, 0x30FA), (0x30FD, 0x30FF), (0x31F0, 0x31FF), (0x32D0, 0x32FE), (0x3300, 0x3357),
       (0xFF66, 0xFF6F), (0xFF71, 0xFF9D), (0x1AFF0, 0x1AFF3), (0x1AFF5, 0x1AFFB),
       (0x1AFFD, 0x1AFFE), (0x1B000, 0x1B000), (0x1B120, 0x1B122), (0x1B155, 0x1B155),
       (0x1B164, 0x1B167)]⟩),
   (["kawi"],
     ⟨[(0x11F00, 0x11F10), (0x11F12, 0x11F3A), (0x11F3E, 0x11F59)]⟩),
   (["khar", "kharoshthi"],
     ⟨[(0x10A00, 0x10A03), (0x10A05, 0x10A06), (0x10A0C, 0x10A13), (0x10A15, 0x10A17),
       (0x10A19, 0x10A35), (0x10A38, 0x10A3A), (0x10A3F, 0x10A48), (0x10A50, 0x10A58)]⟩),
   (["khmr", "khmer"],
     ⟨[(0x1780, 0x17DD), (0x17E0, 0x17E9), (0x17F0, 0x17F9), (0x19E0, 0x19FF)]⟩),
   (["khoj", "khojki"],
     ⟨[(0x11200, 0x11211), (0x11213, 0x11241)]⟩),
   (["kits", "khitansmallscript"],
     ⟨[(0x16FE4, 0x16FE4), (0x18B00, 0x18CD5)]⟩),
   (["knda", "kannada"],
     ⟨[(0xC80, 0xC8C), (0xC8E, 0xC90), (0xC92, 0xCA8), (0xCAA, 0xCB3), (0xCB5, 0xCB9),
       (0xCBC, 0xCC4), (0xCC6, 0xCC8), (0xCCA, 0xCCD), (0xCD5, 0xCD6), (0xCDD, 0xCDE),
       (0xCE0, 0xCE3), (0xCE6, 0xCEF), (0xCF1, 0xCF3)]⟩),
   (["kthi", "kaithi"],
     ⟨[(0x11080, 0x110C2), (0x110CD, 0x110CD)]⟩),
   (["lana", "taitham"],
     ⟨[(0x1A20, 0x1A5E), (0x1A60, 0x1A7C), (0x1A7F, 0x1A89), (0x1A90, 0x1A99), (0x1AA0, 0x1AAD)]⟩),
   (["laoo", "lao"],
     ⟨[(0xE81, 0xE82), (0xE84, 0xE84), (0xE86, 0xE8A), (0xE8C, 0xEA3), (0xEA5, 0xEA5),
       (0xEA7, 0xEBD), (0xEC0, 0xEC4), (0xEC6, 0xEC6), (0xEC8, 0xECE), (0xED0, 0xED9),
       (0xEDC, 0xEDF)]⟩),
   (["latn", "latin"],
     ⟨[(0x41, 0x5A), (0x61, 0x7A), (0xAA, 0xAA), (0xBA, 0xBA), (0xC0, 0xD6), (0xD8, 0xF6),
       (0xF8, 0x2B8), (0x2E0, 0x2E4), (0x1D00, 0x1D25), (0x1D2C, 0x1D5C), (0x1D62, 0x1D65),
       (0x1D6B, 0x1D77), (0x1D79, 0x1DBE), (0x1E00, 0x1EFF), (0x2071, 0x2071), (0x207F, 0x207F),
       (0x2090, 0x209C), (0x212A, 0x212B), (0x2132, 0x2132), (0x214E, 0x214E), (0x2160, 0x2188),
       (0x2C60, 0x2C7F), (0xA722, 0xA787), (0xA78B, 0xA7CA), (0xA7D0, 0xA7D1), (0xA7D3, 0xA7D3),
       (0xA7D5, 0xA7D9), (0xA7F2, 0xA7FF), (0xAB30, 0xAB5A), (0xAB5C, 0xAB64), (0xAB66, 0xAB69),
       (0xFB00, 0xFB06), (0xFF21, 0xFF3A), (0xFF41, 0xFF5A), (0x10780, 0x10785),
       (0x10787, 0x107B0), (0x107B2, 0x107BA), (0x1DF00, 0x1DF1E), (0x1DF25, 0x1DF2A)]⟩),
   (["lepc", "lepcha"],
     ⟨[(0x1C00, 0x1C37), (0x1C3B, 0x1C49), (0x1C4D, 0x1C4F)]⟩),
   (["limb", "limbu"],
     ⟨[(0x1900, 0x191E), (0x1920, 0x192B), (0x1930, 0x193B), (0x1940, 0x1940), (0x1944, 0x194F)]⟩),
   (["lina", "lineara"],
     ⟨[(0x10600, 0x10736), (0x10740, 0x10755), (0x10760, 0x10767)]⟩),
   (["linb", "linearb"],
     ⟨[(0x10000, 0x1000B), (0x1000D, 0x10026), (0x10028, 0x1003A), (0x1003C, 0x1003D),
       (0x1003F, 0x1004D), (0x10050, 0x1005D), (0x10080, 0x100FA)]⟩),
   (["lisu"],
     ⟨[(0xA4D0, 0xA4FF), (0x11FB0, 0x11FB0)]⟩),
   (["lyci", "lycian"],
     ⟨[(0x10280, 0x1029C)]⟩),
   (["lydi", "lydian"],
     ⟨[(0x10920, 0x10939), (0x1093F, 0x1093F)]⟩),
   (["mahj", "mahajani"],
     ⟨[(0x11150, 0x11176)]⟩),
   (["maka", "makasar"],
     ⟨[(0x11EE0, 0x11EF8)]⟩),
   (["mand", "mandaic"],
     ⟨[(0x840, 0x85B), (0x85E, 0x85E)]⟩)]

end UiContract.Unicode
