import Graft.CharProperty.Runs

/-!
The script of every character, in version 16 of Unicode.

Scripts are numbered in the order of their names. They are given by runs, with 256 as the
radix and the number of the script as the mark; the mark 255 stands for code points without
one.
-/

set_option autoImplicit false

namespace Graft.CharProperty

/-- A script, by its number. -/
structure Script where
  number : Nat
  deriving Repr, DecidableEq

namespace Script

/-- The names and the codes of the scripts, in small letters and without separators. -/
def names : List (List String) := [
    ["adlam", "adlm"], ["ahom"], ["anatolianhieroglyphs", "hluw"], ["arabic", "arab"],
    ["armenian", "armn"], ["avestan", "avst"], ["balinese", "bali"], ["bamum", "bamu"],
    ["bassavah", "bass"], ["batak", "batk"], ["bengali", "beng"], ["bhaiksuki", "bhks"],
    ["bopomofo", "bopo"], ["brahmi", "brah"], ["braille", "brai"], ["buginese", "bugi"],
    ["buhid", "buhd"], ["canadianaboriginal", "cans"], ["carian", "cari"],
    ["caucasianalbanian", "aghb"], ["chakma", "cakm"], ["cham"], ["cherokee", "cher"],
    ["chorasmian", "chrs"], ["common", "zyyy"], ["coptic", "copt", "qaac"], ["cuneiform", "xsux"],
    ["cypriot", "cprt"], ["cyprominoan", "cpmn"], ["cyrillic", "cyrl"], ["deseret", "dsrt"],
    ["devanagari", "deva"], ["divesakuru", "diak"], ["dogra", "dogr"], ["duployan", "dupl"],
    ["egyptianhieroglyphs", "egyp"], ["elbasan", "elba"], ["elymaic", "elym"],
    ["ethiopic", "ethi"], ["garay", "gara"], ["georgian", "geor"], ["glagolitic", "glag"],
    ["gothic", "goth"], ["grantha", "gran"], ["greek", "grek"], ["gujarati", "gujr"],
    ["gunjalagondi", "gong"], ["gurmukhi", "guru"], ["gurungkhema", "gukh"], ["han", "hani"],
    ["hangul", "hang"], ["hanifirohingya", "rohg"], ["hanunoo", "hano"], ["hatran", "hatr"],
    ["hebrew", "hebr"], ["hiragana", "hira"], ["imperialaramaic", "armi"],
    ["inherited", "qaai", "zinh"], ["inscriptionalpahlavi", "phli"],
    ["inscriptionalparthian", "prti"], ["javanese", "java"], ["kaithi", "kthi"],
    ["kannada", "knda"], ["katakana", "kana"], ["kawi"], ["kayahli", "kali"],
    ["kharoshthi", "khar"], ["khitansmallscript", "kits"], ["khmer", "khmr"], ["khojki", "khoj"],
    ["khudawadi", "sind"], ["kiratrai", "krai"], ["lao", "laoo"], ["latin", "latn"],
    ["lepcha", "lepc"], ["limbu", "limb"], ["lineara", "lina"], ["linearb", "linb"], ["lisu"],
    ["lycian", "lyci"], ["lydian", "lydi"], ["mahajani", "mahj"], ["makasar", "maka"],
    ["malayalam", "mlym"], ["mandaic", "mand"], ["manichaean", "mani"], ["marchen", "marc"],
    ["masaramgondi", "gonm"], ["medefaidrin", "medf"], ["meeteimayek", "mtei"],
    ["mendekikakui", "mend"], ["meroiticcursive", "merc"], ["meroitichieroglyphs", "mero"],
    ["miao", "plrd"], ["modi"], ["mongolian", "mong"], ["mro", "mroo"], ["multani", "mult"],
    ["myanmar", "mymr"], ["nabataean", "nbat"], ["nagmundari", "nagm"], ["nandinagari", "nand"],
    ["newa"], ["newtailue", "talu"], ["nko", "nkoo"], ["nushu", "nshu"],
    ["nyiakengpuachuehmong", "hmnp"], ["ogham", "ogam"], ["olchiki", "olck"],
    ["oldhungarian", "hung"], ["olditalic", "ital"], ["oldnortharabian", "narb"],
    ["oldpermic", "perm"], ["oldpersian", "xpeo"], ["oldsogdian", "sogo"],
    ["oldsoutharabian", "sarb"], ["oldturkic", "orkh"], ["olduyghur", "ougr"], ["olonal", "onao"],
    ["oriya", "orya"], ["osage", "osge"], ["osmanya", "osma"], ["pahawhhmong", "hmng"],
    ["palmyrene", "palm"], ["paucinhau", "pauc"], ["phagspa", "phag"], ["phoenician", "phnx"],
    ["psalterpahlavi", "phlp"], ["rejang", "rjng"], ["runic", "runr"], ["samaritan", "samr"],
    ["saurashtra", "saur"], ["sharada", "shrd"], ["shavian", "shaw"], ["siddham", "sidd"],
    ["signwriting", "sgnw"], ["sinhala", "sinh"], ["sogdian", "sogd"], ["sorasompeng", "sora"],
    ["soyombo", "soyo"], ["sundanese", "sund"], ["sunuwar", "sunu"], ["sylotinagri", "sylo"],
    ["syriac", "syrc"], ["tagalog", "tglg"], ["tagbanwa", "tagb"], ["taile", "tale"],
    ["taitham", "lana"], ["taiviet", "tavt"], ["takri", "takr"], ["tamil", "taml"],
    ["tangsa", "tnsa"], ["tangut", "tang"], ["telugu", "telu"], ["thaana", "thaa"], ["thai"],
    ["tibetan", "tibt"], ["tifinagh", "tfng"], ["tirhuta", "tirh"], ["todhri", "todr"], ["toto"],
    ["tulutigalari", "tutg"], ["ugaritic", "ugar"], ["vai", "vaii"], ["vithkuqi", "vith"],
    ["wancho", "wcho"], ["warangciti", "wara"], ["yezidi", "yezi"], ["yi", "yiii"],
    ["zanabazarsquare", "zanb"]]

/-- The script of a name or a code. -/
def named? (name : String) : Option Script :=
  (names.findIdx? fun aliases => aliases.contains name).map Script.mk

/-- The first part of the runs. -/
def runs1 : Array Nat := #[
    0x18, 0x4149, 0x5b18, 0x6149, 0x7b18, 0xaa49, 0xab18, 0xba49, 0xbb18, 0xc049, 0xd718, 0xd849,
    0xf718, 0xf849, 0x2b918, 0x2e049, 0x2e518, 0x2ea0c, 0x2ec18, 0x30039, 0x3702c, 0x37418,
    0x3752c, 0x378ff, 0x37a2c, 0x37e18, 0x37f2c, 0x380ff, 0x3842c, 0x38518, 0x3862c, 0x38718,
    0x3882c, 0x38bff, 0x38c2c, 0x38dff, 0x38e2c, 0x3a2ff, 0x3a32c, 0x3e219, 0x3f02c, 0x4001d,
    0x48539, 0x4871d, 0x530ff, 0x53104, 0x557ff, 0x55904, 0x58bff, 0x58d04, 0x590ff, 0x59136,
    0x5c8ff, 0x5d036, 0x5ebff, 0x5ef36, 0x5f5ff, 0x60003, 0x60518, 0x60603, 0x60c18, 0x60d03,
    0x61b18, 0x61c03, 0x61f18, 0x62003, 0x64018, 0x64103, 0x64b39, 0x65603, 0x67039, 0x67103,
    0x6dd18, 0x6de03, 0x7008f, 0x70eff, 0x70f8f, 0x74bff, 0x74d8f, 0x75003, 0x7809a, 0x7b2ff,
    0x7c068, 0x7fbff, 0x7fd68, 0x80082, 0x82eff, 0x83082, 0x83fff, 0x84054, 0x85cff, 0x85e54,
    0x85fff, 0x8608f, 0x86bff, 0x87003, 0x88fff, 0x89003, 0x892ff, 0x89703, 0x8e218, 0x8e303,
    0x9001f, 0x95139, 0x9551f, 0x96418, 0x9661f, 0x9800a, 0x984ff, 0x9850a, 0x98dff, 0x98f0a,
    0x991ff, 0x9930a, 0x9a9ff, 0x9aa0a, 0x9b1ff, 0x9b20a, 0x9b3ff, 0x9b60a, 0x9baff, 0x9bc0a,
    0x9c5ff, 0x9c70a, 0x9c9ff, 0x9cb0a, 0x9cfff, 0x9d70a, 0x9d8ff, 0x9dc0a, 0x9deff, 0x9df0a,
    0x9e4ff, 0x9e60a, 0x9ffff, 0xa012f, 0xa04ff, 0xa052f, 0xa0bff, 0xa0f2f, 0xa11ff, 0xa132f,
    0xa29ff, 0xa2a2f, 0xa31ff, 0xa322f, 0xa34ff, 0xa352f, 0xa37ff, 0xa382f, 0xa3aff, 0xa3c2f,
    0xa3dff, 0xa3e2f, 0xa43ff, 0xa472f, 0xa49ff, 0xa4b2f, 0xa4eff, 0xa512f, 0xa52ff, 0xa592f,
    0xa5dff, 0xa5e2f, 0xa5fff, 0xa662f, 0xa77ff, 0xa812d, 0xa84ff, 0xa852d, 0xa8eff, 0xa8f2d,
    0xa92ff, 0xa932d, 0xaa9ff, 0xaaa2d, 0xab1ff, 0xab22d, 0xab4ff, 0xab52d, 0xabaff, 0xabc2d,
    0xac6ff, 0xac72d, 0xacaff, 0xacb2d, 0xaceff, 0xad02d, 0xad1ff, 0xae02d, 0xae4ff, 0xae62d,
    0xaf2ff, 0xaf92d, 0xb00ff, 0xb0177, 0xb04ff, 0xb0577, 0xb0dff, 0xb0f77, 0xb11ff, 0xb1377,
    0xb29ff, 0xb2a77, 0xb31ff, 0xb3277, 0xb34ff, 0xb3577, 0xb3aff, 0xb3c77, 0xb45ff, 0xb4777,
    0xb49ff, 0xb4b77, 0xb4eff, 0xb5577, 0xb58ff, 0xb5c77, 0xb5eff, 0xb5f77, 0xb64ff, 0xb6677,
    0xb78ff, 0xb8296, 0xb84ff, 0xb8596, 0xb8bff, 0xb8e96, 0xb91ff, 0xb9296, 0xb96ff, 0xb9996,
    0xb9bff, 0xb9c96, 0xb9dff, 0xb9e96, 0xba0ff, 0xba396, 0xba5ff, 0xba896, 0xbabff, 0xbae96,
    0xbbaff, 0xbbe96, 0xbc3ff, 0xbc696, 0xbc9ff, 0xbca96, 0xbceff, 0xbd096, 0xbd1ff, 0xbd796,
    0xbd8ff, 0xbe696, 0xbfbff, 0xc0099, 0xc0dff, 0xc0e99, 0xc11ff, 0xc1299, 0xc29ff, 0xc2a99,
    0xc3aff, 0xc3c99, 0xc45ff, 0xc4699, 0xc49ff, 0xc4a99, 0xc4eff, 0xc5599, 0xc57ff, 0xc5899,
    0xc5bff, 0xc5d99, 0xc5eff, 0xc6099, 0xc64ff, 0xc6699, 0xc70ff, 0xc7799, 0xc803e, 0xc8dff,
    0xc8e3e, 0xc91ff, 0xc923e, 0xca9ff, 0xcaa3e, 0xcb4ff, 0xcb53e, 0xcbaff, 0xcbc3e, 0xcc5ff,
    0xcc63e, 0xcc9ff, 0xcca3e, 0xcceff, 0xcd53e, 0xcd7ff, 0xcdd3e, 0xcdfff, 0xce03e, 0xce4ff,
    0xce63e, 0xcf0ff, 0xcf13e, 0xcf4ff, 0xd0053, 0xd0dff, 0xd0e53, 0xd11ff, 0xd1253, 0xd45ff,
    0xd4653, 0xd49ff, 0xd4a53, 0xd50ff, 0xd5453, 0xd64ff, 0xd6653, 0xd80ff, 0xd8188, 0xd84ff,
    0xd8588, 0xd97ff, 0xd9a88, 0xdb2ff, 0xdb388, 0xdbcff, 0xdbd88, 0xdbeff, 0xdc088, 0xdc7ff,
    0xdca88, 0xdcbff, 0xdcf88, 0xdd5ff, 0xdd688, 0xdd7ff, 0xdd888, 0xde0ff, 0xde688, 0xdf0ff,
    0xdf288, 0xdf5ff, 0xe019b, 0xe3bff, 0xe3f18, 0xe409b, 0xe5cff, 0xe8148, 0xe83ff, 0xe8448,
    0xe85ff, 0xe8648, 0xe8bff, 0xe8c48, 0xea4ff, 0xea548, 0xea6ff, 0xea748, 0xebeff, 0xec048,
    0xec5ff, 0xec648, 0xec7ff, 0xec848, 0xecfff, 0xed048, 0xedaff, 0xedc48, 0xee0ff, 0xf009c,
    0xf48ff, 0xf499c, 0xf6dff, 0xf719c, 0xf98ff, 0xf999c, 0xfbdff, 0xfbe9c, 0xfcdff, 0xfce9c,
    0xfd518, 0xfd99c, 0xfdbff, 0x100062, 0x10a028, 0x10c6ff, 0x10c728, 0x10c8ff, 0x10cd28,
    0x10ceff, 0x10d028, 0x10fb18, 0x10fc28, 0x110032, 0x120026, 0x1249ff, 0x124a26, 0x124eff,
    0x125026, 0x1257ff, 0x125826, 0x1259ff, 0x125a26, 0x125eff, 0x126026, 0x1289ff, 0x128a26,
    0x128eff, 0x129026, 0x12b1ff, 0x12b226, 0x12b6ff, 0x12b826, 0x12bfff, 0x12c026, 0x12c1ff,
    0x12c226, 0x12c6ff, 0x12c826, 0x12d7ff, 0x12d826, 0x1311ff, 0x131226, 0x1316ff, 0x131826,
    0x135bff, 0x135d26, 0x137dff, 0x138026, 0x139aff, 0x13a016, 0x13f6ff, 0x13f816, 0x13feff,
    0x140011, 0x16806b, 0x169dff, 0x16a081, 0x16eb18, 0x16ee81, 0x16f9ff, 0x170090, 0x1716ff,
    0x171f90, 0x172034, 0x173518, 0x1737ff, 0x174010, 0x1754ff, 0x176091, 0x176dff, 0x176e91,
    0x1771ff, 0x177291, 0x1774ff, 0x178044, 0x17deff, 0x17e044, 0x17eaff, 0x17f044, 0x17faff,
    0x18005f, 0x180218, 0x18045f, 0x180518, 0x18065f, 0x181aff, 0x18205f, 0x1879ff, 0x18805f,
    0x18abff, 0x18b011, 0x18f6ff, 0x19004b, 0x191fff, 0x19204b, 0x192cff, 0x19304b, 0x193cff,
    0x19404b, 0x1941ff, 0x19444b, 0x195092, 0x196eff, 0x197092, 0x1975ff, 0x198067, 0x19acff,
    0x19b067, 0x19caff, 0x19d067, 0x19dbff, 0x19de67, 0x19e044, 0x1a000f, 0x1a1cff, 0x1a1e0f,
    0x1a2093, 0x1a5fff, 0x1a6093, 0x1a7dff, 0x1a7f93, 0x1a8aff, 0x1a9093, 0x1a9aff, 0x1aa093,
    0x1aaeff, 0x1ab039, 0x1acfff, 0x1b0006, 0x1b4dff, 0x1b4e06, 0x1b808c, 0x1bc009, 0x1bf4ff,
    0x1bfc09, 0x1c004a, 0x1c38ff, 0x1c3b4a, 0x1c4aff, 0x1c4d4a, 0x1c506c, 0x1c801d, 0x1c8bff,
    0x1c9028, 0x1cbbff, 0x1cbd28, 0x1cc08c, 0x1cc8ff, 0x1cd039, 0x1cd318, 0x1cd439, 0x1ce118,
    0x1ce239, 0x1ce918, 0x1ced39, 0x1cee18, 0x1cf439, 0x1cf518, 0x1cf839, 0x1cfa18, 0x1cfbff,
    0x1d0049, 0x1d262c, 0x1d2b1d, 0x1d2c49, 0x1d5d2c, 0x1d6249, 0x1d662c, 0x1d6b49, 0x1d781d,
    0x1d7949, 0x1dbf2c, 0x1dc039, 0x1e0049, 0x1f002c, 0x1f16ff, 0x1f182c, 0x1f1eff, 0x1f202c,
    0x1f46ff, 0x1f482c, 0x1f4eff, 0x1f502c, 0x1f58ff, 0x1f592c, 0x1f5aff, 0x1f5b2c, 0x1f5cff,
    0x1f5d2c, 0x1f5eff, 0x1f5f2c, 0x1f7eff, 0x1f802c, 0x1fb5ff, 0x1fb62c, 0x1fc5ff, 0x1fc62c,
    0x1fd4ff, 0x1fd62c, 0x1fdcff, 0x1fdd2c, 0x1ff0ff, 0x1ff22c, 0x1ff5ff, 0x1ff62c, 0x1fffff,
    0x200018, 0x200c39, 0x200e18, 0x2065ff, 0x206618, 0x207149, 0x2072ff, 0x207418, 0x207f49,
    0x208018, 0x208fff, 0x209049, 0x209dff, 0x20a018, 0x20c1ff, 0x20d039, 0x20f1ff, 0x210018,
    0x21262c, 0x212718, 0x212a49, 0x212c18, 0x213249, 0x213318, 0x214e49, 0x214f18, 0x216049,
    0x218918, 0x218cff, 0x219018, 0x242aff, 0x244018, 0x244bff, 0x246018, 0x28000e, 0x290018,
    0x2b74ff, 0x2b7618, 0x2b96ff, 0x2b9718, 0x2c0029, 0x2c6049, 0x2c8019, 0x2cf4ff, 0x2cf919,
    0x2d0028, 0x2d26ff, 0x2d2728, 0x2d28ff, 0x2d2d28, 0x2d2eff, 0x2d309d, 0x2d68ff, 0x2d6f9d,
    0x2d71ff, 0x2d7f9d, 0x2d8026, 0x2d97ff, 0x2da026, 0x2da7ff, 0x2da826, 0x2dafff, 0x2db026,
    0x2db7ff, 0x2db826, 0x2dbfff, 0x2dc026, 0x2dc7ff, 0x2dc826, 0x2dcfff, 0x2dd026, 0x2dd7ff,
    0x2dd826, 0x2ddfff, 0x2de01d, 0x2e0018, 0x2e5eff, 0x2e8031, 0x2e9aff, 0x2e9b31, 0x2ef4ff,
    0x2f0031, 0x2fd6ff, 0x2ff018, 0x300531, 0x300618, 0x300731, 0x300818, 0x302131, 0x302a39,
    0x302e32, 0x303018, 0x303831, 0x303c18, 0x3040ff, 0x304137, 0x3097ff, 0x309939, 0x309b18,
    0x309d37, 0x30a018, 0x30a13f, 0x30fb18, 0x30fd3f, 0x3100ff, 0x31050c, 0x3130ff, 0x313132,
    0x318fff, 0x319018, 0x31a00c, 0x31c018, 0x31e6ff, 0x31ef18, 0x31f03f, 0x320032, 0x321fff,
    0x322018, 0x326032, 0x327f18, 0x32d03f, 0x32ff18, 0x33003f, 0x335818, 0x340031, 0x4dc018,
    0x4e0031, 0xa000a8, 0xa48dff, 0xa490a8, 0xa4c7ff, 0xa4d04e, 0xa500a3, 0xa62cff, 0xa6401d,
    0xa6a007, 0xa6f8ff, 0xa70018, 0xa72249, 0xa78818, 0xa78b49, 0xa7ceff, 0xa7d049, 0xa7d2ff,
    0xa7d349, 0xa7d4ff, 0xa7d549, 0xa7ddff, 0xa7f249, 0xa8008e, 0xa82dff, 0xa83018, 0xa83aff,
    0xa8407d, 0xa878ff, 0xa88083, 0xa8c6ff, 0xa8ce83, 0xa8daff, 0xa8e01f, 0xa90041, 0xa92e18,
    0xa92f41, 0xa93080, 0xa954ff, 0xa95f80, 0xa96032, 0xa97dff, 0xa9803c, 0xa9ceff, 0xa9cf18,
    0xa9d03c, 0xa9daff, 0xa9de3c, 0xa9e062, 0xa9ffff, 0xaa0015, 0xaa37ff, 0xaa4015, 0xaa4eff,
    0xaa5015, 0xaa5aff, 0xaa5c15, 0xaa6062, 0xaa8094, 0xaac3ff, 0xaadb94, 0xaae059, 0xaaf7ff,
    0xab0126, 0xab07ff, 0xab0926, 0xab0fff, 0xab1126, 0xab17ff, 0xab2026, 0xab27ff, 0xab2826,
    0xab2fff, 0xab3049, 0xab5b18, 0xab5c49, 0xab652c, 0xab6649, 0xab6a18, 0xab6cff, 0xab7016,
    0xabc059, 0xabeeff, 0xabf059, 0xabfaff, 0xac0032, 0xd7a4ff, 0xd7b032, 0xd7c7ff, 0xd7cb32,
    0xd7fcff, 0xf90031, 0xfa6eff, 0xfa7031, 0xfadaff, 0xfb0049, 0xfb07ff, 0xfb1304, 0xfb18ff,
    0xfb1d36, 0xfb37ff, 0xfb3836, 0xfb3dff, 0xfb3e36, 0xfb3fff, 0xfb4036, 0xfb42ff, 0xfb4336,
    0xfb45ff, 0xfb4636, 0xfb5003, 0xfbc3ff, 0xfbd303, 0xfd3e18, 0xfd4003, 0xfd90ff, 0xfd9203,
    0xfdc8ff, 0xfdcf03, 0xfdd0ff, 0xfdf003, 0xfe0039, 0xfe1018, 0xfe1aff, 0xfe2039, 0xfe2e1d,
    0xfe3018, 0xfe53ff, 0xfe5418, 0xfe67ff, 0xfe6818, 0xfe6cff, 0xfe7003, 0xfe75ff, 0xfe7603,
    0xfefdff, 0xfeff18, 0xff00ff, 0xff0118]

/-- The second part of the runs. -/
def runs2 : Array Nat := #[
    0xff2149, 0xff3b18, 0xff4149, 0xff5b18, 0xff663f, 0xff7018, 0xff713f, 0xff9e18, 0xffa032,
    0xffbfff, 0xffc232, 0xffc8ff, 0xffca32, 0xffd0ff, 0xffd232, 0xffd8ff, 0xffda32, 0xffddff,
    0xffe018, 0xffe7ff, 0xffe818, 0xffefff, 0xfff918, 0xfffeff, 0x100004d, 0x1000cff, 0x1000d4d,
    0x10027ff, 0x100284d, 0x1003bff, 0x1003c4d, 0x1003eff, 0x1003f4d, 0x1004eff, 0x100504d,
    0x1005eff, 0x100804d, 0x100fbff, 0x1010018, 0x10103ff, 0x1010718, 0x10134ff, 0x1013718,
    0x101402c, 0x1018fff, 0x1019018, 0x1019dff, 0x101a02c, 0x101a1ff, 0x101d018, 0x101fd39,
    0x101feff, 0x102804f, 0x1029dff, 0x102a012, 0x102d1ff, 0x102e039, 0x102e118, 0x102fcff,
    0x103006e, 0x10324ff, 0x1032d6e, 0x103302a, 0x1034bff, 0x1035070, 0x1037bff, 0x10380a2,
    0x1039eff, 0x1039fa2, 0x103a071, 0x103c4ff, 0x103c871, 0x103d6ff, 0x104001e, 0x1045085,
    0x1048079, 0x1049eff, 0x104a079, 0x104aaff, 0x104b078, 0x104d4ff, 0x104d878, 0x104fcff,
    0x1050024, 0x10528ff, 0x1053013, 0x10564ff, 0x1056f13, 0x10570a4, 0x1057bff, 0x1057ca4,
    0x1058bff, 0x1058ca4, 0x10593ff, 0x10594a4, 0x10596ff, 0x10597a4, 0x105a2ff, 0x105a3a4,
    0x105b2ff, 0x105b3a4, 0x105baff, 0x105bba4, 0x105bdff, 0x105c09f, 0x105f4ff, 0x106004c,
    0x10737ff, 0x107404c, 0x10756ff, 0x107604c, 0x10768ff, 0x1078049, 0x10786ff, 0x1078749,
    0x107b1ff, 0x107b249, 0x107bbff, 0x108001b, 0x10806ff, 0x108081b, 0x10809ff, 0x1080a1b,
    0x10836ff, 0x108371b, 0x10839ff, 0x1083c1b, 0x1083dff, 0x1083f1b, 0x1084038, 0x10856ff,
    0x1085738, 0x108607b, 0x1088063, 0x1089fff, 0x108a763, 0x108b0ff, 0x108e035, 0x108f3ff,
    0x108f435, 0x108f6ff, 0x108fb35, 0x109007e, 0x1091cff, 0x1091f7e, 0x1092050, 0x1093aff,
    0x1093f50, 0x10940ff, 0x109805c, 0x109a05b, 0x109b8ff, 0x109bc5b, 0x109d0ff, 0x109d25b,
    0x10a0042, 0x10a04ff, 0x10a0542, 0x10a07ff, 0x10a0c42, 0x10a14ff, 0x10a1542, 0x10a18ff,
    0x10a1942, 0x10a36ff, 0x10a3842, 0x10a3bff, 0x10a3f42, 0x10a49ff, 0x10a5042, 0x10a59ff,
    0x10a6073, 0x10a806f, 0x10aa0ff, 0x10ac055, 0x10ae7ff, 0x10aeb55, 0x10af7ff, 0x10b0005,
    0x10b36ff, 0x10b3905, 0x10b403b, 0x10b56ff, 0x10b583b, 0x10b603a, 0x10b73ff, 0x10b783a,
    0x10b807f, 0x10b92ff, 0x10b997f, 0x10b9dff, 0x10ba97f, 0x10bb0ff, 0x10c0074, 0x10c49ff,
    0x10c806d, 0x10cb3ff, 0x10cc06d, 0x10cf3ff, 0x10cfa6d, 0x10d0033, 0x10d28ff, 0x10d3033,
    0x10d3aff, 0x10d4027, 0x10d66ff, 0x10d6927, 0x10d86ff, 0x10d8e27, 0x10d90ff, 0x10e6003,
    0x10e7fff, 0x10e80a7, 0x10eaaff, 0x10eaba7, 0x10eaeff, 0x10eb0a7, 0x10eb2ff, 0x10ec203,
    0x10ec5ff, 0x10efc03, 0x10f0072, 0x10f28ff, 0x10f3089, 0x10f5aff, 0x10f7075, 0x10f8aff,
    0x10fb017, 0x10fccff, 0x10fe025, 0x10ff7ff, 0x110000d, 0x1104eff, 0x110520d, 0x11076ff,
    0x1107f0d, 0x110803d, 0x110c3ff, 0x110cd3d, 0x110ceff, 0x110d08a, 0x110e9ff, 0x110f08a,
    0x110faff, 0x1110014, 0x11135ff, 0x1113614, 0x11148ff, 0x1115051, 0x11177ff, 0x1118084,
    0x111e0ff, 0x111e188, 0x111f5ff, 0x1120045, 0x11212ff, 0x1121345, 0x11242ff, 0x1128061,
    0x11287ff, 0x1128861, 0x11289ff, 0x1128a61, 0x1128eff, 0x1128f61, 0x1129eff, 0x1129f61,
    0x112aaff, 0x112b046, 0x112ebff, 0x112f046, 0x112faff, 0x113002b, 0x11304ff, 0x113052b,
    0x1130dff, 0x1130f2b, 0x11311ff, 0x113132b, 0x11329ff, 0x1132a2b, 0x11331ff, 0x113322b,
    0x11334ff, 0x113352b, 0x1133aff, 0x1133b39, 0x1133c2b, 0x11345ff, 0x113472b, 0x11349ff,
    0x1134b2b, 0x1134eff, 0x113502b, 0x11351ff, 0x113572b, 0x11358ff, 0x1135d2b, 0x11364ff,
    0x113662b, 0x1136dff, 0x113702b, 0x11375ff, 0x11380a1, 0x1138aff, 0x1138ba1, 0x1138cff,
    0x1138ea1, 0x1138fff, 0x11390a1, 0x113b6ff, 0x113b7a1, 0x113c1ff, 0x113c2a1, 0x113c3ff,
    0x113c5a1, 0x113c6ff, 0x113c7a1, 0x113cbff, 0x113cca1, 0x113d6ff, 0x113d7a1, 0x113d9ff,
    0x113e1a1, 0x113e3ff, 0x1140066, 0x1145cff, 0x1145d66, 0x11462ff, 0x114809e, 0x114c8ff,
    0x114d09e, 0x114daff, 0x1158086, 0x115b6ff, 0x115b886, 0x115deff, 0x116005e, 0x11645ff,
    0x116505e, 0x1165aff, 0x116605f, 0x1166dff, 0x1168095, 0x116baff, 0x116c095, 0x116caff,
    0x116d062, 0x116e4ff, 0x1170001, 0x1171bff, 0x1171d01, 0x1172cff, 0x1173001, 0x11747ff,
    0x1180021, 0x1183cff, 0x118a0a6, 0x118f3ff, 0x118ffa6, 0x1190020, 0x11907ff, 0x1190920,
    0x1190aff, 0x1190c20, 0x11914ff, 0x1191520, 0x11917ff, 0x1191820, 0x11936ff, 0x1193720,
    0x11939ff, 0x1193b20, 0x11947ff, 0x1195020, 0x1195aff, 0x119a065, 0x119a8ff, 0x119aa65,
    0x119d8ff, 0x119da65, 0x119e5ff, 0x11a00a9, 0x11a48ff, 0x11a508b, 0x11aa3ff, 0x11ab011,
    0x11ac07c, 0x11af9ff, 0x11b001f, 0x11b0aff, 0x11bc08d, 0x11be2ff, 0x11bf08d, 0x11bfaff,
    0x11c000b, 0x11c09ff, 0x11c0a0b, 0x11c37ff, 0x11c380b, 0x11c46ff, 0x11c500b, 0x11c6dff,
    0x11c7056, 0x11c90ff, 0x11c9256, 0x11ca8ff, 0x11ca956, 0x11cb7ff, 0x11d0057, 0x11d07ff,
    0x11d0857, 0x11d0aff, 0x11d0b57, 0x11d37ff, 0x11d3a57, 0x11d3bff, 0x11d3c57, 0x11d3eff,
    0x11d3f57, 0x11d48ff, 0x11d5057, 0x11d5aff, 0x11d602e, 0x11d66ff, 0x11d672e, 0x11d69ff,
    0x11d6a2e, 0x11d8fff, 0x11d902e, 0x11d92ff, 0x11d932e, 0x11d99ff, 0x11da02e, 0x11daaff,
    0x11ee052, 0x11ef9ff, 0x11f0040, 0x11f11ff, 0x11f1240, 0x11f3bff, 0x11f3e40, 0x11f5bff,
    0x11fb04e, 0x11fb1ff, 0x11fc096, 0x11ff2ff, 0x11fff96, 0x120001a, 0x1239aff, 0x124001a,
    0x1246fff, 0x124701a, 0x12475ff, 0x124801a, 0x12544ff, 0x12f901c, 0x12ff3ff, 0x1300023,
    0x13456ff, 0x1346023, 0x143fbff, 0x1440002, 0x14647ff, 0x1610030, 0x1613aff, 0x1680007,
    0x16a39ff, 0x16a4060, 0x16a5fff, 0x16a6060, 0x16a6aff, 0x16a6e60, 0x16a7097, 0x16abfff,
    0x16ac097, 0x16acaff, 0x16ad008, 0x16aeeff, 0x16af008, 0x16af6ff, 0x16b007a, 0x16b46ff,
    0x16b507a, 0x16b5aff, 0x16b5b7a, 0x16b62ff, 0x16b637a, 0x16b78ff, 0x16b7d7a, 0x16b90ff,
    0x16d4047, 0x16d7aff, 0x16e4058, 0x16e9bff, 0x16f005d, 0x16f4bff, 0x16f4f5d, 0x16f88ff,
    0x16f8f5d, 0x16fa0ff, 0x16fe098, 0x16fe169, 0x16fe231, 0x16fe443, 0x16fe5ff, 0x16ff031,
    0x16ff2ff, 0x1700098, 0x187f8ff, 0x1880098, 0x18b0043, 0x18cd6ff, 0x18cff43, 0x18d0098,
    0x18d09ff, 0x1aff03f, 0x1aff4ff, 0x1aff53f, 0x1affcff, 0x1affd3f, 0x1afffff, 0x1b0003f,
    0x1b00137, 0x1b1203f, 0x1b123ff, 0x1b13237, 0x1b133ff, 0x1b15037, 0x1b153ff, 0x1b1553f,
    0x1b156ff, 0x1b1643f, 0x1b168ff, 0x1b17069, 0x1b2fcff, 0x1bc0022, 0x1bc6bff, 0x1bc7022,
    0x1bc7dff, 0x1bc8022, 0x1bc89ff, 0x1bc9022, 0x1bc9aff, 0x1bc9c22, 0x1bca018, 0x1bca4ff,
    0x1cc0018, 0x1ccfaff, 0x1cd0018, 0x1ceb4ff, 0x1cf0039, 0x1cf2eff, 0x1cf3039, 0x1cf47ff,
    0x1cf5018, 0x1cfc4ff, 0x1d00018, 0x1d0f6ff, 0x1d10018, 0x1d127ff, 0x1d12918, 0x1d16739,
    0x1d16a18, 0x1d17b39, 0x1d18318, 0x1d18539, 0x1d18c18, 0x1d1aa39, 0x1d1ae18, 0x1d1ebff,
    0x1d2002c, 0x1d246ff, 0x1d2c018, 0x1d2d4ff, 0x1d2e018, 0x1d2f4ff, 0x1d30018, 0x1d357ff,
    0x1d36018, 0x1d379ff, 0x1d40018, 0x1d455ff, 0x1d45618, 0x1d49dff, 0x1d49e18, 0x1d4a0ff,
    0x1d4a218, 0x1d4a3ff, 0x1d4a518, 0x1d4a7ff, 0x1d4a918, 0x1d4adff, 0x1d4ae18, 0x1d4baff,
    0x1d4bb18, 0x1d4bcff, 0x1d4bd18, 0x1d4c4ff, 0x1d4c518, 0x1d506ff, 0x1d50718, 0x1d50bff,
    0x1d50d18, 0x1d515ff, 0x1d51618, 0x1d51dff, 0x1d51e18, 0x1d53aff, 0x1d53b18, 0x1d53fff,
    0x1d54018, 0x1d545ff, 0x1d54618, 0x1d547ff, 0x1d54a18, 0x1d551ff, 0x1d55218, 0x1d6a6ff,
    0x1d6a818, 0x1d7ccff, 0x1d7ce18, 0x1d80087, 0x1da8cff, 0x1da9b87, 0x1daa0ff, 0x1daa187,
    0x1dab0ff, 0x1df0049, 0x1df1fff, 0x1df2549, 0x1df2bff, 0x1e00029, 0x1e007ff, 0x1e00829,
    0x1e019ff, 0x1e01b29, 0x1e022ff, 0x1e02329, 0x1e025ff, 0x1e02629, 0x1e02bff, 0x1e0301d,
    0x1e06eff, 0x1e08f1d, 0x1e090ff, 0x1e1006a, 0x1e12dff, 0x1e1306a, 0x1e13eff, 0x1e1406a,
    0x1e14aff, 0x1e14e6a, 0x1e150ff, 0x1e290a0, 0x1e2afff, 0x1e2c0a5, 0x1e2faff, 0x1e2ffa5,
    0x1e300ff, 0x1e4d064, 0x1e4faff, 0x1e5d076, 0x1e5fbff, 0x1e5ff76, 0x1e600ff, 0x1e7e026,
    0x1e7e7ff, 0x1e7e826, 0x1e7ecff, 0x1e7ed26, 0x1e7efff, 0x1e7f026, 0x1e7ffff, 0x1e8005a,
    0x1e8c5ff, 0x1e8c75a, 0x1e8d7ff, 0x1e90000, 0x1e94cff, 0x1e95000, 0x1e95aff, 0x1e95e00,
    0x1e960ff, 0x1ec7118, 0x1ecb5ff, 0x1ed0118, 0x1ed3eff, 0x1ee0003, 0x1ee04ff, 0x1ee0503,
    0x1ee20ff, 0x1ee2103, 0x1ee23ff, 0x1ee2403, 0x1ee25ff, 0x1ee2703, 0x1ee28ff, 0x1ee2903,
    0x1ee33ff, 0x1ee3403, 0x1ee38ff, 0x1ee3903, 0x1ee3aff, 0x1ee3b03, 0x1ee3cff, 0x1ee4203,
    0x1ee43ff, 0x1ee4703, 0x1ee48ff, 0x1ee4903, 0x1ee4aff, 0x1ee4b03, 0x1ee4cff, 0x1ee4d03,
    0x1ee50ff, 0x1ee5103, 0x1ee53ff, 0x1ee5403, 0x1ee55ff, 0x1ee5703, 0x1ee58ff, 0x1ee5903,
    0x1ee5aff, 0x1ee5b03, 0x1ee5cff, 0x1ee5d03, 0x1ee5eff, 0x1ee5f03, 0x1ee60ff, 0x1ee6103,
    0x1ee63ff, 0x1ee6403, 0x1ee65ff, 0x1ee6703, 0x1ee6bff, 0x1ee6c03, 0x1ee73ff, 0x1ee7403,
    0x1ee78ff, 0x1ee7903, 0x1ee7dff, 0x1ee7e03, 0x1ee7fff, 0x1ee8003, 0x1ee8aff, 0x1ee8b03,
    0x1ee9cff, 0x1eea103, 0x1eea4ff, 0x1eea503, 0x1eeaaff, 0x1eeab03, 0x1eebcff, 0x1eef003,
    0x1eef2ff, 0x1f00018, 0x1f02cff, 0x1f03018, 0x1f094ff, 0x1f0a018, 0x1f0afff, 0x1f0b118,
    0x1f0c0ff, 0x1f0c118, 0x1f0d0ff, 0x1f0d118, 0x1f0f6ff, 0x1f10018, 0x1f1aeff, 0x1f1e618,
    0x1f20037, 0x1f20118, 0x1f203ff, 0x1f21018, 0x1f23cff, 0x1f24018, 0x1f249ff, 0x1f25018,
    0x1f252ff, 0x1f26018, 0x1f266ff, 0x1f30018, 0x1f6d8ff, 0x1f6dc18, 0x1f6edff, 0x1f6f018,
    0x1f6fdff, 0x1f70018, 0x1f777ff, 0x1f77b18, 0x1f7daff, 0x1f7e018, 0x1f7ecff, 0x1f7f018,
    0x1f7f1ff, 0x1f80018, 0x1f80cff, 0x1f81018, 0x1f848ff, 0x1f85018, 0x1f85aff, 0x1f86018,
    0x1f888ff, 0x1f89018, 0x1f8aeff, 0x1f8b018, 0x1f8bcff, 0x1f8c018, 0x1f8c2ff, 0x1f90018,
    0x1fa54ff, 0x1fa6018, 0x1fa6eff, 0x1fa7018, 0x1fa7dff, 0x1fa8018, 0x1fa8aff, 0x1fa8f18,
    0x1fac7ff, 0x1face18, 0x1faddff, 0x1fadf18, 0x1faeaff, 0x1faf018, 0x1faf9ff, 0x1fb0018,
    0x1fb93ff, 0x1fb9418, 0x1fbfaff, 0x2000031, 0x2a6e0ff, 0x2a70031, 0x2b73aff, 0x2b74031,
    0x2b81eff, 0x2b82031, 0x2cea2ff, 0x2ceb031, 0x2ebe1ff, 0x2ebf031, 0x2ee5eff, 0x2f80031,
    0x2fa1eff, 0x3000031, 0x3134bff, 0x3135031, 0x323b0ff, 0xe000118, 0xe0002ff, 0xe002018,
    0xe0080ff, 0xe010039, 0xe01f0ff]

/-- All runs. -/
def runs : List Nat :=
  (runs1 ++ runs2).toList

/-- The characters of a script. -/
def set (s : Script) : CharSet :=
  .ofRanges (Runs.marked 256 (· = s.number) runs)

end Script

end Graft.CharProperty
