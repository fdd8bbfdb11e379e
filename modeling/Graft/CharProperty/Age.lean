import Graft.CharProperty.Runs
import Graft.Number.Numeral

/-!
The version of Unicode in which every character came up, up to version 16.

Versions are numbered from 1 on. They are given by runs, with 32 as the radix and the
number of the version as the mark; the mark 0 stands for code points without a character.
-/

set_option autoImplicit false

namespace Graft.CharProperty

/-- A version of Unicode, by its number. -/
structure Age where
  number : Nat
  deriving Repr, DecidableEq

namespace Age

/-- The two parts of the names of the versions. -/
def versions : List (Nat × Nat) := [
    (1, 1), (2, 0), (2, 1), (3, 0), (3, 1), (3, 2), (4, 0), (4, 1), (5, 0), (5, 1), (5, 2), (6, 0),
    (6, 1), (6, 2), (6, 3), (7, 0), (8, 0), (9, 0), (10, 0), (11, 0), (12, 0), (12, 1), (13, 0),
    (14, 0), (15, 0), (15, 1), (16, 0)]

/-- The spellings of a version: with a point, or in one word behind a letter. -/
def spellings (major minor : Nat) : List String :=
  let a := Numeral.decimal major
  let b := Numeral.decimal minor
  [a ++ "." ++ b, "v" ++ a ++ b]

/-- The version of a spelling. -/
def named? (name : String) : Option Age :=
  (versions.findIdx? fun (major, minor) => (spellings major minor).contains name).map
    fun i => ⟨i + 1⟩

/-- The first part of the runs. -/
def runs1 : Array Nat := #[
    0x1, 0x3ec4, 0x3f41, 0x4304, 0x4406, 0x4427, 0x4444, 0x4687, 0x46e8, 0x4849, 0x4a01, 0x5524,
    0x55c7, 0x5601, 0x5be4, 0x5c01, 0x5d44, 0x5de7, 0x6001, 0x68c4, 0x69e6, 0x6a07, 0x6b08, 0x6ba7,
    0x6c01, 0x6c44, 0x6c66, 0x6e0a, 0x6e81, 0x6eca, 0x6f00, 0x6f41, 0x6f69, 0x6fc1, 0x6ff0, 0x7000,
    0x7081, 0x7160, 0x7181, 0x71a0, 0x71c1, 0x7440, 0x7461, 0x79ea, 0x7a01, 0x7ae4, 0x7b06, 0x7b41,
    0x7b64, 0x7b81, 0x7ba4, 0x7bc1, 0x7be4, 0x7c01, 0x7c24, 0x7c41, 0x7e85, 0x7ec6, 0x7ee7, 0x7f88,
    0x8004, 0x8021, 0x81a4, 0x81c1, 0x8a04, 0x8a21, 0x8ba4, 0x8bc1, 0x90ea, 0x9104, 0x9146, 0x9184,
    0x9201, 0x98a6, 0x98e1, 0x9926, 0x9961, 0x99a6, 0x99e9, 0x9a01, 0x9d84, 0x9dc1, 0x9ec8, 0x9f01,
    0x9f49, 0xa006, 0xa209, 0xa28a, 0xa48b, 0xa4cc, 0xa510, 0xa600, 0xa621, 0xaae0, 0xab21, 0xac14,
    0xac21, 0xb114, 0xb121, 0xb144, 0xb160, 0xb1b0, 0xb1ed, 0xb200, 0xb222, 0xb448, 0xb462, 0xb601,
    0xb749, 0xb761, 0xb882, 0xb8a8, 0xb900, 0xba01, 0xbd60, 0xbdf4, 0xbe01, 0xbea0, 0xc007, 0xc08d,
    0xc0b0, 0xc0ca, 0xc168, 0xc181, 0xc1a7, 0xc2ca, 0xc361, 0xc38f, 0xc3b8, 0xc3c8, 0xc3e1, 0xc40c,
    0xc421, 0xc76a, 0xc801, 0xca64, 0xcac7, 0xcb28, 0xcbec, 0xcc01, 0xcdc6, 0xce01, 0xd704, 0xd741,
    0xd7e4, 0xd801, 0xd9e4, 0xda01, 0xddc7, 0xde01, 0xdf44, 0xdfe7, 0xe004, 0xe1c0, 0xe1e4, 0xe5a7,
    0xe604, 0xe960, 0xe9a7, 0xea08, 0xedca, 0xf004, 0xf626, 0xf640, 0xf809, 0xff60, 0xffb4,
    0x1000b, 0x105c0, 0x1060b, 0x107e0, 0x1080c, 0x10b80, 0x10bcc, 0x10be0, 0x10c13, 0x10d60,
    0x10e18, 0x111e0, 0x11218, 0x11240, 0x112fb, 0x11318, 0x1140d, 0x11430, 0x1144d, 0x115b0,
    0x11671, 0x116b8, 0x116d2, 0x117d7, 0x11918, 0x11a74, 0x11a92, 0x11c71, 0x11c8d, 0x11ff0,
    0x1200b, 0x12021, 0x12087, 0x120a1, 0x1274c, 0x12781, 0x129cb, 0x129ec, 0x12a01, 0x12aab,
    0x12acc, 0x12b01, 0x12e2a, 0x12e6c, 0x12f10, 0x12f2b, 0x12f69, 0x12fa8, 0x12fc9, 0x13010,
    0x13021, 0x13080, 0x130a1, 0x131a0, 0x131e1, 0x13220, 0x13261, 0x13520, 0x13541, 0x13620,
    0x13641, 0x13660, 0x136c1, 0x13740, 0x13781, 0x137a7, 0x137c1, 0x138a0, 0x138e1, 0x13920,
    0x13961, 0x139c8, 0x139e0, 0x13ae1, 0x13b00, 0x13b81, 0x13bc0, 0x13be1, 0x13c80, 0x13cc1,
    0x13f6b, 0x13f93, 0x13fd4, 0x13fe0, 0x14027, 0x14041, 0x14067, 0x14080, 0x140a1, 0x14160,
    0x141e1, 0x14220, 0x14261, 0x14520, 0x14541, 0x14620, 0x14641, 0x14680, 0x146a1, 0x146e0,
    0x14701, 0x14740, 0x14781, 0x147a0, 0x147c1, 0x14860, 0x148e1, 0x14920, 0x14961, 0x149c0,
    0x14a2a, 0x14a40, 0x14b21, 0x14ba0, 0x14bc1, 0x14be0, 0x14cc1, 0x14eaa, 0x14ed4, 0x14ee0,
    0x15021, 0x15080, 0x150a1, 0x15187, 0x151a1, 0x151c0, 0x151e1, 0x15240, 0x15261, 0x15520,
    0x15541, 0x15620, 0x15641, 0x15680, 0x156a1, 0x15740, 0x15781, 0x158c0, 0x158e1, 0x15940,
    0x15961, 0x159c0, 0x15a01, 0x15a20, 0x15c01, 0x15c27, 0x15c80, 0x15cc1, 0x15e0d, 0x15e27,
    0x15e40, 0x15f31, 0x15f53, 0x16000, 0x16021, 0x16080, 0x160a1, 0x161a0, 0x161e1, 0x16220,
    0x16261, 0x16520, 0x16541, 0x16620, 0x16641, 0x16680, 0x166a7, 0x166c1, 0x16740, 0x16781,
    0x1688a, 0x168a0, 0x168e1, 0x16920, 0x16961, 0x169c0, 0x16ab7, 0x16ac1, 0x16b00, 0x16b81,
    0x16bc0, 0x16be1, 0x16c4a, 0x16c80, 0x16cc1, 0x16e27, 0x16e4c, 0x16f00, 0x17041, 0x17080,
    0x170a1, 0x17160, 0x171c1, 0x17220, 0x17241, 0x172c0, 0x17321, 0x17360, 0x17381, 0x173a0,
    0x173c1, 0x17400, 0x17461, 0x174a0, 0x17501, 0x17560, 0x175c1, 0x176c8, 0x176e1, 0x17740,
    0x177c1, 0x17860, 0x178c1, 0x17920, 0x17941, 0x179c0, 0x17a0a, 0x17a20, 0x17ae1, 0x17b00,
    0x17cc8, 0x17ce1, 0x17e67, 0x17f60, 0x18010, 0x18021, 0x18094, 0x180a1, 0x181a0, 0x181c1,
    0x18220, 0x18241, 0x18520, 0x18541, 0x18690, 0x186a1, 0x18740, 0x18798, 0x187aa, 0x187c1,
    0x188a0, 0x188c1, 0x18920, 0x18941, 0x189c0, 0x18aa1, 0x18ae0, 0x18b0a, 0x18b51, 0x18b60,
    0x18bb8, 0x18bc0, 0x18c01, 0x18c4a, 0x18c80, 0x18cc1, 0x18e00, 0x18ef5, 0x18f0a, 0x19012,
    0x19030, 0x19041, 0x19094, 0x190a1, 0x191a0, 0x191c1, 0x19220, 0x19241, 0x19520, 0x19541,
    0x19680, 0x196a1, 0x19740, 0x19787, 0x197c1, 0x198a0, 0x198c1, 0x19920, 0x19941, 0x199c0,
    0x19aa1, 0x19ae0, 0x19bb8, 0x19bc1, 0x19be0, 0x19c01, 0x19c49, 0x19c80, 0x19cc1, 0x19e00,
    0x19e29, 0x19e79, 0x19e80, 0x1a013, 0x1a030, 0x1a041, 0x1a097, 0x1a0a1, 0x1a1a0, 0x1a1c1,
    0x1a220, 0x1a241, 0x1a52c, 0x1a541, 0x1a74c, 0x1a773, 0x1a7aa, 0x1a7c1, 0x1a88a, 0x1a8a0,
    0x1a8c1, 0x1a920, 0x1a941, 0x1a9cc, 0x1a9f2, 0x1aa00, 0x1aa92, 0x1aae1, 0x1ab12, 0x1abf1,
    0x1ac01, 0x1ac4a, 0x1ac80, 0x1acc1, 0x1ae0a, 0x1aed2, 0x1af2a, 0x1b000, 0x1b037, 0x1b044,
    0x1b080, 0x1b0a4, 0x1b2e0, 0x1b344, 0x1b640, 0x1b664, 0x1b780, 0x1b7a4, 0x1b7c0, 0x1b804,
    0x1b8e0, 0x1b944, 0x1b960, 0x1b9e4, 0x1baa0, 0x1bac4, 0x1bae0, 0x1bb04, 0x1bc00, 0x1bcd0,
    0x1be00, 0x1be44, 0x1bea0, 0x1c021, 0x1c760, 0x1c7e1, 0x1cb80, 0x1d021, 0x1d060, 0x1d081,
    0x1d0a0, 0x1d0d5, 0x1d0e1, 0x1d135, 0x1d141, 0x1d160, 0x1d195, 0x1d1a1, 0x1d1d5, 0x1d281,
    0x1d315, 0x1d321, 0x1d415, 0x1d421, 0x1d480, 0x1d4a1, 0x1d4c0, 0x1d4e1, 0x1d515, 0x1d541,
    0x1d595, 0x1d5a1, 0x1d755, 0x1d761, 0x1d7c0, 0x1d801, 0x1d8a0, 0x1d8c1, 0x1d8e0, 0x1d901,
    0x1d9d9, 0x1d9e0, 0x1da01, 0x1db40, 0x1db81, 0x1dbcd, 0x1dc00, 0x1e002, 0x1e900, 0x1e922,
    0x1ed44, 0x1ed6a, 0x1eda0, 0x1ee22, 0x1f18c, 0x1f202, 0x1f2c4, 0x1f2e2, 0x1f300, 0x1f322,
    0x1f5c4, 0x1f622, 0x1f704, 0x1f722, 0x1f744, 0x1f7a0, 0x1f7c4, 0x1f9a0, 0x1f9ca, 0x1f9e4,
    0x1fa08, 0x1fa4a, 0x1faab, 0x1fb2c, 0x1fb60, 0x20004, 0x2044a, 0x20464, 0x2050a, 0x20524,
    0x2056a, 0x20584, 0x2066a, 0x206c4, 0x2074a, 0x20804, 0x20b4a, 0x2134b, 0x213ca, 0x21401,
    0x218c0, 0x218ed, 0x21900, 0x219ad, 0x219c0, 0x21a01, 0x21ee6, 0x21f28, 0x21f61, 0x21f88,
    0x21fad, 0x22001, 0x22b4b, 0x22be1, 0x2346b, 0x23501, 0x23f4b, 0x24004, 0x240e8, 0x24104,
    0x248e8, 0x24904, 0x24920, 0x24944, 0x249c0, 0x24a04, 0x24ae0, 0x24b04, 0x24b20, 0x24b44,
    0x24bc0, 0x24c04, 0x250e8, 0x25104, 0x25120, 0x25144, 0x251c0, 0x25204, 0x255e8, 0x25604,
    0x25620, 0x25644, 0x256c0, 0x25704, 0x257e0, 0x25804, 0x25820, 0x25844, 0x258c0, 0x25904,
    0x259e8, 0x25a04, 0x25ae0, 0x25b04, 0x25de8, 0x25e04, 0x261e8, 0x26204, 0x26220, 0x26244,
    0x262c0, 0x26304, 0x263e8, 0x26404, 0x268e8, 0x26904, 0x26b60, 0x26bac, 0x26be8, 0x26c24,
    0x26fa0, 0x27008, 0x27340, 0x27404, 0x27eb1, 0x27ec0, 0x27f11, 0x27fc0, 0x2800b, 0x28024,
    0x2ceeb, 0x2d004, 0x2d3a0, 0x2d404, 0x2de30, 0x2df20, 0x2e006, 0x2e1b8, 0x2e1c6, 0x2e2b8,
    0x2e2c0, 0x2e3f8, 0x2e406, 0x2e6e0, 0x2e806, 0x2ea80, 0x2ec06, 0x2eda0, 0x2edc6, 0x2ee20,
    0x2ee46, 0x2ee80, 0x2f004, 0x2fba7, 0x2fbc0, 0x2fc04, 0x2fd40, 0x2fe07, 0x2ff40, 0x30004,
    0x301f8, 0x30204, 0x30340, 0x30404, 0x30f14, 0x30f20, 0x31004, 0x3154a, 0x31560, 0x3160b,
    0x31ec0, 0x32007, 0x323b0, 0x323e0, 0x32407, 0x32580, 0x32607, 0x32780, 0x32807, 0x32820,
    0x32887, 0x32dc0, 0x32e07, 0x32ea0, 0x33008, 0x3354b, 0x33580, 0x33608, 0x33940, 0x33a08,
    0x33b4b, 0x33b60, 0x33bc8, 0x33c07, 0x34008, 0x34380, 0x343c8, 0x3440b, 0x34be0, 0x34c0b,
    0x34fa0, 0x34feb, 0x35140, 0x3520b, 0x35340, 0x3540b, 0x355c0, 0x35610, 0x357f7, 0x35838,
    0x359e0, 0x36009, 0x36998, 0x369a0, 0x369db, 0x36a09, 0x36fb8, 0x36ffb, 0x3700a, 0x3756d,
    0x375ca, 0x3774d, 0x3780c, 0x37e80, 0x37f8c, 0x3800a, 0x38700, 0x3876a, 0x38940, 0x389aa,
    0x39012, 0x3913b, 0x39160, 0x39214, 0x39760, 0x397b4, 0x3980d, 0x39900, 0x39a0b, 0x39e6d,
    0x39ef3, 0x39f10, 0x39f55, 0x39f60, 0x3a007, 0x3ad88, 0x3b889, 0x3b96a, 0x3bcf0, 0x3bed3,
    0x3bf58, 0x3bf72, 0x3bf8c, 0x3bfab, 0x3bfc9, 0x3c001, 0x3d362, 0x3d38a, 0x3d401, 0x3df4a,
    0x3e001, 0x3e2c0, 0x3e301, 0x3e3c0, 0x3e401, 0x3e8c0, 0x3e901, 0x3e9c0, 0x3ea01]

/-- The second part of the runs. -/
def runs2 : Array Nat := #[
    0x3eb00, 0x3eb21, 0x3eb40, 0x3eb61, 0x3eb80, 0x3eba1, 0x3ebc0, 0x3ebe1, 0x3efc0, 0x3f001,
    0x3f6a0, 0x3f6c1, 0x3f8a0, 0x3f8c1, 0x3fa80, 0x3fac1, 0x3fb80, 0x3fba1, 0x3fe00, 0x3fe41,
    0x3fea0, 0x3fec1, 0x3ffe0, 0x40001, 0x405e4, 0x40601, 0x408e6, 0x40904, 0x409c6, 0x40a67,
    0x40aa8, 0x40ae6, 0x40b08, 0x40be6, 0x40c8a, 0x40ca0, 0x40ccf, 0x40d41, 0x40e26, 0x40e40,
    0x40e81, 0x411e0, 0x41208, 0x412ac, 0x413a0, 0x41401, 0x41562, 0x41583, 0x415a4, 0x41606,
    0x41648, 0x416cb, 0x4172c, 0x4174e, 0x41770, 0x417d1, 0x417f3, 0x41818, 0x41820, 0x41a01,
    0x41c44, 0x41c86, 0x41d68, 0x41d89, 0x41e0a, 0x41e20, 0x42001, 0x42724, 0x42767, 0x42788,
    0x427a6, 0x42988, 0x429a9, 0x429ea, 0x42a0b, 0x42a61, 0x43064, 0x43089, 0x430aa, 0x4312b,
    0x43151, 0x43180, 0x43201, 0x43d64, 0x43e86, 0x44001, 0x45e46, 0x46001, 0x46024, 0x46041,
    0x46f64, 0x46f86, 0x46fa4, 0x47366, 0x479e7, 0x47a28, 0x47b89, 0x47d0b, 0x47d2c, 0x47e90,
    0x47f72, 0x47ff3, 0x48001, 0x484a4, 0x484fb, 0x48540, 0x48801, 0x48960, 0x48c01, 0x49d66,
    0x49fe7, 0x4a001, 0x4b2c6, 0x4b401, 0x4be04, 0x4bf06, 0x4c001, 0x4c287, 0x4c2c6, 0x4c308,
    0x4c324, 0x4c341, 0x4ce04, 0x4ce46, 0x4cfc8, 0x4d006, 0x4d147, 0x4d248, 0x4d3aa, 0x4d3cb,
    0x4d407, 0x4d448, 0x4d649, 0x4d66a, 0x4d7ab, 0x4d80a, 0x4d88b, 0x4d9cc, 0x4d9eb, 0x4dc4c,
    0x4dc6b, 0x4dc8c, 0x4dd0b, 0x4e010, 0x4e021, 0x4e0ac, 0x4e0c1, 0x4e14c, 0x4e181, 0x4e50c,
    0x4e521, 0x4e98c, 0x4e9a1, 0x4e9cc, 0x4e9e1, 0x4ea6c, 0x4eac1, 0x4eaeb, 0x4eb01, 0x4ebec,
    0x4ec21, 0x4ed06, 0x4eec1, 0x4f2ac, 0x4f301, 0x4f60c, 0x4f621, 0x4f7ec, 0x4f808, 0x4f8e9,
    0x4f96d, 0x4f98a, 0x4f9ad, 0x4f9cc, 0x4fa06, 0x4fd8a, 0x4fe06, 0x50004, 0x52006, 0x56007,
    0x561c8, 0x56289, 0x5636a, 0x56409, 0x5648a, 0x569b0, 0x56a0a, 0x56aab, 0x56b50, 0x56e80,
    0x56ed0, 0x572c0, 0x572f7, 0x57310, 0x57754, 0x577b0, 0x57935, 0x57950, 0x57a53, 0x57a74,
    0x57d91, 0x57e14, 0x57ff5, 0x58008, 0x585f8, 0x58608, 0x58bf8, 0x58c09, 0x58daa, 0x58e0b,
    0x58e2a, 0x58e89, 0x58f0a, 0x58fcb, 0x59008, 0x59d6b, 0x59e4d, 0x59e80, 0x59f28, 0x5a4c0,
    0x5a4ed, 0x5a500, 0x5a5ad, 0x5a5c0, 0x5a608, 0x5accd, 0x5ad00, 0x5ade8, 0x5ae0c, 0x5ae20,
    0x5afec, 0x5b008, 0x5b2e0, 0x5b408, 0x5b4e0, 0x5b508, 0x5b5e0, 0x5b608, 0x5b6e0, 0x5b708,
    0x5b7e0, 0x5b808, 0x5b8e0, 0x5b908, 0x5b9e0, 0x5ba08, 0x5bae0, 0x5bb08, 0x5bbe0, 0x5bc0a,
    0x5c008, 0x5c30a, 0x5c388, 0x5c3ca, 0x5c62b, 0x5c64d, 0x5c790, 0x5c872, 0x5c8b3, 0x5c954,
    0x5c9f5, 0x5ca17, 0x5ca78, 0x5cbc0, 0x5d004, 0x5d340, 0x5d364, 0x5de80, 0x5e004, 0x5fac0,
    0x5fe04, 0x5ff9a, 0x60001, 0x60704, 0x60766, 0x607c4, 0x607e1, 0x60800, 0x60821, 0x612a6,
    0x612e0, 0x61321, 0x613e6, 0x61421, 0x61fe6, 0x62000, 0x620a1, 0x625aa, 0x625d3, 0x625f4,
    0x62600, 0x62621, 0x631e0, 0x63201, 0x63404, 0x6370c, 0x63777, 0x63808, 0x63a0a, 0x63c9b,
    0x63cc0, 0x63dfa, 0x63e06, 0x64001, 0x643a7, 0x643e0, 0x64401, 0x6488b, 0x64a07, 0x64a26,
    0x64c01, 0x64f87, 0x64fc8, 0x64fe1, 0x65626, 0x65801, 0x65987, 0x65a01, 0x65ff6, 0x66001,
    0x66ee7, 0x66f61, 0x67bc7, 0x67c01, 0x67fe7, 0x68004, 0x9b6d7, 0x9b807, 0x9c001, 0x13f4c8,
    0x13f78a, 0x13f88b, 0x13f98d, 0x13f9b1, 0x13fad3, 0x13fd74, 0x13fe17, 0x13ffb8, 0x140004,
    0x1491a0, 0x149204, 0x149446, 0x149484, 0x149686, 0x1496a4, 0x149826, 0x149844, 0x1498a6,
    0x1498c4, 0x1498e0, 0x149a0b, 0x14a00a, 0x14c580, 0x14c80a, 0x14cc0c, 0x14cc4a, 0x14ce8d,
    0x14cf8a, 0x14d310, 0x14d3d1, 0x14d3ed, 0x14d40b, 0x14df00, 0x14e008, 0x14e2e9, 0x14e36a,
    0x14e409, 0x14e44a, 0x14f1ac, 0x14f1f1, 0x14f20c, 0x14f24d, 0x14f290, 0x14f40c, 0x14f54d,
    0x14f570, 0x14f5d2, 0x14f5f4, 0x14f610, 0x14f651, 0x14f714, 0x14f755, 0x14f818, 0x14f855,
    0x14f8f7, 0x14f97b, 0x14f9c0, 0x14fa18, 0x14fa40, 0x14fa78, 0x14fa80, 0x14fab8, 0x14fb5b,
    0x14fba0, 0x14fe58, 0x14feb7, 0x14fef0, 0x14ff0d, 0x14ff4c, 0x14ff6a, 0x150008, 0x150597,
    0x1505a0, 0x15060b, 0x150740, 0x150809, 0x150f00, 0x15100a, 0x1518b2, 0x1518c0, 0x1519ca,
    0x151b40, 0x151c0b, 0x151f91, 0x151fd4, 0x15200a, 0x152a80, 0x152bea, 0x152c0b, 0x152fa0,
    0x15300b, 0x1539c0, 0x1539eb, 0x153b40, 0x153bcb, 0x153c10, 0x153fe0, 0x15400a, 0x1546e0,
    0x15480a, 0x1549c0, 0x154a0a, 0x154b40, 0x154b8a, 0x154c0b, 0x154f90, 0x15500b, 0x155860,
    0x155b6b, 0x155c0d, 0x155ee0, 0x15602c, 0x1560e0, 0x15612c, 0x1561e0, 0x15622c, 0x1562e0,
    0x15640c, 0x1564e0, 0x15650c, 0x1565e0, 0x156610, 0x156c11, 0x156c90, 0x156cd5, 0x156d17,
    0x156d80, 0x156e11, 0x15780b, 0x157dc0, 0x157e0b, 0x157f40, 0x158002, 0x1af480, 0x1af60b,
    0x1af8e0, 0x1af96b, 0x1aff80, 0x1c0001, 0x1f45cd, 0x1f4606, 0x1f4d6b, 0x1f4dc0, 0x1f4e08,
    0x1f5b40, 0x1f6001, 0x1f60e0, 0x1f6261, 0x1f6300, 0x1f63a4, 0x1f63c1, 0x1f66e0, 0x1f6701,
    0x1f67a0, 0x1f67c1, 0x1f67e0, 0x1f6801, 0x1f6840, 0x1f6861, 0x1f68a0, 0x1f68c1, 0x1f764c,
    0x1f7858, 0x1f7860, 0x1f7a61, 0x1fa818, 0x1faa01, 0x1fb200, 0x1fb241, 0x1fb900, 0x1fb9f8,
    0x1fba05, 0x1fbe01, 0x1fbf86, 0x1fbfa7, 0x1fbfd8, 0x1fc006, 0x1fc208, 0x1fc340, 0x1fc401,
    0x1fc48a, 0x1fc4f0, 0x1fc5d1, 0x1fc601, 0x1fc8a6, 0x1fc8e7, 0x1fc921, 0x1fca60, 0x1fca81,
    0x1fcce0, 0x1fcd01, 0x1fcd80, 0x1fce01, 0x1fce66, 0x1fce81, 0x1fcea0, 0x1fcec1, 0x1fdfa0,
    0x1fdfe1, 0x1fe000, 0x1fe021, 0x1febe6, 0x1fec21, 0x1ff7e0, 0x1ff841, 0x1ff900, 0x1ff941,
    0x1ffa00, 0x1ffa41, 0x1ffb00, 0x1ffb41, 0x1ffba0, 0x1ffc01, 0x1ffce0, 0x1ffd01, 0x1ffde0,
    0x1fff24, 0x1fff83, 0x1fffa1, 0x200007, 0x200180, 0x2001a7, 0x2004e0, 0x200507, 0x200760,
    0x200787, 0x2007c0, 0x2007e7, 0x2009c0, 0x200a07, 0x200bc0, 0x201007, 0x201f60, 0x202007,
    0x202060, 0x2020e7, 0x202680, 0x2026e7, 0x202808, 0x203170, 0x2031b2, 0x2031e0, 0x20320a,
    0x203397, 0x2033a0, 0x203410, 0x203420, 0x203a0a, 0x203fc0, 0x20500a, 0x2053a0, 0x20540a,
    0x205a20, 0x205c10, 0x205f80, 0x206005, 0x2063f0, 0x206405, 0x206480, 0x2065b3, 0x206605,
    0x206960, 0x206a10, 0x206f60, 0x207007, 0x2073c0, 0x2073e7, 0x207408, 0x207880, 0x207908,
    0x207ac0, 0x208005, 0x2084c7, 0x208505, 0x2089c7, 0x2093c0, 0x209407, 0x209540, 0x209612,
    0x209a80, 0x209b12, 0x209f80, 0x20a010, 0x20a500, 0x20a610, 0x20ac80, 0x20adf0, 0x20ae18,
    0x20af60, 0x20af98, 0x20b160, 0x20b198, 0x20b260, 0x20b298, 0x20b2c0, 0x20b2f8, 0x20b440,
    0x20b478, 0x20b640, 0x20b678, 0x20b740, 0x20b778, 0x20b7a0, 0x20b81b, 0x20be80, 0x20c010,
    0x20e6e0, 0x20e810, 0x20eac0, 0x20ec10, 0x20ed00, 0x20f018, 0x20f0c0, 0x20f0f8, 0x20f620,
    0x20f658, 0x20f760, 0x210007, 0x2100c0, 0x210107, 0x210120, 0x210147, 0x2106c0, 0x2106e7,
    0x210720, 0x210787, 0x2107a0, 0x2107e7, 0x21080b, 0x210ac0, 0x210aeb, 0x210c10, 0x2113e0,
    0x2114f0, 0x211600, 0x211c11, 0x211e60, 0x211e91, 0x211ec0, 0x211f71, 0x212009, 0x21234b,
    0x212380, 0x2123e9, 0x21240a, 0x212740, 0x2127ea, 0x212800, 0x21300d, 0x213700, 0x213791,
    0x2137cd, 0x213811, 0x213a00, 0x213a51, 0x214008, 0x214080, 0x2140a8, 0x2140e0, 0x214188,
    0x214280, 0x2142a8, 0x214300, 0x214328, 0x214694, 0x2146c0, 0x214708, 0x214760, 0x2147e8,
    0x214914, 0x214920, 0x214a08, 0x214b20, 0x214c0b, 0x215010, 0x215400, 0x215810, 0x215ce0,
    0x215d70, 0x215ee0, 0x21600b, 0x2166c0, 0x21672b, 0x216ac0, 0x216b0b, 0x216e60, 0x216f0b,
    0x217010, 0x217240, 0x217330, 0x2173a0, 0x217530, 0x217600, 0x21800b, 0x218920, 0x219011,
    0x219660, 0x219811, 0x219e60, 0x219f51, 0x21a014, 0x21a500, 0x21a614, 0x21a740, 0x21a81b,
    0x21acc0, 0x21ad3b, 0x21b0c0, 0x21b1db, 0x21b200, 0x21cc0b, 0x21cfe0, 0x21d017, 0x21d540,
    0x21d577, 0x21d5c0, 0x21d617, 0x21d640, 0x21d85b, 0x21d8a0, 0x21df9b, 0x21dfb9, 0x21e014,
    0x21e500, 0x21e614, 0x21eb40, 0x21ee18, 0x21f140, 0x21f617, 0x21f980, 0x21fc15, 0x21fee0,
    0x22000c, 0x2209c0, 0x220a4c, 0x220e18, 0x220ec0, 0x220ff0, 0x22100b, 0x221858, 0x221860,
    0x2219b4, 0x2219c0, 0x221a0d, 0x221d20, 0x221e0d, 0x221f40, 0x22200d, 0x2226a0, 0x2226cd,
    0x222894, 0x2228f7, 0x222900, 0x222a10, 0x222ee0, 0x22300d, 0x223931, 0x2239b0, 0x2239d7,
    0x223a0d, 0x223b50, 0x223b71, 0x223c00, 0x223c30, 0x223ea0, 0x224010, 0x224240, 0x224270,
    0x2247d2, 0x2247f9, 0x224840, 0x225011, 0x2250e0, 0x225111, 0x225120, 0x225151, 0x2251c0,
    0x2251f1, 0x2253c0, 0x2253f1, 0x225540, 0x225610, 0x225d60, 0x225e10, 0x225f40, 0x226011,
    0x226030, 0x226080, 0x2260b0, 0x2261a0, 0x2261f0, 0x226220, 0x226270, 0x226520, 0x226550,
    0x226620]

/-- The third part of the runs. -/
def runs3 : Array Nat := #[
    0x226650, 0x226680, 0x2266b0, 0x226740, 0x226774, 0x226790, 0x2268a0, 0x2268f0, 0x226920,
    0x226970, 0x2269c0, 0x226a11, 0x226a20, 0x226af0, 0x226b00, 0x226bb0, 0x226c80, 0x226cd0,
    0x226da0, 0x226e10, 0x226ea0, 0x22701b, 0x227140, 0x22717b, 0x227180, 0x2271db, 0x2271e0,
    0x22721b, 0x2276c0, 0x2276fb, 0x227820, 0x22785b, 0x227860, 0x2278bb, 0x2278c0, 0x2278fb,
    0x227960, 0x22799b, 0x227ac0, 0x227afb, 0x227b20, 0x227c3b, 0x227c60, 0x228012, 0x228b57,
    0x228b72, 0x228b80, 0x228bb2, 0x228bd4, 0x228bf5, 0x228c17, 0x228c40, 0x229010, 0x229900,
    0x229a10, 0x229b40, 0x22b010, 0x22b6c0, 0x22b710, 0x22b951, 0x22bbc0, 0x22c010, 0x22c8a0,
    0x22ca10, 0x22cb40, 0x22cc12, 0x22cda0, 0x22d00d, 0x22d715, 0x22d738, 0x22d740, 0x22d80d,
    0x22d940, 0x22da1b, 0x22dc80, 0x22e011, 0x22e354, 0x22e360, 0x22e3b1, 0x22e580, 0x22e611,
    0x22e818, 0x22e8e0, 0x230014, 0x230780, 0x231410, 0x231e60, 0x231ff0, 0x232017, 0x2320e0,
    0x232137, 0x232140, 0x232197, 0x232280, 0x2322b7, 0x2322e0, 0x232317, 0x2326c0, 0x2326f7,
    0x232720, 0x232777, 0x2328e0, 0x232a17, 0x232b40, 0x233415, 0x233500, 0x233555, 0x233b00,
    0x233b55, 0x233ca0, 0x234013, 0x234900, 0x234a13, 0x235095, 0x2350d3, 0x2353b4, 0x2353d3,
    0x235460, 0x235618, 0x235810, 0x235f20, 0x236019, 0x236140, 0x23781b, 0x237c40, 0x237e1b,
    0x237f40, 0x238012, 0x238120, 0x238152, 0x2386e0, 0x238712, 0x2388c0, 0x238a12, 0x238da0,
    0x238e12, 0x239200, 0x239252, 0x239500, 0x239532, 0x2396e0, 0x23a013, 0x23a0e0, 0x23a113,
    0x23a140, 0x23a173, 0x23a6e0, 0x23a753, 0x23a760, 0x23a793, 0x23a7c0, 0x23a7f3, 0x23a900,
    0x23aa13, 0x23ab40, 0x23ac14, 0x23acc0, 0x23acf4, 0x23ad20, 0x23ad54, 0x23b1e0, 0x23b214,
    0x23b240, 0x23b274, 0x23b320, 0x23b414, 0x23b540, 0x23dc14, 0x23df20, 0x23e019, 0x23e220,
    0x23e259, 0x23e760, 0x23e7d9, 0x23eb5b, 0x23eb60, 0x23f617, 0x23f620, 0x23f815, 0x23fe40,
    0x23fff5, 0x240009, 0x246df0, 0x247331, 0x247340, 0x248009, 0x248c70, 0x248de0, 0x248e09,
    0x248e90, 0x248ea0, 0x249011, 0x24a880, 0x25f218, 0x25fe60, 0x26000b, 0x2685f9, 0x268615,
    0x268739, 0x268ac0, 0x268c1b, 0x287f60, 0x288011, 0x28c8e0, 0x2c201b, 0x2c2740, 0x2d000c,
    0x2d4720, 0x2d4810, 0x2d4be0, 0x2d4c10, 0x2d4d40, 0x2d4dd0, 0x2d4e18, 0x2d57e0, 0x2d5818,
    0x2d5940, 0x2d5a10, 0x2d5dc0, 0x2d5e10, 0x2d5ec0, 0x2d6010, 0x2d68c0, 0x2d6a10, 0x2d6b40,
    0x2d6b70, 0x2d6c40, 0x2d6c70, 0x2d6f00, 0x2d6fb0, 0x2d7200, 0x2da81b, 0x2daf40, 0x2dc814,
    0x2dd360, 0x2de00d, 0x2de8b5, 0x2de960, 0x2de9f5, 0x2dea0d, 0x2deff5, 0x2df100, 0x2df1ed,
    0x2df400, 0x2dfc12, 0x2dfc33, 0x2dfc55, 0x2dfc97, 0x2dfca0, 0x2dfe17, 0x2dfe40, 0x2e0012,
    0x30fdb4, 0x30fe55, 0x30ff00, 0x310012, 0x315e77, 0x319ac0, 0x319ffb, 0x31a017, 0x31a120,
    0x35fe18, 0x35fe80, 0x35feb8, 0x35ff80, 0x35ffb8, 0x35ffe0, 0x36000c, 0x360053, 0x3623f8,
    0x362460, 0x362659, 0x362660, 0x362a15, 0x362a60, 0x362ab9, 0x362ac0, 0x362c95, 0x362d00,
    0x362e13, 0x365f80, 0x378010, 0x378d60, 0x378e10, 0x378fa0, 0x379010, 0x379120, 0x379210,
    0x379340, 0x379390, 0x379480, 0x39801b, 0x399f40, 0x39a01b, 0x39d680, 0x39e018, 0x39e5c0,
    0x39e618, 0x39e8e0, 0x39ea18, 0x39f880, 0x3a0005, 0x3a1ec0, 0x3a2005, 0x3a24e0, 0x3a252a,
    0x3a2545, 0x3a3bd1, 0x3a3d38, 0x3a3d60, 0x3a4008, 0x3a48c0, 0x3a5819, 0x3a5a80, 0x3a5c14,
    0x3a5e80, 0x3a6007, 0x3a6ae0, 0x3a6c09, 0x3a6e54, 0x3a6f20, 0x3a8005, 0x3a8aa0, 0x3a8ac5,
    0x3a93a0, 0x3a93c5, 0x3a9400, 0x3a9445, 0x3a9460, 0x3a94a5, 0x3a94e0, 0x3a9525, 0x3a95a0,
    0x3a95c5, 0x3a9740, 0x3a9765, 0x3a9780, 0x3a97a5, 0x3a9827, 0x3a9845, 0x3a9880, 0x3a98a5,
    0x3aa0c0, 0x3aa0e5, 0x3aa160, 0x3aa1a5, 0x3aa2a0, 0x3aa2c5, 0x3aa3a0, 0x3aa3c5, 0x3aa740,
    0x3aa765, 0x3aa7e0, 0x3aa805, 0x3aa8a0, 0x3aa8c5, 0x3aa8e0, 0x3aa945, 0x3aaa20, 0x3aaa45,
    0x3ad488, 0x3ad4c0, 0x3ad505, 0x3af949, 0x3af980, 0x3af9c5, 0x3b0011, 0x3b5180, 0x3b5371,
    0x3b5400, 0x3b5431, 0x3b5600, 0x3be018, 0x3be3e0, 0x3be4b9, 0x3be560, 0x3c0012, 0x3c00e0,
    0x3c0112, 0x3c0320, 0x3c0372, 0x3c0440, 0x3c0472, 0x3c04a0, 0x3c04d2, 0x3c0560, 0x3c0619,
    0x3c0dc0, 0x3c11f9, 0x3c1200, 0x3c2015, 0x3c25a0, 0x3c2615, 0x3c27c0, 0x3c2815, 0x3c2940,
    0x3c29d5, 0x3c2a00, 0x3c5218, 0x3c55e0, 0x3c5815, 0x3c5f40, 0x3c5ff5, 0x3c6000, 0x3c9a19,
    0x3c9f40, 0x3cba1b, 0x3cbf60, 0x3cbffb, 0x3cc000, 0x3cfc18, 0x3cfce0, 0x3cfd18, 0x3cfd80,
    0x3cfdb8, 0x3cfde0, 0x3cfe18, 0x3cffe0, 0x3d0010, 0x3d18a0, 0x3d18f0, 0x3d1ae0, 0x3d2012,
    0x3d2975, 0x3d2980, 0x3d2a12, 0x3d2b40, 0x3d2bd2, 0x3d2c00, 0x3d8e34, 0x3d96a0, 0x3da035,
    0x3da7c0, 0x3dc00d, 0x3dc080, 0x3dc0ad, 0x3dc400, 0x3dc42d, 0x3dc460, 0x3dc48d, 0x3dc4a0,
    0x3dc4ed, 0x3dc500, 0x3dc52d, 0x3dc660, 0x3dc68d, 0x3dc700, 0x3dc72d, 0x3dc740, 0x3dc76d,
    0x3dc780, 0x3dc84d, 0x3dc860, 0x3dc8ed, 0x3dc900, 0x3dc92d, 0x3dc940, 0x3dc96d, 0x3dc980,
    0x3dc9ad, 0x3dca00, 0x3dca2d, 0x3dca60, 0x3dca8d, 0x3dcaa0, 0x3dcaed, 0x3dcb00, 0x3dcb2d,
    0x3dcb40, 0x3dcb6d, 0x3dcb80, 0x3dcbad, 0x3dcbc0, 0x3dcbed, 0x3dcc00, 0x3dcc2d, 0x3dcc60,
    0x3dcc8d, 0x3dcca0, 0x3dcced, 0x3dcd60, 0x3dcd8d, 0x3dce60, 0x3dce8d, 0x3dcf00, 0x3dcf2d,
    0x3dcfa0, 0x3dcfcd, 0x3dcfe0, 0x3dd00d, 0x3dd140, 0x3dd16d, 0x3dd380, 0x3dd42d, 0x3dd480,
    0x3dd4ad, 0x3dd540, 0x3dd56d, 0x3dd780, 0x3dde0d, 0x3dde40, 0x3e000a, 0x3e0580, 0x3e060a,
    0x3e1280, 0x3e140c, 0x3e15e0, 0x3e162c, 0x3e17f0, 0x3e1800, 0x3e182c, 0x3e1a00, 0x3e1a2c,
    0x3e1c10, 0x3e1ec0, 0x3e200b, 0x3e2170, 0x3e21b7, 0x3e220b, 0x3e25f4, 0x3e260c, 0x3e262b,
    0x3e264c, 0x3e27ab, 0x3e27cc, 0x3e27eb, 0x3e280c, 0x3e284b, 0x3e286c, 0x3e28cb, 0x3e28ec,
    0x3e294b, 0x3e29ec, 0x3e2aeb, 0x3e2b0c, 0x3e2beb, 0x3e2c0c, 0x3e2d4d, 0x3e2d95, 0x3e2db7,
    0x3e2e0c, 0x3e2f2b, 0x3e2f4c, 0x3e2f6b, 0x3e2fac, 0x3e2feb, 0x3e300c, 0x3e314b, 0x3e31cc,
    0x3e320b, 0x3e322c, 0x3e3372, 0x3e35b7, 0x3e35c0, 0x3e3ccc, 0x3e400b, 0x3e402c, 0x3e4060,
    0x3e420b, 0x3e464c, 0x3e4772, 0x3e4780, 0x3e480b, 0x3e4920, 0x3e4a0c, 0x3e4a40, 0x3e4c13,
    0x3e4cc0, 0x3e600c, 0x3e6430, 0x3e65b1, 0x3e660c, 0x3e66d0, 0x3e66ec, 0x3e6fb0, 0x3e6fd1,
    0x3e700c, 0x3e7290, 0x3e740c, 0x3e78b0, 0x3e78cc, 0x3e7970, 0x3e79f1, 0x3e7a90, 0x3e7c0c,
    0x3e7e30, 0x3e7f11, 0x3e800c, 0x3e87f0, 0x3e880c, 0x3e8830, 0x3e884c, 0x3e9f10, 0x3e9f2c,
    0x3e9fb0, 0x3e9ff1, 0x3ea00c, 0x3ea7d0, 0x3ea80d, 0x3ea890, 0x3ea971, 0x3eaa0c, 0x3ead10,
    0x3eaf52, 0x3eaf70, 0x3eb492, 0x3eb4b0, 0x3ebf6c, 0x3ec00d, 0x3ec02c, 0x3ec22d, 0x3ec24c,
    0x3ec2ad, 0x3ec2cc, 0x3ec2ed, 0x3ec30c, 0x3ec32d, 0x3ec34c, 0x3ec36d, 0x3ec38c, 0x3ec3ed,
    0x3ec40c, 0x3ec4cd, 0x3ec50c, 0x3ec58d, 0x3ec5ac, 0x3ec5cd, 0x3ec60c, 0x3ec68d, 0x3ec6ac,
    0x3ec830, 0x3ec871, 0x3ec8ac, 0x3eca10, 0x3ed00c, 0x3ed8d0, 0x3eda11, 0x3eda32, 0x3eda73,
    0x3edab5, 0x3edad7, 0x3edb00, 0x3edb99, 0x3edbb8, 0x3edc10, 0x3edda0, 0x3ede10, 0x3ede92,
    0x3edef3, 0x3edf34, 0x3edf55, 0x3edf77, 0x3edfa0, 0x3ee00c, 0x3eee99, 0x3eeee0, 0x3eef79,
    0x3ef010, 0x3efab4, 0x3efb39, 0x3efb40, 0x3efc15, 0x3efd80, 0x3efe18, 0x3efe20, 0x3f0010,
    0x3f0180, 0x3f0210, 0x3f0900, 0x3f0a10, 0x3f0b40, 0x3f0c10, 0x3f1100, 0x3f1210, 0x3f15c0,
    0x3f1617, 0x3f165b, 0x3f1780, 0x3f181b, 0x3f1840, 0x3f2013, 0x3f2197, 0x3f21b5, 0x3f2211,
    0x3f2332, 0x3f23f3, 0x3f2412, 0x3f2513, 0x3f2612, 0x3f2633, 0x3f2672, 0x3f27f5, 0x3f2812,
    0x3f2993, 0x3f29b4, 0x3f2a12, 0x3f2bf3, 0x3f2d94, 0x3f2e35, 0x3f2e57, 0x3f2e74, 0x3f2ef7,
    0x3f2f38, 0x3f2f54, 0x3f2f75, 0x3f2f94, 0x3f3011, 0x3f30b2, 0x3f3253, 0x3f3314, 0x3f3477,
    0x3f34b5, 0x3f3577, 0x3f35d5, 0x3f3614, 0x3f3755, 0x3f3811, 0x3f3834, 0x3f3875, 0x3f3977,
    0x3f3998, 0x3f39b5, 0x3f3a13, 0x3f3cf4, 0x3f4015, 0x3f4a80, 0x3f4c14, 0x3f4dc0, 0x3f4e15,
    0x3f4e97, 0x3f4eb9, 0x3f4f15, 0x3f4f78, 0x3f4fa0, 0x3f5015, 0x3f5077, 0x3f50f9, 0x3f513b,
    0x3f5140, 0x3f51fb, 0x3f5215, 0x3f52d7, 0x3f5538, 0x3f55b9, 0x3f5617, 0x3f56f8, 0x3f5779,
    0x3f57db, 0x3f57f9, 0x3f5817, 0x3f5878, 0x3f58db, 0x3f58e0, 0x3f59d9, 0x3f5a17, 0x3f5af8,
    0x3f5b59, 0x3f5b9b, 0x3f5ba0, 0x3f5bfb, 0x3f5c18, 0x3f5d19, 0x3f5d3b, 0x3f5d40, 0x3f5e18,
    0x3f5ef9, 0x3f5f20, 0x3f6017, 0x3f7260, 0x3f7297, 0x3f797b, 0x3f7e17, 0x3f7f40, 0x3fffc2,
    0x400005, 0x54daf7, 0x54dbd8, 0x54dc00, 0x54e00b, 0x56e6b8, 0x56e739, 0x56e740, 0x56e80c,
    0x5703c0, 0x570411, 0x59d440, 0x59d613, 0x5d7c20, 0x5d7e1a, 0x5dcbc0, 0x5f0005, 0x5f43c0,
    0x5fffc2, 0x600017, 0x626960, 0x626a19, 0x647600, 0x7fffc2, 0x800000, 0x9fffc2, 0xa00000,
    0xbfffc2, 0xc00000, 0xdfffc2, 0xe00000, 0xffffc2, 0x1000000, 0x11fffc2, 0x1200000, 0x13fffc2,
    0x1400000, 0x15fffc2, 0x1600000, 0x17fffc2, 0x1800000, 0x19fffc2, 0x1a00000, 0x1bfffc2,
    0x1c00000, 0x1c00025, 0x1c00040, 0x1c00405, 0x1c01000, 0x1c02007, 0x1c03e00, 0x1dfffc2]

/-- All runs. -/
def runs : List Nat :=
  (runs1 ++ runs2 ++ runs3).toList

/-- The characters that a version has. -/
def set (a : Age) : CharSet :=
  .ofRanges (Runs.marked 32 (fun mark => 0 < mark && mark ≤ a.number) runs)

end Age

end Graft.CharProperty
