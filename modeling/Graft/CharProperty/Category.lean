import Graft.CharProperty.Runs

/-!
The general category of every character, in version 16 of Unicode.

Categories are given by runs, with 32 as the radix and the number of the category as the
mark. The mark 30 stands for runs of single letters, of which every other one, from the
first on, is upper case and the rest lower case.
-/

set_option autoImplicit false

namespace Graft.CharProperty

/-- The general categories, in the order of their numbers. -/
inductive Category where
  /-- Upper-case letters. -/
  | lu
  /-- Lower-case letters. -/
  | ll
  /-- Title-case letters. -/
  | lt
  /-- Modifier letters. -/
  | lm
  /-- Other letters. -/
  | lo
  /-- Marks without width. -/
  | mn
  /-- Marks with width. -/
  | mc
  /-- Enclosing marks. -/
  | me
  /-- Decimal digits. -/
  | nd
  /-- Numerals that are letters. -/
  | nl
  /-- Other numerals. -/
  | no
  /-- Connecting punctuation. -/
  | pc
  /-- Dashes. -/
  | pd
  /-- Opening punctuation. -/
  | ps
  /-- Closing punctuation. -/
  | pe
  /-- Initial quotes. -/
  | pi
  /-- Final quotes. -/
  | pf
  /-- Other punctuation. -/
  | po
  /-- Mathematical symbols. -/
  | sm
  /-- Currency symbols. -/
  | sc
  /-- Modifier symbols. -/
  | sk
  /-- Other symbols. -/
  | so
  /-- Spaces. -/
  | zs
  /-- The line separator. -/
  | zl
  /-- The paragraph separator. -/
  | zp
  /-- Control characters. -/
  | cc
  /-- Format characters. -/
  | cf
  /-- Surrogates, which are no characters. -/
  | cs
  /-- Private use. -/
  | co
  /-- Unassigned code points. -/
  | cn
  deriving Repr, DecidableEq, Inhabited

namespace Category

/-- The first part of the runs. -/
def runs1 : Array Nat := #[
    0x19, 0x416, 0x431, 0x493, 0x4b1, 0x50d, 0x52e, 0x551, 0x572, 0x591, 0x5ac, 0x5d1, 0x608,
    0x751, 0x792, 0x7f1, 0x820, 0xb6d, 0xb91, 0xbae, 0xbd4, 0xbeb, 0xc14, 0xc21, 0xf6d, 0xf92,
    0xfae, 0xfd2, 0xff9, 0x1416, 0x1431, 0x1453, 0x14d5, 0x14f1, 0x1514, 0x1535, 0x1544, 0x156f,
    0x1592, 0x15ba, 0x15d5, 0x15f4, 0x1615, 0x1632, 0x164a, 0x1694, 0x16a1, 0x16d1, 0x1714, 0x172a,
    0x1744, 0x1770, 0x178a, 0x17f1, 0x1800, 0x1af2, 0x1b00, 0x1be1, 0x1ef2, 0x1f01, 0x201e, 0x26e1,
    0x273e, 0x2901, 0x295e, 0x2f00, 0x2f41, 0x2f7e, 0x2fc1, 0x3020, 0x3061, 0x3080, 0x30a1, 0x30c0,
    0x3101, 0x3120, 0x3181, 0x31c0, 0x3241, 0x3260, 0x32a1, 0x32c0, 0x3321, 0x3380, 0x33c1, 0x33e0,
    0x3421, 0x345e, 0x34c0, 0x3501, 0x3520, 0x3541, 0x3580, 0x35a1, 0x35c0, 0x3601, 0x3620, 0x3681,
    0x36a0, 0x36c1, 0x36e0, 0x3721, 0x3764, 0x3780, 0x37a1, 0x3804, 0x3880, 0x38a2, 0x38c1, 0x38e0,
    0x3902, 0x3921, 0x3940, 0x3962, 0x3981, 0x39be, 0x3b81, 0x3bde, 0x3de1, 0x3e20, 0x3e42, 0x3e61,
    0x3e80, 0x3ea1, 0x3ec0, 0x3f21, 0x3f5e, 0x4661, 0x4740, 0x4781, 0x47a0, 0x47e1, 0x4820, 0x4841,
    0x4860, 0x48e1, 0x491e, 0x49e1, 0x5284, 0x52a1, 0x5603, 0x5854, 0x58c3, 0x5a54, 0x5c03, 0x5cb4,
    0x5d83, 0x5db4, 0x5dc3, 0x5df4, 0x6005, 0x6e1e, 0x6e83, 0x6eb4, 0x6ec0, 0x6ee1, 0x6f1d, 0x6f43,
    0x6f61, 0x6fd1, 0x6fe0, 0x701d, 0x7094, 0x70c0, 0x70f1, 0x7100, 0x717d, 0x7180, 0x71bd, 0x71c0,
    0x7201, 0x7220, 0x745d, 0x7460, 0x7581, 0x79e0, 0x7a01, 0x7a40, 0x7aa1, 0x7b1e, 0x7de1, 0x7e80,
    0x7ea1, 0x7ed2, 0x7ee0, 0x7f01, 0x7f20, 0x7f61, 0x7fa0, 0x8601, 0x8c1e, 0x9055, 0x9065, 0x9107,
    0x915e, 0x9800, 0x9841, 0x987e, 0x99c1, 0x9a1e, 0xa61d, 0xa620, 0xaafd, 0xab23, 0xab51, 0xac01,
    0xb131, 0xb14c, 0xb17d, 0xb1b5, 0xb1f3, 0xb21d, 0xb225, 0xb7cc, 0xb7e5, 0xb811, 0xb825, 0xb871,
    0xb885, 0xb8d1, 0xb8e5, 0xb91d, 0xba04, 0xbd7d, 0xbde4, 0xbe71, 0xbebd, 0xc01a, 0xc0d2, 0xc131,
    0xc173, 0xc191, 0xc1d5, 0xc205, 0xc371, 0xc39a, 0xc3b1, 0xc404, 0xc803, 0xc824, 0xc965, 0xcc08,
    0xcd51, 0xcdc4, 0xce05, 0xce24, 0xda91, 0xdaa4, 0xdac5, 0xdbba, 0xdbd5, 0xdbe5, 0xdca3, 0xdce5,
    0xdd35, 0xdd45, 0xddc4, 0xde08, 0xdf44, 0xdfb5, 0xdfe4, 0xe011, 0xe1dd, 0xe1fa, 0xe204, 0xe225,
    0xe244, 0xe605, 0xe97d, 0xe9a4, 0xf4c5, 0xf624, 0xf65d, 0xf808, 0xf944, 0xfd65, 0xfe83, 0xfed5,
    0xfef1, 0xff43, 0xff7d, 0xffa5, 0xffd3, 0x10004, 0x102c5, 0x10343, 0x10365, 0x10483, 0x104a5,
    0x10503, 0x10525, 0x105dd, 0x10611, 0x107fd, 0x10804, 0x10b25, 0x10b9d, 0x10bd1, 0x10bfd,
    0x10c04, 0x10d7d, 0x10e04, 0x11114, 0x11124, 0x111fd, 0x1121a, 0x1125d, 0x112e5, 0x11404,
    0x11923, 0x11945, 0x11c5a, 0x11c65, 0x12066, 0x12084, 0x12745, 0x12766, 0x12785, 0x127a4,
    0x127c6, 0x12825, 0x12926, 0x129a5, 0x129c6, 0x12a04, 0x12a25, 0x12b04, 0x12c45, 0x12c91,
    0x12cc8, 0x12e11, 0x12e23, 0x12e44, 0x13025, 0x13046, 0x1309d, 0x130a4, 0x131bd, 0x131e4,
    0x1323d, 0x13264, 0x1353d, 0x13544, 0x1363d, 0x13644, 0x1367d, 0x136c4, 0x1375d, 0x13785,
    0x137a4, 0x137c6, 0x13825, 0x138bd, 0x138e6, 0x1393d, 0x13966, 0x139a5, 0x139c4, 0x139fd,
    0x13ae6, 0x13b1d, 0x13b84, 0x13bdd, 0x13be4, 0x13c45, 0x13c9d, 0x13cc8, 0x13e04, 0x13e53,
    0x13e8a, 0x13f55, 0x13f73, 0x13f84, 0x13fb1, 0x13fc5, 0x13ffd, 0x14025, 0x14066, 0x1409d,
    0x140a4, 0x1417d, 0x141e4, 0x1423d, 0x14264, 0x1453d, 0x14544, 0x1463d, 0x14644, 0x1469d,
    0x146a4, 0x146fd, 0x14704, 0x1475d, 0x14785, 0x147bd, 0x147c6, 0x14825, 0x1487d, 0x148e5,
    0x1493d, 0x14965, 0x149dd, 0x14a25, 0x14a5d, 0x14b24, 0x14bbd, 0x14bc4, 0x14bfd, 0x14cc8,
    0x14e05, 0x14e44, 0x14ea5, 0x14ed1, 0x14efd, 0x15025, 0x15066, 0x1509d, 0x150a4, 0x151dd,
    0x151e4, 0x1525d, 0x15264, 0x1553d, 0x15544, 0x1563d, 0x15644, 0x1569d, 0x156a4, 0x1575d,
    0x15785, 0x157a4, 0x157c6, 0x15825, 0x158dd, 0x158e5, 0x15926, 0x1595d, 0x15966, 0x159a5,
    0x159dd, 0x15a04, 0x15a3d, 0x15c04, 0x15c45, 0x15c9d, 0x15cc8, 0x15e11, 0x15e33, 0x15e5d,
    0x15f24, 0x15f45, 0x1601d, 0x16025, 0x16046, 0x1609d, 0x160a4, 0x161bd, 0x161e4, 0x1623d,
    0x16264, 0x1653d, 0x16544, 0x1663d, 0x16644, 0x1669d, 0x166a4, 0x1675d, 0x16785, 0x167a4,
    0x167c6, 0x167e5, 0x16806, 0x16825, 0x168bd, 0x168e6, 0x1693d, 0x16966, 0x169a5, 0x169dd,
    0x16aa5, 0x16ae6, 0x16b1d, 0x16b84, 0x16bdd, 0x16be4, 0x16c45, 0x16c9d, 0x16cc8, 0x16e15,
    0x16e24, 0x16e4a, 0x16f1d, 0x17045, 0x17064, 0x1709d, 0x170a4, 0x1717d, 0x171c4, 0x1723d,
    0x17244, 0x172dd, 0x17324, 0x1737d, 0x17384, 0x173bd, 0x173c4, 0x1741d, 0x17464, 0x174bd,
    0x17504, 0x1757d, 0x175c4, 0x1775d, 0x177c6, 0x17805, 0x17826, 0x1787d, 0x178c6, 0x1793d,
    0x17946, 0x179a5, 0x179dd, 0x17a04, 0x17a3d, 0x17ae6, 0x17b1d, 0x17cc8, 0x17e0a, 0x17e75,
    0x17f33, 0x17f55, 0x17f7d, 0x18005, 0x18026, 0x18085, 0x180a4, 0x181bd, 0x181c4, 0x1823d,
    0x18244, 0x1853d, 0x18544, 0x1875d, 0x18785, 0x187a4, 0x187c5, 0x18826, 0x188bd, 0x188c5,
    0x1893d, 0x18945, 0x189dd, 0x18aa5, 0x18afd, 0x18b04, 0x18b7d, 0x18ba4, 0x18bdd, 0x18c04,
    0x18c45, 0x18c9d, 0x18cc8, 0x18e1d, 0x18ef1, 0x18f0a, 0x18ff5, 0x19004, 0x19025, 0x19046,
    0x19091, 0x190a4, 0x191bd, 0x191c4, 0x1923d, 0x19244, 0x1953d, 0x19544, 0x1969d, 0x196a4,
    0x1975d, 0x19785, 0x197a4, 0x197c6, 0x197e5, 0x19806, 0x198bd, 0x198c5, 0x198e6, 0x1993d,
    0x19946, 0x19985, 0x199dd, 0x19aa6, 0x19afd, 0x19ba4, 0x19bfd, 0x19c04, 0x19c45, 0x19c9d,
    0x19cc8, 0x19e1d, 0x19e24, 0x19e66, 0x19e9d, 0x1a005, 0x1a046, 0x1a084, 0x1a1bd, 0x1a1c4,
    0x1a23d, 0x1a244, 0x1a765, 0x1a7a4, 0x1a7c6, 0x1a825, 0x1a8bd, 0x1a8c6, 0x1a93d, 0x1a946,
    0x1a9a5, 0x1a9c4, 0x1a9f5, 0x1aa1d, 0x1aa84, 0x1aae6, 0x1ab0a, 0x1abe4, 0x1ac45, 0x1ac9d,
    0x1acc8, 0x1ae0a, 0x1af35, 0x1af44, 0x1b01d, 0x1b025, 0x1b046, 0x1b09d, 0x1b0a4, 0x1b2fd,
    0x1b344, 0x1b65d, 0x1b664, 0x1b79d, 0x1b7a4, 0x1b7dd, 0x1b804, 0x1b8fd, 0x1b945, 0x1b97d,
    0x1b9e6, 0x1ba45, 0x1babd, 0x1bac5, 0x1bafd, 0x1bb06, 0x1bc1d, 0x1bcc8, 0x1be1d, 0x1be46,
    0x1be91, 0x1bebd, 0x1c024, 0x1c625, 0x1c644, 0x1c685, 0x1c77d, 0x1c7f3, 0x1c804, 0x1c8c3,
    0x1c8e5, 0x1c9f1, 0x1ca08, 0x1cb51, 0x1cb9d, 0x1d024, 0x1d07d, 0x1d084, 0x1d0bd, 0x1d0c4,
    0x1d17d, 0x1d184, 0x1d49d, 0x1d4a4, 0x1d4dd, 0x1d4e4, 0x1d625, 0x1d644, 0x1d685, 0x1d7a4,
    0x1d7dd, 0x1d804, 0x1d8bd, 0x1d8c3, 0x1d8fd, 0x1d905, 0x1d9fd, 0x1da08, 0x1db5d, 0x1db84,
    0x1dc1d, 0x1e004, 0x1e035, 0x1e091, 0x1e275, 0x1e291, 0x1e2b5, 0x1e305, 0x1e355, 0x1e408,
    0x1e54a, 0x1e695, 0x1e6a5, 0x1e6d5, 0x1e6e5, 0x1e715, 0x1e725, 0x1e74d, 0x1e76e, 0x1e78d,
    0x1e7ae, 0x1e7c6, 0x1e804, 0x1e91d, 0x1e924, 0x1edbd, 0x1ee25, 0x1efe6, 0x1f005, 0x1f0b1,
    0x1f0c5, 0x1f104, 0x1f1a5, 0x1f31d, 0x1f325, 0x1f7bd, 0x1f7d5, 0x1f8c5, 0x1f8f5, 0x1f9bd,
    0x1f9d5, 0x1fa11, 0x1fab5, 0x1fb31, 0x1fb7d, 0x20004, 0x20566, 0x205a5, 0x20626, 0x20645,
    0x20706, 0x20725, 0x20766, 0x207a5, 0x207e4, 0x20808, 0x20951, 0x20a04, 0x20ac6, 0x20b05,
    0x20b44, 0x20bc5, 0x20c24, 0x20c46, 0x20ca4, 0x20ce6, 0x20dc4, 0x20e25, 0x20ea4, 0x21045,
    0x21066, 0x210a5, 0x210e6, 0x211a5, 0x211c4, 0x211e6, 0x21208, 0x21346, 0x213a5, 0x213d5,
    0x21400, 0x218dd, 0x218e0]

/-- The second part of the runs. -/
def runs2 : Array Nat := #[
    0x2191d, 0x219a0, 0x219dd, 0x21a01, 0x21f71, 0x21f83, 0x21fa1, 0x22004, 0x2493d, 0x24944,
    0x249dd, 0x24a04, 0x24afd, 0x24b04, 0x24b3d, 0x24b44, 0x24bdd, 0x24c04, 0x2513d, 0x25144,
    0x251dd, 0x25204, 0x2563d, 0x25644, 0x256dd, 0x25704, 0x257fd, 0x25804, 0x2583d, 0x25844,
    0x258dd, 0x25904, 0x25afd, 0x25b04, 0x2623d, 0x26244, 0x262dd, 0x26304, 0x26b7d, 0x26ba5,
    0x26c11, 0x26d2a, 0x26fbd, 0x27004, 0x27215, 0x2735d, 0x27400, 0x27edd, 0x27f01, 0x27fdd,
    0x2800c, 0x28024, 0x2cdb5, 0x2cdd1, 0x2cde4, 0x2d016, 0x2d024, 0x2d36d, 0x2d38e, 0x2d3bd,
    0x2d404, 0x2dd71, 0x2ddc9, 0x2de24, 0x2df3d, 0x2e004, 0x2e245, 0x2e2a6, 0x2e2dd, 0x2e3e4,
    0x2e645, 0x2e686, 0x2e6b1, 0x2e6fd, 0x2e804, 0x2ea45, 0x2ea9d, 0x2ec04, 0x2edbd, 0x2edc4,
    0x2ee3d, 0x2ee45, 0x2ee9d, 0x2f004, 0x2f685, 0x2f6c6, 0x2f6e5, 0x2f7c6, 0x2f8c5, 0x2f8e6,
    0x2f925, 0x2fa91, 0x2fae3, 0x2fb11, 0x2fb73, 0x2fb84, 0x2fba5, 0x2fbdd, 0x2fc08, 0x2fd5d,
    0x2fe0a, 0x2ff5d, 0x30011, 0x300cc, 0x300f1, 0x30165, 0x301da, 0x301e5, 0x30208, 0x3035d,
    0x30404, 0x30863, 0x30884, 0x30f3d, 0x31004, 0x310a5, 0x310e4, 0x31525, 0x31544, 0x3157d,
    0x31604, 0x31edd, 0x32004, 0x323fd, 0x32405, 0x32466, 0x324e5, 0x32526, 0x3259d, 0x32606,
    0x32645, 0x32666, 0x32725, 0x3279d, 0x32815, 0x3283d, 0x32891, 0x328c8, 0x32a04, 0x32ddd,
    0x32e04, 0x32ebd, 0x33004, 0x3359d, 0x33604, 0x3395d, 0x33a08, 0x33b4a, 0x33b7d, 0x33bd5,
    0x34004, 0x342e5, 0x34326, 0x34365, 0x3439d, 0x343d1, 0x34404, 0x34aa6, 0x34ac5, 0x34ae6,
    0x34b05, 0x34bfd, 0x34c05, 0x34c26, 0x34c45, 0x34c66, 0x34ca5, 0x34da6, 0x34e65, 0x34fbd,
    0x34fe5, 0x35008, 0x3515d, 0x35208, 0x3535d, 0x35411, 0x354e3, 0x35511, 0x355dd, 0x35605,
    0x357c7, 0x357e5, 0x359fd, 0x36005, 0x36086, 0x360a4, 0x36685, 0x366a6, 0x366c5, 0x36766,
    0x36785, 0x367a6, 0x36845, 0x36866, 0x368a4, 0x369bd, 0x369d1, 0x36a08, 0x36b51, 0x36c35,
    0x36d65, 0x36e95, 0x36fb1, 0x37005, 0x37046, 0x37064, 0x37426, 0x37445, 0x374c6, 0x37505,
    0x37546, 0x37565, 0x375c4, 0x37608, 0x37744, 0x37cc5, 0x37ce6, 0x37d05, 0x37d46, 0x37da5,
    0x37dc6, 0x37de5, 0x37e46, 0x37e9d, 0x37f91, 0x38004, 0x38486, 0x38585, 0x38686, 0x386c5,
    0x3871d, 0x38771, 0x38808, 0x3895d, 0x389a4, 0x38a08, 0x38b44, 0x38f03, 0x38fd1, 0x39001,
    0x39120, 0x39141, 0x3917d, 0x39200, 0x3977d, 0x397a0, 0x39811, 0x3991d, 0x39a05, 0x39a71,
    0x39a85, 0x39c26, 0x39c45, 0x39d24, 0x39da5, 0x39dc4, 0x39e85, 0x39ea4, 0x39ee6, 0x39f05,
    0x39f44, 0x39f7d, 0x3a001, 0x3a583, 0x3ad61, 0x3af03, 0x3af21, 0x3b363, 0x3b805, 0x3c01e,
    0x3d2a1, 0x3d3de, 0x3dfe1, 0x3e100, 0x3e201, 0x3e2dd, 0x3e300, 0x3e3dd, 0x3e401, 0x3e500,
    0x3e601, 0x3e700, 0x3e801, 0x3e8dd, 0x3e900, 0x3e9dd, 0x3ea01, 0x3eb1d, 0x3eb20, 0x3eb5d,
    0x3eb60, 0x3eb9d, 0x3eba0, 0x3ebdd, 0x3ebe0, 0x3ec01, 0x3ed00, 0x3ee01, 0x3efdd, 0x3f001,
    0x3f102, 0x3f201, 0x3f302, 0x3f401, 0x3f502, 0x3f601, 0x3f6bd, 0x3f6c1, 0x3f700, 0x3f782,
    0x3f7b4, 0x3f7c1, 0x3f7f4, 0x3f841, 0x3f8bd, 0x3f8c1, 0x3f900, 0x3f982, 0x3f9b4, 0x3fa01,
    0x3fa9d, 0x3fac1, 0x3fb00, 0x3fb9d, 0x3fbb4, 0x3fc01, 0x3fd00, 0x3fdb4, 0x3fe1d, 0x3fe41,
    0x3febd, 0x3fec1, 0x3ff00, 0x3ff82, 0x3ffb4, 0x3fffd, 0x40016, 0x4017a, 0x4020c, 0x402d1,
    0x4030f, 0x40330, 0x4034d, 0x4036f, 0x403b0, 0x403cd, 0x403ef, 0x40411, 0x40517, 0x40538,
    0x4055a, 0x405f6, 0x40611, 0x4072f, 0x40750, 0x40771, 0x407eb, 0x40831, 0x40892, 0x408ad,
    0x408ce, 0x408f1, 0x40a52, 0x40a71, 0x40a8b, 0x40ab1, 0x40bf6, 0x40c1a, 0x40cbd, 0x40cda,
    0x40e0a, 0x40e23, 0x40e5d, 0x40e8a, 0x40f52, 0x40fad, 0x40fce, 0x40fe3, 0x4100a, 0x41152,
    0x411ad, 0x411ce, 0x411fd, 0x41203, 0x413bd, 0x41413, 0x4183d, 0x41a05, 0x41ba7, 0x41c25,
    0x41c47, 0x41ca5, 0x41e3d, 0x42015, 0x42040, 0x42075, 0x420e0, 0x42115, 0x42141, 0x42160,
    0x421c1, 0x42200, 0x42261, 0x42295, 0x422a0, 0x422d5, 0x42312, 0x42320, 0x423d5, 0x42480,
    0x424b5, 0x424c0, 0x424f5, 0x42500, 0x42535, 0x42540, 0x425d5, 0x425e1, 0x42600, 0x42681,
    0x426a4, 0x42721, 0x42755, 0x42781, 0x427c0, 0x42812, 0x428a0, 0x428c1, 0x42955, 0x42972,
    0x42995, 0x429c1, 0x429f5, 0x42a0a, 0x42c09, 0x43060, 0x43081, 0x430a9, 0x4312a, 0x43155,
    0x4319d, 0x43212, 0x432b5, 0x43352, 0x43395, 0x43412, 0x43435, 0x43472, 0x43495, 0x434d2,
    0x434f5, 0x435d2, 0x435f5, 0x439d2, 0x43a15, 0x43a52, 0x43a75, 0x43a92, 0x43ab5, 0x43e92,
    0x46015, 0x4610d, 0x4612e, 0x4614d, 0x4616e, 0x46195, 0x46412, 0x46455, 0x4652d, 0x4654e,
    0x46575, 0x46f92, 0x46fb5, 0x47372, 0x47695, 0x47b92, 0x47c55, 0x4855d, 0x48815, 0x4897d,
    0x48c0a, 0x49395, 0x49d4a, 0x4a015, 0x4b6f2, 0x4b715, 0x4b832, 0x4b855, 0x4bf12, 0x4c015,
    0x4cdf2, 0x4ce15, 0x4ed0d, 0x4ed2e, 0x4ed4d, 0x4ed6e, 0x4ed8d, 0x4edae, 0x4edcd, 0x4edee,
    0x4ee0d, 0x4ee2e, 0x4ee4d, 0x4ee6e, 0x4ee8d, 0x4eeae, 0x4eeca, 0x4f295, 0x4f812, 0x4f8ad,
    0x4f8ce, 0x4f8f2, 0x4fccd, 0x4fcee, 0x4fd0d, 0x4fd2e, 0x4fd4d, 0x4fd6e, 0x4fd8d, 0x4fdae,
    0x4fdcd, 0x4fdee, 0x4fe12, 0x50015, 0x52012, 0x5306d, 0x5308e, 0x530ad, 0x530ce, 0x530ed,
    0x5310e, 0x5312d, 0x5314e, 0x5316d, 0x5318e, 0x531ad, 0x531ce, 0x531ed, 0x5320e, 0x5322d,
    0x5324e, 0x5326d, 0x5328e, 0x532ad, 0x532ce, 0x532ed, 0x5330e, 0x53332, 0x53b0d, 0x53b2e,
    0x53b4d, 0x53b6e, 0x53b92, 0x53f8d, 0x53fae, 0x53fd2, 0x56015, 0x56612, 0x568b5, 0x568f2,
    0x569b5, 0x56e9d, 0x56ed5, 0x572dd, 0x572f5, 0x58000, 0x58601, 0x58c00, 0x58c21, 0x58c40,
    0x58ca1, 0x58cfe, 0x58da0, 0x58e21, 0x58e40, 0x58e61, 0x58ea0, 0x58ec1, 0x58f83, 0x58fc0,
    0x59021, 0x5905e, 0x59c61, 0x59cb5, 0x59d7e, 0x59de5, 0x59e40, 0x59e61, 0x59e9d, 0x59f31,
    0x59faa, 0x59fd1, 0x5a001, 0x5a4dd, 0x5a4e1, 0x5a51d, 0x5a5a1, 0x5a5dd, 0x5a604, 0x5ad1d,
    0x5ade3, 0x5ae11, 0x5ae3d, 0x5afe5, 0x5b004, 0x5b2fd, 0x5b404, 0x5b4fd, 0x5b504, 0x5b5fd,
    0x5b604, 0x5b6fd, 0x5b704, 0x5b7fd, 0x5b804, 0x5b8fd, 0x5b904, 0x5b9fd, 0x5ba04, 0x5bafd,
    0x5bb04, 0x5bbfd, 0x5bc05, 0x5c011, 0x5c04f, 0x5c070, 0x5c08f, 0x5c0b0, 0x5c0d1, 0x5c12f,
    0x5c150, 0x5c171, 0x5c18f, 0x5c1b0, 0x5c1d1, 0x5c2ec, 0x5c311, 0x5c34c, 0x5c371, 0x5c38f,
    0x5c3b0, 0x5c3d1, 0x5c40f, 0x5c430, 0x5c44d, 0x5c46e, 0x5c48d, 0x5c4ae, 0x5c4cd, 0x5c4ee,
    0x5c50d, 0x5c52e, 0x5c551, 0x5c5e3, 0x5c611, 0x5c74c, 0x5c791, 0x5c80c, 0x5c831, 0x5c84d,
    0x5c871, 0x5ca15, 0x5ca51, 0x5caad, 0x5cace, 0x5caed, 0x5cb0e, 0x5cb2d, 0x5cb4e, 0x5cb6d,
    0x5cb8e, 0x5cbac, 0x5cbdd, 0x5d015, 0x5d35d, 0x5d375, 0x5de9d, 0x5e015, 0x5fadd, 0x5fe15,
    0x60016, 0x60031, 0x60095, 0x600a3, 0x600c4, 0x600e9, 0x6010d, 0x6012e, 0x6014d, 0x6016e,
    0x6018d, 0x601ae, 0x601cd, 0x601ee, 0x6020d, 0x6022e, 0x60255, 0x6028d, 0x602ae, 0x602cd,
    0x602ee, 0x6030d, 0x6032e, 0x6034d, 0x6036e, 0x6038c, 0x603ad, 0x603ce, 0x60415, 0x60429,
    0x60545, 0x605c6, 0x6060c, 0x60623, 0x606d5, 0x60709, 0x60763, 0x60784, 0x607b1, 0x607d5,
    0x6081d, 0x60824, 0x612fd, 0x61325, 0x61374, 0x613a3, 0x613e4, 0x6140c, 0x61424, 0x61f71,
    0x61f83, 0x61fe4, 0x6201d, 0x620a4, 0x6261d, 0x62624, 0x631fd, 0x63215, 0x6324a, 0x632d5,
    0x63404, 0x63815, 0x63cdd, 0x63df5, 0x63e04, 0x64015, 0x643fd, 0x6440a, 0x64555, 0x6490a,
    0x64a15, 0x64a2a, 0x64c15, 0x6500a, 0x65155, 0x6562a, 0x65815, 0x68004, 0x9b815, 0x9c004,
    0x1402a3, 0x1402c4, 0x1491bd, 0x149215, 0x1498fd, 0x149a04, 0x149f03, 0x149fd1, 0x14a004,
    0x14c183, 0x14c1b1, 0x14c204, 0x14c408, 0x14c544, 0x14c59d, 0x14c81e, 0x14cdc4, 0x14cde5,
    0x14ce07, 0x14ce71, 0x14ce85, 0x14cfd1]

/-- The third part of the runs. -/
def runs3 : Array Nat := #[
    0x14cfe3, 0x14d01e, 0x14d383, 0x14d3c5, 0x14d404, 0x14dcc9, 0x14de05, 0x14de51, 0x14df1d,
    0x14e014, 0x14e2e3, 0x14e414, 0x14e45e, 0x14e5e1, 0x14e65e, 0x14ee03, 0x14ee21, 0x14ef3e,
    0x14efa0, 0x14efe1, 0x14f01e, 0x14f103, 0x14f134, 0x14f17e, 0x14f1e4, 0x14f21e, 0x14f261,
    0x14f2de, 0x14f540, 0x14f5e1, 0x14f600, 0x14f6a1, 0x14f6de, 0x14f880, 0x14f901, 0x14f920,
    0x14f941, 0x14f960, 0x14f9a1, 0x14f9dd, 0x14fa00, 0x14fa21, 0x14fa5d, 0x14fa61, 0x14fa9d,
    0x14faa1, 0x14fade, 0x14fbbd, 0x14fe43, 0x14fea0, 0x14fec1, 0x14fee4, 0x14ff03, 0x14ff41,
    0x14ff64, 0x150045, 0x150064, 0x1500c5, 0x1500e4, 0x150165, 0x150184, 0x150466, 0x1504a5,
    0x1504e6, 0x150515, 0x150585, 0x1505bd, 0x15060a, 0x1506d5, 0x150713, 0x150735, 0x15075d,
    0x150804, 0x150e91, 0x150f1d, 0x151006, 0x151044, 0x151686, 0x151885, 0x1518dd, 0x1519d1,
    0x151a08, 0x151b5d, 0x151c05, 0x151e44, 0x151f11, 0x151f64, 0x151f91, 0x151fa4, 0x151fe5,
    0x152008, 0x152144, 0x1524c5, 0x1525d1, 0x152604, 0x1528e5, 0x152a46, 0x152a9d, 0x152bf1,
    0x152c04, 0x152fbd, 0x153005, 0x153066, 0x153084, 0x153665, 0x153686, 0x1536c5, 0x153746,
    0x153785, 0x1537c6, 0x153831, 0x1539dd, 0x1539e3, 0x153a08, 0x153b5d, 0x153bd1, 0x153c04,
    0x153ca5, 0x153cc3, 0x153ce4, 0x153e08, 0x153f44, 0x153ffd, 0x154004, 0x154525, 0x1545e6,
    0x154625, 0x154666, 0x1546a5, 0x1546fd, 0x154804, 0x154865, 0x154884, 0x154985, 0x1549a6,
    0x1549dd, 0x154a08, 0x154b5d, 0x154b91, 0x154c04, 0x154e03, 0x154e24, 0x154ef5, 0x154f44,
    0x154f66, 0x154f85, 0x154fa6, 0x154fc4, 0x155605, 0x155624, 0x155645, 0x1556a4, 0x1556e5,
    0x155724, 0x1557c5, 0x155804, 0x155825, 0x155844, 0x15587d, 0x155b64, 0x155ba3, 0x155bd1,
    0x155c04, 0x155d66, 0x155d85, 0x155dc6, 0x155e11, 0x155e44, 0x155e63, 0x155ea6, 0x155ec5,
    0x155efd, 0x156024, 0x1560fd, 0x156124, 0x1561fd, 0x156224, 0x1562fd, 0x156404, 0x1564fd,
    0x156504, 0x1565fd, 0x156601, 0x156b74, 0x156b83, 0x156c01, 0x156d23, 0x156d54, 0x156d9d,
    0x156e01, 0x157804, 0x157c66, 0x157ca5, 0x157cc6, 0x157d05, 0x157d26, 0x157d71, 0x157d86,
    0x157da5, 0x157ddd, 0x157e08, 0x157f5d, 0x158004, 0x1af49d, 0x1af604, 0x1af8fd, 0x1af964,
    0x1aff9d, 0x1b001b, 0x1c001c, 0x1f2004, 0x1f4ddd, 0x1f4e04, 0x1f5b5d, 0x1f6001, 0x1f60fd,
    0x1f6261, 0x1f631d, 0x1f63a4, 0x1f63c5, 0x1f63e4, 0x1f6532, 0x1f6544, 0x1f66fd, 0x1f6704,
    0x1f67bd, 0x1f67c4, 0x1f67fd, 0x1f6804, 0x1f685d, 0x1f6864, 0x1f68bd, 0x1f68c4, 0x1f7654,
    0x1f787d, 0x1f7a64, 0x1fa7ce, 0x1fa7ed, 0x1fa815, 0x1faa04, 0x1fb21d, 0x1fb244, 0x1fb91d,
    0x1fb9f5, 0x1fba1d, 0x1fbe04, 0x1fbf93, 0x1fbfb5, 0x1fc005, 0x1fc211, 0x1fc2ed, 0x1fc30e,
    0x1fc331, 0x1fc35d, 0x1fc405, 0x1fc611, 0x1fc62c, 0x1fc66b, 0x1fc6ad, 0x1fc6ce, 0x1fc6ed,
    0x1fc70e, 0x1fc72d, 0x1fc74e, 0x1fc76d, 0x1fc78e, 0x1fc7ad, 0x1fc7ce, 0x1fc7ed, 0x1fc80e,
    0x1fc82d, 0x1fc84e, 0x1fc86d, 0x1fc88e, 0x1fc8b1, 0x1fc8ed, 0x1fc90e, 0x1fc931, 0x1fc9ab,
    0x1fca11, 0x1fca7d, 0x1fca91, 0x1fcb0c, 0x1fcb2d, 0x1fcb4e, 0x1fcb6d, 0x1fcb8e, 0x1fcbad,
    0x1fcbce, 0x1fcbf1, 0x1fcc52, 0x1fcc6c, 0x1fcc92, 0x1fccfd, 0x1fcd11, 0x1fcd33, 0x1fcd51,
    0x1fcd9d, 0x1fce04, 0x1fcebd, 0x1fcec4, 0x1fdfbd, 0x1fdffa, 0x1fe01d, 0x1fe031, 0x1fe093,
    0x1fe0b1, 0x1fe10d, 0x1fe12e, 0x1fe151, 0x1fe172, 0x1fe191, 0x1fe1ac, 0x1fe1d1, 0x1fe208,
    0x1fe351, 0x1fe392, 0x1fe3f1, 0x1fe420, 0x1fe76d, 0x1fe791, 0x1fe7ae, 0x1fe7d4, 0x1fe7eb,
    0x1fe814, 0x1fe821, 0x1feb6d, 0x1feb92, 0x1febae, 0x1febd2, 0x1febed, 0x1fec0e, 0x1fec31,
    0x1fec4d, 0x1fec6e, 0x1fec91, 0x1fecc4, 0x1fee03, 0x1fee24, 0x1ff3c3, 0x1ff404, 0x1ff7fd,
    0x1ff844, 0x1ff91d, 0x1ff944, 0x1ffa1d, 0x1ffa44, 0x1ffb1d, 0x1ffb44, 0x1ffbbd, 0x1ffc13,
    0x1ffc52, 0x1ffc74, 0x1ffc95, 0x1ffcb3, 0x1ffcfd, 0x1ffd15, 0x1ffd32, 0x1ffdb5, 0x1ffdfd,
    0x1fff3a, 0x1fff95, 0x1fffdd, 0x200004, 0x20019d, 0x2001a4, 0x2004fd, 0x200504, 0x20077d,
    0x200784, 0x2007dd, 0x2007e4, 0x2009dd, 0x200a04, 0x200bdd, 0x201004, 0x201f7d, 0x202011,
    0x20207d, 0x2020ea, 0x20269d, 0x2026f5, 0x202809, 0x202eaa, 0x202f35, 0x20314a, 0x203195,
    0x2031fd, 0x203215, 0x2033bd, 0x203415, 0x20343d, 0x203a15, 0x203fa5, 0x203fdd, 0x205004,
    0x2053bd, 0x205404, 0x205a3d, 0x205c05, 0x205c2a, 0x205f9d, 0x206004, 0x20640a, 0x20649d,
    0x2065a4, 0x206829, 0x206844, 0x206949, 0x20697d, 0x206a04, 0x206ec5, 0x206f7d, 0x207004,
    0x2073dd, 0x2073f1, 0x207404, 0x20789d, 0x207904, 0x207a11, 0x207a29, 0x207add, 0x208000,
    0x208501, 0x208a04, 0x2093dd, 0x209408, 0x20955d, 0x209600, 0x209a9d, 0x209b01, 0x209f9d,
    0x20a004, 0x20a51d, 0x20a604, 0x20ac9d, 0x20adf1, 0x20ae00, 0x20af7d, 0x20af80, 0x20b17d,
    0x20b180, 0x20b27d, 0x20b280, 0x20b2dd, 0x20b2e1, 0x20b45d, 0x20b461, 0x20b65d, 0x20b661,
    0x20b75d, 0x20b761, 0x20b7bd, 0x20b804, 0x20be9d, 0x20c004, 0x20e6fd, 0x20e804, 0x20eadd,
    0x20ec04, 0x20ed1d, 0x20f003, 0x20f0dd, 0x20f0e3, 0x20f63d, 0x20f643, 0x20f77d, 0x210004,
    0x2100dd, 0x210104, 0x21013d, 0x210144, 0x2106dd, 0x2106e4, 0x21073d, 0x210784, 0x2107bd,
    0x2107e4, 0x210add, 0x210af1, 0x210b0a, 0x210c04, 0x210ef5, 0x210f2a, 0x211004, 0x2113fd,
    0x2114ea, 0x21161d, 0x211c04, 0x211e7d, 0x211e84, 0x211edd, 0x211f6a, 0x212004, 0x2122ca,
    0x21239d, 0x2123f1, 0x212404, 0x21275d, 0x2127f1, 0x21281d, 0x213004, 0x21371d, 0x21378a,
    0x2137c4, 0x21380a, 0x213a1d, 0x213a4a, 0x214004, 0x214025, 0x21409d, 0x2140a5, 0x2140fd,
    0x214185, 0x214204, 0x21429d, 0x2142a4, 0x21431d, 0x214324, 0x2146dd, 0x214705, 0x21477d,
    0x2147e5, 0x21480a, 0x21493d, 0x214a11, 0x214b3d, 0x214c04, 0x214faa, 0x214ff1, 0x215004,
    0x2153aa, 0x21541d, 0x215804, 0x215915, 0x215924, 0x215ca5, 0x215cfd, 0x215d6a, 0x215e11,
    0x215efd, 0x216004, 0x2166dd, 0x216731, 0x216804, 0x216add, 0x216b0a, 0x216c04, 0x216e7d,
    0x216f0a, 0x217004, 0x21725d, 0x217331, 0x2173bd, 0x21752a, 0x21761d, 0x218004, 0x21893d,
    0x219000, 0x21967d, 0x219801, 0x219e7d, 0x219f4a, 0x21a004, 0x21a485, 0x21a51d, 0x21a608,
    0x21a75d, 0x21a808, 0x21a944, 0x21a9c3, 0x21a9e4, 0x21aa00, 0x21acdd, 0x21ad25, 0x21adcc,
    0x21ade3, 0x21ae01, 0x21b0dd, 0x21b1d2, 0x21b21d, 0x21cc0a, 0x21cffd, 0x21d004, 0x21d55d,
    0x21d565, 0x21d5ac, 0x21d5dd, 0x21d604, 0x21d65d, 0x21d844, 0x21d8bd, 0x21df85, 0x21e004,
    0x21e3aa, 0x21e4e4, 0x21e51d, 0x21e604, 0x21e8c5, 0x21ea2a, 0x21eab1, 0x21eb5d, 0x21ee04,
    0x21f045, 0x21f0d1, 0x21f15d, 0x21f604, 0x21f8aa, 0x21f99d, 0x21fc04, 0x21fefd, 0x220006,
    0x220025, 0x220046, 0x220064, 0x220705, 0x2208f1, 0x2209dd, 0x220a4a, 0x220cc8, 0x220e05,
    0x220e24, 0x220e65, 0x220ea4, 0x220edd, 0x220fe5, 0x221046, 0x221064, 0x221606, 0x221665,
    0x2216e6, 0x221725, 0x221771, 0x2217ba, 0x2217d1, 0x221845, 0x22187d, 0x2219ba, 0x2219dd,
    0x221a04, 0x221d3d, 0x221e08, 0x221f5d, 0x222005, 0x222064, 0x2224e5, 0x222586, 0x2225a5,
    0x2226bd, 0x2226c8, 0x222811, 0x222884, 0x2228a6, 0x2228e4, 0x22291d, 0x222a04, 0x222e65,
    0x222e91, 0x222ec4, 0x222efd, 0x223005, 0x223046, 0x223064, 0x223666, 0x2236c5, 0x2237e6,
    0x223824, 0x2238b1, 0x223925, 0x2239b1, 0x2239c6, 0x2239e5, 0x223a08, 0x223b44, 0x223b71,
    0x223b84, 0x223bb1, 0x223c1d, 0x223c2a, 0x223ebd, 0x224004, 0x22425d, 0x224264, 0x224586,
    0x2245e5, 0x224646, 0x224685, 0x2246a6, 0x2246c5, 0x224711, 0x2247c5, 0x2247e4, 0x224825,
    0x22485d, 0x225004, 0x2250fd, 0x225104, 0x22513d, 0x225144, 0x2251dd, 0x2251e4, 0x2253dd,
    0x2253e4, 0x225531, 0x22555d, 0x225604, 0x225be5, 0x225c06, 0x225c65, 0x225d7d, 0x225e08,
    0x225f5d, 0x226005, 0x226046, 0x22609d, 0x2260a4, 0x2261bd, 0x2261e4, 0x22623d, 0x226264,
    0x22653d, 0x226544, 0x22663d, 0x226644, 0x22669d, 0x2266a4, 0x22675d, 0x226765, 0x2267a4,
    0x2267c6, 0x226805, 0x226826, 0x2268bd, 0x2268e6, 0x22693d, 0x226966, 0x2269dd, 0x226a04,
    0x226a3d, 0x226ae6, 0x226b1d, 0x226ba4, 0x226c46, 0x226c9d, 0x226cc5, 0x226dbd, 0x226e05,
    0x226ebd, 0x227004, 0x22715d, 0x227164, 0x22719d, 0x2271c4, 0x2271fd, 0x227204, 0x2276dd,
    0x2276e4, 0x227706, 0x227765, 0x22783d, 0x227846, 0x22787d, 0x2278a6, 0x2278dd, 0x2278e6,
    0x22797d, 0x227986, 0x2279c5, 0x2279e6, 0x227a05, 0x227a24, 0x227a45, 0x227a64, 0x227a91,
    0x227add, 0x227af1, 0x227b3d, 0x227c25, 0x227c7d, 0x228004, 0x2286a6, 0x228705]

/-- The fourth part of the runs. -/
def runs4 : Array Nat := #[
    0x228806, 0x228845, 0x2288a6, 0x2288c5, 0x2288e4, 0x228971, 0x228a08, 0x228b51, 0x228b9d,
    0x228bb1, 0x228bc5, 0x228be4, 0x228c5d, 0x229004, 0x229606, 0x229665, 0x229726, 0x229745,
    0x229766, 0x2297e5, 0x229826, 0x229845, 0x229884, 0x2298d1, 0x2298e4, 0x22991d, 0x229a08,
    0x229b5d, 0x22b004, 0x22b5e6, 0x22b645, 0x22b6dd, 0x22b706, 0x22b785, 0x22b7c6, 0x22b7e5,
    0x22b831, 0x22bb04, 0x22bb85, 0x22bbdd, 0x22c004, 0x22c606, 0x22c665, 0x22c766, 0x22c7a5,
    0x22c7c6, 0x22c7e5, 0x22c831, 0x22c884, 0x22c8bd, 0x22ca08, 0x22cb5d, 0x22cc11, 0x22cdbd,
    0x22d004, 0x22d565, 0x22d586, 0x22d5a5, 0x22d5c6, 0x22d605, 0x22d6c6, 0x22d6e5, 0x22d704,
    0x22d731, 0x22d75d, 0x22d808, 0x22d95d, 0x22da08, 0x22dc9d, 0x22e004, 0x22e37d, 0x22e3a5,
    0x22e3c6, 0x22e3e5, 0x22e406, 0x22e445, 0x22e4c6, 0x22e4e5, 0x22e59d, 0x22e608, 0x22e74a,
    0x22e791, 0x22e7f5, 0x22e804, 0x22e8fd, 0x230004, 0x230586, 0x2305e5, 0x230706, 0x230725,
    0x230771, 0x23079d, 0x231400, 0x231801, 0x231c08, 0x231d4a, 0x231e7d, 0x231fe4, 0x2320fd,
    0x232124, 0x23215d, 0x232184, 0x23229d, 0x2322a4, 0x2322fd, 0x232304, 0x232606, 0x2326dd,
    0x2326e6, 0x23273d, 0x232765, 0x2327a6, 0x2327c5, 0x2327e4, 0x232806, 0x232824, 0x232846,
    0x232865, 0x232891, 0x2328fd, 0x232a08, 0x232b5d, 0x233404, 0x23351d, 0x233544, 0x233a26,
    0x233a85, 0x233b1d, 0x233b45, 0x233b86, 0x233c05, 0x233c24, 0x233c51, 0x233c64, 0x233c86,
    0x233cbd, 0x234004, 0x234025, 0x234164, 0x234665, 0x234726, 0x234744, 0x234765, 0x2347f1,
    0x2348e5, 0x23491d, 0x234a04, 0x234a25, 0x234ae6, 0x234b25, 0x234b84, 0x235145, 0x2352e6,
    0x235305, 0x235351, 0x2353a4, 0x2353d1, 0x23547d, 0x235604, 0x235f3d, 0x236011, 0x23615d,
    0x237804, 0x237c31, 0x237c5d, 0x237e08, 0x237f5d, 0x238004, 0x23813d, 0x238144, 0x2385e6,
    0x238605, 0x2386fd, 0x238705, 0x2387c6, 0x2387e5, 0x238804, 0x238831, 0x2388dd, 0x238a08,
    0x238b4a, 0x238dbd, 0x238e11, 0x238e44, 0x23921d, 0x239245, 0x23951d, 0x239526, 0x239545,
    0x239626, 0x239645, 0x239686, 0x2396a5, 0x2396fd, 0x23a004, 0x23a0fd, 0x23a104, 0x23a15d,
    0x23a164, 0x23a625, 0x23a6fd, 0x23a745, 0x23a77d, 0x23a785, 0x23a7dd, 0x23a7e5, 0x23a8c4,
    0x23a8e5, 0x23a91d, 0x23aa08, 0x23ab5d, 0x23ac04, 0x23acdd, 0x23ace4, 0x23ad3d, 0x23ad44,
    0x23b146, 0x23b1fd, 0x23b205, 0x23b25d, 0x23b266, 0x23b2a5, 0x23b2c6, 0x23b2e5, 0x23b304,
    0x23b33d, 0x23b408, 0x23b55d, 0x23dc04, 0x23de65, 0x23dea6, 0x23def1, 0x23df3d, 0x23e005,
    0x23e044, 0x23e066, 0x23e084, 0x23e23d, 0x23e244, 0x23e686, 0x23e6c5, 0x23e77d, 0x23e7c6,
    0x23e805, 0x23e826, 0x23e845, 0x23e871, 0x23ea08, 0x23eb45, 0x23eb7d, 0x23f604, 0x23f63d,
    0x23f80a, 0x23fab5, 0x23fbb3, 0x23fc35, 0x23fe5d, 0x23fff1, 0x240004, 0x24735d, 0x248009,
    0x248dfd, 0x248e11, 0x248ebd, 0x249004, 0x24a89d, 0x25f204, 0x25fe31, 0x25fe7d, 0x260004,
    0x26861a, 0x268805, 0x268824, 0x2688e5, 0x268add, 0x268c04, 0x287f7d, 0x288004, 0x28c8fd,
    0x2c2004, 0x2c23c5, 0x2c2546, 0x2c25a5, 0x2c2608, 0x2c275d, 0x2d0004, 0x2d473d, 0x2d4804,
    0x2d4bfd, 0x2d4c08, 0x2d4d5d, 0x2d4dd1, 0x2d4e04, 0x2d57fd, 0x2d5808, 0x2d595d, 0x2d5a04,
    0x2d5ddd, 0x2d5e05, 0x2d5eb1, 0x2d5edd, 0x2d6004, 0x2d6605, 0x2d66f1, 0x2d6795, 0x2d6803,
    0x2d6891, 0x2d68b5, 0x2d68dd, 0x2d6a08, 0x2d6b5d, 0x2d6b6a, 0x2d6c5d, 0x2d6c64, 0x2d6f1d,
    0x2d6fa4, 0x2d721d, 0x2da803, 0x2da864, 0x2dad63, 0x2dadb1, 0x2dae08, 0x2daf5d, 0x2dc800,
    0x2dcc01, 0x2dd00a, 0x2dd2f1, 0x2dd37d, 0x2de004, 0x2de97d, 0x2de9e5, 0x2dea04, 0x2dea26,
    0x2df11d, 0x2df1e5, 0x2df263, 0x2df41d, 0x2dfc03, 0x2dfc51, 0x2dfc63, 0x2dfc85, 0x2dfcbd,
    0x2dfe06, 0x2dfe5d, 0x2e0004, 0x30ff1d, 0x310004, 0x319add, 0x319fe4, 0x31a13d, 0x35fe03,
    0x35fe9d, 0x35fea3, 0x35ff9d, 0x35ffa3, 0x35fffd, 0x360004, 0x36247d, 0x362644, 0x36267d,
    0x362a04, 0x362a7d, 0x362aa4, 0x362add, 0x362c84, 0x362d1d, 0x362e04, 0x365f9d, 0x378004,
    0x378d7d, 0x378e04, 0x378fbd, 0x379004, 0x37913d, 0x379204, 0x37935d, 0x379395, 0x3793a5,
    0x3793f1, 0x37941a, 0x37949d, 0x398015, 0x399e08, 0x399f5d, 0x39a015, 0x39d69d, 0x39e005,
    0x39e5dd, 0x39e605, 0x39e8fd, 0x39ea15, 0x39f89d, 0x3a0015, 0x3a1edd, 0x3a2015, 0x3a24fd,
    0x3a2535, 0x3a2ca6, 0x3a2ce5, 0x3a2d55, 0x3a2da6, 0x3a2e7a, 0x3a2f65, 0x3a3075, 0x3a30a5,
    0x3a3195, 0x3a3545, 0x3a35d5, 0x3a3d7d, 0x3a4015, 0x3a4845, 0x3a48b5, 0x3a48dd, 0x3a580a,
    0x3a5a9d, 0x3a5c0a, 0x3a5e9d, 0x3a6015, 0x3a6afd, 0x3a6c0a, 0x3a6f3d, 0x3a8000, 0x3a8341,
    0x3a8680, 0x3a89c1, 0x3a8abd, 0x3a8ac1, 0x3a8d00, 0x3a9041, 0x3a9380, 0x3a93bd, 0x3a93c0,
    0x3a941d, 0x3a9440, 0x3a947d, 0x3a94a0, 0x3a94fd, 0x3a9520, 0x3a95bd, 0x3a95c0, 0x3a96c1,
    0x3a975d, 0x3a9761, 0x3a979d, 0x3a97a1, 0x3a989d, 0x3a98a1, 0x3a9a00, 0x3a9d41, 0x3aa080,
    0x3aa0dd, 0x3aa0e0, 0x3aa17d, 0x3aa1a0, 0x3aa2bd, 0x3aa2c0, 0x3aa3bd, 0x3aa3c1, 0x3aa700,
    0x3aa75d, 0x3aa760, 0x3aa7fd, 0x3aa800, 0x3aa8bd, 0x3aa8c0, 0x3aa8fd, 0x3aa940, 0x3aaa3d,
    0x3aaa41, 0x3aad80, 0x3ab0c1, 0x3ab400, 0x3ab741, 0x3aba80, 0x3abdc1, 0x3ac100, 0x3ac441,
    0x3ac780, 0x3acac1, 0x3ace00, 0x3ad141, 0x3ad4dd, 0x3ad500, 0x3ad832, 0x3ad841, 0x3adb72,
    0x3adb81, 0x3adc40, 0x3adf72, 0x3adf81, 0x3ae2b2, 0x3ae2c1, 0x3ae380, 0x3ae6b2, 0x3ae6c1,
    0x3ae9f2, 0x3aea01, 0x3aeac0, 0x3aedf2, 0x3aee01, 0x3af132, 0x3af141, 0x3af200, 0x3af532,
    0x3af541, 0x3af872, 0x3af881, 0x3af940, 0x3af961, 0x3af99d, 0x3af9c8, 0x3b0015, 0x3b4005,
    0x3b46f5, 0x3b4765, 0x3b4db5, 0x3b4ea5, 0x3b4ed5, 0x3b5085, 0x3b50b5, 0x3b50f1, 0x3b519d,
    0x3b5365, 0x3b541d, 0x3b5425, 0x3b561d, 0x3be001, 0x3be144, 0x3be161, 0x3be3fd, 0x3be4a1,
    0x3be57d, 0x3c0005, 0x3c00fd, 0x3c0105, 0x3c033d, 0x3c0365, 0x3c045d, 0x3c0465, 0x3c04bd,
    0x3c04c5, 0x3c057d, 0x3c0603, 0x3c0ddd, 0x3c11e5, 0x3c121d, 0x3c2004, 0x3c25bd, 0x3c2605,
    0x3c26e3, 0x3c27dd, 0x3c2808, 0x3c295d, 0x3c29c4, 0x3c29f5, 0x3c2a1d, 0x3c5204, 0x3c55c5,
    0x3c55fd, 0x3c5804, 0x3c5d85, 0x3c5e08, 0x3c5f5d, 0x3c5ff3, 0x3c601d, 0x3c9a04, 0x3c9d63,
    0x3c9d85, 0x3c9e08, 0x3c9f5d, 0x3cba04, 0x3cbdc5, 0x3cbe04, 0x3cbe28, 0x3cbf7d, 0x3cbff1,
    0x3cc01d, 0x3cfc04, 0x3cfcfd, 0x3cfd04, 0x3cfd9d, 0x3cfda4, 0x3cfdfd, 0x3cfe04, 0x3cfffd,
    0x3d0004, 0x3d18bd, 0x3d18ea, 0x3d1a05, 0x3d1afd, 0x3d2000, 0x3d2441, 0x3d2885, 0x3d2963,
    0x3d299d, 0x3d2a08, 0x3d2b5d, 0x3d2bd1, 0x3d2c1d, 0x3d8e2a, 0x3d9595, 0x3d95aa, 0x3d9613,
    0x3d962a, 0x3d96bd, 0x3da02a, 0x3da5d5, 0x3da5ea, 0x3da7dd, 0x3dc004, 0x3dc09d, 0x3dc0a4,
    0x3dc41d, 0x3dc424, 0x3dc47d, 0x3dc484, 0x3dc4bd, 0x3dc4e4, 0x3dc51d, 0x3dc524, 0x3dc67d,
    0x3dc684, 0x3dc71d, 0x3dc724, 0x3dc75d, 0x3dc764, 0x3dc79d, 0x3dc844, 0x3dc87d, 0x3dc8e4,
    0x3dc91d, 0x3dc924, 0x3dc95d, 0x3dc964, 0x3dc99d, 0x3dc9a4, 0x3dca1d, 0x3dca24, 0x3dca7d,
    0x3dca84, 0x3dcabd, 0x3dcae4, 0x3dcb1d, 0x3dcb24, 0x3dcb5d, 0x3dcb64, 0x3dcb9d, 0x3dcba4,
    0x3dcbdd, 0x3dcbe4, 0x3dcc1d, 0x3dcc24, 0x3dcc7d, 0x3dcc84, 0x3dccbd, 0x3dcce4, 0x3dcd7d,
    0x3dcd84, 0x3dce7d, 0x3dce84, 0x3dcf1d, 0x3dcf24, 0x3dcfbd, 0x3dcfc4, 0x3dcffd, 0x3dd004,
    0x3dd15d, 0x3dd164, 0x3dd39d, 0x3dd424, 0x3dd49d, 0x3dd4a4, 0x3dd55d, 0x3dd564, 0x3dd79d,
    0x3dde12, 0x3dde5d, 0x3e0015, 0x3e059d, 0x3e0615, 0x3e129d, 0x3e1415, 0x3e15fd, 0x3e1635,
    0x3e181d, 0x3e1835, 0x3e1a1d, 0x3e1a35, 0x3e1edd, 0x3e200a, 0x3e21b5, 0x3e35dd, 0x3e3cd5,
    0x3e407d, 0x3e4215, 0x3e479d, 0x3e4815, 0x3e493d, 0x3e4a15, 0x3e4a5d, 0x3e4c15, 0x3e4cdd,
    0x3e6015, 0x3e7f74, 0x3e8015, 0x3edb1d, 0x3edb95, 0x3eddbd, 0x3ede15, 0x3edfbd, 0x3ee015,
    0x3eeefd, 0x3eef75, 0x3efb5d, 0x3efc15, 0x3efd9d, 0x3efe15, 0x3efe3d, 0x3f0015, 0x3f019d,
    0x3f0215, 0x3f091d, 0x3f0a15, 0x3f0b5d, 0x3f0c15, 0x3f111d, 0x3f1215, 0x3f15dd, 0x3f1615,
    0x3f179d, 0x3f1815, 0x3f185d, 0x3f2015, 0x3f4a9d, 0x3f4c15, 0x3f4ddd, 0x3f4e15, 0x3f4fbd,
    0x3f5015, 0x3f515d, 0x3f51f5, 0x3f58fd, 0x3f59d5, 0x3f5bbd, 0x3f5bf5, 0x3f5d5d, 0x3f5e15,
    0x3f5f3d, 0x3f6015, 0x3f727d, 0x3f7295, 0x3f7e08, 0x3f7f5d, 0x400004, 0x54dc1d, 0x54e004,
    0x56e75d, 0x56e804, 0x5703dd, 0x570404, 0x59d45d, 0x59d604, 0x5d7c3d, 0x5d7e04, 0x5dcbdd,
    0x5f0004, 0x5f43dd, 0x600004, 0x62697d, 0x626a04, 0x64761d, 0x1c0003a, 0x1c0005d, 0x1c0041a,
    0x1c0101d, 0x1c02005, 0x1c03e1d, 0x1e0001c, 0x1ffffdd, 0x200001c, 0x21fffdd]

/-- All runs. -/
def runs : List Nat :=
  (runs1 ++ runs2 ++ runs3 ++ runs4).toList

/-- The number of a category. -/
def number (c : Category) : Nat :=
  c.ctorIdx

/-- The mark of runs in which upper and lower case alternate. -/
def alternating : Nat := 30

/-- The code points of an alternating run at even places, or at odd ones. -/
def alternate (odd : Bool) (first next : Nat) : List (Nat × Nat) :=
  (List.range (next - first)).filterMap fun i =>
    if (i % 2 = 1) = odd then some (first + i, first + i + 1) else none

/-- The ranges of a run that belong to some categories. -/
def ofRun (wanted : List Nat) (first next mark : Nat) : List (Nat × Nat) :=
  if mark = alternating then
    match wanted.contains lu.number, wanted.contains ll.number with
    | true, true => [(first, next)]
    | true, false => alternate false first next
    | false, true => alternate true first next
    | false, false => []
  else if wanted.contains mark then [(first, next)]
  else []

/-- The characters of some categories. -/
def setOf (categories : List Category) : CharSet :=
  .ofRanges (Runs.flatMap 32 (ofRun (categories.map number)) runs)

end Category

end Graft.CharProperty
