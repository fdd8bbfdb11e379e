import Graft.Text.CharSet

/-!
Characters that differ in case only, in version 16 of Unicode.

Such characters form small groups, mostly pairs. Every character of a group leads to the
next greater one, and the greatest to the least, so that following the group from any of
its characters meets them all. The table holds ranges of characters that are as far from
their next ones; the distance 0 stands for ranges of neighbouring pairs.
-/

set_option autoImplicit false

namespace Graft.CharProperty.CaseFold

/-- The characters from one code point up to another, and how far the next ones are. -/
abbrev Range := Nat × Nat × Int

/-- The first half of the table. -/
def ranges1 : Array Range := #[
    (0x41, 0x5b, 32), (0x61, 0x6b, -32), (0x6b, 0x6c, 8383), (0x6c, 0x73, -32), (0x73, 0x74, 268),
    (0x74, 0x7b, -32), (0xb5, 0xb6, 743), (0xc0, 0xd7, 32), (0xd8, 0xdf, 32), (0xdf, 0xe0, 7615),
    (0xe0, 0xe5, -32), (0xe5, 0xe6, 8262), (0xe6, 0xf7, -32), (0xf8, 0xff, -32),
    (0xff, 0x100, 121), (0x100, 0x130, 0), (0x132, 0x138, 0), (0x139, 0x149, 0), (0x14a, 0x178, 0),
    (0x178, 0x179, -121), (0x179, 0x17f, 0), (0x17f, 0x180, -300), (0x180, 0x181, 195),
    (0x181, 0x182, 210), (0x182, 0x186, 0), (0x186, 0x187, 206), (0x187, 0x189, 0),
    (0x189, 0x18b, 205), (0x18b, 0x18d, 0), (0x18e, 0x18f, 79), (0x18f, 0x190, 202),
    (0x190, 0x191, 203), (0x191, 0x193, 0), (0x193, 0x194, 205), (0x194, 0x195, 207),
    (0x195, 0x196, 97), (0x196, 0x197, 211), (0x197, 0x198, 209), (0x198, 0x19a, 0),
    (0x19a, 0x19b, 163), (0x19b, 0x19c, 42561), (0x19c, 0x19d, 211), (0x19d, 0x19e, 213),
    (0x19e, 0x19f, 130), (0x19f, 0x1a0, 214), (0x1a0, 0x1a6, 0), (0x1a6, 0x1a7, 218),
    (0x1a7, 0x1a9, 0), (0x1a9, 0x1aa, 218), (0x1ac, 0x1ae, 0), (0x1ae, 0x1af, 218),
    (0x1af, 0x1b1, 0), (0x1b1, 0x1b3, 217), (0x1b3, 0x1b7, 0), (0x1b7, 0x1b8, 219),
    (0x1b8, 0x1ba, 0), (0x1bc, 0x1be, 0), (0x1bf, 0x1c0, 56), (0x1c4, 0x1c6, 1),
    (0x1c6, 0x1c7, -2), (0x1c7, 0x1c9, 1), (0x1c9, 0x1ca, -2), (0x1ca, 0x1cc, 1),
    (0x1cc, 0x1cd, -2), (0x1cd, 0x1dd, 0), (0x1dd, 0x1de, -79), (0x1de, 0x1f0, 0),
    (0x1f1, 0x1f3, 1), (0x1f3, 0x1f4, -2), (0x1f4, 0x1f6, 0), (0x1f6, 0x1f7, -97),
    (0x1f7, 0x1f8, -56), (0x1f8, 0x220, 0), (0x220, 0x221, -130), (0x222, 0x234, 0),
    (0x23a, 0x23b, 10795), (0x23b, 0x23d, 0), (0x23d, 0x23e, -163), (0x23e, 0x23f, 10792),
    (0x23f, 0x241, 10815), (0x241, 0x243, 0), (0x243, 0x244, -195), (0x244, 0x245, 69),
    (0x245, 0x246, 71), (0x246, 0x250, 0), (0x250, 0x251, 10783), (0x251, 0x252, 10780),
    (0x252, 0x253, 10782), (0x253, 0x254, -210), (0x254, 0x255, -206), (0x256, 0x258, -205),
    (0x259, 0x25a, -202), (0x25b, 0x25c, -203), (0x25c, 0x25d, 42319), (0x260, 0x261, -205),
    (0x261, 0x262, 42315), (0x263, 0x264, -207), (0x264, 0x265, 42343), (0x265, 0x266, 42280),
    (0x266, 0x267, 42308), (0x268, 0x269, -209), (0x269, 0x26a, -211), (0x26a, 0x26b, 42308),
    (0x26b, 0x26c, 10743), (0x26c, 0x26d, 42305), (0x26f, 0x270, -211), (0x271, 0x272, 10749),
    (0x272, 0x273, -213), (0x275, 0x276, -214), (0x27d, 0x27e, 10727), (0x280, 0x281, -218),
    (0x282, 0x283, 42307), (0x283, 0x284, -218), (0x287, 0x288, 42282), (0x288, 0x289, -218),
    (0x289, 0x28a, -69), (0x28a, 0x28c, -217), (0x28c, 0x28d, -71), (0x292, 0x293, -219),
    (0x29d, 0x29e, 42261), (0x29e, 0x29f, 42258), (0x345, 0x346, 84), (0x370, 0x374, 0),
    (0x376, 0x378, 0), (0x37b, 0x37e, 130), (0x37f, 0x380, 116), (0x386, 0x387, 38),
    (0x388, 0x38b, 37), (0x38c, 0x38d, 64), (0x38e, 0x390, 63), (0x390, 0x391, 7235),
    (0x391, 0x3a2, 32), (0x3a3, 0x3a4, 31), (0x3a4, 0x3ac, 32), (0x3ac, 0x3ad, -38),
    (0x3ad, 0x3b0, -37), (0x3b0, 0x3b1, 7219), (0x3b1, 0x3b2, -32), (0x3b2, 0x3b3, 30),
    (0x3b3, 0x3b5, -32), (0x3b5, 0x3b6, 64), (0x3b6, 0x3b8, -32), (0x3b8, 0x3b9, 25),
    (0x3b9, 0x3ba, 7173), (0x3ba, 0x3bb, 54), (0x3bb, 0x3bc, -32), (0x3bc, 0x3bd, -775),
    (0x3bd, 0x3c0, -32), (0x3c0, 0x3c1, 22), (0x3c1, 0x3c2, 48), (0x3c2, 0x3c3, 1),
    (0x3c3, 0x3c6, -32), (0x3c6, 0x3c7, 15), (0x3c7, 0x3c9, -32), (0x3c9, 0x3ca, 7517),
    (0x3ca, 0x3cc, -32), (0x3cc, 0x3cd, -64), (0x3cd, 0x3cf, -63), (0x3cf, 0x3d0, 8),
    (0x3d0, 0x3d1, -62), (0x3d1, 0x3d2, 35), (0x3d5, 0x3d6, -47), (0x3d6, 0x3d7, -54),
    (0x3d7, 0x3d8, -8), (0x3d8, 0x3f0, 0), (0x3f0, 0x3f1, -86), (0x3f1, 0x3f2, -80),
    (0x3f2, 0x3f3, 7), (0x3f3, 0x3f4, -116), (0x3f4, 0x3f5, -92), (0x3f5, 0x3f6, -96),
    (0x3f7, 0x3f9, 0), (0x3f9, 0x3fa, -7), (0x3fa, 0x3fc, 0), (0x3fd, 0x400, -130),
    (0x400, 0x410, 80), (0x410, 0x430, 32), (0x430, 0x432, -32), (0x432, 0x433, 6222),
    (0x433, 0x434, -32), (0x434, 0x435, 6221), (0x435, 0x43e, -32), (0x43e, 0x43f, 6212),
    (0x43f, 0x441, -32), (0x441, 0x443, 6210), (0x443, 0x44a, -32), (0x44a, 0x44b, 6204),
    (0x44b, 0x450, -32), (0x450, 0x460, -80), (0x460, 0x462, 0)]

/-- The second half of the table. -/
def ranges2 : Array Range := #[
    (0x462, 0x463, 1), (0x463, 0x464, 6180), (0x464, 0x482, 0), (0x48a, 0x4c0, 0),
    (0x4c0, 0x4c1, 15), (0x4c1, 0x4cf, 0), (0x4cf, 0x4d0, -15), (0x4d0, 0x530, 0),
    (0x531, 0x557, 48), (0x561, 0x587, -48), (0x10a0, 0x10c6, 7264), (0x10c7, 0x10c8, 7264),
    (0x10cd, 0x10ce, 7264), (0x10d0, 0x10fb, 3008), (0x10fd, 0x1100, 3008),
    (0x13a0, 0x13f0, 38864), (0x13f0, 0x13f6, 8), (0x13f8, 0x13fe, -8), (0x1c80, 0x1c81, -6254),
    (0x1c81, 0x1c82, -6253), (0x1c82, 0x1c83, -6244), (0x1c83, 0x1c84, -6242), (0x1c84, 0x1c85, 1),
    (0x1c85, 0x1c86, -6243), (0x1c86, 0x1c87, -6236), (0x1c87, 0x1c88, -6181),
    (0x1c88, 0x1c89, 35266), (0x1c89, 0x1c8b, 0), (0x1c90, 0x1cbb, -3008), (0x1cbd, 0x1cc0, -3008),
    (0x1d79, 0x1d7a, 35332), (0x1d7d, 0x1d7e, 3814), (0x1d8e, 0x1d8f, 35384), (0x1e00, 0x1e60, 0),
    (0x1e60, 0x1e61, 1), (0x1e61, 0x1e62, 58), (0x1e62, 0x1e96, 0), (0x1e9b, 0x1e9c, -59),
    (0x1e9e, 0x1e9f, -7615), (0x1ea0, 0x1f00, 0), (0x1f00, 0x1f08, 8), (0x1f08, 0x1f10, -8),
    (0x1f10, 0x1f16, 8), (0x1f18, 0x1f1e, -8), (0x1f20, 0x1f28, 8), (0x1f28, 0x1f30, -8),
    (0x1f30, 0x1f38, 8), (0x1f38, 0x1f40, -8), (0x1f40, 0x1f46, 8), (0x1f48, 0x1f4e, -8),
    (0x1f51, 0x1f52, 8), (0x1f53, 0x1f54, 8), (0x1f55, 0x1f56, 8), (0x1f57, 0x1f58, 8),
    (0x1f59, 0x1f5a, -8), (0x1f5b, 0x1f5c, -8), (0x1f5d, 0x1f5e, -8), (0x1f5f, 0x1f60, -8),
    (0x1f60, 0x1f68, 8), (0x1f68, 0x1f70, -8), (0x1f70, 0x1f72, 74), (0x1f72, 0x1f76, 86),
    (0x1f76, 0x1f78, 100), (0x1f78, 0x1f7a, 128), (0x1f7a, 0x1f7c, 112), (0x1f7c, 0x1f7e, 126),
    (0x1f80, 0x1f88, 8), (0x1f88, 0x1f90, -8), (0x1f90, 0x1f98, 8), (0x1f98, 0x1fa0, -8),
    (0x1fa0, 0x1fa8, 8), (0x1fa8, 0x1fb0, -8), (0x1fb0, 0x1fb2, 8), (0x1fb3, 0x1fb4, 9),
    (0x1fb8, 0x1fba, -8), (0x1fba, 0x1fbc, -74), (0x1fbc, 0x1fbd, -9), (0x1fbe, 0x1fbf, -7289),
    (0x1fc3, 0x1fc4, 9), (0x1fc8, 0x1fcc, -86), (0x1fcc, 0x1fcd, -9), (0x1fd0, 0x1fd2, 8),
    (0x1fd3, 0x1fd4, -7235), (0x1fd8, 0x1fda, -8), (0x1fda, 0x1fdc, -100), (0x1fe0, 0x1fe2, 8),
    (0x1fe3, 0x1fe4, -7219), (0x1fe5, 0x1fe6, 7), (0x1fe8, 0x1fea, -8), (0x1fea, 0x1fec, -112),
    (0x1fec, 0x1fed, -7), (0x1ff3, 0x1ff4, 9), (0x1ff8, 0x1ffa, -128), (0x1ffa, 0x1ffc, -126),
    (0x1ffc, 0x1ffd, -9), (0x2126, 0x2127, -7549), (0x212a, 0x212b, -8415),
    (0x212b, 0x212c, -8294), (0x2132, 0x2133, 28), (0x214e, 0x214f, -28), (0x2160, 0x2170, 16),
    (0x2170, 0x2180, -16), (0x2183, 0x2185, 0), (0x24b6, 0x24d0, 26), (0x24d0, 0x24ea, -26),
    (0x2c00, 0x2c30, 48), (0x2c30, 0x2c60, -48), (0x2c60, 0x2c62, 0), (0x2c62, 0x2c63, -10743),
    (0x2c63, 0x2c64, -3814), (0x2c64, 0x2c65, -10727), (0x2c65, 0x2c66, -10795),
    (0x2c66, 0x2c67, -10792), (0x2c67, 0x2c6d, 0), (0x2c6d, 0x2c6e, -10780),
    (0x2c6e, 0x2c6f, -10749), (0x2c6f, 0x2c70, -10783), (0x2c70, 0x2c71, -10782),
    (0x2c72, 0x2c74, 0), (0x2c75, 0x2c77, 0), (0x2c7e, 0x2c80, -10815), (0x2c80, 0x2ce4, 0),
    (0x2ceb, 0x2cef, 0), (0x2cf2, 0x2cf4, 0), (0x2d00, 0x2d26, -7264), (0x2d27, 0x2d28, -7264),
    (0x2d2d, 0x2d2e, -7264), (0xa640, 0xa64a, 0), (0xa64a, 0xa64b, 1), (0xa64b, 0xa64c, -35267),
    (0xa64c, 0xa66e, 0), (0xa680, 0xa69c, 0), (0xa722, 0xa730, 0), (0xa732, 0xa770, 0),
    (0xa779, 0xa77d, 0), (0xa77d, 0xa77e, -35332), (0xa77e, 0xa788, 0), (0xa78b, 0xa78d, 0),
    (0xa78d, 0xa78e, -42280), (0xa790, 0xa794, 0), (0xa794, 0xa795, 48), (0xa796, 0xa7aa, 0),
    (0xa7aa, 0xa7ab, -42308), (0xa7ab, 0xa7ac, -42319), (0xa7ac, 0xa7ad, -42315),
    (0xa7ad, 0xa7ae, -42305), (0xa7ae, 0xa7af, -42308), (0xa7b0, 0xa7b1, -42258),
    (0xa7b1, 0xa7b2, -42282), (0xa7b2, 0xa7b3, -42261), (0xa7b3, 0xa7b4, 928), (0xa7b4, 0xa7c4, 0),
    (0xa7c4, 0xa7c5, -48), (0xa7c5, 0xa7c6, -42307), (0xa7c6, 0xa7c7, -35384), (0xa7c7, 0xa7cb, 0),
    (0xa7cb, 0xa7cc, -42343), (0xa7cc, 0xa7ce, 0), (0xa7d0, 0xa7d2, 0), (0xa7d6, 0xa7dc, 0),
    (0xa7dc, 0xa7dd, -42561), (0xa7f5, 0xa7f7, 0), (0xab53, 0xab54, -928),
    (0xab70, 0xabc0, -38864), (0xfb05, 0xfb07, 0), (0xff21, 0xff3b, 32), (0xff41, 0xff5b, -32),
    (0x10400, 0x10428, 40), (0x10428, 0x10450, -40), (0x104b0, 0x104d4, 40),
    (0x104d8, 0x104fc, -40), (0x10570, 0x1057b, 39), (0x1057c, 0x1058b, 39),
    (0x1058c, 0x10593, 39), (0x10594, 0x10596, 39), (0x10597, 0x105a2, -39),
    (0x105a3, 0x105b2, -39), (0x105b3, 0x105ba, -39), (0x105bb, 0x105bd, -39),
    (0x10c80, 0x10cb3, 64), (0x10cc0, 0x10cf3, -64), (0x10d50, 0x10d66, 32),
    (0x10d70, 0x10d86, -32), (0x118a0, 0x118c0, 32), (0x118c0, 0x118e0, -32),
    (0x16e40, 0x16e60, 32), (0x16e60, 0x16e80, -32), (0x1e900, 0x1e922, 34),
    (0x1e922, 0x1e944, -34)]

/-- The table. -/
def ranges : Array Range := ranges1 ++ ranges2

/-- The character that follows in a group, by the range that holds the first. -/
def nextWithin (r : Range) (code : Nat) : Nat :=
  let (first, _, distance) := r
  if distance = 0 then (if (code - first) % 2 = 0 then code + 1 else code - 1)
  else ((code : Int) + distance).toNat

/-- The range of the table that holds a character, searched in `[lo, hi)`. -/
def find? (code : Nat) : (steps lo hi : Nat) → Option Range
  | 0, _, _ => none
  | steps + 1, lo, hi =>
    if lo < hi then
      let mid := (lo + hi) / 2
      let r := ranges.getD mid (0, 0, 0)
      if code < r.1 then find? code steps lo mid
      else if r.2.1 ≤ code then find? code steps (mid + 1) hi
      else some r
    else none

/-- The character that follows in the group of a character. -/
def next (code : Nat) : Nat :=
  match find? code 16 0 ranges.size with
  | some r => nextWithin r code
  | none => code

/-- The characters behind one in its group, up to its first one. No group has more than
four. -/
def following (first : Nat) : (steps : Nat) → (code : Nat) → List Nat
  | 0, _ => []
  | steps + 1, code =>
    let code := next code
    if code = first then [] else code :: following first steps code

/-- The other characters that differ from one in case only. -/
def variants (code : Nat) : List Nat :=
  following code 3 code

/-- Whether a set holds a character that differs from this one in case only. -/
def meets (s : CharSet) (code : Nat) : Bool :=
  (variants code).any s.containsCode

/-- The characters of a range that a set holds a case variant of, as ranges. -/
def metIn (s : CharSet) (first next : Nat) : List (Nat × Nat) :=
  (List.range (next - first)).filterMap fun i =>
    if meets s (first + i) then some (first + i, first + i + 1) else none

/-- A set with all case variants of its characters. -/
def fold (s : CharSet) : CharSet :=
  s.union (.ofRanges (ranges.toList.flatMap fun (first, next, _) => metIn s first next))

end Graft.CharProperty.CaseFold
