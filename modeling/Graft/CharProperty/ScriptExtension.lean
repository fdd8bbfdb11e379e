import Graft.CharProperty.Script

/-!
The scripts that characters are used in, in version 16 of Unicode.

Most characters are used in the script they belong to and in no other. The exceptions are
listed with the numbers of their scripts.
-/

set_option autoImplicit false

namespace Graft.CharProperty.Script

/-- Characters from one code point up to another, and the scripts that they are used in. -/
abbrev Shared := Nat × Nat × List Nat

/-- The first half of the exceptions. -/
def shared1 : List Shared := [
    (0xb7, 0xb8, [5, 18, 25, 34, 36, 40, 41, 42, 44, 46, 49, 73, 80, 81, 112, 133]),
    (0x2bc, 0x2bd, [10, 29, 31, 73, 78, 155, 160]), (0x2c7, 0x2c8, [12, 73]),
    (0x2c9, 0x2cc, [12, 73]), (0x2cd, 0x2ce, [73, 78]), (0x2d7, 0x2d8, [73, 155]),
    (0x2d9, 0x2da, [12, 73]), (0x300, 0x301, [22, 25, 29, 44, 73, 112, 141, 146]),
    (0x301, 0x302, [22, 29, 44, 73, 120, 141, 146, 159]), (0x302, 0x303, [22, 29, 73, 157]),
    (0x303, 0x304, [41, 73, 141, 143, 155]),
    (0x304, 0x305, [19, 22, 25, 29, 42, 44, 73, 120, 143, 157, 159]),
    (0x305, 0x306, [25, 36, 41, 42, 63, 73]), (0x306, 0x307, [29, 44, 73, 112]),
    (0x307, 0x308, [25, 34, 54, 73, 112, 143, 146, 157, 159]),
    (0x308, 0x309, [4, 29, 34, 42, 44, 54, 73, 112, 143, 146]), (0x309, 0x30a, [73, 157]),
    (0x30a, 0x30b, [34, 73, 143]), (0x30b, 0x30c, [22, 29, 73, 120]),
    (0x30c, 0x30d, [22, 73, 146]), (0x30d, 0x30e, [73, 141]), (0x30e, 0x30f, [38, 73]),
    (0x310, 0x311, [73, 141]), (0x311, 0x312, [29, 73, 159]), (0x313, 0x314, [44, 73, 112, 159]),
    (0x320, 0x321, [73, 143]), (0x323, 0x324, [22, 34, 63, 73, 143]),
    (0x324, 0x325, [22, 34, 73, 143]), (0x325, 0x326, [73, 143]), (0x32d, 0x32e, [73, 141, 143]),
    (0x32e, 0x32f, [73, 143]), (0x330, 0x331, [22, 73, 143]),
    (0x331, 0x332, [19, 22, 42, 73, 141, 155]), (0x342, 0x343, [44]), (0x345, 0x346, [44]),
    (0x358, 0x359, [73, 120]), (0x35e, 0x35f, [19, 73, 159]), (0x363, 0x370, [73]),
    (0x374, 0x376, [25, 44]), (0x483, 0x484, [29, 112]), (0x484, 0x485, [29, 41]),
    (0x485, 0x487, [29, 73]), (0x487, 0x488, [29, 41]), (0x589, 0x58a, [4, 40, 41]),
    (0x60c, 0x60d, [3, 39, 51, 104, 143, 154, 167]),
    (0x61b, 0x61c, [3, 39, 51, 104, 143, 154, 167]), (0x61c, 0x61d, [3, 143, 154]),
    (0x61f, 0x620, [0, 3, 39, 51, 104, 143, 154, 167]),
    (0x640, 0x641, [0, 3, 51, 84, 85, 117, 127, 137, 143]), (0x64b, 0x656, [3, 143]),
    (0x660, 0x66a, [3, 154, 167]), (0x670, 0x671, [3, 143]), (0x6d4, 0x6d5, [3, 51]),
    (0x951, 0x952, [10, 31, 43, 45, 47, 62, 73, 83, 119, 132, 150, 153, 158]),
    (0x952, 0x953, [10, 31, 43, 45, 47, 62, 73, 83, 119, 150, 153, 158]),
    (0x964, 0x965, [10, 31, 33, 43, 45, 46, 47, 62, 70, 81, 83, 87, 101, 118, 119, 136, 142, 149,
      150, 153, 158]),
    (0x965, 0x966, [10, 31, 33, 43, 45, 46, 47, 48, 62, 70, 75, 81, 83, 87, 101, 118, 119, 136,
      142, 149, 150, 153, 158]),
    (0x966, 0x970, [31, 33, 61, 81]), (0x9e6, 0x9f0, [10, 20, 142]), (0xa66, 0xa70, [47, 97]),
    (0xae6, 0xaf0, [45, 69]), (0xbe6, 0xbf4, [43, 150]), (0xce6, 0xcf0, [62, 101, 161]),
    (0x1040, 0x104a, [20, 98, 146]), (0x10fb, 0x10fc, [40, 41, 73]), (0x16eb, 0x16ee, [129]),
    (0x1735, 0x1737, [16, 52, 144, 145]), (0x1802, 0x1804, [95, 125]), (0x1805, 0x1806, [95, 125]),
    (0x1cd0, 0x1cd1, [10, 31, 43, 62]), (0x1cd1, 0x1cd2, [31]), (0x1cd2, 0x1cd3, [10, 31, 43, 62]),
    (0x1cd3, 0x1cd4, [31, 43, 62]), (0x1cd4, 0x1cd5, [31]), (0x1cd5, 0x1cd7, [10, 31]),
    (0x1cd7, 0x1cd8, [31, 132]), (0x1cd8, 0x1cd9, [10, 31]), (0x1cd9, 0x1cda, [31, 132]),
    (0x1cda, 0x1cdb, [31, 62, 83, 119, 150, 153]), (0x1cdb, 0x1cdc, [31]),
    (0x1cdc, 0x1cde, [31, 132]), (0x1cde, 0x1ce0, [31]), (0x1ce0, 0x1ce1, [31, 132]),
    (0x1ce1, 0x1ce2, [10, 31]), (0x1ce2, 0x1ce9, [31]), (0x1ce9, 0x1cea, [31, 101]),
    (0x1cea, 0x1ceb, [10, 31])]

/-- The second half of the exceptions. -/
def shared2 : List Shared := [
    (0x1ceb, 0x1ced, [31]), (0x1ced, 0x1cee, [10, 31]), (0x1cee, 0x1cf2, [31]),
    (0x1cf2, 0x1cf3, [10, 31, 43, 62, 83, 101, 119, 136, 153, 158, 161]),
    (0x1cf3, 0x1cf4, [31, 43]), (0x1cf4, 0x1cf5, [31, 43, 62, 161]), (0x1cf5, 0x1cf7, [10, 31]),
    (0x1cf7, 0x1cf8, [10]), (0x1cf8, 0x1cfa, [31, 43]), (0x1cfa, 0x1cfb, [101]),
    (0x1dc0, 0x1dc2, [44]), (0x1df8, 0x1df9, [29, 73, 143]), (0x1dfa, 0x1dfb, [143]),
    (0x202f, 0x2030, [73, 95, 125]), (0x204f, 0x2050, [0, 3]),
    (0x205a, 0x205b, [18, 40, 41, 79, 109, 116]), (0x205d, 0x205e, [18, 44, 92, 109]),
    (0x20f0, 0x20f1, [31, 43, 73]), (0x2e17, 0x2e18, [25, 73]), (0x2e30, 0x2e31, [5, 116]),
    (0x2e31, 0x2e32, [5, 18, 40, 61, 80, 109, 130]), (0x2e3c, 0x2e3d, [34]),
    (0x2e41, 0x2e42, [0, 3, 109]), (0x2e43, 0x2e44, [29, 41]), (0x2ff0, 0x3000, [49, 152]),
    (0x3001, 0x3002, [12, 49, 50, 55, 63, 95, 168]),
    (0x3002, 0x3003, [12, 49, 50, 55, 63, 95, 125, 168]), (0x3003, 0x3004, [12, 49, 50, 55, 63]),
    (0x3006, 0x3007, [49]), (0x3008, 0x300a, [12, 49, 50, 55, 63, 95, 156, 168]),
    (0x300a, 0x300c, [12, 49, 50, 55, 63, 78, 95, 156, 168]),
    (0x300c, 0x3012, [12, 49, 50, 55, 63, 168]), (0x3013, 0x3014, [12, 49, 50, 55, 63]),
    (0x3014, 0x301c, [12, 49, 50, 55, 63, 168]), (0x301c, 0x3020, [12, 49, 50, 55, 63]),
    (0x302a, 0x302e, [12, 49]), (0x3030, 0x3031, [12, 49, 50, 55, 63]), (0x3031, 0x3036, [55, 63]),
    (0x3037, 0x3038, [12, 49, 50, 55, 63]), (0x303c, 0x303e, [49, 55, 63]), (0x303e, 0x3040, [49]),
    (0x3099, 0x309d, [55, 63]), (0x30a0, 0x30a1, [55, 63]),
    (0x30fb, 0x30fc, [12, 49, 50, 55, 63, 168]), (0x30fc, 0x30fd, [55, 63]),
    (0x3190, 0x31a0, [49]), (0x31c0, 0x31e6, [49]), (0x31ef, 0x31f0, [49, 152]),
    (0x3220, 0x3248, [49]), (0x3280, 0x32b1, [49]), (0x32c0, 0x32cc, [49]), (0x32ff, 0x3300, [49]),
    (0x3358, 0x3371, [49]), (0x337b, 0x3380, [49]), (0x33e0, 0x33ff, [49]),
    (0xa66f, 0xa670, [29, 41]), (0xa700, 0xa708, [49, 73]),
    (0xa830, 0xa833, [31, 33, 45, 47, 61, 62, 69, 70, 81, 83, 94, 101, 132, 149, 158, 161]),
    (0xa833, 0xa836, [31, 33, 45, 47, 61, 62, 69, 70, 81, 94, 101, 132, 149, 158, 161]),
    (0xa836, 0xa838, [31, 33, 45, 47, 61, 69, 70, 81, 94, 149, 158]),
    (0xa838, 0xa839, [31, 33, 45, 47, 61, 69, 70, 81, 94, 132, 149, 158]),
    (0xa839, 0xa83a, [31, 33, 45, 47, 61, 69, 70, 81, 94, 149, 158]),
    (0xa8f1, 0xa8f2, [10, 31, 161]), (0xa8f3, 0xa8f4, [31, 150]), (0xa92e, 0xa92f, [65, 73, 98]),
    (0xa9cf, 0xa9d0, [15, 60]), (0xfd3e, 0xfd40, [3, 104]), (0xfdf2, 0xfdf3, [3, 154]),
    (0xfdfd, 0xfdfe, [3, 154]), (0xfe45, 0xfe47, [12, 49, 50, 55, 63]),
    (0xff61, 0xff66, [12, 49, 50, 55, 63, 168]), (0xff70, 0xff71, [55, 63]),
    (0xff9e, 0xffa0, [55, 63]), (0x10100, 0x10102, [27, 28, 77]), (0x10102, 0x10103, [27, 77]),
    (0x10107, 0x10134, [27, 76, 77]), (0x10137, 0x10140, [27, 77]), (0x102e0, 0x102fc, [3, 25]),
    (0x10af2, 0x10af3, [85, 117]), (0x11301, 0x11302, [43, 150]), (0x11303, 0x11304, [43, 150]),
    (0x1133b, 0x1133d, [43, 150]), (0x11fd0, 0x11fd2, [43, 150]), (0x11fd3, 0x11fd4, [43, 150]),
    (0x1bca0, 0x1bca4, [34]), (0x1d360, 0x1d372, [49]), (0x1f250, 0x1f252, [49])]

/-- The characters that are used in a script. -/
def extendedSet (s : Script) : CharSet :=
  let shared := shared1 ++ shared2
  let exceptions := CharSet.ofRanges (shared.map fun (first, next, _) => (first, next))
  let used := CharSet.ofRanges (shared.filterMap fun (first, next, scripts) =>
    if scripts.contains s.number then some (first, next) else none)
  (s.set.diff exceptions).union used

end Graft.CharProperty.Script
