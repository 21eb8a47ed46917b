import DueDispatch.Text.Combining

/-!
# DueDispatch — composed characters

A letter and a mark on it may be one character or two. A text is composed if its
marks are in order and nothing in it is written as two characters that can be
one.
-/

namespace DueDispatch.Text

/-- The characters that make one with the character before them, and the runs of
those with which they do. -/
def compositions : Array (Nat × Array (Nat × Nat)) := #[
  (0x300, #[(0x41, 0x41), (0x45, 0x45), (0x49, 0x49), (0x4e, 0x4f), (0x55, 0x55), (0x57, 0x57),
    (0x59, 0x59), (0x61, 0x61), (0x65, 0x65), (0x69, 0x69), (0x6e, 0x6f), (0x75, 0x75), (0x77,
    0x77), (0x79, 0x79), (0xa8, 0xa8), (0xc2, 0xc2), (0xca, 0xca), (0xd4, 0xd4), (0xdc, 0xdc),
    (0xe2, 0xe2), (0xea, 0xea), (0xf4, 0xf4), (0xfc, 0xfc), (0x102, 0x103), (0x112, 0x113),
    (0x14c, 0x14d), (0x1a0, 0x1a1), (0x1af, 0x1b0), (0x391, 0x391), (0x395, 0x395), (0x397,
    0x397), (0x399, 0x399), (0x39f, 0x39f), (0x3a5, 0x3a5), (0x3a9, 0x3a9), (0x3b1, 0x3b1),
    (0x3b5, 0x3b5), (0x3b7, 0x3b7), (0x3b9, 0x3b9), (0x3bf, 0x3bf), (0x3c5, 0x3c5), (0x3c9,
    0x3cb), (0x415, 0x415), (0x418, 0x418), (0x435, 0x435), (0x438, 0x438), (0x1f00, 0x1f01),
    (0x1f08, 0x1f09), (0x1f10, 0x1f11), (0x1f18, 0x1f19), (0x1f20, 0x1f21), (0x1f28, 0x1f29),
    (0x1f30, 0x1f31), (0x1f38, 0x1f39), (0x1f40, 0x1f41), (0x1f48, 0x1f49), (0x1f50, 0x1f51),
    (0x1f59, 0x1f59), (0x1f60, 0x1f61), (0x1f68, 0x1f69), (0x1fbf, 0x1fbf), (0x1ffe, 0x1ffe)]),
  (0x301, #[(0x41, 0x41), (0x43, 0x43), (0x45, 0x45), (0x47, 0x47), (0x49, 0x49), (0x4b, 0x50),
    (0x52, 0x53), (0x55, 0x55), (0x57, 0x57), (0x59, 0x5a), (0x61, 0x61), (0x63, 0x63), (0x65,
    0x65), (0x67, 0x67), (0x69, 0x69), (0x6b, 0x70), (0x72, 0x73), (0x75, 0x75), (0x77, 0x77),
    (0x79, 0x7a), (0xa8, 0xa8), (0xc2, 0xc2), (0xc5, 0xc7), (0xca, 0xca), (0xcf, 0xcf), (0xd4,
    0xd5), (0xd8, 0xd8), (0xdc, 0xdc), (0xe2, 0xe2), (0xe5, 0xe7), (0xea, 0xea), (0xef, 0xef),
    (0xf4, 0xf5), (0xf8, 0xf8), (0xfc, 0xfc), (0x102, 0x103), (0x112, 0x113), (0x14c, 0x14d),
    (0x168, 0x169), (0x1a0, 0x1a1), (0x1af, 0x1b0), (0x391, 0x391), (0x395, 0x395), (0x397,
    0x397), (0x399, 0x399), (0x39f, 0x39f), (0x3a5, 0x3a5), (0x3a9, 0x3a9), (0x3b1, 0x3b1),
    (0x3b5, 0x3b5), (0x3b7, 0x3b7), (0x3b9, 0x3b9), (0x3bf, 0x3bf), (0x3c5, 0x3c5), (0x3c9,
    0x3cb), (0x3d2, 0x3d2), (0x413, 0x413), (0x41a, 0x41a), (0x433, 0x433), (0x43a, 0x43a),
    (0x1f00, 0x1f01), (0x1f08, 0x1f09), (0x1f10, 0x1f11), (0x1f18, 0x1f19), (0x1f20, 0x1f21),
    (0x1f28, 0x1f29), (0x1f30, 0x1f31), (0x1f38, 0x1f39), (0x1f40, 0x1f41), (0x1f48, 0x1f49),
    (0x1f50, 0x1f51), (0x1f59, 0x1f59), (0x1f60, 0x1f61), (0x1f68, 0x1f69), (0x1fbf, 0x1fbf),
    (0x1ffe, 0x1ffe)]),
  (0x302, #[(0x41, 0x41), (0x43, 0x43), (0x45, 0x45), (0x47, 0x4a), (0x4f, 0x4f), (0x53, 0x53),
    (0x55, 0x55), (0x57, 0x57), (0x59, 0x5a), (0x61, 0x61), (0x63, 0x63), (0x65, 0x65), (0x67,
    0x6a), (0x6f, 0x6f), (0x73, 0x73), (0x75, 0x75), (0x77, 0x77), (0x79, 0x7a), (0x1ea0,
    0x1ea1), (0x1eb8, 0x1eb9), (0x1ecc, 0x1ecd)]),
  (0x303, #[(0x41, 0x41), (0x45, 0x45), (0x49, 0x49), (0x4e, 0x4f), (0x55, 0x56), (0x59, 0x59),
    (0x61, 0x61), (0x65, 0x65), (0x69, 0x69), (0x6e, 0x6f), (0x75, 0x76), (0x79, 0x79), (0xc2,
    0xc2), (0xca, 0xca), (0xd4, 0xd4), (0xe2, 0xe2), (0xea, 0xea), (0xf4, 0xf4), (0x102, 0x103),
    (0x1a0, 0x1a1), (0x1af, 0x1b0)]),
  (0x304, #[(0x41, 0x41), (0x45, 0x45), (0x47, 0x47), (0x49, 0x49), (0x4f, 0x4f), (0x55, 0x55),
    (0x59, 0x59), (0x61, 0x61), (0x65, 0x65), (0x67, 0x67), (0x69, 0x69), (0x6f, 0x6f), (0x75,
    0x75), (0x79, 0x79), (0xc4, 0xc4), (0xc6, 0xc6), (0xd5, 0xd6), (0xdc, 0xdc), (0xe4, 0xe4),
    (0xe6, 0xe6), (0xf5, 0xf6), (0xfc, 0xfc), (0x1ea, 0x1eb), (0x226, 0x227), (0x22e, 0x22f),
    (0x391, 0x391), (0x399, 0x399), (0x3a5, 0x3a5), (0x3b1, 0x3b1), (0x3b9, 0x3b9), (0x3c5,
    0x3c5), (0x418, 0x418), (0x423, 0x423), (0x438, 0x438), (0x443, 0x443), (0x1e36, 0x1e37),
    (0x1e5a, 0x1e5b)]),
  (0x306, #[(0x41, 0x41), (0x45, 0x45), (0x47, 0x47), (0x49, 0x49), (0x4f, 0x4f), (0x55, 0x55),
    (0x61, 0x61), (0x65, 0x65), (0x67, 0x67), (0x69, 0x69), (0x6f, 0x6f), (0x75, 0x75), (0x228,
    0x229), (0x391, 0x391), (0x399, 0x399), (0x3a5, 0x3a5), (0x3b1, 0x3b1), (0x3b9, 0x3b9),
    (0x3c5, 0x3c5), (0x410, 0x410), (0x415, 0x416), (0x418, 0x418), (0x423, 0x423), (0x430,
    0x430), (0x435, 0x436), (0x438, 0x438), (0x443, 0x443), (0x1ea0, 0x1ea1)]),
  (0x307, #[(0x41, 0x49), (0x4d, 0x50), (0x52, 0x54), (0x57, 0x5a), (0x61, 0x68), (0x6d, 0x70),
    (0x72, 0x74), (0x77, 0x7a), (0x15a, 0x15b), (0x160, 0x161), (0x17f, 0x17f), (0x1e62, 0x1e63),
    (0x105d2, 0x105d2), (0x105da, 0x105da)]),
  (0x308, #[(0x41, 0x41), (0x45, 0x45), (0x48, 0x49), (0x4f, 0x4f), (0x55, 0x55), (0x57, 0x59),
    (0x61, 0x61), (0x65, 0x65), (0x68, 0x69), (0x6f, 0x6f), (0x74, 0x75), (0x77, 0x79), (0xd5,
    0xd5), (0xf5, 0xf5), (0x16a, 0x16b), (0x399, 0x399), (0x3a5, 0x3a5), (0x3b9, 0x3b9), (0x3c5,
    0x3c5), (0x3d2, 0x3d2), (0x406, 0x406), (0x410, 0x410), (0x415, 0x418), (0x41e, 0x41e),
    (0x423, 0x423), (0x427, 0x427), (0x42b, 0x42b), (0x42d, 0x42d), (0x430, 0x430), (0x435,
    0x438), (0x43e, 0x43e), (0x443, 0x443), (0x447, 0x447), (0x44b, 0x44b), (0x44d, 0x44d),
    (0x456, 0x456), (0x4d8, 0x4d9), (0x4e8, 0x4e9)]),
  (0x309, #[(0x41, 0x41), (0x45, 0x45), (0x49, 0x49), (0x4f, 0x4f), (0x55, 0x55), (0x59, 0x59),
    (0x61, 0x61), (0x65, 0x65), (0x69, 0x69), (0x6f, 0x6f), (0x75, 0x75), (0x79, 0x79), (0xc2,
    0xc2), (0xca, 0xca), (0xd4, 0xd4), (0xe2, 0xe2), (0xea, 0xea), (0xf4, 0xf4), (0x102, 0x103),
    (0x1a0, 0x1a1), (0x1af, 0x1b0)]),
  (0x30a, #[(0x41, 0x41), (0x55, 0x55), (0x61, 0x61), (0x75, 0x75), (0x77, 0x77), (0x79, 0x79)]),
  (0x30b, #[(0x4f, 0x4f), (0x55, 0x55), (0x6f, 0x6f), (0x75, 0x75), (0x423, 0x423), (0x443,
    0x443)]),
  (0x30c, #[(0x41, 0x41), (0x43, 0x45), (0x47, 0x49), (0x4b, 0x4c), (0x4e, 0x4f), (0x52, 0x55),
    (0x5a, 0x5a), (0x61, 0x61), (0x63, 0x65), (0x67, 0x6c), (0x6e, 0x6f), (0x72, 0x75), (0x7a,
    0x7a), (0xdc, 0xdc), (0xfc, 0xfc), (0x1b7, 0x1b7), (0x292, 0x292)]),
  (0x30f, #[(0x41, 0x41), (0x45, 0x45), (0x49, 0x49), (0x4f, 0x4f), (0x52, 0x52), (0x55, 0x55),
    (0x61, 0x61), (0x65, 0x65), (0x69, 0x69), (0x6f, 0x6f), (0x72, 0x72), (0x75, 0x75), (0x474,
    0x475)]),
  (0x311, #[(0x41, 0x41), (0x45, 0x45), (0x49, 0x49), (0x4f, 0x4f), (0x52, 0x52), (0x55, 0x55),
    (0x61, 0x61), (0x65, 0x65), (0x69, 0x69), (0x6f, 0x6f), (0x72, 0x72), (0x75, 0x75)]),
  (0x313, #[(0x391, 0x391), (0x395, 0x395), (0x397, 0x397), (0x399, 0x399), (0x39f, 0x39f),
    (0x3a9, 0x3a9), (0x3b1, 0x3b1), (0x3b5, 0x3b5), (0x3b7, 0x3b7), (0x3b9, 0x3b9), (0x3bf,
    0x3bf), (0x3c1, 0x3c1), (0x3c5, 0x3c5), (0x3c9, 0x3c9)]),
  (0x314, #[(0x391, 0x391), (0x395, 0x395), (0x397, 0x397), (0x399, 0x399), (0x39f, 0x39f),
    (0x3a1, 0x3a1), (0x3a5, 0x3a5), (0x3a9, 0x3a9), (0x3b1, 0x3b1), (0x3b5, 0x3b5), (0x3b7,
    0x3b7), (0x3b9, 0x3b9), (0x3bf, 0x3bf), (0x3c1, 0x3c1), (0x3c5, 0x3c5), (0x3c9, 0x3c9)]),
  (0x31b, #[(0x4f, 0x4f), (0x55, 0x55), (0x6f, 0x6f), (0x75, 0x75)]),
  (0x323, #[(0x41, 0x42), (0x44, 0x45), (0x48, 0x49), (0x4b, 0x4f), (0x52, 0x57), (0x59, 0x5a),
    (0x61, 0x62), (0x64, 0x65), (0x68, 0x69), (0x6b, 0x6f), (0x72, 0x77), (0x79, 0x7a), (0x1a0,
    0x1a1), (0x1af, 0x1b0)]),
  (0x324, #[(0x55, 0x55), (0x75, 0x75)]),
  (0x325, #[(0x41, 0x41), (0x61, 0x61)]),
  (0x326, #[(0x53, 0x54), (0x73, 0x74)]),
  (0x327, #[(0x43, 0x45), (0x47, 0x48), (0x4b, 0x4c), (0x4e, 0x4e), (0x52, 0x54), (0x63, 0x65),
    (0x67, 0x68), (0x6b, 0x6c), (0x6e, 0x6e), (0x72, 0x74)]),
  (0x328, #[(0x41, 0x41), (0x45, 0x45), (0x49, 0x49), (0x4f, 0x4f), (0x55, 0x55), (0x61, 0x61),
    (0x65, 0x65), (0x69, 0x69), (0x6f, 0x6f), (0x75, 0x75)]),
  (0x32d, #[(0x44, 0x45), (0x4c, 0x4c), (0x4e, 0x4e), (0x54, 0x55), (0x64, 0x65), (0x6c, 0x6c),
    (0x6e, 0x6e), (0x74, 0x75)]),
  (0x32e, #[(0x48, 0x48), (0x68, 0x68)]),
  (0x330, #[(0x45, 0x45), (0x49, 0x49), (0x55, 0x55), (0x65, 0x65), (0x69, 0x69), (0x75, 0x75)]),
  (0x331, #[(0x42, 0x42), (0x44, 0x44), (0x4b, 0x4c), (0x4e, 0x4e), (0x52, 0x52), (0x54, 0x54),
    (0x5a, 0x5a), (0x62, 0x62), (0x64, 0x64), (0x68, 0x68), (0x6b, 0x6c), (0x6e, 0x6e), (0x72,
    0x72), (0x74, 0x74), (0x7a, 0x7a)]),
  (0x338, #[(0x3c, 0x3e), (0x2190, 0x2190), (0x2192, 0x2192), (0x2194, 0x2194), (0x21d0, 0x21d0),
    (0x21d2, 0x21d2), (0x21d4, 0x21d4), (0x2203, 0x2203), (0x2208, 0x2208), (0x220b, 0x220b),
    (0x2223, 0x2223), (0x2225, 0x2225), (0x223c, 0x223c), (0x2243, 0x2243), (0x2245, 0x2245),
    (0x2248, 0x2248), (0x224d, 0x224d), (0x2261, 0x2261), (0x2264, 0x2265), (0x2272, 0x2273),
    (0x2276, 0x2277), (0x227a, 0x227d), (0x2282, 0x2283), (0x2286, 0x2287), (0x2291, 0x2292),
    (0x22a2, 0x22a2), (0x22a8, 0x22a9), (0x22ab, 0x22ab), (0x22b2, 0x22b5)]),
  (0x342, #[(0xa8, 0xa8), (0x3b1, 0x3b1), (0x3b7, 0x3b7), (0x3b9, 0x3b9), (0x3c5, 0x3c5), (0x3c9,
    0x3cb), (0x1f00, 0x1f01), (0x1f08, 0x1f09), (0x1f20, 0x1f21), (0x1f28, 0x1f29), (0x1f30,
    0x1f31), (0x1f38, 0x1f39), (0x1f50, 0x1f51), (0x1f59, 0x1f59), (0x1f60, 0x1f61), (0x1f68,
    0x1f69), (0x1fbf, 0x1fbf), (0x1ffe, 0x1ffe)]),
  (0x345, #[(0x391, 0x391), (0x397, 0x397), (0x3a9, 0x3a9), (0x3ac, 0x3ac), (0x3ae, 0x3ae),
    (0x3b1, 0x3b1), (0x3b7, 0x3b7), (0x3c9, 0x3c9), (0x3ce, 0x3ce), (0x1f00, 0x1f0f), (0x1f20,
    0x1f2f), (0x1f60, 0x1f70), (0x1f74, 0x1f74), (0x1f7c, 0x1f7c), (0x1fb6, 0x1fb6), (0x1fc6,
    0x1fc6), (0x1ff6, 0x1ff6)]),
  (0x653, #[(0x627, 0x627)]),
  (0x654, #[(0x627, 0x627), (0x648, 0x648), (0x64a, 0x64a), (0x6c1, 0x6c1), (0x6d2, 0x6d2),
    (0x6d5, 0x6d5)]),
  (0x655, #[(0x627, 0x627)]),
  (0x93c, #[(0x928, 0x928), (0x930, 0x930), (0x933, 0x933)]),
  (0x9be, #[(0x9c7, 0x9c7)]),
  (0x9d7, #[(0x9c7, 0x9c7)]),
  (0xb3e, #[(0xb47, 0xb47)]),
  (0xb56, #[(0xb47, 0xb47)]),
  (0xb57, #[(0xb47, 0xb47)]),
  (0xbbe, #[(0xbc6, 0xbc7)]),
  (0xbd7, #[(0xb92, 0xb92), (0xbc6, 0xbc6)]),
  (0xc56, #[(0xc46, 0xc46)]),
  (0xcc2, #[(0xcc6, 0xcc6)]),
  (0xcd5, #[(0xcbf, 0xcbf), (0xcc6, 0xcc6), (0xcca, 0xcca)]),
  (0xcd6, #[(0xcc6, 0xcc6)]),
  (0xd3e, #[(0xd46, 0xd47)]),
  (0xd57, #[(0xd46, 0xd46)]),
  (0xdca, #[(0xdd9, 0xdd9), (0xddc, 0xddc)]),
  (0xdcf, #[(0xdd9, 0xdd9)]),
  (0xddf, #[(0xdd9, 0xdd9)]),
  (0x102e, #[(0x1025, 0x1025)]),
  (0x1b35, #[(0x1b05, 0x1b05), (0x1b07, 0x1b07), (0x1b09, 0x1b09), (0x1b0b, 0x1b0b), (0x1b0d,
    0x1b0d), (0x1b11, 0x1b11), (0x1b3a, 0x1b3a), (0x1b3c, 0x1b3c), (0x1b3e, 0x1b3f), (0x1b42,
    0x1b42)]),
  (0x3099, #[(0x3046, 0x3046), (0x304b, 0x304b), (0x304d, 0x304d), (0x304f, 0x304f), (0x3051,
    0x3051), (0x3053, 0x3053), (0x3055, 0x3055), (0x3057, 0x3057), (0x3059, 0x3059), (0x305b,
    0x305b), (0x305d, 0x305d), (0x305f, 0x305f), (0x3061, 0x3061), (0x3064, 0x3064), (0x3066,
    0x3066), (0x3068, 0x3068), (0x306f, 0x306f), (0x3072, 0x3072), (0x3075, 0x3075), (0x3078,
    0x3078), (0x307b, 0x307b), (0x309d, 0x309d), (0x30a6, 0x30a6), (0x30ab, 0x30ab), (0x30ad,
    0x30ad), (0x30af, 0x30af), (0x30b1, 0x30b1), (0x30b3, 0x30b3), (0x30b5, 0x30b5), (0x30b7,
    0x30b7), (0x30b9, 0x30b9), (0x30bb, 0x30bb), (0x30bd, 0x30bd), (0x30bf, 0x30bf), (0x30c1,
    0x30c1), (0x30c4, 0x30c4), (0x30c6, 0x30c6), (0x30c8, 0x30c8), (0x30cf, 0x30cf), (0x30d2,
    0x30d2), (0x30d5, 0x30d5), (0x30d8, 0x30d8), (0x30db, 0x30db), (0x30ef, 0x30f2), (0x30fd,
    0x30fd)]),
  (0x309a, #[(0x306f, 0x306f), (0x3072, 0x3072), (0x3075, 0x3075), (0x3078, 0x3078), (0x307b,
    0x307b), (0x30cf, 0x30cf), (0x30d2, 0x30d2), (0x30d5, 0x30d5), (0x30d8, 0x30d8), (0x30db,
    0x30db)]),
  (0x110ba, #[(0x11099, 0x11099), (0x1109b, 0x1109b), (0x110a5, 0x110a5)]),
  (0x11127, #[(0x11131, 0x11132)]),
  (0x1133e, #[(0x11347, 0x11347)]),
  (0x11357, #[(0x11347, 0x11347)]),
  (0x113b8, #[(0x113c2, 0x113c2)]),
  (0x113bb, #[(0x11384, 0x11384)]),
  (0x113c2, #[(0x1138b, 0x1138b), (0x113c2, 0x113c2)]),
  (0x113c9, #[(0x11382, 0x11382), (0x11390, 0x11390), (0x113c2, 0x113c2)]),
  (0x114b0, #[(0x114b9, 0x114b9)]),
  (0x114ba, #[(0x114b9, 0x114b9)]),
  (0x114bd, #[(0x114b9, 0x114b9)]),
  (0x115af, #[(0x115b8, 0x115b9)]),
  (0x11930, #[(0x11935, 0x11935)]),
  (0x1611e, #[(0x1611e, 0x1611e)]),
  (0x1611f, #[(0x1611e, 0x1611e), (0x16121, 0x16122), (0x16129, 0x16129)]),
  (0x16120, #[(0x1611e, 0x1611e), (0x16121, 0x16121)]),
  (0x16129, #[(0x1611e, 0x1611e)]),
  (0x16d67, #[(0x16d63, 0x16d63), (0x16d67, 0x16d67), (0x16d69, 0x16d69)])]

/-- Whether two parts of a Korean syllable make a larger one. -/
def joinsSyllable (c d : Nat) : Bool :=
  (0x1100 ≤ c && c ≤ 0x1112 && 0x1161 ≤ d && d ≤ 0x1175) ||
    (0xac00 ≤ c && c ≤ 0xd7a3 && (c - 0xac00) % 28 == 0 && 0x11a8 ≤ d && d ≤ 0x11c2)

/-- Whether two neighbours make one character. -/
def composes (c d : Char) : Bool :=
  joinsSyllable c.toNat d.toNat ||
    compositions.any fun (mark, runs) => mark == d.toNat && isListed runs c

/-- Whether nothing in the rest of a text makes one character with what precedes
it. `letter` is the last character that is no mark on another, and `last` the
class of the mark before the rest, if a mark is there. A mark reaches its letter
over marks of smaller classes. -/
def keepsApart (letter : Option Char) (last : Option Nat) : List Char → Bool
  | [] => true
  | c :: rest =>
    if last.all (· < combiningClass c) && letter.any (composes · c) then false
    else if combiningClass c = 0 then keepsApart (some c) none rest
    else keepsApart letter (some (combiningClass c)) rest

/-- Whether a text is composed. -/
def isComposed (cs : List Char) : Bool := ordered cs == cs && keepsApart none none cs

end DueDispatch.Text
