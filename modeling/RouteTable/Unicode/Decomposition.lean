import RouteTable.Text.Basic

namespace RouteTable.Unicode

-- Compatibility decompositions of Unicode 17.0 with letters of 18.0, fully expanded, in pages of 256
-- code points.
abbrev DecompositionPage := List (Nat × List Nat)

def decompositionPage0 : DecompositionPage :=
  [(0xA0, [0x20]), (0xA8, [0x20, 0x308]), (0xAA, [0x61]), (0xAF, [0x20, 0x304]), (0xB2, [0x32]),
   (0xB3, [0x33]), (0xB4, [0x20, 0x301]), (0xB5, [0x3BC]), (0xB8, [0x20, 0x327]), (0xB9, [0x31]),
   (0xBA, [0x6F]), (0xBC, [0x31, 0x2044, 0x34]), (0xBD, [0x31, 0x2044, 0x32]),
   (0xBE, [0x33, 0x2044, 0x34]), (0xC0, [0x41, 0x300]), (0xC1, [0x41, 0x301]),
   (0xC2, [0x41, 0x302]), (0xC3, [0x41, 0x303]), (0xC4, [0x41, 0x308]), (0xC5, [0x41, 0x30A]),
   (0xC7, [0x43, 0x327]), (0xC8, [0x45, 0x300]), (0xC9, [0x45, 0x301]), (0xCA, [0x45, 0x302]),
   (0xCB, [0x45, 0x308]), (0xCC, [0x49, 0x300]), (0xCD, [0x49, 0x301]), (0xCE, [0x49, 0x302]),
   (0xCF, [0x49, 0x308]), (0xD1, [0x4E, 0x303]), (0xD2, [0x4F, 0x300]), (0xD3, [0x4F, 0x301]),
   (0xD4, [0x4F, 0x302]), (0xD5, [0x4F, 0x303]), (0xD6, [0x4F, 0x308]), (0xD9, [0x55, 0x300]),
   (0xDA, [0x55, 0x301]), (0xDB, [0x55, 0x302]), (0xDC, [0x55, 0x308]), (0xDD, [0x59, 0x301]),
   (0xE0, [0x61, 0x300]), (0xE1, [0x61, 0x301]), (0xE2, [0x61, 0x302]), (0xE3, [0x61, 0x303]),
   (0xE4, [0x61, 0x308]), (0xE5, [0x61, 0x30A]), (0xE7, [0x63, 0x327]), (0xE8, [0x65, 0x300]),
   (0xE9, [0x65, 0x301]), (0xEA, [0x65, 0x302]), (0xEB, [0x65, 0x308]), (0xEC, [0x69, 0x300]),
   (0xED, [0x69, 0x301]), (0xEE, [0x69, 0x302]), (0xEF, [0x69, 0x308]), (0xF1, [0x6E, 0x303]),
   (0xF2, [0x6F, 0x300]), (0xF3, [0x6F, 0x301]), (0xF4, [0x6F, 0x302]), (0xF5, [0x6F, 0x303]),
   (0xF6, [0x6F, 0x308]), (0xF9, [0x75, 0x300]), (0xFA, [0x75, 0x301]), (0xFB, [0x75, 0x302]),
   (0xFC, [0x75, 0x308]), (0xFD, [0x79, 0x301]), (0xFF, [0x79, 0x308])]

def decompositionPage1 : DecompositionPage :=
  [(0x00, [0x41, 0x304]), (0x01, [0x61, 0x304]), (0x02, [0x41, 0x306]), (0x03, [0x61, 0x306]),
   (0x04, [0x41, 0x328]), (0x05, [0x61, 0x328]), (0x06, [0x43, 0x301]), (0x07, [0x63, 0x301]),
   (0x08, [0x43, 0x302]), (0x09, [0x63, 0x302]), (0x0A, [0x43, 0x307]), (0x0B, [0x63, 0x307]),
   (0x0C, [0x43, 0x30C]), (0x0D, [0x63, 0x30C]), (0x0E, [0x44, 0x30C]), (0x0F, [0x64, 0x30C]),
   (0x12, [0x45, 0x304]), (0x13, [0x65, 0x304]), (0x14, [0x45, 0x306]), (0x15, [0x65, 0x306]),
   (0x16, [0x45, 0x307]), (0x17, [0x65, 0x307]), (0x18, [0x45, 0x328]), (0x19, [0x65, 0x328]),
   (0x1A, [0x45, 0x30C]), (0x1B, [0x65, 0x30C]), (0x1C, [0x47, 0x302]), (0x1D, [0x67, 0x302]),
   (0x1E, [0x47, 0x306]), (0x1F, [0x67, 0x306]), (0x20, [0x47, 0x307]), (0x21, [0x67, 0x307]),
   (0x22, [0x47, 0x327]), (0x23, [0x67, 0x327]), (0x24, [0x48, 0x302]), (0x25, [0x68, 0x302]),
   (0x28, [0x49, 0x303]), (0x29, [0x69, 0x303]), (0x2A, [0x49, 0x304]), (0x2B, [0x69, 0x304]),
   (0x2C, [0x49, 0x306]), (0x2D, [0x69, 0x306]), (0x2E, [0x49, 0x328]), (0x2F, [0x69, 0x328]),
   (0x30, [0x49, 0x307]), (0x32, [0x49, 0x4A]), (0x33, [0x69, 0x6A]), (0x34, [0x4A, 0x302]),
   (0x35, [0x6A, 0x302]), (0x36, [0x4B, 0x327]), (0x37, [0x6B, 0x327]), (0x39, [0x4C, 0x301]),
   (0x3A, [0x6C, 0x301]), (0x3B, [0x4C, 0x327]), (0x3C, [0x6C, 0x327]), (0x3D, [0x4C, 0x30C]),
   (0x3E, [0x6C, 0x30C]), (0x3F, [0x4C, 0xB7]), (0x40, [0x6C, 0xB7]), (0x43, [0x4E, 0x301]),
   (0x44, [0x6E, 0x301]), (0x45, [0x4E, 0x327]), (0x46, [0x6E, 0x327]), (0x47, [0x4E, 0x30C]),
   (0x48, [0x6E, 0x30C]), (0x49, [0x2BC, 0x6E]), (0x4C, [0x4F, 0x304]), (0x4D, [0x6F, 0x304]),
   (0x4E, [0x4F, 0x306]), (0x4F, [0x6F, 0x306]), (0x50, [0x4F, 0x30B]), (0x51, [0x6F, 0x30B]),
   (0x54, [0x52, 0x301]), (0x55, [0x72, 0x301]), (0x56, [0x52, 0x327]), (0x57, [0x72, 0x327]),
   (0x58, [0x52, 0x30C]), (0x59, [0x72, 0x30C]), (0x5A, [0x53, 0x301]), (0x5B, [0x73, 0x301]),
   (0x5C, [0x53, 0x302]), (0x5D, [0x73, 0x302]), (0x5E, [0x53, 0x327]), (0x5F, [0x73, 0x327]),
   (0x60, [0x53, 0x30C]), (0x61, [0x73, 0x30C]), (0x62, [0x54, 0x327]), (0x63, [0x74, 0x327]),
   (0x64, [0x54, 0x30C]), (0x65, [0x74, 0x30C]), (0x68, [0x55, 0x303]), (0x69, [0x75, 0x303]),
   (0x6A, [0x55, 0x304]), (0x6B, [0x75, 0x304]), (0x6C, [0x55, 0x306]), (0x6D, [0x75, 0x306]),
   (0x6E, [0x55, 0x30A]), (0x6F, [0x75, 0x30A]), (0x70, [0x55, 0x30B]), (0x71, [0x75, 0x30B]),
   (0x72, [0x55, 0x328]), (0x73, [0x75, 0x328]), (0x74, [0x57, 0x302]), (0x75, [0x77, 0x302]),
   (0x76, [0x59, 0x302]), (0x77, [0x79, 0x302]), (0x78, [0x59, 0x308]), (0x79, [0x5A, 0x301]),
   (0x7A, [0x7A, 0x301]), (0x7B, [0x5A, 0x307]), (0x7C, [0x7A, 0x307]), (0x7D, [0x5A, 0x30C]),
   (0x7E, [0x7A, 0x30C]), (0x7F, [0x73]), (0xA0, [0x4F, 0x31B]), (0xA1, [0x6F, 0x31B]),
   (0xAF, [0x55, 0x31B]), (0xB0, [0x75, 0x31B]), (0xC4, [0x44, 0x5A, 0x30C]),
   (0xC5, [0x44, 0x7A, 0x30C]), (0xC6, [0x64, 0x7A, 0x30C]), (0xC7, [0x4C, 0x4A]),
   (0xC8, [0x4C, 0x6A]), (0xC9, [0x6C, 0x6A]), (0xCA, [0x4E, 0x4A]), (0xCB, [0x4E, 0x6A]),
   (0xCC, [0x6E, 0x6A]), (0xCD, [0x41, 0x30C]), (0xCE, [0x61, 0x30C]), (0xCF, [0x49, 0x30C]),
   (0xD0, [0x69, 0x30C]), (0xD1, [0x4F, 0x30C]), (0xD2, [0x6F, 0x30C]), (0xD3, [0x55, 0x30C]),
   (0xD4, [0x75, 0x30C]), (0xD5, [0x55, 0x308, 0x304]), (0xD6, [0x75, 0x308, 0x304]),
   (0xD7, [0x55, 0x308, 0x301]), (0xD8, [0x75, 0x308, 0x301]), (0xD9, [0x55, 0x308, 0x30C]),
   (0xDA, [0x75, 0x308, 0x30C]), (0xDB, [0x55, 0x308, 0x300]), (0xDC, [0x75, 0x308, 0x300]),
   (0xDE, [0x41, 0x308, 0x304]), (0xDF, [0x61, 0x308, 0x304]), (0xE0, [0x41, 0x307, 0x304]),
   (0xE1, [0x61, 0x307, 0x304]), (0xE2, [0xC6, 0x304]), (0xE3, [0xE6, 0x304]),
   (0xE6, [0x47, 0x30C]), (0xE7, [0x67, 0x30C]), (0xE8, [0x4B, 0x30C]), (0xE9, [0x6B, 0x30C]),
   (0xEA, [0x4F, 0x328]), (0xEB, [0x6F, 0x328]), (0xEC, [0x4F, 0x328, 0x304]),
   (0xED, [0x6F, 0x328, 0x304]), (0xEE, [0x1B7, 0x30C]), (0xEF, [0x292, 0x30C]),
   (0xF0, [0x6A, 0x30C]), (0xF1, [0x44, 0x5A]), (0xF2, [0x44, 0x7A]), (0xF3, [0x64, 0x7A]),
   (0xF4, [0x47, 0x301]), (0xF5, [0x67, 0x301]), (0xF8, [0x4E, 0x300]), (0xF9, [0x6E, 0x300]),
   (0xFA, [0x41, 0x30A, 0x301]), (0xFB, [0x61, 0x30A, 0x301]), (0xFC, [0xC6, 0x301]),
   (0xFD, [0xE6, 0x301]), (0xFE, [0xD8, 0x301]), (0xFF, [0xF8, 0x301])]

def decompositionPage2 : DecompositionPage :=
  [(0x00, [0x41, 0x30F]), (0x01, [0x61, 0x30F]), (0x02, [0x41, 0x311]), (0x03, [0x61, 0x311]),
   (0x04, [0x45, 0x30F]), (0x05, [0x65, 0x30F]), (0x06, [0x45, 0x311]), (0x07, [0x65, 0x311]),
   (0x08, [0x49, 0x30F]), (0x09, [0x69, 0x30F]), (0x0A, [0x49, 0x311]), (0x0B, [0x69, 0x311]),
   (0x0C, [0x4F, 0x30F]), (0x0D, [0x6F, 0x30F]), (0x0E, [0x4F, 0x311]), (0x0F, [0x6F, 0x311]),
   (0x10, [0x52, 0x30F]), (0x11, [0x72, 0x30F]), (0x12, [0x52, 0x311]), (0x13, [0x72, 0x311]),
   (0x14, [0x55, 0x30F]), (0x15, [0x75, 0x30F]), (0x16, [0x55, 0x311]), (0x17, [0x75, 0x311]),
   (0x18, [0x53, 0x326]), (0x19, [0x73, 0x326]), (0x1A, [0x54, 0x326]), (0x1B, [0x74, 0x326]),
   (0x1E, [0x48, 0x30C]), (0x1F, [0x68, 0x30C]), (0x26, [0x41, 0x307]), (0x27, [0x61, 0x307]),
   (0x28, [0x45, 0x327]), (0x29, [0x65, 0x327]), (0x2A, [0x4F, 0x308, 0x304]),
   (0x2B, [0x6F, 0x308, 0x304]), (0x2C, [0x4F, 0x303, 0x304]), (0x2D, [0x6F, 0x303, 0x304]),
   (0x2E, [0x4F, 0x307]), (0x2F, [0x6F, 0x307]), (0x30, [0x4F, 0x307, 0x304]),
   (0x31, [0x6F, 0x307, 0x304]), (0x32, [0x59, 0x304]), (0x33, [0x79, 0x304]), (0xB0, [0x68]),
   (0xB1, [0x266]), (0xB2, [0x6A]), (0xB3, [0x72]), (0xB4, [0x279]), (0xB5, [0x27B]),
   (0xB6, [0x281]), (0xB7, [0x77]), (0xB8, [0x79]), (0xD8, [0x20, 0x306]), (0xD9, [0x20, 0x307]),
   (0xDA, [0x20, 0x30A]), (0xDB, [0x20, 0x328]), (0xDC, [0x20, 0x303]), (0xDD, [0x20, 0x30B]),
   (0xE0, [0x263]), (0xE1, [0x6C]), (0xE2, [0x73]), (0xE3, [0x78]), (0xE4, [0x295])]

def decompositionPage3 : DecompositionPage :=
  [(0x40, [0x300]), (0x41, [0x301]), (0x43, [0x313]), (0x44, [0x308, 0x301]), (0x74, [0x2B9]),
   (0x7A, [0x20, 0x345]), (0x7E, [0x3B]), (0x84, [0x20, 0x301]), (0x85, [0x20, 0x308, 0x301]),
   (0x86, [0x391, 0x301]), (0x87, [0xB7]), (0x88, [0x395, 0x301]), (0x89, [0x397, 0x301]),
   (0x8A, [0x399, 0x301]), (0x8C, [0x39F, 0x301]), (0x8E, [0x3A5, 0x301]), (0x8F, [0x3A9, 0x301]),
   (0x90, [0x3B9, 0x308, 0x301]), (0xAA, [0x399, 0x308]), (0xAB, [0x3A5, 0x308]),
   (0xAC, [0x3B1, 0x301]), (0xAD, [0x3B5, 0x301]), (0xAE, [0x3B7, 0x301]), (0xAF, [0x3B9, 0x301]),
   (0xB0, [0x3C5, 0x308, 0x301]), (0xCA, [0x3B9, 0x308]), (0xCB, [0x3C5, 0x308]),
   (0xCC, [0x3BF, 0x301]), (0xCD, [0x3C5, 0x301]), (0xCE, [0x3C9, 0x301]), (0xD0, [0x3B2]),
   (0xD1, [0x3B8]), (0xD2, [0x3A5]), (0xD3, [0x3A5, 0x301]), (0xD4, [0x3A5, 0x308]),
   (0xD5, [0x3C6]), (0xD6, [0x3C0]), (0xF0, [0x3BA]), (0xF1, [0x3C1]), (0xF2, [0x3C2]),
   (0xF4, [0x398]), (0xF5, [0x3B5]), (0xF9, [0x3A3])]

def decompositionPage4 : DecompositionPage :=
  [(0x00, [0x415, 0x300]), (0x01, [0x415, 0x308]), (0x03, [0x413, 0x301]), (0x07, [0x406, 0x308]),
   (0x0C, [0x41A, 0x301]), (0x0D, [0x418, 0x300]), (0x0E, [0x423, 0x306]), (0x19, [0x418, 0x306]),
   (0x39, [0x438, 0x306]), (0x50, [0x435, 0x300]), (0x51, [0x435, 0x308]), (0x53, [0x433, 0x301]),
   (0x57, [0x456, 0x308]), (0x5C, [0x43A, 0x301]), (0x5D, [0x438, 0x300]), (0x5E, [0x443, 0x306]),
   (0x76, [0x474, 0x30F]), (0x77, [0x475, 0x30F]), (0xC1, [0x416, 0x306]), (0xC2, [0x436, 0x306]),
   (0xD0, [0x410, 0x306]), (0xD1, [0x430, 0x306]), (0xD2, [0x410, 0x308]), (0xD3, [0x430, 0x308]),
   (0xD6, [0x415, 0x306]), (0xD7, [0x435, 0x306]), (0xDA, [0x4D8, 0x308]), (0xDB, [0x4D9, 0x308]),
   (0xDC, [0x416, 0x308]), (0xDD, [0x436, 0x308]), (0xDE, [0x417, 0x308]), (0xDF, [0x437, 0x308]),
   (0xE2, [0x418, 0x304]), (0xE3, [0x438, 0x304]), (0xE4, [0x418, 0x308]), (0xE5, [0x438, 0x308]),
   (0xE6, [0x41E, 0x308]), (0xE7, [0x43E, 0x308]), (0xEA, [0x4E8, 0x308]), (0xEB, [0x4E9, 0x308]),
   (0xEC, [0x42D, 0x308]), (0xED, [0x44D, 0x308]), (0xEE, [0x423, 0x304]), (0xEF, [0x443, 0x304]),
   (0xF0, [0x423, 0x308]), (0xF1, [0x443, 0x308]), (0xF2, [0x423, 0x30B]), (0xF3, [0x443, 0x30B]),
   (0xF4, [0x427, 0x308]), (0xF5, [0x447, 0x308]), (0xF8, [0x42B, 0x308]), (0xF9, [0x44B, 0x308])]

def decompositionPage5 : DecompositionPage :=
  [(0x87, [0x565, 0x582])]

def decompositionPage6 : DecompositionPage :=
  [(0x22, [0x627, 0x653]), (0x23, [0x627, 0x654]), (0x24, [0x648, 0x654]), (0x25, [0x627, 0x655]),
   (0x26, [0x64A, 0x654]), (0x75, [0x627, 0x674]), (0x76, [0x648, 0x674]), (0x77, [0x6C7, 0x674]),
   (0x78, [0x64A, 0x674]), (0xC0, [0x6D5, 0x654]), (0xC2, [0x6C1, 0x654]), (0xD3, [0x6D2, 0x654])]

def decompositionPage9 : DecompositionPage :=
  [(0x29, [0x928, 0x93C]), (0x31, [0x930, 0x93C]), (0x34, [0x933, 0x93C]), (0x58, [0x915, 0x93C]),
   (0x59, [0x916, 0x93C]), (0x5A, [0x917, 0x93C]), (0x5B, [0x91C, 0x93C]), (0x5C, [0x921, 0x93C]),
   (0x5D, [0x922, 0x93C]), (0x5E, [0x92B, 0x93C]), (0x5F, [0x92F, 0x93C]), (0xCB, [0x9C7, 0x9BE]),
   (0xCC, [0x9C7, 0x9D7]), (0xDC, [0x9A1, 0x9BC]), (0xDD, [0x9A2, 0x9BC]), (0xDF, [0x9AF, 0x9BC])]

def decompositionPageA : DecompositionPage :=
  [(0x33, [0xA32, 0xA3C]), (0x36, [0xA38, 0xA3C]), (0x59, [0xA16, 0xA3C]), (0x5A, [0xA17, 0xA3C]),
   (0x5B, [0xA1C, 0xA3C]), (0x5E, [0xA2B, 0xA3C])]

def decompositionPageB : DecompositionPage :=
  [(0x48, [0xB47, 0xB56]), (0x4B, [0xB47, 0xB3E]), (0x4C, [0xB47, 0xB57]), (0x5C, [0xB21, 0xB3C]),
   (0x5D, [0xB22, 0xB3C]), (0x94, [0xB92, 0xBD7]), (0xCA, [0xBC6, 0xBBE]), (0xCB, [0xBC7, 0xBBE]),
   (0xCC, [0xBC6, 0xBD7])]

def decompositionPageC : DecompositionPage :=
  [(0x48, [0xC46, 0xC56]), (0xC0, [0xCBF, 0xCD5]), (0xC7, [0xCC6, 0xCD5]), (0xC8, [0xCC6, 0xCD6]),
   (0xCA, [0xCC6, 0xCC2]), (0xCB, [0xCC6, 0xCC2, 0xCD5])]

def decompositionPageD : DecompositionPage :=
  [(0x4A, [0xD46, 0xD3E]), (0x4B, [0xD47, 0xD3E]), (0x4C, [0xD46, 0xD57]), (0xDA, [0xDD9, 0xDCA]),
   (0xDC, [0xDD9, 0xDCF]), (0xDD, [0xDD9, 0xDCF, 0xDCA]), (0xDE, [0xDD9, 0xDDF])]

def decompositionPageE : DecompositionPage :=
  [(0x33, [0xE4D, 0xE32]), (0xB3, [0xECD, 0xEB2]), (0xDC, [0xEAB, 0xE99]), (0xDD, [0xEAB, 0xEA1])]

def decompositionPageF : DecompositionPage :=
  [(0x0C, [0xF0B]), (0x43, [0xF42, 0xFB7]), (0x4D, [0xF4C, 0xFB7]), (0x52, [0xF51, 0xFB7]),
   (0x57, [0xF56, 0xFB7]), (0x5C, [0xF5B, 0xFB7]), (0x69, [0xF40, 0xFB5]), (0x73, [0xF71, 0xF72]),
   (0x75, [0xF71, 0xF74]), (0x76, [0xFB2, 0xF80]), (0x77, [0xFB2, 0xF71, 0xF80]),
   (0x78, [0xFB3, 0xF80]), (0x79, [0xFB3, 0xF71, 0xF80]), (0x81, [0xF71, 0xF80]),
   (0x93, [0xF92, 0xFB7]), (0x9D, [0xF9C, 0xFB7]), (0xA2, [0xFA1, 0xFB7]), (0xA7, [0xFA6, 0xFB7]),
   (0xAC, [0xFAB, 0xFB7]), (0xB9, [0xF90, 0xFB5])]

def decompositionPage10 : DecompositionPage :=
  [(0x26, [0x1025, 0x102E]), (0xFC, [0x10DC])]

def decompositionPage1B : DecompositionPage :=
  [(0x06, [0x1B05, 0x1B35]), (0x08, [0x1B07, 0x1B35]), (0x0A, [0x1B09, 0x1B35]),
   (0x0C, [0x1B0B, 0x1B35]), (0x0E, [0x1B0D, 0x1B35]), (0x12, [0x1B11, 0x1B35]),
   (0x3B, [0x1B3A, 0x1B35]), (0x3D, [0x1B3C, 0x1B35]), (0x40, [0x1B3E, 0x1B35]),
   (0x41, [0x1B3F, 0x1B35]), (0x43, [0x1B42, 0x1B35])]

def decompositionPage1D : DecompositionPage :=
  [(0x2C, [0x41]), (0x2D, [0xC6]), (0x2E, [0x42]), (0x30, [0x44]), (0x31, [0x45]),
   (0x32, [0x18E]), (0x33, [0x47]), (0x34, [0x48]), (0x35, [0x49]), (0x36, [0x4A]),
   (0x37, [0x4B]), (0x38, [0x4C]), (0x39, [0x4D]), (0x3A, [0x4E]), (0x3C, [0x4F]),
   (0x3D, [0x222]), (0x3E, [0x50]), (0x3F, [0x52]), (0x40, [0x54]), (0x41, [0x55]),
   (0x42, [0x57]), (0x43, [0x61]), (0x44, [0x250]), (0x45, [0x251]), (0x46, [0x1D02]),
   (0x47, [0x62]), (0x48, [0x64]), (0x49, [0x65]), (0x4A, [0x259]), (0x4B, [0x25B]),
   (0x4C, [0x25C]), (0x4D, [0x67]), (0x4F, [0x6B]), (0x50, [0x6D]), (0x51, [0x14B]),
   (0x52, [0x6F]), (0x53, [0x254]), (0x54, [0x1D16]), (0x55, [0x1D17]), (0x56, [0x70]),
   (0x57, [0x74]), (0x58, [0x75]), (0x59, [0x1D1D]), (0x5A, [0x26F]), (0x5B, [0x76]),
   (0x5C, [0x1D25]), (0x5D, [0x3B2]), (0x5E, [0x3B3]), (0x5F, [0x3B4]), (0x60, [0x3C6]),
   (0x61, [0x3C7]), (0x62, [0x69]), (0x63, [0x72]), (0x64, [0x75]), (0x65, [0x76]),
   (0x66, [0x3B2]), (0x67, [0x3B3]), (0x68, [0x3C1]), (0x69, [0x3C6]), (0x6A, [0x3C7]),
   (0x78, [0x43D]), (0x9B, [0x252]), (0x9C, [0x63]), (0x9D, [0x255]), (0x9E, [0xF0]),
   (0x9F, [0x25C]), (0xA0, [0x66]), (0xA1, [0x25F]), (0xA2, [0x261]), (0xA3, [0x265]),
   (0xA4, [0x268]), (0xA5, [0x269]), (0xA6, [0x26A]), (0xA7, [0x1D7B]), (0xA8, [0x29D]),
   (0xA9, [0x26D]), (0xAA, [0x1D85]), (0xAB, [0x29F]), (0xAC, [0x271]), (0xAD, [0x270]),
   (0xAE, [0x272]), (0xAF, [0x273]), (0xB0, [0x274]), (0xB1, [0x275]), (0xB2, [0x278]),
   (0xB3, [0x282]), (0xB4, [0x283]), (0xB5, [0x1AB]), (0xB6, [0x289]), (0xB7, [0x28A]),
   (0xB8, [0x1D1C]), (0xB9, [0x28B]), (0xBA, [0x28C]), (0xBB, [0x7A]), (0xBC, [0x290]),
   (0xBD, [0x291]), (0xBE, [0x292]), (0xBF, [0x3B8])]

def decompositionPage1E : DecompositionPage :=
  [(0x00, [0x41, 0x325]), (0x01, [0x61, 0x325]), (0x02, [0x42, 0x307]), (0x03, [0x62, 0x307]),
   (0x04, [0x42, 0x323]), (0x05, [0x62, 0x323]), (0x06, [0x42, 0x331]), (0x07, [0x62, 0x331]),
   (0x08, [0x43, 0x327, 0x301]), (0x09, [0x63, 0x327, 0x301]), (0x0A, [0x44, 0x307]),
   (0x0B, [0x64, 0x307]), (0x0C, [0x44, 0x323]), (0x0D, [0x64, 0x323]), (0x0E, [0x44, 0x331]),
   (0x0F, [0x64, 0x331]), (0x10, [0x44, 0x327]), (0x11, [0x64, 0x327]), (0x12, [0x44, 0x32D]),
   (0x13, [0x64, 0x32D]), (0x14, [0x45, 0x304, 0x300]), (0x15, [0x65, 0x304, 0x300]),
   (0x16, [0x45, 0x304, 0x301]), (0x17, [0x65, 0x304, 0x301]), (0x18, [0x45, 0x32D]),
   (0x19, [0x65, 0x32D]), (0x1A, [0x45, 0x330]), (0x1B, [0x65, 0x330]),
   (0x1C, [0x45, 0x327, 0x306]), (0x1D, [0x65, 0x327, 0x306]), (0x1E, [0x46, 0x307]),
   (0x1F, [0x66, 0x307]), (0x20, [0x47, 0x304]), (0x21, [0x67, 0x304]), (0x22, [0x48, 0x307]),
   (0x23, [0x68, 0x307]), (0x24, [0x48, 0x323]), (0x25, [0x68, 0x323]), (0x26, [0x48, 0x308]),
   (0x27, [0x68, 0x308]), (0x28, [0x48, 0x327]), (0x29, [0x68, 0x327]), (0x2A, [0x48, 0x32E]),
   (0x2B, [0x68, 0x32E]), (0x2C, [0x49, 0x330]), (0x2D, [0x69, 0x330]),
   (0x2E, [0x49, 0x308, 0x301]), (0x2F, [0x69, 0x308, 0x301]), (0x30, [0x4B, 0x301]),
   (0x31, [0x6B, 0x301]), (0x32, [0x4B, 0x323]), (0x33, [0x6B, 0x323]), (0x34, [0x4B, 0x331]),
   (0x35, [0x6B, 0x331]), (0x36, [0x4C, 0x323]), (0x37, [0x6C, 0x323]),
   (0x38, [0x4C, 0x323, 0x304]), (0x39, [0x6C, 0x323, 0x304]), (0x3A, [0x4C, 0x331]),
   (0x3B, [0x6C, 0x331]), (0x3C, [0x4C, 0x32D]), (0x3D, [0x6C, 0x32D]), (0x3E, [0x4D, 0x301]),
   (0x3F, [0x6D, 0x301]), (0x40, [0x4D, 0x307]), (0x41, [0x6D, 0x307]), (0x42, [0x4D, 0x323]),
   (0x43, [0x6D, 0x323]), (0x44, [0x4E, 0x307]), (0x45, [0x6E, 0x307]), (0x46, [0x4E, 0x323]),
   (0x47, [0x6E, 0x323]), (0x48, [0x4E, 0x331]), (0x49, [0x6E, 0x331]), (0x4A, [0x4E, 0x32D]),
   (0x4B, [0x6E, 0x32D]), (0x4C, [0x4F, 0x303, 0x301]), (0x4D, [0x6F, 0x303, 0x301]),
   (0x4E, [0x4F, 0x303, 0x308]), (0x4F, [0x6F, 0x303, 0x308]), (0x50, [0x4F, 0x304, 0x300]),
   (0x51, [0x6F, 0x304, 0x300]), (0x52, [0x4F, 0x304, 0x301]), (0x53, [0x6F, 0x304, 0x301]),
   (0x54, [0x50, 0x301]), (0x55, [0x70, 0x301]), (0x56, [0x50, 0x307]), (0x57, [0x70, 0x307]),
   (0x58, [0x52, 0x307]), (0x59, [0x72, 0x307]), (0x5A, [0x52, 0x323]), (0x5B, [0x72, 0x323]),
   (0x5C, [0x52, 0x323, 0x304]), (0x5D, [0x72, 0x323, 0x304]), (0x5E, [0x52, 0x331]),
   (0x5F, [0x72, 0x331]), (0x60, [0x53, 0x307]), (0x61, [0x73, 0x307]), (0x62, [0x53, 0x323]),
   (0x63, [0x73, 0x323]), (0x64, [0x53, 0x301, 0x307]), (0x65, [0x73, 0x301, 0x307]),
   (0x66, [0x53, 0x30C, 0x307]), (0x67, [0x73, 0x30C, 0x307]), (0x68, [0x53, 0x323, 0x307]),
   (0x69, [0x73, 0x323, 0x307]), (0x6A, [0x54, 0x307]), (0x6B, [0x74, 0x307]),
   (0x6C, [0x54, 0x323]), (0x6D, [0x74, 0x323]), (0x6E, [0x54, 0x331]), (0x6F, [0x74, 0x331]),
   (0x70, [0x54, 0x32D]), (0x71, [0x74, 0x32D]), (0x72, [0x55, 0x324]), (0x73, [0x75, 0x324]),
   (0x74, [0x55, 0x330]), (0x75, [0x75, 0x330]), (0x76, [0x55, 0x32D]), (0x77, [0x75, 0x32D]),
   (0x78, [0x55, 0x303, 0x301]), (0x79, [0x75, 0x303, 0x301]), (0x7A, [0x55, 0x304, 0x308]),
   (0x7B, [0x75, 0x304, 0x308]), (0x7C, [0x56, 0x303]), (0x7D, [0x76, 0x303]),
   (0x7E, [0x56, 0x323]), (0x7F, [0x76, 0x323]), (0x80, [0x57, 0x300]), (0x81, [0x77, 0x300]),
   (0x82, [0x57, 0x301]), (0x83, [0x77, 0x301]), (0x84, [0x57, 0x308]), (0x85, [0x77, 0x308]),
   (0x86, [0x57, 0x307]), (0x87, [0x77, 0x307]), (0x88, [0x57, 0x323]), (0x89, [0x77, 0x323]),
   (0x8A, [0x58, 0x307]), (0x8B, [0x78, 0x307]), (0x8C, [0x58, 0x308]), (0x8D, [0x78, 0x308]),
   (0x8E, [0x59, 0x307]), (0x8F, [0x79, 0x307]), (0x90, [0x5A, 0x302]), (0x91, [0x7A, 0x302]),
   (0x92, [0x5A, 0x323]), (0x93, [0x7A, 0x323]), (0x94, [0x5A, 0x331]), (0x95, [0x7A, 0x331]),
   (0x96, [0x68, 0x331]), (0x97, [0x74, 0x308]), (0x98, [0x77, 0x30A]), (0x99, [0x79, 0x30A]),
   (0x9A, [0x61, 0x2BE]), (0x9B, [0x73, 0x307]), (0xA0, [0x41, 0x323]), (0xA1, [0x61, 0x323]),
   (0xA2, [0x41, 0x309]), (0xA3, [0x61, 0x309]), (0xA4, [0x41, 0x302, 0x301]),
   (0xA5, [0x61, 0x302, 0x301]), (0xA6, [0x41, 0x302, 0x300]), (0xA7, [0x61, 0x302, 0x300]),
   (0xA8, [0x41, 0x302, 0x309]), (0xA9, [0x61, 0x302, 0x309]), (0xAA, [0x41, 0x302, 0x303]),
   (0xAB, [0x61, 0x302, 0x303]), (0xAC, [0x41, 0x323, 0x302]), (0xAD, [0x61, 0x323, 0x302]),
   (0xAE, [0x41, 0x306, 0x301]), (0xAF, [0x61, 0x306, 0x301]), (0xB0, [0x41, 0x306, 0x300]),
   (0xB1, [0x61, 0x306, 0x300]), (0xB2, [0x41, 0x306, 0x309]), (0xB3, [0x61, 0x306, 0x309]),
   (0xB4, [0x41, 0x306, 0x303]), (0xB5, [0x61, 0x306, 0x303]), (0xB6, [0x41, 0x323, 0x306]),
   (0xB7, [0x61, 0x323, 0x306]), (0xB8, [0x45, 0x323]), (0xB9, [0x65, 0x323]),
   (0xBA, [0x45, 0x309]), (0xBB, [0x65, 0x309]), (0xBC, [0x45, 0x303]), (0xBD, [0x65, 0x303]),
   (0xBE, [0x45, 0x302, 0x301]), (0xBF, [0x65, 0x302, 0x301]), (0xC0, [0x45, 0x302, 0x300]),
   (0xC1, [0x65, 0x302, 0x300]), (0xC2, [0x45, 0x302, 0x309]), (0xC3, [0x65, 0x302, 0x309]),
   (0xC4, [0x45, 0x302, 0x303]), (0xC5, [0x65, 0x302, 0x303]), (0xC6, [0x45, 0x323, 0x302]),
   (0xC7, [0x65, 0x323, 0x302]), (0xC8, [0x49, 0x309]), (0xC9, [0x69, 0x309]),
   (0xCA, [0x49, 0x323]), (0xCB, [0x69, 0x323]), (0xCC, [0x4F, 0x323]), (0xCD, [0x6F, 0x323]),
   (0xCE, [0x4F, 0x309]), (0xCF, [0x6F, 0x309]), (0xD0, [0x4F, 0x302, 0x301]),
   (0xD1, [0x6F, 0x302, 0x301]), (0xD2, [0x4F, 0x302, 0x300]), (0xD3, [0x6F, 0x302, 0x300]),
   (0xD4, [0x4F, 0x302, 0x309]), (0xD5, [0x6F, 0x302, 0x309]), (0xD6, [0x4F, 0x302, 0x303]),
   (0xD7, [0x6F, 0x302, 0x303]), (0xD8, [0x4F, 0x323, 0x302]), (0xD9, [0x6F, 0x323, 0x302]),
   (0xDA, [0x4F, 0x31B, 0x301]), (0xDB, [0x6F, 0x31B, 0x301]), (0xDC, [0x4F, 0x31B, 0x300]),
   (0xDD, [0x6F, 0x31B, 0x300]), (0xDE, [0x4F, 0x31B, 0x309]), (0xDF, [0x6F, 0x31B, 0x309]),
   (0xE0, [0x4F, 0x31B, 0x303]), (0xE1, [0x6F, 0x31B, 0x303]), (0xE2, [0x4F, 0x31B, 0x323]),
   (0xE3, [0x6F, 0x31B, 0x323]), (0xE4, [0x55, 0x323]), (0xE5, [0x75, 0x323]),
   (0xE6, [0x55, 0x309]), (0xE7, [0x75, 0x309]), (0xE8, [0x55, 0x31B, 0x301]),
   (0xE9, [0x75, 0x31B, 0x301]), (0xEA, [0x55, 0x31B, 0x300]), (0xEB, [0x75, 0x31B, 0x300]),
   (0xEC, [0x55, 0x31B, 0x309]), (0xED, [0x75, 0x31B, 0x309]), (0xEE, [0x55, 0x31B, 0x303]),
   (0xEF, [0x75, 0x31B, 0x303]), (0xF0, [0x55, 0x31B, 0x323]), (0xF1, [0x75, 0x31B, 0x323]),
   (0xF2, [0x59, 0x300]), (0xF3, [0x79, 0x300]), (0xF4, [0x59, 0x323]), (0xF5, [0x79, 0x323]),
   (0xF6, [0x59, 0x309]), (0xF7, [0x79, 0x309]), (0xF8, [0x59, 0x303]), (0xF9, [0x79, 0x303])]

def decompositionPage1F : DecompositionPage :=
  [(0x00, [0x3B1, 0x313]), (0x01, [0x3B1, 0x314]), (0x02, [0x3B1, 0x313, 0x300]),
   (0x03, [0x3B1, 0x314, 0x300]), (0x04, [0x3B1, 0x313, 0x301]), (0x05, [0x3B1, 0x314, 0x301]),
   (0x06, [0x3B1, 0x313, 0x342]), (0x07, [0x3B1, 0x314, 0x342]), (0x08, [0x391, 0x313]),
   (0x09, [0x391, 0x314]), (0x0A, [0x391, 0x313, 0x300]), (0x0B, [0x391, 0x314, 0x300]),
   (0x0C, [0x391, 0x313, 0x301]), (0x0D, [0x391, 0x314, 0x301]), (0x0E, [0x391, 0x313, 0x342]),
   (0x0F, [0x391, 0x314, 0x342]), (0x10, [0x3B5, 0x313]), (0x11, [0x3B5, 0x314]),
   (0x12, [0x3B5, 0x313, 0x300]), (0x13, [0x3B5, 0x314, 0x300]), (0x14, [0x3B5, 0x313, 0x301]),
   (0x15, [0x3B5, 0x314, 0x301]), (0x18, [0x395, 0x313]), (0x19, [0x395, 0x314]),
   (0x1A, [0x395, 0x313, 0x300]), (0x1B, [0x395, 0x314, 0x300]), (0x1C, [0x395, 0x313, 0x301]),
   (0x1D, [0x395, 0x314, 0x301]), (0x20, [0x3B7, 0x313]), (0x21, [0x3B7, 0x314]),
   (0x22, [0x3B7, 0x313, 0x300]), (0x23, [0x3B7, 0x314, 0x300]), (0x24, [0x3B7, 0x313, 0x301]),
   (0x25, [0x3B7, 0x314, 0x301]), (0x26, [0x3B7, 0x313, 0x342]), (0x27, [0x3B7, 0x314, 0x342]),
   (0x28, [0x397, 0x313]), (0x29, [0x397, 0x314]), (0x2A, [0x397, 0x313, 0x300]),
   (0x2B, [0x397, 0x314, 0x300]), (0x2C, [0x397, 0x313, 0x301]), (0x2D, [0x397, 0x314, 0x301]),
   (0x2E, [0x397, 0x313, 0x342]), (0x2F, [0x397, 0x314, 0x342]), (0x30, [0x3B9, 0x313]),
   (0x31, [0x3B9, 0x314]), (0x32, [0x3B9, 0x313, 0x300]), (0x33, [0x3B9, 0x314, 0x300]),
   (0x34, [0x3B9, 0x313, 0x301]), (0x35, [0x3B9, 0x314, 0x301]), (0x36, [0x3B9, 0x313, 0x342]),
   (0x37, [0x3B9, 0x314, 0x342]), (0x38, [0x399, 0x313]), (0x39, [0x399, 0x314]),
   (0x3A, [0x399, 0x313, 0x300]), (0x3B, [0x399, 0x314, 0x300]), (0x3C, [0x399, 0x313, 0x301]),
   (0x3D, [0x399, 0x314, 0x301]), (0x3E, [0x399, 0x313, 0x342]), (0x3F, [0x399, 0x314, 0x342]),
   (0x40, [0x3BF, 0x313]), (0x41, [0x3BF, 0x314]), (0x42, [0x3BF, 0x313, 0x300]),
   (0x43, [0x3BF, 0x314, 0x300]), (0x44, [0x3BF, 0x313, 0x301]), (0x45, [0x3BF, 0x314, 0x301]),
   (0x48, [0x39F, 0x313]), (0x49, [0x39F, 0x314]), (0x4A, [0x39F, 0x313, 0x300]),
   (0x4B, [0x39F, 0x314, 0x300]), (0x4C, [0x39F, 0x313, 0x301]), (0x4D, [0x39F, 0x314, 0x301]),
   (0x50, [0x3C5, 0x313]), (0x51, [0x3C5, 0x314]), (0x52, [0x3C5, 0x313, 0x300]),
   (0x53, [0x3C5, 0x314, 0x300]), (0x54, [0x3C5, 0x313, 0x301]), (0x55, [0x3C5, 0x314, 0x301]),
   (0x56, [0x3C5, 0x313, 0x342]), (0x57, [0x3C5, 0x314, 0x342]), (0x59, [0x3A5, 0x314]),
   (0x5B, [0x3A5, 0x314, 0x300]), (0x5D, [0x3A5, 0x314, 0x301]), (0x5F, [0x3A5, 0x314, 0x342]),
   (0x60, [0x3C9, 0x313]), (0x61, [0x3C9, 0x314]), (0x62, [0x3C9, 0x313, 0x300]),
   (0x63, [0x3C9, 0x314, 0x300]), (0x64, [0x3C9, 0x313, 0x301]), (0x65, [0x3C9, 0x314, 0x301]),
   (0x66, [0x3C9, 0x313, 0x342]), (0x67, [0x3C9, 0x314, 0x342]), (0x68, [0x3A9, 0x313]),
   (0x69, [0x3A9, 0x314]), (0x6A, [0x3A9, 0x313, 0x300]), (0x6B, [0x3A9, 0x314, 0x300]),
   (0x6C, [0x3A9, 0x313, 0x301]), (0x6D, [0x3A9, 0x314, 0x301]), (0x6E, [0x3A9, 0x313, 0x342]),
   (0x6F, [0x3A9, 0x314, 0x342]), (0x70, [0x3B1, 0x300]), (0x71, [0x3B1, 0x301]),
   (0x72, [0x3B5, 0x300]), (0x73, [0x3B5, 0x301]), (0x74, [0x3B7, 0x300]), (0x75, [0x3B7, 0x301]),
   (0x76, [0x3B9, 0x300]), (0x77, [0x3B9, 0x301]), (0x78, [0x3BF, 0x300]), (0x79, [0x3BF, 0x301]),
   (0x7A, [0x3C5, 0x300]), (0x7B, [0x3C5, 0x301]), (0x7C, [0x3C9, 0x300]), (0x7D, [0x3C9, 0x301]),
   (0x80, [0x3B1, 0x313, 0x345]), (0x81, [0x3B1, 0x314, 0x345]),
   (0x82, [0x3B1, 0x313, 0x300, 0x345]), (0x83, [0x3B1, 0x314, 0x300, 0x345]),
   (0x84, [0x3B1, 0x313, 0x301, 0x345]), (0x85, [0x3B1, 0x314, 0x301, 0x345]),
   (0x86, [0x3B1, 0x313, 0x342, 0x345]), (0x87, [0x3B1, 0x314, 0x342, 0x345]),
   (0x88, [0x391, 0x313, 0x345]), (0x89, [0x391, 0x314, 0x345]),
   (0x8A, [0x391, 0x313, 0x300, 0x345]), (0x8B, [0x391, 0x314, 0x300, 0x345]),
   (0x8C, [0x391, 0x313, 0x301, 0x345]), (0x8D, [0x391, 0x314, 0x301, 0x345]),
   (0x8E, [0x391, 0x313, 0x342, 0x345]), (0x8F, [0x391, 0x314, 0x342, 0x345]),
   (0x90, [0x3B7, 0x313, 0x345]), (0x91, [0x3B7, 0x314, 0x345]),
   (0x92, [0x3B7, 0x313, 0x300, 0x345]), (0x93, [0x3B7, 0x314, 0x300, 0x345]),
   (0x94, [0x3B7, 0x313, 0x301, 0x345]), (0x95, [0x3B7, 0x314, 0x301, 0x345]),
   (0x96, [0x3B7, 0x313, 0x342, 0x345]), (0x97, [0x3B7, 0x314, 0x342, 0x345]),
   (0x98, [0x397, 0x313, 0x345]), (0x99, [0x397, 0x314, 0x345]),
   (0x9A, [0x397, 0x313, 0x300, 0x345]), (0x9B, [0x397, 0x314, 0x300, 0x345]),
   (0x9C, [0x397, 0x313, 0x301, 0x345]), (0x9D, [0x397, 0x314, 0x301, 0x345]),
   (0x9E, [0x397, 0x313, 0x342, 0x345]), (0x9F, [0x397, 0x314, 0x342, 0x345]),
   (0xA0, [0x3C9, 0x313, 0x345]), (0xA1, [0x3C9, 0x314, 0x345]),
   (0xA2, [0x3C9, 0x313, 0x300, 0x345]), (0xA3, [0x3C9, 0x314, 0x300, 0x345]),
   (0xA4, [0x3C9, 0x313, 0x301, 0x345]), (0xA5, [0x3C9, 0x314, 0x301, 0x345]),
   (0xA6, [0x3C9, 0x313, 0x342, 0x345]), (0xA7, [0x3C9, 0x314, 0x342, 0x345]),
   (0xA8, [0x3A9, 0x313, 0x345]), (0xA9, [0x3A9, 0x314, 0x345]),
   (0xAA, [0x3A9, 0x313, 0x300, 0x345]), (0xAB, [0x3A9, 0x314, 0x300, 0x345]),
   (0xAC, [0x3A9, 0x313, 0x301, 0x345]), (0xAD, [0x3A9, 0x314, 0x301, 0x345]),
   (0xAE, [0x3A9, 0x313, 0x342, 0x345]), (0xAF, [0x3A9, 0x314, 0x342, 0x345]),
   (0xB0, [0x3B1, 0x306]), (0xB1, [0x3B1, 0x304]), (0xB2, [0x3B1, 0x300, 0x345]),
   (0xB3, [0x3B1, 0x345]), (0xB4, [0x3B1, 0x301, 0x345]), (0xB6, [0x3B1, 0x342]),
   (0xB7, [0x3B1, 0x342, 0x345]), (0xB8, [0x391, 0x306]), (0xB9, [0x391, 0x304]),
   (0xBA, [0x391, 0x300]), (0xBB, [0x391, 0x301]), (0xBC, [0x391, 0x345]), (0xBD, [0x20, 0x313]),
   (0xBE, [0x3B9]), (0xBF, [0x20, 0x313]), (0xC0, [0x20, 0x342]), (0xC1, [0x20, 0x308, 0x342]),
   (0xC2, [0x3B7, 0x300, 0x345]), (0xC3, [0x3B7, 0x345]), (0xC4, [0x3B7, 0x301, 0x345]),
   (0xC6, [0x3B7, 0x342]), (0xC7, [0x3B7, 0x342, 0x345]), (0xC8, [0x395, 0x300]),
   (0xC9, [0x395, 0x301]), (0xCA, [0x397, 0x300]), (0xCB, [0x397, 0x301]), (0xCC, [0x397, 0x345]),
   (0xCD, [0x20, 0x313, 0x300]), (0xCE, [0x20, 0x313, 0x301]), (0xCF, [0x20, 0x313, 0x342]),
   (0xD0, [0x3B9, 0x306]), (0xD1, [0x3B9, 0x304]), (0xD2, [0x3B9, 0x308, 0x300]),
   (0xD3, [0x3B9, 0x308, 0x301]), (0xD6, [0x3B9, 0x342]), (0xD7, [0x3B9, 0x308, 0x342]),
   (0xD8, [0x399, 0x306]), (0xD9, [0x399, 0x304]), (0xDA, [0x399, 0x300]), (0xDB, [0x399, 0x301]),
   (0xDD, [0x20, 0x314, 0x300]), (0xDE, [0x20, 0x314, 0x301]), (0xDF, [0x20, 0x314, 0x342]),
   (0xE0, [0x3C5, 0x306]), (0xE1, [0x3C5, 0x304]), (0xE2, [0x3C5, 0x308, 0x300]),
   (0xE3, [0x3C5, 0x308, 0x301]), (0xE4, [0x3C1, 0x313]), (0xE5, [0x3C1, 0x314]),
   (0xE6, [0x3C5, 0x342]), (0xE7, [0x3C5, 0x308, 0x342]), (0xE8, [0x3A5, 0x306]),
   (0xE9, [0x3A5, 0x304]), (0xEA, [0x3A5, 0x300]), (0xEB, [0x3A5, 0x301]), (0xEC, [0x3A1, 0x314]),
   (0xED, [0x20, 0x308, 0x300]), (0xEE, [0x20, 0x308, 0x301]), (0xEF, [0x60]),
   (0xF2, [0x3C9, 0x300, 0x345]), (0xF3, [0x3C9, 0x345]), (0xF4, [0x3C9, 0x301, 0x345]),
   (0xF6, [0x3C9, 0x342]), (0xF7, [0x3C9, 0x342, 0x345]), (0xF8, [0x39F, 0x300]),
   (0xF9, [0x39F, 0x301]), (0xFA, [0x3A9, 0x300]), (0xFB, [0x3A9, 0x301]), (0xFC, [0x3A9, 0x345]),
   (0xFD, [0x20, 0x301]), (0xFE, [0x20, 0x314])]

def decompositionPage20 : DecompositionPage :=
  [(0x00, [0x20]), (0x01, [0x20]), (0x02, [0x20]), (0x03, [0x20]), (0x04, [0x20]), (0x05, [0x20]),
   (0x06, [0x20]), (0x07, [0x20]), (0x08, [0x20]), (0x09, [0x20]), (0x0A, [0x20]),
   (0x11, [0x2010]), (0x17, [0x20, 0x333]), (0x24, [0x2E]), (0x25, [0x2E, 0x2E]),
   (0x26, [0x2E, 0x2E, 0x2E]), (0x2F, [0x20]), (0x33, [0x2032, 0x2032]),
   (0x34, [0x2032, 0x2032, 0x2032]), (0x36, [0x2035, 0x2035]), (0x37, [0x2035, 0x2035, 0x2035]),
   (0x3C, [0x21, 0x21]), (0x3E, [0x20, 0x305]), (0x47, [0x3F, 0x3F]), (0x48, [0x3F, 0x21]),
   (0x49, [0x21, 0x3F]), (0x57, [0x2032, 0x2032, 0x2032, 0x2032]), (0x5F, [0x20]), (0x70, [0x30]),
   (0x71, [0x69]), (0x74, [0x34]), (0x75, [0x35]), (0x76, [0x36]), (0x77, [0x37]), (0x78, [0x38]),
   (0x79, [0x39]), (0x7A, [0x2B]), (0x7B, [0x2212]), (0x7C, [0x3D]), (0x7D, [0x28]),
   (0x7E, [0x29]), (0x7F, [0x6E]), (0x80, [0x30]), (0x81, [0x31]), (0x82, [0x32]), (0x83, [0x33]),
   (0x84, [0x34]), (0x85, [0x35]), (0x86, [0x36]), (0x87, [0x37]), (0x88, [0x38]), (0x89, [0x39]),
   (0x8A, [0x2B]), (0x8B, [0x2212]), (0x8C, [0x3D]), (0x8D, [0x28]), (0x8E, [0x29]),
   (0x90, [0x61]), (0x91, [0x65]), (0x92, [0x6F]), (0x93, [0x78]), (0x94, [0x259]),
   (0x95, [0x68]), (0x96, [0x6B]), (0x97, [0x6C]), (0x98, [0x6D]), (0x99, [0x6E]), (0x9A, [0x70]),
   (0x9B, [0x73]), (0x9C, [0x74]), (0x9D, [0x77]), (0x9E, [0x79]), (0x9F, [0x7A]),
   (0xA8, [0x52, 0x73])]

def decompositionPage21 : DecompositionPage :=
  [(0x00, [0x61, 0x2F, 0x63]), (0x01, [0x61, 0x2F, 0x73]), (0x02, [0x43]), (0x03, [0xB0, 0x43]),
   (0x05, [0x63, 0x2F, 0x6F]), (0x06, [0x63, 0x2F, 0x75]), (0x07, [0x190]), (0x09, [0xB0, 0x46]),
   (0x0A, [0x67]), (0x0B, [0x48]), (0x0C, [0x48]), (0x0D, [0x48]), (0x0E, [0x68]),
   (0x0F, [0x127]), (0x10, [0x49]), (0x11, [0x49]), (0x12, [0x4C]), (0x13, [0x6C]),
   (0x15, [0x4E]), (0x16, [0x4E, 0x6F]), (0x19, [0x50]), (0x1A, [0x51]), (0x1B, [0x52]),
   (0x1C, [0x52]), (0x1D, [0x52]), (0x20, [0x53, 0x4D]), (0x21, [0x54, 0x45, 0x4C]),
   (0x22, [0x54, 0x4D]), (0x24, [0x5A]), (0x26, [0x3A9]), (0x28, [0x5A]), (0x2A, [0x4B]),
   (0x2B, [0x41, 0x30A]), (0x2C, [0x42]), (0x2D, [0x43]), (0x2F, [0x65]), (0x30, [0x45]),
   (0x31, [0x46]), (0x33, [0x4D]), (0x34, [0x6F]), (0x35, [0x5D0]), (0x36, [0x5D1]),
   (0x37, [0x5D2]), (0x38, [0x5D3]), (0x39, [0x69]), (0x3B, [0x46, 0x41, 0x58]), (0x3C, [0x3C0]),
   (0x3D, [0x3B3]), (0x3E, [0x393]), (0x3F, [0x3A0]), (0x40, [0x2211]), (0x45, [0x44]),
   (0x46, [0x64]), (0x47, [0x65]), (0x48, [0x69]), (0x49, [0x6A]), (0x50, [0x31, 0x2044, 0x37]),
   (0x51, [0x31, 0x2044, 0x39]), (0x52, [0x31, 0x2044, 0x31, 0x30]), (0x53, [0x31, 0x2044, 0x33]),
   (0x54, [0x32, 0x2044, 0x33]), (0x55, [0x31, 0x2044, 0x35]), (0x56, [0x32, 0x2044, 0x35]),
   (0x57, [0x33, 0x2044, 0x35]), (0x58, [0x34, 0x2044, 0x35]), (0x59, [0x31, 0x2044, 0x36]),
   (0x5A, [0x35, 0x2044, 0x36]), (0x5B, [0x31, 0x2044, 0x38]), (0x5C, [0x33, 0x2044, 0x38]),
   (0x5D, [0x35, 0x2044, 0x38]), (0x5E, [0x37, 0x2044, 0x38]), (0x5F, [0x31, 0x2044]),
   (0x60, [0x49]), (0x61, [0x49, 0x49]), (0x62, [0x49, 0x49, 0x49]), (0x63, [0x49, 0x56]),
   (0x64, [0x56]), (0x65, [0x56, 0x49]), (0x66, [0x56, 0x49, 0x49]),
   (0x67, [0x56, 0x49, 0x49, 0x49]), (0x68, [0x49, 0x58]), (0x69, [0x58]), (0x6A, [0x58, 0x49]),
   (0x6B, [0x58, 0x49, 0x49]), (0x6C, [0x4C]), (0x6D, [0x43]), (0x6E, [0x44]), (0x6F, [0x4D]),
   (0x70, [0x69]), (0x71, [0x69, 0x69]), (0x72, [0x69, 0x69, 0x69]), (0x73, [0x69, 0x76]),
   (0x74, [0x76]), (0x75, [0x76, 0x69]), (0x76, [0x76, 0x69, 0x69]),
   (0x77, [0x76, 0x69, 0x69, 0x69]), (0x78, [0x69, 0x78]), (0x79, [0x78]), (0x7A, [0x78, 0x69]),
   (0x7B, [0x78, 0x69, 0x69]), (0x7C, [0x6C]), (0x7D, [0x63]), (0x7E, [0x64]), (0x7F, [0x6D]),
   (0x89, [0x30, 0x2044, 0x33]), (0x9A, [0x2190, 0x338]), (0x9B, [0x2192, 0x338]),
   (0xAE, [0x2194, 0x338]), (0xCD, [0x21D0, 0x338]), (0xCE, [0x21D4, 0x338]),
   (0xCF, [0x21D2, 0x338])]

def decompositionPage22 : DecompositionPage :=
  [(0x04, [0x2203, 0x338]), (0x09, [0x2208, 0x338]), (0x0C, [0x220B, 0x338]),
   (0x24, [0x2223, 0x338]), (0x26, [0x2225, 0x338]), (0x2C, [0x222B, 0x222B]),
   (0x2D, [0x222B, 0x222B, 0x222B]), (0x2F, [0x222E, 0x222E]), (0x30, [0x222E, 0x222E, 0x222E]),
   (0x41, [0x223C, 0x338]), (0x44, [0x2243, 0x338]), (0x47, [0x2245, 0x338]),
   (0x49, [0x2248, 0x338]), (0x60, [0x3D, 0x338]), (0x62, [0x2261, 0x338]),
   (0x6D, [0x224D, 0x338]), (0x6E, [0x3C, 0x338]), (0x6F, [0x3E, 0x338]), (0x70, [0x2264, 0x338]),
   (0x71, [0x2265, 0x338]), (0x74, [0x2272, 0x338]), (0x75, [0x2273, 0x338]),
   (0x78, [0x2276, 0x338]), (0x79, [0x2277, 0x338]), (0x80, [0x227A, 0x338]),
   (0x81, [0x227B, 0x338]), (0x84, [0x2282, 0x338]), (0x85, [0x2283, 0x338]),
   (0x88, [0x2286, 0x338]), (0x89, [0x2287, 0x338]), (0xAC, [0x22A2, 0x338]),
   (0xAD, [0x22A8, 0x338]), (0xAE, [0x22A9, 0x338]), (0xAF, [0x22AB, 0x338]),
   (0xE0, [0x227C, 0x338]), (0xE1, [0x227D, 0x338]), (0xE2, [0x2291, 0x338]),
   (0xE3, [0x2292, 0x338]), (0xEA, [0x22B2, 0x338]), (0xEB, [0x22B3, 0x338]),
   (0xEC, [0x22B4, 0x338]), (0xED, [0x22B5, 0x338])]

def decompositionPage23 : DecompositionPage :=
  [(0x29, [0x3008]), (0x2A, [0x3009])]

def decompositionPage24 : DecompositionPage :=
  [(0x60, [0x31]), (0x61, [0x32]), (0x62, [0x33]), (0x63, [0x34]), (0x64, [0x35]), (0x65, [0x36]),
   (0x66, [0x37]), (0x67, [0x38]), (0x68, [0x39]), (0x69, [0x31, 0x30]), (0x6A, [0x31, 0x31]),
   (0x6B, [0x31, 0x32]), (0x6C, [0x31, 0x33]), (0x6D, [0x31, 0x34]), (0x6E, [0x31, 0x35]),
   (0x6F, [0x31, 0x36]), (0x70, [0x31, 0x37]), (0x71, [0x31, 0x38]), (0x72, [0x31, 0x39]),
   (0x73, [0x32, 0x30]), (0x74, [0x28, 0x31, 0x29]), (0x75, [0x28, 0x32, 0x29]),
   (0x76, [0x28, 0x33, 0x29]), (0x77, [0x28, 0x34, 0x29]), (0x78, [0x28, 0x35, 0x29]),
   (0x79, [0x28, 0x36, 0x29]), (0x7A, [0x28, 0x37, 0x29]), (0x7B, [0x28, 0x38, 0x29]),
   (0x7C, [0x28, 0x39, 0x29]), (0x7D, [0x28, 0x31, 0x30, 0x29]), (0x7E, [0x28, 0x31, 0x31, 0x29]),
   (0x7F, [0x28, 0x31, 0x32, 0x29]), (0x80, [0x28, 0x31, 0x33, 0x29]),
   (0x81, [0x28, 0x31, 0x34, 0x29]), (0x82, [0x28, 0x31, 0x35, 0x29]),
   (0x83, [0x28, 0x31, 0x36, 0x29]), (0x84, [0x28, 0x31, 0x37, 0x29]),
   (0x85, [0x28, 0x31, 0x38, 0x29]), (0x86, [0x28, 0x31, 0x39, 0x29]),
   (0x87, [0x28, 0x32, 0x30, 0x29]), (0x88, [0x31, 0x2E]), (0x89, [0x32, 0x2E]),
   (0x8A, [0x33, 0x2E]), (0x8B, [0x34, 0x2E]), (0x8C, [0x35, 0x2E]), (0x8D, [0x36, 0x2E]),
   (0x8E, [0x37, 0x2E]), (0x8F, [0x38, 0x2E]), (0x90, [0x39, 0x2E]), (0x91, [0x31, 0x30, 0x2E]),
   (0x92, [0x31, 0x31, 0x2E]), (0x93, [0x31, 0x32, 0x2E]), (0x94, [0x31, 0x33, 0x2E]),
   (0x95, [0x31, 0x34, 0x2E]), (0x96, [0x31, 0x35, 0x2E]), (0x97, [0x31, 0x36, 0x2E]),
   (0x98, [0x31, 0x37, 0x2E]), (0x99, [0x31, 0x38, 0x2E]), (0x9A, [0x31, 0x39, 0x2E]),
   (0x9B, [0x32, 0x30, 0x2E]), (0x9C, [0x28, 0x61, 0x29]), (0x9D, [0x28, 0x62, 0x29]),
   (0x9E, [0x28, 0x63, 0x29]), (0x9F, [0x28, 0x64, 0x29]), (0xA0, [0x28, 0x65, 0x29]),
   (0xA1, [0x28, 0x66, 0x29]), (0xA2, [0x28, 0x67, 0x29]), (0xA3, [0x28, 0x68, 0x29]),
   (0xA4, [0x28, 0x69, 0x29]), (0xA5, [0x28, 0x6A, 0x29]), (0xA6, [0x28, 0x6B, 0x29]),
   (0xA7, [0x28, 0x6C, 0x29]), (0xA8, [0x28, 0x6D, 0x29]), (0xA9, [0x28, 0x6E, 0x29]),
   (0xAA, [0x28, 0x6F, 0x29]), (0xAB, [0x28, 0x70, 0x29]), (0xAC, [0x28, 0x71, 0x29]),
   (0xAD, [0x28, 0x72, 0x29]), (0xAE, [0x28, 0x73, 0x29]), (0xAF, [0x28, 0x74, 0x29]),
   (0xB0, [0x28, 0x75, 0x29]), (0xB1, [0x28, 0x76, 0x29]), (0xB2, [0x28, 0x77, 0x29]),
   (0xB3, [0x28, 0x78, 0x29]), (0xB4, [0x28, 0x79, 0x29]), (0xB5, [0x28, 0x7A, 0x29]),
   (0xB6, [0x41]), (0xB7, [0x42]), (0xB8, [0x43]), (0xB9, [0x44]), (0xBA, [0x45]), (0xBB, [0x46]),
   (0xBC, [0x47]), (0xBD, [0x48]), (0xBE, [0x49]), (0xBF, [0x4A]), (0xC0, [0x4B]), (0xC1, [0x4C]),
   (0xC2, [0x4D]), (0xC3, [0x4E]), (0xC4, [0x4F]), (0xC5, [0x50]), (0xC6, [0x51]), (0xC7, [0x52]),
   (0xC8, [0x53]), (0xC9, [0x54]), (0xCA, [0x55]), (0xCB, [0x56]), (0xCC, [0x57]), (0xCD, [0x58]),
   (0xCE, [0x59]), (0xCF, [0x5A]), (0xD0, [0x61]), (0xD1, [0x62]), (0xD2, [0x63]), (0xD3, [0x64]),
   (0xD4, [0x65]), (0xD5, [0x66]), (0xD6, [0x67]), (0xD7, [0x68]), (0xD8, [0x69]), (0xD9, [0x6A]),
   (0xDA, [0x6B]), (0xDB, [0x6C]), (0xDC, [0x6D]), (0xDD, [0x6E]), (0xDE, [0x6F]), (0xDF, [0x70]),
   (0xE0, [0x71]), (0xE1, [0x72]), (0xE2, [0x73]), (0xE3, [0x74]), (0xE4, [0x75]), (0xE5, [0x76]),
   (0xE6, [0x77]), (0xE7, [0x78]), (0xE8, [0x79]), (0xE9, [0x7A]), (0xEA, [0x30])]

def decompositionPage2A : DecompositionPage :=
  [(0x0C, [0x222B, 0x222B, 0x222B, 0x222B]), (0x74, [0x3A, 0x3A, 0x3D]), (0x75, [0x3D, 0x3D]),
   (0x76, [0x3D, 0x3D, 0x3D]), (0xDC, [0x2ADD, 0x338])]

def decompositionPage2C : DecompositionPage :=
  [(0x7C, [0x6A]), (0x7D, [0x56])]

def decompositionPage2D : DecompositionPage :=
  [(0x6F, [0x2D61])]

def decompositionPage2E : DecompositionPage :=
  [(0x9F, [0x6BCD]), (0xF3, [0x9F9F])]

def decompositionPage2F : DecompositionPage :=
  [(0x00, [0x4E00]), (0x01, [0x4E28]), (0x02, [0x4E36]), (0x03, [0x4E3F]), (0x04, [0x4E59]),
   (0x05, [0x4E85]), (0x06, [0x4E8C]), (0x07, [0x4EA0]), (0x08, [0x4EBA]), (0x09, [0x513F]),
   (0x0A, [0x5165]), (0x0B, [0x516B]), (0x0C, [0x5182]), (0x0D, [0x5196]), (0x0E, [0x51AB]),
   (0x0F, [0x51E0]), (0x10, [0x51F5]), (0x11, [0x5200]), (0x12, [0x529B]), (0x13, [0x52F9]),
   (0x14, [0x5315]), (0x15, [0x531A]), (0x16, [0x5338]), (0x17, [0x5341]), (0x18, [0x535C]),
   (0x19, [0x5369]), (0x1A, [0x5382]), (0x1B, [0x53B6]), (0x1C, [0x53C8]), (0x1D, [0x53E3]),
   (0x1E, [0x56D7]), (0x1F, [0x571F]), (0x20, [0x58EB]), (0x21, [0x5902]), (0x22, [0x590A]),
   (0x23, [0x5915]), (0x24, [0x5927]), (0x25, [0x5973]), (0x26, [0x5B50]), (0x27, [0x5B80]),
   (0x28, [0x5BF8]), (0x29, [0x5C0F]), (0x2A, [0x5C22]), (0x2B, [0x5C38]), (0x2C, [0x5C6E]),
   (0x2D, [0x5C71]), (0x2E, [0x5DDB]), (0x2F, [0x5DE5]), (0x30, [0x5DF1]), (0x31, [0x5DFE]),
   (0x32, [0x5E72]), (0x33, [0x5E7A]), (0x34, [0x5E7F]), (0x35, [0x5EF4]), (0x36, [0x5EFE]),
   (0x37, [0x5F0B]), (0x38, [0x5F13]), (0x39, [0x5F50]), (0x3A, [0x5F61]), (0x3B, [0x5F73]),
   (0x3C, [0x5FC3]), (0x3D, [0x6208]), (0x3E, [0x6236]), (0x3F, [0x624B]), (0x40, [0x652F]),
   (0x41, [0x6534]), (0x42, [0x6587]), (0x43, [0x6597]), (0x44, [0x65A4]), (0x45, [0x65B9]),
   (0x46, [0x65E0]), (0x47, [0x65E5]), (0x48, [0x66F0]), (0x49, [0x6708]), (0x4A, [0x6728]),
   (0x4B, [0x6B20]), (0x4C, [0x6B62]), (0x4D, [0x6B79]), (0x4E, [0x6BB3]), (0x4F, [0x6BCB]),
   (0x50, [0x6BD4]), (0x51, [0x6BDB]), (0x52, [0x6C0F]), (0x53, [0x6C14]), (0x54, [0x6C34]),
   (0x55, [0x706B]), (0x56, [0x722A]), (0x57, [0x7236]), (0x58, [0x723B]), (0x59, [0x723F]),
   (0x5A, [0x7247]), (0x5B, [0x7259]), (0x5C, [0x725B]), (0x5D, [0x72AC]), (0x5E, [0x7384]),
   (0x5F, [0x7389]), (0x60, [0x74DC]), (0x61, [0x74E6]), (0x62, [0x7518]), (0x63, [0x751F]),
   (0x64, [0x7528]), (0x65, [0x7530]), (0x66, [0x758B]), (0x67, [0x7592]), (0x68, [0x7676]),
   (0x69, [0x767D]), (0x6A, [0x76AE]), (0x6B, [0x76BF]), (0x6C, [0x76EE]), (0x6D, [0x77DB]),
   (0x6E, [0x77E2]), (0x6F, [0x77F3]), (0x70, [0x793A]), (0x71, [0x79B8]), (0x72, [0x79BE]),
   (0x73, [0x7A74]), (0x74, [0x7ACB]), (0x75, [0x7AF9]), (0x76, [0x7C73]), (0x77, [0x7CF8]),
   (0x78, [0x7F36]), (0x79, [0x7F51]), (0x7A, [0x7F8A]), (0x7B, [0x7FBD]), (0x7C, [0x8001]),
   (0x7D, [0x800C]), (0x7E, [0x8012]), (0x7F, [0x8033]), (0x80, [0x807F]), (0x81, [0x8089]),
   (0x82, [0x81E3]), (0x83, [0x81EA]), (0x84, [0x81F3]), (0x85, [0x81FC]), (0x86, [0x820C]),
   (0x87, [0x821B]), (0x88, [0x821F]), (0x89, [0x826E]), (0x8A, [0x8272]), (0x8B, [0x8278]),
   (0x8C, [0x864D]), (0x8D, [0x866B]), (0x8E, [0x8840]), (0x8F, [0x884C]), (0x90, [0x8863]),
   (0x91, [0x897E]), (0x92, [0x898B]), (0x93, [0x89D2]), (0x94, [0x8A00]), (0x95, [0x8C37]),
   (0x96, [0x8C46]), (0x97, [0x8C55]), (0x98, [0x8C78]), (0x99, [0x8C9D]), (0x9A, [0x8D64]),
   (0x9B, [0x8D70]), (0x9C, [0x8DB3]), (0x9D, [0x8EAB]), (0x9E, [0x8ECA]), (0x9F, [0x8F9B]),
   (0xA0, [0x8FB0]), (0xA1, [0x8FB5]), (0xA2, [0x9091]), (0xA3, [0x9149]), (0xA4, [0x91C6]),
   (0xA5, [0x91CC]), (0xA6, [0x91D1]), (0xA7, [0x9577]), (0xA8, [0x9580]), (0xA9, [0x961C]),
   (0xAA, [0x96B6]), (0xAB, [0x96B9]), (0xAC, [0x96E8]), (0xAD, [0x9751]), (0xAE, [0x975E]),
   (0xAF, [0x9762]), (0xB0, [0x9769]), (0xB1, [0x97CB]), (0xB2, [0x97ED]), (0xB3, [0x97F3]),
   (0xB4, [0x9801]), (0xB5, [0x98A8]), (0xB6, [0x98DB]), (0xB7, [0x98DF]), (0xB8, [0x9996]),
   (0xB9, [0x9999]), (0xBA, [0x99AC]), (0xBB, [0x9AA8]), (0xBC, [0x9AD8]), (0xBD, [0x9ADF]),
   (0xBE, [0x9B25]), (0xBF, [0x9B2F]), (0xC0, [0x9B32]), (0xC1, [0x9B3C]), (0xC2, [0x9B5A]),
   (0xC3, [0x9CE5]), (0xC4, [0x9E75]), (0xC5, [0x9E7F]), (0xC6, [0x9EA5]), (0xC7, [0x9EBB]),
   (0xC8, [0x9EC3]), (0xC9, [0x9ECD]), (0xCA, [0x9ED1]), (0xCB, [0x9EF9]), (0xCC, [0x9EFD]),
   (0xCD, [0x9F0E]), (0xCE, [0x9F13]), (0xCF, [0x9F20]), (0xD0, [0x9F3B]), (0xD1, [0x9F4A]),
   (0xD2, [0x9F52]), (0xD3, [0x9F8D]), (0xD4, [0x9F9C]), (0xD5, [0x9FA0])]

def decompositionPage30 : DecompositionPage :=
  [(0x00, [0x20]), (0x36, [0x3012]), (0x38, [0x5341]), (0x39, [0x5344]), (0x3A, [0x5345]),
   (0x4C, [0x304B, 0x3099]), (0x4E, [0x304D, 0x3099]), (0x50, [0x304F, 0x3099]),
   (0x52, [0x3051, 0x3099]), (0x54, [0x3053, 0x3099]), (0x56, [0x3055, 0x3099]),
   (0x58, [0x3057, 0x3099]), (0x5A, [0x3059, 0x3099]), (0x5C, [0x305B, 0x3099]),
   (0x5E, [0x305D, 0x3099]), (0x60, [0x305F, 0x3099]), (0x62, [0x3061, 0x3099]),
   (0x65, [0x3064, 0x3099]), (0x67, [0x3066, 0x3099]), (0x69, [0x3068, 0x3099]),
   (0x70, [0x306F, 0x3099]), (0x71, [0x306F, 0x309A]), (0x73, [0x3072, 0x3099]),
   (0x74, [0x3072, 0x309A]), (0x76, [0x3075, 0x3099]), (0x77, [0x3075, 0x309A]),
   (0x79, [0x3078, 0x3099]), (0x7A, [0x3078, 0x309A]), (0x7C, [0x307B, 0x3099]),
   (0x7D, [0x307B, 0x309A]), (0x94, [0x3046, 0x3099]), (0x9B, [0x20, 0x3099]),
   (0x9C, [0x20, 0x309A]), (0x9E, [0x309D, 0x3099]), (0x9F, [0x3088, 0x308A]),
   (0xAC, [0x30AB, 0x3099]), (0xAE, [0x30AD, 0x3099]), (0xB0, [0x30AF, 0x3099]),
   (0xB2, [0x30B1, 0x3099]), (0xB4, [0x30B3, 0x3099]), (0xB6, [0x30B5, 0x3099]),
   (0xB8, [0x30B7, 0x3099]), (0xBA, [0x30B9, 0x3099]), (0xBC, [0x30BB, 0x3099]),
   (0xBE, [0x30BD, 0x3099]), (0xC0, [0x30BF, 0x3099]), (0xC2, [0x30C1, 0x3099]),
   (0xC5, [0x30C4, 0x3099]), (0xC7, [0x30C6, 0x3099]), (0xC9, [0x30C8, 0x3099]),
   (0xD0, [0x30CF, 0x3099]), (0xD1, [0x30CF, 0x309A]), (0xD3, [0x30D2, 0x3099]),
   (0xD4, [0x30D2, 0x309A]), (0xD6, [0x30D5, 0x3099]), (0xD7, [0x30D5, 0x309A]),
   (0xD9, [0x30D8, 0x3099]), (0xDA, [0x30D8, 0x309A]), (0xDC, [0x30DB, 0x3099]),
   (0xDD, [0x30DB, 0x309A]), (0xF4, [0x30A6, 0x3099]), (0xF7, [0x30EF, 0x3099]),
   (0xF8, [0x30F0, 0x3099]), (0xF9, [0x30F1, 0x3099]), (0xFA, [0x30F2, 0x3099]),
   (0xFE, [0x30FD, 0x3099]), (0xFF, [0x30B3, 0x30C8])]

def decompositionPage31 : DecompositionPage :=
  [(0x31, [0x1100]), (0x32, [0x1101]), (0x33, [0x11AA]), (0x34, [0x1102]), (0x35, [0x11AC]),
   (0x36, [0x11AD]), (0x37, [0x1103]), (0x38, [0x1104]), (0x39, [0x1105]), (0x3A, [0x11B0]),
   (0x3B, [0x11B1]), (0x3C, [0x11B2]), (0x3D, [0x11B3]), (0x3E, [0x11B4]), (0x3F, [0x11B5]),
   (0x40, [0x111A]), (0x41, [0x1106]), (0x42, [0x1107]), (0x43, [0x1108]), (0x44, [0x1121]),
   (0x45, [0x1109]), (0x46, [0x110A]), (0x47, [0x110B]), (0x48, [0x110C]), (0x49, [0x110D]),
   (0x4A, [0x110E]), (0x4B, [0x110F]), (0x4C, [0x1110]), (0x4D, [0x1111]), (0x4E, [0x1112]),
   (0x4F, [0x1161]), (0x50, [0x1162]), (0x51, [0x1163]), (0x52, [0x1164]), (0x53, [0x1165]),
   (0x54, [0x1166]), (0x55, [0x1167]), (0x56, [0x1168]), (0x57, [0x1169]), (0x58, [0x116A]),
   (0x59, [0x116B]), (0x5A, [0x116C]), (0x5B, [0x116D]), (0x5C, [0x116E]), (0x5D, [0x116F]),
   (0x5E, [0x1170]), (0x5F, [0x1171]), (0x60, [0x1172]), (0x61, [0x1173]), (0x62, [0x1174]),
   (0x63, [0x1175]), (0x64, [0x1160]), (0x65, [0x1114]), (0x66, [0x1115]), (0x67, [0x11C7]),
   (0x68, [0x11C8]), (0x69, [0x11CC]), (0x6A, [0x11CE]), (0x6B, [0x11D3]), (0x6C, [0x11D7]),
   (0x6D, [0x11D9]), (0x6E, [0x111C]), (0x6F, [0x11DD]), (0x70, [0x11DF]), (0x71, [0x111D]),
   (0x72, [0x111E]), (0x73, [0x1120]), (0x74, [0x1122]), (0x75, [0x1123]), (0x76, [0x1127]),
   (0x77, [0x1129]), (0x78, [0x112B]), (0x79, [0x112C]), (0x7A, [0x112D]), (0x7B, [0x112E]),
   (0x7C, [0x112F]), (0x7D, [0x1132]), (0x7E, [0x1136]), (0x7F, [0x1140]), (0x80, [0x1147]),
   (0x81, [0x114C]), (0x82, [0x11F1]), (0x83, [0x11F2]), (0x84, [0x1157]), (0x85, [0x1158]),
   (0x86, [0x1159]), (0x87, [0x1184]), (0x88, [0x1185]), (0x89, [0x1188]), (0x8A, [0x1191]),
   (0x8B, [0x1192]), (0x8C, [0x1194]), (0x8D, [0x119E]), (0x8E, [0x11A1]), (0x92, [0x4E00]),
   (0x93, [0x4E8C]), (0x94, [0x4E09]), (0x95, [0x56DB]), (0x96, [0x4E0A]), (0x97, [0x4E2D]),
   (0x98, [0x4E0B]), (0x99, [0x7532]), (0x9A, [0x4E59]), (0x9B, [0x4E19]), (0x9C, [0x4E01]),
   (0x9D, [0x5929]), (0x9E, [0x5730]), (0x9F, [0x4EBA])]

def decompositionPage32 : DecompositionPage :=
  [(0x00, [0x28, 0x1100, 0x29]), (0x01, [0x28, 0x1102, 0x29]), (0x02, [0x28, 0x1103, 0x29]),
   (0x03, [0x28, 0x1105, 0x29]), (0x04, [0x28, 0x1106, 0x29]), (0x05, [0x28, 0x1107, 0x29]),
   (0x06, [0x28, 0x1109, 0x29]), (0x07, [0x28, 0x110B, 0x29]), (0x08, [0x28, 0x110C, 0x29]),
   (0x09, [0x28, 0x110E, 0x29]), (0x0A, [0x28, 0x110F, 0x29]), (0x0B, [0x28, 0x1110, 0x29]),
   (0x0C, [0x28, 0x1111, 0x29]), (0x0D, [0x28, 0x1112, 0x29]),
   (0x0E, [0x28, 0x1100, 0x1161, 0x29]), (0x0F, [0x28, 0x1102, 0x1161, 0x29]),
   (0x10, [0x28, 0x1103, 0x1161, 0x29]), (0x11, [0x28, 0x1105, 0x1161, 0x29]),
   (0x12, [0x28, 0x1106, 0x1161, 0x29]), (0x13, [0x28, 0x1107, 0x1161, 0x29]),
   (0x14, [0x28, 0x1109, 0x1161, 0x29]), (0x15, [0x28, 0x110B, 0x1161, 0x29]),
   (0x16, [0x28, 0x110C, 0x1161, 0x29]), (0x17, [0x28, 0x110E, 0x1161, 0x29]),
   (0x18, [0x28, 0x110F, 0x1161, 0x29]), (0x19, [0x28, 0x1110, 0x1161, 0x29]),
   (0x1A, [0x28, 0x1111, 0x1161, 0x29]), (0x1B, [0x28, 0x1112, 0x1161, 0x29]),
   (0x1C, [0x28, 0x110C, 0x116E, 0x29]),
   (0x1D, [0x28, 0x110B, 0x1169, 0x110C, 0x1165, 0x11AB, 0x29]),
   (0x1E, [0x28, 0x110B, 0x1169, 0x1112, 0x116E, 0x29]), (0x20, [0x28, 0x4E00, 0x29]),
   (0x21, [0x28, 0x4E8C, 0x29]), (0x22, [0x28, 0x4E09, 0x29]), (0x23, [0x28, 0x56DB, 0x29]),
   (0x24, [0x28, 0x4E94, 0x29]), (0x25, [0x28, 0x516D, 0x29]), (0x26, [0x28, 0x4E03, 0x29]),
   (0x27, [0x28, 0x516B, 0x29]), (0x28, [0x28, 0x4E5D, 0x29]), (0x29, [0x28, 0x5341, 0x29]),
   (0x2A, [0x28, 0x6708, 0x29]), (0x2B, [0x28, 0x706B, 0x29]), (0x2C, [0x28, 0x6C34, 0x29]),
   (0x2D, [0x28, 0x6728, 0x29]), (0x2E, [0x28, 0x91D1, 0x29]), (0x2F, [0x28, 0x571F, 0x29]),
   (0x30, [0x28, 0x65E5, 0x29]), (0x31, [0x28, 0x682A, 0x29]), (0x32, [0x28, 0x6709, 0x29]),
   (0x33, [0x28, 0x793E, 0x29]), (0x34, [0x28, 0x540D, 0x29]), (0x35, [0x28, 0x7279, 0x29]),
   (0x36, [0x28, 0x8CA1, 0x29]), (0x37, [0x28, 0x795D, 0x29]), (0x38, [0x28, 0x52B4, 0x29]),
   (0x39, [0x28, 0x4EE3, 0x29]), (0x3A, [0x28, 0x547C, 0x29]), (0x3B, [0x28, 0x5B66, 0x29]),
   (0x3C, [0x28, 0x76E3, 0x29]), (0x3D, [0x28, 0x4F01, 0x29]), (0x3E, [0x28, 0x8CC7, 0x29]),
   (0x3F, [0x28, 0x5354, 0x29]), (0x40, [0x28, 0x796D, 0x29]), (0x41, [0x28, 0x4F11, 0x29]),
   (0x42, [0x28, 0x81EA, 0x29]), (0x43, [0x28, 0x81F3, 0x29]), (0x44, [0x554F]), (0x45, [0x5E7C]),
   (0x46, [0x6587]), (0x47, [0x7B8F]), (0x50, [0x50, 0x54, 0x45]), (0x51, [0x32, 0x31]),
   (0x52, [0x32, 0x32]), (0x53, [0x32, 0x33]), (0x54, [0x32, 0x34]), (0x55, [0x32, 0x35]),
   (0x56, [0x32, 0x36]), (0x57, [0x32, 0x37]), (0x58, [0x32, 0x38]), (0x59, [0x32, 0x39]),
   (0x5A, [0x33, 0x30]), (0x5B, [0x33, 0x31]), (0x5C, [0x33, 0x32]), (0x5D, [0x33, 0x33]),
   (0x5E, [0x33, 0x34]), (0x5F, [0x33, 0x35]), (0x60, [0x1100]), (0x61, [0x1102]),
   (0x62, [0x1103]), (0x63, [0x1105]), (0x64, [0x1106]), (0x65, [0x1107]), (0x66, [0x1109]),
   (0x67, [0x110B]), (0x68, [0x110C]), (0x69, [0x110E]), (0x6A, [0x110F]), (0x6B, [0x1110]),
   (0x6C, [0x1111]), (0x6D, [0x1112]), (0x6E, [0x1100, 0x1161]), (0x6F, [0x1102, 0x1161]),
   (0x70, [0x1103, 0x1161]), (0x71, [0x1105, 0x1161]), (0x72, [0x1106, 0x1161]),
   (0x73, [0x1107, 0x1161]), (0x74, [0x1109, 0x1161]), (0x75, [0x110B, 0x1161]),
   (0x76, [0x110C, 0x1161]), (0x77, [0x110E, 0x1161]), (0x78, [0x110F, 0x1161]),
   (0x79, [0x1110, 0x1161]), (0x7A, [0x1111, 0x1161]), (0x7B, [0x1112, 0x1161]),
   (0x7C, [0x110E, 0x1161, 0x11B7, 0x1100, 0x1169]), (0x7D, [0x110C, 0x116E, 0x110B, 0x1174]),
   (0x7E, [0x110B, 0x116E]), (0x80, [0x4E00]), (0x81, [0x4E8C]), (0x82, [0x4E09]),
   (0x83, [0x56DB]), (0x84, [0x4E94]), (0x85, [0x516D]), (0x86, [0x4E03]), (0x87, [0x516B]),
   (0x88, [0x4E5D]), (0x89, [0x5341]), (0x8A, [0x6708]), (0x8B, [0x706B]), (0x8C, [0x6C34]),
   (0x8D, [0x6728]), (0x8E, [0x91D1]), (0x8F, [0x571F]), (0x90, [0x65E5]), (0x91, [0x682A]),
   (0x92, [0x6709]), (0x93, [0x793E]), (0x94, [0x540D]), (0x95, [0x7279]), (0x96, [0x8CA1]),
   (0x97, [0x795D]), (0x98, [0x52B4]), (0x99, [0x79D8]), (0x9A, [0x7537]), (0x9B, [0x5973]),
   (0x9C, [0x9069]), (0x9D, [0x512A]), (0x9E, [0x5370]), (0x9F, [0x6CE8]), (0xA0, [0x9805]),
   (0xA1, [0x4F11]), (0xA2, [0x5199]), (0xA3, [0x6B63]), (0xA4, [0x4E0A]), (0xA5, [0x4E2D]),
   (0xA6, [0x4E0B]), (0xA7, [0x5DE6]), (0xA8, [0x53F3]), (0xA9, [0x533B]), (0xAA, [0x5B97]),
   (0xAB, [0x5B66]), (0xAC, [0x76E3]), (0xAD, [0x4F01]), (0xAE, [0x8CC7]), (0xAF, [0x5354]),
   (0xB0, [0x591C]), (0xB1, [0x33, 0x36]), (0xB2, [0x33, 0x37]), (0xB3, [0x33, 0x38]),
   (0xB4, [0x33, 0x39]), (0xB5, [0x34, 0x30]), (0xB6, [0x34, 0x31]), (0xB7, [0x34, 0x32]),
   (0xB8, [0x34, 0x33]), (0xB9, [0x34, 0x34]), (0xBA, [0x34, 0x35]), (0xBB, [0x34, 0x36]),
   (0xBC, [0x34, 0x37]), (0xBD, [0x34, 0x38]), (0xBE, [0x34, 0x39]), (0xBF, [0x35, 0x30]),
   (0xC0, [0x31, 0x6708]), (0xC1, [0x32, 0x6708]), (0xC2, [0x33, 0x6708]), (0xC3, [0x34, 0x6708]),
   (0xC4, [0x35, 0x6708]), (0xC5, [0x36, 0x6708]), (0xC6, [0x37, 0x6708]), (0xC7, [0x38, 0x6708]),
   (0xC8, [0x39, 0x6708]), (0xC9, [0x31, 0x30, 0x6708]), (0xCA, [0x31, 0x31, 0x6708]),
   (0xCB, [0x31, 0x32, 0x6708]), (0xCC, [0x48, 0x67]), (0xCD, [0x65, 0x72, 0x67]),
   (0xCE, [0x65, 0x56]), (0xCF, [0x4C, 0x54, 0x44]), (0xD0, [0x30A2]), (0xD1, [0x30A4]),
   (0xD2, [0x30A6]), (0xD3, [0x30A8]), (0xD4, [0x30AA]), (0xD5, [0x30AB]), (0xD6, [0x30AD]),
   (0xD7, [0x30AF]), (0xD8, [0x30B1]), (0xD9, [0x30B3]), (0xDA, [0x30B5]), (0xDB, [0x30B7]),
   (0xDC, [0x30B9]), (0xDD, [0x30BB]), (0xDE, [0x30BD]), (0xDF, [0x30BF]), (0xE0, [0x30C1]),
   (0xE1, [0x30C4]), (0xE2, [0x30C6]), (0xE3, [0x30C8]), (0xE4, [0x30CA]), (0xE5, [0x30CB]),
   (0xE6, [0x30CC]), (0xE7, [0x30CD]), (0xE8, [0x30CE]), (0xE9, [0x30CF]), (0xEA, [0x30D2]),
   (0xEB, [0x30D5]), (0xEC, [0x30D8]), (0xED, [0x30DB]), (0xEE, [0x30DE]), (0xEF, [0x30DF]),
   (0xF0, [0x30E0]), (0xF1, [0x30E1]), (0xF2, [0x30E2]), (0xF3, [0x30E4]), (0xF4, [0x30E6]),
   (0xF5, [0x30E8]), (0xF6, [0x30E9]), (0xF7, [0x30EA]), (0xF8, [0x30EB]), (0xF9, [0x30EC]),
   (0xFA, [0x30ED]), (0xFB, [0x30EF]), (0xFC, [0x30F0]), (0xFD, [0x30F1]), (0xFE, [0x30F2]),
   (0xFF, [0x4EE4, 0x548C])]

def decompositionPage33 : DecompositionPage :=
  [(0x00, [0x30A2, 0x30CF, 0x309A, 0x30FC, 0x30C8]), (0x01, [0x30A2, 0x30EB, 0x30D5, 0x30A1]),
   (0x02, [0x30A2, 0x30F3, 0x30D8, 0x309A, 0x30A2]), (0x03, [0x30A2, 0x30FC, 0x30EB]),
   (0x04, [0x30A4, 0x30CB, 0x30F3, 0x30AF, 0x3099]), (0x05, [0x30A4, 0x30F3, 0x30C1]),
   (0x06, [0x30A6, 0x30A9, 0x30F3]), (0x07, [0x30A8, 0x30B9, 0x30AF, 0x30FC, 0x30C8, 0x3099]),
   (0x08, [0x30A8, 0x30FC, 0x30AB, 0x30FC]), (0x09, [0x30AA, 0x30F3, 0x30B9]),
   (0x0A, [0x30AA, 0x30FC, 0x30E0]), (0x0B, [0x30AB, 0x30A4, 0x30EA]),
   (0x0C, [0x30AB, 0x30E9, 0x30C3, 0x30C8]), (0x0D, [0x30AB, 0x30ED, 0x30EA, 0x30FC]),
   (0x0E, [0x30AB, 0x3099, 0x30ED, 0x30F3]), (0x0F, [0x30AB, 0x3099, 0x30F3, 0x30DE]),
   (0x10, [0x30AD, 0x3099, 0x30AB, 0x3099]), (0x11, [0x30AD, 0x3099, 0x30CB, 0x30FC]),
   (0x12, [0x30AD, 0x30E5, 0x30EA, 0x30FC]),
   (0x13, [0x30AD, 0x3099, 0x30EB, 0x30BF, 0x3099, 0x30FC]), (0x14, [0x30AD, 0x30ED]),
   (0x15, [0x30AD, 0x30ED, 0x30AF, 0x3099, 0x30E9, 0x30E0]),
   (0x16, [0x30AD, 0x30ED, 0x30E1, 0x30FC, 0x30C8, 0x30EB]),
   (0x17, [0x30AD, 0x30ED, 0x30EF, 0x30C3, 0x30C8]), (0x18, [0x30AF, 0x3099, 0x30E9, 0x30E0]),
   (0x19, [0x30AF, 0x3099, 0x30E9, 0x30E0, 0x30C8, 0x30F3]),
   (0x1A, [0x30AF, 0x30EB, 0x30BB, 0x3099, 0x30A4, 0x30ED]),
   (0x1B, [0x30AF, 0x30ED, 0x30FC, 0x30CD]), (0x1C, [0x30B1, 0x30FC, 0x30B9]),
   (0x1D, [0x30B3, 0x30EB, 0x30CA]), (0x1E, [0x30B3, 0x30FC, 0x30DB, 0x309A]),
   (0x1F, [0x30B5, 0x30A4, 0x30AF, 0x30EB]), (0x20, [0x30B5, 0x30F3, 0x30C1, 0x30FC, 0x30E0]),
   (0x21, [0x30B7, 0x30EA, 0x30F3, 0x30AF, 0x3099]), (0x22, [0x30BB, 0x30F3, 0x30C1]),
   (0x23, [0x30BB, 0x30F3, 0x30C8]), (0x24, [0x30BF, 0x3099, 0x30FC, 0x30B9]),
   (0x25, [0x30C6, 0x3099, 0x30B7]), (0x26, [0x30C8, 0x3099, 0x30EB]), (0x27, [0x30C8, 0x30F3]),
   (0x28, [0x30CA, 0x30CE]), (0x29, [0x30CE, 0x30C3, 0x30C8]), (0x2A, [0x30CF, 0x30A4, 0x30C4]),
   (0x2B, [0x30CF, 0x309A, 0x30FC, 0x30BB, 0x30F3, 0x30C8]),
   (0x2C, [0x30CF, 0x309A, 0x30FC, 0x30C4]), (0x2D, [0x30CF, 0x3099, 0x30FC, 0x30EC, 0x30EB]),
   (0x2E, [0x30D2, 0x309A, 0x30A2, 0x30B9, 0x30C8, 0x30EB]),
   (0x2F, [0x30D2, 0x309A, 0x30AF, 0x30EB]), (0x30, [0x30D2, 0x309A, 0x30B3]),
   (0x31, [0x30D2, 0x3099, 0x30EB]), (0x32, [0x30D5, 0x30A1, 0x30E9, 0x30C3, 0x30C8, 0x3099]),
   (0x33, [0x30D5, 0x30A3, 0x30FC, 0x30C8]),
   (0x34, [0x30D5, 0x3099, 0x30C3, 0x30B7, 0x30A7, 0x30EB]), (0x35, [0x30D5, 0x30E9, 0x30F3]),
   (0x36, [0x30D8, 0x30AF, 0x30BF, 0x30FC, 0x30EB]), (0x37, [0x30D8, 0x309A, 0x30BD]),
   (0x38, [0x30D8, 0x309A, 0x30CB, 0x30D2]), (0x39, [0x30D8, 0x30EB, 0x30C4]),
   (0x3A, [0x30D8, 0x309A, 0x30F3, 0x30B9]), (0x3B, [0x30D8, 0x309A, 0x30FC, 0x30B7, 0x3099]),
   (0x3C, [0x30D8, 0x3099, 0x30FC, 0x30BF]), (0x3D, [0x30DB, 0x309A, 0x30A4, 0x30F3, 0x30C8]),
   (0x3E, [0x30DB, 0x3099, 0x30EB, 0x30C8]), (0x3F, [0x30DB, 0x30F3]),
   (0x40, [0x30DB, 0x309A, 0x30F3, 0x30C8, 0x3099]), (0x41, [0x30DB, 0x30FC, 0x30EB]),
   (0x42, [0x30DB, 0x30FC, 0x30F3]), (0x43, [0x30DE, 0x30A4, 0x30AF, 0x30ED]),
   (0x44, [0x30DE, 0x30A4, 0x30EB]), (0x45, [0x30DE, 0x30C3, 0x30CF]),
   (0x46, [0x30DE, 0x30EB, 0x30AF]), (0x47, [0x30DE, 0x30F3, 0x30B7, 0x30E7, 0x30F3]),
   (0x48, [0x30DF, 0x30AF, 0x30ED, 0x30F3]), (0x49, [0x30DF, 0x30EA]),
   (0x4A, [0x30DF, 0x30EA, 0x30CF, 0x3099, 0x30FC, 0x30EB]), (0x4B, [0x30E1, 0x30AB, 0x3099]),
   (0x4C, [0x30E1, 0x30AB, 0x3099, 0x30C8, 0x30F3]), (0x4D, [0x30E1, 0x30FC, 0x30C8, 0x30EB]),
   (0x4E, [0x30E4, 0x30FC, 0x30C8, 0x3099]), (0x4F, [0x30E4, 0x30FC, 0x30EB]),
   (0x50, [0x30E6, 0x30A2, 0x30F3]), (0x51, [0x30EA, 0x30C3, 0x30C8, 0x30EB]),
   (0x52, [0x30EA, 0x30E9]), (0x53, [0x30EB, 0x30D2, 0x309A, 0x30FC]),
   (0x54, [0x30EB, 0x30FC, 0x30D5, 0x3099, 0x30EB]), (0x55, [0x30EC, 0x30E0]),
   (0x56, [0x30EC, 0x30F3, 0x30C8, 0x30B1, 0x3099, 0x30F3]), (0x57, [0x30EF, 0x30C3, 0x30C8]),
   (0x58, [0x30, 0x70B9]), (0x59, [0x31, 0x70B9]), (0x5A, [0x32, 0x70B9]), (0x5B, [0x33, 0x70B9]),
   (0x5C, [0x34, 0x70B9]), (0x5D, [0x35, 0x70B9]), (0x5E, [0x36, 0x70B9]), (0x5F, [0x37, 0x70B9]),
   (0x60, [0x38, 0x70B9]), (0x61, [0x39, 0x70B9]), (0x62, [0x31, 0x30, 0x70B9]),
   (0x63, [0x31, 0x31, 0x70B9]), (0x64, [0x31, 0x32, 0x70B9]), (0x65, [0x31, 0x33, 0x70B9]),
   (0x66, [0x31, 0x34, 0x70B9]), (0x67, [0x31, 0x35, 0x70B9]), (0x68, [0x31, 0x36, 0x70B9]),
   (0x69, [0x31, 0x37, 0x70B9]), (0x6A, [0x31, 0x38, 0x70B9]), (0x6B, [0x31, 0x39, 0x70B9]),
   (0x6C, [0x32, 0x30, 0x70B9]), (0x6D, [0x32, 0x31, 0x70B9]), (0x6E, [0x32, 0x32, 0x70B9]),
   (0x6F, [0x32, 0x33, 0x70B9]), (0x70, [0x32, 0x34, 0x70B9]), (0x71, [0x68, 0x50, 0x61]),
   (0x72, [0x64, 0x61]), (0x73, [0x41, 0x55]), (0x74, [0x62, 0x61, 0x72]), (0x75, [0x6F, 0x56]),
   (0x76, [0x70, 0x63]), (0x77, [0x64, 0x6D]), (0x78, [0x64, 0x6D, 0x32]),
   (0x79, [0x64, 0x6D, 0x33]), (0x7A, [0x49, 0x55]), (0x7B, [0x5E73, 0x6210]),
   (0x7C, [0x662D, 0x548C]), (0x7D, [0x5927, 0x6B63]), (0x7E, [0x660E, 0x6CBB]),
   (0x7F, [0x682A, 0x5F0F, 0x4F1A, 0x793E]), (0x80, [0x70, 0x41]), (0x81, [0x6E, 0x41]),
   (0x82, [0x3BC, 0x41]), (0x83, [0x6D, 0x41]), (0x84, [0x6B, 0x41]), (0x85, [0x4B, 0x42]),
   (0x86, [0x4D, 0x42]), (0x87, [0x47, 0x42]), (0x88, [0x63, 0x61, 0x6C]),
   (0x89, [0x6B, 0x63, 0x61, 0x6C]), (0x8A, [0x70, 0x46]), (0x8B, [0x6E, 0x46]),
   (0x8C, [0x3BC, 0x46]), (0x8D, [0x3BC, 0x67]), (0x8E, [0x6D, 0x67]), (0x8F, [0x6B, 0x67]),
   (0x90, [0x48, 0x7A]), (0x91, [0x6B, 0x48, 0x7A]), (0x92, [0x4D, 0x48, 0x7A]),
   (0x93, [0x47, 0x48, 0x7A]), (0x94, [0x54, 0x48, 0x7A]), (0x95, [0x3BC, 0x6C]),
   (0x96, [0x6D, 0x6C]), (0x97, [0x64, 0x6C]), (0x98, [0x6B, 0x6C]), (0x99, [0x66, 0x6D]),
   (0x9A, [0x6E, 0x6D]), (0x9B, [0x3BC, 0x6D]), (0x9C, [0x6D, 0x6D]), (0x9D, [0x63, 0x6D]),
   (0x9E, [0x6B, 0x6D]), (0x9F, [0x6D, 0x6D, 0x32]), (0xA0, [0x63, 0x6D, 0x32]),
   (0xA1, [0x6D, 0x32]), (0xA2, [0x6B, 0x6D, 0x32]), (0xA3, [0x6D, 0x6D, 0x33]),
   (0xA4, [0x63, 0x6D, 0x33]), (0xA5, [0x6D, 0x33]), (0xA6, [0x6B, 0x6D, 0x33]),
   (0xA7, [0x6D, 0x2215, 0x73]), (0xA8, [0x6D, 0x2215, 0x73, 0x32]), (0xA9, [0x50, 0x61]),
   (0xAA, [0x6B, 0x50, 0x61]), (0xAB, [0x4D, 0x50, 0x61]), (0xAC, [0x47, 0x50, 0x61]),
   (0xAD, [0x72, 0x61, 0x64]), (0xAE, [0x72, 0x61, 0x64, 0x2215, 0x73]),
   (0xAF, [0x72, 0x61, 0x64, 0x2215, 0x73, 0x32]), (0xB0, [0x70, 0x73]), (0xB1, [0x6E, 0x73]),
   (0xB2, [0x3BC, 0x73]), (0xB3, [0x6D, 0x73]), (0xB4, [0x70, 0x56]), (0xB5, [0x6E, 0x56]),
   (0xB6, [0x3BC, 0x56]), (0xB7, [0x6D, 0x56]), (0xB8, [0x6B, 0x56]), (0xB9, [0x4D, 0x56]),
   (0xBA, [0x70, 0x57]), (0xBB, [0x6E, 0x57]), (0xBC, [0x3BC, 0x57]), (0xBD, [0x6D, 0x57]),
   (0xBE, [0x6B, 0x57]), (0xBF, [0x4D, 0x57]), (0xC0, [0x6B, 0x3A9]), (0xC1, [0x4D, 0x3A9]),
   (0xC2, [0x61, 0x2E, 0x6D, 0x2E]), (0xC3, [0x42, 0x71]), (0xC4, [0x63, 0x63]),
   (0xC5, [0x63, 0x64]), (0xC6, [0x43, 0x2215, 0x6B, 0x67]), (0xC7, [0x43, 0x6F, 0x2E]),
   (0xC8, [0x64, 0x42]), (0xC9, [0x47, 0x79]), (0xCA, [0x68, 0x61]), (0xCB, [0x48, 0x50]),
   (0xCC, [0x69, 0x6E]), (0xCD, [0x4B, 0x4B]), (0xCE, [0x4B, 0x4D]), (0xCF, [0x6B, 0x74]),
   (0xD0, [0x6C, 0x6D]), (0xD1, [0x6C, 0x6E]), (0xD2, [0x6C, 0x6F, 0x67]), (0xD3, [0x6C, 0x78]),
   (0xD4, [0x6D, 0x62]), (0xD5, [0x6D, 0x69, 0x6C]), (0xD6, [0x6D, 0x6F, 0x6C]),
   (0xD7, [0x50, 0x48]), (0xD8, [0x70, 0x2E, 0x6D, 0x2E]), (0xD9, [0x50, 0x50, 0x4D]),
   (0xDA, [0x50, 0x52]), (0xDB, [0x73, 0x72]), (0xDC, [0x53, 0x76]), (0xDD, [0x57, 0x62]),
   (0xDE, [0x56, 0x2215, 0x6D]), (0xDF, [0x41, 0x2215, 0x6D]), (0xE0, [0x31, 0x65E5]),
   (0xE1, [0x32, 0x65E5]), (0xE2, [0x33, 0x65E5]), (0xE3, [0x34, 0x65E5]), (0xE4, [0x35, 0x65E5]),
   (0xE5, [0x36, 0x65E5]), (0xE6, [0x37, 0x65E5]), (0xE7, [0x38, 0x65E5]), (0xE8, [0x39, 0x65E5]),
   (0xE9, [0x31, 0x30, 0x65E5]), (0xEA, [0x31, 0x31, 0x65E5]), (0xEB, [0x31, 0x32, 0x65E5]),
   (0xEC, [0x31, 0x33, 0x65E5]), (0xED, [0x31, 0x34, 0x65E5]), (0xEE, [0x31, 0x35, 0x65E5]),
   (0xEF, [0x31, 0x36, 0x65E5]), (0xF0, [0x31, 0x37, 0x65E5]), (0xF1, [0x31, 0x38, 0x65E5]),
   (0xF2, [0x31, 0x39, 0x65E5]), (0xF3, [0x32, 0x30, 0x65E5]), (0xF4, [0x32, 0x31, 0x65E5]),
   (0xF5, [0x32, 0x32, 0x65E5]), (0xF6, [0x32, 0x33, 0x65E5]), (0xF7, [0x32, 0x34, 0x65E5]),
   (0xF8, [0x32, 0x35, 0x65E5]), (0xF9, [0x32, 0x36, 0x65E5]), (0xFA, [0x32, 0x37, 0x65E5]),
   (0xFB, [0x32, 0x38, 0x65E5]), (0xFC, [0x32, 0x39, 0x65E5]), (0xFD, [0x33, 0x30, 0x65E5]),
   (0xFE, [0x33, 0x31, 0x65E5]), (0xFF, [0x67, 0x61, 0x6C])]

def decompositionPageA6 : DecompositionPage :=
  [(0x9C, [0x44A]), (0x9D, [0x44C])]

def decompositionPageA7 : DecompositionPage :=
  [(0x70, [0xA76F]), (0xF1, [0x53]), (0xF2, [0x43]), (0xF3, [0x46]), (0xF4, [0x51]),
   (0xF8, [0x126]), (0xF9, [0x153])]

def decompositionPageAB : DecompositionPage :=
  [(0x5C, [0xA727]), (0x5D, [0xAB37]), (0x5E, [0x26B]), (0x5F, [0xAB52]), (0x69, [0x28D])]

def decompositionPageF9 : DecompositionPage :=
  [(0x00, [0x8C48]), (0x01, [0x66F4]), (0x02, [0x8ECA]), (0x03, [0x8CC8]), (0x04, [0x6ED1]),
   (0x05, [0x4E32]), (0x06, [0x53E5]), (0x07, [0x9F9C]), (0x08, [0x9F9C]), (0x09, [0x5951]),
   (0x0A, [0x91D1]), (0x0B, [0x5587]), (0x0C, [0x5948]), (0x0D, [0x61F6]), (0x0E, [0x7669]),
   (0x0F, [0x7F85]), (0x10, [0x863F]), (0x11, [0x87BA]), (0x12, [0x88F8]), (0x13, [0x908F]),
   (0x14, [0x6A02]), (0x15, [0x6D1B]), (0x16, [0x70D9]), (0x17, [0x73DE]), (0x18, [0x843D]),
   (0x19, [0x916A]), (0x1A, [0x99F1]), (0x1B, [0x4E82]), (0x1C, [0x5375]), (0x1D, [0x6B04]),
   (0x1E, [0x721B]), (0x1F, [0x862D]), (0x20, [0x9E1E]), (0x21, [0x5D50]), (0x22, [0x6FEB]),
   (0x23, [0x85CD]), (0x24, [0x8964]), (0x25, [0x62C9]), (0x26, [0x81D8]), (0x27, [0x881F]),
   (0x28, [0x5ECA]), (0x29, [0x6717]), (0x2A, [0x6D6A]), (0x2B, [0x72FC]), (0x2C, [0x90CE]),
   (0x2D, [0x4F86]), (0x2E, [0x51B7]), (0x2F, [0x52DE]), (0x30, [0x64C4]), (0x31, [0x6AD3]),
   (0x32, [0x7210]), (0x33, [0x76E7]), (0x34, [0x8001]), (0x35, [0x8606]), (0x36, [0x865C]),
   (0x37, [0x8DEF]), (0x38, [0x9732]), (0x39, [0x9B6F]), (0x3A, [0x9DFA]), (0x3B, [0x788C]),
   (0x3C, [0x797F]), (0x3D, [0x7DA0]), (0x3E, [0x83C9]), (0x3F, [0x9304]), (0x40, [0x9E7F]),
   (0x41, [0x8AD6]), (0x42, [0x58DF]), (0x43, [0x5F04]), (0x44, [0x7C60]), (0x45, [0x807E]),
   (0x46, [0x7262]), (0x47, [0x78CA]), (0x48, [0x8CC2]), (0x49, [0x96F7]), (0x4A, [0x58D8]),
   (0x4B, [0x5C62]), (0x4C, [0x6A13]), (0x4D, [0x6DDA]), (0x4E, [0x6F0F]), (0x4F, [0x7D2F]),
   (0x50, [0x7E37]), (0x51, [0x964B]), (0x52, [0x52D2]), (0x53, [0x808B]), (0x54, [0x51DC]),
   (0x55, [0x51CC]), (0x56, [0x7A1C]), (0x57, [0x7DBE]), (0x58, [0x83F1]), (0x59, [0x9675]),
   (0x5A, [0x8B80]), (0x5B, [0x62CF]), (0x5C, [0x6A02]), (0x5D, [0x8AFE]), (0x5E, [0x4E39]),
   (0x5F, [0x5BE7]), (0x60, [0x6012]), (0x61, [0x7387]), (0x62, [0x7570]), (0x63, [0x5317]),
   (0x64, [0x78FB]), (0x65, [0x4FBF]), (0x66, [0x5FA9]), (0x67, [0x4E0D]), (0x68, [0x6CCC]),
   (0x69, [0x6578]), (0x6A, [0x7D22]), (0x6B, [0x53C3]), (0x6C, [0x585E]), (0x6D, [0x7701]),
   (0x6E, [0x8449]), (0x6F, [0x8AAA]), (0x70, [0x6BBA]), (0x71, [0x8FB0]), (0x72, [0x6C88]),
   (0x73, [0x62FE]), (0x74, [0x82E5]), (0x75, [0x63A0]), (0x76, [0x7565]), (0x77, [0x4EAE]),
   (0x78, [0x5169]), (0x79, [0x51C9]), (0x7A, [0x6881]), (0x7B, [0x7CE7]), (0x7C, [0x826F]),
   (0x7D, [0x8AD2]), (0x7E, [0x91CF]), (0x7F, [0x52F5]), (0x80, [0x5442]), (0x81, [0x5973]),
   (0x82, [0x5EEC]), (0x83, [0x65C5]), (0x84, [0x6FFE]), (0x85, [0x792A]), (0x86, [0x95AD]),
   (0x87, [0x9A6A]), (0x88, [0x9E97]), (0x89, [0x9ECE]), (0x8A, [0x529B]), (0x8B, [0x66C6]),
   (0x8C, [0x6B77]), (0x8D, [0x8F62]), (0x8E, [0x5E74]), (0x8F, [0x6190]), (0x90, [0x6200]),
   (0x91, [0x649A]), (0x92, [0x6F23]), (0x93, [0x7149]), (0x94, [0x7489]), (0x95, [0x79CA]),
   (0x96, [0x7DF4]), (0x97, [0x806F]), (0x98, [0x8F26]), (0x99, [0x84EE]), (0x9A, [0x9023]),
   (0x9B, [0x934A]), (0x9C, [0x5217]), (0x9D, [0x52A3]), (0x9E, [0x54BD]), (0x9F, [0x70C8]),
   (0xA0, [0x88C2]), (0xA1, [0x8AAA]), (0xA2, [0x5EC9]), (0xA3, [0x5FF5]), (0xA4, [0x637B]),
   (0xA5, [0x6BAE]), (0xA6, [0x7C3E]), (0xA7, [0x7375]), (0xA8, [0x4EE4]), (0xA9, [0x56F9]),
   (0xAA, [0x5BE7]), (0xAB, [0x5DBA]), (0xAC, [0x601C]), (0xAD, [0x73B2]), (0xAE, [0x7469]),
   (0xAF, [0x7F9A]), (0xB0, [0x8046]), (0xB1, [0x9234]), (0xB2, [0x96F6]), (0xB3, [0x9748]),
   (0xB4, [0x9818]), (0xB5, [0x4F8B]), (0xB6, [0x79AE]), (0xB7, [0x91B4]), (0xB8, [0x96B8]),
   (0xB9, [0x60E1]), (0xBA, [0x4E86]), (0xBB, [0x50DA]), (0xBC, [0x5BEE]), (0xBD, [0x5C3F]),
   (0xBE, [0x6599]), (0xBF, [0x6A02]), (0xC0, [0x71CE]), (0xC1, [0x7642]), (0xC2, [0x84FC]),
   (0xC3, [0x907C]), (0xC4, [0x9F8D]), (0xC5, [0x6688]), (0xC6, [0x962E]), (0xC7, [0x5289]),
   (0xC8, [0x677B]), (0xC9, [0x67F3]), (0xCA, [0x6D41]), (0xCB, [0x6E9C]), (0xCC, [0x7409]),
   (0xCD, [0x7559]), (0xCE, [0x786B]), (0xCF, [0x7D10]), (0xD0, [0x985E]), (0xD1, [0x516D]),
   (0xD2, [0x622E]), (0xD3, [0x9678]), (0xD4, [0x502B]), (0xD5, [0x5D19]), (0xD6, [0x6DEA]),
   (0xD7, [0x8F2A]), (0xD8, [0x5F8B]), (0xD9, [0x6144]), (0xDA, [0x6817]), (0xDB, [0x7387]),
   (0xDC, [0x9686]), (0xDD, [0x5229]), (0xDE, [0x540F]), (0xDF, [0x5C65]), (0xE0, [0x6613]),
   (0xE1, [0x674E]), (0xE2, [0x68A8]), (0xE3, [0x6CE5]), (0xE4, [0x7406]), (0xE5, [0x75E2]),
   (0xE6, [0x7F79]), (0xE7, [0x88CF]), (0xE8, [0x88E1]), (0xE9, [0x91CC]), (0xEA, [0x96E2]),
   (0xEB, [0x533F]), (0xEC, [0x6EBA]), (0xED, [0x541D]), (0xEE, [0x71D0]), (0xEF, [0x7498]),
   (0xF0, [0x85FA]), (0xF1, [0x96A3]), (0xF2, [0x9C57]), (0xF3, [0x9E9F]), (0xF4, [0x6797]),
   (0xF5, [0x6DCB]), (0xF6, [0x81E8]), (0xF7, [0x7ACB]), (0xF8, [0x7B20]), (0xF9, [0x7C92]),
   (0xFA, [0x72C0]), (0xFB, [0x7099]), (0xFC, [0x8B58]), (0xFD, [0x4EC0]), (0xFE, [0x8336]),
   (0xFF, [0x523A])]

def decompositionPageFA : DecompositionPage :=
  [(0x00, [0x5207]), (0x01, [0x5EA6]), (0x02, [0x62D3]), (0x03, [0x7CD6]), (0x04, [0x5B85]),
   (0x05, [0x6D1E]), (0x06, [0x66B4]), (0x07, [0x8F3B]), (0x08, [0x884C]), (0x09, [0x964D]),
   (0x0A, [0x898B]), (0x0B, [0x5ED3]), (0x0C, [0x5140]), (0x0D, [0x55C0]), (0x10, [0x585A]),
   (0x12, [0x6674]), (0x15, [0x51DE]), (0x16, [0x732A]), (0x17, [0x76CA]), (0x18, [0x793C]),
   (0x19, [0x795E]), (0x1A, [0x7965]), (0x1B, [0x798F]), (0x1C, [0x9756]), (0x1D, [0x7CBE]),
   (0x1E, [0x7FBD]), (0x20, [0x8612]), (0x22, [0x8AF8]), (0x25, [0x9038]), (0x26, [0x90FD]),
   (0x2A, [0x98EF]), (0x2B, [0x98FC]), (0x2C, [0x9928]), (0x2D, [0x9DB4]), (0x2E, [0x90DE]),
   (0x2F, [0x96B7]), (0x30, [0x4FAE]), (0x31, [0x50E7]), (0x32, [0x514D]), (0x33, [0x52C9]),
   (0x34, [0x52E4]), (0x35, [0x5351]), (0x36, [0x559D]), (0x37, [0x5606]), (0x38, [0x5668]),
   (0x39, [0x5840]), (0x3A, [0x58A8]), (0x3B, [0x5C64]), (0x3C, [0x5C6E]), (0x3D, [0x6094]),
   (0x3E, [0x6168]), (0x3F, [0x618E]), (0x40, [0x61F2]), (0x41, [0x654F]), (0x42, [0x65E2]),
   (0x43, [0x6691]), (0x44, [0x6885]), (0x45, [0x6D77]), (0x46, [0x6E1A]), (0x47, [0x6F22]),
   (0x48, [0x716E]), (0x49, [0x722B]), (0x4A, [0x7422]), (0x4B, [0x7891]), (0x4C, [0x793E]),
   (0x4D, [0x7949]), (0x4E, [0x7948]), (0x4F, [0x7950]), (0x50, [0x7956]), (0x51, [0x795D]),
   (0x52, [0x798D]), (0x53, [0x798E]), (0x54, [0x7A40]), (0x55, [0x7A81]), (0x56, [0x7BC0]),
   (0x57, [0x7DF4]), (0x58, [0x7E09]), (0x59, [0x7E41]), (0x5A, [0x7F72]), (0x5B, [0x8005]),
   (0x5C, [0x81ED]), (0x5D, [0x8279]), (0x5E, [0x8279]), (0x5F, [0x8457]), (0x60, [0x8910]),
   (0x61, [0x8996]), (0x62, [0x8B01]), (0x63, [0x8B39]), (0x64, [0x8CD3]), (0x65, [0x8D08]),
   (0x66, [0x8FB6]), (0x67, [0x9038]), (0x68, [0x96E3]), (0x69, [0x97FF]), (0x6A, [0x983B]),
   (0x6B, [0x6075]), (0x6C, [0x242EE]), (0x6D, [0x8218]), (0x70, [0x4E26]), (0x71, [0x51B5]),
   (0x72, [0x5168]), (0x73, [0x4F80]), (0x74, [0x5145]), (0x75, [0x5180]), (0x76, [0x52C7]),
   (0x77, [0x52FA]), (0x78, [0x559D]), (0x79, [0x5555]), (0x7A, [0x5599]), (0x7B, [0x55E2]),
   (0x7C, [0x585A]), (0x7D, [0x58B3]), (0x7E, [0x5944]), (0x7F, [0x5954]), (0x80, [0x5A62]),
   (0x81, [0x5B28]), (0x82, [0x5ED2]), (0x83, [0x5ED9]), (0x84, [0x5F69]), (0x85, [0x5FAD]),
   (0x86, [0x60D8]), (0x87, [0x614E]), (0x88, [0x6108]), (0x89, [0x618E]), (0x8A, [0x6160]),
   (0x8B, [0x61F2]), (0x8C, [0x6234]), (0x8D, [0x63C4]), (0x8E, [0x641C]), (0x8F, [0x6452]),
   (0x90, [0x6556]), (0x91, [0x6674]), (0x92, [0x6717]), (0x93, [0x671B]), (0x94, [0x6756]),
   (0x95, [0x6B79]), (0x96, [0x6BBA]), (0x97, [0x6D41]), (0x98, [0x6EDB]), (0x99, [0x6ECB]),
   (0x9A, [0x6F22]), (0x9B, [0x701E]), (0x9C, [0x716E]), (0x9D, [0x77A7]), (0x9E, [0x7235]),
   (0x9F, [0x72AF]), (0xA0, [0x732A]), (0xA1, [0x7471]), (0xA2, [0x7506]), (0xA3, [0x753B]),
   (0xA4, [0x761D]), (0xA5, [0x761F]), (0xA6, [0x76CA]), (0xA7, [0x76DB]), (0xA8, [0x76F4]),
   (0xA9, [0x774A]), (0xAA, [0x7740]), (0xAB, [0x78CC]), (0xAC, [0x7AB1]), (0xAD, [0x7BC0]),
   (0xAE, [0x7C7B]), (0xAF, [0x7D5B]), (0xB0, [0x7DF4]), (0xB1, [0x7F3E]), (0xB2, [0x8005]),
   (0xB3, [0x8352]), (0xB4, [0x83EF]), (0xB5, [0x8779]), (0xB6, [0x8941]), (0xB7, [0x8986]),
   (0xB8, [0x8996]), (0xB9, [0x8ABF]), (0xBA, [0x8AF8]), (0xBB, [0x8ACB]), (0xBC, [0x8B01]),
   (0xBD, [0x8AFE]), (0xBE, [0x8AED]), (0xBF, [0x8B39]), (0xC0, [0x8B8A]), (0xC1, [0x8D08]),
   (0xC2, [0x8F38]), (0xC3, [0x9072]), (0xC4, [0x9199]), (0xC5, [0x9276]), (0xC6, [0x967C]),
   (0xC7, [0x96E3]), (0xC8, [0x9756]), (0xC9, [0x97DB]), (0xCA, [0x97FF]), (0xCB, [0x980B]),
   (0xCC, [0x983B]), (0xCD, [0x9B12]), (0xCE, [0x9F9C]), (0xCF, [0x2284A]), (0xD0, [0x22844]),
   (0xD1, [0x233D5]), (0xD2, [0x3B9D]), (0xD3, [0x4018]), (0xD4, [0x4039]), (0xD5, [0x25249]),
   (0xD6, [0x25CD0]), (0xD7, [0x27ED3]), (0xD8, [0x9F43]), (0xD9, [0x9F8E])]

def decompositionPageFB : DecompositionPage :=
  [(0x00, [0x66, 0x66]), (0x01, [0x66, 0x69]), (0x02, [0x66, 0x6C]), (0x03, [0x66, 0x66, 0x69]),
   (0x04, [0x66, 0x66, 0x6C]), (0x05, [0x73, 0x74]), (0x06, [0x73, 0x74]), (0x13, [0x574, 0x576]),
   (0x14, [0x574, 0x565]), (0x15, [0x574, 0x56B]), (0x16, [0x57E, 0x576]), (0x17, [0x574, 0x56D]),
   (0x1D, [0x5D9, 0x5B4]), (0x1F, [0x5F2, 0x5B7]), (0x20, [0x5E2]), (0x21, [0x5D0]),
   (0x22, [0x5D3]), (0x23, [0x5D4]), (0x24, [0x5DB]), (0x25, [0x5DC]), (0x26, [0x5DD]),
   (0x27, [0x5E8]), (0x28, [0x5EA]), (0x29, [0x2B]), (0x2A, [0x5E9, 0x5C1]),
   (0x2B, [0x5E9, 0x5C2]), (0x2C, [0x5E9, 0x5BC, 0x5C1]), (0x2D, [0x5E9, 0x5BC, 0x5C2]),
   (0x2E, [0x5D0, 0x5B7]), (0x2F, [0x5D0, 0x5B8]), (0x30, [0x5D0, 0x5BC]), (0x31, [0x5D1, 0x5BC]),
   (0x32, [0x5D2, 0x5BC]), (0x33, [0x5D3, 0x5BC]), (0x34, [0x5D4, 0x5BC]), (0x35, [0x5D5, 0x5BC]),
   (0x36, [0x5D6, 0x5BC]), (0x38, [0x5D8, 0x5BC]), (0x39, [0x5D9, 0x5BC]), (0x3A, [0x5DA, 0x5BC]),
   (0x3B, [0x5DB, 0x5BC]), (0x3C, [0x5DC, 0x5BC]), (0x3E, [0x5DE, 0x5BC]), (0x40, [0x5E0, 0x5BC]),
   (0x41, [0x5E1, 0x5BC]), (0x43, [0x5E3, 0x5BC]), (0x44, [0x5E4, 0x5BC]), (0x46, [0x5E6, 0x5BC]),
   (0x47, [0x5E7, 0x5BC]), (0x48, [0x5E8, 0x5BC]), (0x49, [0x5E9, 0x5BC]), (0x4A, [0x5EA, 0x5BC]),
   (0x4B, [0x5D5, 0x5B9]), (0x4C, [0x5D1, 0x5BF]), (0x4D, [0x5DB, 0x5BF]), (0x4E, [0x5E4, 0x5BF]),
   (0x4F, [0x5D0, 0x5DC]), (0x50, [0x671]), (0x51, [0x671]), (0x52, [0x67B]), (0x53, [0x67B]),
   (0x54, [0x67B]), (0x55, [0x67B]), (0x56, [0x67E]), (0x57, [0x67E]), (0x58, [0x67E]),
   (0x59, [0x67E]), (0x5A, [0x680]), (0x5B, [0x680]), (0x5C, [0x680]), (0x5D, [0x680]),
   (0x5E, [0x67A]), (0x5F, [0x67A]), (0x60, [0x67A]), (0x61, [0x67A]), (0x62, [0x67F]),
   (0x63, [0x67F]), (0x64, [0x67F]), (0x65, [0x67F]), (0x66, [0x679]), (0x67, [0x679]),
   (0x68, [0x679]), (0x69, [0x679]), (0x6A, [0x6A4]), (0x6B, [0x6A4]), (0x6C, [0x6A4]),
   (0x6D, [0x6A4]), (0x6E, [0x6A6]), (0x6F, [0x6A6]), (0x70, [0x6A6]), (0x71, [0x6A6]),
   (0x72, [0x684]), (0x73, [0x684]), (0x74, [0x684]), (0x75, [0x684]), (0x76, [0x683]),
   (0x77, [0x683]), (0x78, [0x683]), (0x79, [0x683]), (0x7A, [0x686]), (0x7B, [0x686]),
   (0x7C, [0x686]), (0x7D, [0x686]), (0x7E, [0x687]), (0x7F, [0x687]), (0x80, [0x687]),
   (0x81, [0x687]), (0x82, [0x68D]), (0x83, [0x68D]), (0x84, [0x68C]), (0x85, [0x68C]),
   (0x86, [0x68E]), (0x87, [0x68E]), (0x88, [0x688]), (0x89, [0x688]), (0x8A, [0x698]),
   (0x8B, [0x698]), (0x8C, [0x691]), (0x8D, [0x691]), (0x8E, [0x6A9]), (0x8F, [0x6A9]),
   (0x90, [0x6A9]), (0x91, [0x6A9]), (0x92, [0x6AF]), (0x93, [0x6AF]), (0x94, [0x6AF]),
   (0x95, [0x6AF]), (0x96, [0x6B3]), (0x97, [0x6B3]), (0x98, [0x6B3]), (0x99, [0x6B3]),
   (0x9A, [0x6B1]), (0x9B, [0x6B1]), (0x9C, [0x6B1]), (0x9D, [0x6B1]), (0x9E, [0x6BA]),
   (0x9F, [0x6BA]), (0xA0, [0x6BB]), (0xA1, [0x6BB]), (0xA2, [0x6BB]), (0xA3, [0x6BB]),
   (0xA4, [0x6D5, 0x654]), (0xA5, [0x6D5, 0x654]), (0xA6, [0x6C1]), (0xA7, [0x6C1]),
   (0xA8, [0x6C1]), (0xA9, [0x6C1]), (0xAA, [0x6BE]), (0xAB, [0x6BE]), (0xAC, [0x6BE]),
   (0xAD, [0x6BE]), (0xAE, [0x6D2]), (0xAF, [0x6D2]), (0xB0, [0x6D2, 0x654]),
   (0xB1, [0x6D2, 0x654]), (0xD3, [0x6AD]), (0xD4, [0x6AD]), (0xD5, [0x6AD]), (0xD6, [0x6AD]),
   (0xD7, [0x6C7]), (0xD8, [0x6C7]), (0xD9, [0x6C6]), (0xDA, [0x6C6]), (0xDB, [0x6C8]),
   (0xDC, [0x6C8]), (0xDD, [0x6C7, 0x674]), (0xDE, [0x6CB]), (0xDF, [0x6CB]), (0xE0, [0x6C5]),
   (0xE1, [0x6C5]), (0xE2, [0x6C9]), (0xE3, [0x6C9]), (0xE4, [0x6D0]), (0xE5, [0x6D0]),
   (0xE6, [0x6D0]), (0xE7, [0x6D0]), (0xE8, [0x649]), (0xE9, [0x649]),
   (0xEA, [0x64A, 0x654, 0x627]), (0xEB, [0x64A, 0x654, 0x627]), (0xEC, [0x64A, 0x654, 0x6D5]),
   (0xED, [0x64A, 0x654, 0x6D5]), (0xEE, [0x64A, 0x654, 0x648]), (0xEF, [0x64A, 0x654, 0x648]),
   (0xF0, [0x64A, 0x654, 0x6C7]), (0xF1, [0x64A, 0x654, 0x6C7]), (0xF2, [0x64A, 0x654, 0x6C6]),
   (0xF3, [0x64A, 0x654, 0x6C6]), (0xF4, [0x64A, 0x654, 0x6C8]), (0xF5, [0x64A, 0x654, 0x6C8]),
   (0xF6, [0x64A, 0x654, 0x6D0]), (0xF7, [0x64A, 0x654, 0x6D0]), (0xF8, [0x64A, 0x654, 0x6D0]),
   (0xF9, [0x64A, 0x654, 0x649]), (0xFA, [0x64A, 0x654, 0x649]), (0xFB, [0x64A, 0x654, 0x649]),
   (0xFC, [0x6CC]), (0xFD, [0x6CC]), (0xFE, [0x6CC]), (0xFF, [0x6CC])]

def decompositionPageFC : DecompositionPage :=
  [(0x00, [0x64A, 0x654, 0x62C]), (0x01, [0x64A, 0x654, 0x62D]), (0x02, [0x64A, 0x654, 0x645]),
   (0x03, [0x64A, 0x654, 0x649]), (0x04, [0x64A, 0x654, 0x64A]), (0x05, [0x628, 0x62C]),
   (0x06, [0x628, 0x62D]), (0x07, [0x628, 0x62E]), (0x08, [0x628, 0x645]), (0x09, [0x628, 0x649]),
   (0x0A, [0x628, 0x64A]), (0x0B, [0x62A, 0x62C]), (0x0C, [0x62A, 0x62D]), (0x0D, [0x62A, 0x62E]),
   (0x0E, [0x62A, 0x645]), (0x0F, [0x62A, 0x649]), (0x10, [0x62A, 0x64A]), (0x11, [0x62B, 0x62C]),
   (0x12, [0x62B, 0x645]), (0x13, [0x62B, 0x649]), (0x14, [0x62B, 0x64A]), (0x15, [0x62C, 0x62D]),
   (0x16, [0x62C, 0x645]), (0x17, [0x62D, 0x62C]), (0x18, [0x62D, 0x645]), (0x19, [0x62E, 0x62C]),
   (0x1A, [0x62E, 0x62D]), (0x1B, [0x62E, 0x645]), (0x1C, [0x633, 0x62C]), (0x1D, [0x633, 0x62D]),
   (0x1E, [0x633, 0x62E]), (0x1F, [0x633, 0x645]), (0x20, [0x635, 0x62D]), (0x21, [0x635, 0x645]),
   (0x22, [0x636, 0x62C]), (0x23, [0x636, 0x62D]), (0x24, [0x636, 0x62E]), (0x25, [0x636, 0x645]),
   (0x26, [0x637, 0x62D]), (0x27, [0x637, 0x645]), (0x28, [0x638, 0x645]), (0x29, [0x639, 0x62C]),
   (0x2A, [0x639, 0x645]), (0x2B, [0x63A, 0x62C]), (0x2C, [0x63A, 0x645]), (0x2D, [0x641, 0x62C]),
   (0x2E, [0x641, 0x62D]), (0x2F, [0x641, 0x62E]), (0x30, [0x641, 0x645]), (0x31, [0x641, 0x649]),
   (0x32, [0x641, 0x64A]), (0x33, [0x642, 0x62D]), (0x34, [0x642, 0x645]), (0x35, [0x642, 0x649]),
   (0x36, [0x642, 0x64A]), (0x37, [0x643, 0x627]), (0x38, [0x643, 0x62C]), (0x39, [0x643, 0x62D]),
   (0x3A, [0x643, 0x62E]), (0x3B, [0x643, 0x644]), (0x3C, [0x643, 0x645]), (0x3D, [0x643, 0x649]),
   (0x3E, [0x643, 0x64A]), (0x3F, [0x644, 0x62C]), (0x40, [0x644, 0x62D]), (0x41, [0x644, 0x62E]),
   (0x42, [0x644, 0x645]), (0x43, [0x644, 0x649]), (0x44, [0x644, 0x64A]), (0x45, [0x645, 0x62C]),
   (0x46, [0x645, 0x62D]), (0x47, [0x645, 0x62E]), (0x48, [0x645, 0x645]), (0x49, [0x645, 0x649]),
   (0x4A, [0x645, 0x64A]), (0x4B, [0x646, 0x62C]), (0x4C, [0x646, 0x62D]), (0x4D, [0x646, 0x62E]),
   (0x4E, [0x646, 0x645]), (0x4F, [0x646, 0x649]), (0x50, [0x646, 0x64A]), (0x51, [0x647, 0x62C]),
   (0x52, [0x647, 0x645]), (0x53, [0x647, 0x649]), (0x54, [0x647, 0x64A]), (0x55, [0x64A, 0x62C]),
   (0x56, [0x64A, 0x62D]), (0x57, [0x64A, 0x62E]), (0x58, [0x64A, 0x645]), (0x59, [0x64A, 0x649]),
   (0x5A, [0x64A, 0x64A]), (0x5B, [0x630, 0x670]), (0x5C, [0x631, 0x670]), (0x5D, [0x649, 0x670]),
   (0x5E, [0x20, 0x64C, 0x651]), (0x5F, [0x20, 0x64D, 0x651]), (0x60, [0x20, 0x64E, 0x651]),
   (0x61, [0x20, 0x64F, 0x651]), (0x62, [0x20, 0x650, 0x651]), (0x63, [0x20, 0x651, 0x670]),
   (0x64, [0x64A, 0x654, 0x631]), (0x65, [0x64A, 0x654, 0x632]), (0x66, [0x64A, 0x654, 0x645]),
   (0x67, [0x64A, 0x654, 0x646]), (0x68, [0x64A, 0x654, 0x649]), (0x69, [0x64A, 0x654, 0x64A]),
   (0x6A, [0x628, 0x631]), (0x6B, [0x628, 0x632]), (0x6C, [0x628, 0x645]), (0x6D, [0x628, 0x646]),
   (0x6E, [0x628, 0x649]), (0x6F, [0x628, 0x64A]), (0x70, [0x62A, 0x631]), (0x71, [0x62A, 0x632]),
   (0x72, [0x62A, 0x645]), (0x73, [0x62A, 0x646]), (0x74, [0x62A, 0x649]), (0x75, [0x62A, 0x64A]),
   (0x76, [0x62B, 0x631]), (0x77, [0x62B, 0x632]), (0x78, [0x62B, 0x645]), (0x79, [0x62B, 0x646]),
   (0x7A, [0x62B, 0x649]), (0x7B, [0x62B, 0x64A]), (0x7C, [0x641, 0x649]), (0x7D, [0x641, 0x64A]),
   (0x7E, [0x642, 0x649]), (0x7F, [0x642, 0x64A]), (0x80, [0x643, 0x627]), (0x81, [0x643, 0x644]),
   (0x82, [0x643, 0x645]), (0x83, [0x643, 0x649]), (0x84, [0x643, 0x64A]), (0x85, [0x644, 0x645]),
   (0x86, [0x644, 0x649]), (0x87, [0x644, 0x64A]), (0x88, [0x645, 0x627]), (0x89, [0x645, 0x645]),
   (0x8A, [0x646, 0x631]), (0x8B, [0x646, 0x632]), (0x8C, [0x646, 0x645]), (0x8D, [0x646, 0x646]),
   (0x8E, [0x646, 0x649]), (0x8F, [0x646, 0x64A]), (0x90, [0x649, 0x670]), (0x91, [0x64A, 0x631]),
   (0x92, [0x64A, 0x632]), (0x93, [0x64A, 0x645]), (0x94, [0x64A, 0x646]), (0x95, [0x64A, 0x649]),
   (0x96, [0x64A, 0x64A]), (0x97, [0x64A, 0x654, 0x62C]), (0x98, [0x64A, 0x654, 0x62D]),
   (0x99, [0x64A, 0x654, 0x62E]), (0x9A, [0x64A, 0x654, 0x645]), (0x9B, [0x64A, 0x654, 0x647]),
   (0x9C, [0x628, 0x62C]), (0x9D, [0x628, 0x62D]), (0x9E, [0x628, 0x62E]), (0x9F, [0x628, 0x645]),
   (0xA0, [0x628, 0x647]), (0xA1, [0x62A, 0x62C]), (0xA2, [0x62A, 0x62D]), (0xA3, [0x62A, 0x62E]),
   (0xA4, [0x62A, 0x645]), (0xA5, [0x62A, 0x647]), (0xA6, [0x62B, 0x645]), (0xA7, [0x62C, 0x62D]),
   (0xA8, [0x62C, 0x645]), (0xA9, [0x62D, 0x62C]), (0xAA, [0x62D, 0x645]), (0xAB, [0x62E, 0x62C]),
   (0xAC, [0x62E, 0x645]), (0xAD, [0x633, 0x62C]), (0xAE, [0x633, 0x62D]), (0xAF, [0x633, 0x62E]),
   (0xB0, [0x633, 0x645]), (0xB1, [0x635, 0x62D]), (0xB2, [0x635, 0x62E]), (0xB3, [0x635, 0x645]),
   (0xB4, [0x636, 0x62C]), (0xB5, [0x636, 0x62D]), (0xB6, [0x636, 0x62E]), (0xB7, [0x636, 0x645]),
   (0xB8, [0x637, 0x62D]), (0xB9, [0x638, 0x645]), (0xBA, [0x639, 0x62C]), (0xBB, [0x639, 0x645]),
   (0xBC, [0x63A, 0x62C]), (0xBD, [0x63A, 0x645]), (0xBE, [0x641, 0x62C]), (0xBF, [0x641, 0x62D]),
   (0xC0, [0x641, 0x62E]), (0xC1, [0x641, 0x645]), (0xC2, [0x642, 0x62D]), (0xC3, [0x642, 0x645]),
   (0xC4, [0x643, 0x62C]), (0xC5, [0x643, 0x62D]), (0xC6, [0x643, 0x62E]), (0xC7, [0x643, 0x644]),
   (0xC8, [0x643, 0x645]), (0xC9, [0x644, 0x62C]), (0xCA, [0x644, 0x62D]), (0xCB, [0x644, 0x62E]),
   (0xCC, [0x644, 0x645]), (0xCD, [0x644, 0x647]), (0xCE, [0x645, 0x62C]), (0xCF, [0x645, 0x62D]),
   (0xD0, [0x645, 0x62E]), (0xD1, [0x645, 0x645]), (0xD2, [0x646, 0x62C]), (0xD3, [0x646, 0x62D]),
   (0xD4, [0x646, 0x62E]), (0xD5, [0x646, 0x645]), (0xD6, [0x646, 0x647]), (0xD7, [0x647, 0x62C]),
   (0xD8, [0x647, 0x645]), (0xD9, [0x647, 0x670]), (0xDA, [0x64A, 0x62C]), (0xDB, [0x64A, 0x62D]),
   (0xDC, [0x64A, 0x62E]), (0xDD, [0x64A, 0x645]), (0xDE, [0x64A, 0x647]),
   (0xDF, [0x64A, 0x654, 0x645]), (0xE0, [0x64A, 0x654, 0x647]), (0xE1, [0x628, 0x645]),
   (0xE2, [0x628, 0x647]), (0xE3, [0x62A, 0x645]), (0xE4, [0x62A, 0x647]), (0xE5, [0x62B, 0x645]),
   (0xE6, [0x62B, 0x647]), (0xE7, [0x633, 0x645]), (0xE8, [0x633, 0x647]), (0xE9, [0x634, 0x645]),
   (0xEA, [0x634, 0x647]), (0xEB, [0x643, 0x644]), (0xEC, [0x643, 0x645]), (0xED, [0x644, 0x645]),
   (0xEE, [0x646, 0x645]), (0xEF, [0x646, 0x647]), (0xF0, [0x64A, 0x645]), (0xF1, [0x64A, 0x647]),
   (0xF2, [0x640, 0x64E, 0x651]), (0xF3, [0x640, 0x64F, 0x651]), (0xF4, [0x640, 0x650, 0x651]),
   (0xF5, [0x637, 0x649]), (0xF6, [0x637, 0x64A]), (0xF7, [0x639, 0x649]), (0xF8, [0x639, 0x64A]),
   (0xF9, [0x63A, 0x649]), (0xFA, [0x63A, 0x64A]), (0xFB, [0x633, 0x649]), (0xFC, [0x633, 0x64A]),
   (0xFD, [0x634, 0x649]), (0xFE, [0x634, 0x64A]), (0xFF, [0x62D, 0x649])]

def decompositionPageFD : DecompositionPage :=
  [(0x00, [0x62D, 0x64A]), (0x01, [0x62C, 0x649]), (0x02, [0x62C, 0x64A]), (0x03, [0x62E, 0x649]),
   (0x04, [0x62E, 0x64A]), (0x05, [0x635, 0x649]), (0x06, [0x635, 0x64A]), (0x07, [0x636, 0x649]),
   (0x08, [0x636, 0x64A]), (0x09, [0x634, 0x62C]), (0x0A, [0x634, 0x62D]), (0x0B, [0x634, 0x62E]),
   (0x0C, [0x634, 0x645]), (0x0D, [0x634, 0x631]), (0x0E, [0x633, 0x631]), (0x0F, [0x635, 0x631]),
   (0x10, [0x636, 0x631]), (0x11, [0x637, 0x649]), (0x12, [0x637, 0x64A]), (0x13, [0x639, 0x649]),
   (0x14, [0x639, 0x64A]), (0x15, [0x63A, 0x649]), (0x16, [0x63A, 0x64A]), (0x17, [0x633, 0x649]),
   (0x18, [0x633, 0x64A]), (0x19, [0x634, 0x649]), (0x1A, [0x634, 0x64A]), (0x1B, [0x62D, 0x649]),
   (0x1C, [0x62D, 0x64A]), (0x1D, [0x62C, 0x649]), (0x1E, [0x62C, 0x64A]), (0x1F, [0x62E, 0x649]),
   (0x20, [0x62E, 0x64A]), (0x21, [0x635, 0x649]), (0x22, [0x635, 0x64A]), (0x23, [0x636, 0x649]),
   (0x24, [0x636, 0x64A]), (0x25, [0x634, 0x62C]), (0x26, [0x634, 0x62D]), (0x27, [0x634, 0x62E]),
   (0x28, [0x634, 0x645]), (0x29, [0x634, 0x631]), (0x2A, [0x633, 0x631]), (0x2B, [0x635, 0x631]),
   (0x2C, [0x636, 0x631]), (0x2D, [0x634, 0x62C]), (0x2E, [0x634, 0x62D]), (0x2F, [0x634, 0x62E]),
   (0x30, [0x634, 0x645]), (0x31, [0x633, 0x647]), (0x32, [0x634, 0x647]), (0x33, [0x637, 0x645]),
   (0x34, [0x633, 0x62C]), (0x35, [0x633, 0x62D]), (0x36, [0x633, 0x62E]), (0x37, [0x634, 0x62C]),
   (0x38, [0x634, 0x62D]), (0x39, [0x634, 0x62E]), (0x3A, [0x637, 0x645]), (0x3B, [0x638, 0x645]),
   (0x3C, [0x627, 0x64B]), (0x3D, [0x627, 0x64B]), (0x50, [0x62A, 0x62C, 0x645]),
   (0x51, [0x62A, 0x62D, 0x62C]), (0x52, [0x62A, 0x62D, 0x62C]), (0x53, [0x62A, 0x62D, 0x645]),
   (0x54, [0x62A, 0x62E, 0x645]), (0x55, [0x62A, 0x645, 0x62C]), (0x56, [0x62A, 0x645, 0x62D]),
   (0x57, [0x62A, 0x645, 0x62E]), (0x58, [0x62C, 0x645, 0x62D]), (0x59, [0x62C, 0x645, 0x62D]),
   (0x5A, [0x62D, 0x645, 0x64A]), (0x5B, [0x62D, 0x645, 0x649]), (0x5C, [0x633, 0x62D, 0x62C]),
   (0x5D, [0x633, 0x62C, 0x62D]), (0x5E, [0x633, 0x62C, 0x649]), (0x5F, [0x633, 0x645, 0x62D]),
   (0x60, [0x633, 0x645, 0x62D]), (0x61, [0x633, 0x645, 0x62C]), (0x62, [0x633, 0x645, 0x645]),
   (0x63, [0x633, 0x645, 0x645]), (0x64, [0x635, 0x62D, 0x62D]), (0x65, [0x635, 0x62D, 0x62D]),
   (0x66, [0x635, 0x645, 0x645]), (0x67, [0x634, 0x62D, 0x645]), (0x68, [0x634, 0x62D, 0x645]),
   (0x69, [0x634, 0x62C, 0x64A]), (0x6A, [0x634, 0x645, 0x62E]), (0x6B, [0x634, 0x645, 0x62E]),
   (0x6C, [0x634, 0x645, 0x645]), (0x6D, [0x634, 0x645, 0x645]), (0x6E, [0x636, 0x62D, 0x649]),
   (0x6F, [0x636, 0x62E, 0x645]), (0x70, [0x636, 0x62E, 0x645]), (0x71, [0x637, 0x645, 0x62D]),
   (0x72, [0x637, 0x645, 0x62D]), (0x73, [0x637, 0x645, 0x645]), (0x74, [0x637, 0x645, 0x64A]),
   (0x75, [0x639, 0x62C, 0x645]), (0x76, [0x639, 0x645, 0x645]), (0x77, [0x639, 0x645, 0x645]),
   (0x78, [0x639, 0x645, 0x649]), (0x79, [0x63A, 0x645, 0x645]), (0x7A, [0x63A, 0x645, 0x64A]),
   (0x7B, [0x63A, 0x645, 0x649]), (0x7C, [0x641, 0x62E, 0x645]), (0x7D, [0x641, 0x62E, 0x645]),
   (0x7E, [0x642, 0x645, 0x62D]), (0x7F, [0x642, 0x645, 0x645]), (0x80, [0x644, 0x62D, 0x645]),
   (0x81, [0x644, 0x62D, 0x64A]), (0x82, [0x644, 0x62D, 0x649]), (0x83, [0x644, 0x62C, 0x62C]),
   (0x84, [0x644, 0x62C, 0x62C]), (0x85, [0x644, 0x62E, 0x645]), (0x86, [0x644, 0x62E, 0x645]),
   (0x87, [0x644, 0x645, 0x62D]), (0x88, [0x644, 0x645, 0x62D]), (0x89, [0x645, 0x62D, 0x62C]),
   (0x8A, [0x645, 0x62D, 0x645]), (0x8B, [0x645, 0x62D, 0x64A]), (0x8C, [0x645, 0x62C, 0x62D]),
   (0x8D, [0x645, 0x62C, 0x645]), (0x8E, [0x645, 0x62E, 0x62C]), (0x8F, [0x645, 0x62E, 0x645]),
   (0x92, [0x645, 0x62C, 0x62E]), (0x93, [0x647, 0x645, 0x62C]), (0x94, [0x647, 0x645, 0x645]),
   (0x95, [0x646, 0x62D, 0x645]), (0x96, [0x646, 0x62D, 0x649]), (0x97, [0x646, 0x62C, 0x645]),
   (0x98, [0x646, 0x62C, 0x645]), (0x99, [0x646, 0x62C, 0x649]), (0x9A, [0x646, 0x645, 0x64A]),
   (0x9B, [0x646, 0x645, 0x649]), (0x9C, [0x64A, 0x645, 0x645]), (0x9D, [0x64A, 0x645, 0x645]),
   (0x9E, [0x628, 0x62E, 0x64A]), (0x9F, [0x62A, 0x62C, 0x64A]), (0xA0, [0x62A, 0x62C, 0x649]),
   (0xA1, [0x62A, 0x62E, 0x64A]), (0xA2, [0x62A, 0x62E, 0x649]), (0xA3, [0x62A, 0x645, 0x64A]),
   (0xA4, [0x62A, 0x645, 0x649]), (0xA5, [0x62C, 0x645, 0x64A]), (0xA6, [0x62C, 0x62D, 0x649]),
   (0xA7, [0x62C, 0x645, 0x649]), (0xA8, [0x633, 0x62E, 0x649]), (0xA9, [0x635, 0x62D, 0x64A]),
   (0xAA, [0x634, 0x62D, 0x64A]), (0xAB, [0x636, 0x62D, 0x64A]), (0xAC, [0x644, 0x62C, 0x64A]),
   (0xAD, [0x644, 0x645, 0x64A]), (0xAE, [0x64A, 0x62D, 0x64A]), (0xAF, [0x64A, 0x62C, 0x64A]),
   (0xB0, [0x64A, 0x645, 0x64A]), (0xB1, [0x645, 0x645, 0x64A]), (0xB2, [0x642, 0x645, 0x64A]),
   (0xB3, [0x646, 0x62D, 0x64A]), (0xB4, [0x642, 0x645, 0x62D]), (0xB5, [0x644, 0x62D, 0x645]),
   (0xB6, [0x639, 0x645, 0x64A]), (0xB7, [0x643, 0x645, 0x64A]), (0xB8, [0x646, 0x62C, 0x62D]),
   (0xB9, [0x645, 0x62E, 0x64A]), (0xBA, [0x644, 0x62C, 0x645]), (0xBB, [0x643, 0x645, 0x645]),
   (0xBC, [0x644, 0x62C, 0x645]), (0xBD, [0x646, 0x62C, 0x62D]), (0xBE, [0x62C, 0x62D, 0x64A]),
   (0xBF, [0x62D, 0x62C, 0x64A]), (0xC0, [0x645, 0x62C, 0x64A]), (0xC1, [0x641, 0x645, 0x64A]),
   (0xC2, [0x628, 0x62D, 0x64A]), (0xC3, [0x643, 0x645, 0x645]), (0xC4, [0x639, 0x62C, 0x645]),
   (0xC5, [0x635, 0x645, 0x645]), (0xC6, [0x633, 0x62E, 0x64A]), (0xC7, [0x646, 0x62C, 0x64A]),
   (0xF0, [0x635, 0x644, 0x6D2]), (0xF1, [0x642, 0x644, 0x6D2]),
   (0xF2, [0x627, 0x644, 0x644, 0x647]), (0xF3, [0x627, 0x643, 0x628, 0x631]),
   (0xF4, [0x645, 0x62D, 0x645, 0x62F]), (0xF5, [0x635, 0x644, 0x639, 0x645]),
   (0xF6, [0x631, 0x633, 0x648, 0x644]), (0xF7, [0x639, 0x644, 0x64A, 0x647]),
   (0xF8, [0x648, 0x633, 0x644, 0x645]), (0xF9, [0x635, 0x644, 0x649]),
   (0xFA, [0x635, 0x644, 0x649, 0x20, 0x627, 0x644, 0x644, 0x647, 0x20, 0x639, 0x644, 0x64A, 0x647, 0x20, 0x648, 0x633, 0x644, 0x645]),
   (0xFB, [0x62C, 0x644, 0x20, 0x62C, 0x644, 0x627, 0x644, 0x647]),
   (0xFC, [0x631, 0x6CC, 0x627, 0x644])]

def decompositionPageFE : DecompositionPage :=
  [(0x10, [0x2C]), (0x11, [0x3001]), (0x12, [0x3002]), (0x13, [0x3A]), (0x14, [0x3B]),
   (0x15, [0x21]), (0x16, [0x3F]), (0x17, [0x3016]), (0x18, [0x3017]), (0x19, [0x2E, 0x2E, 0x2E]),
   (0x30, [0x2E, 0x2E]), (0x31, [0x2014]), (0x32, [0x2013]), (0x33, [0x5F]), (0x34, [0x5F]),
   (0x35, [0x28]), (0x36, [0x29]), (0x37, [0x7B]), (0x38, [0x7D]), (0x39, [0x3014]),
   (0x3A, [0x3015]), (0x3B, [0x3010]), (0x3C, [0x3011]), (0x3D, [0x300A]), (0x3E, [0x300B]),
   (0x3F, [0x3008]), (0x40, [0x3009]), (0x41, [0x300C]), (0x42, [0x300D]), (0x43, [0x300E]),
   (0x44, [0x300F]), (0x47, [0x5B]), (0x48, [0x5D]), (0x49, [0x20, 0x305]), (0x4A, [0x20, 0x305]),
   (0x4B, [0x20, 0x305]), (0x4C, [0x20, 0x305]), (0x4D, [0x5F]), (0x4E, [0x5F]), (0x4F, [0x5F]),
   (0x50, [0x2C]), (0x51, [0x3001]), (0x52, [0x2E]), (0x54, [0x3B]), (0x55, [0x3A]),
   (0x56, [0x3F]), (0x57, [0x21]), (0x58, [0x2014]), (0x59, [0x28]), (0x5A, [0x29]),
   (0x5B, [0x7B]), (0x5C, [0x7D]), (0x5D, [0x3014]), (0x5E, [0x3015]), (0x5F, [0x23]),
   (0x60, [0x26]), (0x61, [0x2A]), (0x62, [0x2B]), (0x63, [0x2D]), (0x64, [0x3C]), (0x65, [0x3E]),
   (0x66, [0x3D]), (0x68, [0x5C]), (0x69, [0x24]), (0x6A, [0x25]), (0x6B, [0x40]),
   (0x70, [0x20, 0x64B]), (0x71, [0x640, 0x64B]), (0x72, [0x20, 0x64C]), (0x74, [0x20, 0x64D]),
   (0x76, [0x20, 0x64E]), (0x77, [0x640, 0x64E]), (0x78, [0x20, 0x64F]), (0x79, [0x640, 0x64F]),
   (0x7A, [0x20, 0x650]), (0x7B, [0x640, 0x650]), (0x7C, [0x20, 0x651]), (0x7D, [0x640, 0x651]),
   (0x7E, [0x20, 0x652]), (0x7F, [0x640, 0x652]), (0x80, [0x621]), (0x81, [0x627, 0x653]),
   (0x82, [0x627, 0x653]), (0x83, [0x627, 0x654]), (0x84, [0x627, 0x654]), (0x85, [0x648, 0x654]),
   (0x86, [0x648, 0x654]), (0x87, [0x627, 0x655]), (0x88, [0x627, 0x655]), (0x89, [0x64A, 0x654]),
   (0x8A, [0x64A, 0x654]), (0x8B, [0x64A, 0x654]), (0x8C, [0x64A, 0x654]), (0x8D, [0x627]),
   (0x8E, [0x627]), (0x8F, [0x628]), (0x90, [0x628]), (0x91, [0x628]), (0x92, [0x628]),
   (0x93, [0x629]), (0x94, [0x629]), (0x95, [0x62A]), (0x96, [0x62A]), (0x97, [0x62A]),
   (0x98, [0x62A]), (0x99, [0x62B]), (0x9A, [0x62B]), (0x9B, [0x62B]), (0x9C, [0x62B]),
   (0x9D, [0x62C]), (0x9E, [0x62C]), (0x9F, [0x62C]), (0xA0, [0x62C]), (0xA1, [0x62D]),
   (0xA2, [0x62D]), (0xA3, [0x62D]), (0xA4, [0x62D]), (0xA5, [0x62E]), (0xA6, [0x62E]),
   (0xA7, [0x62E]), (0xA8, [0x62E]), (0xA9, [0x62F]), (0xAA, [0x62F]), (0xAB, [0x630]),
   (0xAC, [0x630]), (0xAD, [0x631]), (0xAE, [0x631]), (0xAF, [0x632]), (0xB0, [0x632]),
   (0xB1, [0x633]), (0xB2, [0x633]), (0xB3, [0x633]), (0xB4, [0x633]), (0xB5, [0x634]),
   (0xB6, [0x634]), (0xB7, [0x634]), (0xB8, [0x634]), (0xB9, [0x635]), (0xBA, [0x635]),
   (0xBB, [0x635]), (0xBC, [0x635]), (0xBD, [0x636]), (0xBE, [0x636]), (0xBF, [0x636]),
   (0xC0, [0x636]), (0xC1, [0x637]), (0xC2, [0x637]), (0xC3, [0x637]), (0xC4, [0x637]),
   (0xC5, [0x638]), (0xC6, [0x638]), (0xC7, [0x638]), (0xC8, [0x638]), (0xC9, [0x639]),
   (0xCA, [0x639]), (0xCB, [0x639]), (0xCC, [0x639]), (0xCD, [0x63A]), (0xCE, [0x63A]),
   (0xCF, [0x63A]), (0xD0, [0x63A]), (0xD1, [0x641]), (0xD2, [0x641]), (0xD3, [0x641]),
   (0xD4, [0x641]), (0xD5, [0x642]), (0xD6, [0x642]), (0xD7, [0x642]), (0xD8, [0x642]),
   (0xD9, [0x643]), (0xDA, [0x643]), (0xDB, [0x643]), (0xDC, [0x643]), (0xDD, [0x644]),
   (0xDE, [0x644]), (0xDF, [0x644]), (0xE0, [0x644]), (0xE1, [0x645]), (0xE2, [0x645]),
   (0xE3, [0x645]), (0xE4, [0x645]), (0xE5, [0x646]), (0xE6, [0x646]), (0xE7, [0x646]),
   (0xE8, [0x646]), (0xE9, [0x647]), (0xEA, [0x647]), (0xEB, [0x647]), (0xEC, [0x647]),
   (0xED, [0x648]), (0xEE, [0x648]), (0xEF, [0x649]), (0xF0, [0x649]), (0xF1, [0x64A]),
   (0xF2, [0x64A]), (0xF3, [0x64A]), (0xF4, [0x64A]), (0xF5, [0x644, 0x627, 0x653]),
   (0xF6, [0x644, 0x627, 0x653]), (0xF7, [0x644, 0x627, 0x654]), (0xF8, [0x644, 0x627, 0x654]),
   (0xF9, [0x644, 0x627, 0x655]), (0xFA, [0x644, 0x627, 0x655]), (0xFB, [0x644, 0x627]),
   (0xFC, [0x644, 0x627])]

def decompositionPageFF : DecompositionPage :=
  [(0x01, [0x21]), (0x02, [0x22]), (0x03, [0x23]), (0x04, [0x24]), (0x05, [0x25]), (0x06, [0x26]),
   (0x07, [0x27]), (0x08, [0x28]), (0x09, [0x29]), (0x0A, [0x2A]), (0x0B, [0x2B]), (0x0C, [0x2C]),
   (0x0D, [0x2D]), (0x0E, [0x2E]), (0x0F, [0x2F]), (0x10, [0x30]), (0x11, [0x31]), (0x12, [0x32]),
   (0x13, [0x33]), (0x14, [0x34]), (0x15, [0x35]), (0x16, [0x36]), (0x17, [0x37]), (0x18, [0x38]),
   (0x19, [0x39]), (0x1A, [0x3A]), (0x1B, [0x3B]), (0x1C, [0x3C]), (0x1D, [0x3D]), (0x1E, [0x3E]),
   (0x1F, [0x3F]), (0x20, [0x40]), (0x21, [0x41]), (0x22, [0x42]), (0x23, [0x43]), (0x24, [0x44]),
   (0x25, [0x45]), (0x26, [0x46]), (0x27, [0x47]), (0x28, [0x48]), (0x29, [0x49]), (0x2A, [0x4A]),
   (0x2B, [0x4B]), (0x2C, [0x4C]), (0x2D, [0x4D]), (0x2E, [0x4E]), (0x2F, [0x4F]), (0x30, [0x50]),
   (0x31, [0x51]), (0x32, [0x52]), (0x33, [0x53]), (0x34, [0x54]), (0x35, [0x55]), (0x36, [0x56]),
   (0x37, [0x57]), (0x38, [0x58]), (0x39, [0x59]), (0x3A, [0x5A]), (0x3B, [0x5B]), (0x3C, [0x5C]),
   (0x3D, [0x5D]), (0x3E, [0x5E]), (0x3F, [0x5F]), (0x40, [0x60]), (0x41, [0x61]), (0x42, [0x62]),
   (0x43, [0x63]), (0x44, [0x64]), (0x45, [0x65]), (0x46, [0x66]), (0x47, [0x67]), (0x48, [0x68]),
   (0x49, [0x69]), (0x4A, [0x6A]), (0x4B, [0x6B]), (0x4C, [0x6C]), (0x4D, [0x6D]), (0x4E, [0x6E]),
   (0x4F, [0x6F]), (0x50, [0x70]), (0x51, [0x71]), (0x52, [0x72]), (0x53, [0x73]), (0x54, [0x74]),
   (0x55, [0x75]), (0x56, [0x76]), (0x57, [0x77]), (0x58, [0x78]), (0x59, [0x79]), (0x5A, [0x7A]),
   (0x5B, [0x7B]), (0x5C, [0x7C]), (0x5D, [0x7D]), (0x5E, [0x7E]), (0x5F, [0x2985]),
   (0x60, [0x2986]), (0x61, [0x3002]), (0x62, [0x300C]), (0x63, [0x300D]), (0x64, [0x3001]),
   (0x65, [0x30FB]), (0x66, [0x30F2]), (0x67, [0x30A1]), (0x68, [0x30A3]), (0x69, [0x30A5]),
   (0x6A, [0x30A7]), (0x6B, [0x30A9]), (0x6C, [0x30E3]), (0x6D, [0x30E5]), (0x6E, [0x30E7]),
   (0x6F, [0x30C3]), (0x70, [0x30FC]), (0x71, [0x30A2]), (0x72, [0x30A4]), (0x73, [0x30A6]),
   (0x74, [0x30A8]), (0x75, [0x30AA]), (0x76, [0x30AB]), (0x77, [0x30AD]), (0x78, [0x30AF]),
   (0x79, [0x30B1]), (0x7A, [0x30B3]), (0x7B, [0x30B5]), (0x7C, [0x30B7]), (0x7D, [0x30B9]),
   (0x7E, [0x30BB]), (0x7F, [0x30BD]), (0x80, [0x30BF]), (0x81, [0x30C1]), (0x82, [0x30C4]),
   (0x83, [0x30C6]), (0x84, [0x30C8]), (0x85, [0x30CA]), (0x86, [0x30CB]), (0x87, [0x30CC]),
   (0x88, [0x30CD]), (0x89, [0x30CE]), (0x8A, [0x30CF]), (0x8B, [0x30D2]), (0x8C, [0x30D5]),
   (0x8D, [0x30D8]), (0x8E, [0x30DB]), (0x8F, [0x30DE]), (0x90, [0x30DF]), (0x91, [0x30E0]),
   (0x92, [0x30E1]), (0x93, [0x30E2]), (0x94, [0x30E4]), (0x95, [0x30E6]), (0x96, [0x30E8]),
   (0x97, [0x30E9]), (0x98, [0x30EA]), (0x99, [0x30EB]), (0x9A, [0x30EC]), (0x9B, [0x30ED]),
   (0x9C, [0x30EF]), (0x9D, [0x30F3]), (0x9E, [0x3099]), (0x9F, [0x309A]), (0xA0, [0x1160]),
   (0xA1, [0x1100]), (0xA2, [0x1101]), (0xA3, [0x11AA]), (0xA4, [0x1102]), (0xA5, [0x11AC]),
   (0xA6, [0x11AD]), (0xA7, [0x1103]), (0xA8, [0x1104]), (0xA9, [0x1105]), (0xAA, [0x11B0]),
   (0xAB, [0x11B1]), (0xAC, [0x11B2]), (0xAD, [0x11B3]), (0xAE, [0x11B4]), (0xAF, [0x11B5]),
   (0xB0, [0x111A]), (0xB1, [0x1106]), (0xB2, [0x1107]), (0xB3, [0x1108]), (0xB4, [0x1121]),
   (0xB5, [0x1109]), (0xB6, [0x110A]), (0xB7, [0x110B]), (0xB8, [0x110C]), (0xB9, [0x110D]),
   (0xBA, [0x110E]), (0xBB, [0x110F]), (0xBC, [0x1110]), (0xBD, [0x1111]), (0xBE, [0x1112]),
   (0xC2, [0x1161]), (0xC3, [0x1162]), (0xC4, [0x1163]), (0xC5, [0x1164]), (0xC6, [0x1165]),
   (0xC7, [0x1166]), (0xCA, [0x1167]), (0xCB, [0x1168]), (0xCC, [0x1169]), (0xCD, [0x116A]),
   (0xCE, [0x116B]), (0xCF, [0x116C]), (0xD2, [0x116D]), (0xD3, [0x116E]), (0xD4, [0x116F]),
   (0xD5, [0x1170]), (0xD6, [0x1171]), (0xD7, [0x1172]), (0xDA, [0x1173]), (0xDB, [0x1174]),
   (0xDC, [0x1175]), (0xE0, [0xA2]), (0xE1, [0xA3]), (0xE2, [0xAC]), (0xE3, [0x20, 0x304]),
   (0xE4, [0xA6]), (0xE5, [0xA5]), (0xE6, [0x20A9]), (0xE8, [0x2502]), (0xE9, [0x2190]),
   (0xEA, [0x2191]), (0xEB, [0x2192]), (0xEC, [0x2193]), (0xED, [0x25A0]), (0xEE, [0x25CB])]

def decompositionPage105 : DecompositionPage :=
  [(0xC9, [0x105D2, 0x307]), (0xE4, [0x105DA, 0x307])]

def decompositionPage107 : DecompositionPage :=
  [(0x81, [0x2D0]), (0x82, [0x2D1]), (0x83, [0xE6]), (0x84, [0x299]), (0x85, [0x253]),
   (0x87, [0x2A3]), (0x88, [0xAB66]), (0x89, [0x2A5]), (0x8A, [0x2A4]), (0x8B, [0x256]),
   (0x8C, [0x257]), (0x8D, [0x1D91]), (0x8E, [0x258]), (0x8F, [0x25E]), (0x90, [0x2A9]),
   (0x91, [0x264]), (0x92, [0x262]), (0x93, [0x260]), (0x94, [0x29B]), (0x95, [0x127]),
   (0x96, [0x29C]), (0x97, [0x267]), (0x98, [0x284]), (0x99, [0x2AA]), (0x9A, [0x2AB]),
   (0x9B, [0x26C]), (0x9C, [0x1DF04]), (0x9D, [0xA78E]), (0x9E, [0x26E]), (0x9F, [0x1DF05]),
   (0xA0, [0x28E]), (0xA1, [0x1DF06]), (0xA2, [0xF8]), (0xA3, [0x276]), (0xA4, [0x277]),
   (0xA5, [0x71]), (0xA6, [0x27A]), (0xA7, [0x1DF08]), (0xA8, [0x27D]), (0xA9, [0x27E]),
   (0xAA, [0x280]), (0xAB, [0x2A8]), (0xAC, [0x2A6]), (0xAD, [0xAB67]), (0xAE, [0x2A7]),
   (0xAF, [0x288]), (0xB0, [0x2C71]), (0xB2, [0x28F]), (0xB3, [0x2A1]), (0xB4, [0x2A2]),
   (0xB5, [0x298]), (0xB6, [0x1C0]), (0xB7, [0x1C1]), (0xB8, [0x1C2]), (0xB9, [0x1DF0A]),
   (0xBA, [0x1DF1E])]

def decompositionPage110 : DecompositionPage :=
  [(0x9A, [0x11099, 0x110BA]), (0x9C, [0x1109B, 0x110BA]), (0xAB, [0x110A5, 0x110BA])]

def decompositionPage111 : DecompositionPage :=
  [(0x2E, [0x11131, 0x11127]), (0x2F, [0x11132, 0x11127])]

def decompositionPage113 : DecompositionPage :=
  [(0x4B, [0x11347, 0x1133E]), (0x4C, [0x11347, 0x11357]), (0x83, [0x11382, 0x113C9]),
   (0x85, [0x11384, 0x113BB]), (0x8E, [0x1138B, 0x113C2]), (0x91, [0x11390, 0x113C9]),
   (0xC5, [0x113C2, 0x113C2]), (0xC7, [0x113C2, 0x113B8]), (0xC8, [0x113C2, 0x113C9])]

def decompositionPage114 : DecompositionPage :=
  [(0xBB, [0x114B9, 0x114BA]), (0xBC, [0x114B9, 0x114B0]), (0xBE, [0x114B9, 0x114BD])]

def decompositionPage115 : DecompositionPage :=
  [(0xBA, [0x115B8, 0x115AF]), (0xBB, [0x115B9, 0x115AF])]

def decompositionPage119 : DecompositionPage :=
  [(0x38, [0x11935, 0x11930])]

def decompositionPage161 : DecompositionPage :=
  [(0x21, [0x1611E, 0x1611E]), (0x22, [0x1611E, 0x16129]), (0x23, [0x1611E, 0x1611F]),
   (0x24, [0x16129, 0x1611F]), (0x25, [0x1611E, 0x16120]), (0x26, [0x1611E, 0x1611E, 0x1611F]),
   (0x27, [0x1611E, 0x16129, 0x1611F]), (0x28, [0x1611E, 0x1611E, 0x16120])]

def decompositionPage16D : DecompositionPage :=
  [(0x68, [0x16D67, 0x16D67]), (0x69, [0x16D63, 0x16D67]), (0x6A, [0x16D63, 0x16D67, 0x16D67])]

def decompositionPage1CC : DecompositionPage :=
  [(0xD6, [0x41]), (0xD7, [0x42]), (0xD8, [0x43]), (0xD9, [0x44]), (0xDA, [0x45]), (0xDB, [0x46]),
   (0xDC, [0x47]), (0xDD, [0x48]), (0xDE, [0x49]), (0xDF, [0x4A]), (0xE0, [0x4B]), (0xE1, [0x4C]),
   (0xE2, [0x4D]), (0xE3, [0x4E]), (0xE4, [0x4F]), (0xE5, [0x50]), (0xE6, [0x51]), (0xE7, [0x52]),
   (0xE8, [0x53]), (0xE9, [0x54]), (0xEA, [0x55]), (0xEB, [0x56]), (0xEC, [0x57]), (0xED, [0x58]),
   (0xEE, [0x59]), (0xEF, [0x5A]), (0xF0, [0x30]), (0xF1, [0x31]), (0xF2, [0x32]), (0xF3, [0x33]),
   (0xF4, [0x34]), (0xF5, [0x35]), (0xF6, [0x36]), (0xF7, [0x37]), (0xF8, [0x38]), (0xF9, [0x39])]

def decompositionPage1D1 : DecompositionPage :=
  [(0x5E, [0x1D157, 0x1D165]), (0x5F, [0x1D158, 0x1D165]), (0x60, [0x1D158, 0x1D165, 0x1D16E]),
   (0x61, [0x1D158, 0x1D165, 0x1D16F]), (0x62, [0x1D158, 0x1D165, 0x1D170]),
   (0x63, [0x1D158, 0x1D165, 0x1D171]), (0x64, [0x1D158, 0x1D165, 0x1D172]),
   (0xBB, [0x1D1B9, 0x1D165]), (0xBC, [0x1D1BA, 0x1D165]), (0xBD, [0x1D1B9, 0x1D165, 0x1D16E]),
   (0xBE, [0x1D1BA, 0x1D165, 0x1D16E]), (0xBF, [0x1D1B9, 0x1D165, 0x1D16F]),
   (0xC0, [0x1D1BA, 0x1D165, 0x1D16F])]

def decompositionPage1D4 : DecompositionPage :=
  [(0x00, [0x41]), (0x01, [0x42]), (0x02, [0x43]), (0x03, [0x44]), (0x04, [0x45]), (0x05, [0x46]),
   (0x06, [0x47]), (0x07, [0x48]), (0x08, [0x49]), (0x09, [0x4A]), (0x0A, [0x4B]), (0x0B, [0x4C]),
   (0x0C, [0x4D]), (0x0D, [0x4E]), (0x0E, [0x4F]), (0x0F, [0x50]), (0x10, [0x51]), (0x11, [0x52]),
   (0x12, [0x53]), (0x13, [0x54]), (0x14, [0x55]), (0x15, [0x56]), (0x16, [0x57]), (0x17, [0x58]),
   (0x18, [0x59]), (0x19, [0x5A]), (0x1A, [0x61]), (0x1B, [0x62]), (0x1C, [0x63]), (0x1D, [0x64]),
   (0x1E, [0x65]), (0x1F, [0x66]), (0x20, [0x67]), (0x21, [0x68]), (0x22, [0x69]), (0x23, [0x6A]),
   (0x24, [0x6B]), (0x25, [0x6C]), (0x26, [0x6D]), (0x27, [0x6E]), (0x28, [0x6F]), (0x29, [0x70]),
   (0x2A, [0x71]), (0x2B, [0x72]), (0x2C, [0x73]), (0x2D, [0x74]), (0x2E, [0x75]), (0x2F, [0x76]),
   (0x30, [0x77]), (0x31, [0x78]), (0x32, [0x79]), (0x33, [0x7A]), (0x34, [0x41]), (0x35, [0x42]),
   (0x36, [0x43]), (0x37, [0x44]), (0x38, [0x45]), (0x39, [0x46]), (0x3A, [0x47]), (0x3B, [0x48]),
   (0x3C, [0x49]), (0x3D, [0x4A]), (0x3E, [0x4B]), (0x3F, [0x4C]), (0x40, [0x4D]), (0x41, [0x4E]),
   (0x42, [0x4F]), (0x43, [0x50]), (0x44, [0x51]), (0x45, [0x52]), (0x46, [0x53]), (0x47, [0x54]),
   (0x48, [0x55]), (0x49, [0x56]), (0x4A, [0x57]), (0x4B, [0x58]), (0x4C, [0x59]), (0x4D, [0x5A]),
   (0x4E, [0x61]), (0x4F, [0x62]), (0x50, [0x63]), (0x51, [0x64]), (0x52, [0x65]), (0x53, [0x66]),
   (0x54, [0x67]), (0x56, [0x69]), (0x57, [0x6A]), (0x58, [0x6B]), (0x59, [0x6C]), (0x5A, [0x6D]),
   (0x5B, [0x6E]), (0x5C, [0x6F]), (0x5D, [0x70]), (0x5E, [0x71]), (0x5F, [0x72]), (0x60, [0x73]),
   (0x61, [0x74]), (0x62, [0x75]), (0x63, [0x76]), (0x64, [0x77]), (0x65, [0x78]), (0x66, [0x79]),
   (0x67, [0x7A]), (0x68, [0x41]), (0x69, [0x42]), (0x6A, [0x43]), (0x6B, [0x44]), (0x6C, [0x45]),
   (0x6D, [0x46]), (0x6E, [0x47]), (0x6F, [0x48]), (0x70, [0x49]), (0x71, [0x4A]), (0x72, [0x4B]),
   (0x73, [0x4C]), (0x74, [0x4D]), (0x75, [0x4E]), (0x76, [0x4F]), (0x77, [0x50]), (0x78, [0x51]),
   (0x79, [0x52]), (0x7A, [0x53]), (0x7B, [0x54]), (0x7C, [0x55]), (0x7D, [0x56]), (0x7E, [0x57]),
   (0x7F, [0x58]), (0x80, [0x59]), (0x81, [0x5A]), (0x82, [0x61]), (0x83, [0x62]), (0x84, [0x63]),
   (0x85, [0x64]), (0x86, [0x65]), (0x87, [0x66]), (0x88, [0x67]), (0x89, [0x68]), (0x8A, [0x69]),
   (0x8B, [0x6A]), (0x8C, [0x6B]), (0x8D, [0x6C]), (0x8E, [0x6D]), (0x8F, [0x6E]), (0x90, [0x6F]),
   (0x91, [0x70]), (0x92, [0x71]), (0x93, [0x72]), (0x94, [0x73]), (0x95, [0x74]), (0x96, [0x75]),
   (0x97, [0x76]), (0x98, [0x77]), (0x99, [0x78]), (0x9A, [0x79]), (0x9B, [0x7A]), (0x9C, [0x41]),
   (0x9E, [0x43]), (0x9F, [0x44]), (0xA2, [0x47]), (0xA5, [0x4A]), (0xA6, [0x4B]), (0xA9, [0x4E]),
   (0xAA, [0x4F]), (0xAB, [0x50]), (0xAC, [0x51]), (0xAE, [0x53]), (0xAF, [0x54]), (0xB0, [0x55]),
   (0xB1, [0x56]), (0xB2, [0x57]), (0xB3, [0x58]), (0xB4, [0x59]), (0xB5, [0x5A]), (0xB6, [0x61]),
   (0xB7, [0x62]), (0xB8, [0x63]), (0xB9, [0x64]), (0xBB, [0x66]), (0xBD, [0x68]), (0xBE, [0x69]),
   (0xBF, [0x6A]), (0xC0, [0x6B]), (0xC1, [0x6C]), (0xC2, [0x6D]), (0xC3, [0x6E]), (0xC5, [0x70]),
   (0xC6, [0x71]), (0xC7, [0x72]), (0xC8, [0x73]), (0xC9, [0x74]), (0xCA, [0x75]), (0xCB, [0x76]),
   (0xCC, [0x77]), (0xCD, [0x78]), (0xCE, [0x79]), (0xCF, [0x7A]), (0xD0, [0x41]), (0xD1, [0x42]),
   (0xD2, [0x43]), (0xD3, [0x44]), (0xD4, [0x45]), (0xD5, [0x46]), (0xD6, [0x47]), (0xD7, [0x48]),
   (0xD8, [0x49]), (0xD9, [0x4A]), (0xDA, [0x4B]), (0xDB, [0x4C]), (0xDC, [0x4D]), (0xDD, [0x4E]),
   (0xDE, [0x4F]), (0xDF, [0x50]), (0xE0, [0x51]), (0xE1, [0x52]), (0xE2, [0x53]), (0xE3, [0x54]),
   (0xE4, [0x55]), (0xE5, [0x56]), (0xE6, [0x57]), (0xE7, [0x58]), (0xE8, [0x59]), (0xE9, [0x5A]),
   (0xEA, [0x61]), (0xEB, [0x62]), (0xEC, [0x63]), (0xED, [0x64]), (0xEE, [0x65]), (0xEF, [0x66]),
   (0xF0, [0x67]), (0xF1, [0x68]), (0xF2, [0x69]), (0xF3, [0x6A]), (0xF4, [0x6B]), (0xF5, [0x6C]),
   (0xF6, [0x6D]), (0xF7, [0x6E]), (0xF8, [0x6F]), (0xF9, [0x70]), (0xFA, [0x71]), (0xFB, [0x72]),
   (0xFC, [0x73]), (0xFD, [0x74]), (0xFE, [0x75]), (0xFF, [0x76])]

def decompositionPage1D5 : DecompositionPage :=
  [(0x00, [0x77]), (0x01, [0x78]), (0x02, [0x79]), (0x03, [0x7A]), (0x04, [0x41]), (0x05, [0x42]),
   (0x07, [0x44]), (0x08, [0x45]), (0x09, [0x46]), (0x0A, [0x47]), (0x0D, [0x4A]), (0x0E, [0x4B]),
   (0x0F, [0x4C]), (0x10, [0x4D]), (0x11, [0x4E]), (0x12, [0x4F]), (0x13, [0x50]), (0x14, [0x51]),
   (0x16, [0x53]), (0x17, [0x54]), (0x18, [0x55]), (0x19, [0x56]), (0x1A, [0x57]), (0x1B, [0x58]),
   (0x1C, [0x59]), (0x1E, [0x61]), (0x1F, [0x62]), (0x20, [0x63]), (0x21, [0x64]), (0x22, [0x65]),
   (0x23, [0x66]), (0x24, [0x67]), (0x25, [0x68]), (0x26, [0x69]), (0x27, [0x6A]), (0x28, [0x6B]),
   (0x29, [0x6C]), (0x2A, [0x6D]), (0x2B, [0x6E]), (0x2C, [0x6F]), (0x2D, [0x70]), (0x2E, [0x71]),
   (0x2F, [0x72]), (0x30, [0x73]), (0x31, [0x74]), (0x32, [0x75]), (0x33, [0x76]), (0x34, [0x77]),
   (0x35, [0x78]), (0x36, [0x79]), (0x37, [0x7A]), (0x38, [0x41]), (0x39, [0x42]), (0x3B, [0x44]),
   (0x3C, [0x45]), (0x3D, [0x46]), (0x3E, [0x47]), (0x40, [0x49]), (0x41, [0x4A]), (0x42, [0x4B]),
   (0x43, [0x4C]), (0x44, [0x4D]), (0x46, [0x4F]), (0x4A, [0x53]), (0x4B, [0x54]), (0x4C, [0x55]),
   (0x4D, [0x56]), (0x4E, [0x57]), (0x4F, [0x58]), (0x50, [0x59]), (0x52, [0x61]), (0x53, [0x62]),
   (0x54, [0x63]), (0x55, [0x64]), (0x56, [0x65]), (0x57, [0x66]), (0x58, [0x67]), (0x59, [0x68]),
   (0x5A, [0x69]), (0x5B, [0x6A]), (0x5C, [0x6B]), (0x5D, [0x6C]), (0x5E, [0x6D]), (0x5F, [0x6E]),
   (0x60, [0x6F]), (0x61, [0x70]), (0x62, [0x71]), (0x63, [0x72]), (0x64, [0x73]), (0x65, [0x74]),
   (0x66, [0x75]), (0x67, [0x76]), (0x68, [0x77]), (0x69, [0x78]), (0x6A, [0x79]), (0x6B, [0x7A]),
   (0x6C, [0x41]), (0x6D, [0x42]), (0x6E, [0x43]), (0x6F, [0x44]), (0x70, [0x45]), (0x71, [0x46]),
   (0x72, [0x47]), (0x73, [0x48]), (0x74, [0x49]), (0x75, [0x4A]), (0x76, [0x4B]), (0x77, [0x4C]),
   (0x78, [0x4D]), (0x79, [0x4E]), (0x7A, [0x4F]), (0x7B, [0x50]), (0x7C, [0x51]), (0x7D, [0x52]),
   (0x7E, [0x53]), (0x7F, [0x54]), (0x80, [0x55]), (0x81, [0x56]), (0x82, [0x57]), (0x83, [0x58]),
   (0x84, [0x59]), (0x85, [0x5A]), (0x86, [0x61]), (0x87, [0x62]), (0x88, [0x63]), (0x89, [0x64]),
   (0x8A, [0x65]), (0x8B, [0x66]), (0x8C, [0x67]), (0x8D, [0x68]), (0x8E, [0x69]), (0x8F, [0x6A]),
   (0x90, [0x6B]), (0x91, [0x6C]), (0x92, [0x6D]), (0x93, [0x6E]), (0x94, [0x6F]), (0x95, [0x70]),
   (0x96, [0x71]), (0x97, [0x72]), (0x98, [0x73]), (0x99, [0x74]), (0x9A, [0x75]), (0x9B, [0x76]),
   (0x9C, [0x77]), (0x9D, [0x78]), (0x9E, [0x79]), (0x9F, [0x7A]), (0xA0, [0x41]), (0xA1, [0x42]),
   (0xA2, [0x43]), (0xA3, [0x44]), (0xA4, [0x45]), (0xA5, [0x46]), (0xA6, [0x47]), (0xA7, [0x48]),
   (0xA8, [0x49]), (0xA9, [0x4A]), (0xAA, [0x4B]), (0xAB, [0x4C]), (0xAC, [0x4D]), (0xAD, [0x4E]),
   (0xAE, [0x4F]), (0xAF, [0x50]), (0xB0, [0x51]), (0xB1, [0x52]), (0xB2, [0x53]), (0xB3, [0x54]),
   (0xB4, [0x55]), (0xB5, [0x56]), (0xB6, [0x57]), (0xB7, [0x58]), (0xB8, [0x59]), (0xB9, [0x5A]),
   (0xBA, [0x61]), (0xBB, [0x62]), (0xBC, [0x63]), (0xBD, [0x64]), (0xBE, [0x65]), (0xBF, [0x66]),
   (0xC0, [0x67]), (0xC1, [0x68]), (0xC2, [0x69]), (0xC3, [0x6A]), (0xC4, [0x6B]), (0xC5, [0x6C]),
   (0xC6, [0x6D]), (0xC7, [0x6E]), (0xC8, [0x6F]), (0xC9, [0x70]), (0xCA, [0x71]), (0xCB, [0x72]),
   (0xCC, [0x73]), (0xCD, [0x74]), (0xCE, [0x75]), (0xCF, [0x76]), (0xD0, [0x77]), (0xD1, [0x78]),
   (0xD2, [0x79]), (0xD3, [0x7A]), (0xD4, [0x41]), (0xD5, [0x42]), (0xD6, [0x43]), (0xD7, [0x44]),
   (0xD8, [0x45]), (0xD9, [0x46]), (0xDA, [0x47]), (0xDB, [0x48]), (0xDC, [0x49]), (0xDD, [0x4A]),
   (0xDE, [0x4B]), (0xDF, [0x4C]), (0xE0, [0x4D]), (0xE1, [0x4E]), (0xE2, [0x4F]), (0xE3, [0x50]),
   (0xE4, [0x51]), (0xE5, [0x52]), (0xE6, [0x53]), (0xE7, [0x54]), (0xE8, [0x55]), (0xE9, [0x56]),
   (0xEA, [0x57]), (0xEB, [0x58]), (0xEC, [0x59]), (0xED, [0x5A]), (0xEE, [0x61]), (0xEF, [0x62]),
   (0xF0, [0x63]), (0xF1, [0x64]), (0xF2, [0x65]), (0xF3, [0x66]), (0xF4, [0x67]), (0xF5, [0x68]),
   (0xF6, [0x69]), (0xF7, [0x6A]), (0xF8, [0x6B]), (0xF9, [0x6C]), (0xFA, [0x6D]), (0xFB, [0x6E]),
   (0xFC, [0x6F]), (0xFD, [0x70]), (0xFE, [0x71]), (0xFF, [0x72])]

def decompositionPage1D6 : DecompositionPage :=
  [(0x00, [0x73]), (0x01, [0x74]), (0x02, [0x75]), (0x03, [0x76]), (0x04, [0x77]), (0x05, [0x78]),
   (0x06, [0x79]), (0x07, [0x7A]), (0x08, [0x41]), (0x09, [0x42]), (0x0A, [0x43]), (0x0B, [0x44]),
   (0x0C, [0x45]), (0x0D, [0x46]), (0x0E, [0x47]), (0x0F, [0x48]), (0x10, [0x49]), (0x11, [0x4A]),
   (0x12, [0x4B]), (0x13, [0x4C]), (0x14, [0x4D]), (0x15, [0x4E]), (0x16, [0x4F]), (0x17, [0x50]),
   (0x18, [0x51]), (0x19, [0x52]), (0x1A, [0x53]), (0x1B, [0x54]), (0x1C, [0x55]), (0x1D, [0x56]),
   (0x1E, [0x57]), (0x1F, [0x58]), (0x20, [0x59]), (0x21, [0x5A]), (0x22, [0x61]), (0x23, [0x62]),
   (0x24, [0x63]), (0x25, [0x64]), (0x26, [0x65]), (0x27, [0x66]), (0x28, [0x67]), (0x29, [0x68]),
   (0x2A, [0x69]), (0x2B, [0x6A]), (0x2C, [0x6B]), (0x2D, [0x6C]), (0x2E, [0x6D]), (0x2F, [0x6E]),
   (0x30, [0x6F]), (0x31, [0x70]), (0x32, [0x71]), (0x33, [0x72]), (0x34, [0x73]), (0x35, [0x74]),
   (0x36, [0x75]), (0x37, [0x76]), (0x38, [0x77]), (0x39, [0x78]), (0x3A, [0x79]), (0x3B, [0x7A]),
   (0x3C, [0x41]), (0x3D, [0x42]), (0x3E, [0x43]), (0x3F, [0x44]), (0x40, [0x45]), (0x41, [0x46]),
   (0x42, [0x47]), (0x43, [0x48]), (0x44, [0x49]), (0x45, [0x4A]), (0x46, [0x4B]), (0x47, [0x4C]),
   (0x48, [0x4D]), (0x49, [0x4E]), (0x4A, [0x4F]), (0x4B, [0x50]), (0x4C, [0x51]), (0x4D, [0x52]),
   (0x4E, [0x53]), (0x4F, [0x54]), (0x50, [0x55]), (0x51, [0x56]), (0x52, [0x57]), (0x53, [0x58]),
   (0x54, [0x59]), (0x55, [0x5A]), (0x56, [0x61]), (0x57, [0x62]), (0x58, [0x63]), (0x59, [0x64]),
   (0x5A, [0x65]), (0x5B, [0x66]), (0x5C, [0x67]), (0x5D, [0x68]), (0x5E, [0x69]), (0x5F, [0x6A]),
   (0x60, [0x6B]), (0x61, [0x6C]), (0x62, [0x6D]), (0x63, [0x6E]), (0x64, [0x6F]), (0x65, [0x70]),
   (0x66, [0x71]), (0x67, [0x72]), (0x68, [0x73]), (0x69, [0x74]), (0x6A, [0x75]), (0x6B, [0x76]),
   (0x6C, [0x77]), (0x6D, [0x78]), (0x6E, [0x79]), (0x6F, [0x7A]), (0x70, [0x41]), (0x71, [0x42]),
   (0x72, [0x43]), (0x73, [0x44]), (0x74, [0x45]), (0x75, [0x46]), (0x76, [0x47]), (0x77, [0x48]),
   (0x78, [0x49]), (0x79, [0x4A]), (0x7A, [0x4B]), (0x7B, [0x4C]), (0x7C, [0x4D]), (0x7D, [0x4E]),
   (0x7E, [0x4F]), (0x7F, [0x50]), (0x80, [0x51]), (0x81, [0x52]), (0x82, [0x53]), (0x83, [0x54]),
   (0x84, [0x55]), (0x85, [0x56]), (0x86, [0x57]), (0x87, [0x58]), (0x88, [0x59]), (0x89, [0x5A]),
   (0x8A, [0x61]), (0x8B, [0x62]), (0x8C, [0x63]), (0x8D, [0x64]), (0x8E, [0x65]), (0x8F, [0x66]),
   (0x90, [0x67]), (0x91, [0x68]), (0x92, [0x69]), (0x93, [0x6A]), (0x94, [0x6B]), (0x95, [0x6C]),
   (0x96, [0x6D]), (0x97, [0x6E]), (0x98, [0x6F]), (0x99, [0x70]), (0x9A, [0x71]), (0x9B, [0x72]),
   (0x9C, [0x73]), (0x9D, [0x74]), (0x9E, [0x75]), (0x9F, [0x76]), (0xA0, [0x77]), (0xA1, [0x78]),
   (0xA2, [0x79]), (0xA3, [0x7A]), (0xA4, [0x131]), (0xA5, [0x237]), (0xA6, [0xDF]),
   (0xA8, [0x391]),
   (0xA9, [0x392]), (0xAA, [0x393]), (0xAB, [0x394]), (0xAC, [0x395]), (0xAD, [0x396]),
   (0xAE, [0x397]), (0xAF, [0x398]), (0xB0, [0x399]), (0xB1, [0x39A]), (0xB2, [0x39B]),
   (0xB3, [0x39C]), (0xB4, [0x39D]), (0xB5, [0x39E]), (0xB6, [0x39F]), (0xB7, [0x3A0]),
   (0xB8, [0x3A1]), (0xB9, [0x398]), (0xBA, [0x3A3]), (0xBB, [0x3A4]), (0xBC, [0x3A5]),
   (0xBD, [0x3A6]), (0xBE, [0x3A7]), (0xBF, [0x3A8]), (0xC0, [0x3A9]), (0xC1, [0x2207]),
   (0xC2, [0x3B1]), (0xC3, [0x3B2]), (0xC4, [0x3B3]), (0xC5, [0x3B4]), (0xC6, [0x3B5]),
   (0xC7, [0x3B6]), (0xC8, [0x3B7]), (0xC9, [0x3B8]), (0xCA, [0x3B9]), (0xCB, [0x3BA]),
   (0xCC, [0x3BB]), (0xCD, [0x3BC]), (0xCE, [0x3BD]), (0xCF, [0x3BE]), (0xD0, [0x3BF]),
   (0xD1, [0x3C0]), (0xD2, [0x3C1]), (0xD3, [0x3C2]), (0xD4, [0x3C3]), (0xD5, [0x3C4]),
   (0xD6, [0x3C5]), (0xD7, [0x3C6]), (0xD8, [0x3C7]), (0xD9, [0x3C8]), (0xDA, [0x3C9]),
   (0xDB, [0x2202]), (0xDC, [0x3B5]), (0xDD, [0x3B8]), (0xDE, [0x3BA]), (0xDF, [0x3C6]),
   (0xE0, [0x3C1]), (0xE1, [0x3C0]), (0xE2, [0x391]), (0xE3, [0x392]), (0xE4, [0x393]),
   (0xE5, [0x394]), (0xE6, [0x395]), (0xE7, [0x396]), (0xE8, [0x397]), (0xE9, [0x398]),
   (0xEA, [0x399]), (0xEB, [0x39A]), (0xEC, [0x39B]), (0xED, [0x39C]), (0xEE, [0x39D]),
   (0xEF, [0x39E]), (0xF0, [0x39F]), (0xF1, [0x3A0]), (0xF2, [0x3A1]), (0xF3, [0x398]),
   (0xF4, [0x3A3]), (0xF5, [0x3A4]), (0xF6, [0x3A5]), (0xF7, [0x3A6]), (0xF8, [0x3A7]),
   (0xF9, [0x3A8]), (0xFA, [0x3A9]), (0xFB, [0x2207]), (0xFC, [0x3B1]), (0xFD, [0x3B2]),
   (0xFE, [0x3B3]), (0xFF, [0x3B4])]

def decompositionPage1D7 : DecompositionPage :=
  [(0x00, [0x3B5]), (0x01, [0x3B6]), (0x02, [0x3B7]), (0x03, [0x3B8]), (0x04, [0x3B9]),
   (0x05, [0x3BA]), (0x06, [0x3BB]), (0x07, [0x3BC]), (0x08, [0x3BD]), (0x09, [0x3BE]),
   (0x0A, [0x3BF]), (0x0B, [0x3C0]), (0x0C, [0x3C1]), (0x0D, [0x3C2]), (0x0E, [0x3C3]),
   (0x0F, [0x3C4]), (0x10, [0x3C5]), (0x11, [0x3C6]), (0x12, [0x3C7]), (0x13, [0x3C8]),
   (0x14, [0x3C9]), (0x15, [0x2202]), (0x16, [0x3B5]), (0x17, [0x3B8]), (0x18, [0x3BA]),
   (0x19, [0x3C6]), (0x1A, [0x3C1]), (0x1B, [0x3C0]), (0x1C, [0x391]), (0x1D, [0x392]),
   (0x1E, [0x393]), (0x1F, [0x394]), (0x20, [0x395]), (0x21, [0x396]), (0x22, [0x397]),
   (0x23, [0x398]), (0x24, [0x399]), (0x25, [0x39A]), (0x26, [0x39B]), (0x27, [0x39C]),
   (0x28, [0x39D]), (0x29, [0x39E]), (0x2A, [0x39F]), (0x2B, [0x3A0]), (0x2C, [0x3A1]),
   (0x2D, [0x398]), (0x2E, [0x3A3]), (0x2F, [0x3A4]), (0x30, [0x3A5]), (0x31, [0x3A6]),
   (0x32, [0x3A7]), (0x33, [0x3A8]), (0x34, [0x3A9]), (0x35, [0x2207]), (0x36, [0x3B1]),
   (0x37, [0x3B2]), (0x38, [0x3B3]), (0x39, [0x3B4]), (0x3A, [0x3B5]), (0x3B, [0x3B6]),
   (0x3C, [0x3B7]), (0x3D, [0x3B8]), (0x3E, [0x3B9]), (0x3F, [0x3BA]), (0x40, [0x3BB]),
   (0x41, [0x3BC]), (0x42, [0x3BD]), (0x43, [0x3BE]), (0x44, [0x3BF]), (0x45, [0x3C0]),
   (0x46, [0x3C1]), (0x47, [0x3C2]), (0x48, [0x3C3]), (0x49, [0x3C4]), (0x4A, [0x3C5]),
   (0x4B, [0x3C6]), (0x4C, [0x3C7]), (0x4D, [0x3C8]), (0x4E, [0x3C9]), (0x4F, [0x2202]),
   (0x50, [0x3B5]), (0x51, [0x3B8]), (0x52, [0x3BA]), (0x53, [0x3C6]), (0x54, [0x3C1]),
   (0x55, [0x3C0]), (0x56, [0x391]), (0x57, [0x392]), (0x58, [0x393]), (0x59, [0x394]),
   (0x5A, [0x395]), (0x5B, [0x396]), (0x5C, [0x397]), (0x5D, [0x398]), (0x5E, [0x399]),
   (0x5F, [0x39A]), (0x60, [0x39B]), (0x61, [0x39C]), (0x62, [0x39D]), (0x63, [0x39E]),
   (0x64, [0x39F]), (0x65, [0x3A0]), (0x66, [0x3A1]), (0x67, [0x398]), (0x68, [0x3A3]),
   (0x69, [0x3A4]), (0x6A, [0x3A5]), (0x6B, [0x3A6]), (0x6C, [0x3A7]), (0x6D, [0x3A8]),
   (0x6E, [0x3A9]), (0x6F, [0x2207]), (0x70, [0x3B1]), (0x71, [0x3B2]), (0x72, [0x3B3]),
   (0x73, [0x3B4]), (0x74, [0x3B5]), (0x75, [0x3B6]), (0x76, [0x3B7]), (0x77, [0x3B8]),
   (0x78, [0x3B9]), (0x79, [0x3BA]), (0x7A, [0x3BB]), (0x7B, [0x3BC]), (0x7C, [0x3BD]),
   (0x7D, [0x3BE]), (0x7E, [0x3BF]), (0x7F, [0x3C0]), (0x80, [0x3C1]), (0x81, [0x3C2]),
   (0x82, [0x3C3]), (0x83, [0x3C4]), (0x84, [0x3C5]), (0x85, [0x3C6]), (0x86, [0x3C7]),
   (0x87, [0x3C8]), (0x88, [0x3C9]), (0x89, [0x2202]), (0x8A, [0x3B5]), (0x8B, [0x3B8]),
   (0x8C, [0x3BA]), (0x8D, [0x3C6]), (0x8E, [0x3C1]), (0x8F, [0x3C0]), (0x90, [0x391]),
   (0x91, [0x392]), (0x92, [0x393]), (0x93, [0x394]), (0x94, [0x395]), (0x95, [0x396]),
   (0x96, [0x397]), (0x97, [0x398]), (0x98, [0x399]), (0x99, [0x39A]), (0x9A, [0x39B]),
   (0x9B, [0x39C]), (0x9C, [0x39D]), (0x9D, [0x39E]), (0x9E, [0x39F]), (0x9F, [0x3A0]),
   (0xA0, [0x3A1]), (0xA1, [0x398]), (0xA2, [0x3A3]), (0xA3, [0x3A4]), (0xA4, [0x3A5]),
   (0xA5, [0x3A6]), (0xA6, [0x3A7]), (0xA7, [0x3A8]), (0xA8, [0x3A9]), (0xA9, [0x2207]),
   (0xAA, [0x3B1]), (0xAB, [0x3B2]), (0xAC, [0x3B3]), (0xAD, [0x3B4]), (0xAE, [0x3B5]),
   (0xAF, [0x3B6]), (0xB0, [0x3B7]), (0xB1, [0x3B8]), (0xB2, [0x3B9]), (0xB3, [0x3BA]),
   (0xB4, [0x3BB]), (0xB5, [0x3BC]), (0xB6, [0x3BD]), (0xB7, [0x3BE]), (0xB8, [0x3BF]),
   (0xB9, [0x3C0]), (0xBA, [0x3C1]), (0xBB, [0x3C2]), (0xBC, [0x3C3]), (0xBD, [0x3C4]),
   (0xBE, [0x3C5]), (0xBF, [0x3C6]), (0xC0, [0x3C7]), (0xC1, [0x3C8]), (0xC2, [0x3C9]),
   (0xC3, [0x2202]), (0xC4, [0x3B5]), (0xC5, [0x3B8]), (0xC6, [0x3BA]), (0xC7, [0x3C6]),
   (0xC8, [0x3C1]), (0xC9, [0x3C0]), (0xCA, [0x3DC]), (0xCB, [0x3DD]), (0xCE, [0x30]),
   (0xCF, [0x31]), (0xD0, [0x32]), (0xD1, [0x33]), (0xD2, [0x34]), (0xD3, [0x35]), (0xD4, [0x36]),
   (0xD5, [0x37]), (0xD6, [0x38]), (0xD7, [0x39]), (0xD8, [0x30]), (0xD9, [0x31]), (0xDA, [0x32]),
   (0xDB, [0x33]), (0xDC, [0x34]), (0xDD, [0x35]), (0xDE, [0x36]), (0xDF, [0x37]), (0xE0, [0x38]),
   (0xE1, [0x39]), (0xE2, [0x30]), (0xE3, [0x31]), (0xE4, [0x32]), (0xE5, [0x33]), (0xE6, [0x34]),
   (0xE7, [0x35]), (0xE8, [0x36]), (0xE9, [0x37]), (0xEA, [0x38]), (0xEB, [0x39]), (0xEC, [0x30]),
   (0xED, [0x31]), (0xEE, [0x32]), (0xEF, [0x33]), (0xF0, [0x34]), (0xF1, [0x35]), (0xF2, [0x36]),
   (0xF3, [0x37]), (0xF4, [0x38]), (0xF5, [0x39]), (0xF6, [0x30]), (0xF7, [0x31]), (0xF8, [0x32]),
   (0xF9, [0x33]), (0xFA, [0x34]), (0xFB, [0x35]), (0xFC, [0x36]), (0xFD, [0x37]), (0xFE, [0x38]),
   (0xFF, [0x39])]

def decompositionPage1DF : DecompositionPage :=
  [(0x95, [0xDF]), (0xD3, [0x111]), (0xD5, [0x142])]

def decompositionPage1E0 : DecompositionPage :=
  [(0x30, [0x430]), (0x31, [0x431]), (0x32, [0x432]), (0x33, [0x433]), (0x34, [0x434]),
   (0x35, [0x435]), (0x36, [0x436]), (0x37, [0x437]), (0x38, [0x438]), (0x39, [0x43A]),
   (0x3A, [0x43B]), (0x3B, [0x43C]), (0x3C, [0x43E]), (0x3D, [0x43F]), (0x3E, [0x440]),
   (0x3F, [0x441]), (0x40, [0x442]), (0x41, [0x443]), (0x42, [0x444]), (0x43, [0x445]),
   (0x44, [0x446]), (0x45, [0x447]), (0x46, [0x448]), (0x47, [0x44B]), (0x48, [0x44D]),
   (0x49, [0x44E]), (0x4A, [0xA689]), (0x4B, [0x4D9]), (0x4C, [0x456]), (0x4D, [0x458]),
   (0x4E, [0x4E9]), (0x4F, [0x4AF]), (0x50, [0x4CF]), (0x51, [0x430]), (0x52, [0x431]),
   (0x53, [0x432]), (0x54, [0x433]), (0x55, [0x434]), (0x56, [0x435]), (0x57, [0x436]),
   (0x58, [0x437]), (0x59, [0x438]), (0x5A, [0x43A]), (0x5B, [0x43B]), (0x5C, [0x43E]),
   (0x5D, [0x43F]), (0x5E, [0x441]), (0x5F, [0x443]), (0x60, [0x444]), (0x61, [0x445]),
   (0x62, [0x446]), (0x63, [0x447]), (0x64, [0x448]), (0x65, [0x44A]), (0x66, [0x44B]),
   (0x67, [0x491]), (0x68, [0x456]), (0x69, [0x455]), (0x6A, [0x45F]), (0x6B, [0x4AB]),
   (0x6C, [0xA651]), (0x6D, [0x4B1])]

def decompositionPage1EE : DecompositionPage :=
  [(0x00, [0x627]), (0x01, [0x628]), (0x02, [0x62C]), (0x03, [0x62F]), (0x05, [0x648]),
   (0x06, [0x632]), (0x07, [0x62D]), (0x08, [0x637]), (0x09, [0x64A]), (0x0A, [0x643]),
   (0x0B, [0x644]), (0x0C, [0x645]), (0x0D, [0x646]), (0x0E, [0x633]), (0x0F, [0x639]),
   (0x10, [0x641]), (0x11, [0x635]), (0x12, [0x642]), (0x13, [0x631]), (0x14, [0x634]),
   (0x15, [0x62A]), (0x16, [0x62B]), (0x17, [0x62E]), (0x18, [0x630]), (0x19, [0x636]),
   (0x1A, [0x638]), (0x1B, [0x63A]), (0x1C, [0x66E]), (0x1D, [0x6BA]), (0x1E, [0x6A1]),
   (0x1F, [0x66F]), (0x21, [0x628]), (0x22, [0x62C]), (0x24, [0x647]), (0x27, [0x62D]),
   (0x29, [0x64A]), (0x2A, [0x643]), (0x2B, [0x644]), (0x2C, [0x645]), (0x2D, [0x646]),
   (0x2E, [0x633]), (0x2F, [0x639]), (0x30, [0x641]), (0x31, [0x635]), (0x32, [0x642]),
   (0x34, [0x634]), (0x35, [0x62A]), (0x36, [0x62B]), (0x37, [0x62E]), (0x39, [0x636]),
   (0x3B, [0x63A]), (0x42, [0x62C]), (0x47, [0x62D]), (0x49, [0x64A]), (0x4B, [0x644]),
   (0x4D, [0x646]), (0x4E, [0x633]), (0x4F, [0x639]), (0x51, [0x635]), (0x52, [0x642]),
   (0x54, [0x634]), (0x57, [0x62E]), (0x59, [0x636]), (0x5B, [0x63A]), (0x5D, [0x6BA]),
   (0x5F, [0x66F]), (0x61, [0x628]), (0x62, [0x62C]), (0x64, [0x647]), (0x67, [0x62D]),
   (0x68, [0x637]), (0x69, [0x64A]), (0x6A, [0x643]), (0x6C, [0x645]), (0x6D, [0x646]),
   (0x6E, [0x633]), (0x6F, [0x639]), (0x70, [0x641]), (0x71, [0x635]), (0x72, [0x642]),
   (0x74, [0x634]), (0x75, [0x62A]), (0x76, [0x62B]), (0x77, [0x62E]), (0x79, [0x636]),
   (0x7A, [0x638]), (0x7B, [0x63A]), (0x7C, [0x66E]), (0x7E, [0x6A1]), (0x80, [0x627]),
   (0x81, [0x628]), (0x82, [0x62C]), (0x83, [0x62F]), (0x84, [0x647]), (0x85, [0x648]),
   (0x86, [0x632]), (0x87, [0x62D]), (0x88, [0x637]), (0x89, [0x64A]), (0x8B, [0x644]),
   (0x8C, [0x645]), (0x8D, [0x646]), (0x8E, [0x633]), (0x8F, [0x639]), (0x90, [0x641]),
   (0x91, [0x635]), (0x92, [0x642]), (0x93, [0x631]), (0x94, [0x634]), (0x95, [0x62A]),
   (0x96, [0x62B]), (0x97, [0x62E]), (0x98, [0x630]), (0x99, [0x636]), (0x9A, [0x638]),
   (0x9B, [0x63A]), (0xA1, [0x628]), (0xA2, [0x62C]), (0xA3, [0x62F]), (0xA5, [0x648]),
   (0xA6, [0x632]), (0xA7, [0x62D]), (0xA8, [0x637]), (0xA9, [0x64A]), (0xAB, [0x644]),
   (0xAC, [0x645]), (0xAD, [0x646]), (0xAE, [0x633]), (0xAF, [0x639]), (0xB0, [0x641]),
   (0xB1, [0x635]), (0xB2, [0x642]), (0xB3, [0x631]), (0xB4, [0x634]), (0xB5, [0x62A]),
   (0xB6, [0x62B]), (0xB7, [0x62E]), (0xB8, [0x630]), (0xB9, [0x636]), (0xBA, [0x638]),
   (0xBB, [0x63A])]

def decompositionPage1F1 : DecompositionPage :=
  [(0x00, [0x30, 0x2E]), (0x01, [0x30, 0x2C]), (0x02, [0x31, 0x2C]), (0x03, [0x32, 0x2C]),
   (0x04, [0x33, 0x2C]), (0x05, [0x34, 0x2C]), (0x06, [0x35, 0x2C]), (0x07, [0x36, 0x2C]),
   (0x08, [0x37, 0x2C]), (0x09, [0x38, 0x2C]), (0x0A, [0x39, 0x2C]), (0x10, [0x28, 0x41, 0x29]),
   (0x11, [0x28, 0x42, 0x29]), (0x12, [0x28, 0x43, 0x29]), (0x13, [0x28, 0x44, 0x29]),
   (0x14, [0x28, 0x45, 0x29]), (0x15, [0x28, 0x46, 0x29]), (0x16, [0x28, 0x47, 0x29]),
   (0x17, [0x28, 0x48, 0x29]), (0x18, [0x28, 0x49, 0x29]), (0x19, [0x28, 0x4A, 0x29]),
   (0x1A, [0x28, 0x4B, 0x29]), (0x1B, [0x28, 0x4C, 0x29]), (0x1C, [0x28, 0x4D, 0x29]),
   (0x1D, [0x28, 0x4E, 0x29]), (0x1E, [0x28, 0x4F, 0x29]), (0x1F, [0x28, 0x50, 0x29]),
   (0x20, [0x28, 0x51, 0x29]), (0x21, [0x28, 0x52, 0x29]), (0x22, [0x28, 0x53, 0x29]),
   (0x23, [0x28, 0x54, 0x29]), (0x24, [0x28, 0x55, 0x29]), (0x25, [0x28, 0x56, 0x29]),
   (0x26, [0x28, 0x57, 0x29]), (0x27, [0x28, 0x58, 0x29]), (0x28, [0x28, 0x59, 0x29]),
   (0x29, [0x28, 0x5A, 0x29]), (0x2A, [0x3014, 0x53, 0x3015]), (0x2B, [0x43]), (0x2C, [0x52]),
   (0x2D, [0x43, 0x44]), (0x2E, [0x57, 0x5A]), (0x30, [0x41]), (0x31, [0x42]), (0x32, [0x43]),
   (0x33, [0x44]), (0x34, [0x45]), (0x35, [0x46]), (0x36, [0x47]), (0x37, [0x48]), (0x38, [0x49]),
   (0x39, [0x4A]), (0x3A, [0x4B]), (0x3B, [0x4C]), (0x3C, [0x4D]), (0x3D, [0x4E]), (0x3E, [0x4F]),
   (0x3F, [0x50]), (0x40, [0x51]), (0x41, [0x52]), (0x42, [0x53]), (0x43, [0x54]), (0x44, [0x55]),
   (0x45, [0x56]), (0x46, [0x57]), (0x47, [0x58]), (0x48, [0x59]), (0x49, [0x5A]),
   (0x4A, [0x48, 0x56]), (0x4B, [0x4D, 0x56]), (0x4C, [0x53, 0x44]), (0x4D, [0x53, 0x53]),
   (0x4E, [0x50, 0x50, 0x56]), (0x4F, [0x57, 0x43]), (0x6A, [0x4D, 0x43]), (0x6B, [0x4D, 0x44]),
   (0x6C, [0x4D, 0x52]), (0x90, [0x44, 0x4A])]

def decompositionPage1F2 : DecompositionPage :=
  [(0x00, [0x307B, 0x304B]), (0x01, [0x30B3, 0x30B3]), (0x02, [0x30B5]), (0x10, [0x624B]),
   (0x11, [0x5B57]), (0x12, [0x53CC]), (0x13, [0x30C6, 0x3099]), (0x14, [0x4E8C]),
   (0x15, [0x591A]), (0x16, [0x89E3]), (0x17, [0x5929]), (0x18, [0x4EA4]), (0x19, [0x6620]),
   (0x1A, [0x7121]), (0x1B, [0x6599]), (0x1C, [0x524D]), (0x1D, [0x5F8C]), (0x1E, [0x518D]),
   (0x1F, [0x65B0]), (0x20, [0x521D]), (0x21, [0x7D42]), (0x22, [0x751F]), (0x23, [0x8CA9]),
   (0x24, [0x58F0]), (0x25, [0x5439]), (0x26, [0x6F14]), (0x27, [0x6295]), (0x28, [0x6355]),
   (0x29, [0x4E00]), (0x2A, [0x4E09]), (0x2B, [0x904A]), (0x2C, [0x5DE6]), (0x2D, [0x4E2D]),
   (0x2E, [0x53F3]), (0x2F, [0x6307]), (0x30, [0x8D70]), (0x31, [0x6253]), (0x32, [0x7981]),
   (0x33, [0x7A7A]), (0x34, [0x5408]), (0x35, [0x6E80]), (0x36, [0x6709]), (0x37, [0x6708]),
   (0x38, [0x7533]), (0x39, [0x5272]), (0x3A, [0x55B6]), (0x3B, [0x914D]),
   (0x40, [0x3014, 0x672C, 0x3015]), (0x41, [0x3014, 0x4E09, 0x3015]),
   (0x42, [0x3014, 0x4E8C, 0x3015]), (0x43, [0x3014, 0x5B89, 0x3015]),
   (0x44, [0x3014, 0x70B9, 0x3015]), (0x45, [0x3014, 0x6253, 0x3015]),
   (0x46, [0x3014, 0x76D7, 0x3015]), (0x47, [0x3014, 0x52DD, 0x3015]),
   (0x48, [0x3014, 0x6557, 0x3015]), (0x50, [0x5F97]), (0x51, [0x53EF])]

def decompositionPage1FB : DecompositionPage :=
  [(0xF0, [0x30]), (0xF1, [0x31]), (0xF2, [0x32]), (0xF3, [0x33]), (0xF4, [0x34]), (0xF5, [0x35]),
   (0xF6, [0x36]), (0xF7, [0x37]), (0xF8, [0x38]), (0xF9, [0x39])]

def decompositionPage2F8 : DecompositionPage :=
  [(0x00, [0x4E3D]), (0x01, [0x4E38]), (0x02, [0x4E41]), (0x03, [0x20122]), (0x04, [0x4F60]),
   (0x05, [0x4FAE]), (0x06, [0x4FBB]), (0x07, [0x5002]), (0x08, [0x507A]), (0x09, [0x5099]),
   (0x0A, [0x50E7]), (0x0B, [0x50CF]), (0x0C, [0x349E]), (0x0D, [0x2063A]), (0x0E, [0x514D]),
   (0x0F, [0x5154]), (0x10, [0x5164]), (0x11, [0x5177]), (0x12, [0x2051C]), (0x13, [0x34B9]),
   (0x14, [0x5167]), (0x15, [0x518D]), (0x16, [0x2054B]), (0x17, [0x5197]), (0x18, [0x51A4]),
   (0x19, [0x4ECC]), (0x1A, [0x51AC]), (0x1B, [0x51B5]), (0x1C, [0x291DF]), (0x1D, [0x51F5]),
   (0x1E, [0x5203]), (0x1F, [0x34DF]), (0x20, [0x523B]), (0x21, [0x5246]), (0x22, [0x5272]),
   (0x23, [0x5277]), (0x24, [0x3515]), (0x25, [0x52C7]), (0x26, [0x52C9]), (0x27, [0x52E4]),
   (0x28, [0x52FA]), (0x29, [0x5305]), (0x2A, [0x5306]), (0x2B, [0x5317]), (0x2C, [0x5349]),
   (0x2D, [0x5351]), (0x2E, [0x535A]), (0x2F, [0x5373]), (0x30, [0x537D]), (0x31, [0x537F]),
   (0x32, [0x537F]), (0x33, [0x537F]), (0x34, [0x20A2C]), (0x35, [0x7070]), (0x36, [0x53CA]),
   (0x37, [0x53DF]), (0x38, [0x20B63]), (0x39, [0x53EB]), (0x3A, [0x53F1]), (0x3B, [0x5406]),
   (0x3C, [0x549E]), (0x3D, [0x5438]), (0x3E, [0x5448]), (0x3F, [0x5468]), (0x40, [0x54A2]),
   (0x41, [0x54F6]), (0x42, [0x5510]), (0x43, [0x5553]), (0x44, [0x5563]), (0x45, [0x5584]),
   (0x46, [0x5584]), (0x47, [0x5599]), (0x48, [0x55AB]), (0x49, [0x55B3]), (0x4A, [0x55C2]),
   (0x4B, [0x5716]), (0x4C, [0x5606]), (0x4D, [0x5717]), (0x4E, [0x5651]), (0x4F, [0x5674]),
   (0x50, [0x5207]), (0x51, [0x58EE]), (0x52, [0x57CE]), (0x53, [0x57F4]), (0x54, [0x580D]),
   (0x55, [0x578B]), (0x56, [0x5832]), (0x57, [0x5831]), (0x58, [0x58AC]), (0x59, [0x214E4]),
   (0x5A, [0x58F2]), (0x5B, [0x58F7]), (0x5C, [0x5906]), (0x5D, [0x591A]), (0x5E, [0x5922]),
   (0x5F, [0x5962]), (0x60, [0x216A8]), (0x61, [0x216EA]), (0x62, [0x59EC]), (0x63, [0x5A1B]),
   (0x64, [0x5A27]), (0x65, [0x59D8]), (0x66, [0x5A66]), (0x67, [0x36EE]), (0x68, [0x36FC]),
   (0x69, [0x5B08]), (0x6A, [0x5B3E]), (0x6B, [0x5B3E]), (0x6C, [0x219C8]), (0x6D, [0x5BC3]),
   (0x6E, [0x5BD8]), (0x6F, [0x5BE7]), (0x70, [0x5BF3]), (0x71, [0x21B18]), (0x72, [0x5BFF]),
   (0x73, [0x5C06]), (0x74, [0x5F53]), (0x75, [0x5C22]), (0x76, [0x3781]), (0x77, [0x5C60]),
   (0x78, [0x5C6E]), (0x79, [0x5CC0]), (0x7A, [0x5C8D]), (0x7B, [0x21DE4]), (0x7C, [0x5D43]),
   (0x7D, [0x21DE6]), (0x7E, [0x5D6E]), (0x7F, [0x5D6B]), (0x80, [0x5D7C]), (0x81, [0x5DE1]),
   (0x82, [0x5DE2]), (0x83, [0x382F]), (0x84, [0x5DFD]), (0x85, [0x5E28]), (0x86, [0x5E3D]),
   (0x87, [0x5E69]), (0x88, [0x3862]), (0x89, [0x22183]), (0x8A, [0x387C]), (0x8B, [0x5EB0]),
   (0x8C, [0x5EB3]), (0x8D, [0x5EB6]), (0x8E, [0x5ECA]), (0x8F, [0x2A392]), (0x90, [0x5EFE]),
   (0x91, [0x22331]), (0x92, [0x22331]), (0x93, [0x8201]), (0x94, [0x5F22]), (0x95, [0x5F22]),
   (0x96, [0x38C7]), (0x97, [0x232B8]), (0x98, [0x261DA]), (0x99, [0x5F62]), (0x9A, [0x5F6B]),
   (0x9B, [0x38E3]), (0x9C, [0x5F9A]), (0x9D, [0x5FCD]), (0x9E, [0x5FD7]), (0x9F, [0x5FF9]),
   (0xA0, [0x6081]), (0xA1, [0x393A]), (0xA2, [0x391C]), (0xA3, [0x6094]), (0xA4, [0x226D4]),
   (0xA5, [0x60C7]), (0xA6, [0x6148]), (0xA7, [0x614C]), (0xA8, [0x614E]), (0xA9, [0x614C]),
   (0xAA, [0x617A]), (0xAB, [0x618E]), (0xAC, [0x61B2]), (0xAD, [0x61A4]), (0xAE, [0x61AF]),
   (0xAF, [0x61DE]), (0xB0, [0x61F2]), (0xB1, [0x61F6]), (0xB2, [0x6210]), (0xB3, [0x621B]),
   (0xB4, [0x625D]), (0xB5, [0x62B1]), (0xB6, [0x62D4]), (0xB7, [0x6350]), (0xB8, [0x22B0C]),
   (0xB9, [0x633D]), (0xBA, [0x62FC]), (0xBB, [0x6368]), (0xBC, [0x6383]), (0xBD, [0x63E4]),
   (0xBE, [0x22BF1]), (0xBF, [0x6422]), (0xC0, [0x63C5]), (0xC1, [0x63A9]), (0xC2, [0x3A2E]),
   (0xC3, [0x6469]), (0xC4, [0x647E]), (0xC5, [0x649D]), (0xC6, [0x6477]), (0xC7, [0x3A6C]),
   (0xC8, [0x654F]), (0xC9, [0x656C]), (0xCA, [0x2300A]), (0xCB, [0x65E3]), (0xCC, [0x66F8]),
   (0xCD, [0x6649]), (0xCE, [0x3B19]), (0xCF, [0x6691]), (0xD0, [0x3B08]), (0xD1, [0x3AE4]),
   (0xD2, [0x5192]), (0xD3, [0x5195]), (0xD4, [0x6700]), (0xD5, [0x669C]), (0xD6, [0x80AD]),
   (0xD7, [0x43D9]), (0xD8, [0x6717]), (0xD9, [0x671B]), (0xDA, [0x6721]), (0xDB, [0x675E]),
   (0xDC, [0x6753]), (0xDD, [0x233C3]), (0xDE, [0x3B49]), (0xDF, [0x67FA]), (0xE0, [0x6785]),
   (0xE1, [0x6852]), (0xE2, [0x6885]), (0xE3, [0x2346D]), (0xE4, [0x688E]), (0xE5, [0x681F]),
   (0xE6, [0x6914]), (0xE7, [0x3B9D]), (0xE8, [0x6942]), (0xE9, [0x69A3]), (0xEA, [0x69EA]),
   (0xEB, [0x6AA8]), (0xEC, [0x236A3]), (0xED, [0x6ADB]), (0xEE, [0x3C18]), (0xEF, [0x6B21]),
   (0xF0, [0x238A7]), (0xF1, [0x6B54]), (0xF2, [0x3C4E]), (0xF3, [0x6B72]), (0xF4, [0x6B9F]),
   (0xF5, [0x6BBA]), (0xF6, [0x6BBB]), (0xF7, [0x23A8D]), (0xF8, [0x21D0B]), (0xF9, [0x23AFA]),
   (0xFA, [0x6C4E]), (0xFB, [0x23CBC]), (0xFC, [0x6CBF]), (0xFD, [0x6CCD]), (0xFE, [0x6C67]),
   (0xFF, [0x6D16])]

def decompositionPage2F9 : DecompositionPage :=
  [(0x00, [0x6D3E]), (0x01, [0x6D77]), (0x02, [0x6D41]), (0x03, [0x6D69]), (0x04, [0x6D78]),
   (0x05, [0x6D85]), (0x06, [0x23D1E]), (0x07, [0x6D34]), (0x08, [0x6E2F]), (0x09, [0x6E6E]),
   (0x0A, [0x3D33]), (0x0B, [0x6ECB]), (0x0C, [0x6EC7]), (0x0D, [0x23ED1]), (0x0E, [0x6DF9]),
   (0x0F, [0x6F6E]), (0x10, [0x23F5E]), (0x11, [0x23F8E]), (0x12, [0x6FC6]), (0x13, [0x7039]),
   (0x14, [0x701E]), (0x15, [0x701B]), (0x16, [0x3D96]), (0x17, [0x704A]), (0x18, [0x707D]),
   (0x19, [0x7077]), (0x1A, [0x70AD]), (0x1B, [0x20525]), (0x1C, [0x7145]), (0x1D, [0x24263]),
   (0x1E, [0x719C]), (0x1F, [0x243AB]), (0x20, [0x7228]), (0x21, [0x7235]), (0x22, [0x7250]),
   (0x23, [0x24608]), (0x24, [0x7280]), (0x25, [0x7295]), (0x26, [0x24735]), (0x27, [0x24814]),
   (0x28, [0x737A]), (0x29, [0x738B]), (0x2A, [0x3EAC]), (0x2B, [0x73A5]), (0x2C, [0x3EB8]),
   (0x2D, [0x3EB8]), (0x2E, [0x7447]), (0x2F, [0x745C]), (0x30, [0x7471]), (0x31, [0x7485]),
   (0x32, [0x74CA]), (0x33, [0x3F1B]), (0x34, [0x7524]), (0x35, [0x24C36]), (0x36, [0x753E]),
   (0x37, [0x24C92]), (0x38, [0x7570]), (0x39, [0x2219F]), (0x3A, [0x7610]), (0x3B, [0x24FA1]),
   (0x3C, [0x24FB8]), (0x3D, [0x25044]), (0x3E, [0x3FFC]), (0x3F, [0x4008]), (0x40, [0x76F4]),
   (0x41, [0x250F3]), (0x42, [0x250F2]), (0x43, [0x25119]), (0x44, [0x25133]), (0x45, [0x771E]),
   (0x46, [0x771F]), (0x47, [0x771F]), (0x48, [0x774A]), (0x49, [0x4039]), (0x4A, [0x778B]),
   (0x4B, [0x4046]), (0x4C, [0x4096]), (0x4D, [0x2541D]), (0x4E, [0x784E]), (0x4F, [0x788C]),
   (0x50, [0x78CC]), (0x51, [0x40E3]), (0x52, [0x25626]), (0x53, [0x7956]), (0x54, [0x2569A]),
   (0x55, [0x256C5]), (0x56, [0x798F]), (0x57, [0x79EB]), (0x58, [0x412F]), (0x59, [0x7A40]),
   (0x5A, [0x7A4A]), (0x5B, [0x7A4F]), (0x5C, [0x2597C]), (0x5D, [0x25AA7]), (0x5E, [0x25AA7]),
   (0x5F, [0x7AEE]), (0x60, [0x4202]), (0x61, [0x25BAB]), (0x62, [0x7BC6]), (0x63, [0x7BC9]),
   (0x64, [0x4227]), (0x65, [0x25C80]), (0x66, [0x7CD2]), (0x67, [0x42A0]), (0x68, [0x7CE8]),
   (0x69, [0x7CE3]), (0x6A, [0x7D00]), (0x6B, [0x25F86]), (0x6C, [0x7D63]), (0x6D, [0x4301]),
   (0x6E, [0x7DC7]), (0x6F, [0x7E02]), (0x70, [0x7E45]), (0x71, [0x4334]), (0x72, [0x26228]),
   (0x73, [0x26247]), (0x74, [0x4359]), (0x75, [0x262D9]), (0x76, [0x7F7A]), (0x77, [0x2633E]),
   (0x78, [0x7F95]), (0x79, [0x7FFA]), (0x7A, [0x8005]), (0x7B, [0x264DA]), (0x7C, [0x26523]),
   (0x7D, [0x8060]), (0x7E, [0x265A8]), (0x7F, [0x8070]), (0x80, [0x2335F]), (0x81, [0x43D5]),
   (0x82, [0x80B2]), (0x83, [0x8103]), (0x84, [0x440B]), (0x85, [0x813E]), (0x86, [0x5AB5]),
   (0x87, [0x267A7]), (0x88, [0x267B5]), (0x89, [0x23393]), (0x8A, [0x2339C]), (0x8B, [0x8201]),
   (0x8C, [0x8204]), (0x8D, [0x8F9E]), (0x8E, [0x446B]), (0x8F, [0x8291]), (0x90, [0x828B]),
   (0x91, [0x829D]), (0x92, [0x52B3]), (0x93, [0x82B1]), (0x94, [0x82B3]), (0x95, [0x82BD]),
   (0x96, [0x82E6]), (0x97, [0x26B3C]), (0x98, [0x82E5]), (0x99, [0x831D]), (0x9A, [0x8363]),
   (0x9B, [0x83AD]), (0x9C, [0x8323]), (0x9D, [0x83BD]), (0x9E, [0x83E7]), (0x9F, [0x8457]),
   (0xA0, [0x8353]), (0xA1, [0x83CA]), (0xA2, [0x83CC]), (0xA3, [0x83DC]), (0xA4, [0x26C36]),
   (0xA5, [0x26D6B]), (0xA6, [0x26CD5]), (0xA7, [0x452B]), (0xA8, [0x84F1]), (0xA9, [0x84F3]),
   (0xAA, [0x8516]), (0xAB, [0x273CA]), (0xAC, [0x8564]), (0xAD, [0x26F2C]), (0xAE, [0x455D]),
   (0xAF, [0x4561]), (0xB0, [0x26FB1]), (0xB1, [0x270D2]), (0xB2, [0x456B]), (0xB3, [0x8650]),
   (0xB4, [0x865C]), (0xB5, [0x8667]), (0xB6, [0x8669]), (0xB7, [0x86A9]), (0xB8, [0x8688]),
   (0xB9, [0x870E]), (0xBA, [0x86E2]), (0xBB, [0x8779]), (0xBC, [0x8728]), (0xBD, [0x876B]),
   (0xBE, [0x8786]), (0xBF, [0x45D7]), (0xC0, [0x87E1]), (0xC1, [0x8801]), (0xC2, [0x45F9]),
   (0xC3, [0x8860]), (0xC4, [0x8863]), (0xC5, [0x27667]), (0xC6, [0x88D7]), (0xC7, [0x88DE]),
   (0xC8, [0x4635]), (0xC9, [0x88FA]), (0xCA, [0x34BB]), (0xCB, [0x278AE]), (0xCC, [0x27966]),
   (0xCD, [0x46BE]), (0xCE, [0x46C7]), (0xCF, [0x8AA0]), (0xD0, [0x8AED]), (0xD1, [0x8B8A]),
   (0xD2, [0x8C55]), (0xD3, [0x27CA8]), (0xD4, [0x8CAB]), (0xD5, [0x8CC1]), (0xD6, [0x8D1B]),
   (0xD7, [0x8D77]), (0xD8, [0x27F2F]), (0xD9, [0x20804]), (0xDA, [0x8DCB]), (0xDB, [0x8DBC]),
   (0xDC, [0x8DF0]), (0xDD, [0x208DE]), (0xDE, [0x8ED4]), (0xDF, [0x8F38]), (0xE0, [0x285D2]),
   (0xE1, [0x285ED]), (0xE2, [0x9094]), (0xE3, [0x90F1]), (0xE4, [0x9111]), (0xE5, [0x2872E]),
   (0xE6, [0x911B]), (0xE7, [0x9238]), (0xE8, [0x92D7]), (0xE9, [0x92D8]), (0xEA, [0x927C]),
   (0xEB, [0x93F9]), (0xEC, [0x9415]), (0xED, [0x28BFA]), (0xEE, [0x958B]), (0xEF, [0x4995]),
   (0xF0, [0x95B7]), (0xF1, [0x28D77]), (0xF2, [0x49E6]), (0xF3, [0x96C3]), (0xF4, [0x5DB2]),
   (0xF5, [0x9723]), (0xF6, [0x29145]), (0xF7, [0x2921A]), (0xF8, [0x4A6E]), (0xF9, [0x4A76]),
   (0xFA, [0x97E0]), (0xFB, [0x2940A]), (0xFC, [0x4AB2]), (0xFD, [0x29496]), (0xFE, [0x980B]),
   (0xFF, [0x980B])]

def decompositionPage2FA : DecompositionPage :=
  [(0x00, [0x9829]), (0x01, [0x295B6]), (0x02, [0x98E2]), (0x03, [0x4B33]), (0x04, [0x9929]),
   (0x05, [0x99A7]), (0x06, [0x99C2]), (0x07, [0x99FE]), (0x08, [0x4BCE]), (0x09, [0x29B30]),
   (0x0A, [0x9B12]), (0x0B, [0x9C40]), (0x0C, [0x9CFD]), (0x0D, [0x4CCE]), (0x0E, [0x4CED]),
   (0x0F, [0x9D67]), (0x10, [0x2A0CE]), (0x11, [0x4CF8]), (0x12, [0x2A105]), (0x13, [0x2A20E]),
   (0x14, [0x2A291]), (0x15, [0x9EBB]), (0x16, [0x4D56]), (0x17, [0x9EF9]), (0x18, [0x9EFE]),
   (0x19, [0x9F05]), (0x1A, [0x9F0F]), (0x1B, [0x9F16]), (0x1C, [0x9F3B]), (0x1D, [0x2A600])]

def decompositionPages : List (Nat × DecompositionPage) :=
  [(0x0, decompositionPage0), (0x1, decompositionPage1), (0x2, decompositionPage2),
   (0x3, decompositionPage3), (0x4, decompositionPage4), (0x5, decompositionPage5),
   (0x6, decompositionPage6), (0x9, decompositionPage9), (0xA, decompositionPageA),
   (0xB, decompositionPageB), (0xC, decompositionPageC), (0xD, decompositionPageD),
   (0xE, decompositionPageE), (0xF, decompositionPageF), (0x10, decompositionPage10),
   (0x1B, decompositionPage1B), (0x1D, decompositionPage1D), (0x1E, decompositionPage1E),
   (0x1F, decompositionPage1F), (0x20, decompositionPage20), (0x21, decompositionPage21),
   (0x22, decompositionPage22), (0x23, decompositionPage23), (0x24, decompositionPage24),
   (0x2A, decompositionPage2A), (0x2C, decompositionPage2C), (0x2D, decompositionPage2D),
   (0x2E, decompositionPage2E), (0x2F, decompositionPage2F), (0x30, decompositionPage30),
   (0x31, decompositionPage31), (0x32, decompositionPage32), (0x33, decompositionPage33),
   (0xA6, decompositionPageA6), (0xA7, decompositionPageA7), (0xAB, decompositionPageAB),
   (0xF9, decompositionPageF9), (0xFA, decompositionPageFA), (0xFB, decompositionPageFB),
   (0xFC, decompositionPageFC), (0xFD, decompositionPageFD), (0xFE, decompositionPageFE),
   (0xFF, decompositionPageFF), (0x105, decompositionPage105), (0x107, decompositionPage107),
   (0x110, decompositionPage110), (0x111, decompositionPage111), (0x113, decompositionPage113),
   (0x114, decompositionPage114), (0x115, decompositionPage115), (0x119, decompositionPage119),
   (0x161, decompositionPage161), (0x16D, decompositionPage16D), (0x1CC, decompositionPage1CC),
   (0x1D1, decompositionPage1D1), (0x1D4, decompositionPage1D4), (0x1D5, decompositionPage1D5),
   (0x1D6, decompositionPage1D6), (0x1D7, decompositionPage1D7), (0x1DF, decompositionPage1DF),
   (0x1E0, decompositionPage1E0),
   (0x1EE, decompositionPage1EE), (0x1F1, decompositionPage1F1), (0x1F2, decompositionPage1F2),
   (0x1FB, decompositionPage1FB), (0x2F8, decompositionPage2F8), (0x2F9, decompositionPage2F9),
   (0x2FA, decompositionPage2FA)]

-- The 11172 Hangul syllables are the combinations of 19 leading, 21 middle and 27 optional final
-- letters.
def hangulLetters? (code : Nat) : Option (List Nat) :=
  if 0xAC00 ≤ code && code < 0xAC00 + 19 * 21 * 28 then
    let index := code - 0xAC00
    let final := index % 28
    some ([0x1100 + index / (21 * 28), 0x1161 + index % (21 * 28) / 28] ++
      if final = 0 then [] else [0x11A7 + final])
  else none

def listedDecomposition? (code : Nat) : Option (List Nat) :=
  (decompositionPages.lookup (code / 256)).bind (·.lookup (code % 256))

-- No character of ASCII decomposes, so none is looked up.
def decomposeChar (c : Char) : Text :=
  if c.toNat < 0x80 then [c]
  else match (hangulLetters? c.toNat).or (listedDecomposition? c.toNat) with
    | some codes => codes.map Char.ofNat
    | none => [c]

end RouteTable.Unicode
