import ServiceDiagram.Text.Runs
import ServiceDiagram.Text.Upper

/-!
# Characters that a domain name takes for others

A domain name is the same with or without characters that show nothing, in either case of ASCII
letters, and with other shapes of the ASCII characters and of the dot.
-/

namespace ServiceDiagram.Url

/-- the runs of characters that count for nothing -/
def ignoredRuns : List (Nat × Nat) :=
  [
    (0xad, 0xad), (0x34f, 0x34f), (0x115f, 0x1160), (0x17b4, 0x17b5), (0x180b, 0x180f),
    (0x200b, 0x200b), (0x2060, 0x2064), (0x206a, 0x206f), (0x3164, 0x3164), (0xfe00, 0xfe0f),
    (0xfeff, 0xfeff), (0xffa0, 0xffa0), (0x1bca0, 0x1bca3), (0x1d173, 0x1d17a), (0xe0100, 0xe01ef)
  ]

def isIgnored (c : Char) : Bool := Text.inRuns ignoredRuns c

/-- other shapes of ASCII characters -/
def shapeRuns : List Text.CaseRun :=
  [
    ⟨0xaa, 0xaa, 1, 0x61⟩, ⟨0xb2, 0xb3, 1, 0x32⟩, ⟨0xb9, 0xb9, 1, 0x31⟩, ⟨0xba, 0xba, 1, 0x6f⟩,
    ⟨0x17f, 0x17f, 1, 0x73⟩, ⟨0x2b0, 0x2b0, 1, 0x68⟩, ⟨0x2b2, 0x2b2, 1, 0x6a⟩,
    ⟨0x2b3, 0x2b3, 1, 0x72⟩, ⟨0x2b7, 0x2b7, 1, 0x77⟩, ⟨0x2b8, 0x2b8, 1, 0x79⟩,
    ⟨0x2e1, 0x2e1, 1, 0x6c⟩, ⟨0x2e2, 0x2e2, 1, 0x73⟩, ⟨0x2e3, 0x2e3, 1, 0x78⟩,
    ⟨0x37e, 0x37e, 1, 0x3b⟩, ⟨0x1d2c, 0x1d2c, 1, 0x61⟩, ⟨0x1d2e, 0x1d2e, 1, 0x62⟩,
    ⟨0x1d30, 0x1d31, 1, 0x64⟩, ⟨0x1d33, 0x1d3a, 1, 0x67⟩, ⟨0x1d3c, 0x1d3c, 1, 0x6f⟩,
    ⟨0x1d3e, 0x1d3e, 1, 0x70⟩, ⟨0x1d3f, 0x1d3f, 1, 0x72⟩, ⟨0x1d40, 0x1d41, 1, 0x74⟩,
    ⟨0x1d42, 0x1d42, 1, 0x77⟩, ⟨0x1d43, 0x1d43, 1, 0x61⟩, ⟨0x1d47, 0x1d47, 1, 0x62⟩,
    ⟨0x1d48, 0x1d49, 1, 0x64⟩, ⟨0x1d4d, 0x1d4d, 1, 0x67⟩, ⟨0x1d4f, 0x1d4f, 1, 0x6b⟩,
    ⟨0x1d50, 0x1d50, 1, 0x6d⟩, ⟨0x1d52, 0x1d52, 1, 0x6f⟩, ⟨0x1d56, 0x1d56, 1, 0x70⟩,
    ⟨0x1d57, 0x1d58, 1, 0x74⟩, ⟨0x1d5b, 0x1d5b, 1, 0x76⟩, ⟨0x1d62, 0x1d62, 1, 0x69⟩,
    ⟨0x1d63, 0x1d63, 1, 0x72⟩, ⟨0x1d64, 0x1d65, 1, 0x75⟩, ⟨0x1d9c, 0x1d9c, 1, 0x63⟩,
    ⟨0x1da0, 0x1da0, 1, 0x66⟩, ⟨0x1dbb, 0x1dbb, 1, 0x7a⟩, ⟨0x1fef, 0x1fef, 1, 0x60⟩,
    ⟨0x2070, 0x2070, 1, 0x30⟩, ⟨0x2071, 0x2071, 1, 0x69⟩, ⟨0x2074, 0x2079, 1, 0x34⟩,
    ⟨0x207a, 0x207a, 1, 0x2b⟩, ⟨0x207c, 0x207c, 1, 0x3d⟩, ⟨0x207d, 0x207e, 1, 0x28⟩,
    ⟨0x207f, 0x207f, 1, 0x6e⟩, ⟨0x2080, 0x2089, 1, 0x30⟩, ⟨0x208a, 0x208a, 1, 0x2b⟩,
    ⟨0x208c, 0x208c, 1, 0x3d⟩, ⟨0x208d, 0x208e, 1, 0x28⟩, ⟨0x2090, 0x2090, 1, 0x61⟩,
    ⟨0x2091, 0x2091, 1, 0x65⟩, ⟨0x2092, 0x2092, 1, 0x6f⟩, ⟨0x2093, 0x2093, 1, 0x78⟩,
    ⟨0x2095, 0x2095, 1, 0x68⟩, ⟨0x2096, 0x2099, 1, 0x6b⟩, ⟨0x209a, 0x209a, 1, 0x70⟩,
    ⟨0x209b, 0x209c, 1, 0x73⟩, ⟨0x2102, 0x2102, 1, 0x63⟩, ⟨0x210a, 0x210b, 1, 0x67⟩,
    ⟨0x210c, 0x210c, 1, 0x68⟩, ⟨0x210d, 0x210d, 1, 0x68⟩, ⟨0x210e, 0x210e, 1, 0x68⟩,
    ⟨0x2110, 0x2110, 1, 0x69⟩, ⟨0x2111, 0x2111, 1, 0x69⟩, ⟨0x2112, 0x2112, 1, 0x6c⟩,
    ⟨0x2113, 0x2113, 1, 0x6c⟩, ⟨0x2115, 0x2115, 1, 0x6e⟩, ⟨0x2119, 0x211b, 1, 0x70⟩,
    ⟨0x211c, 0x211c, 1, 0x72⟩, ⟨0x211d, 0x211d, 1, 0x72⟩, ⟨0x2124, 0x2124, 1, 0x7a⟩,
    ⟨0x2128, 0x2128, 1, 0x7a⟩, ⟨0x212a, 0x212a, 1, 0x6b⟩, ⟨0x212c, 0x212d, 1, 0x62⟩,
    ⟨0x212f, 0x212f, 1, 0x65⟩, ⟨0x2130, 0x2131, 1, 0x65⟩, ⟨0x2133, 0x2133, 1, 0x6d⟩,
    ⟨0x2134, 0x2134, 1, 0x6f⟩, ⟨0x2139, 0x2139, 1, 0x69⟩, ⟨0x2145, 0x2145, 1, 0x64⟩,
    ⟨0x2146, 0x2147, 1, 0x64⟩, ⟨0x2148, 0x2149, 1, 0x69⟩, ⟨0x2160, 0x2160, 1, 0x69⟩,
    ⟨0x2164, 0x2164, 1, 0x76⟩, ⟨0x2169, 0x2169, 1, 0x78⟩, ⟨0x216c, 0x216c, 1, 0x6c⟩,
    ⟨0x216d, 0x216e, 1, 0x63⟩, ⟨0x216f, 0x216f, 1, 0x6d⟩, ⟨0x2170, 0x2170, 1, 0x69⟩,
    ⟨0x2174, 0x2174, 1, 0x76⟩, ⟨0x2179, 0x2179, 1, 0x78⟩, ⟨0x217c, 0x217c, 1, 0x6c⟩,
    ⟨0x217d, 0x217e, 1, 0x63⟩, ⟨0x217f, 0x217f, 1, 0x6d⟩, ⟨0x2460, 0x2468, 1, 0x31⟩,
    ⟨0x24b6, 0x24cf, 1, 0x61⟩, ⟨0x24d0, 0x24e9, 1, 0x61⟩, ⟨0x24ea, 0x24ea, 1, 0x30⟩,
    ⟨0x2c7c, 0x2c7c, 1, 0x6a⟩, ⟨0x2c7d, 0x2c7d, 1, 0x76⟩, ⟨0x3002, 0x3002, 1, 0x2e⟩,
    ⟨0xa7f1, 0xa7f1, 1, 0x73⟩, ⟨0xa7f2, 0xa7f2, 1, 0x63⟩, ⟨0xa7f3, 0xa7f3, 1, 0x66⟩,
    ⟨0xa7f4, 0xa7f4, 1, 0x71⟩, ⟨0xfb29, 0xfb29, 1, 0x2b⟩, ⟨0xfe10, 0xfe10, 1, 0x2c⟩,
    ⟨0xfe14, 0xfe14, 1, 0x3b⟩, ⟨0xfe15, 0xfe15, 1, 0x21⟩, ⟨0xfe33, 0xfe33, 1, 0x5f⟩,
    ⟨0xfe34, 0xfe34, 1, 0x5f⟩, ⟨0xfe35, 0xfe36, 1, 0x28⟩, ⟨0xfe37, 0xfe37, 1, 0x7b⟩,
    ⟨0xfe38, 0xfe38, 1, 0x7d⟩, ⟨0xfe4d, 0xfe4d, 1, 0x5f⟩, ⟨0xfe4e, 0xfe4e, 1, 0x5f⟩,
    ⟨0xfe4f, 0xfe4f, 1, 0x5f⟩, ⟨0xfe50, 0xfe50, 1, 0x2c⟩, ⟨0xfe54, 0xfe54, 1, 0x3b⟩,
    ⟨0xfe57, 0xfe57, 1, 0x21⟩, ⟨0xfe59, 0xfe5a, 1, 0x28⟩, ⟨0xfe5b, 0xfe5b, 1, 0x7b⟩,
    ⟨0xfe5c, 0xfe5c, 1, 0x7d⟩, ⟨0xfe60, 0xfe60, 1, 0x26⟩, ⟨0xfe61, 0xfe62, 1, 0x2a⟩,
    ⟨0xfe63, 0xfe63, 1, 0x2d⟩, ⟨0xfe66, 0xfe66, 1, 0x3d⟩, ⟨0xfe69, 0xfe69, 1, 0x24⟩,
    ⟨0xff01, 0xff02, 1, 0x21⟩, ⟨0xff04, 0xff04, 1, 0x24⟩, ⟨0xff06, 0xff0e, 1, 0x26⟩,
    ⟨0xff10, 0xff19, 1, 0x30⟩, ⟨0xff1b, 0xff1b, 1, 0x3b⟩, ⟨0xff1d, 0xff1d, 1, 0x3d⟩,
    ⟨0xff21, 0xff3a, 1, 0x61⟩, ⟨0xff3f, 0xff5b, 1, 0x5f⟩, ⟨0xff5d, 0xff5e, 1, 0x7d⟩,
    ⟨0xff61, 0xff61, 1, 0x2e⟩, ⟨0x107a5, 0x107a5, 1, 0x71⟩, ⟨0x1ccd6, 0x1ccef, 1, 0x61⟩,
    ⟨0x1ccf0, 0x1ccf9, 1, 0x30⟩, ⟨0x1d400, 0x1d419, 1, 0x61⟩, ⟨0x1d41a, 0x1d433, 1, 0x61⟩,
    ⟨0x1d434, 0x1d44d, 1, 0x61⟩, ⟨0x1d44e, 0x1d454, 1, 0x61⟩, ⟨0x1d456, 0x1d467, 1, 0x69⟩,
    ⟨0x1d468, 0x1d481, 1, 0x61⟩, ⟨0x1d482, 0x1d49b, 1, 0x61⟩, ⟨0x1d49c, 0x1d49c, 1, 0x61⟩,
    ⟨0x1d49e, 0x1d49f, 1, 0x63⟩, ⟨0x1d4a2, 0x1d4a2, 1, 0x67⟩, ⟨0x1d4a5, 0x1d4a6, 1, 0x6a⟩,
    ⟨0x1d4a9, 0x1d4ac, 1, 0x6e⟩, ⟨0x1d4ae, 0x1d4b5, 1, 0x73⟩, ⟨0x1d4b6, 0x1d4b9, 1, 0x61⟩,
    ⟨0x1d4bb, 0x1d4bb, 1, 0x66⟩, ⟨0x1d4bd, 0x1d4c3, 1, 0x68⟩, ⟨0x1d4c5, 0x1d4cf, 1, 0x70⟩,
    ⟨0x1d4d0, 0x1d4e9, 1, 0x61⟩, ⟨0x1d4ea, 0x1d503, 1, 0x61⟩, ⟨0x1d504, 0x1d505, 1, 0x61⟩,
    ⟨0x1d507, 0x1d50a, 1, 0x64⟩, ⟨0x1d50d, 0x1d514, 1, 0x6a⟩, ⟨0x1d516, 0x1d51c, 1, 0x73⟩,
    ⟨0x1d51e, 0x1d537, 1, 0x61⟩, ⟨0x1d538, 0x1d539, 1, 0x61⟩, ⟨0x1d53b, 0x1d53e, 1, 0x64⟩,
    ⟨0x1d540, 0x1d544, 1, 0x69⟩, ⟨0x1d546, 0x1d546, 1, 0x6f⟩, ⟨0x1d54a, 0x1d550, 1, 0x73⟩,
    ⟨0x1d552, 0x1d56b, 1, 0x61⟩, ⟨0x1d56c, 0x1d585, 1, 0x61⟩, ⟨0x1d586, 0x1d59f, 1, 0x61⟩,
    ⟨0x1d5a0, 0x1d5b9, 1, 0x61⟩, ⟨0x1d5ba, 0x1d5d3, 1, 0x61⟩, ⟨0x1d5d4, 0x1d5ed, 1, 0x61⟩,
    ⟨0x1d5ee, 0x1d607, 1, 0x61⟩, ⟨0x1d608, 0x1d621, 1, 0x61⟩, ⟨0x1d622, 0x1d63b, 1, 0x61⟩,
    ⟨0x1d63c, 0x1d655, 1, 0x61⟩, ⟨0x1d656, 0x1d66f, 1, 0x61⟩, ⟨0x1d670, 0x1d689, 1, 0x61⟩,
    ⟨0x1d68a, 0x1d6a3, 1, 0x61⟩, ⟨0x1d7ce, 0x1d7d7, 1, 0x30⟩, ⟨0x1d7d8, 0x1d7e1, 1, 0x30⟩,
    ⟨0x1d7e2, 0x1d7eb, 1, 0x30⟩, ⟨0x1d7ec, 0x1d7f5, 1, 0x30⟩, ⟨0x1d7f6, 0x1d7ff, 1, 0x30⟩,
    ⟨0x1f12b, 0x1f12b, 1, 0x63⟩, ⟨0x1f12c, 0x1f12c, 1, 0x72⟩, ⟨0x1f130, 0x1f149, 1, 0x61⟩,
    ⟨0x1fbf0, 0x1fbf9, 1, 0x30⟩
  ]

/-- what a character counts for -/
def foldChar (c : Char) : List Char :=
  if c.toNat < 0x80 then [c.toLower]
  else if isIgnored c then []
  else match shapeRuns.findSome? (·.imageOf? c.toNat) with
    | some n => [Char.ofNat n]
    | none => [c]

def fold (cs : List Char) : List Char := cs.flatMap foldChar

/-- signs that take the vowel from the letter before them -/
def viramas : List Nat :=
  [
    0x94d, 0x9cd, 0xa4d, 0xacd, 0xb4d, 0xbcd, 0xc4d, 0xccd, 0xd3b, 0xd3c, 0xd4d, 0xdca, 0xe3a,
    0xeba, 0xf84, 0x1039, 0x103a, 0x1714, 0x1715, 0x1734, 0x17d2, 0x1a60, 0x1b44, 0x1baa, 0x1bab,
    0x1bf2, 0x1bf3, 0x2d7f, 0xa806, 0xa82c, 0xa8c4, 0xa953, 0xa9c0, 0xaaf6, 0xabed, 0x10a3f,
    0x11046, 0x11070, 0x1107f, 0x110b9, 0x11133, 0x11134, 0x111c0, 0x11235, 0x112ea, 0x1134d,
    0x11442, 0x114c2, 0x115bf, 0x1163f, 0x116b6, 0x1172b, 0x11839, 0x1193d, 0x1193e, 0x119e0,
    0x11a34, 0x11a47, 0x11a99, 0x11c3f, 0x11d44, 0x11d45, 0x11d97
  ]

end ServiceDiagram.Url
