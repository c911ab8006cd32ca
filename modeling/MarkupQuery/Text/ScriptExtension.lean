import MarkupQuery.Text.Script

/-!
Characters that are used in more scripts than the one they are said to belong to, or in another
one.
-/
namespace MarkupQuery.Text

/-- Some characters and the short names of all the scripts that they are used in. -/
structure SharedRuns where
  runs : List CharRun
  scripts : List String
  deriving DecidableEq, Repr

namespace SharedRuns

/-- The characters whose use is not that of their own script alone. -/
def table : List SharedRuns :=
  [⟨[⟨0xb7, 0xb7, 1⟩],
    ["avst", "cari", "copt", "dupl", "elba", "geor", "glag", "gong", "goth", "grek", "hani",
     "latn", "lydi", "mahj", "perm", "shaw"]⟩,
   ⟨[⟨0x2bc, 0x2bc, 1⟩], ["beng", "cyrl", "deva", "latn", "lisu", "thai", "toto"]⟩,
   ⟨[⟨0x2c7, 0x2c7, 1⟩, ⟨0x2c9, 0x2cb, 1⟩, ⟨0x2d9, 0x2d9, 1⟩], ["bopo", "latn"]⟩,
   ⟨[⟨0x2cd, 0x2cd, 1⟩], ["latn", "lisu"]⟩,
   ⟨[⟨0x2d7, 0x2d7, 1⟩], ["latn", "thai"]⟩,
   ⟨[⟨0x300, 0x300, 1⟩], ["cher", "copt", "cyrl", "grek", "latn", "perm", "sunu", "tale"]⟩,
   ⟨[⟨0x301, 0x301, 1⟩], ["cher", "cyrl", "grek", "latn", "osge", "sunu", "tale", "todr"]⟩,
   ⟨[⟨0x302, 0x302, 1⟩], ["cher", "cyrl", "latn", "tfng"]⟩,
   ⟨[⟨0x303, 0x303, 1⟩], ["glag", "latn", "sunu", "syrc", "thai"]⟩,
   ⟨[⟨0x304, 0x304, 1⟩],
    ["aghb", "cher", "copt", "cyrl", "goth", "grek", "latn", "osge", "syrc", "tfng", "todr"]⟩,
   ⟨[⟨0x305, 0x305, 1⟩], ["copt", "elba", "glag", "goth", "kana", "latn"]⟩,
   ⟨[⟨0x306, 0x306, 1⟩], ["cyrl", "grek", "latn", "perm", "tfng"]⟩,
   ⟨[⟨0x307, 0x307, 1⟩], ["copt", "dupl", "hebr", "latn", "perm", "syrc", "tale", "tfng", "todr"]⟩,
   ⟨[⟨0x308, 0x308, 1⟩],
    ["armn", "cyrl", "dupl", "goth", "grek", "hebr", "latn", "perm", "syrc", "tale", "tfng"]⟩,
   ⟨[⟨0x309, 0x309, 1⟩], ["latn", "tfng"]⟩,
   ⟨[⟨0x30a, 0x30a, 1⟩], ["dupl", "latn", "syrc"]⟩,
   ⟨[⟨0x30b, 0x30b, 1⟩], ["cher", "cyrl", "latn", "osge"]⟩,
   ⟨[⟨0x30c, 0x30c, 1⟩], ["cher", "latn", "tale"]⟩,
   ⟨[⟨0x30d, 0x30d, 1⟩, ⟨0x310, 0x310, 1⟩], ["latn", "sunu"]⟩,
   ⟨[⟨0x30e, 0x30e, 1⟩], ["ethi", "latn"]⟩,
   ⟨[⟨0x311, 0x311, 1⟩], ["cyrl", "latn", "todr"]⟩,
   ⟨[⟨0x313, 0x313, 1⟩], ["grek", "latn", "perm", "todr"]⟩,
   ⟨[⟨0x323, 0x323, 1⟩], ["cher", "dupl", "kana", "latn", "syrc", "tfng"]⟩,
   ⟨[⟨0x324, 0x324, 1⟩], ["cher", "dupl", "latn", "syrc"]⟩,
   ⟨[⟨0x325, 0x325, 1⟩, ⟨0x32e, 0x32e, 1⟩], ["latn", "syrc"]⟩,
   ⟨[⟨0x32d, 0x32d, 1⟩], ["latn", "sunu", "syrc"]⟩,
   ⟨[⟨0x330, 0x330, 1⟩], ["cher", "latn", "syrc"]⟩,
   ⟨[⟨0x331, 0x331, 1⟩], ["aghb", "cher", "goth", "latn", "sunu", "syrc", "thai"]⟩,
   ⟨[⟨0x342, 0x342, 1⟩, ⟨0x345, 0x345, 1⟩, ⟨0x1dc0, 0x1dc1, 1⟩], ["grek"]⟩,
   ⟨[⟨0x358, 0x358, 1⟩], ["latn", "osge"]⟩,
   ⟨[⟨0x35e, 0x35e, 1⟩], ["aghb", "latn", "todr"]⟩,
   ⟨[⟨0x363, 0x36f, 1⟩], ["latn"]⟩,
   ⟨[⟨0x374, 0x375, 1⟩], ["copt", "grek"]⟩,
   ⟨[⟨0x483, 0x483, 1⟩], ["cyrl", "perm"]⟩,
   ⟨[⟨0x484, 0x484, 1⟩, ⟨0x487, 0x487, 1⟩, ⟨0x2e43, 0x2e43, 1⟩, ⟨0xa66f, 0xa66f, 1⟩],
    ["cyrl", "glag"]⟩,
   ⟨[⟨0x485, 0x486, 1⟩], ["cyrl", "latn"]⟩,
   ⟨[⟨0x589, 0x589, 1⟩], ["armn", "geor", "glag"]⟩,
   ⟨[⟨0x60c, 0x60c, 1⟩, ⟨0x61b, 0x61b, 1⟩],
    ["arab", "gara", "nkoo", "rohg", "syrc", "thaa", "yezi"]⟩,
   ⟨[⟨0x61c, 0x61c, 1⟩], ["arab", "syrc", "thaa"]⟩,
   ⟨[⟨0x61f, 0x61f, 1⟩], ["adlm", "arab", "gara", "nkoo", "rohg", "syrc", "thaa", "yezi"]⟩,
   ⟨[⟨0x640, 0x640, 1⟩], ["adlm", "arab", "mand", "mani", "ougr", "phlp", "rohg", "sogd", "syrc"]⟩,
   ⟨[⟨0x64b, 0x655, 1⟩, ⟨0x670, 0x670, 1⟩], ["arab", "syrc"]⟩,
   ⟨[⟨0x660, 0x669, 1⟩], ["arab", "thaa", "yezi"]⟩,
   ⟨[⟨0x6d4, 0x6d4, 1⟩], ["arab", "rohg"]⟩,
   ⟨[⟨0x951, 0x951, 1⟩],
    ["beng", "deva", "gran", "gujr", "guru", "knda", "latn", "mlym", "nand", "newa", "orya",
     "shrd", "taml", "telu", "tirh"]⟩,
   ⟨[⟨0x952, 0x952, 1⟩],
    ["beng", "deva", "gran", "gujr", "guru", "knda", "latn", "mlym", "newa", "orya", "taml",
     "telu", "tirh"]⟩,
   ⟨[⟨0x964, 0x964, 1⟩],
    ["beng", "deva", "dogr", "gong", "gonm", "gran", "gujr", "guru", "knda", "mahj", "mlym",
     "nand", "onao", "orya", "sind", "sinh", "sylo", "takr", "taml", "telu", "tirh"]⟩,
   ⟨[⟨0x965, 0x965, 1⟩],
    ["beng", "deva", "dogr", "gong", "gonm", "gran", "gujr", "gukh", "guru", "knda", "limb",
     "mahj", "mlym", "nand", "onao", "orya", "sind", "sinh", "sylo", "takr", "taml", "telu",
     "tirh"]⟩,
   ⟨[⟨0x966, 0x96f, 1⟩], ["deva", "dogr", "kthi", "mahj"]⟩,
   ⟨[⟨0x9e6, 0x9ef, 1⟩], ["beng", "cakm", "sylo"]⟩,
   ⟨[⟨0xa66, 0xa6f, 1⟩], ["guru", "mult"]⟩,
   ⟨[⟨0xae6, 0xaef, 1⟩], ["gujr", "khoj"]⟩,
   ⟨[⟨0xbe6, 0xbf3, 1⟩, ⟨0x11301, 0x11303, 2⟩, ⟨0x1133b, 0x1133c, 1⟩, ⟨0x11fd0, 0x11fd1, 1⟩,
     ⟨0x11fd3, 0x11fd3, 1⟩],
    ["gran", "taml"]⟩,
   ⟨[⟨0xce6, 0xcef, 1⟩], ["knda", "nand", "tutg"]⟩,
   ⟨[⟨0x1040, 0x1049, 1⟩], ["cakm", "mymr", "tale"]⟩,
   ⟨[⟨0x10fb, 0x10fb, 1⟩], ["geor", "glag", "latn"]⟩,
   ⟨[⟨0x16eb, 0x16ed, 1⟩], ["runr"]⟩,
   ⟨[⟨0x1735, 0x1736, 1⟩], ["buhd", "hano", "tagb", "tglg"]⟩,
   ⟨[⟨0x1802, 0x1803, 1⟩, ⟨0x1805, 0x1805, 1⟩], ["mong", "phag"]⟩,
   ⟨[⟨0x1cd0, 0x1cd2, 2⟩], ["beng", "deva", "gran", "knda"]⟩,
   ⟨[⟨0x1cd1, 0x1cd1, 1⟩, ⟨0x1cd4, 0x1cd4, 1⟩, ⟨0x1cdb, 0x1cdb, 1⟩, ⟨0x1cde, 0x1cdf, 1⟩,
     ⟨0x1ce3, 0x1ce8, 1⟩, ⟨0x1cec, 0x1cec, 1⟩, ⟨0x1cee, 0x1cf1, 1⟩],
    ["deva"]⟩,
   ⟨[⟨0x1cd3, 0x1cd3, 1⟩], ["deva", "gran", "knda"]⟩,
   ⟨[⟨0x1cd5, 0x1cd5, 1⟩], ["beng", "deva", "newa", "telu", "tirh"]⟩,
   ⟨[⟨0x1cd6, 0x1cd6, 1⟩], ["beng", "deva", "telu"]⟩,
   ⟨[⟨0x1cd7, 0x1cd7, 1⟩], ["deva", "newa", "shrd"]⟩,
   ⟨[⟨0x1cd8, 0x1cd8, 1⟩], ["beng", "deva", "newa", "telu"]⟩,
   ⟨[⟨0x1cd9, 0x1cd9, 1⟩, ⟨0x1cdc, 0x1cdd, 1⟩, ⟨0x1ce0, 0x1ce0, 1⟩], ["deva", "shrd"]⟩,
   ⟨[⟨0x1cda, 0x1cda, 1⟩], ["deva", "knda", "mlym", "orya", "taml", "telu"]⟩,
   ⟨[⟨0x1ce1, 0x1ce1, 1⟩, ⟨0x1cf5, 0x1cf6, 1⟩], ["beng", "deva"]⟩,
   ⟨[⟨0x1ce2, 0x1ce2, 1⟩], ["deva", "newa", "tirh"]⟩,
   ⟨[⟨0x1ce9, 0x1ce9, 1⟩], ["deva", "nand", "newa"]⟩,
   ⟨[⟨0x1cea, 0x1cea, 1⟩], ["beng", "deva", "shrd"]⟩,
   ⟨[⟨0x1ceb, 0x1ceb, 1⟩], ["deva", "newa"]⟩,
   ⟨[⟨0x1ced, 0x1ced, 1⟩], ["beng", "deva", "newa", "shrd"]⟩,
   ⟨[⟨0x1cf2, 0x1cf2, 1⟩],
    ["beng", "deva", "gran", "knda", "mlym", "nand", "orya", "sinh", "telu", "tirh", "tutg"]⟩,
   ⟨[⟨0x1cf3, 0x1cf3, 1⟩, ⟨0x1cf8, 0x1cf9, 1⟩], ["deva", "gran"]⟩,
   ⟨[⟨0x1cf4, 0x1cf4, 1⟩], ["deva", "gran", "knda", "tutg"]⟩,
   ⟨[⟨0x1cf7, 0x1cf7, 1⟩], ["beng"]⟩,
   ⟨[⟨0x1cfa, 0x1cfa, 1⟩], ["nand"]⟩,
   ⟨[⟨0x1df8, 0x1df8, 1⟩], ["cyrl", "latn", "syrc"]⟩,
   ⟨[⟨0x1dfa, 0x1dfa, 1⟩], ["syrc"]⟩,
   ⟨[⟨0x202f, 0x202f, 1⟩], ["latn", "mong", "phag"]⟩,
   ⟨[⟨0x204f, 0x204f, 1⟩], ["adlm", "arab"]⟩,
   ⟨[⟨0x205a, 0x205a, 1⟩], ["cari", "geor", "glag", "hung", "lyci", "orkh"]⟩,
   ⟨[⟨0x205d, 0x205d, 1⟩], ["cari", "grek", "hung", "mero"]⟩,
   ⟨[⟨0x20f0, 0x20f0, 1⟩], ["deva", "gran", "latn"]⟩,
   ⟨[⟨0x2e17, 0x2e17, 1⟩], ["copt", "latn"]⟩,
   ⟨[⟨0x2e30, 0x2e30, 1⟩], ["avst", "orkh"]⟩,
   ⟨[⟨0x2e31, 0x2e31, 1⟩], ["avst", "cari", "geor", "hung", "kthi", "lydi", "samr"]⟩,
   ⟨[⟨0x2e3c, 0x2e3c, 1⟩, ⟨0x1bca0, 0x1bca3, 1⟩], ["dupl"]⟩,
   ⟨[⟨0x2e41, 0x2e41, 1⟩], ["adlm", "arab", "hung"]⟩,
   ⟨[⟨0x2ff0, 0x2fff, 1⟩, ⟨0x31ef, 0x31ef, 1⟩], ["hani", "tang"]⟩,
   ⟨[⟨0x3001, 0x3001, 1⟩], ["bopo", "hang", "hani", "hira", "kana", "mong", "yiii"]⟩,
   ⟨[⟨0x3002, 0x3002, 1⟩], ["bopo", "hang", "hani", "hira", "kana", "mong", "phag", "yiii"]⟩,
   ⟨[⟨0x3003, 0x3003, 1⟩, ⟨0x3013, 0x3013, 1⟩, ⟨0x301c, 0x301f, 1⟩, ⟨0x3030, 0x3030, 1⟩,
     ⟨0x3037, 0x3037, 1⟩, ⟨0xfe45, 0xfe46, 1⟩],
    ["bopo", "hang", "hani", "hira", "kana"]⟩,
   ⟨[⟨0x3006, 0x3006, 1⟩, ⟨0x303e, 0x303f, 1⟩, ⟨0x3190, 0x319f, 1⟩, ⟨0x31c0, 0x31e5, 1⟩,
     ⟨0x3220, 0x3247, 1⟩, ⟨0x3280, 0x32b0, 1⟩, ⟨0x32c0, 0x32cb, 1⟩, ⟨0x32ff, 0x32ff, 1⟩,
     ⟨0x3358, 0x3370, 1⟩, ⟨0x337b, 0x337f, 1⟩, ⟨0x33e0, 0x33fe, 1⟩, ⟨0x1d360, 0x1d371, 1⟩,
     ⟨0x1f250, 0x1f251, 1⟩],
    ["hani"]⟩,
   ⟨[⟨0x3008, 0x3009, 1⟩], ["bopo", "hang", "hani", "hira", "kana", "mong", "tibt", "yiii"]⟩,
   ⟨[⟨0x300a, 0x300b, 1⟩],
    ["bopo", "hang", "hani", "hira", "kana", "lisu", "mong", "tibt", "yiii"]⟩,
   ⟨[⟨0x300c, 0x3011, 1⟩, ⟨0x3014, 0x301b, 1⟩, ⟨0x30fb, 0x30fb, 1⟩, ⟨0xff61, 0xff65, 1⟩],
    ["bopo", "hang", "hani", "hira", "kana", "yiii"]⟩,
   ⟨[⟨0x302a, 0x302d, 1⟩], ["bopo", "hani"]⟩,
   ⟨[⟨0x3031, 0x3035, 1⟩, ⟨0x3099, 0x309c, 1⟩, ⟨0x30a0, 0x30a0, 1⟩, ⟨0x30fc, 0x30fc, 1⟩,
     ⟨0xff70, 0xff70, 1⟩, ⟨0xff9e, 0xff9f, 1⟩],
    ["hira", "kana"]⟩,
   ⟨[⟨0x303c, 0x303d, 1⟩], ["hani", "hira", "kana"]⟩,
   ⟨[⟨0xa700, 0xa707, 1⟩], ["hani", "latn"]⟩,
   ⟨[⟨0xa830, 0xa832, 1⟩],
    ["deva", "dogr", "gujr", "guru", "khoj", "knda", "kthi", "mahj", "mlym", "modi", "nand",
     "shrd", "sind", "takr", "tirh", "tutg"]⟩,
   ⟨[⟨0xa833, 0xa835, 1⟩],
    ["deva", "dogr", "gujr", "guru", "khoj", "knda", "kthi", "mahj", "modi", "nand", "shrd",
     "sind", "takr", "tirh", "tutg"]⟩,
   ⟨[⟨0xa836, 0xa837, 1⟩, ⟨0xa839, 0xa839, 1⟩],
    ["deva", "dogr", "gujr", "guru", "khoj", "kthi", "mahj", "modi", "sind", "takr", "tirh"]⟩,
   ⟨[⟨0xa838, 0xa838, 1⟩],
    ["deva", "dogr", "gujr", "guru", "khoj", "kthi", "mahj", "modi", "shrd", "sind", "takr",
     "tirh"]⟩,
   ⟨[⟨0xa8f1, 0xa8f1, 1⟩], ["beng", "deva", "tutg"]⟩,
   ⟨[⟨0xa8f3, 0xa8f3, 1⟩], ["deva", "taml"]⟩,
   ⟨[⟨0xa92e, 0xa92e, 1⟩], ["kali", "latn", "mymr"]⟩,
   ⟨[⟨0xa9cf, 0xa9cf, 1⟩], ["bugi", "java"]⟩,
   ⟨[⟨0xfd3e, 0xfd3f, 1⟩], ["arab", "nkoo"]⟩,
   ⟨[⟨0xfdf2, 0xfdf2, 1⟩, ⟨0xfdfd, 0xfdfd, 1⟩], ["arab", "thaa"]⟩,
   ⟨[⟨0x10100, 0x10101, 1⟩], ["cpmn", "cprt", "linb"]⟩,
   ⟨[⟨0x10102, 0x10102, 1⟩, ⟨0x10137, 0x1013f, 1⟩], ["cprt", "linb"]⟩,
   ⟨[⟨0x10107, 0x10133, 1⟩], ["cprt", "lina", "linb"]⟩,
   ⟨[⟨0x102e0, 0x102fb, 1⟩], ["arab", "copt"]⟩,
   ⟨[⟨0x10af2, 0x10af2, 1⟩], ["mani", "ougr"]⟩]

end SharedRuns

/-- The characters used in a script: those that are said to be, and those of the script itself of
which nothing else is said. -/
def Script.users (s : Script) : CharSet :=
  let said := SharedRuns.table.filter fun entry => s.names.any entry.scripts.contains
  (s.members.diff (CharSet.ofRuns (SharedRuns.table.flatMap (·.runs)))).union
    (CharSet.ofRuns (said.flatMap (·.runs)))

end MarkupQuery.Text
