import CfgPatch.Regex.Unicode.Table

/-!
# Script extensions

Characters that several scripts use, or scripts other than their own. A row names the
scripts and lists the characters that they use. All other characters are used by their own
script alone.
-/

namespace CfgPatch.Regex.Unicode

/-- The characters that do not belong to their own script alone, by the scripts that use them. -/
def sharedRows : List PropertyRow := [
  { names := "Beng", ranges := "1CF7" },
  { names := "Deva", ranges := "1CD1 1CD4 1CDB 1CDE-1CDF 1CE3-1CE8 1CEC 1CEE-1CF1" },
  { names := "Dupl", ranges := "2E3C 1BCA0-1BCA3" },
  { names := "Grek", ranges := "342 345 1DC0-1DC1" },
  { names := "Hani",
    ranges := "3006 303E-303F 3190-319F 31C0-31E5 3220-3247 3280-32B0 32C0-32CB 32FF 3358-3370
      337B-337F 33E0-33FE 1D360-1D371 1F250-1F251" },
  { names := "Latn", ranges := "363-36F" },
  { names := "Nand", ranges := "1CFA" },
  { names := "Runr", ranges := "16EB-16ED" },
  { names := "Syrc", ranges := "1DFA" },
  { names := "Adlm Arab", ranges := "204F" },
  { names := "Arab Copt", ranges := "102E0-102FB" },
  { names := "Arab Nkoo", ranges := "FD3E-FD3F" },
  { names := "Arab Rohg", ranges := "6D4" },
  { names := "Arab Syrc", ranges := "64B-655 670" },
  { names := "Arab Thaa", ranges := "FDF2 FDFD" },
  { names := "Avst Orkh", ranges := "2E30" },
  { names := "Beng Deva", ranges := "1CE1 1CF5-1CF6" },
  { names := "Bopo Hani", ranges := "302A-302D" },
  { names := "Bopo Latn", ranges := "2C7 2C9-2CB 2D9" },
  { names := "Bugi Java", ranges := "A9CF" },
  { names := "Copt Grek", ranges := "374-375" },
  { names := "Copt Latn", ranges := "2E17" },
  { names := "Cprt Linb", ranges := "10102 10137-1013F" },
  { names := "Cyrl Glag", ranges := "484 487 2E43 A66F" },
  { names := "Cyrl Latn", ranges := "485-486" },
  { names := "Cyrl Perm", ranges := "483" },
  { names := "Deva Gran", ranges := "1CF3 1CF8-1CF9" },
  { names := "Deva Newa", ranges := "1CEB" },
  { names := "Deva Shrd", ranges := "1CD9 1CDC-1CDD 1CE0" },
  { names := "Deva Taml", ranges := "A8F3" },
  { names := "Ethi Latn", ranges := "30E" },
  { names := "Gran Taml", ranges := "BE6-BF3 11301 11303 1133B-1133C 11FD0-11FD1 11FD3" },
  { names := "Gujr Khoj", ranges := "AE6-AEF" },
  { names := "Guru Mult", ranges := "A66-A6F" },
  { names := "Hani Latn", ranges := "A700-A707" },
  { names := "Hani Tang", ranges := "2FF0-2FFF 31EF" },
  { names := "Hira Kana", ranges := "3031-3035 3099-309C 30A0 30FC FF70 FF9E-FF9F" },
  { names := "Latn Lisu", ranges := "2CD" },
  { names := "Latn Osge", ranges := "358" },
  { names := "Latn Sunu", ranges := "30D 310" },
  { names := "Latn Syrc", ranges := "325 32E" },
  { names := "Latn Tfng", ranges := "309" },
  { names := "Latn Thai", ranges := "2D7" },
  { names := "Mani Ougr", ranges := "10AF2" },
  { names := "Mong Phag", ranges := "1802-1803 1805" },
  { names := "Adlm Arab Hung", ranges := "2E41" },
  { names := "Aghb Latn Todr", ranges := "35E" },
  { names := "Arab Syrc Thaa", ranges := "61C" },
  { names := "Arab Thaa Yezi", ranges := "660-669" },
  { names := "Armn Geor Glag", ranges := "589" },
  { names := "Beng Cakm Sylo", ranges := "9E6-9EF" },
  { names := "Beng Deva Shrd", ranges := "1CEA" },
  { names := "Beng Deva Telu", ranges := "1CD6" },
  { names := "Beng Deva Tutg", ranges := "A8F1" },
  { names := "Cakm Mymr Tale", ranges := "1040-1049" },
  { names := "Cher Latn Syrc", ranges := "330" },
  { names := "Cher Latn Tale", ranges := "30C" },
  { names := "Cpmn Cprt Linb", ranges := "10100-10101" },
  { names := "Cprt Lina Linb", ranges := "10107-10133" },
  { names := "Cyrl Latn Syrc", ranges := "1DF8" },
  { names := "Cyrl Latn Todr", ranges := "311" },
  { names := "Deva Gran Knda", ranges := "1CD3" },
  { names := "Deva Gran Latn", ranges := "20F0" },
  { names := "Deva Nand Newa", ranges := "1CE9" },
  { names := "Deva Newa Shrd", ranges := "1CD7" },
  { names := "Deva Newa Tirh", ranges := "1CE2" },
  { names := "Dupl Latn Syrc", ranges := "30A" },
  { names := "Geor Glag Latn", ranges := "10FB" },
  { names := "Hani Hira Kana", ranges := "303C-303D" },
  { names := "Kali Latn Mymr", ranges := "A92E" },
  { names := "Knda Nand Tutg", ranges := "CE6-CEF" },
  { names := "Latn Mong Phag", ranges := "202F" },
  { names := "Latn Sunu Syrc", ranges := "32D" },
  { names := "Beng Deva Gran Knda", ranges := "1CD0 1CD2" },
  { names := "Beng Deva Newa Shrd", ranges := "1CED" },
  { names := "Beng Deva Newa Telu", ranges := "1CD8" },
  { names := "Buhd Hano Tagb Tglg", ranges := "1735-1736" },
  { names := "Cari Grek Hung Mero", ranges := "205D" },
  { names := "Cher Cyrl Latn Osge", ranges := "30B" },
  { names := "Cher Cyrl Latn Tfng", ranges := "302" },
  { names := "Cher Dupl Latn Syrc", ranges := "324" },
  { names := "Deva Dogr Kthi Mahj", ranges := "966-96F" },
  { names := "Deva Gran Knda Tutg", ranges := "1CF4" },
  { names := "Grek Latn Perm Todr", ranges := "313" },
  { names := "Beng Deva Newa Telu Tirh", ranges := "1CD5" },
  { names := "Bopo Hang Hani Hira Kana", ranges := "3003 3013 301C-301F 3030 3037 FE45-FE46" },
  { names := "Cyrl Grek Latn Perm Tfng", ranges := "306" },
  { names := "Glag Latn Sunu Syrc Thai", ranges := "303" },
  { names := "Bopo Hang Hani Hira Kana Yiii", ranges := "300C-3011 3014-301B 30FB FF61-FF65" },
  { names := "Cari Geor Glag Hung Lyci Orkh", ranges := "205A" },
  { names := "Cher Dupl Kana Latn Syrc Tfng", ranges := "323" },
  { names := "Copt Elba Glag Goth Kana Latn", ranges := "305" },
  { names := "Deva Knda Mlym Orya Taml Telu", ranges := "1CDA" },
  { names := "Aghb Cher Goth Latn Sunu Syrc Thai", ranges := "331" },
  { names := "Arab Gara Nkoo Rohg Syrc Thaa Yezi", ranges := "60C 61B" },
  { names := "Avst Cari Geor Hung Kthi Lydi Samr", ranges := "2E31" },
  { names := "Beng Cyrl Deva Latn Lisu Thai Toto", ranges := "2BC" },
  { names := "Bopo Hang Hani Hira Kana Mong Yiii", ranges := "3001" },
  { names := "Adlm Arab Gara Nkoo Rohg Syrc Thaa Yezi", ranges := "61F" },
  { names := "Bopo Hang Hani Hira Kana Mong Phag Yiii", ranges := "3002" },
  { names := "Bopo Hang Hani Hira Kana Mong Tibt Yiii", ranges := "3008-3009" },
  { names := "Cher Copt Cyrl Grek Latn Perm Sunu Tale", ranges := "300" },
  { names := "Cher Cyrl Grek Latn Osge Sunu Tale Todr", ranges := "301" },
  { names := "Adlm Arab Mand Mani Ougr Phlp Rohg Sogd Syrc", ranges := "640" },
  { names := "Bopo Hang Hani Hira Kana Lisu Mong Tibt Yiii", ranges := "300A-300B" },
  { names := "Copt Dupl Hebr Latn Perm Syrc Tale Tfng Todr", ranges := "307" },
  { names := "Aghb Cher Copt Cyrl Goth Grek Latn Osge Syrc Tfng Todr", ranges := "304" },
  { names := "Armn Cyrl Dupl Goth Grek Hebr Latn Perm Syrc Tale Tfng", ranges := "308" },
  { names := "Beng Deva Gran Knda Mlym Nand Orya Sinh Telu Tirh Tutg", ranges := "1CF2" },
  { names := "Deva Dogr Gujr Guru Khoj Kthi Mahj Modi Sind Takr Tirh",
    ranges := "A836-A837 A839" },
  { names := "Deva Dogr Gujr Guru Khoj Kthi Mahj Modi Shrd Sind Takr Tirh", ranges := "A838" },
  { names := "Beng Deva Gran Gujr Guru Knda Latn Mlym Newa Orya Taml Telu Tirh", ranges := "952" },
  { names := "Beng Deva Gran Gujr Guru Knda Latn Mlym Nand Newa Orya Shrd Taml Telu Tirh",
    ranges := "951" },
  { names := "Deva Dogr Gujr Guru Khoj Knda Kthi Mahj Modi Nand Shrd Sind Takr Tirh Tutg",
    ranges := "A833-A835" },
  { names := "Avst Cari Copt Dupl Elba Geor Glag Gong Goth Grek Hani Latn Lydi Mahj Perm Shaw",
    ranges := "B7" },
  { names := "Deva Dogr Gujr Guru Khoj Knda Kthi Mahj Mlym Modi Nand Shrd Sind Takr Tirh Tutg",
    ranges := "A830-A832" },
  { names := "Beng Deva Dogr Gong Gonm Gran Gujr Guru Knda Mahj Mlym Nand Onao Orya Sind Sinh
      Sylo Takr Taml Telu Tirh",
    ranges := "964" },
  { names := "Beng Deva Dogr Gong Gonm Gran Gujr Gukh Guru Knda Limb Mahj Mlym Nand Onao Orya
      Sind Sinh Sylo Takr Taml Telu Tirh",
    ranges := "965" }
]

end CfgPatch.Regex.Unicode
