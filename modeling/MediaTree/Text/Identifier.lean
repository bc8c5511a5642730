/-
**Identifiers.**

Which characters names of any script start with, and which they go on with: letters, and behind the
first one also digits, connectors and marks.  A few characters are taken out, whose compatible forms
would not be names, and a few are added that names have always had.

Main definitions:

* `MediaTree.Text.startsIdentifier`, `MediaTree.Text.continuesIdentifier` — the two properties;
* `MediaTree.Text.isDiacritic` — marks that change the sound or weight of a letter;
* `MediaTree.Text.isAlphanumeric` — letters, numbers, and marks that stand for letters.
-/

import MediaTree.Text.Category

set_option autoImplicit false
set_option relaxedAutoImplicit false

namespace MediaTree.Text

/-- Letters that no name holds. -/
def namelessRanges : Runs Nat := Runs.ofRanges
  "37a 2e2f fc5e-fc63 fdfa-fdfb fe70 fe72 fe74 fe76 fe78 fe7a fe7c fe7e"

/-- Letters that no name starts with, though it may hold them. -/
def innerRanges : Runs Nat := Runs.ofRanges "e33 eb3 ff9e-ff9f"

/-- Characters that are no letters and that names may start with. -/
def addedStartRanges : Runs Nat := Runs.ofRanges "1885-1886 2118 212e"

/-- Characters of no suitable category that names may hold. -/
def addedRanges : Runs Nat := Runs.ofRanges
  "b7 387 1369-1371 19da 200c-200d 2118 212e 30fb ff65"

/-- Characters outside the category of nonspacing marks that are diacritics, letters apart. -/
def diacriticRanges : Runs Nat := Runs.ofRanges
  "5e 60 a8 af b4 b7-b8 2c2-2c5 2d2-2df 2e5-2eb 2ed 2ef-2ff 375 384-385 f3e-f3f 1063-1064
   1069-106d 1087-108c 108f 109a-109b 1715 1734 1abe 1b44 1baa 1bf2-1bf3 1cd3 1ce1 1cf7 1fbd
   1fbf-1fc1 1fcd-1fcf 1fdd-1fdf 1fed-1fef 1ffd-1ffe 302e-302f 309b-309c a700-a716 a720-a721
   a789-a78a a92e a953 a9c0 aa7b aa7d ab5b ab6a-ab6b abec ff3e ff40 ffe3 111c0 11235 1134d 113cf
   116b6 1193d 11f41 16ff0-16ff1 1d16d-1d172"

/-- Characters that are no letters or digits and yet alphabetic or numbers. -/
def alphanumericRanges : Runs Nat := Runs.ofRanges
  "b2-b3 b9 bc-be 345 363-36f 5b0-5bd 5bf 5c1-5c2 5c4-5c5 5c7 610-61a 64b-657 659-65f 670 6d6-6dc
   6e1-6e8 6ed 711-73f 7a6-7b0 816-817 81b-82c 897 8d4-8df 8e3-8e9 8f0-93b 93e-94c 94e-94f 955-963
   981-983 9be-9c4 9c7-9c8 9cb-9cc 9d7 9e2-9e3 9f4-9f9 a01-a03 a3e-a42 a47-a48 a4b-a4c a51 a70-a75
   a81-a83 abe-ac5 ac7-ac9 acb-acc ae2-ae3 afa-afc b01-b03 b3e-b44 b47-b48 b4b-b4c b56-b57 b62-b63
   b72-b77 b82 bbe-bc2 bc6-bc8 bca-bcc bd7 bf0-bf2 c00-c04 c3e-c44 c46-c48 c4a-c4c c55-c56 c62-c63
   c78-c7e c81-c83 cbe-cc4 cc6-cc8 cca-ccc cd5-cd6 ce2-ce3 cf3 d00-d03 d3e-d44 d46-d48 d4a-d4c
   d57-d63 d70-d78 d81-d83 dcf-dd4 dd6 dd8-ddf df2-df3 e31-e3a e4d eb1-eb9 ebb-ebc ecd f2a-f33
   f71-f83 f8d-f97 f99-fbc 102b-1036 1038 103b-103e 1056-109d 1369-137c 1712-1713 1732-1733
   1752-1753 1772-1773 17b6-17c8 17f0-17f9 1885-18a9 1920-192b 1930-1938 19da 1a17-1a1b 1a55-1a5e
   1a61-1a74 1abf-1ac0 1acc-1ace 1b00-1b04 1b35-1b43 1b80-1ba9 1bac-1bad 1be7-1bf1 1c24-1c36
   1dd3-1df4 2070 2074-2079 2080-2089 2150-2189 2460-249b 24b6-24ff 2776-2793 2cfd 2de0-2dff
   3192-3195 3220-3229 3248-324f 3251-325f 3280-3289 32b1-32bf a674-a67b a69e-a69f a802 a80b-a827
   a830-a835 a880-a8c3 a8c5 a8ff-a92a a947-a952 a980-a983 a9b4-a9bf a9e5 aa29-aa36 aa43-aa4d
   aa7b-aabe aaeb-aaef aaf5 abe3-abea fb1e 10107-10133 10175-10178 1018a-1018b 102e1-102fb
   10320-10323 10376-1037a 10858-1085f 10879-1087f 108a7-108af 108fb-1091b 109bc-109cf 109d2-10a03
   10a05-10a06 10a0c-10a0f 10a40-10a48 10a7d-10a7e 10a9d-10a9f 10aeb-10aef 10b58-10b5f 10b78-10b7f
   10ba9-10baf 10cfa-10d27 10d69 10e60-10e7e 10eab-10eac 10efa-10efc 10f1d-10f26 10f51-10f54
   10fc5-10fcb 11000-11045 11052-11065 11073-11074 11080-110b8 110c2 11100-11132 11145-11146
   11180-111bf 111ce-111cf 111e1-111f4 1122c-11234 11237 1123e-11241 112df-112e8 11300-11303
   1133e-11344 11347-11348 1134b-1134c 11357 11362-11363 113b8-113c0 113c2 113c5 113c7-113ca
   113cc-113cd 11435-11441 11443-11445 114b0-114c1 115af-115b5 115b8-115be 115dc-115dd 11630-1163e
   11640 116ab-116b5 1171d-1172a 1173a-1173b 1182c-11838 118ea-118f2 11930-11935 11937-11938
   1193b-1193c 11940-11942 119d1-119d7 119da-119df 119e4 11a01-11a0a 11a35-11a3e 11a51-11a97
   11b60-11b67 11c2f-11c36 11c38-11c3e 11c5a-11c6c 11c92-11ca7 11ca9-11cb6 11d31-11d36 11d3a
   11d3c-11d3d 11d3f-11d41 11d43 11d47 11d8a-11d8e 11d90-11d91 11d93-11d96 11ef3-11ef6 11f00-11f03
   11f34-11f3a 11f3e-11f40 11fc0-11fd4 1611e-1612e 16b5b-16b61 16e80-16e96 16f4f-16f87 16f8f-16f92
   16ff0-16ff1 1bc9e 1d2c0-1d2d3 1d2e0-1d2f3 1d360-1d378 1e000-1e006 1e008-1e018 1e01b-1e021
   1e023-1e024 1e026-1e02a 1e08f 1e6e3-1e6f5 1e8c7-1e8cf 1e947 1ec71-1ecab 1ecad-1ecaf 1ecb1-1ecb4
   1ed01-1ed2d 1ed2f-1ed3d 1f100-1f10c 1f130-1f149 1f150-1f169 1f170-1f189"

/-- A name may start with this character. -/
def startsIdentifier (c : Char) : Bool :=
  match category c with
  | .letter => !(namelessRanges.covers c || innerRanges.covers c)
  | _ => addedStartRanges.covers c

/-- A name may go on with this character. -/
def continuesIdentifier (c : Char) : Bool :=
  match category c with
  | .letter => !namelessRanges.covers c
  | .digit | .connector | .nonspacing | .spacing => true
  | _ => addedRanges.covers c

/-- A diacritic that is no letter. -/
def isDiacritic (c : Char) : Bool := category c = .nonspacing || diacriticRanges.covers c

/-- A letter or a number, or a mark that stands for a letter. -/
def isAlphanumeric (c : Char) : Bool :=
  match category c with
  | .letter | .digit => true
  | _ => alphanumericRanges.covers c

end MediaTree.Text
