/-
**Joining.**

In cursive scripts a letter has another form where it joins its neighbours.  Two characters without
a width ask for a join or for a gap; they mean something only where a join can be, or behind a mark
that takes the vowel from a letter.

Main definitions:

* `MediaTree.Text.Joining`, `MediaTree.Text.joining` — to which sides a character joins;
* `MediaTree.Text.joinersMean` — each joiner and non-joiner of a word means something.
-/

import MediaTree.Text.Composition

set_option autoImplicit false
set_option relaxedAutoImplicit false

namespace MediaTree.Text

/-- To which sides a character joins. -/
inductive Joining where
  | none
  /-- To the character behind. -/
  | behind
  /-- To the character in front. -/
  | front
  /-- To both. -/
  | both
  /-- The character lets its neighbours join each other. -/
  | transparent
deriving DecidableEq, Repr

namespace Joining

/-- What a letter of the table stands for. -/
def ofLetter : Char → Joining
  | 'L' => behind
  | 'R' => front
  | 'D' => both
  | 'T' => transparent
  | _ => none

/-- To which sides all code points join, run after run. -/
def table : Runs Joining := Runs.ofCounts ofLetter
  "U173T1U594T112U275T7U263T45U1T1U1T2U1T2U1T9U64T11U1T1U3D1U1R4D1R1D1R1D5R4D13U1D7R1D2T21U14D2T1R3
   U1R3D16R18D38R1D2R9D1R1D1R1D2R2U1R1T7U2T6U2T2U1T4R2U10D3U2D1U15T1R1T1D3R5D4R1D9R1D1R1D1R1D2R1T29
   R1D11R3D15R2D4R1D1R2D3R2D6U38T11U25D33T9U9T1U24T4U1T9U1T3U1T7U16R1D5R2D1R1D10R1D1R3T5U2D1U1D4U1
   R1D1R26U3D1U2D5R1D1U7T9D10R3U1R1D2R2D6R1D15U1T24U1T32U55T1U1T1U4T8U4T1U3T7U10T2U29T1U58T1U4T6U6
   T1U20T4U24T5U57T2U3T24U23T2U3T1U11T2U57T1U4T8U4T3U18T4U20T8U58T1U2T1U1T6U6T10U11T4U28T1U61T1U12
   T3U48T1U3T1U55T1U1T3U5T18U10T4U27T1U58T1U2T1U6T1U5T9U13T4U26T2U57T2U4T5U7T1U20T4U27T1U72T5U3T6
   U89T1U2T11U8T8U98T1U2T9U11T8U72T2U27T1U1T1U1T1U55T14U1T5U1T2U5T49U8T1U102T4U1T6U1T2U2T2U25T2U4T3
   U16T4U13T1U2T2U6T1U15T1U703T3U946T3U29T2U30T14U18T14U52T2U1T7U8T1U2T11U9T3U39D1U3T3U1T1U16D96U5
   T2D34T1D6U112T3U4T2U9T1U6T7U215T2U2T3U56T1U1T9U1T1U2T8U6T13U48T84U48T1U1T5U1T1U5T1U40T9U12T2U32
   T4U2T2U1T3U56T1U1T2U3T1U1T3U58T8U2T5U149T3U1T13U1T7U4T1U6T1U3T2U198T64U523T1U2T2U26T5U49T6U4T6
   U96T48U3055T3U141T1U96T32U554T4U107T2U30164T4U1T10U32T2U80T2U272T1U3T1U4T1U25T2U5T4U16D50L1U81
   T10U18T18U13T1U38T8U25T11U46T3U48T1U2T4U2T2U39T1U67T6U2T2U2T11U3T1U8T1U47T1U51T1U1T3U2T2U5T2U1T1
   U42T2U8T11U228T1U2T1U4T3U20270T1U737T16U16T16U207T2U248T3U513T131U96T1U149T10U1665T15U40T8U128D5
   R1U1R1U1R2U2L1R5D4L1D5R1D3R1U2R1T6D4R1U144D1R1D1R3D3R1D2R1D1R2D1R8U16R4D2U337L1D33R1D1T12U57T5
   U317T2U21R1D2U1D10U42T6U48D3R1D17U1T11D3R1U27D4R2D12T4U42D1U1D2R3U1D1R2D2R1D2U1D1R2D1U4R1D1L21
   U33T1U54T15U41T1U2T2U10T3U49T4U2T2U7T11U51T3U36T5U1T9U61T1U12T2U52T9U10T4U2T1U95T3U2T1U1T2U6T1U2
   T63U95T1U3T13U16T2U57T2U3T1U37T26U59T7U12T1U1T1U1T1U14T31U56T8U2T3U1T1U23T1U84T6U1T1U4T2U1T2U238
   T6U4T2U1T2U27T36U51T8U2T1U1T2U106T1U1T1U2T6U1T1U101T1U1T1U2T4U1T9U255T9U1T2U256T2U1T1U4T1U144T8
   U4T1U32T10U40T6U2T4U8T9U1T6U2T3U46T13U1T2U198T1U1T3U1T1U201T14U1T1U82T23U1T7U1T2U1T75U49T21U1T9
   U64T3U2T1U1T1U347T2U11T2U52T8U2T1U1T1U23T86U5248T17U6T25U11454T12U3T3U2496T5U59T7U1048T1U63T4U81
   T12U19629T2U1T3936U768T80U535T3U9T16U2T7U30T4U148T3U1979T55U4T50U8T1U14T1U22T1125U256T48U95T113
   U48T7U375T18U44T4U508T4U254T2U243T1U2T1U7T2U5T9U466T48D68T12U792241T196607"

end Joining

/-- To which sides a character joins. -/
def joining (c : Char) : Joining := (Joining.table.at? c).getD .none

/-- Asks for a join. -/
def joiner : Char := '\u200d'

/-- Asks for a gap where a join would be. -/
def nonJoiner : Char := '\u200c'

/-- A mark that takes the vowel from a letter. -/
def isVowelKiller (c : Char) : Bool := combiningClass c == 9

/-- The first character that is not transparent joins to one of these sides. -/
def meets (sides : List Joining) (cs : List Char) : Bool :=
  match cs.dropWhile fun c => joining c == .transparent with
  | [] => false
  | c :: _ => sides.contains (joining c)

/-- A joiner, given the characters in front of it, last one first, and those behind it, means
something. -/
def joinerMeans (c : Char) (front behind : List Char) : Bool :=
  front.head?.any isVowelKiller ||
    (c == nonJoiner && meets [.behind, .both] front && meets [.front, .both] behind)

/-- Each joiner and non-joiner behind the characters in front, last one first, means something. -/
def joinersMeanFrom (front : List Char) : List Char → Bool
  | [] => true
  | c :: cs =>
    (if c == joiner || c == nonJoiner then joinerMeans c front cs else true)
      && joinersMeanFrom (c :: front) cs

/-- Each joiner and non-joiner of a word means something. -/
def joinersMean (word : List Char) : Bool := joinersMeanFrom [] word

end MediaTree.Text
