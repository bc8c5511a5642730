/-
**Direction.**

Letters are written from left to right or from right to left; numbers and marks go along with what
stands around them.  A word may be mixed of both only within limits, or else it could not be told
from its looks in which order its characters stand.

Main definitions:

* `MediaTree.Text.Direction`, `MediaTree.Text.direction` — how a character is written;
* `MediaTree.Text.keepsDirection` — a word whose characters go well together.
-/

import MediaTree.Text.Runs

set_option autoImplicit false
set_option relaxedAutoImplicit false

namespace MediaTree.Text

/-- How characters are written, as far as it is told apart. -/
inductive Direction where
  /-- Letters from left to right. -/
  | left
  /-- Letters from right to left. -/
  | right
  /-- The digits of Arabic. -/
  | arabicNumber
  /-- Other digits. -/
  | number
  /-- Punctuation and symbols. -/
  | neutral
  /-- Marks, which are written like the character in front. -/
  | mark
  /-- Separators of lines and words, and what sets a direction. -/
  | foreign
deriving DecidableEq, Repr

namespace Direction

/-- What a letter of the table stands for. -/
def ofLetter : Char → Direction
  | 'L' => left
  | 'R' => right
  | 'N' => arabicNumber
  | 'E' => number
  | 'O' => neutral
  | 'M' => mark
  | _ => foreign

/-- How all code points are written, run after run. -/
def table : Runs Direction := Runs.ofCounts ofLetter
  "O9X5O14X5O15E10O7L26O6L26O10X1O36L1O7E2O1L1O3E1L1O5L23O1L31O1L449O2L7O14L2O14L5O9L1O17M112L4O2L8
   O1L5O2L1O1L110O1L140M7L256O7M45R1M1R1M2R1M2R1M9R48N6O2R1O2R1O1R1O2M11R48M21N10O1N2R3M1R101M7N1O1
   M6R2M2O1M4R2E10R23M1R30M29R89M11R58M9R2O4R3M1R24M4R1M9R1M3R1M7R41M5R50N7M9R42M24N1M32L55M1L1M1L4
   M8L4M1L3M7L10M2L29M1L58M1L4M6L6M1L20M4L12O2L7O1L2M5L57M2L3M24L23M2L3M1L11M2L57M1L4M8L4M3L18M4L11
   O8L1M8L58M1L2M1L1M6L6M10L11M4L28M1L61M1L12M3L35O13M1L3M1L55M1L1M3L5M18L10M4L18O7L2M1L58M1L15M9
   L13M4L26M2L57M2L4M5L7M1L20M4L27M1L72M5L3M6L89M1L2M11O1L7M8L98M1L2M9L11M8L72M2L27M1L1M1L1M1O4L51
   M14L1M5L1M2L5M49L8M1L102M4L1M6L1M2L2M2L25M2L4M3L16M4L13M1L2M2L6M1L15M1L703M3L48O16L96O1L639X1L26
   O5L114M3L29M2L30M14L18M14L52M2L1M7L8M1L2M11L7O1L1M3L16O27M3O1M1L117M2L34M1L118M3L4M2L9M1L6M7O6
   L152O34L23M2L2M3L56M1L1M9L1M1L2M8L6M13L48M84L48M1L1M5L1M1L5M1L11O2L27M9L11O1M2L32M4L2M2L1M3L56M1
   L1M2L3M1L1M3L58M8L2M5L149M3L1M13L1M7L4M1L6M1L3M2L198M64L445O1L1O3L11O3L13O3L13O5L11O3X11O3L1R1
   O24X7O48X1O6X4O6E1L3E6O5L1E10O6L16O48M48O2L1O4L1O2L10O1L1O3L5O6L1O1L1O1L1O1L4O1L11O2L4O5L5O4L2
   O16L41O429L69O26L1O242E20L78O450L1O339L256O768L229O6L4M3L7O7L127M1L96M32O512X1O4L3O25L9M4L2O1L5
   O2L5O4L88M2O2L3O1L90O1L196O48L45O3L48O16L28O3L50O15L12O4L167O4L99O2L31O1L6592O64L22160O64L317O3
   L95M4O1M10O2L30M2L80M2L14O34L102O1L121M1L3M1L4M1L25M2L1O4M4L8O8L52O12L68M10L18M18L13M1L38M8L25
   M11L46M3L48M1L2M4L2M2L39M1L67M6L2M2L2M11L3M1L8M1L47M1L51M1L1M3L2M2L5M2L1M1L42M2L8M11L105O6L117M1
   L2M1L4M3L20269R1M1R10O1R153O16R363O18R64O2R54O40R13O3M16O16M16O64R143O17E10O7L26O6L26O11L122O32
   L257O1L62O77L3O64L45M131L96M1E31L118M10L1152R287O1R225M15R40M8R165M6R78O7R484M12N16R41M5O1R31
   O210N32R43M2R35O42M6R70M11R49M4R122L1M1L54M15L11O20L10M1L2M2L10M3L49M4L2M2L7M11L51M3L36M5L1M9L61
   M1L12M2L52M9L10M4L2M1L95M3L2M1L1M2L6M1L2M63L95M1L3M13L16M2L57M2L3M1L37M26L59M7L12M1L1M1L1M1L1O13
   M31L56M8L2M3L1M1L23M1L84M6L1M1L4M2L1M2L238M6L4M2L1M2L27M36L51M8L2M1L1M2L31O32L43M1L1M1L2M6L1M1
   L101M3L2M4L1M9L255M9L1M2L256M2L1M1L4M1L144M8L4M1L32M6L2M2L40M6L2M4L8M9L1M6L2M3L46M13L1M2L198M1L1
   M3L1M1L122O15L64M14L84M23L1M7L1M2L1M75L49M21L1M9L64M3L2M1L1M1L347M2L11M2L52M8L2M1L1M1L23M86L37
   O42L5185M1L6M25L11454M12L3M3L2496M5L59M7L566O3L479M1L63M4L79O1L1M12L19629M2L1O4176E10O518M80L535
   M3L9O8M8L2M7L30M4L59O89M3O123L64O96L891O1L57O1L57O1L57O1L57O1L10E50L512M55L4M50L8M1L14M1L22M1125
   L256M48L95M113L48M7L375M18L44M4L15O465L28M4L254M2L15O193L35M1L2M1L7M2L5M9L258R208M48R68M7R1445
   O528E11O5L31O1L58O6L61O57L122O2448E10O1030L786433O255M196352"

end Direction

/-- How a character is written. -/
def direction (c : Char) : Direction := (Direction.table.at? c).getD .left

/-- A character that is written from right to left, or a digit of Arabic. -/
def runsLeft (c : Char) : Bool := direction c == .right || direction c == .arabicNumber

/-- The directions of a word go together: the first character is a letter and sets the direction;
letters of the other one do not occur, nor do both kinds of digits in a word from right to left; and
apart from marks the word ends in a letter or a digit. -/
def keepsDirection (word : List Char) : Bool :=
  let ds := word.map direction
  let last := ((ds.reverse.dropWhile (· == .mark)).headD .foreign)
  match ds with
  | .left :: _ =>
    ds.all [.left, .number, .neutral, .mark].contains && [.left, .number].contains last
  | .right :: _ =>
    ds.all [.right, .arabicNumber, .number, .neutral, .mark].contains
      && !(ds.contains .number && ds.contains .arabicNumber)
      && [.right, .arabicNumber, .number].contains last
  | _ => false

end MediaTree.Text
