/-
**Categories of characters.**

Unicode gives each code point a general category.  Some of them are told apart here: what names are
made of, what attaches itself to the character in front, what shows and what does not.

Main definitions:

* `MediaTree.Text.Category` — the categories;
* `MediaTree.Text.category` — the category of a character.
-/

import MediaTree.Text.Runs

set_option autoImplicit false
set_option relaxedAutoImplicit false

namespace MediaTree.Text

/-- General categories, as far as they are told apart. -/
inductive Category where
  /-- Letters of any kind, and numbers that are written as letters. -/
  | letter
  /-- Decimal digits. -/
  | digit
  /-- Punctuation that connects words, as the underscore does. -/
  | connector
  /-- Marks that take no room of their own. -/
  | nonspacing
  /-- Marks that take room. -/
  | spacing
  /-- Marks around a character. -/
  | enclosing
  /-- All other punctuation, symbols and numbers. -/
  | graphic
  /-- Separators of words, lines and paragraphs. -/
  | separator
  /-- Control and format characters. -/
  | control
  /-- Code points without a public meaning: unassigned, private, or halves of pairs. -/
  | unassigned
deriving DecidableEq, Repr

namespace Category

/-- The category that a letter of the table stands for. -/
def ofLetter : Char → Category
  | 'L' => letter
  | 'D' => digit
  | 'P' => connector
  | 'N' => nonspacing
  | 'S' => spacing
  | 'E' => enclosing
  | 'G' => graphic
  | 'B' => separator
  | 'X' => control
  | _ => unassigned

/-- The categories of all code points, run after run. -/
def table : Runs Category := Runs.ofCounts ofLetter
  "X32B1G15D10G7L26G4P1G1L26G4X33B1G9L1G2X1G7L1G4L1G5L23G1L31G1L458G4L12G14L5G7L1G1L1G17N112L5G1L2
   U2L4G1L1U4G2L1G1L3U1L1U1L20U1L83G1L139G1N5E2L166U1L38U2L1G6L41G2U2G3U1N45G1N1G1N2G1N2G1N1U8L27U4
   L4G2U11X6G10N11G1X1G3L43N21D10G4L2N1L99G1L1N7X1G1N6L2N2G1N4L2D10L3G2L1G14U1X1L1N1L30N27U2L89N11
   L1U14D10L33N9L2G4L1U2N1G2L22N4L1N9L1N3L1N5U2G15U1L25N3U2G1U1L11U5L24G1L7X2U5N9L42N24X1N32S1L54N1
   S1N1L1S3N8S4N1S2L1N7L10N2G2D10G1L16N1S2U1L8U2L2U2L22U1L7U1L1U3L4U2N1L1S3N4U2S2U2S2N1L1U8S1U4L2U1
   L3N2U2D10L2G10L1G1N1U2N2S1U1L6U4L2U2L22U1L7U1L2U1L2U1L2U2N1U1S3N2U4N2U2N3U3N1U7L4U1L1U7D10N2L3N1
   G1U10N2S1U1L9U1L3U1L22U1L7U1L2U1L5U2N1L1S3N5U1N2S1U1S2N1U2L1U15L2N2U2D10G2U7L1N6U1N1S2U1L8U2L2U2
   L22U1L7U1L2U1L5U2N1L1S1N1S1N4U2S2U2S2N1U7N2S1U4L2U1L3N2U2D10G1L1G6U10N1L1U1L6U3L3U1L4U3L2U1L1U1
   L2U3L2U3L3U3L12U4S2N1S2U3S3U1S3N1U2L1U6S1U14D10G11U5N1S3N1L8U1L3U1L23U1L16U2N1L1N3S4U1N3U1N4U7N2
   U1L3U1L2U2L2N2U2D10U7G9L1N1S2G1L8U1L3U1L23U1L10U1L5U2N1L1S1N1S5U1N1S2U1S2N2U7S2U5L3U1L2N2U2D10U1
   L2S1U12N2S2L9U1L3U1L41N2L1S3N4U1S3U1S3N1L1G1U4L3S1G7L3N2U2D10G10L6U1N1S2U1L18U3L24U1L9U1L1U2L7U3
   N1U4S3N3U1N1U1S8U6D10U2S2G1U12L48N1L2N7U4G1L7N8G1D10G2U37L2U1L1U1L5U1L24U1L1U1L10N1L2N9L1U2L5U1
   L1U1N7U1D10U2L4U32L1G23N2G6D10G11N1G1N1G1N1G4S2L8U1L36U4N14S1N5G1N2L5N11U1N36U1G8N1G6U1G13U37L43
   S2N4S1N6S1N2S2N2L1D10G6L6S2N2L4N3L1S3L2S7L3N4L13N1S2N2S6N1L1S1D10S3N1G2L38U1L1U5L1U2L43G1L333U1
   L4U2L7U1L1U1L4U2L41U1L4U2L33U1L4U2L7U1L1U1L4U2L15U1L57U1L4U2L67U2N3G29U3L16G10U6L86U2L6U2G1L620
   G2L17B1L26G2U3L75G3L11U7L18N3S1U9L19N2S1G2U9L18N2U12L13U1L3U1N2U12L52N2S1N7S8N1S2N11G3L1G4L1N1U2
   D10U6G10U6G11N3X1N1D10U6L89U7L5N2L34N1L1U5L70U10L31U1N3S4N2S3U4S2N1S6N3U4G1U3G2D10L30U2L5U11L44
   U4L26U6D10G1U3G34L23N2S2N1U2G2L53S1N1S1N7U1N1S1N1S2N8S6N10U2N1D10U6D10U6G7L1G6U2N14E1N31U2N12U20
   N4S1L47N1S1N5S1N1S5N1S2L8U1G2D10G17N9G12N2S1L30S1N4S2N2S1N3L2D10L44N1S1N2S3N1S1N3S2U8G4L36S8N8S2
   N2U3G5D10U3L3D10L36G2L11U5L43U2L3G8U8N3G1N13S1N7L4N1L6N1L2S1N2L1U5L192N64L278U2L6U2L38U2L6U2L8U1
   L1U1L1U1L1U1L31U2L53U1L7G1L1G3L3U1L7G3L4U2L6U1G3L13G3U2L3U1L7G2U1B11X5G24B2X5B1G15P2G19P1G10B1X5
   U1X10G1L1U2G11L1G15U1L13U3G34U14N13E4N1E3N12U15G2L1G4L1G2L10G1L1G3L5G6L1G1L1G1L1G1L4G1L11G2L4G5
   L5G4L1G17L41G3U4G666U22G11U21G1812U2G138L229G6L4N3L2U5G7L38U1L1U5L1U2L56U7L1G1U14N1L23U9L7U1L7U1
   L7U1L7U1L7U1L7U1L7U1L7U1N32G47L1G46U34G26U1G89U12G214U26G16B1G4L3G25L9N4S2G1L5G2L5G3U1L86U2N2G2
   L3G1L90G1L4U5L43U1L94U1G16L32G38U9G1L16G31U1G480L6592G64L22157U3G55U9L46G2L269G3L16D10L2U20L47N1
   E3G1N10G1L31N2L80N2G6U8G23L9G2L103G2L82U20L17N1L3N1L4N1L23S2N2S1G4N1U3G10U6L52G4U8S2L50S16N2U8G2
   D10U6N18L6G3L1G1L2N1D10L28N8G2L23N11S2U11G1L29U3N3S1L47N1S2N4S2N2S3G13U1L1D10U4G2L5N1L10D10L5U1
   L41N6S2N2S2N2U9L3N1L8N1S1U2D10U2G4L23G3L1S1N1S1L50N1L1N3L2N2L5N2L1N1L1U24L3G2L11S1N2S2G2L3S1N1
   U10L6U2L6U2L6U9L7U1L7U1L43G1L14G2U4L115S2N1S2N1S2G1S1N1U2D10U6L11172U12L23U4L49U8452L366U2L106
   U38L7U12L5U5L1N1L10G1L13U1L5U1L1U1L2U1L2U1L108G33L363G18L64G2L54G8U32L12G4N16G10U6N16G3P2G24P3G3
   U1G19U1G4U4L5U1L135U2X1U1G15D10G7L26G4P1G1L26G11L89U3L6U2L6U2L6U2L3U3G7U1G7U10X3G2U2L12U1L26U1
   L19U1L2U1L15U2L14U34L123U5G3U4G45U3G9L53G26U1G13U3G1U47G45N1U130L29U3L49U15N1G27U4L32G4U9L30U5
   L38N5U5L30U1G1L36U4L8G1L5U42L158U2D10U6L36U4L36U4L40U8L52U11G1L11U1L15U1L7U1L2U1L11U1L15U1L7U1L2
   U3L52U12L311U9L22U10L8U24L6U1L42U1L9U69L6U2L1U1L44U1L2U3L1U2L23U1G9L23G9L31U8G9U48L19U1L2U5G5L22
   G6U3G1L26U5G1L26U38L56U4G2L2G16U2G46L1N3U1N2U5N4L4U1L3U1L29U2N3U4N1G9U7G9U7L29G3L29G3U32L8G1L28
   N2U4G12U9L54U3G7L22U2G8L19U5G8L18U7G4U12G7U80L73U55L51U13L51U7G6L36N4U8D10U6D10L28U3N5G1L23U8G2
   U208G31U1L42U1N2G1U2L2U16L6U8G9U33N6L29G10L1U8L22N11G9U22L18N4G4U38L21G7U20L23U9S1N1S1L53N15G7U4
   G20D10N1L2N2L1U9N3S1L45S3N4S2N2G2X1G4N1U10X1U2L25U7D10U6N3L36N5S1N8U1D10G4L1S2L1U8L35N1G2L1U9N2
   S1L48S3N9S2L4G4N4G1S1N1D10L1G1L1G3U1G20U11L18U1L25S3N3S2N1S1N2G6N1L2N1U62L7U1L1U1L4U1L15U1L10G1
   U6L47N1S3N8U5D10U6N2S2U1L8U2L2U2L22U1L7U1L2U1L5U1N2L1S2N1S4U2S2U2S3U2L1U6S1U5L5S2U2N7U3N5U11L10
   U1L1U2L1U1L38U1L1S3N6U1S1U2S1U1S4U1S2N1S1N1L1N1L1G2U1G2U8N2U29L53S3N8S2N3S1N1L4G5D10G2U1G1N1L3
   U30L48S3N6S1N1S4N2S1N2L2G1L1U8D10U166L47S3N4U2S4N2S1N2G23L4N2U34L48S3N8S2N1S1N2G3L1U11D10U6G13
   U19L43N1S1N1S2N6S1N1L1G1U6D10U6D20U28L27U2N1S1N1S2N4S1N5U4D10G6L7U185L44S3N9S1N2G1U100L64D10G9
   U12L8U2L1U2L8U1L2U1L24S6U1S2U2N2S1N1L1S1L1S1N1G3U9D10U70L8U2L39S3N4U2N2S4N1L1G1L1S1U27L1N10L40N6
   S1L1N4G8N1U8L1N6S2N3L46N13S1N2G3L1G5U13L73U7G10U86N1S1N3S1N1S1U88L33G1U14D10U6L9U1L37S1N7U1N6S1
   N1L1G5U10D10G19U3G2L30U2N22U1S1N7S1N2S1N2U73L7U1L2U1L38N6U3N1U1N2U1N7L1N1U8D10U6L6U1L2U1L32S5U1
   N2U1S2N1S1N1L1U7D10U6L44U4D10U246L19N2S2G2U7N2L1S1L13U1L34S2N5U3S2N1S1N1G13D10N1U85L1U15G50U13G1
   L922U102L111U1G5U11L196U2636L97G2U13L1072X16N1L6N15U10L3995U5L583U6841L30N12S3N3D10U1734L569U7
   L31U1D10U4G2L79U1D10U6L30U2N5G1U10L48N7G9L4G2U10D10U1G7U1L21U5L19U432L45G3D10U198L64G27U5L25U2
   L25U44L75U4N1L1S55U7N4L13U64L2G1L1N1U11S2L5U9L7382U41L32U97L115U8701L4U1L7U1L2U1L291U15L1U29L3U2
   L1U14L4U8L396U2308L107U5L13U3L9U7L10U2G1N2G1X4U3932G240D10G3U3G436U6G23U15G17U15N46U2N23U9G116
   U60G246U10G39U2G60S2N3G3S6X8N8G2N7G30N4G61U21G66N3G1U122G20U12G20U12G87U9G25U135L85U1L71U1L2U2L1
   U2L2U2L4U1L12U1L1U1L7U1L65U1L4U2L8U1L7U1L28U1L4U1L5U1L1U3L7U1L340U2L25G1L25G1L31G1L25G1L31G1L25
   G1L31G1L25G1L31G1L25G1L8U2D50G512N55G4N50G8N1G14N1G7U15N5U1N15U1104L31U6L6U213N7U1N17U2N7U1N2U1
   N5U5L62U33N1U112L45U3N7L7U2D10U4L1G1U320L30N1U17L44N4D10U5G1U464L28N4D10U214L30N2L1D10U4G1U192
   L31U1L3N1L2N1L7N2L5N1U8L2U224L7U1L4U1L2U1L15U1L197U2G9N7U41L68N7L1U4D10U4G2U785G68U76G61U194L4U1
   L27U1L2U1L1U2L1U1L10U1L4U1L1U1L1U6L1U4L1U1L1U1L1U1L3U1L2U1L1U2L1U1L1U1L1U1L1U1L1U1L2U1L1U2L4U1L7
   U1L4U1L4U1L1U1L10U1L17U5L3U1L5U1L17U52G2U270G44U4G100U12G15U2G15U1G15U1G37U10G174U56G29U13G44U4
   G9U7G2U14G6U154G985U3G17U3G13U3G218U6G12U4G1U15G12U4G56U8G10U6G40U8G30U2G12U4G2U14G9U39G344U8G14
   U2G13U3G11U3G57U1G1U4G16U2G12U4G10U7G147U1G92D10G1U1029L42720U32L4382U2L5774U2L7473U15L622U2466
   L542U1506L4939U5L8490U707463X1U30X96U128N240U196112"

/-- A mark of any kind. -/
def isMark : Category → Bool
  | nonspacing | spacing | enclosing => true
  | _ => false

end Category

/-- The category of a character. -/
def category (c : Char) : Category := (Category.table.at? c).getD .unassigned

end MediaTree.Text
