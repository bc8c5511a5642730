/-
**Settings as JSON.**

An object with a member for each section, and in each section a member for each setting.  Everything
may be left out and has its default then; the file of the log may be `null`.  Sections may also be
spelled by position.

Main definitions:

* `MediaTree.Settings.toJson`, `MediaTree.Settings.decode`.
-/

import MediaTree.Json.Decoder
import MediaTree.Json.Printer
import MediaTree.Settings.Basic

set_option autoImplicit false
set_option relaxedAutoImplicit false

namespace MediaTree

open Json (Decoder Shape Problem)

namespace Settings

/-- The spelling of one section. -/
def sectionJson (s : Settings) (c : Section) : Json :=
  .object (c.settings.map fun k => (k.key, Json.nullable .string (s.get k)))

/-- The spelling of settings. -/
def toJson (s : Settings) : Json := .object (Section.all.map fun c => (c.key, s.sectionJson c))

/-- Settings being read: which names were given, and the values so far. -/
structure Draft (ν : Type) where
  given : List ν
  values : Settings

/-- The value of a setting; `null` leaves an optional one as it is. -/
def decodeSetting (s : Settings) (k : Setting) : Decoder Settings :=
  if k.isOptional then (Decoder.string.optional).map fun v => (v.map (s.put k)).getD s
  else Decoder.string.map (s.put k)

/-- How a section is spelled, on top of settings that hold already. -/
def sectionShape (s : Settings) (c : Section) : Shape (Draft Setting) Settings where
  name := c.record
  fields := c.settings.map fun k =>
    ⟨k.key, false, fun d => d.given.contains k, fun d depth r => do
      pure ⟨k :: d.given, ← decodeSetting d.values k depth r⟩⟩
  blank := ⟨[], s⟩
  finish d := .ok d.values

/-- How settings are spelled. -/
def shape : Shape (Draft Section) Settings where
  name := "Config"
  fields := Section.all.map fun c =>
    ⟨c.key, false, fun d => d.given.contains c, fun d depth r => do
      pure ⟨c :: d.given, ← (sectionShape d.values c).decode depth r⟩⟩
  blank := ⟨[], default⟩
  finish d := .ok d.values

/-- Reads settings. -/
def decode : Decoder Settings := shape.decode

end Settings

end MediaTree
