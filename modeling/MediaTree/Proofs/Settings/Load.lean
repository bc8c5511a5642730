/-
**Loading settings, one by one.**

Defaults, file and environment are three layers, and what the layers come to is settled for every
setting on its own: by the environment if it has the setting, or else by the file, or else by the
default.  Where two runs have the same text for a setting, they end with the same value of it,
whatever the other settings are, in whatever form the files have them.

The layers do not treat texts alike.  A file of texts hands them on as they are, and the environment
hands on what they mean: a text that spells a truth value or a number arrives written out again.

Main definitions:

* `MediaTree.Settings.Reads` — the entries that a file holds;
* `MediaTree.Settings.Layers` — a file and an environment that settings can be loaded from;
* `MediaTree.Settings.Layers.Assigns` — layers in which a file sets one setting, and nothing else is
  set;
* `MediaTree.Settings.Layers.single` — such layers, for every setting and every text.

Main results:

* `MediaTree.Settings.Layers.exists_load` — layers can be loaded, and what they come to;
* `MediaTree.Settings.reads_withFile` — a JSON file holds what was printed into it;
* `MediaTree.Settings.layers_settle_each` — every setting is settled on its own;
* `MediaTree.Settings.variable_arrives_converted` — what arrives of a variable, and what of a file.
-/

import MediaTree.Proofs.Json.Print
import MediaTree.Proofs.Settings.Environment
import MediaTree.Settings.Load

set_option autoImplicit false
set_option relaxedAutoImplicit false

namespace MediaTree.Settings

open Environment (converted)

/-! ### Layers that can be loaded -/

/-- The entries that are read from a file, if one is named. -/
def Reads (d : Directory) : Option String → List (String × Datum) → Prop
  | none, data => data = []
  | some path, data => ∃ file format, locate d path = .ok (file, format) ∧
      format.read? (withoutMark ((d.read? file).getD "")) = some data

/-- A file that can be read, if one is named, and an environment. -/
structure Layers where
  directory : Directory
  path : Option String
  env : Environment
  /-- The entries of the file. -/
  data : List (String × Datum)
  reads : Reads directory path data
  /-- Settings have texts in the file. -/
  entries : ∀ e ∈ data, IsEntry e
  orderly : env.IsOrderly

namespace Layers

/-- The layer of the file is made of its entries. -/
theorem exists_namedLayer (a : Layers) :
    ∃ o, namedLayer a.directory a.path = .ok (Value.ofMembers o a.data) := by
  have h := a.reads
  cases hp : a.path with
  | none =>
      rw [hp] at h
      obtain h : a.data = [] := h
      exact ⟨none, by rw [h]; rfl⟩
  | some path =>
      rw [hp] at h
      obtain ⟨file, format, hfile, hread⟩ := h
      refine ⟨some (Directory.tidy file), ?_⟩
      simp only [namedLayer, fileLayer, hfile]
      simp [bind, Except.bind, hread]

/-- **Layers can be loaded**, and every setting has the text of the uppermost layer that has it. -/
theorem exists_load (a : Layers) :
    ∃ s, load a.directory a.env a.path = .ok s ∧ ∀ k, s.get k =
      ((a.env.value? k).map converted).or ((given? a.data k).or (default.get k)) := by
  obtain ⟨o, hlayer⟩ := a.exists_namedLayer
  have hfile := Value.spells_empty.file a.entries o
  obtain ⟨s, hs, hget⟩ := (hfile.environment a.orderly).ofValue
  refine ⟨s, ?_, fun k => ?_⟩
  · rw [load, hlayer]
    exact hs
  · rw [hget k, Option.or_none, Option.or_assoc]

end Layers

/-! ### Files of JSON -/

/-- A directory with one JSON file in it. -/
def withFile (text : String) : Directory := ⟨[(["settings.json"], .file text)]⟩

theorem find?_withFile (text : String) :
    (withFile text).find? "settings.json" = some (.file text) := by
  have hpath : Directory.checkPath "settings.json" = .ok () := rfl
  have hsteps : Directory.steps "settings.json" = ["settings.json"] := by decide +kernel
  have horigin : Directory.origin "settings.json" = [] := by decide
  have hplace : (withFile text).placeOf "settings.json" = .ok ["settings.json"] := by
    rw [Directory.placeOf, hpath, hsteps, horigin]
    rfl
  have hfile : Directory.meansDirectory "settings.json" = false := by decide
  rw [Directory.find?, hplace]
  simp [withFile, Directory.at?, Directory.isAbove, Directory.root, hfile]

theorem locate_withFile (text : String) :
    locate (withFile text) "settings.json" = .ok ("settings.json", .json) := by
  have hextension : extensionOf "settings.json" = "json" := by decide +kernel
  rw [locate, find?_withFile]
  simp only [hextension]
  rfl

/-- A JSON file is read as what was printed into it. -/
theorem reads_withFile {ms : List (String × Json)} {data : List (String × Datum)}
    (hms : (Json.object ms).Fits)
    (hdata : Datum.decode? Json.nestingLimit (Json.object ms).reading = some (.table data)) :
    Reads (withFile (Json.object ms).compact) (some "settings.json") data := by
  have hmark : withoutMark (Json.object ms).compact = (Json.object ms).compact := by
    unfold withoutMark Json.compact
    rw [String.toList_ofList]
    cases ms <;> rfl
  refine ⟨"settings.json", .json, locate_withFile _, ?_⟩
  rw [Directory.read?, find?_withFile, Option.getD_some, hmark]
  show JsonText.read? _ = _
  unfold JsonText.read? Json.compact
  rw [Json.Document.ofBytes_render Json.Style.isBlank_compact hms]
  simp [hdata, Datum.members?]

/-! ### All settings -/

/-- **Every setting is settled on its own.**  Layers can be loaded; a setting has the value that
arrives of its variable, or else the text that the file gives it, or else its default; and with
other layers that have the same for a setting, the setting is the same. -/
theorem layers_settle_each (a : Layers) :
    ∃ s, load a.directory a.env a.path = .ok s ∧
      (∀ k, s.get k =
        ((a.env.value? k).map converted).or ((given? a.data k).or (default.get k))) ∧
      ∀ b : Layers, ∃ t, load b.directory b.env b.path = .ok t ∧
        ∀ k, b.env.value? k = a.env.value? k → given? b.data k = given? a.data k →
          t.get k = s.get k := by
  obtain ⟨s, hs, hget⟩ := a.exists_load
  refine ⟨s, hs, hget, fun b => ?_⟩
  obtain ⟨t, ht, hget'⟩ := b.exists_load
  refine ⟨t, ht, fun k henv hdata => ?_⟩
  rw [hget k, hget' k, henv, hdata]

/-- A file with a setting, an unknown key beside it and an unknown key on top. -/
def partialFile : Json :=
  .object [("server", .object [("token", .string "abc"), ("port", .int 1)]),
    ("theme", .array [.bool true])]

/-- An environment with a setting, a variable of the program and another one. -/
def partialEnvironment : Environment :=
  [("jellyfin_Server__User_Id", "007"), ("JELLYFIN_CONFIG", "settings.json"), ("HOME", "/root")]

theorem orderly_partialEnvironment : partialEnvironment.IsOrderly := by
  intro m hm
  simp only [partialEnvironment, List.mem_cons, List.not_mem_nil, or_false] at hm
  rcases hm with rfl | rfl | rfl
  · exact .inl ⟨.user, by decide⟩
  · exact .inr fun c => by cases c <;> decide
  · exact .inr fun c => by cases c <;> decide

/-- The file and the environment. -/
def partialLayers : Layers where
  directory := withFile partialFile.compact
  path := some "settings.json"
  env := partialEnvironment
  data := [("server", .table [("token", .scalar (.text "abc")), ("port", .scalar (.int 1))]),
    ("theme", .list [.scalar (.bool true)])]
  reads := by
    refine reads_withFile ?_ rfl
    simp [Json.Fits, Json.FitMembers, Json.FitElements]
  entries := by
    refine List.forall_mem_cons.2 ⟨.table .server _ fun k _ d hd => ?_, ?_⟩
    · have hport : k.key ≠ "port" := by cases k <;> decide
      rcases List.mem_cons.1 hd with hd | hd
      · exact ⟨"abc", (Prod.mk.inj hd).2⟩
      · exact absurd (Prod.mk.inj (List.mem_singleton.1 hd)).1 hport
    · have htheme : ∀ c : Section, "theme" ≠ c.key := fun c => by cases c <;> decide
      exact List.forall_mem_singleton.2 (.unknown "theme" _ (by decide) htheme)
  orderly := orderly_partialEnvironment

/-- The environment alone. -/
def bareLayers : Layers where
  directory := withFile partialFile.compact
  path := none
  env := partialEnvironment
  data := []
  reads := rfl
  entries := nofun
  orderly := orderly_partialEnvironment

/-- What the file does not say stays what it is without the file. -/
theorem partial_file_settles_token :
    ∃ s t, load (withFile partialFile.compact) partialEnvironment (some "settings.json") = .ok s ∧
      load (withFile partialFile.compact) partialEnvironment none = .ok t ∧
      s.get .user = some "7" ∧ s.get .token = some "abc" ∧ s.get .url = default.get .url ∧
      t.get .token = some "" ∧ ∀ k, k ≠ .token → t.get k = s.get k := by
  obtain ⟨s, hs, hget, hother⟩ := layers_settle_each partialLayers
  obtain ⟨t, ht, hsame⟩ := hother bareLayers
  obtain ⟨t', ht', hget', -⟩ := layers_settle_each bareLayers
  obtain rfl : t = t' := Except.ok.inj (ht.symm.trans ht')
  refine ⟨s, t, hs, ht, ?_, ?_, ?_, ?_, fun k hk => hsame k rfl ?_⟩
  · rw [hget]
    rfl
  · rw [hget]
    rfl
  · rw [hget]
    rfl
  · rw [hget']
    rfl
  · cases k <;> first | rfl | exact absurd rfl hk

/-! ### One setting alone -/

/-- The file sets one setting, and nothing else is set. -/
structure Layers.Assigns (a : Layers) (k : Setting) (v : String) : Prop where
  file : ∀ l, given? a.data l = if l = k then some v else none
  env : ∀ l, a.env.value? l = none

/-- Layers with nothing but a file that sets one setting. -/
def Layers.single (k : Setting) (v : String) : Layers where
  directory := withFile (Json.object [(k.home.key, .object [(k.key, .string v)])]).compact
  path := some "settings.json"
  env := []
  data := [(k.home.key, .table [(k.key, .scalar (.text v))])]
  reads := reads_withFile (by simp [Json.Fits, Json.FitMembers]) rfl
  entries := by
    refine List.forall_mem_singleton.2 (.table k.home _ fun l _ d hd => ⟨v, ?_⟩)
    exact (Prod.mk.inj (List.mem_singleton.1 hd)).2
  orderly := nofun

theorem Layers.assigns_single (k : Setting) (v : String) : (Layers.single k v).Assigns k v := by
  refine ⟨fun l => ?_, fun l => rfl⟩
  by_cases hl : l = k
  · subst hl
    simp [single, given?, entryText?, textAt?, Datum.members, Datum.text?]
  · have hkey : k.key ≠ l.key := fun he => hl (Setting.key_injective he).symm
    have hpath : k.home.key ≠ l.path := (Value.path_ne_key l k.home).symm
    simp [single, given?, entryText?, textAt?, Datum.members, hl, hkey, hpath]

/-- Layers that have one setting load as the defaults with this setting. -/
theorem Layers.load_eq {a : Layers} {k : Setting} {v : String}
    (h : ∀ l, ((a.env.value? l).map converted).or (given? a.data l) =
      if l = k then some v else none) :
    load a.directory a.env a.path = .ok (default.put k v) := by
  obtain ⟨s, hs, hget⟩ := a.exists_load
  have hsettings : s = default.put k v := by
    refine ext_get fun l => ?_
    rw [hget l, ← Option.or_assoc, h l]
    by_cases hl : l = k
    · subst hl
      simp
    · simp [hl]
  rw [hs, hsettings]

/-- A file hands on the text that it has. -/
theorem Layers.Assigns.load {a : Layers} {k : Setting} {v : String} (h : a.Assigns k v) :
    Settings.load a.directory a.env a.path = .ok (default.put k v) :=
  a.load_eq fun l => by rw [h.env l, h.file l]; rfl

/-- A variable hands on what its text means. -/
theorem load_variable {k : Setting} {v : String} {env : Environment} (d : Directory)
    (henv : env.IsOrderly) (hvalue : ∀ l, env.value? l = if l = k then some v else none) :
    load d env none = .ok (default.put k (converted v)) := by
  refine Layers.load_eq (a := ⟨d, none, env, [], rfl, nofun, henv⟩) fun l => ?_
  by_cases hl : l = k
  · simp [hl, hvalue, given?]
  · simp [hl, hvalue, given?]

/-- **What arrives of a single variable is what it means**, written out again; and of a file, the
text that stands in it. -/
theorem variable_arrives_converted (k : Setting) (v : String) (d : Directory) (env : Environment)
    (henv : env.IsOrderly) (hvalue : ∀ l, env.value? l = if l = k then some v else none) :
    load d env none = .ok (default.put k (converted v)) ∧
      ((∃ c ∈ v.toList, Decimal.isNumeral c = false) → converted v = v) ∧
      (∃ a : Layers, a.Assigns k v) ∧
      (∀ a : Layers, a.Assigns k v →
        load a.directory a.env a.path = .ok (default.put k v) ∧
        (load d env none = load a.directory a.env a.path ↔
          (∀ b, Environment.lowered v = Scalar.boolText b → v = Scalar.boolText b) ∧
          (∀ n, Decimal.integer? 10 v.toList = some n → v = toString n) ∧
          ∀ x, Decimal.integer? 10 v.toList = none → Decimal.float? v.toList = some x →
            v = Scalar.floatLayout.write x)) := by
  have hload := load_variable d henv hvalue
  have hother : (∃ c ∈ v.toList, Decimal.isNumeral c = false) → converted v = v :=
    fun ⟨_, hc, h⟩ => Environment.converted_of_mem hc h
  refine ⟨hload, hother, ⟨_, Layers.assigns_single k v⟩, fun a ha => ⟨ha.load, ?_⟩⟩
  rw [hload, ha.load, ← Environment.converted_eq_iff]
  constructor
  · intro h
    have hget := congrArg (fun s => s.get k) (Except.ok.inj h)
    simpa using hget
  · intro h
    rw [h]

/-- A variable with a number that has zeros in front. -/
def paddedUser : Environment := [("JELLYFIN_SERVER__USER_ID", "007")]

/-- The zeros are lost on the way from a variable, and stay on the way from a file. -/
theorem padded_user_loses_zeros :
    load .empty paddedUser none = .ok (default.put .user "7") ∧
      ∃ a : Layers, a.Assigns .user "007" ∧
        load a.directory a.env a.path = .ok (default.put .user "007") ∧
        load .empty paddedUser none ≠ load a.directory a.env a.path := by
  have henv : paddedUser.IsOrderly := List.forall_mem_singleton.2 (.inl ⟨.user, by decide⟩)
  obtain ⟨hvariable, -, ⟨a, ha⟩, hfile⟩ := variable_arrives_converted .user "007" .empty paddedUser
    henv fun l => by cases l <;> decide
  have hnumber : Decimal.integer? 10 "007".toList = some 7 := rfl
  obtain ⟨hload, hsame⟩ := hfile a ha
  refine ⟨hvariable, a, ha, hload, fun h => ?_⟩
  exact absurd ((hsame.1 h).2.1 7 hnumber) (by decide)

end MediaTree.Settings
