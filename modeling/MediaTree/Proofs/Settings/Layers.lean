/-
**What a tree of layers says about each setting.**

Layers are merged into a tree of tables, and the tree is read section by section.  What is proved of
this tree is one statement, `MediaTree.Value.Spells`: every section that is there is a table, and
every setting has the text that it should have, or is not there at all.  The empty tree spells
nothing; each entry of a layer adds to what is spelled; and a tree that spells some settings is read
as these, over the defaults.

An entry says nothing about a setting, or it gives its text.  A later entry has precedence, so what
entries say is put together by `Option.or`, the later one in front.

Main definitions:

* `MediaTree.Value.setting?` — what a tree holds for a setting;
* `MediaTree.Value.Spells` — the texts that a tree has for the settings;
* `MediaTree.Settings.IsEntry` — the entries that a file of settings may have;
* `MediaTree.Settings.given?` — the text that the entries of a file give to a setting.

Main results:

* `MediaTree.Value.Spells.single`, `MediaTree.Value.Spells.table`, `MediaTree.Value.Spells.foreign`
  — what one entry adds;
* `MediaTree.Value.Spells.file` — what a file adds;
* `MediaTree.Value.Spells.ofValue` — a tree is read as what it spells.
-/

import MediaTree.Proofs.Settings.Path
import MediaTree.Settings.Conversion

set_option autoImplicit false
set_option relaxedAutoImplicit false

namespace MediaTree

/-- The last one that there is counts. -/
theorem findSome?_reverse_cons {α β : Type} (f : α → Option β) (a : α) (as : List α) :
    (a :: as).reverse.findSome? f = (as.reverse.findSome? f).or (f a) := by
  simp [List.findSome?_append]

theorem Section.key_injective {c d : Section} (h : c.key = d.key) : c = d := by
  cases c <;> cases d <;> first | rfl | exact absurd h (by decide)

/-- Settings of one section have different keys. -/
theorem Setting.key_injective {k l : Setting} (hkey : k.key = l.key) : k = l := by
  cases k <;> cases l <;> first | rfl | exact absurd hkey (by decide)

namespace Value

/-! ### Trees that spell settings -/

/-- What a tree holds for a setting. -/
def setting? (v : Value) (k : Setting) : Option Value :=
  (v.member? k.home.key).bind fun w => w.member? k.key

/-- What is there is a scalar with a text; or nothing is there. -/
def Says (x : Option Value) : Option String → Prop
  | none => x = none
  | some t => ∃ o s, x = some (.scalar o s) ∧ s.text? = some t

theorem Says.of_none {t : Option String} (h : Says none t) : t = none := by
  cases t with
  | none => rfl
  | some t =>
      obtain ⟨o, s, hs, ht⟩ := h
      cases hs

theorem Says.of_some {w : Value} {t : Option String} (h : Says (some w) t) :
    ∃ o s, w = .scalar o s ∧ s.text? = t ∧ t.isSome := by
  cases t with
  | none => cases h
  | some t =>
      obtain ⟨o, s, hs, ht⟩ := h
      exact ⟨o, s, Option.some_inj.1 hs, ht, rfl⟩

/-- A value is a table. -/
def IsTable (v : Value) : Prop := ∃ o ms, v = .table o ms

/-- A tree has certain texts for the settings, and nothing else that could be read for one. -/
structure Spells (v : Value) (f : Setting → Option String) : Prop where
  tables : ∀ c : Section, ∀ w, v.member? c.key = some w → w.IsTable
  settings : ∀ k, Says (v.setting? k) (f k)

theorem isTable_alter (key : String) (f : Option Value → Value) (v : Value) :
    (v.alter key f).IsTable := ⟨_, _, rfl⟩

theorem spells_empty : empty.Spells fun _ => none :=
  ⟨nofun, fun _ => rfl⟩

variable {v : Value} {f : Setting → Option String}

theorem Spells.congr {f' : Setting → Option String} (h : v.Spells f) (hf : ∀ k, f k = f' k) :
    v.Spells f' := by
  obtain rfl : f = f' := funext hf
  exact h

/-- The table of a section, or the empty one if the section is not there. -/
theorem Spells.section (h : v.Spells f) (c : Section) :
    ((v.member? c.key).getD empty).IsTable ∧
      ∀ k : Setting, k.home = c → Says (((v.member? c.key).getD empty).member? k.key) (f k) := by
  refine ⟨?_, ?_⟩
  · cases hw : v.member? c.key with
    | none => exact ⟨_, _, rfl⟩
    | some w => exact h.tables c w hw
  · rintro k rfl
    have hk := h.settings k
    unfold setting? at hk
    cases hw : v.member? k.home.key with
    | none =>
        rw [hw] at hk
        exact hk
    | some w =>
        rw [hw] at hk
        exact hk

/-- The table of a section is replaced. -/
theorem Spells.alter {c : Section} {g : Option Value → Value} {f' : Setting → Option String}
    (h : v.Spells f) (htable : (g (v.member? c.key)).IsTable)
    (hhome : ∀ k : Setting, k.home = c → Says ((g (v.member? c.key)).member? k.key) (f' k))
    (hother : ∀ k : Setting, k.home ≠ c → f' k = f k) : (v.alter c.key g).Spells f' := by
  constructor
  · intro d w hw
    by_cases hd : d = c
    · subst hd
      rw [member?_alter_self] at hw
      exact Option.some_inj.1 hw ▸ htable
    · rw [member?_alter_of_ne fun he => hd (Section.key_injective he)] at hw
      exact h.tables d w hw
  · intro k
    unfold setting?
    by_cases hk : k.home = c
    · rw [hk, member?_alter_self]
      exact hhome k hk
    · rw [member?_alter_of_ne fun he => hk (Section.key_injective he), hother k hk]
      exact h.settings k

/-! ### One entry -/

/-- **An entry outside the sections adds nothing.** -/
theorem Spells.foreign {key : String} (h : v.Spells f)
    (hroot : ∀ c : Section, (Path.ofText key).root ≠ c.key) (new : Value) :
    (v.assign key new).Spells f := by
  have hmember : ∀ c : Section, (v.assign key new).member? c.key = v.member? c.key := by
    intro c
    unfold assign Path.allSteps
    cases (Path.ofText key).steps with
    | nil => exact member?_alter_of_ne (hroot c).symm
    | cons s steps => exact member?_alter_of_ne (hroot c).symm
  refine ⟨fun c w hw => h.tables c w (hmember c ▸ hw), fun k => ?_⟩
  have hk := h.settings k
  unfold setting? at hk ⊢
  rwa [hmember]

/-- **An entry at the path of a setting gives this setting its text.** -/
theorem Spells.single {k : Setting} {s : Scalar} {t : String} (h : v.Spells f)
    (ht : s.text? = some t) (o : Option String) :
    (v.assign k.path (.scalar o s)).Spells fun l => (if l = k then some t else none).or (f l) := by
  have hassign : v.assign k.path (.scalar o s) = v.alter k.home.key fun old =>
      (old.getD missing).alter k.key fun _ => .scalar o s := by
    unfold assign
    rw [Path.ofText_path]
    rfl
  rw [hassign]
  refine h.alter (isTable_alter _ _ _) ?_ ?_
  · intro l hl
    by_cases hlk : l = k
    · subst hlk
      rw [member?_alter_self]
      simp only [if_true, Option.some_or]
      exact ⟨o, s, rfl, ht⟩
    · rw [member?_alter_of_ne fun he => hlk (Setting.key_injective he)]
      have hsay := (h.section l.home).2 l rfl
      rw [hl] at hsay
      simp only [if_neg hlk, Option.none_or]
      -- what stands for a missing section has no members either
      cases hw : v.member? k.home.key with
      | none =>
          rw [hw] at hsay
          exact hsay
      | some w =>
          rw [hw] at hsay
          exact hsay
  · rintro l hl
    have hlk : l ≠ k := fun he => hl (congrArg Setting.home he)
    simp [if_neg hlk]

end Value

/-! ### The entries of a file -/

/-- The text that a datum is. -/
def Datum.text? : Datum → Option String
  | .scalar (.text t) => some t
  | _ => none

/-- The members of a datum; only tables have any. -/
def Datum.members : Datum → List (String × Datum)
  | .table ms => ms
  | _ => []

namespace Settings

/-- The text that members give to a key. -/
def textAt? (key : String) (ms : List (String × Datum)) : Option String :=
  ms.reverse.findSome? fun m => if m.1 = key then m.2.text? else none

/-- The text that an entry gives to a setting: in the table of its section, or at its path. -/
def entryText? (k : Setting) (e : String × Datum) : Option String :=
  if e.1 = k.home.key then textAt? k.key e.2.members
  else if e.1 = k.path then e.2.text?
  else none

/-- The text that the entries of a file give to a setting. -/
def given? (data : List (String × Datum)) (k : Setting) : Option String :=
  data.reverse.findSome? (entryText? k)

/-- An entry that a file of settings may have.  It is a section, in which the settings that there
are have texts and any other keys any values; or a single setting with a text, at its path; or a key
that is unknown, with any value.  An unknown key outside the sections has no dots and brackets:
letters, digits and underscores of any script do. -/
inductive IsEntry : String × Datum → Prop
  | table (c : Section) (ms : List (String × Datum))
      (h : ∀ k : Setting, k.home = c → ∀ d, (k.key, d) ∈ ms → ∃ t, d = .scalar (.text t)) :
      IsEntry (c.key, .table ms)
  | single (k : Setting) (t : String) : IsEntry (k.path, .scalar (.text t))
  | unknown (key : String) (d : Datum) (hplain : Path.IsPlain key)
      (h : ∀ c : Section, key ≠ c.key) : IsEntry (key, d)

end Settings

namespace Value

open Settings (textAt? entryText? given? IsEntry)

variable {v : Value} {f : Setting → Option String}

/-- Members that are put into the table of a section add the texts of its settings. -/
theorem mergeMembers_spells {c : Section} {ms : List (String × Datum)} (o : Option String)
    (hms : ∀ k : Setting, k.home = c → ∀ d, (k.key, d) ∈ ms → ∃ t, d = .scalar (.text t))
    {w : Value} (hw : w.IsTable)
    (hsaid : ∀ k : Setting, k.home = c → Says (w.member? k.key) (f k)) :
    (mergeMembers w (ofMembers o ms)).IsTable ∧
      ∀ k : Setting, k.home = c →
        Says ((mergeMembers w (ofMembers o ms)).member? k.key) ((textAt? k.key ms).or (f k)) := by
  induction ms generalizing w f with
  | nil => exact ⟨hw, hsaid⟩
  | cons m ms ih =>
      obtain ⟨key, d⟩ := m
      have htail : ∀ k : Setting, k.home = c → ∀ d, (k.key, d) ∈ ms → ∃ t, d = .scalar (.text t) :=
        fun k hk d hd => hms k hk d (List.mem_cons_of_mem _ hd)
      -- one member is put, and the others into the table that this leaves
      have hone : ∀ k : Setting, k.home = c →
          Says ((w.alter key fun old => merged old (ofDatum o d)).member? k.key)
            ((if key = k.key then d.text? else none).or (f k)) := by
        intro k hk
        by_cases hkey : key = k.key
        · subst hkey
          obtain ⟨t, rfl⟩ := hms k hk d List.mem_cons_self
          rw [member?_alter_self, if_pos rfl]
          exact ⟨o, .text t, rfl, rfl⟩
        · rw [member?_alter_of_ne (Ne.symm hkey), if_neg hkey]
          exact hsaid k hk
      obtain ⟨htable, hall⟩ := ih htail (isTable_alter _ _ _) hone
      refine ⟨htable, fun k hk => ?_⟩
      have hk := hall k hk
      rw [← Option.or_assoc] at hk
      unfold textAt? at hk ⊢
      rwa [findSome?_reverse_cons]

/-- **The table of a section gives its settings their texts.** -/
theorem Spells.table {c : Section} {ms : List (String × Datum)} (h : v.Spells f)
    (hms : ∀ k : Setting, k.home = c → ∀ d, (k.key, d) ∈ ms → ∃ t, d = .scalar (.text t))
    (o : Option String) :
    (v.assign c.key (.table o (ofMembers o ms))).Spells fun k =>
      (if k.home = c then textAt? k.key ms else none).or (f k) := by
  have hassign : v.assign c.key (.table o (ofMembers o ms)) = v.alter c.key fun old =>
      mergeMembers (old.getD empty) (ofMembers o ms) := by
    unfold assign
    rw [Path.ofText_key]
    rfl
  rw [hassign]
  obtain ⟨htable, hsaid⟩ := h.section c
  obtain ⟨htable', hsaid'⟩ := mergeMembers_spells o hms htable hsaid
  refine h.alter htable' (fun k hk => ?_) fun k hk => by simp [hk]
  simpa [hk] using hsaid' k hk

/-- No path of a setting is the key of a section. -/
theorem path_ne_key (k : Setting) (c : Section) : k.path ≠ c.key := by
  cases k <;> cases c <;> decide

/-- Settings have different paths. -/
theorem path_injective {k l : Setting} (h : k.path = l.path) : k = l := by
  have hpath : (⟨k.home.key, [.key k.key]⟩ : Path) = ⟨l.home.key, [.key l.key]⟩ := by
    rw [← Path.ofText_path, ← Path.ofText_path, h]
  simp only [Path.mk.injEq, List.cons.injEq, Step.key.injEq] at hpath
  exact Setting.key_injective hpath.2.1

/-- **An entry of a file adds the texts that it gives.** -/
theorem Spells.entry {e : String × Datum} (h : v.Spells f) (he : IsEntry e) (o : Option String) :
    (v.assign e.1 (ofDatum o e.2)).Spells fun k => (entryText? k e).or (f k) := by
  cases he with
  | table c ms hms =>
      refine (h.table hms o).congr fun k => ?_
      by_cases hk : k.home = c
      · simp [entryText?, hk, Datum.members]
      · have hne : c.key ≠ k.home.key := fun he => hk (Section.key_injective he).symm
        simp [entryText?, hk, hne, (path_ne_key k c).symm]
  | single k t =>
      refine (h.single (k := k) (s := .text t) rfl o).congr fun l => ?_
      by_cases hl : l = k
      · subst hl
        simp [entryText?, path_ne_key, Datum.text?]
      · have hne : k.path ≠ l.path := fun he => hl (path_injective he).symm
        simp [entryText?, path_ne_key, hl, hne]
  | unknown key d hplain hkey =>
      have hroot : ∀ c : Section, (Path.ofText key).root ≠ c.key := by
        intro c
        rw [Path.ofText_of_plain hplain]
        exact hkey c
      refine (h.foreign hroot (ofDatum o d)).congr fun k => ?_
      have hpath : key ≠ k.path := by
        rintro rfl
        exact hroot k.home (by rw [Path.ofText_path])
      simp [entryText?, hkey k.home, hpath]

/-- **A file adds the texts that its entries give.** -/
theorem Spells.file {data : List (String × Datum)} (h : v.Spells f) (hdata : ∀ e ∈ data, IsEntry e)
    (o : Option String) :
    (v.layer (ofMembers o data)).Spells fun k => (given? data k).or (f k) := by
  induction data generalizing v f with
  | nil => exact h
  | cons e data ih =>
      have hstep := h.entry (hdata e List.mem_cons_self) o
      have htail := ih hstep fun e' he' => hdata e' (List.mem_cons_of_mem e he')
      refine htail.congr fun k => ?_
      rw [← Option.or_assoc]
      unfold given?
      rw [findSome?_reverse_cons]

end Value

/-! ### Trees as settings -/

namespace Settings

open Value (Says)

/-- A section is read as what it says, over settings that hold already. -/
theorem ofMembers_spells (home : String) {ms : List (String × Value)} {f : Setting → Option String}
    {ks : List Setting} (h : ∀ k ∈ ks, Says (Table.get? k.key ms) (f k)) (s : Settings) :
    ∃ s', ofMembers home ms ks s = .ok s' ∧
      ∀ l, s'.get l = if l ∈ ks then (f l).or (s.get l) else s.get l := by
  induction ks generalizing s with
  | nil => exact ⟨s, rfl, by simp⟩
  | cons k ks ih =>
      have htail : ∀ l ∈ ks, Says (Table.get? l.key ms) (f l) :=
        fun l hl => h l (List.mem_cons_of_mem k hl)
      have hk := h k List.mem_cons_self
      cases hf : f k with
      | none =>
          rw [hf] at hk
          obtain ⟨s', hs', hget⟩ := ih htail s
          have hnone : Table.get? k.key ms = none := hk
          refine ⟨s', by simpa only [ofMembers, hnone] using hs', ?_⟩
          intro l
          rw [hget l]
          by_cases hl : l = k
          · subst hl
            simp [hf]
          · simp [hl]
      | some t =>
          rw [hf] at hk
          obtain ⟨o, sc, hx, ht⟩ := hk
          obtain ⟨s', hs', hget⟩ := ih htail (s.put k t)
          have hentry : s.ofEntry k (home ++ "." ++ k.key) (.scalar o sc) = .ok (s.put k t) := by
            have hnull : (Value.scalar o sc).isNull = false := by
              cases sc with
              | null => cases ht
              | _ => rfl
            simp [ofEntry, hnull, Value.text, ht, Except.map]
          refine ⟨s', by simp only [ofMembers, hx, hentry]; exact hs', ?_⟩
          intro l
          rw [hget l]
          by_cases hl : l = k
          · subst hl
            simp [hf]
          · simp [hl]

/-- Sections are read one after the other. -/
theorem ofSections_spells {v : Value} {f : Setting → Option String} (h : v.Spells f)
    (cs : List Section) (s : Settings) :
    ∃ s', ofSections v cs s = .ok s' ∧
      ∀ l : Setting, s'.get l = if l.home ∈ cs then (f l).or (s.get l) else s.get l := by
  induction cs generalizing s with
  | nil => exact ⟨s, rfl, by simp⟩
  | cons c cs ih =>
      obtain ⟨⟨o, ms, htable⟩, hsaid⟩ := h.section c
      have hms : ∀ k ∈ c.settings, Says (Table.get? k.key ms) (f k) := by
        intro k hk
        have hk := hsaid k ((Setting.mem_settings_iff k c).1 hk)
        rwa [htable] at hk
      obtain ⟨s₁, hs₁, hget₁⟩ := ofMembers_spells c.key hms s
      have hsection : ofSections v (c :: cs) s = ofSections v cs s₁ := by
        cases hw : v.member? c.key with
        | none =>
            -- nothing is said about the section, so nothing changes
            rw [hw] at htable
            obtain rfl : ms = [] := by cases htable; rfl
            have hnothing : ∀ ks s, ofMembers c.key [] ks s = .ok s := by
              intro ks
              induction ks with
              | nil => exact fun s => rfl
              | cons k ks ih => exact ih
            obtain rfl : s = s₁ := Except.ok.inj ((hnothing _ _).symm.trans hs₁)
            simp only [ofSections, hw]
        | some w =>
            rw [hw] at htable
            obtain rfl : w = .table o ms := htable
            simp only [ofSections, hw, ofSection, hs₁]
            rfl
      obtain ⟨s₂, hs₂, hget₂⟩ := ih s₁
      refine ⟨s₂, hsection.trans hs₂, fun l => ?_⟩
      rw [hget₂ l, hget₁ l]
      simp only [Setting.mem_settings_iff, List.mem_cons]
      by_cases hl : l.home = c <;> by_cases hcs : l.home ∈ cs <;> cases f l <;> simp [hl, hcs]

end Settings

/-- **A tree is read as what it spells**, over the defaults. -/
theorem Value.Spells.ofValue {v : Value} {f : Setting → Option String} (h : v.Spells f) :
    ∃ s, Settings.ofValue v = .ok s ∧ ∀ k, s.get k = (f k).or (Settings.default.get k) := by
  obtain ⟨s, hs, hget⟩ := Settings.ofSections_spells h Section.all Settings.default
  refine ⟨s, hs, fun k => ?_⟩
  have hhome : k.home ∈ Section.all := by cases k <;> decide
  rw [hget k, if_pos hhome]

end MediaTree
