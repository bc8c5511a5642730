/-
**What the environment says about each setting.**

A variable is a setting if its name is the one of the setting, in any case; if there are several
such variables, the last one counts.  A name that does not begin with a section leads nowhere near
the settings, because a path begins as its key does, and the key as the name of its variable up to
the first dot.  What arrives of a variable is not its text but what the text means, written out
again.

Main definitions:

* `MediaTree.Setting.variable` — the name of the variable of a setting;
* `MediaTree.Environment.IsOrderly` — environments in which every variable is a setting or leads
  elsewhere;
* `MediaTree.Environment.value?` — the text that an environment has for a setting;
* `MediaTree.Environment.converted` — what arrives of a text.

Main results:

* `MediaTree.Value.Spells.environment` — what an environment adds to what is spelled;
* `MediaTree.Environment.converted_eq_iff` — the texts that arrive as they are;
* `MediaTree.Environment.converted_of_mem` — one character that no number has is enough.
-/

import MediaTree.Proofs.Decimal.Reading
import MediaTree.Proofs.Settings.Layers
import MediaTree.Settings.Environment
import Mathlib.Data.List.Induction

set_option autoImplicit false
set_option relaxedAutoImplicit false

namespace MediaTree

/-! ### Tables in which keys differ -/

namespace Table

variable {α : Type} {key other : String} {value : α} {ms : List (String × α)}

theorem get?_eq_none (h : key ∉ ms.map Prod.fst) : get? key ms = none := by
  induction ms with
  | nil => rfl
  | cons m ms ih =>
      simp only [List.map_cons, List.mem_cons, not_or] at h
      rw [get?, if_neg (Ne.symm h.1), ih h.2]

/-- What is put is there, and everything else was there before. -/
theorem mem_put {m : String × α} (h : m ∈ put key value ms) : m = (key, value) ∨ m ∈ ms := by
  induction ms with
  | nil => exact .inl (List.mem_singleton.1 h)
  | cons m' ms ih =>
      unfold put at h
      split at h
      · rename_i hkey
        rcases List.mem_cons.1 h with rfl | h
        · exact .inl (by rw [hkey])
        · exact .inr (List.mem_cons_of_mem _ h)
      · rcases List.mem_cons.1 h with rfl | h
        · exact .inr List.mem_cons_self
        · exact (ih h).imp_right (List.mem_cons_of_mem _)

/-- Keys that differ still do when one is put. -/
theorem nodup_put (h : (ms.map Prod.fst).Nodup) : ((put key value ms).map Prod.fst).Nodup := by
  induction ms with
  | nil => simp [put]
  | cons m ms ih =>
      simp only [List.map_cons, List.nodup_cons] at h
      unfold put
      split
      · simpa using h
      · rename_i hkey
        simp only [List.map_cons, List.nodup_cons]
        refine ⟨fun hmem => ?_, ih h.2⟩
        obtain ⟨m', hm', he⟩ := List.mem_map.1 hmem
        rcases mem_put hm' with rfl | hm'
        · exact hkey he.symm
        · exact h.1 (List.mem_map.2 ⟨m', hm', he⟩)

end Table

/-! ### Names of variables -/

/-- The name of the variable of a setting. -/
def Setting.variable (k : Setting) : String :=
  String.ofList (("jellyfin_" ++ k.home.key ++ "__" ++ k.key).toList.map Char.toUpper)

example : Setting.user.variable = "JELLYFIN_SERVER__USER_ID" := by decide

namespace Environment

/-- A name in lower case. -/
def lower (name : String) : List Char := name.toList.map lowerChar

/-- A variable is the one of a setting, in any case. -/
def Names (name : String) (k : Setting) : Prop := lower name = lower k.variable

instance (name : String) (k : Setting) : Decidable (Names name k) := by
  unfold Names; infer_instance

/-- A variable whose name does not begin with a section. -/
def IsUnrelated (name : String) : Prop :=
  ∀ c : Section, ¬ lead ++ c.key.toList <+: lower name

/-- Every variable is a setting, or its name does not begin with a section. -/
def IsOrderly (env : Environment) : Prop :=
  ∀ m ∈ env, (∃ k, Names m.1 k) ∨ IsUnrelated m.1

/-- The text that an environment has for a setting. -/
def value? (env : Environment) (k : Setting) : Option String :=
  env.reverse.findSome? fun m => if Names m.1 k then some m.2 else none

/-- The key of a variable is made of its name in lower case. -/
theorem key?_eq (name : String) : key? name =
    if lead.isPrefixOf (lower name) then
      some (String.ofList (dotted ((lower name).drop lead.length)))
    else none := rfl

/-- The key of a variable that is a setting is the path of the setting. -/
theorem key?_of_names {name : String} {k : Setting} (h : Names name k) :
    key? name = some k.path := by
  have hk : key? k.variable = some k.path := by cases k <;> decide
  rwa [key?_eq, ← h, ← key?_eq] at hk

/-- A variable is at most one setting. -/
theorem names_iff {name : String} {k l : Setting} (h : Names name k) : Names name l ↔ l = k := by
  constructor
  · intro hl
    have hpath := (key?_of_names hl).symm.trans (key?_of_names h)
    exact Value.path_injective (Option.some_inj.1 hpath)
  · rintro rfl
    exact h

/-- What comes before the first dot was there before dots were put. -/
theorem prefix_of_dotted {w cs : List Char} (hw : '.' ∉ w) (h : w <+: dotted cs) : w <+: cs := by
  induction cs using dotted.induct generalizing w with
  | case1 cs ih =>
      cases w with
      | nil => exact List.nil_prefix
      | cons a w =>
          rw [dotted, List.cons_prefix_cons] at h
          simp [h.1] at hw
  | case2 c cs hne ih =>
      cases w with
      | nil => exact List.nil_prefix
      | cons a w =>
          rw [dotted, List.cons_prefix_cons] at h
          · exact List.cons_prefix_cons.2 ⟨h.1, ih (fun hm => hw (List.mem_cons_of_mem _ hm)) h.2⟩
          · exact hne
  | case3 => exact h

/-- **A variable whose name does not begin with a section leads to none.** -/
theorem root_ne_of_isUnrelated {name key : String} (h : IsUnrelated name)
    (hkey : key? name = some key) (c : Section) : (Path.ofText key).root ≠ c.key := by
  intro hroot
  rw [key?_eq] at hkey
  split at hkey
  · rename_i hlead
    obtain rfl := Option.some_inj.1 hkey
    have hbegin := Path.root_prefix (String.ofList (dotted ((lower name).drop lead.length)))
    rw [hroot, String.toList_ofList] at hbegin
    have hdot : '.' ∉ c.key.toList := by cases c <;> decide
    -- the section stands right behind the prefix
    obtain ⟨rest, hrest⟩ := prefix_of_dotted hdot hbegin
    obtain ⟨tail, htail⟩ := List.isPrefixOf_iff_prefix.1 hlead
    rw [← htail, List.drop_left] at hrest
    exact h c ⟨rest, by rw [List.append_assoc, hrest, htail]⟩
  · cases hkey

theorem not_names_of_isUnrelated {name : String} (h : IsUnrelated name) (k : Setting) :
    ¬ Names name k := by
  intro hk
  refine root_ne_of_isUnrelated h (key?_of_names hk) k.home ?_
  rw [Path.ofText_path]

/-! ### What arrives of a text -/

open Decimal (integer? float? isNumeral)

/-- A text in lower case. -/
def lowered (s : String) : String := String.ofList (s.toList.map Char.toLower)

/-- A text is a truth value, or else a whole number, or else a number, or else a text. -/
theorem scalar_cases (s : String) :
    (∃ b, lowered s = Scalar.boolText b ∧ scalar s = .bool b) ∨
      (∃ n, integer? 10 s.toList = some n ∧ scalar s = .int n) ∨
      (∃ x, integer? 10 s.toList = none ∧ float? s.toList = some x ∧ scalar s = .float x) ∨
      (∀ b, lowered s ≠ Scalar.boolText b) ∧ integer? 10 s.toList = none ∧
        float? s.toList = none ∧ scalar s = .text s := by
  unfold scalar
  split
  · exact .inl ⟨true, ‹_›, rfl⟩
  · exact .inl ⟨false, ‹_›, rfl⟩
  · rename_i htrue hfalse
    cases hn : integer? 10 s.toList with
    | some n => exact .inr (.inl ⟨n, rfl, rfl⟩)
    | none =>
        cases hx : float? s.toList with
        | some x => exact .inr (.inr (.inl ⟨x, rfl, rfl, rfl⟩))
        | none =>
            refine .inr (.inr (.inr ⟨fun b => ?_, rfl, rfl, rfl⟩))
            cases b with
            | true => exact htrue
            | false => exact hfalse

/-- A truth value is no number. -/
theorem not_number_of_truth {s : String} {b : Bool} (h : lowered s = Scalar.boolText b) :
    integer? 10 s.toList = none ∧ float? s.toList = none := by
  have hnamed : Decimal.named? s.toList = none := by
    unfold Decimal.named?
    rw [show String.ofList (s.toList.map Char.toLower) = Scalar.boolText b from h]
    cases b <;> rfl
  have hchars : s.toList.map Char.toLower = (Scalar.boolText b).toList := by
    rw [← h, lowered, String.toList_ofList]
  cases hs : s.toList with
  | nil =>
      rw [hs] at hchars
      cases b <;> exact absurd hchars (by decide)
  | cons c cs =>
      rw [hs] at hchars hnamed
      have hlower : c.toLower = 't' ∨ c.toLower = 'f' := by
        cases b with
        | true => exact .inl (List.cons.inj hchars).1
        | false => exact .inr (List.cons.inj hchars).1
      obtain ⟨hwhole, hfloat⟩ := Decimal.not_number_of_head (Decimal.head_of_toLower hlower) cs
      exact ⟨hwhole, hfloat hnamed⟩

/-- What arrives of a text: what it means, written out. -/
def converted (s : String) : String := (scalar s).text?.getD s

/-- Whatever a text means has a text. -/
theorem text?_scalar (s : String) : (scalar s).text? = some (converted s) := by
  unfold converted
  rcases scalar_cases s with ⟨b, -, h⟩ | ⟨n, -, h⟩ | ⟨x, -, -, h⟩ | ⟨-, -, -, h⟩ <;> rw [h] <;> rfl

/-- **The texts that arrive as they are.**  A truth value does in lower case, and a number as it is
written out; every other text does. -/
theorem converted_eq_iff (s : String) : converted s = s ↔
    (∀ b, lowered s = Scalar.boolText b → s = Scalar.boolText b) ∧
    (∀ n, integer? 10 s.toList = some n → s = toString n) ∧
    ∀ x, integer? 10 s.toList = none → float? s.toList = some x →
      s = Scalar.floatLayout.write x := by
  rcases scalar_cases s with ⟨b, hb, h⟩ | ⟨n, hn, h⟩ | ⟨x, hn, hx, h⟩ | ⟨hb, hn, hx, h⟩
  · have hc : converted s = Scalar.boolText b := by rw [converted, h]; rfl
    obtain ⟨hn, hx⟩ := not_number_of_truth hb
    rw [hc, eq_comm]
    constructor
    · intro hs
      refine ⟨fun b' hb' => ?_, by simp [hn], by simp [hx]⟩
      rwa [← hb', hb]
    · exact fun hs => hs.1 b hb
  · have hc : converted s = toString n := by rw [converted, h]; rfl
    have hb : ∀ b, lowered s ≠ Scalar.boolText b := by
      intro b hb
      rw [(not_number_of_truth hb).1] at hn
      cases hn
    simp [hb, hn, hc, eq_comm]
  · have hc : converted s = Scalar.floatLayout.write x := by rw [converted, h]; rfl
    have hb : ∀ b, lowered s ≠ Scalar.boolText b := by
      intro b hb
      rw [(not_number_of_truth hb).2] at hx
      cases hx
    simp [hb, hn, hx, hc, eq_comm]
  · have hc : converted s = s := by rw [converted, h]; rfl
    simp [hb, hn, hx, hc]

/-- **One character that no number has is enough** for a text to arrive as it is. -/
theorem converted_of_mem {s : String} {c : Char} (hc : c ∈ s.toList) (h : isNumeral c = false) :
    converted s = s := by
  rw [converted_eq_iff]
  refine ⟨fun b hb => ?_, fun n hn => ?_, fun x _ hx => ?_⟩
  · have hletter := Decimal.isAlphanum_of_lowered hb (by cases b <;> decide) c hc
    simp [isNumeral, hletter] at h
  · simp [Decimal.isNumeral_of_integer? hn c hc] at h
  · simp [Decimal.isNumeral_of_float? hx c hc] at h

/-! ### The layer -/

/-- One more variable puts its value at its key. -/
theorem layer_concat (env : Environment) (m : String × String) : layer (env ++ [m]) =
    match key? m.1 with
    | some key => Table.put key (.scalar (some origin) (scalar m.2)) env.layer
    | none => env.layer := by
  unfold layer
  rw [List.foldl_append]
  rfl

theorem value?_concat (env : Environment) (m : String × String) (k : Setting) :
    value? (env ++ [m]) k = if Names m.1 k then some m.2 else env.value? k := by
  unfold value?
  rw [List.reverse_concat, List.findSome?_cons]
  by_cases h : Names m.1 k <;> simp [h]

/-- The keys of the layer differ. -/
theorem nodup_layer (env : Environment) : (env.layer.map Prod.fst).Nodup := by
  induction env using List.reverseRecOn with
  | nil => exact List.nodup_nil
  | append_singleton env m ih =>
      rw [layer_concat]
      split
      · exact Table.nodup_put ih
      · exact ih

/-- Every member of the layer comes from a variable. -/
theorem mem_layer {env : Environment} {x : String × Value} (h : x ∈ env.layer) :
    ∃ m ∈ env, key? m.1 = some x.1 ∧ x.2 = .scalar (some origin) (scalar m.2) := by
  induction env using List.reverseRecOn with
  | nil => cases h
  | append_singleton env m ih =>
      have hold (h : x ∈ layer env) : ∃ m' ∈ env ++ [m], key? m'.1 = some x.1 ∧
          x.2 = .scalar (some origin) (scalar m'.2) := by
        obtain ⟨m', hm', hx⟩ := ih h
        exact ⟨m', List.mem_append_left _ hm', hx⟩
      rw [layer_concat] at h
      split at h
      · rename_i key hkey
        rcases Table.mem_put h with rfl | h
        · exact ⟨m, by simp, hkey, rfl⟩
        · exact hold h
      · exact hold h

/-- **What the layer holds for a setting** is what the last variable of the setting means. -/
theorem get?_layer {env : Environment} (h : env.IsOrderly) (k : Setting) :
    Table.get? k.path env.layer =
      (env.value? k).map fun s => .scalar (some origin) (scalar s) := by
  induction env using List.reverseRecOn with
  | nil => rfl
  | append_singleton env m ih =>
      have hold := ih fun m' hm' => h m' (List.mem_append_left _ hm')
      rw [layer_concat, value?_concat]
      rcases h m (by simp) with ⟨l, hl⟩ | hm
      · rw [key?_of_names hl]
        by_cases hk : k = l
        · subst hk
          simp [hl]
        · have hne : k.path ≠ l.path := fun he => hk (Value.path_injective he)
          simp [hne, names_iff hl, hk, hold]
      · have hk := not_names_of_isUnrelated hm k
        rw [if_neg hk, ← hold]
        split
        · rename_i key hkey
          refine Table.get?_put_of_ne fun he => ?_
          refine root_ne_of_isUnrelated hm hkey k.home ?_
          rw [← he, Path.ofText_path]
        · rfl

end Environment

namespace Value

variable {v : Value} {f : Setting → Option String}

/-- A layer with different keys, each the path of a setting or outside the sections, adds what it
says at the paths. -/
theorem Spells.paths {ms : List (String × Value)} {g : Setting → Option String} (h : v.Spells f)
    (hnodup : (ms.map Prod.fst).Nodup)
    (hkeys : ∀ m ∈ ms,
      (∃ k : Setting, m.1 = k.path) ∨ ∀ c : Section, (Path.ofText m.1).root ≠ c.key)
    (hget : ∀ k : Setting, Says (Table.get? k.path ms) (g k)) :
    (v.layer ms).Spells fun k => (g k).or (f k) := by
  induction ms generalizing v f g with
  | nil =>
      refine h.congr fun k => ?_
      rw [(hget k).of_none, Option.none_or]
  | cons m ms ih =>
      obtain ⟨key, new⟩ := m
      simp only [List.map_cons, List.nodup_cons] at hnodup
      have htail := fun m hm => hkeys m (List.mem_cons_of_mem _ hm)
      rcases hkeys (key, new) List.mem_cons_self with ⟨k, rfl⟩ | hroot
      · have hk := hget k
        rw [Table.get?, if_pos rfl] at hk
        obtain ⟨o, s, rfl, hs, hsome⟩ := hk.of_some
        obtain ⟨t, ht⟩ := Option.isSome_iff_exists.1 hsome
        -- no later member is at this path
        have hlater : ∀ l : Setting,
            Says (Table.get? l.path ms) (if l = k then none else g l) := by
          intro l
          by_cases hl : l = k
          · subst hl
            rw [if_pos rfl, Table.get?_eq_none hnodup.1]
            rfl
          · have hne : k.path ≠ l.path := fun he => hl (path_injective he).symm
            have hl' := hget l
            rw [Table.get?, if_neg hne] at hl'
            rwa [if_neg hl]
        refine (ih (h.single (hs.trans ht) o) hnodup.2 htail hlater).congr fun l => ?_
        by_cases hl : l = k
        · subst hl
          simp [ht]
        · simp [hl]
      · refine ih (h.foreign hroot new) hnodup.2 htail fun l => ?_
        have hne : key ≠ l.path := by
          rintro rfl
          exact hroot l.home (by rw [Path.ofText_path])
        have hl := hget l
        rwa [Table.get?, if_neg hne] at hl

/-- **An environment adds what arrives of its texts.** -/
theorem Spells.environment {env : Environment} (h : v.Spells f) (henv : env.IsOrderly) :
    (v.layer env.layer).Spells fun k => ((env.value? k).map Environment.converted).or (f k) := by
  refine h.paths env.nodup_layer ?_ ?_
  · intro x hx
    obtain ⟨m, hm, hkey, -⟩ := Environment.mem_layer hx
    rcases henv m hm with ⟨k, hk⟩ | hm
    · exact .inl ⟨k, Option.some_inj.1 (hkey.symm.trans (Environment.key?_of_names hk))⟩
    · exact .inr (Environment.root_ne_of_isUnrelated hm hkey)
  · intro k
    rw [Environment.get?_layer henv]
    cases env.value? k with
    | none => rfl
    | some s => exact ⟨_, _, rfl, Environment.text?_scalar s⟩

end Value

end MediaTree
